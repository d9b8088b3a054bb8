/-
# Open collections

Walking over a stream of tokens, a rule can ask which collections are open and
which keys each of them has had so far.  A collection end closes the innermost
open collection, whatever its kind.  Two things can be wrong with a stream: an
end with nothing to close, and a stream that ends inside a collection.  Both
leave the open collections as they were, so a walk can go on after them.
-/

import YamlStyle.Document

namespace YamlStyle

/-- What a collection holds: keys with values, or entries. -/
inductive CollectionKind where
  | mapping
  | sequence
  deriving DecidableEq, Repr

/-- The name of a kind of collection. -/
def CollectionKind.name : CollectionKind → String
  | .mapping => "mapping"
  | .sequence => "sequence"

/-- The kind of collection a token opens. -/
def TokenKind.opens? : TokenKind → Option CollectionKind
  | .blockMappingStart | .flowMappingStart => some .mapping
  | .blockSequenceStart | .flowSequenceStart => some .sequence
  | _ => none

/-- What can be wrong with a stream of tokens. -/
inductive StreamError where
  | unmatchedEnd (kind : TokenKind) (place : Mark)
  | unclosedCollections (depth : Nat) (place : Mark)
  deriving DecidableEq, Repr

/-- The wording of a stream error. -/
def StreamError.message : StreamError → String
  | .unmatchedEnd kind place =>
    s!"{kind.name} at {place.render} closes a collection that was never opened"
  | .unclosedCollections depth place =>
    s!"stream ended at {place.render} with {depth} unclosed collection(s)"

/-- An open collection with the keys recorded in it, in order. -/
structure Frame where
  kind : CollectionKind
  keys : List String
  deriving DecidableEq, Repr

/-- The key that merges another mapping in, which is no key of its own. -/
def mergeKey : String := "<<"

/-- The scalar that a key token announces, unless it is the merge key. -/
def Window.key? (w : Window) : Option (String × Token) :=
  match w.kind, w.next with
  | .key, some ⟨.scalar text style, start, stop⟩ =>
    if text = mergeKey then none else some (text, ⟨.scalar text style, start, stop⟩)
  | _, _ => none

/-- The open collections, innermost first. -/
structure Nesting where
  frames : List Frame
  deriving DecidableEq, Repr

/-- A key met directly inside a mapping. -/
structure KeyVisit where
  key : String
  /-- The scalar that spells the key. -/
  scalar : Token
  /-- The keys recorded in the mapping before. -/
  earlier : List String
  deriving DecidableEq, Repr

namespace Nesting

/-- No collection is open. -/
def empty : Nesting := ⟨[]⟩

/-- The number of open collections. -/
def depth (n : Nesting) : Nat := n.frames.length

/-- The open collections after a token. -/
def advance (n : Nesting) (t : Token) : Except StreamError Nesting :=
  match t.kind.opens? with
  | some kind => .ok ⟨⟨kind, []⟩ :: n.frames⟩
  | none =>
    if t.kind.endsCollection then
      match n.frames with
      | [] => .error (.unmatchedEnd t.kind t.start)
      | _ :: outer => .ok ⟨outer⟩
    else if t.kind = .streamEnd ∧ n.frames ≠ [] then
      .error (.unclosedCollections n.depth t.start)
    else .ok n

/-- The key at a window, if it stands directly inside a mapping. -/
def visit? (n : Nesting) (w : Window) : Option KeyVisit :=
  match n.frames, w.key? with
  | ⟨.mapping, keys⟩ :: _, some (key, scalar) => some ⟨key, scalar, keys⟩
  | _, _ => none

/-- Adds a key to the innermost open collection. -/
def record (n : Nesting) (key : String) : Nesting :=
  match n.frames with
  | [] => n
  | frame :: outer => ⟨{ frame with keys := frame.keys ++ [key] } :: outer⟩

end Nesting

/-- Which of the keys it visits a walk records. -/
inductive Recording where
  | always
  /-- The keys that the mapping does not have yet. -/
  | unseen
  | never
  deriving DecidableEq, Repr

/-- Whether a key that is visited is to be recorded. -/
def Recording.records (policy : Recording) (v : KeyVisit) : Bool :=
  match policy with
  | always => true
  | unseen => !v.earlier.contains v.key
  | never => false

namespace Nesting

/-- One token of a walk that records keys: the open collections after it, and
the key it visits. -/
def track (policy : Recording) (n : Nesting) (w : Window) :
    Except StreamError (Nesting × Option KeyVisit) := do
  let n ← n.advance w.token
  match n.visit? w with
  | none => return (n, none)
  | some v => return (if policy.records v then n.record v.key else n, some v)

/-- A walk over windows, with the open collections after each.  After an error
it goes on with those it had. -/
def trackAll (policy : Recording) : Nesting → List Window →
    List (Nesting × Except StreamError (Option KeyVisit))
  | _, [] => []
  | n, w :: ws =>
    match n.track policy w with
    | .ok (next, visit) => (next, .ok visit) :: trackAll policy next ws
    | .error e => (n, .error e) :: trackAll policy n ws

end Nesting
end YamlStyle
