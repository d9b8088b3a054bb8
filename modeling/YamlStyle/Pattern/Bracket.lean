/-
# Bracket expressions

The text between `[` and `]`: characters, ranges, classes, brackets inside
brackets, and the operations `&&`, `--` and `~~`, which take everything before
them as their left side.  Hyphens right after the opening, or a closing bracket
as the very first character, stand for themselves, so a set can not be written
empty.
-/

import YamlStyle.Pattern.Escape

namespace YamlStyle
namespace Pattern

/-- The operations between the parts of a bracket expression. -/
inductive SetOperation where
  | intersection
  | difference
  | symmetricDifference
  deriving DecidableEq, Repr

/-- Applies an operation. -/
def SetOperation.apply : SetOperation → CharSet → CharSet → CharSet
  | intersection => .inter
  | difference => .diff
  | symmetricDifference => .symmDiff

/-- An open bracket with what has been read in it. -/
structure Bracket where
  negated : Bool
  /-- An operation that waits for its right side. -/
  pending : Option (CharSet × SetOperation)
  /-- The characters since the opening or the last operation. -/
  members : CharSet
  deriving DecidableEq, Repr

namespace Bracket

/-- Adds characters. -/
def add (b : Bracket) (s : CharSet) : Bracket := { b with members := .union b.members s }

/-- What has been read, with a waiting operation applied. -/
def combined (f : Flags) (b : Bracket) : CharSet :=
  match b.pending with
  | none => b.members
  | some (left, operation) => operation.apply (f.fold left) (f.fold b.members)

/-- Starts the right side of an operation. -/
def operate (f : Flags) (b : Bracket) (operation : SetOperation) : Bracket :=
  { b with pending := some (b.combined f, operation), members := .empty }

/-- The set of a bracket that is closed.  Without Unicode it must not reach
beyond code point 127. -/
def close (f : Flags) (b : Bracket) : Option CharSet :=
  let set := f.fold (b.combined f)
  if b.negated then if f.unicode then some (.compl set) else none else some set

/-- Reads hyphens that stand for themselves. -/
def leadingHyphens (f : Flags) : Nat → Bracket → List Char → Bracket × List Char
  | 0, b, s => (b, s)
  | fuel + 1, b, s =>
    match s with
    | '-' :: t => leadingHyphens f fuel (b.add (.single '-')) (f.skip t)
    | _ => (b, s)

/-- Reads what can follow an opening bracket only. -/
def opening (f : Flags) (s : List Char) : Bracket × List Char :=
  let s := f.skip s
  let (negated, s) :=
    match s with
    | '^' :: t => (true, f.skip t)
    | _ => (false, s)
  let start : Bracket := ⟨negated, none, .empty⟩
  let (b, rest) := leadingHyphens f s.length start s
  match b.members, rest with
  | .empty, ']' :: t => (b.add (.single ']'), f.skip t)
  | _, _ => (b, rest)

/-- A class with a name such as `[:digit:]`, if one stands here. -/
def namedClass? (f : Flags) : List Char → Option (CharSet × List Char)
  | '[' :: ':' :: s =>
    let (negated, s) :=
      match s with
      | '^' :: t => (true, t)
      | _ => (false, s)
    let name := s.takeWhile (· != ':')
    match s.dropWhile (· != ':'), CharSet.bracketClass? (String.ofList name) with
    | ':' :: ']' :: rest, some set =>
      let set := f.fold set
      some (if negated then .compl set else set, rest)
    | _, _ => none
  | _ => none

/-- A character or an escape. -/
def readAtom (f : Flags) : List Char → Option (Escape × List Char)
  | [] => none
  | '\\' :: s => Escape.read f s
  | c :: s => some (.literal c, s)

/-- The set of a single part; a condition is none. -/
def atomSet? (f : Flags) : Escape → Option CharSet
  | .literal c => if f.unicode ∨ c.toNat < 0x80 then some (.single c) else none
  | .oneOf s => some s
  | .look _ => none

/-- The set of a range. -/
def rangeSet? (f : Flags) : Escape → Escape → Option CharSet
  | .literal first, .literal last =>
    if first.toNat ≤ last.toNat ∧ (f.unicode ∨ last.toNat < 0x80) then
      some (.between first last)
    else none
  | _, _ => none

/-- A single part or a range.  A hyphen before a closing bracket or before
another hyphen makes no range. -/
def readPart (f : Flags) (s : List Char) : Option (CharSet × List Char) := do
  let (first, rest) ← readAtom f s
  match f.skip rest with
  | [] => none
  | '-' :: t =>
    match f.skip t with
    | ']' :: _ | '-' :: _ => return (← atomSet? f first, '-' :: t)
    | [] => none
    | u =>
      let (last, rest) ← readAtom f u
      return (← rangeSet? f first last, rest)
  | rest => return (← atomSet? f first, rest)

/-- The rest of a bracket expression, inside the given open brackets, innermost
first. -/
def readOpen (f : Flags) : Nat → Bracket → List Bracket → List Char → Option (CharSet × List Char)
  | 0, _, _, _ => none
  | fuel + 1, b, outer, s =>
    match f.skip s with
    | [] => none
    | ']' :: rest => do
      let set ← b.close f
      match outer with
      | [] => return (set, rest)
      | parent :: outer => readOpen f fuel (parent.add set) outer rest
    | '[' :: t =>
      match namedClass? f ('[' :: t) with
      | some (set, rest) => readOpen f fuel (b.add set) outer rest
      | none =>
        let (inner, rest) := opening f t
        readOpen f fuel inner (b :: outer) rest
    | '&' :: '&' :: rest => readOpen f fuel (b.operate f .intersection) outer rest
    | '-' :: '-' :: rest => readOpen f fuel (b.operate f .difference) outer rest
    | '~' :: '~' :: rest => readOpen f fuel (b.operate f .symmetricDifference) outer rest
    | t => do
      let (set, rest) ← readPart f t
      readOpen f fuel (b.add set) outer rest

/-- A bracket expression after its opening bracket. -/
def read (f : Flags) (s : List Char) : Option (CharSet × List Char) :=
  let (b, rest) := opening f s
  readOpen f (rest.length + 1) b [] rest

end Bracket
end Pattern
end YamlStyle
