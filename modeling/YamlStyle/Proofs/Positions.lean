/-
# Windows and keys by position

Rules see a stream through windows, and a proof about a stream speaks of
positions in it.  The window at a position holds the tokens around it
(`Document.getElem?_windows`), and the key that it announces depends on the token
there and the next one only (`Window.At.key?_fst`).  So the keys of a collection
can be listed from the stream: those met where its opener is the innermost one
that is unmatched (`Brackets.keysOf`).
-/

import YamlStyle.Proofs.Brackets

namespace YamlStyle

/-! ### Windows by position -/

/-- The window at a position has the tokens around it. -/
theorem Window.getElem?_ofTokens (text : List Char) (previous : Option Token) (ts : List Token)
    (i : Nat) :
    (ofTokens text previous ts)[i]? = ts[i]?.map fun t =>
      ⟨text, if i = 0 then previous else ts[i - 1]?, t, ts[i + 1]?, ts[i + 2]?⟩ := by
  induction ts generalizing previous i with
  | nil => rfl
  | cons token rest ih =>
    cases i with
    | zero => rfl
    | succ i =>
      rw [ofTokens, List.getElem?_cons_succ, ih]
      cases i with
      | zero => rfl
      | succ i => rfl

/-- There is one window for each token. -/
theorem Window.length_ofTokens (text : List Char) (previous : Option Token) (ts : List Token) :
    (ofTokens text previous ts).length = ts.length := by
  induction ts generalizing previous with
  | nil => rfl
  | cons token rest ih => rw [ofTokens, List.length_cons, List.length_cons, ih]

/-- A document has one window for each token. -/
theorem Document.length_windows (d : Document) : d.windows.length = d.tokens.length :=
  Window.length_ofTokens d.text none d.tokens

/-- The window at a position holds the tokens around it. -/
theorem Document.getElem?_windows (d : Document) (i : Nat) :
    d.windows[i]? = d.tokens[i]?.map fun t =>
      ⟨d.text, if i = 0 then none else d.tokens[i - 1]?, t, d.tokens[i + 1]?,
        d.tokens[i + 2]?⟩ :=
  Window.getElem?_ofTokens d.text none d.tokens i

/-- A window stands at a position of a stream. -/
structure Window.At (ts : List Token) (i : Nat) (w : Window) : Prop where
  token : ts[i]? = some w.token
  next : w.next = ts[i + 1]?

/-- What the token of a window opens is opened at its position. -/
theorem Window.At.openedAt?_eq {ts : List Token} {i : Nat} {w : Window} (h : w.At ts i) :
    Brackets.openedAt? ts i = w.token.kind.opens? := by
  rw [Brackets.openedAt?, h.token]
  rfl

/-- The token of a window ends a collection if its position does. -/
theorem Window.At.endsAt_eq {ts : List Token} {i : Nat} {w : Window} (h : w.At ts i) :
    Brackets.endsAt ts i = w.token.kind.endsCollection := by
  rw [Brackets.endsAt, h.token]
  rfl

/-- The window at a position looks at the stream from there. -/
theorem Document.window_at {d : Document} {i : Nat} {w : Window} (h : d.windows[i]? = some w) :
    w.At d.tokens i := by
  rw [getElem?_windows] at h
  obtain ⟨t, ht, rfl⟩ := Option.map_eq_some_iff.1 h
  exact ⟨ht, rfl⟩

/-- Windows stand at consecutive positions of a stream. -/
def Window.Along (ts : List Token) (i : Nat) (ws : List Window) : Prop :=
  ∀ k (w : Window), ws[k]? = some w → w.At ts (i + k)

/-- The first of the windows is at the position. -/
theorem Window.Along.head {ts : List Token} {i : Nat} {w : Window} {ws : List Window}
    (h : Along ts i (w :: ws)) : w.At ts i := h 0 w rfl

/-- The windows after the first are at the positions after it. -/
theorem Window.Along.tail {ts : List Token} {i : Nat} {w : Window} {ws : List Window}
    (h : Along ts i (w :: ws)) : Along ts (i + 1) ws := by
  intro k w' hk
  rw [Nat.add_assoc, Nat.add_comm 1]
  exact h (k + 1) w' hk

/-- The windows of a document are at the positions from the first on. -/
theorem Document.along_windows (d : Document) : Window.Along d.tokens 0 d.windows := by
  intro k w hk
  rw [Nat.zero_add]
  exact window_at hk

/-! ### Keys by position -/

namespace Brackets

/-- The text a scalar gives a key, unless it is the merge key. -/
def keyText? : TokenKind → Option String
  | .scalar text _ => if text = mergeKey then none else some text
  | _ => none

/-- The text of the key that the token at a position announces. -/
def keyAt? (ts : List Token) (i : Nat) : Option String :=
  if ts[i]?.map (·.kind) = some .key then ts[i + 1]?.bind fun t => keyText? t.kind else none

/-- The texts of the keys before a position for which an opener was innermost. -/
def keysOf (ts : List Token) (i o : Nat) : List String :=
  (List.range i).filterMap fun j => if Innermost ts j o then keyAt? ts j else none

/-- A position adds a key to the innermost collection. -/
theorem keysOf_succ (ts : List Token) (i o : Nat) :
    keysOf ts (i + 1) o =
      keysOf ts i o ++ (if Innermost ts i o then keyAt? ts i else none).toList := by
  rw [keysOf, List.range_succ, List.filterMap_append]
  cases h : if Innermost ts i o then keyAt? ts i else none <;> simp [keysOf, h]

/-- A position without a key adds none. -/
theorem keysOf_succ_of_none {ts : List Token} {i : Nat} (h : keyAt? ts i = none) (o : Nat) :
    keysOf ts (i + 1) o = keysOf ts i o := by
  simp [keysOf_succ, h]

/-- An opener has no keys before it. -/
theorem keysOf_self (ts : List Token) (o : Nat) : keysOf ts o o = [] := by
  refine List.filterMap_eq_nil_iff.2 fun j hj => ?_
  have hlt : j < o := List.mem_range.1 hj
  have hnot : ¬ Innermost ts j o := fun h => by
    have := h.1.lt
    omega
  exact if_neg hnot

/-- The frame of the collection opened at a position, with those of its keys
that are kept; a sequence keeps none. -/
def frame? (keep : List String → List String) (ts : List Token) (i o : Nat) : Option Frame :=
  (openedAt? ts o).map fun
    | .mapping => ⟨.mapping, keep (keysOf ts i o)⟩
    | .sequence => ⟨.sequence, []⟩

/-- A frame depends on the keys of its collection only. -/
theorem frame?_congr {keep : List String → List String} {ts : List Token} {i j o : Nat}
    (h : keysOf ts i o = keysOf ts j o) : frame? keep ts i o = frame? keep ts j o := by
  rw [frame?, frame?, h]

end Brackets

/-- The key at a window is the key at its position. -/
theorem Window.At.key?_fst {ts : List Token} {i : Nat} {w : Window} (h : w.At ts i) :
    w.key?.map (·.1) = Brackets.keyAt? ts i := by
  have hkind : ts[i]?.map (·.kind) = some w.kind := by rw [h.token]; rfl
  rw [Brackets.keyAt?, hkind, ← h.next]
  unfold key?
  cases hw : w.kind <;> simp
  cases hnext : w.next with
  | none => rfl
  | some t =>
    obtain ⟨kind, start, stop⟩ := t
    cases kind <;> simp [Brackets.keyText?]
    split <;> rfl

/-- Only a key token announces a key. -/
theorem Window.key?_eq_none {w : Window} (h : w.token.kind ≠ .key) : w.key? = none := by
  unfold key?
  split
  · rename_i hkey _
    exact absurd hkey h
  · rfl

end YamlStyle
