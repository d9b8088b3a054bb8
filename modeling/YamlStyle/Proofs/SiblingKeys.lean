/-
# Keys of one mapping

Two rules compare a key with the keys before it in the same mapping.  Which these
are can be read off the stream: the keys announced where the same opener is the
innermost one that is unmatched (`Brackets.KeyOf`).  Other mappings lie around them,
inside them and between them, and nothing that happens there matters.

What such a rule gives at a token is said here for both (`TokenRule.walk_keys`), up
to what they make of the keys they have recorded.
-/

import YamlStyle.Proofs.Dispatch
import YamlStyle.Proofs.KeyPasses

namespace YamlStyle
namespace Brackets

/-! ### Keys by mapping -/

/-- The token at `i` announces a key directly inside the mapping opened at `o`. -/
structure KeyOf (ts : List Token) (o i : Nat) (key : String) : Prop where
  announced : keyAt? ts i = some key
  innermost : Innermost ts i o
  mapping : openedAt? ts o = some .mapping

instance (ts : List Token) (o i : Nat) (key : String) : Decidable (KeyOf ts o i key) :=
  decidable_of_iff
    (keyAt? ts i = some key ∧ Innermost ts i o ∧ openedAt? ts o = some .mapping)
    ⟨fun h => ⟨h.1, h.2.1, h.2.2⟩, fun h => ⟨h.announced, h.innermost, h.mapping⟩⟩

/-- What is wrong with the key at a position, at the place of its scalar. -/
def findingAt? (ts : List Token) (i : Nat) (problem : Problem) : Option Finding :=
  ts[i + 1]?.map fun scalar => ⟨scalar.start.line + 1, scalar.start.column + 1, problem⟩

section

variable {ts : List Token} {i o o' : Nat} {key key' : String}

/-- A key token announces the scalar that follows, unless that is the merge key. -/
theorem keyAt?_eq_some_iff :
    keyAt? ts i = some key ↔ ts[i]?.map (·.kind) = some .key ∧ key ≠ mergeKey ∧
      ∃ style start stop, ts[i + 1]? = some ⟨.scalar key style, start, stop⟩ := by
  unfold keyAt?
  by_cases hkind : ts[i]?.map (·.kind) = some .key
  · rw [if_pos hkind]
    cases hnext : ts[i + 1]? with
    | none => simp
    | some t =>
      obtain ⟨kind, start, stop⟩ := t
      cases kind <;> simp [keyText?, hkind]
      grind
  · rw [if_neg hkind]
    simp [hkind]

/-- At a position one collection is innermost. -/
theorem Innermost.unique (h : Innermost ts i o) (h' : Innermost ts i o') : o = o' := by
  have hle := h.2 o' h'.1.lt h'.1
  have hge := h'.2 o h.1.lt h.1
  omega

/-- A position belongs to one mapping at most, with one key. -/
theorem KeyOf.unique (h : KeyOf ts o i key) (h' : KeyOf ts o' i key') : o = o' ∧ key = key' :=
  ⟨h.innermost.unique h'.innermost, Option.some.inj (h.announced.symm.trans h'.announced)⟩

/-- The keys of a collection are those for which it was innermost. -/
theorem mem_keysOf :
    key ∈ keysOf ts i o ↔ ∃ j < i, Innermost ts j o ∧ keyAt? ts j = some key := by
  simp only [keysOf, List.mem_filterMap, List.mem_range, Option.ite_none_right_eq_some]

/-- The keys of a mapping before a position. -/
theorem mem_keysOf_iff (hmapping : openedAt? ts o = some .mapping) :
    key ∈ keysOf ts i o ↔ ∃ j < i, KeyOf ts o j key := by
  rw [mem_keysOf]
  constructor
  · rintro ⟨j, hj, hin, hkey⟩
    exact ⟨j, hj, hkey, hin, hmapping⟩
  · rintro ⟨j, hj, h⟩
    exact ⟨j, hj, h.innermost, h.announced⟩

end

end Brackets

/-! ### Visits -/

/-- A key leaves the open collections as they are. -/
theorem Nesting.advance_of_key {t : Token} (h : t.kind = .key) (n : Nesting) :
    n.advance t = .ok n := by
  simp [advance, h, TokenKind.opens?, TokenKind.endsCollection]

/-- A key in a window is a key token with its scalar next. -/
theorem Window.of_key?_eq_some {w : Window} {key : String} {scalar : Token}
    (h : w.key? = some (key, scalar)) : w.token.kind = .key ∧ w.next = some scalar := by
  unfold key? at h
  split at h
  · rename_i hkind hnext
    split at h
    · cases h
    · obtain ⟨-, rfl⟩ := Prod.mk.inj (Option.some.inj h)
      exact ⟨hkind, hnext⟩
  · cases h

namespace Brackets

section

variable {admits : Admits} {ts : List Token} {i : Nat} {n m : Nesting} {w : Window}

/-- The frame on top belongs to the innermost opener. -/
theorem Agree.exists_innermost {frame : Frame} {outer : List Frame} (h : Agree admits ts i n)
    (hframes : n.frames = frame :: outer) :
    ∃ last, (∀ o, Innermost ts i o ↔ o = last) ∧ frame? admits.keep ts i last = some frame := by
  obtain ⟨front, last, hsplit, hlast, -⟩ := h.cons hframes
  exact ⟨last, fun o => innermost_iff_of_eq_append hsplit, hlast⟩

/-- Where nothing is open, no opener is innermost. -/
theorem Agree.not_innermost (h : Agree admits ts i n) (hframes : n.frames = []) (o : Nat) :
    ¬ Innermost ts i o := by
  intro hin
  have hmem := mem_unmatchedBefore.2 hin.1
  rw [h.frames_eq_nil_iff.1 hframes] at hmem
  cases hmem

/-- **A walk visits the keys of mappings**, with the keys that are recorded of those
before them in the same mapping. -/
theorem Agree.visit?_eq_some_iff (h : Agree admits ts i n) (hw : w.At ts i)
    (hadvance : n.advance w.token = .ok m) {v : KeyVisit} :
    m.visit? w = some v ↔ ts[i + 1]? = some v.scalar ∧
      ∃ o, KeyOf ts o i v.key ∧ v.earlier = admits.keep (keysOf ts i o) := by
  have hat := hw.key?_fst
  cases hkey : w.key? with
  | none =>
    refine ⟨fun hv => by simp [Nesting.visit?, hkey] at hv, ?_⟩
    rintro ⟨-, o, hof, -⟩
    rw [hkey, hof.announced] at hat
    cases hat
  | some x =>
    obtain ⟨key, scalar⟩ := x
    obtain ⟨hkind, hnext⟩ := Window.of_key?_eq_some hkey
    rw [hkey] at hat
    -- a key token opens and closes nothing
    obtain rfl : n = m := Except.ok.inj ((Nesting.advance_of_key hkind n).symm.trans hadvance)
    have hscalar : ts[i + 1]? = some scalar := hw.next.symm.trans hnext
    cases hframes : n.frames with
    | nil =>
      refine ⟨fun hv => by simp [Nesting.visit?, hframes] at hv, ?_⟩
      rintro ⟨-, o, hof, -⟩
      exact absurd hof.innermost (h.not_innermost hframes o)
    | cons frame outer =>
      obtain ⟨last, hin, hlast⟩ := h.exists_innermost hframes
      obtain ⟨kind, hopened, rfl⟩ := Option.map_eq_some_iff.1 hlast
      cases kind with
      | sequence =>
        refine ⟨fun hv => by simp [Nesting.visit?, hframes] at hv, ?_⟩
        rintro ⟨-, o, hof, -⟩
        have hmapping := hof.mapping
        rw [(hin o).1 hof.innermost, hopened] at hmapping
        cases hmapping
      | mapping =>
        have hvisit : n.visit? w = some ⟨key, scalar, admits.keep (keysOf ts i last)⟩ := by
          simp [Nesting.visit?, hframes, hkey]
        rw [hvisit]
        constructor
        · intro hv
          obtain rfl := Option.some.inj hv
          exact ⟨hscalar, last, ⟨hat.symm, (hin last).2 rfl, hopened⟩, rfl⟩
        · rintro ⟨hv, o, hof, hearlier⟩
          obtain ⟨key', scalar', earlier⟩ := v
          obtain rfl : o = last := (hin o).1 hof.innermost
          obtain rfl : key = key' := Option.some.inj (hat.trans hof.announced)
          obtain rfl : scalar = scalar' := Option.some.inj (hscalar.symm.trans hv)
          obtain rfl : earlier = admits.keep (keysOf ts i o) := hearlier
          rfl

end

end Brackets

/-! ### Steps of the two rules -/

namespace TokenRule

/-- Every step of a rule on keys starts from the open collections after the windows
before it, whether or not steps before it failed. -/
theorem getElem?_walk {r : TokenRule} {o : r.Options} {admits : Admits}
    (h : r.admits? o = some admits) (n : Nesting) (ws : List Window) (i : Nat) :
    (r.walk o n ws)[i]? = ws[i]?.map fun w =>
      (r.check o (n.afterAll admits (ws.take i)) w).map (·.2) := by
  induction ws generalizing n i with
  | nil => rfl
  | cons w ws ih =>
    have hwalk : r.walk o n (w :: ws) =
        (r.check o n w).map (·.2) :: r.walk o (n.after admits w) ws := by
      rw [walk, Nesting.after, check_eq h]
      cases n.advance w.token <;> rfl
    rw [hwalk]
    cases i with
    | zero => rfl
    | succ i => rw [List.getElem?_cons_succ, List.getElem?_cons_succ, ih]; rfl

open Brackets in
/-- **What a rule on keys gives at every token.**  It fails where the stream is at
fault.  Elsewhere it reports the key of a mapping there, if there is one that is bad in
view of the keys recorded before it, and nothing else. -/
theorem walk_keys {r : TokenRule} {o : r.Options} {admits : Admits}
    (h : r.admits? o = some admits) (d : Document) (Bad : Nat → Nat → String → Prop)
    (problem : String → Problem)
    (hbad : ∀ {opener i key} scalar found, KeyOf d.tokens opener i key →
      (r.problem? o ⟨key, scalar, admits.keep (keysOf d.tokens i opener)⟩ = some found ↔
        Bad opener i key ∧ found = problem key))
    {i : Nat} {step : Except StreamError (List Finding)}
    (hstep : (r.walk o .empty d.windows)[i]? = some step) :
    (∀ cause, step = .error cause ↔ fault? d.tokens i = some cause) ∧
      ∀ found, step = .ok found → found.length ≤ 1 ∧ ∀ f, f ∈ found ↔
        ∃ key, (∃ opener, KeyOf d.tokens opener i key ∧ Bad opener i key) ∧
          findingAt? d.tokens i (problem key) = some f := by
  rw [getElem?_walk h] at hstep
  obtain ⟨w, hw, rfl⟩ := Option.map_eq_some_iff.1 hstep
  have hat := Document.window_at hw
  have hlt : i < d.windows.length := (List.getElem?_eq_some_iff.1 hw).1
  have hagree := agree_afterAll admits d (Nat.le_of_lt hlt)
  generalize Nesting.empty.afterAll admits (d.windows.take i) = n at hagree hstep ⊢
  have hfault := hagree.advance_eq_error_iff hat
  rw [check_eq h]
  cases hadvance : n.advance w.token with
  | error e =>
    rw [hadvance] at hfault
    exact ⟨fun cause => by rw [← hfault]; simp [Except.map], fun found hfound => by cases hfound⟩
  | ok m =>
    rw [hadvance] at hfault
    refine ⟨fun cause => by rw [← hfault]; simp [Except.map], fun found hfound => ?_⟩
    obtain rfl := Except.ok.inj hfound
    refine ⟨Option.length_toList_le, fun f => ?_⟩
    simp only [Option.mem_toList, Option.bind_eq_some_iff, Option.map_eq_some_iff,
      hagree.visit?_eq_some_iff hat hadvance, findingAt?]
    constructor
    · rintro ⟨⟨key, scalar, earlier⟩, ⟨hscalar, opener, hof, rfl⟩, found, hfound, hf⟩
      obtain ⟨hkey, rfl⟩ := (hbad scalar found hof).1 hfound
      exact ⟨key, ⟨opener, hof, hkey⟩, scalar, hscalar, hf⟩
    · rintro ⟨key, ⟨opener, hof, hkey⟩, scalar, hscalar, hf⟩
      exact ⟨⟨key, scalar, admits.keep (keysOf d.tokens i opener)⟩, ⟨hscalar, opener, hof, rfl⟩,
        problem key, (hbad scalar _ hof).2 ⟨hkey, rfl⟩, hf⟩

/-- A walk takes one step for each window. -/
theorem length_walk (r : TokenRule) (o : r.Options) (n : Nesting) (ws : List Window) :
    (r.walk o n ws).length = ws.length := by
  induction ws generalizing n with
  | nil => rfl
  | cons w ws ih =>
    rw [walk]
    split <;> rw [List.length_cons, List.length_cons, ih]

/-- A rule takes a step for every token. -/
theorem length_steps (r : TokenRule) (o : r.Options) (d : Document) :
    ((Rule.token r).steps o d).length = d.tokens.length := by
  rw [Rule.steps, length_walk, d.length_windows]

end TokenRule
end YamlStyle
