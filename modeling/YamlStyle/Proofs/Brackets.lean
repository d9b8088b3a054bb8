/-
# Matching openers with ends

Which collections are open at a place of a stream can be said without a stack.
An end matches the nearest opener before it that is still unmatched, of whatever
kind, and an end without one matches nothing; an opener is unmatched before a
place if no end before that place matches it (`Unmatched`).  The collections
that are open are then a set of positions, the innermost being the greatest.

Reading one more token changes the positions, in ascending order, in the ways in
which a stack changes: an opener is appended, an end takes the last one away, and
any other token leaves them (`unmatchedBefore_succ_of_opened`,
`unmatchedBefore_succ_of_ends`, `unmatchedBefore_succ_of_neither`).  A stream is at
fault where an end matches nothing and where it ends with openers unmatched
(`fault?`).
-/

import Mathlib.Data.List.Sort
import YamlStyle.Nesting

namespace YamlStyle
namespace Brackets

/-- The kind of collection that the token at a position opens. -/
def openedAt? (ts : List Token) (i : Nat) : Option CollectionKind := ts[i]?.bind (·.kind.opens?)

/-- Whether the token at a position closes a collection. -/
def endsAt (ts : List Token) (i : Nat) : Bool := ts[i]?.any (·.kind.endsCollection)

/-- The opener at position `o` is unmatched before position `i`: it is the token
right before, or it was unmatched and the token right before is no end for
which it is the nearest unmatched opener. -/
def Unmatched (ts : List Token) : Nat → Nat → Prop
  | 0, _ => False
  | i + 1, o =>
    (o = i ∧ (openedAt? ts i).isSome) ∨
      (Unmatched ts i o ∧ ¬ (endsAt ts i ∧ ∀ o' < i, Unmatched ts i o' → o' ≤ o))

instance decidableUnmatched (ts : List Token) : (i o : Nat) → Decidable (Unmatched ts i o)
  | 0, _ => .isFalse id
  | i + 1, o =>
    have := decidableUnmatched ts i
    inferInstanceAs (Decidable ((o = i ∧ (openedAt? ts i).isSome) ∨
      (Unmatched ts i o ∧ ¬ (endsAt ts i ∧ ∀ o' < i, Unmatched ts i o' → o' ≤ o))))

/-- The opener at `o` is the innermost one that is unmatched before `i`. -/
def Innermost (ts : List Token) (i o : Nat) : Prop :=
  Unmatched ts i o ∧ ∀ o' < i, Unmatched ts i o' → o' ≤ o

instance (ts : List Token) (i o : Nat) : Decidable (Innermost ts i o) :=
  inferInstanceAs (Decidable (Unmatched ts i o ∧ ∀ o' < i, Unmatched ts i o' → o' ≤ o))

section

variable {ts : List Token} {i o : Nat}

/-- One more token opens itself, or closes the innermost collection, or does neither. -/
theorem unmatched_succ :
    Unmatched ts (i + 1) o ↔
      (o = i ∧ (openedAt? ts i).isSome) ∨
        (Unmatched ts i o ∧ ¬ (endsAt ts i ∧ Innermost ts i o)) := by
  rw [Unmatched]
  constructor
  · rintro (h | ⟨h, hend⟩)
    · exact Or.inl h
    · exact Or.inr ⟨h, fun hin => hend ⟨hin.1, hin.2.2⟩⟩
  · rintro (h | ⟨h, hend⟩)
    · exact Or.inl h
    · exact Or.inr ⟨h, fun hin => hend ⟨hin.1, h, hin.2⟩⟩

/-- What is open before a position was opened before it. -/
theorem Unmatched.lt (h : Unmatched ts i o) : o < i := by
  induction i with
  | zero => exact absurd h id
  | succ i ih =>
    rcases unmatched_succ.1 h with ⟨rfl, -⟩ | ⟨h, -⟩
    · exact Nat.lt_succ_self o
    · have := ih h
      omega

/-- An opener is not an end. -/
theorem endsAt_eq_false_of_openedAt? {kind : CollectionKind} (h : openedAt? ts i = some kind) :
    endsAt ts i = false := by
  obtain ⟨t, ht, hkind⟩ := Option.bind_eq_some_iff.1 h
  obtain ⟨tokenKind, start, stop⟩ := t
  cases tokenKind <;> simp [endsAt, ht, TokenKind.endsCollection, TokenKind.opens?] at hkind ⊢

end

/-- The positions of the unmatched openers before a position, outermost first. -/
def unmatchedBefore (ts : List Token) (i : Nat) : List Nat :=
  (List.range i).filter fun o => Unmatched ts i o

section

variable {ts : List Token} {i o : Nat}

/-- The list has what is open. -/
theorem mem_unmatchedBefore : o ∈ unmatchedBefore ts i ↔ Unmatched ts i o := by
  simp only [unmatchedBefore, List.mem_filter, List.mem_range, decide_eq_true_eq]
  exact ⟨fun h => h.2, fun h => ⟨h.lt, h⟩⟩

/-- The list has the collections in the order of their openings. -/
theorem pairwise_unmatchedBefore (ts : List Token) (i : Nat) :
    (unmatchedBefore ts i).Pairwise (· < ·) :=
  List.pairwise_lt_range.filter _

/-- The innermost opener is the last one. -/
theorem innermost_iff_of_eq_append {front : List Nat} {last : Nat}
    (h : unmatchedBefore ts i = front ++ [last]) : Innermost ts i o ↔ o = last := by
  have hpair := pairwise_unmatchedBefore ts i
  have hmem : ∀ x, Unmatched ts i x ↔ x ∈ front ∨ x = last := by
    intro x
    rw [← mem_unmatchedBefore, h, List.mem_append, List.mem_singleton]
  rw [h, List.pairwise_append] at hpair
  have hlt : ∀ x ∈ front, x < last := fun x hx => hpair.2.2 x hx last (List.mem_singleton_self _)
  have hlast : Unmatched ts i last := (hmem last).2 (Or.inr rfl)
  constructor
  · rintro ⟨ho, hmax⟩
    have hle := hmax last hlast.lt hlast
    rcases (hmem o).1 ho with ho | ho
    · have := hlt o ho
      omega
    · exact ho
  · rintro rfl
    refine ⟨hlast, fun x _ hx => ?_⟩
    rcases (hmem x).1 hx with hx | hx
    · exact Nat.le_of_lt (hlt x hx)
    · exact Nat.le_of_eq hx

/-- An opener is appended. -/
theorem unmatchedBefore_succ_of_opened {kind : CollectionKind} (h : openedAt? ts i = some kind) :
    unmatchedBefore ts (i + 1) = unmatchedBefore ts i ++ [i] := by
  refine (pairwise_unmatchedBefore ts (i + 1)).eq_of_mem_iff ?_ fun o => ?_
  · rw [List.pairwise_append]
    refine ⟨pairwise_unmatchedBefore ts i, List.pairwise_singleton _ _, fun o ho x hx => ?_⟩
    rw [List.mem_singleton.1 hx]
    exact (mem_unmatchedBefore.1 ho).lt
  · rw [mem_unmatchedBefore, unmatched_succ, List.mem_append, List.mem_singleton,
      mem_unmatchedBefore, endsAt_eq_false_of_openedAt? h]
    simp [h, or_comm]

/-- An end takes the innermost opener away. -/
theorem unmatchedBefore_succ_of_ends (h : endsAt ts i = true) (hopen : openedAt? ts i = none) :
    unmatchedBefore ts (i + 1) = (unmatchedBefore ts i).dropLast := by
  have hstep : ∀ o, o ∈ unmatchedBefore ts (i + 1) ↔
      o ∈ unmatchedBefore ts i ∧ ¬ Innermost ts i o := by
    intro o
    rw [mem_unmatchedBefore, unmatched_succ, mem_unmatchedBefore]
    simp [h, hopen]
  have hpair := pairwise_unmatchedBefore ts i
  refine (pairwise_unmatchedBefore ts (i + 1)).eq_of_mem_iff
    (hpair.sublist (List.dropLast_sublist _)) fun o => ?_
  rw [hstep]
  rcases List.eq_nil_or_concat (unmatchedBefore ts i) with hnil | ⟨front, last, hlast⟩
  · simp [hnil]
  · rw [List.concat_eq_append] at hlast
    rw [innermost_iff_of_eq_append hlast, hlast, List.dropLast_concat]
    rw [hlast, List.pairwise_append] at hpair
    constructor
    · rintro ⟨ho, hne⟩
      rcases List.mem_append.1 ho with ho | ho
      · exact ho
      · exact absurd (List.mem_singleton.1 ho) hne
    · intro ho
      have hlt := hpair.2.2 o ho last (List.mem_singleton_self _)
      exact ⟨List.mem_append_left _ ho, by omega⟩

/-- Any other token leaves the openers as they are. -/
theorem unmatchedBefore_succ_of_neither (h : endsAt ts i = false) (hopen : openedAt? ts i = none) :
    unmatchedBefore ts (i + 1) = unmatchedBefore ts i := by
  refine (pairwise_unmatchedBefore ts (i + 1)).eq_of_mem_iff (pairwise_unmatchedBefore ts i)
    fun o => ?_
  rw [mem_unmatchedBefore, unmatched_succ, mem_unmatchedBefore]
  simp [h, hopen]

end

/-! ### Faults -/

/-- What is wrong with the token at a position: it is an end and no opener is
unmatched before it, or it ends the stream and some are. -/
def fault? (ts : List Token) (i : Nat) : Option StreamError :=
  ts[i]?.bind fun t =>
    if t.kind.endsCollection ∧ unmatchedBefore ts i = [] then some (.unmatchedEnd t.kind t.start)
    else if t.kind = .streamEnd ∧ unmatchedBefore ts i ≠ [] then
      some (.unclosedCollections (unmatchedBefore ts i).length t.start)
    else none

/-- The first fault of a stream. -/
def FirstFault (ts : List Token) (i : Nat) (cause : StreamError) : Prop :=
  fault? ts i = some cause ∧ ∀ j < i, fault? ts j = none

/-- A stream has a first fault or none at all. -/
theorem exists_firstFault_or (ts : List Token) :
    (∃ i cause, FirstFault ts i cause) ∨ ∀ i, fault? ts i = none := by
  by_cases h : ∃ i, fault? ts i ≠ none
  · obtain ⟨cause, hcause⟩ := Option.ne_none_iff_exists'.1 (Nat.find_spec h)
    exact Or.inl ⟨Nat.find h, cause, hcause, fun j hj => not_not.1 (Nat.find_min h hj)⟩
  · exact Or.inr fun i => not_not.1 fun hi => h ⟨i, hi⟩

/-- A fault is at a token. -/
theorem FirstFault.lt {ts : List Token} {i : Nat} {cause : StreamError}
    (h : FirstFault ts i cause) : i < ts.length := by
  obtain ⟨t, ht, -⟩ := Option.bind_eq_some_iff.1 h.1
  exact (List.getElem?_eq_some_iff.1 ht).1

end Brackets
end YamlStyle
