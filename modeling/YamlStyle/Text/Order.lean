/-
# The order of texts

Texts are ordered by their first differing character, and characters by their
code points.  This is also the order of the UTF-8 bytes.  It is a strict linear
order: no text comes before itself, the order passes on, and of two different
texts one comes before the other.  `compareTexts` is the same order as a
comparison, ready for maps with text keys.
-/

import YamlStyle.Text.Basic

namespace YamlStyle
namespace Text

/-- Whether one text comes before another. -/
def precedes : List Char → List Char → Bool
  | _, [] => false
  | [], _ :: _ => true
  | c :: s, d :: t => c.toNat < d.toNat || (c = d && precedes s t)

/-- The first characters decide, and if they are the same, what follows. -/
theorem precedes_cons_iff {c d : Char} {s t : List Char} :
    precedes (c :: s) (d :: t) = true ↔
      c.toNat < d.toNat ∨ (c = d ∧ precedes s t = true) := by
  simp [precedes]

/-- No text comes before itself. -/
theorem precedes_irrefl (s : List Char) : precedes s s = false := by
  induction s with
  | nil => rfl
  | cons c s ih => simp [precedes, ih]

/-- The order of texts is transitive. -/
theorem precedes_trans {a b c : List Char} (hab : precedes a b = true)
    (hbc : precedes b c = true) : precedes a c = true := by
  induction a generalizing b c with
  | nil =>
    cases c with
    | nil => simp [precedes] at hbc
    | cons z c => rfl
  | cons x a ih =>
    cases b with
    | nil => simp [precedes] at hab
    | cons y b =>
      cases c with
      | nil => simp [precedes] at hbc
      | cons z c =>
        rw [precedes_cons_iff] at hab hbc ⊢
        rcases hab with hxy | ⟨rfl, hab⟩
        · rcases hbc with hyz | ⟨rfl, hbc⟩
          · exact Or.inl (Nat.lt_trans hxy hyz)
          · exact Or.inl hxy
        · rcases hbc with hyz | ⟨rfl, hbc⟩
          · exact Or.inl hyz
          · exact Or.inr ⟨rfl, ih hab hbc⟩

/-- Two texts of which neither comes before the other are the same. -/
theorem eq_of_not_precedes {a b : List Char} (hab : precedes a b = false)
    (hba : precedes b a = false) : a = b := by
  induction a generalizing b with
  | nil =>
    cases b with
    | nil => rfl
    | cons y b => simp [precedes] at hab
  | cons x a ih =>
    cases b with
    | nil => simp [precedes] at hba
    | cons y b =>
      rw [← Bool.not_eq_true, precedes_cons_iff, not_or, not_and] at hab hba
      have hxy : x = y := Char.toNat_inj.1 (by omega)
      subst hxy
      have hab' := hab.2 rfl
      have hba' := hba.2 rfl
      rw [Bool.not_eq_true] at hab' hba'
      rw [ih hab' hba']

/-- Of two texts at most one comes before the other. -/
theorem precedes_asymm {a b : List Char} (h : precedes a b = true) : precedes b a = false := by
  cases hba : precedes b a with
  | false => rfl
  | true =>
    have := precedes_trans h hba
    rw [precedes_irrefl] at this
    cases this

/-- The order of texts as a comparison. -/
def compareTexts (a b : String) : Ordering :=
  if precedes a.toList b.toList then .lt else if a = b then .eq else .gt

/-- A text is equal to itself. -/
theorem compareTexts_self (a : String) : compareTexts a a = .eq := by
  simp [compareTexts, precedes_irrefl]

/-- Only equal texts compare as equal. -/
theorem eq_of_compareTexts {a b : String} (h : compareTexts a b = .eq) : a = b := by
  unfold compareTexts at h
  split at h
  · cases h
  · split at h
    · assumption
    · cases h

/-- A text is at most another if the other does not come before it. -/
theorem compareTexts_isLE_iff {a b : String} :
    (compareTexts a b).isLE ↔ precedes b.toList a.toList = false := by
  unfold compareTexts
  split
  · rename_i h
    simpa using precedes_asymm h
  · rename_i h
    split
    · rename_i hab
      subst hab
      simpa using precedes_irrefl a.toList
    · rename_i hne
      refine ⟨fun hle => by simp at hle, fun hba => ?_⟩
      rw [Bool.not_eq_true] at h
      exact absurd (String.toList_inj.1 (eq_of_not_precedes h hba)) hne

instance : Std.LawfulEqCmp compareTexts where
  compare_self {a} := compareTexts_self a
  eq_of_compare := eq_of_compareTexts

instance : Std.TransCmp compareTexts where
  eq_swap {a b} := by
    unfold compareTexts
    by_cases hab : precedes a.toList b.toList
    · have hba := precedes_asymm hab
      have hne : b ≠ a := fun h => by
        subst h
        rw [precedes_irrefl] at hab
        cases hab
      simp [hab, hba, hne]
    · by_cases hba : precedes b.toList a.toList
      · have hne : a ≠ b := fun h => by
          subst h
          exact hab hba
        simp [hab, hba, hne]
      · simp only [Bool.not_eq_true] at hab hba
        have h := String.toList_inj.1 (eq_of_not_precedes hab hba)
        subst h
        simp [precedes_irrefl]
  isLE_trans {a b c} hab hbc := by
    rw [compareTexts_isLE_iff] at hab hbc ⊢
    cases hca : precedes c.toList a.toList with
    | false => rfl
    | true =>
      by_cases h : precedes a.toList b.toList
      · rw [precedes_trans hca h] at hbc
        cases hbc
      · rw [Bool.not_eq_true] at h
        rw [eq_of_not_precedes h hab] at hca
        rw [hca] at hbc
        cases hbc

end Text
end YamlStyle
