/-
# The order of a report

A report is sorted by line, column and rank, all ranks ascending at one place.
Sorting by line and column alone, and stably, gives the same list if ranks ascend
in what is sorted.  The two need not start from the same list: it is enough that
both have, for every rank, the same diagnostics in the same order
(`Ranked.isStableSort_of_ranks`).  For at one place both results ascend by rank, so
they agree there (`Ranked.filter_place_mergeSort`), and lists that agree at every
place have the same elements.
-/

import YamlStyle.Linter
import YamlStyle.Proofs.StableSort

namespace YamlStyle

/-- Whether a diagnostic's place does not come after another's. -/
def Diagnostic.placeLe (a b : Diagnostic) : Bool :=
  a.line < b.line || (a.line = b.line && a.column ≤ b.column)

/-- Places are in the order of lines, and then of columns. -/
theorem Diagnostic.placeLe_iff {a b : Diagnostic} :
    placeLe a b = true ↔ a.line < b.line ∨ (a.line = b.line ∧ a.column ≤ b.column) := by
  simp [placeLe]

/-- The order of places is transitive. -/
theorem Diagnostic.placeLe_trans (a b c : Diagnostic) (hab : placeLe a b = true)
    (hbc : placeLe b c = true) : placeLe a c = true := by
  rw [placeLe_iff] at hab hbc ⊢
  omega

/-- Any two places can be compared. -/
theorem Diagnostic.placeLe_total (a b : Diagnostic) : placeLe a b || placeLe b a := by
  rw [Bool.or_eq_true, placeLe_iff, placeLe_iff]
  omega

namespace Ranked

/-- A report is in the order of lines, then of columns, then of ranks. -/
theorem le_iff {a b : Ranked} :
    le a b = true ↔ a.diagnostic.line < b.diagnostic.line ∨
      (a.diagnostic.line = b.diagnostic.line ∧ (a.diagnostic.column < b.diagnostic.column ∨
        (a.diagnostic.column = b.diagnostic.column ∧ a.rank ≤ b.rank))) := by
  simp [le]

/-- The order of reports is transitive. -/
theorem le_trans (a b c : Ranked) (hab : le a b = true) (hbc : le b c = true) :
    le a c = true := by
  rw [le_iff] at hab hbc ⊢
  omega

/-- Any two diagnostics of a report can be compared. -/
theorem le_total (a b : Ranked) : le a b || le b a := by
  rw [Bool.or_eq_true, le_iff, le_iff]
  omega

/-- The order by rank alone. -/
def rankLe (a b : Ranked) : Bool := a.rank ≤ b.rank

/-- Diagnostics are tied by rank if their ranks are the same. -/
theorem tied_rankLe (a b : Ranked) : tied rankLe a b = (b.rank == a.rank) := by
  rw [Bool.eq_iff_iff, tied_iff, beq_iff_eq]
  simp only [rankLe, decide_eq_true_eq]
  omega

/-- A tie of a report is a place together with a rank. -/
theorem tied_le (k : Nat) (d : Diagnostic) (b : Ranked) :
    tied le ⟨k, d⟩ b = (b.rank == k && tied Diagnostic.placeLe d b.diagnostic) := by
  rw [Bool.eq_iff_iff, tied_iff, le_iff, le_iff, Bool.and_eq_true, beq_iff_eq, tied_iff,
    Diagnostic.placeLe_iff, Diagnostic.placeLe_iff]
  dsimp only
  omega

section

variable {found reference : List Ranked} (hasc : reference.Pairwise fun a b => rankLe a b = true)
  (hranks : ∀ k, found.filter (·.rank == k) = reference.filter (·.rank == k))
include hasc hranks

/-- Sorting brings the reports about one place into the order of the reference:
ranks ascend on both sides, and for each rank both hold the same reports. -/
theorem filter_place_mergeSort (d : Diagnostic) :
    (found.mergeSort le).filter (fun x => tied Diagnostic.placeLe d x.diagnostic) =
      reference.filter (fun x => tied Diagnostic.placeLe d x.diagnostic) := by
  refine eq_of_filter_tied ?_ ?_ ?_ (hasc.filter _) fun a => ?_
  · intro a b c hab hbc
    simp only [rankLe, decide_eq_true_eq] at hab hbc ⊢
    omega
  · intro a b
    simp only [rankLe, Bool.or_eq_true, decide_eq_true_eq]
    omega
  · have hsorted := List.pairwise_mergeSort le_trans le_total found
    refine (hsorted.filter _).imp_of_mem fun {x y} hx hy hxy => ?_
    have hdx := tied_iff.1 (List.mem_filter.1 hx).2
    have hdy := tied_iff.1 (List.mem_filter.1 hy).2
    rw [Diagnostic.placeLe_iff, Diagnostic.placeLe_iff] at hdx hdy
    rw [le_iff] at hxy
    simp only [rankLe, decide_eq_true_eq]
    omega
  · have htie : ∀ x : Ranked, (tied rankLe a x && tied Diagnostic.placeLe d x.diagnostic) =
        tied le ⟨a.rank, d⟩ x := fun x => by rw [tied_rankLe, tied_le]
    have hclass : ∀ l : List Ranked, l.filter (tied le ⟨a.rank, d⟩) =
        (l.filter (·.rank == a.rank)).filter fun x => tied Diagnostic.placeLe d x.diagnostic := by
      intro l
      rw [List.filter_filter]
      exact List.filter_congr fun x _ => by rw [tied_le, Bool.and_comm]
    rw [List.filter_filter, List.filter_filter]
    simp only [htie]
    rw [filter_tied_mergeSort le_trans le_total, hclass, hclass, hranks]

/-- **Reports that agree with a reference rank by rank are sorted into its stable
sort by place**, if ranks ascend in the reference. -/
theorem isStableSort_of_ranks :
    IsStableSort Diagnostic.placeLe (reference.map (·.diagnostic))
      ((found.mergeSort le).map (·.diagnostic)) := by
  have hties : ∀ d : Diagnostic,
      ((found.mergeSort le).map (·.diagnostic)).filter (tied Diagnostic.placeLe d) =
        (reference.map (·.diagnostic)).filter (tied Diagnostic.placeLe d) := by
    intro d
    have hplace := filter_place_mergeSort hasc hranks d
    rw [List.filter_map, List.filter_map]
    exact congrArg (List.map (·.diagnostic)) hplace
  refine ⟨List.pairwise_map.2 ?_, perm_of_filter_tied Diagnostic.placeLe_total hties, hties⟩
  refine (List.pairwise_mergeSort le_trans le_total found).imp fun {a b} hab => ?_
  rw [le_iff] at hab
  rw [Diagnostic.placeLe_iff]
  omega

end

end Ranked

end YamlStyle
