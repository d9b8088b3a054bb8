/-
# Stable sorting

A comparison that is transitive and total need not tell all elements apart: two
elements are tied if neither comes strictly before the other.  A stable sort of
a list holds the same elements in ascending order and leaves the elements of
each tie in the order in which the list has them (`IsStableSort`).  Merge sort
keeps that order (`filter_tied_mergeSort`), and a list has no second stable sort
(`IsStableSort.unique`): of two ascending lists the heads are tied, so the ties
of the head, which agree in both, begin with the same element
(`eq_of_filter_tied`).  So it does not matter whether elements are left out before
or after sorting (`filter_mergeSort`).
-/

namespace YamlStyle

variable {α : Type} {le : α → α → Bool}

/-- Whether neither of two elements comes strictly before the other. -/
def tied (le : α → α → Bool) (a b : α) : Bool := le a b && le b a

/-- Items are tied if each is at most the other. -/
theorem tied_iff {a b : α} : tied le a b = true ↔ le a b = true ∧ le b a = true := by
  simp [tied]

/-- `sorted` is the list `l` in ascending order, with ties as `l` has them. -/
structure IsStableSort (le : α → α → Bool) (l sorted : List α) : Prop where
  ascending : sorted.Pairwise fun a b => le a b = true
  perm : sorted.Perm l
  ties : ∀ a, sorted.filter (tied le a) = l.filter (tied le a)

/-- An element of one of two lists with the same ties is tied with one of the
other. -/
theorem exists_tied_of_filter_tied (total : ∀ a b, le a b || le b a) {l₁ l₂ : List α}
    (h : ∀ a, l₁.filter (tied le a) = l₂.filter (tied le a)) {a : α} (ha : a ∈ l₁) :
    ∃ b ∈ l₂, tied le a b = true := by
  have hself : tied le a a = true := by simpa [tied] using total a a
  have hmem : a ∈ l₂.filter (tied le a) := h a ▸ List.mem_filter.2 ⟨ha, hself⟩
  exact ⟨a, (List.mem_filter.1 hmem).1, hself⟩

/-- The first element of an ascending list comes before every element that is
tied with one of the list. -/
theorem le_of_tied_mem (trans : ∀ a b c, le a b → le b c → le a c) {a b x : α} {l : List α}
    (h : (a :: l).Pairwise fun a b => le a b = true) (hx : x ∈ a :: l)
    (hbx : tied le b x = true) : le a b = true := by
  have hxb : le x b = true := (tied_iff.1 hbx).2
  rcases List.mem_cons.1 hx with rfl | hx
  · exact hxb
  · exact trans a x b (List.rel_of_pairwise_cons h hx) hxb

/-- **An ascending list is determined by its ties.** -/
theorem eq_of_filter_tied (trans : ∀ a b c, le a b → le b c → le a c)
    (total : ∀ a b, le a b || le b a) {l₁ l₂ : List α}
    (h₁ : l₁.Pairwise fun a b => le a b = true) (h₂ : l₂.Pairwise fun a b => le a b = true)
    (h : ∀ a, l₁.filter (tied le a) = l₂.filter (tied le a)) : l₁ = l₂ := by
  induction l₁ generalizing l₂ with
  | nil =>
    cases l₂ with
    | nil => rfl
    | cons b t =>
      obtain ⟨x, hx, -⟩ := exists_tied_of_filter_tied total (fun a => (h a).symm)
        (List.mem_cons_self (a := b) (l := t))
      cases hx
  | cons a s ih =>
    cases l₂ with
    | nil =>
      obtain ⟨x, hx, -⟩ := exists_tied_of_filter_tied total h
        (List.mem_cons_self (a := a) (l := s))
      cases hx
    | cons b t =>
      obtain ⟨x, hx, hax⟩ := exists_tied_of_filter_tied total h
        (List.mem_cons_self (a := a) (l := s))
      obtain ⟨y, hy, hby⟩ := exists_tied_of_filter_tied total (fun a => (h a).symm)
        (List.mem_cons_self (a := b) (l := t))
      have hba : le b a = true := le_of_tied_mem trans h₂ hx hax
      have hab : le a b = true := le_of_tied_mem trans h₁ hy hby
      have haa : tied le a a = true := by simpa [tied] using total a a
      have htie := h a
      rw [List.filter_cons_of_pos haa, List.filter_cons_of_pos (tied_iff.2 ⟨hab, hba⟩)] at htie
      obtain rfl : a = b := (List.cons.inj htie).1
      -- the heads agree, so a tie of the tails is a tie of the lists less its head
      have htail : s = t := by
        refine ih h₁.tail h₂.tail fun c => ?_
        have hc := h c
        cases hca : tied le c a with
        | true => simpa [List.filter_cons, hca] using hc
        | false => simpa [List.filter_cons, hca] using hc
      rw [htail]

/-- Lists with the same ties have the same elements, equally often. -/
theorem perm_of_filter_tied [DecidableEq α] (total : ∀ a b, le a b || le b a)
    {l₁ l₂ : List α} (h : ∀ a, l₁.filter (tied le a) = l₂.filter (tied le a)) :
    l₁.Perm l₂ := by
  refine List.perm_iff_count.2 fun a => ?_
  have haa : tied le a a = true := by simpa [tied] using total a a
  rw [← List.count_filter haa, h a, List.count_filter haa]

/-- The elements of one tie are ascending in any order. -/
theorem pairwise_filter_tied (trans : ∀ a b c, le a b → le b c → le a c) (l : List α) (a : α) :
    (l.filter (tied le a)).Pairwise fun a b => le a b = true := by
  refine List.pairwise_of_forall_mem_list fun x hx y hy => ?_
  have hxa := (tied_iff.1 (List.mem_filter.1 hx).2).2
  have hay := (tied_iff.1 (List.mem_filter.1 hy).2).1
  exact trans x a y hxa hay

/-- Merge sort keeps the order within a tie: what it keeps as a sublist has the
length of the whole tie. -/
theorem filter_tied_mergeSort (trans : ∀ a b c, le a b → le b c → le a c)
    (total : ∀ a b, le a b || le b a) (l : List α) (a : α) :
    (l.mergeSort le).filter (tied le a) = l.filter (tied le a) := by
  have hsub : (l.filter (tied le a)).Sublist (l.mergeSort le) :=
    List.sublist_mergeSort trans total (pairwise_filter_tied trans l a) List.filter_sublist
  have hfilter : (l.filter (tied le a)).Sublist ((l.mergeSort le).filter (tied le a)) := by
    have h := hsub.filter (tied le a)
    rwa [List.filter_filter, show (fun x => tied le a x && tied le a x) = tied le a from
      funext fun x => Bool.and_self _] at h
  have hlen := ((List.mergeSort_perm l le).filter (tied le a)).length_eq
  exact (hfilter.eq_of_length hlen.symm).symm

/-- Merge sort and leaving elements out commute: both keep every tie in order. -/
theorem filter_mergeSort (trans : ∀ a b c, le a b → le b c → le a c)
    (total : ∀ a b, le a b || le b a) (keep : α → Bool) (l : List α) :
    (l.mergeSort le).filter keep = (l.filter keep).mergeSort le := by
  refine eq_of_filter_tied trans total ?_ ?_ fun a => ?_
  · exact (List.pairwise_mergeSort trans total l).filter keep
  · exact List.pairwise_mergeSort trans total (l.filter keep)
  · rw [filter_tied_mergeSort trans total, List.filter_filter, List.filter_filter]
    simp only [Bool.and_comm (tied le a _)]
    rw [← List.filter_filter, ← List.filter_filter, filter_tied_mergeSort trans total]

/-- **A list has one stable sort.** -/
theorem IsStableSort.unique (trans : ∀ a b c, le a b → le b c → le a c)
    (total : ∀ a b, le a b || le b a) {l s t : List α} (hs : IsStableSort le l s)
    (ht : IsStableSort le l t) : s = t :=
  eq_of_filter_tied trans total hs.ascending ht.ascending fun a =>
    (hs.ties a).trans (ht.ties a).symm

end YamlStyle
