/-
# Balanced collections

A stream is balanced if every end closes a collection that is open, every collection
is closed by one end, and none is open where the stream stops (`Brackets.Balanced`).
Which kinds of openers and ends go together is left open there: an end of a flow
mapping should close a flow mapping (`TokenKind.pairsWith`), but a walk takes the
innermost collection away, whatever its kind and whatever the end.

So linting that gives diagnostics has seen a balanced stream, in the sense that the
numbers are right at every place (`lint_balanced`).  Collections may still be closed
by ends of another kind (`lint_crossed`).
-/

import YamlStyle.Pattern.Standard
import YamlStyle.Proofs.Refusals

namespace YamlStyle

/-- Whether an end is of the kind that an opener asks for. -/
def TokenKind.pairsWith : TokenKind → TokenKind → Bool
  | flowMappingStart, flowMappingEnd => true
  | flowSequenceStart, flowSequenceEnd => true
  | blockMappingStart, blockEnd => true
  | blockSequenceStart, blockEnd => true
  | _, _ => false

namespace Brackets

/-- The token at `i` is an end and closes the collection opened at `o`. -/
structure Closes (ts : List Token) (o i : Nat) : Prop where
  ends : endsAt ts i = true
  innermost : Innermost ts i o

/-- Openers and ends are matched with each other, each pair being of kinds that go
together. -/
structure Balanced (pairs : TokenKind → TokenKind → Bool) (ts : List Token) : Prop where
  ends : ∀ i t, ts[i]? = some t → t.kind.endsCollection = true →
    ∃ o opener, Closes ts o i ∧ ts[o]? = some opener ∧ pairs opener.kind t.kind = true
  openers : ∀ o, (openedAt? ts o).isSome → ∃! i, Closes ts o i
  closed : ∀ o, ¬ Unmatched ts ts.length o

section

variable {ts : List Token} {i j k o : Nat}

/-! ### One opener -/

/-- What is unmatched is an opener. -/
theorem Unmatched.isSome_openedAt? (h : Unmatched ts i o) : (openedAt? ts o).isSome := by
  induction i with
  | zero => exact absurd h id
  | succ i ih =>
    rcases unmatched_succ.1 h with ⟨rfl, hopen⟩ | ⟨h, -⟩
    · exact hopen
    · exact ih h

/-- An opener is unmatched up to some place, unless an end closes it before. -/
theorem unmatched_or_exists_closes (hopen : (openedAt? ts o).isSome) (hi : o < i) :
    Unmatched ts i o ∨ ∃ j < i, Closes ts o j := by
  induction i with
  | zero => exact absurd hi (Nat.not_lt_zero o)
  | succ i ih =>
    rcases Nat.lt_succ_iff_lt_or_eq.1 hi with hlt | rfl
    · rcases ih hlt with hun | ⟨j, hj, hcloses⟩
      · by_cases hend : endsAt ts i = true ∧ Innermost ts i o
        · exact Or.inr ⟨i, Nat.lt_succ_self i, hend.1, hend.2⟩
        · exact Or.inl (unmatched_succ.2 (Or.inr ⟨hun, hend⟩))
      · exact Or.inr ⟨j, by omega, hcloses⟩
    · exact Or.inl (unmatched_succ.2 (Or.inl ⟨rfl, hopen⟩))

/-- Once closed, a collection stays closed. -/
theorem Closes.not_unmatched (h : Closes ts o i) (hk : i < k) : ¬ Unmatched ts k o := by
  have hlt : o < i := h.innermost.1.lt
  induction k with
  | zero => exact absurd hk (Nat.not_lt_zero i)
  | succ k ih =>
    intro hun
    rcases unmatched_succ.1 hun with ⟨rfl, -⟩ | ⟨hun, hopen⟩
    · omega
    · rcases Nat.lt_succ_iff_lt_or_eq.1 hk with hik | rfl
      · exact ih hik hun
      · exact hopen ⟨h.ends, h.innermost⟩

/-- A collection is closed by one end at most. -/
theorem Closes.unique (hi : Closes ts o i) (hj : Closes ts o j) : i = j := by
  rcases Nat.lt_trichotomy i j with h | h | h
  · exact absurd hj.innermost.1 (hi.not_unmatched h)
  · exact h
  · exact absurd hi.innermost.1 (hj.not_unmatched h)

/-! ### Streams without a fault -/

/-- Where the stream is not at fault, an end has something to close. -/
theorem exists_closes_of_fault?_eq_none {t : Token} (hfault : fault? ts i = none)
    (ht : ts[i]? = some t) (hend : t.kind.endsCollection = true) : ∃ o, Closes ts o i := by
  have hends : endsAt ts i = true := by simp [endsAt, ht, hend]
  rcases List.eq_nil_or_concat (unmatchedBefore ts i) with hnil | ⟨front, last, hlast⟩
  · simp [fault?, ht, hend, hnil] at hfault
  · rw [List.concat_eq_append] at hlast
    exact ⟨last, hends, (innermost_iff_of_eq_append hlast).2 rfl⟩

/-- Where the stream is not at fault, nothing is open when it ends. -/
theorem not_unmatched_of_streamEnd {t : Token} (hfault : fault? ts i = none)
    (ht : ts[i]? = some t) (hend : t.kind = .streamEnd) : ¬ Unmatched ts i o := by
  have hnil : unmatchedBefore ts i = [] := by
    by_contra hne
    simp [fault?, ht, hend, hne, TokenKind.endsCollection] at hfault
  intro hun
  have hmem := mem_unmatchedBefore.2 hun
  rw [hnil] at hmem
  cases hmem

/-- **A stream without a fault is balanced**, up to the kinds. -/
theorem balanced_of_fault?_eq_none (hfault : ∀ i, fault? ts i = none)
    (hlast : ts.getLast?.map (·.kind) = some .streamEnd) :
    Balanced (fun _ _ => true) ts := by
  obtain ⟨t, ht, hend⟩ := Option.map_eq_some_iff.1 hlast
  rw [List.getLast?_eq_getElem?] at ht
  have hpos : ts.length - 1 < ts.length := (List.getElem?_eq_some_iff.1 ht).1
  -- the last token opens nothing, so what is unmatched after it is unmatched before it
  have hclosed : ∀ o, ¬ Unmatched ts ts.length o := by
    intro o hun
    have hlength : ts.length = ts.length - 1 + 1 := by omega
    rw [hlength] at hun
    rcases unmatched_succ.1 hun with ⟨-, hopen⟩ | ⟨hun, -⟩
    · simp [openedAt?, ht, hend, TokenKind.opens?] at hopen
    · exact not_unmatched_of_streamEnd (hfault _) ht hend hun
  refine ⟨fun i t ht hends => ?_, fun o hopen => ?_, hclosed⟩
  · obtain ⟨o, hcloses⟩ := exists_closes_of_fault?_eq_none (hfault i) ht hends
    obtain ⟨kind, hkind⟩ := Option.isSome_iff_exists.1 hcloses.innermost.1.isSome_openedAt?
    obtain ⟨opener, hopener, -⟩ := Option.bind_eq_some_iff.1 hkind
    exact ⟨o, opener, hcloses, hopener, rfl⟩
  · have hlt : o < ts.length := by
      obtain ⟨kind, hkind⟩ := Option.isSome_iff_exists.1 hopen
      obtain ⟨opener, hopener, -⟩ := Option.bind_eq_some_iff.1 hkind
      exact (List.getElem?_eq_some_iff.1 hopener).1
    rcases unmatched_or_exists_closes hopen hlt with hun | ⟨i, -, hcloses⟩
    · exact absurd hun (hclosed o)
    · exact ⟨i, hcloses, fun j hj => hj.unique hcloses⟩

end

end Brackets

/-! ### Linting -/

/-- If a rule on keys is on, one is the first of them. -/
theorem Registry.exists_keyRule? [Pattern.Engine] {g : Registry} {c : Config} {l : Linter}
    {r : TokenRule} (hl : Linter.build g c = .ok l) (hr : .token r ∈ g.rules)
    (htracks : r.tracksKeys = true) (hon : c.switchesOn (.token r) = true) : ∃ q, g.keyRule? c = some q := by
  obtain ⟨-, -, hfit⟩ := Linter.exists_build_eq_ok_iff.1 ⟨l, hl⟩
  have henabled := c.enabled?_of_not_rejects (hfit _ hr)
  rw [if_pos hon] at henabled
  obtain ⟨severity, options, henabled⟩ := henabled
  have hmem : r ∈ (g.enabled c).filterMap (·.rule.token?) :=
    List.mem_filterMap.2 ⟨_, List.mem_filterMap.2 ⟨_, hr, henabled⟩, rfl⟩
  exact Option.isSome_iff_exists.1 (List.find?_isSome.2 ⟨r, hmem, htracks⟩)

open Brackets in
/-- A stream that is linted by one of the rules on keys is nowhere at fault. -/
theorem fault?_eq_none_of_lint [Pattern.Engine] {d : Document} {c : Config} {ds : List Diagnostic}
    (hon : c.switchesOn (.token .keyDuplicates) = true ∨ c.switchesOn (.token .keyOrdering) = true)
    (h : lint d c = .ok ds) : ∀ i, fault? d.tokens i = none := by
  unfold lint at h
  cases hl : Linter.build .builtin c with
  | error cause =>
    rw [hl] at h
    cases h
  | ok l =>
    rw [hl] at h
    have hrule : ∃ q, Registry.builtin.keyRule? c = some q := by
      rcases hon with hon | hon
      · exact Registry.exists_keyRule? hl (by decide) rfl hon
      · exact Registry.exists_keyRule? hl (by decide) rfl hon
    obtain ⟨q, hq⟩ := hrule
    rcases exists_firstFault_or d.tokens with ⟨i, cause, hfault⟩ | hnone
    · simp only [Linter.lint_eq_error hl hq hfault] at h
      cases h
    · exact hnone

open Brackets in
/-- **What is linted by a rule on keys is balanced, whatever the kinds.**  If the stream
stops with its end, every end of a collection closes the innermost collection that is
open there, every collection is closed by exactly one end, and none is left open. -/
theorem lint_balanced [Pattern.Engine] (d : Document) (c : Config) (ds : List Diagnostic)
    (hlast : d.tokens.getLast?.map (·.kind) = some .streamEnd)
    (hon : c.switchesOn (.token .keyDuplicates) = true ∨ c.switchesOn (.token .keyOrdering) = true)
    (h : lint d c = .ok ds) : Balanced (fun _ _ => true) d.tokens :=
  balanced_of_fault?_eq_none (fault?_eq_none_of_lint hon h) hlast

open Brackets Pattern.Standard in
/-- A flow sequence in a block mapping, closed the wrong way around. -/
theorem lint_balanced_overlap :
    let mark : Mark := ⟨0, 0, 0⟩
    let d : Document := ⟨[], [⟨.blockMappingStart, mark, mark⟩, ⟨.flowSequenceStart, mark, mark⟩,
      ⟨.blockEnd, mark, mark⟩, ⟨.flowSequenceEnd, mark, mark⟩, ⟨.streamEnd, mark, mark⟩]⟩
    let c := Config.only ["key-ordering"]
    d.tokens.getLast?.map (·.kind) = some .streamEnd ∧
      c.switchesOn (.token .keyOrdering) = true ∧ lint d c = .ok [] ∧
      Balanced (fun _ _ => true) d.tokens ∧ Closes d.tokens 1 2 ∧ Closes d.tokens 0 3 := by
  intro mark d c
  have hlast : d.tokens.getLast?.map (·.kind) = some .streamEnd := rfl
  have hon : c.switchesOn (.token .keyOrdering) = true := by decide +kernel
  have hlint : lint d c = .ok [] := by
    have hsome : (lint d c).toOption = some [] := by decide +kernel
    cases hd : lint d c with
    | error e => rw [hd] at hsome; cases hsome
    | ok ds => rw [hd] at hsome; exact congrArg _ (Option.some.inj hsome)
  exact ⟨hlast, hon, hlint, lint_balanced d c [] hlast (Or.inr hon) hlint,
    ⟨by decide, by decide⟩, ⟨by decide, by decide⟩⟩

open Brackets Pattern.Standard in
/-- A flow sequence is closed by the end of a flow mapping, and no mapping was opened.
Both rules on keys accept this, so balance does not extend to kinds. -/
theorem lint_crossed :
    let d : Document := ⟨"[\x7d".toList, [⟨.flowSequenceStart, ⟨0, 0, 0⟩, ⟨0, 1, 1⟩⟩,
      ⟨.flowMappingEnd, ⟨0, 1, 1⟩, ⟨0, 2, 2⟩⟩, ⟨.streamEnd, ⟨0, 2, 2⟩, ⟨0, 2, 2⟩⟩]⟩
    let c := Config.only ["key-duplicates", "key-ordering"]
    d.tokens.getLast?.map (·.kind) = some .streamEnd ∧
      c.switchesOn (.token .keyDuplicates) = true ∧ c.switchesOn (.token .keyOrdering) = true ∧
      (∃ ds, lint d c = .ok ds) ∧ (∀ t ∈ d.tokens, t.kind ≠ .flowMappingStart) ∧
      ¬ Balanced TokenKind.pairsWith d.tokens := by
  intro d c
  have hok : (lint d c).isOk = true := by decide +kernel
  refine ⟨rfl, by decide +kernel, by decide +kernel, ?_, by decide, fun hbalanced => ?_⟩
  · cases hd : lint d c with
    | error e => rw [hd] at hok; cases hok
    | ok ds => exact ⟨ds, rfl⟩
  · obtain ⟨o, opener, hcloses, hopener, hpairs⟩ := hbalanced.ends 1 _ rfl rfl
    have hlt : o < 1 := hcloses.innermost.1.lt
    obtain rfl : o = 0 := by omega
    obtain rfl := Option.some.inj hopener
    cases hpairs

end YamlStyle
