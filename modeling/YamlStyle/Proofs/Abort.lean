/-
# When linting stops

At the first fault of the stream all rules before the first one that walks with
the open collections go on, that one fails, and linting stops with its error
(`runTokens_eq_error`).  Before the fault no rule fails, whatever keys it has
recorded, and without a fault, or with neither rule on keys, nothing stops linting
(`runTokens_isOk`).  Which rule comes first is a matter of registration: a linter
keeps the order of the registry (`keyRule?_of_build`).
-/

import YamlStyle.Pattern.Standard
import YamlStyle.Proofs.KeyPasses
import YamlStyle.Proofs.Resolution

namespace YamlStyle
namespace Linter

open Brackets

/-! ### All passes -/

/-- The first rule among passes that walks with the open collections. -/
def keyRule? (passes : List Pass) : Option TokenRule :=
  (passes.map (·.1.rule)).find? TokenRule.tracksKeys

/-- Passes keep their rules as they go on. -/
theorem keyRule?_map_after (passes : List Pass) (w : Window) :
    keyRule? (passes.map (·.after w)) = keyRule? passes := by
  simp [keyRule?, Function.comp_def]

section

variable {ts : List Token} {i : Nat} {w : Window} {ws : List Window} {passes : List Pass}
  {r : TokenRule} {cause : StreamError}

/-- At a fault the first pass that walks with the open collections fails. -/
theorem stepAll_of_fault (h : ∀ p ∈ passes, p.AgreesAt ts i) (hw : w.At ts i)
    (hr : keyRule? passes = some r) (hfault : fault? ts i = some cause) :
    stepAll w passes = .error (.malformedStream r cause) := by
  rw [keyRule?, List.find?_map] at hr
  obtain ⟨p, hp, rfl⟩ := Option.map_eq_some_iff.1 hr
  obtain ⟨htracks, front, back, rfl, hfront⟩ := List.find?_eq_some_iff_append.1 hp
  refine stepAll_eq_error (fun q hq => ?_) ?_ back
  · have hnot : q.1.rule.tracksKeys = false := by simpa using hfront q hq
    exact (h q (List.mem_append_left _ hq)).exists_outcome hw (Or.inl hnot)
  · exact (h p (by simp)).outcome_eq_error hw htracks hfault

/-- Without a fault, or without such a pass, all passes go on. -/
theorem stepAll_of_no_fault (h : ∀ p ∈ passes, p.AgreesAt ts i) (hw : w.At ts i)
    (hnone : keyRule? passes = none ∨ fault? ts i = none) :
    stepAll w passes = .ok (passes.map (·.after w), passes.flatMap (·.reportAt w)) := by
  refine stepAll_eq_ok fun p hp => (h p hp).exists_outcome hw ?_
  refine hnone.imp_left fun hrule => ?_
  rw [keyRule?, List.find?_eq_none] at hrule
  simpa using hrule p.1.rule (List.mem_map_of_mem hp)

/-- Passes that go on agree with the stream up to the next position. -/
theorem agreesAt_map_after (h : ∀ p ∈ passes, p.AgreesAt ts i) (hw : w.At ts i) :
    ∀ p ∈ passes.map (·.after w), p.AgreesAt ts (i + 1) := by
  intro p hp
  obtain ⟨q, hq, rfl⟩ := List.mem_map.1 hp
  exact (h q hq).after hw

/-- **The first fault stops the passes**, with the error of the first rule that
walks with the open collections. -/
theorem runTokens_eq_error (h : ∀ p ∈ passes, p.AgreesAt ts i) (hws : Window.Along ts i ws)
    (hr : keyRule? passes = some r) {k : Nat} (hk : k < ws.length)
    (hfault : fault? ts (i + k) = some cause) (hbefore : ∀ j < k, fault? ts (i + j) = none) :
    runTokens passes ws = .error (.malformedStream r cause) := by
  -- the passes are those before position `i`, so they change along with it
  induction ws generalizing passes i k with
  | nil => exact absurd hk (Nat.not_lt_zero k)
  | cons w ws ih =>
    cases k with
    | zero =>
      rw [runTokens, stepAll_of_fault h hws.head hr hfault]
      rfl
    | succ k =>
      have hnext : ∀ j, i + 1 + j = i + (j + 1) := fun j => by omega
      rw [runTokens, stepAll_of_no_fault h hws.head (Or.inr (hbefore 0 (by omega)))]
      have hrest := ih (agreesAt_map_after h hws.head) hws.tail
        ((keyRule?_map_after passes w).trans hr) (Nat.lt_of_succ_lt_succ hk)
        (by rw [hnext]; exact hfault) fun j hj => by rw [hnext]; exact hbefore (j + 1) (by omega)
      simp [bind, Except.bind, hrest]

/-- Without a fault, or without such a rule, the passes run through. -/
theorem runTokens_isOk (h : ∀ p ∈ passes, p.AgreesAt ts i) (hws : Window.Along ts i ws)
    (hnone : keyRule? passes = none ∨ ∀ j, fault? ts j = none) :
    ∃ found, runTokens passes ws = .ok found := by
  induction ws generalizing passes i with
  | nil => exact ⟨[], rfl⟩
  | cons w ws ih =>
    obtain ⟨found, hrest⟩ := ih (agreesAt_map_after h hws.head) hws.tail
      (hnone.imp_left (keyRule?_map_after passes w).trans)
    rw [runTokens, stepAll_of_no_fault h hws.head (hnone.imp_right fun hall => hall i)]
    exact ⟨_, by simp [bind, Except.bind, hrest, pure, Except.pure]; rfl⟩

end

end Linter

/-! ### Linting -/

/-- The rule as one on tokens. -/
def Rule.token? : Rule → Option TokenRule
  | .token r => some r
  | .line _ => none

/-- The rule that is registered first among those that are on and walk with the
open collections. -/
def Registry.keyRule? [Pattern.Engine] (g : Registry) (c : Config) : Option TokenRule :=
  ((g.enabled c).filterMap (·.rule.token?)).find? TokenRule.tracksKeys

/-- A linter asks the rules on tokens in the order of their registration. -/
theorem Linter.keyRule?_of_build [Pattern.Engine] {g : Registry} {c : Config} {l : Linter}
    (hl : build g c = .ok l) :
    keyRule? (l.tokenRules.map fun a => (a, Nesting.empty)) = g.keyRule? c := by
  have hrule : ∀ x : Nat × Enabled, (x.2.tokenRule? x.1).map (·.rule) = x.2.rule.token? := by
    rintro ⟨rank, r | r, severity, options⟩ <;> rfl
  rw [keyRule?, Registry.keyRule?, Registry.enabled, ← c.map_snd_enabledFrom 0, (build_eq_ok hl).1,
    Enabled.tokenRules, List.map_map, List.filterMap_map, List.map_filterMap]
  simp only [Function.comp_def, hrule]

namespace Linter

open Brackets

section

variable {g : Registry} {c : Config} {l : Linter} {d : Document}

/-- Before the first token no pass has a collection open. -/
theorem agreesAt_start (rules : List ActiveTokenRule) (d : Document) :
    ∀ p ∈ rules.map fun a => (a, Nesting.empty), Pass.AgreesAt d.tokens 0 p := by
  intro p hp admits _
  obtain ⟨a, -, rfl⟩ := List.mem_map.1 hp
  exact agree_empty admits d.tokens

/-- The first fault stops linting if one of the rules on keys is on. -/
theorem lint_eq_error [Pattern.Engine] (hl : build g c = .ok l) {r : TokenRule}
    (hr : g.keyRule? c = some r) {i : Nat} {cause : StreamError} (h : FirstFault d.tokens i cause) :
    l.lint d = .error (.malformedStream r cause) := by
  have hlt : i < d.windows.length := by
    rw [d.length_windows]
    exact h.lt
  have hrun := runTokens_eq_error (agreesAt_start l.tokenRules d) d.along_windows
    ((keyRule?_of_build hl).trans hr) hlt (by rw [Nat.zero_add]; exact h.1)
    fun j hj => by rw [Nat.zero_add]; exact h.2 j hj
  rw [lint, hrun]
  rfl

/-- Without such a rule, or without a fault, there is a report. -/
theorem lint_isOk [Pattern.Engine] (hl : build g c = .ok l)
    (h : g.keyRule? c = none ∨ ∀ i, fault? d.tokens i = none) : ∃ ds, l.lint d = .ok ds := by
  obtain ⟨found, hrun⟩ := runTokens_isOk (agreesAt_start l.tokenRules d) d.along_windows
    (h.imp_left (keyRule?_of_build hl).trans)
  exact ⟨_, by rw [lint, hrun]; rfl⟩

end

/-- **Linting stops at the first fault of the stream, or nowhere.**  It fails
exactly if the stream is at fault and one of the two rules on keys is on; the
error then names the one that is registered first, with what is wrong at the
first fault.  In every other case it gives diagnostics. -/
theorem lint_error_iff_firstFault [Pattern.Engine] (g : Registry) (c : Config) (l : Linter)
    (d : Document) (hl : build g c = .ok l) :
    (∀ e, l.lint d = .error e ↔ ∃ r i cause, g.keyRule? c = some r ∧
      FirstFault d.tokens i cause ∧ e = .malformedStream r cause) ∧
    ((∃ ds, l.lint d = .ok ds) ↔ g.keyRule? c = none ∨ ∀ i, fault? d.tokens i = none) := by
  have hcases : (∃ r i cause, g.keyRule? c = some r ∧ FirstFault d.tokens i cause) ∨
      (g.keyRule? c = none ∨ ∀ i, fault? d.tokens i = none) := by
    cases g.keyRule? c with
    | none => exact Or.inr (Or.inl rfl)
    | some r =>
      exact (exists_firstFault_or d.tokens).imp (fun ⟨i, cause, h⟩ => ⟨r, i, cause, rfl, h⟩) Or.inr
  refine ⟨fun e => ⟨fun he => ?_, ?_⟩, ⟨fun ⟨ds, hds⟩ => ?_, lint_isOk hl⟩⟩
  · rcases hcases with ⟨r, i, cause, hr, hfault⟩ | hnone
    · have herror := lint_eq_error hl hr hfault
      exact ⟨r, i, cause, hr, hfault, Except.error.inj (he.symm.trans herror)⟩
    · obtain ⟨ds, hds⟩ := lint_isOk hl hnone
      rw [hds] at he
      cases he
  · rintro ⟨r, i, cause, hr, hfault, rfl⟩
    exact lint_eq_error hl hr hfault
  · refine hcases.resolve_left ?_
    rintro ⟨r, i, cause, hr, hfault⟩
    rw [lint_eq_error hl hr hfault] at hds
    cases hds

open Pattern.Standard in
/-- A rule on commas is registered first and goes on; of the two rules on keys the
one registered first is off.  An end closes a sequence and a second one is at
fault, before the stream ends inside another sequence. -/
theorem lint_error_iff_firstFault_ordering :
    let g : Registry :=
      ⟨[.token .commas, .token .keyDuplicates, .token .keyOrdering], by decide⟩
    let c := (Config.preset "all").withRule "key-duplicates" (.level .off)
    let mark : Mark := ⟨1, 0, 3⟩
    let d : Document := ⟨"[]\n]\n[".toList,
      [⟨.flowSequenceStart, ⟨0, 0, 0⟩, ⟨0, 1, 1⟩⟩, ⟨.flowSequenceEnd, ⟨0, 1, 1⟩, ⟨0, 2, 2⟩⟩,
        ⟨.flowSequenceEnd, mark, ⟨1, 1, 4⟩⟩, ⟨.flowSequenceStart, ⟨2, 0, 5⟩, ⟨2, 1, 6⟩⟩,
        ⟨.streamEnd, ⟨2, 1, 6⟩, ⟨2, 1, 6⟩⟩]⟩
    ∃ l, build g c = .ok l ∧ g.keyRule? c = some .keyOrdering ∧
      FirstFault d.tokens 2 (.unmatchedEnd .flowSequenceEnd mark) ∧
      l.lint d = .error (.malformedStream .keyOrdering (.unmatchedEnd .flowSequenceEnd mark)) := by
  intro g c mark d
  have hrule : g.keyRule? c = some .keyOrdering := by decide +kernel
  have hfault : FirstFault d.tokens 2 (.unmatchedEnd .flowSequenceEnd mark) := by
    unfold FirstFault
    decide +kernel
  have hok : (build g c).isOk = true := by decide +kernel
  cases hl : build g c with
  | error cause => rw [hl] at hok; cases hok
  | ok l =>
    exact ⟨l, rfl, hrule, hfault,
      ((lint_error_iff_firstFault g c l d hl).1 _).2 ⟨_, 2, _, hrule, hfault, rfl⟩⟩

end Linter
end YamlStyle
