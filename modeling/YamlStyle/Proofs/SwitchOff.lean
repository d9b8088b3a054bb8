/-
# Switching a rule off

Switching one rule off takes its own diagnostics out of a report and leaves all
others as they are (`lint_withRule_off`).  The configuration resolves the same for
every other rule (`Config.enabled?_withRule_off`), and ranks count rules that are
off too, so the linter is the one it was, restricted to the other rules
(`Linter.build_withRule_off`).  No pass depends on another: without some of them a
sweep reports what it did, less what these reported (`Linter.emitted_filter`), and
it stops where it did if the pass that stopped it is still there
(`Linter.runTokens_filter_of_error`).  A report is a stable sort, and sorting
commutes with leaving out (`filter_mergeSort`).
-/

import YamlStyle.Pattern.Standard
import YamlStyle.Proofs.Dispatch
import YamlStyle.Proofs.Refusals

namespace YamlStyle

/-! ### Configurations -/

namespace Config

section

variable (c : Config) (name : String)

/-- A rule has the setting that is put under its name, and others keep theirs. -/
theorem getElem?_withRule (setting : Setting) (other : String) :
    (c.withRule name setting).rules[other]? =
      if name = other then some setting else c.rules[other]? := by
  change (c.rules.insert name setting)[other]? = _
  rw [Std.TreeMap.getElem?_insert]
  simp only [Std.LawfulEqCmp.compare_eq_iff_eq]

/-- Presets stay as they are. -/
theorem presetNames_withRule (setting : Setting) :
    (c.withRule name setting).presetNames = c.presetNames := rfl

/-- A rule that is off has no options, and others keep theirs. -/
theorem options_withRule_off (other : String) :
    (c.withRule name (.level .off)).options other =
      if name = other then none else c.options other := by
  rw [options, getElem?_withRule]
  split_ifs
  · rfl
  · rfl

/-- A rule that is off has no severity, and others keep theirs. -/
theorem severity_withRule_off (other : String) (default : Severity) (recommended : Bool) :
    (c.withRule name (.level .off)).severity other default recommended =
      if name = other then none else c.severity other default recommended := by
  rw [severity, severity, getElem?_withRule, presetNames_withRule]
  by_cases h : name = other
  · rw [if_pos h, if_pos h]
    rfl
  · rw [if_neg h, if_neg h]

/-- The rule is off, and every other one is what it was. -/
theorem enabled?_withRule_off [Pattern.Engine] (r : Rule) :
    (c.withRule name (.level .off)).enabled? r = if name = r.name then none else c.enabled? r := by
  rw [enabled?, enabled?, severity_withRule_off, Linter.resolve, Linter.resolve,
    options_withRule_off]
  split_ifs
  · rfl
  · rfl

/-- What is resolved for a rule is about that rule. -/
theorem rule_of_enabled? [Pattern.Engine] {c : Config} {r : Rule} {e : Enabled}
    (h : c.enabled? r = some e) : e.rule = r := by
  unfold enabled? at h
  split at h
  · cases h
    rfl
  · cases h

/-- Ranks count all registered rules, so the other rules keep theirs. -/
theorem enabledFrom_withRule_off [Pattern.Engine] (rank : Nat) (rules : List Rule) :
    (c.withRule name (.level .off)).enabledFrom rank rules =
      (c.enabledFrom rank rules).filter (·.2.rule.name ≠ name) := by
  induction rules generalizing rank with
  | nil => rfl
  | cons r rest ih =>
    have hr := enabled?_withRule_off c name r
    cases he : c.enabled? r with
    | none =>
      rw [he, ite_self] at hr
      rw [enabledFrom_cons_none hr, enabledFrom_cons_none he, ih]
    | some e =>
      have hrule := rule_of_enabled? he
      by_cases hname : name = r.name
      · rw [if_pos hname] at hr
        rw [enabledFrom_cons_none hr, enabledFrom_cons_some he, ih,
          List.filter_cons_of_neg (by simp [hrule, hname])]
      · rw [if_neg hname, he] at hr
        rw [enabledFrom_cons_some hr, enabledFrom_cons_some he, ih,
          List.filter_cons_of_pos (by simpa [hrule] using Ne.symm hname)]

end

/-- No fault comes up when a registered rule is switched off. -/
theorem exists_build_withRule_off [Pattern.Engine] {g : Registry} {c : Config} {l : Linter}
    {name : String} (hl : Linter.build g c = .ok l) (hname : name ∈ g.names) :
    ∃ l', Linter.build g (c.withRule name (.level .off)) = .ok l' := by
  obtain ⟨hpresets, hknown, hnone⟩ := Linter.exists_build_eq_ok_iff.1 ⟨l, hl⟩
  refine Linter.exists_build_eq_ok_iff.2 ⟨hpresets, fun other hother => ?_, fun r hr cause h => ?_⟩
  · rw [Std.TreeMap.mem_iff_isSome_getElem?, getElem?_withRule] at hother
    split_ifs at hother with heq
    · exact heq ▸ hname
    · exact hknown other (Std.TreeMap.mem_iff_isSome_getElem?.2 hother)
  · obtain ⟨v, hv, hrejected⟩ := h
    rw [options_withRule_off] at hv
    split_ifs at hv
    exact hnone r hr cause ⟨v, hv, hrejected⟩

end Config

/-! ### Rules by name -/

namespace Enabled

variable (keep : String → Bool)

/-- A rule on tokens is kept by its name. -/
theorem filter_tokenRule? (rank : Nat) (e : Enabled) :
    (e.tokenRule? rank).filter (keep ·.rule.name) =
      if keep e.rule.name then e.tokenRule? rank else none := by
  obtain ⟨r | r, severity, options⟩ := e
  · rfl
  · exact (ite_self _).symm

/-- A rule on lines is kept by its name. -/
theorem filter_lineRule? (rank : Nat) (e : Enabled) :
    (e.lineRule? rank).filter (keep ·.rule.name) =
      if keep e.rule.name then e.lineRule? rank else none := by
  obtain ⟨r | r, severity, options⟩ := e
  · exact (ite_self _).symm
  · rfl

/-- It is the same to leave out rules before they are told apart or after. -/
theorem tokenRules_filter (rules : List (Nat × Enabled)) :
    tokenRules (rules.filter (keep ·.2.rule.name)) =
      (tokenRules rules).filter (keep ·.rule.name) := by
  rw [tokenRules, tokenRules, List.filterMap_filter, List.filter_filterMap]
  simp only [filter_tokenRule?]

/-- The same for rules on lines. -/
theorem lineRules_filter (rules : List (Nat × Enabled)) :
    lineRules (rules.filter (keep ·.2.rule.name)) =
      (lineRules rules).filter (keep ·.rule.name) := by
  rw [lineRules, lineRules, List.filterMap_filter, List.filter_filterMap]
  simp only [filter_lineRule?]

end Enabled

namespace Linter

/-- The linter with some of its rules only, told by their names. -/
def restrict (keep : String → Bool) (l : Linter) : Linter :=
  ⟨l.tokenRules.filter (keep ·.rule.name), l.lineRules.filter (keep ·.rule.name)⟩

/-- With a rule off, the linter is the one with all rules but that one. -/
theorem build_withRule_off [Pattern.Engine] {g : Registry} {c : Config} {l : Linter} {name : String}
    (hl : build g c = .ok l) (hname : name ∈ g.names) :
    build g (c.withRule name (.level .off)) = .ok (l.restrict (· ≠ name)) := by
  obtain ⟨l', hl'⟩ := Config.exists_build_withRule_off hl hname
  obtain ⟨htokens, hlines⟩ := build_eq_ok hl
  obtain ⟨htokens', hlines'⟩ := build_eq_ok hl'
  rw [Config.enabledFrom_withRule_off] at htokens' hlines'
  rw [Enabled.tokenRules_filter (· ≠ name), ← htokens] at htokens'
  rw [Enabled.lineRules_filter (· ≠ name), ← hlines] at hlines'
  obtain ⟨tokenRules, lineRules⟩ := l'
  subst htokens' hlines'
  exact hl'

/-! ### Passes -/

/-- At a window all passes go on, or there is a first one that fails. -/
theorem outcomes_or (w : Window) (passes : List Pass) :
    (∀ p ∈ passes, ∃ found, p.outcome w = .ok found) ∨
      ∃ front p back cause, passes = front ++ p :: back ∧
        (∀ q ∈ front, ∃ found, q.outcome w = .ok found) ∧ p.outcome w = .error cause := by
  induction passes with
  | nil => exact Or.inl (by simp)
  | cons p rest ih =>
    cases hp : p.outcome w with
    | error cause => exact Or.inr ⟨[], p, rest, cause, rfl, by simp, hp⟩
    | ok found =>
      rcases ih with hrest | ⟨front, q, back, cause, rfl, hfront, hq⟩
      · exact Or.inl (List.forall_mem_cons.2 ⟨⟨found, hp⟩, hrest⟩)
      · exact Or.inr ⟨p :: front, q, back, cause, rfl,
          List.forall_mem_cons.2 ⟨⟨found, hp⟩, hfront⟩, hq⟩

/-- A sweep that runs through met no failure, and reports window by window. -/
theorem eq_emitted_of_runTokens {passes : List Pass} {ws : List Window} {found : List Ranked}
    (h : runTokens passes ws = .ok found) :
    (∀ p ∈ passes, ∀ step ∈ p.walk ws, ∃ found, step = .ok found) ∧ found = emitted passes ws := by
  induction ws generalizing passes found with
  | nil =>
    cases h
    exact ⟨fun p _ step hstep => (nomatch hstep), rfl⟩
  | cons w ws ih =>
    rcases outcomes_or w passes with hall | ⟨front, p, back, cause, rfl, hfront, hp⟩
    · rw [runTokens, stepAll_eq_ok hall] at h
      cases hrest : runTokens (passes.map (·.after w)) ws with
      | error e => simp [bind, Except.bind, hrest] at h
      | ok later =>
        obtain ⟨hwalks, rfl⟩ := ih hrest
        refine ⟨fun p hp step hstep => ?_, ?_⟩
        · rw [Pass.walk_cons] at hstep
          rcases List.mem_cons.1 hstep with hstep | hstep
          · exact hstep ▸ hall p hp
          · exact hwalks (p.after w) (List.mem_map_of_mem hp) step hstep
        · simpa [bind, Except.bind, pure, Except.pure, hrest, emitted] using h.symm
    · rw [runTokens, stepAll_eq_error hfront hp] at h
      cases h

section Restrict

variable (keep : String → Bool)

/-- Leaving passes out and stepping the rest commute. -/
theorem map_after_filter (w : Window) (passes : List Pass) :
    (passes.filter (keep ·.1.rule.name)).map (·.after w) =
      (passes.map (·.after w)).filter (keep ·.1.rule.name) := by
  rw [List.filter_map]
  simp [Function.comp_def]

/-- **The first failure stays the first** when other passes are left out. -/
theorem runTokens_filter_of_error {passes : List Pass} {ws : List Window} {r : TokenRule}
    {cause : StreamError} (h : runTokens passes ws = .error (.malformedStream r cause))
    (hr : keep r.name = true) :
    runTokens (passes.filter (keep ·.1.rule.name)) ws = .error (.malformedStream r cause) := by
  induction ws generalizing passes with
  | nil => cases h
  | cons w ws ih =>
    rcases outcomes_or w passes with hall | ⟨front, p, back, cause', rfl, hfront, hp⟩
    · have hkept : ∀ p ∈ passes.filter (keep ·.1.rule.name), ∃ found, p.outcome w = .ok found :=
        fun p hp => hall p (List.mem_of_mem_filter hp)
      have hlater : runTokens (passes.map (·.after w)) ws = .error (.malformedStream r cause) := by
        rw [runTokens, stepAll_eq_ok hall] at h
        cases hrest : runTokens (passes.map (·.after w)) ws with
        | error e => simpa [bind, Except.bind, hrest] using h
        | ok later => simp [bind, Except.bind, pure, Except.pure, hrest] at h
      have hrest := ih hlater
      rw [runTokens, stepAll_eq_ok hkept, map_after_filter]
      simp [bind, Except.bind, hrest]
    · rw [runTokens, stepAll_eq_error hfront hp] at h
      obtain ⟨rfl, rfl⟩ : p.1.rule = r ∧ cause' = cause := by
        simpa [bind, Except.bind] using h
      have hkept : ∀ q ∈ front.filter (keep ·.1.rule.name), ∃ found, q.outcome w = .ok found :=
        fun q hq => hfront q (List.mem_of_mem_filter hq)
      have hsplit : (front ++ p :: back).filter (keep ·.1.rule.name) =
          front.filter (keep ·.1.rule.name) ++ p :: back.filter (keep ·.1.rule.name) := by
        rw [List.filter_append, List.filter_cons, if_pos hr]
      rw [hsplit, runTokens, stepAll_eq_error hkept hp]
      rfl

/-- Leaving out sources by name leaves out what they report. -/
theorem flatMap_filter_name {σ : Type} (name : σ → String) (emit : σ → List Ranked)
    (h : ∀ s, ∀ x ∈ emit s, x.diagnostic.rule = name s) (sources : List σ) :
    (sources.filter (keep <| name ·)).flatMap emit =
      (sources.flatMap emit).filter (keep ·.diagnostic.rule) := by
  induction sources with
  | nil => rfl
  | cons s rest ih =>
    rw [List.flatMap_cons, List.filter_append, ← ih]
    cases hs : keep (name s) with
    | true =>
      rw [List.filter_cons, if_pos hs, List.flatMap_cons,
        (List.filter_eq_self (l := emit s)).2 fun x hx => by rw [h s x hx, hs]]
    | false =>
      rw [List.filter_cons, if_neg (Bool.eq_false_iff.1 hs),
        (List.filter_eq_nil_iff (l := emit s)).2 fun x hx => by simp [h s x hx, hs], List.nil_append]

/-- **The sweep over tokens reports the rest** when passes are left out. -/
theorem emitted_filter (passes : List Pass) (ws : List Window) :
    emitted (passes.filter (keep ·.1.rule.name)) ws =
      (emitted passes ws).filter (keep ·.diagnostic.rule) := by
  induction ws generalizing passes with
  | nil => rfl
  | cons w ws ih =>
    have hwindow := flatMap_filter_name keep (fun p : Pass => p.1.rule.name) (Pass.reportAt w)
      (fun p x hx => by obtain ⟨f, -, rfl⟩ := List.mem_map.1 hx; rfl) passes
    rw [emitted, emitted, List.filter_append, hwindow, map_after_filter, ih]

/-- The sweep over lines reports the rest when rules are left out. -/
theorem runLines_filter (rules : List ActiveLineRule) (lines : List Line) :
    runLines (rules.filter (keep ·.rule.name)) lines =
      (runLines rules lines).filter (keep ·.diagnostic.rule) := by
  unfold runLines
  rw [List.filter_flatMap]
  refine List.flatMap_congr fun line _ => ?_
  refine flatMap_filter_name keep (fun a : ActiveLineRule => a.rule.name) (·.report line) ?_ rules
  intro a x hx
  obtain ⟨f, -, rfl⟩ := List.mem_map.1 hx
  rfl

/-! ### Linters -/

/-- The passes that a linter starts with. -/
theorem passes_restrict (l : Linter) :
    (l.restrict keep).tokenRules.map (fun a => (a, Nesting.empty)) =
      (l.tokenRules.map fun a => (a, Nesting.empty)).filter (keep ·.1.rule.name) := by
  rw [List.filter_map]
  rfl

/-- A restricted linter gives the diagnostics of its own rules. -/
theorem lint_restrict_of_ok {l : Linter} {d : Document} {ds : List Diagnostic}
    (h : l.lint d = .ok ds) : (l.restrict keep).lint d = .ok (ds.filter (keep ·.rule)) := by
  unfold lint at h ⊢
  cases hrun : runTokens (l.tokenRules.map fun a => (a, Nesting.empty)) d.windows with
  | error e => simp [hrun, bind, Except.bind] at h
  | ok found =>
    obtain ⟨hwalks, rfl⟩ := eq_emitted_of_runTokens hrun
    have hkept : runTokens ((l.tokenRules.map fun a => (a, Nesting.empty)).filter
          (keep ·.1.rule.name)) d.windows =
        .ok ((emitted (l.tokenRules.map fun a => (a, Nesting.empty)) d.windows).filter
          (keep ·.diagnostic.rule)) := by
      rw [← emitted_filter]
      exact runTokens_eq_ok fun p hp => hwalks p (List.mem_of_mem_filter hp)
    have hlines : runLines (l.restrict keep).lineRules d.lines =
        (runLines l.lineRules d.lines).filter (keep ·.diagnostic.rule) :=
      runLines_filter keep l.lineRules d.lines
    have hds : ((emitted (l.tokenRules.map fun a => (a, Nesting.empty)) d.windows ++
        runLines l.lineRules d.lines).mergeSort Ranked.le).map (·.diagnostic) = ds := by
      simpa [hrun, bind, Except.bind, pure, Except.pure] using h
    rw [passes_restrict, hkept, hlines, ← hds, List.filter_map]
    simp only [bind, Except.bind, pure, Except.pure]
    rw [← List.filter_append, ← filter_mergeSort Ranked.le_trans Ranked.le_total]
    rfl

/-- A restricted linter stops with the error of a rule that it keeps. -/
theorem lint_restrict_of_error {l : Linter} {d : Document} {r : TokenRule} {cause : StreamError}
    (h : l.lint d = .error (.malformedStream r cause)) (hr : keep r.name = true) :
    (l.restrict keep).lint d = .error (.malformedStream r cause) := by
  unfold lint at h ⊢
  have hrun : runTokens (l.tokenRules.map fun a => (a, Nesting.empty)) d.windows =
      .error (.malformedStream r cause) := by
    cases hrun : runTokens (l.tokenRules.map fun a => (a, Nesting.empty)) d.windows with
    | error e => simpa [hrun, bind, Except.bind] using h
    | ok found => simp [hrun, bind, Except.bind, pure, Except.pure] at h
  rw [passes_restrict, runTokens_filter_of_error keep hrun hr]
  rfl

end Restrict

end Linter

/-- **Switching a rule off removes exactly its diagnostics.**  Where a document is
linted, it is linted with the rule off too, and the report is the same without the
diagnostics of that rule.  Where linting stops with the error of another rule, it
still stops with that error. -/
theorem lint_withRule_off [Pattern.Engine] (c : Config) (name : String) (d : Document)
    (hname : name ∈ Registry.builtin.names) :
    (∀ ds, lint d c = .ok ds →
      lint d (c.withRule name (.level .off)) = .ok (ds.filter (·.rule ≠ name))) ∧
    ∀ r cause, lint d c = .error (.malformedStream r cause) → r.name ≠ name →
      lint d (c.withRule name (.level .off)) = .error (.malformedStream r cause) := by
  unfold lint
  cases hl : Linter.build .builtin c with
  | error e => exact ⟨fun ds h => (nomatch h), fun r cause h => (nomatch h)⟩
  | ok l =>
    rw [Linter.build_withRule_off hl hname]
    refine ⟨fun ds h => ?_, fun r cause h hr => ?_⟩
    · exact Linter.lint_restrict_of_ok (· ≠ name) h
    · exact Linter.lint_restrict_of_error (· ≠ name) h (decide_eq_true hr)

open Pattern.Standard in
/-- Three rules object to one document, the rule that is switched off twice; in
another one an end closes nothing, which both rules on keys would report. -/
theorem lint_withRule_off_ordering :
    let c := (Config.preset "all").withRule "key-ordering" (.level .warn)
    let off := c.withRule "key-ordering" (.level .off)
    let d : Document := ⟨"b: 1\na: 2\na: 3 \n".toList,
      [⟨.blockMappingStart, ⟨0, 0, 0⟩, ⟨0, 0, 0⟩⟩, ⟨.key, ⟨0, 0, 0⟩, ⟨0, 0, 0⟩⟩,
        ⟨.scalar "b" .plain, ⟨0, 0, 0⟩, ⟨0, 1, 1⟩⟩, ⟨.key, ⟨1, 0, 5⟩, ⟨1, 0, 5⟩⟩,
        ⟨.scalar "a" .plain, ⟨1, 0, 5⟩, ⟨1, 1, 6⟩⟩, ⟨.key, ⟨2, 0, 10⟩, ⟨2, 0, 10⟩⟩,
        ⟨.scalar "a" .plain, ⟨2, 0, 10⟩, ⟨2, 1, 11⟩⟩, ⟨.blockEnd, ⟨2, 5, 15⟩, ⟨2, 5, 15⟩⟩]⟩
    let mark : Mark := ⟨0, 0, 0⟩
    let closed : Document := ⟨"]".toList, [⟨.flowSequenceEnd, mark, ⟨0, 1, 1⟩⟩]⟩
    let error : LintError := .malformedStream .keyDuplicates (.unmatchedEnd .flowSequenceEnd mark)
    (∃ ds, lint d c = .ok ds ∧ ds.length = 4 ∧ ds.countP (·.rule = "key-ordering") = 2 ∧
      lint d off = .ok (ds.filter (·.rule ≠ "key-ordering"))) ∧
    lint closed c = .error error ∧ lint closed off = .error error := by
  intro c off d mark closed error
  have hname : "key-ordering" ∈ Registry.builtin.names := by decide +kernel
  have hd : ∀ e ∈ Registry.builtin.enabled c, e.Completes d := by decide +kernel
  have hok : (Linter.build .builtin c).isOk = true := by decide +kernel
  cases hl : Linter.build .builtin c with
  | error cause => rw [hl] at hok; cases hok
  | ok l =>
    obtain ⟨ds, hlint, hsort⟩ := Linter.isStableSort_lint hl hd
    have hds : lint d c = .ok ds := by
      rw [lint, hl]
      exact hlint
    have hclosed : lint closed c = .error error := by
      have hfault : Brackets.FirstFault closed.tokens 0 (.unmatchedEnd .flowSequenceEnd mark) := by
        unfold Brackets.FirstFault
        decide +kernel
      rw [lint, hl]
      exact Linter.lint_eq_error hl (by decide +kernel) hfault
    refine ⟨⟨ds, hds, ?_, ?_, (lint_withRule_off c _ d hname).1 ds hds⟩, hclosed,
      (lint_withRule_off c _ closed hname).2 _ _ hclosed (by decide)⟩
    · exact hsort.perm.length_eq.trans (by decide +kernel)
    · exact (hsort.perm.countP_eq _).trans (by decide +kernel)

end YamlStyle
