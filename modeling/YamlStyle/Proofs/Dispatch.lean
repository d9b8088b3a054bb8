/-
# Running rules side by side

A linter sweeps over the tokens with all its rules on tokens, then over the
lines with all its rules on lines, and sorts what they found by line, column and
rank.  The reference is simpler: run every rule that is on by itself, one after
the other in the order of their registration, give what each found its
severity, and sort all of it stably by place (`lint_stableSort_runs`).

Both ways find, for every rank, the same diagnostics in the same order
(`filter_rank_found`).  Sorting makes up for the order of the sweeps: within one
place the ranks ascend, as they do in the reference, so the sorted lists agree
(`Ranked.isStableSort_of_ranks`).
-/

import YamlStyle.Pattern.Standard
import YamlStyle.Proofs.Passes
import YamlStyle.Proofs.ReportOrder
import YamlStyle.Proofs.Resolution

namespace YamlStyle

/-! ### A rule by itself -/

/-- The steps of a rule's run by itself: a walk over all windows with no
collection open, or a look at every line. -/
def Rule.steps : (r : Rule) → r.Options → Document → List (Except StreamError (List Finding))
  | .token r, options, d => r.walk options .empty d.windows
  | .line r, options, d => d.lines.map fun line => .ok (r.check options line)

/-- The diagnostics of a rule's run by itself, with the severity that a
diagnostic has before a configuration is asked. -/
def Rule.run (r : Rule) (options : r.Options) (d : Document) : List Diagnostic :=
  ((r.steps options d).flatMap findingsOf).map (·.report r.name .error)

/-- A rule on lines reports what it finds in the lines, one after the other. -/
theorem Rule.run_line (r : LineRule) (options : r.Options) (d : Document) :
    (line r).run options d =
      ((Line.ofText d.text).flatMap (r.check options)).map (·.report r.name .error) := by
  rw [run, steps, List.flatMap_map]
  rfl

/-- A diagnostic with another severity. -/
def Diagnostic.withSeverity (d : Diagnostic) (severity : Severity) : Diagnostic :=
  { d with severity := severity }

/-- What a rule that is on reports about a document when it runs by itself. -/
def Enabled.report (e : Enabled) (d : Document) : List Diagnostic :=
  (e.rule.run e.options d).map (·.withSeverity e.severity)

/-- A rule that is on runs through a document without an error. -/
def Enabled.Completes (e : Enabled) (d : Document) : Prop :=
  ∀ step ∈ e.rule.steps e.options d, ∃ found, step = .ok found

instance (e : Enabled) (d : Document) : Decidable (e.Completes d) :=
  decidable_of_iff ((e.rule.steps e.options d).all (·.isOk) = true) <| by
    rw [List.all_eq_true]
    refine forall_congr' fun step => forall_congr' fun _ => ?_
    cases step with
    | ok found => exact ⟨fun _ => ⟨found, rfl⟩, fun _ => rfl⟩
    | error cause => exact ⟨fun h => (nomatch h), fun ⟨_, h⟩ => (nomatch h)⟩

/-- What a rule reports by itself, with the severity put in at once. -/
theorem Enabled.report_eq (e : Enabled) (d : Document) :
    e.report d =
      ((e.rule.steps e.options d).flatMap findingsOf).map (·.report e.rule.name e.severity) := by
  simp [report, Rule.run, Diagnostic.withSeverity, Finding.report]

/-- What a rule that is on reports by itself, under a rank. -/
def Enabled.ranked (d : Document) (x : Nat × Enabled) : List Ranked :=
  (x.2.report d).map fun diagnostic => ⟨x.1, diagnostic⟩

/-- A rule on tokens reports by itself what its pass reports. -/
theorem Enabled.ranked_token (d : Document) (rank : Nat) (severity : Severity) (r : TokenRule)
    (options : r.Options) :
    ranked d (rank, ⟨.token r, severity, options⟩) =
      Linter.Pass.reportAll d.windows (⟨rank, severity, r, options⟩, .empty) := by
  simp [ranked, report_eq, Rule.steps, Linter.Pass.reportAll, Linter.Pass.walk,
    ActiveTokenRule.report, Rule.name]

/-- A rule on lines reports by itself what it reports line by line. -/
theorem Enabled.ranked_line (d : Document) (rank : Nat) (severity : Severity) (r : LineRule)
    (options : r.Options) :
    ranked d (rank, ⟨.line r, severity, options⟩) =
      d.lines.flatMap (ActiveLineRule.report ⟨rank, severity, r, options⟩) := by
  simp only [ranked, report_eq, Rule.steps, List.flatMap_map, List.map_map, List.map_flatMap]
  rfl

namespace Linter

/-! ### Both sweeps -/

/-- Line by line, each rule reports what it reports by itself. -/
theorem filter_rank_runLines {rules : List ActiveLineRule}
    (h : rules.Pairwise fun a b => a.rank < b.rank) (lines : List Line) (k : Nat) :
    (runLines rules lines).filter (·.rank == k) =
      (rules.filter (·.rank == k)).flatMap fun a => lines.flatMap a.report := by
  have hone := length_filter_rank_le_one (fun a : ActiveLineRule => a.rank) h k
  induction lines with
  | nil => simp [runLines]
  | cons line lines ih =>
    have hline : (rules.flatMap (·.report line)).filter (·.rank == k) =
        (rules.filter (·.rank == k)).flatMap (·.report line) := by
      refine filter_rank_flatMap (fun a : ActiveLineRule => a.rank) _ (fun a x hx => ?_) rules k
      obtain ⟨f, -, rfl⟩ := List.mem_map.1 hx
      rfl
    have hcons : runLines rules (line :: lines) =
        rules.flatMap (·.report line) ++ runLines rules lines := rfl
    rw [hcons, List.filter_append, hline, ih, ← flatMap_append_of_length_le_one hone]
    simp

/-- Splitting rules by kind loses none: for one rank, what the rules on tokens
and then the rules on lines report is what the rules report together. -/
theorem flatMap_filter_rank_kinds (d : Document) (k : Nat) {rules : List (Nat × Enabled)}
    (h : rules.Pairwise fun x y => x.1 < y.1) :
    ((Enabled.tokenRules rules).filter (·.rank == k)).flatMap
          (fun a => Pass.reportAll d.windows (a, .empty)) ++
        ((Enabled.lineRules rules).filter (·.rank == k)).flatMap
          (fun a => d.lines.flatMap a.report) =
      (rules.filter (·.1 == k)).flatMap (Enabled.ranked d) := by
  induction rules with
  | nil => rfl
  | cons x rest ih =>
    have hrest := ih h.tail
    obtain ⟨rank, r | r, severity, options⟩ := x
    · rw [Enabled.tokenRules_cons_token, Enabled.lineRules_cons_token]
      by_cases hk : rank = k
      · rw [List.filter_cons_of_pos (by simpa using hk), List.filter_cons_of_pos (by simpa using hk),
          List.flatMap_cons, List.flatMap_cons, List.append_assoc, hrest, Enabled.ranked_token]
      · rw [List.filter_cons_of_neg (by simpa using hk), List.filter_cons_of_neg (by simpa using hk),
          hrest]
    · rw [Enabled.tokenRules_cons_line, Enabled.lineRules_cons_line]
      by_cases hk : rank = k
      · -- later rules have greater ranks, so no rule on tokens comes in between
        have hnone : (Enabled.tokenRules rest).filter (·.rank == k) = [] := by
          refine List.filter_eq_nil_iff.2 fun a ha => ?_
          obtain ⟨y, hy, ha⟩ := List.mem_filterMap.1 ha
          have hlt : rank < y.1 := List.rel_of_pairwise_cons h hy
          have hrank := Enabled.rank_of_tokenRule? ha
          simp only [beq_iff_eq]
          omega
        rw [hnone] at hrest ⊢
        rw [List.filter_cons_of_pos (by simpa using hk), List.filter_cons_of_pos (by simpa using hk),
          List.flatMap_cons, List.flatMap_cons, ← hrest, Enabled.ranked_line]
        rfl
      · rw [List.filter_cons_of_neg (by simpa using hk), List.filter_cons_of_neg (by simpa using hk),
          hrest]

/-! ### Linting -/

/-- For every rank, both sweeps together report what the rule of that rank
reports by itself. -/
theorem filter_rank_found (d : Document) (k : Nat) {rules : List (Nat × Enabled)}
    (h : rules.Pairwise fun x y => x.1 < y.1) :
    (emitted ((Enabled.tokenRules rules).map fun a => (a, .empty)) d.windows ++
        runLines (Enabled.lineRules rules) d.lines).filter (·.rank == k) =
      (rules.flatMap (Enabled.ranked d)).filter (·.rank == k) := by
  have hpasses : ((Enabled.tokenRules rules).map fun a => (a, Nesting.empty)).Pairwise
      fun p q => p.1.rank < q.1.rank :=
    List.pairwise_map.2 (Enabled.pairwise_rank_tokenRules h)
  have hreference : (rules.flatMap (Enabled.ranked d)).filter (·.rank == k) =
      (rules.filter (·.1 == k)).flatMap (Enabled.ranked d) := by
    refine filter_rank_flatMap Prod.fst _ (fun x y hy => ?_) rules k
    obtain ⟨diagnostic, -, rfl⟩ := List.mem_map.1 hy
    rfl
  rw [List.filter_append, filter_rank_emitted hpasses,
    filter_rank_runLines (Enabled.pairwise_rank_lineRules h), hreference,
    ← flatMap_filter_rank_kinds d k h, List.filter_map, List.flatMap_map]
  rfl

/-- Ranks ascend where rules report one after the other. -/
theorem pairwise_rankLe_ranked (d : Document) {rules : List (Nat × Enabled)}
    (h : rules.Pairwise fun x y => x.1 < y.1) :
    (rules.flatMap (Enabled.ranked d)).Pairwise fun a b => Ranked.rankLe a b = true := by
  have hrank : ∀ x, ∀ a ∈ Enabled.ranked d x, a.rank = x.1 := by
    intro x a ha
    obtain ⟨diagnostic, -, rfl⟩ := List.mem_map.1 ha
    rfl
  rw [List.flatMap_def, List.pairwise_flatten]
  constructor
  · intro l hl
    obtain ⟨x, -, rfl⟩ := List.mem_map.1 hl
    refine List.pairwise_of_forall_mem_list fun a ha b hb => ?_
    simp [Ranked.rankLe, hrank x a ha, hrank x b hb]
  · refine List.pairwise_map.2 (h.imp fun {x y} hxy a ha b hb => ?_)
    simp only [Ranked.rankLe, hrank x a ha, hrank y b hb, decide_eq_true_eq]
    omega

/-- A pass completes if the rule that is on does. -/
theorem passes_complete {d : Document} {rules : List (Nat × Enabled)}
    (h : ∀ x ∈ rules, x.2.Completes d) :
    ∀ p ∈ (Enabled.tokenRules rules).map fun a => (a, Nesting.empty),
      ∀ step ∈ Pass.walk p d.windows, ∃ found, step = .ok found := by
  intro p hp step hstep
  obtain ⟨a, ha, rfl⟩ := List.mem_map.1 hp
  obtain ⟨⟨rank, r | r, severity, options⟩, hx, ha⟩ := List.mem_filterMap.1 ha
  · cases ha
    exact h _ hx step hstep
  · cases ha

/-- Without their ranks, the reports of ranked rules are those of the rules that
are on. -/
theorem map_diagnostic_ranked [Pattern.Engine] (g : Registry) (c : Config) (d : Document) :
    ((c.enabledFrom 0 g.rules).flatMap (Enabled.ranked d)).map (·.diagnostic) =
      (g.enabled c).flatMap (·.report d) := by
  rw [Registry.enabled, ← c.map_snd_enabledFrom 0, List.flatMap_map, List.map_flatMap]
  simp [Enabled.ranked, Function.comp_def]

/-- If every rule that is on runs through by itself, linting gives the stable
sort of their reports. -/
theorem isStableSort_lint [Pattern.Engine] {g : Registry} {c : Config} {l : Linter} {d : Document}
    (hl : build g c = .ok l) (hd : ∀ e ∈ g.enabled c, e.Completes d) :
    ∃ ds, l.lint d = .ok ds ∧
      IsStableSort Diagnostic.placeLe ((g.enabled c).flatMap (·.report d)) ds := by
  obtain ⟨htokens, hlines⟩ := build_eq_ok hl
  have hranks := c.pairwise_rank_enabledFrom 0 g.rules
  have hcomplete : ∀ x ∈ c.enabledFrom 0 g.rules, x.2.Completes d := by
    intro x hx
    refine hd x.2 ?_
    rw [Registry.enabled, ← c.map_snd_enabledFrom 0]
    exact List.mem_map_of_mem hx
  have hrun := runTokens_eq_ok (passes_complete hcomplete)
  refine ⟨_, by rw [lint, htokens, hrun]; rfl, ?_⟩
  rw [← map_diagnostic_ranked, hlines]
  exact Ranked.isStableSort_of_ranks (pairwise_rankLe_ranked d hranks)
    fun k => filter_rank_found d k hranks

/-- **Linting is the stable sort of the rules' own runs.**  If no rule that is on
fails on the document, linting succeeds, and what it gives is the one list that
holds the diagnostics of every rule's run by itself, under the severity resolved
for the rule, ascending by line and column, with those at one place in the order
of registration and then in the order in which the rule found them. -/
theorem lint_stableSort_runs [Pattern.Engine] (g : Registry) (c : Config) (l : Linter)
    (d : Document) (hl : build g c = .ok l) (hd : ∀ e ∈ g.enabled c, e.Completes d) :
    ∃ ds, l.lint d = .ok ds ∧ ∀ sorted,
      IsStableSort Diagnostic.placeLe ((g.enabled c).flatMap (·.report d)) sorted ↔
        sorted = ds := by
  obtain ⟨ds, hlint, hsort⟩ := isStableSort_lint hl hd
  refine ⟨ds, hlint, fun sorted => ⟨fun h => ?_, fun h => h ▸ hsort⟩⟩
  exact h.unique Diagnostic.placeLe_trans Diagnostic.placeLe_total hsort

open Pattern.Standard in
/-- A rule on lines is registered before the two rules on keys, one of which is
a warning by its own setting; the last line has a finding of each. -/
theorem lint_stableSort_runs_keys :
    let g : Registry :=
      ⟨[.line .trailingSpaces, .token .keyOrdering, .token .keyDuplicates], by decide⟩
    let c := (Config.preset "all").withRule "key-ordering" (.level .warn)
    let d : Document := ⟨"b: 1\na: 2\na: 3 ".toList,
      [⟨.blockMappingStart, ⟨0, 0, 0⟩, ⟨0, 0, 0⟩⟩, ⟨.key, ⟨0, 0, 0⟩, ⟨0, 0, 0⟩⟩,
        ⟨.scalar "b" .plain, ⟨0, 0, 0⟩, ⟨0, 1, 1⟩⟩, ⟨.key, ⟨1, 0, 5⟩, ⟨1, 0, 5⟩⟩,
        ⟨.scalar "a" .plain, ⟨1, 0, 5⟩, ⟨1, 1, 6⟩⟩, ⟨.key, ⟨2, 0, 10⟩, ⟨2, 0, 10⟩⟩,
        ⟨.scalar "a" .plain, ⟨2, 0, 10⟩, ⟨2, 1, 11⟩⟩, ⟨.blockEnd, ⟨2, 5, 15⟩, ⟨2, 5, 15⟩⟩]⟩
    ∃ l, build g c = .ok l ∧ (∀ e ∈ g.enabled c, e.Completes d) ∧
      ∃ ds, l.lint d = .ok ds ∧ ∀ sorted,
        IsStableSort Diagnostic.placeLe ((g.enabled c).flatMap (·.report d)) sorted ↔
          sorted = ds := by
  intro g c d
  have hd : ∀ e ∈ g.enabled c, e.Completes d := by decide +kernel
  have hok : (build g c).isOk = true := by decide +kernel
  cases hl : build g c with
  | error cause => rw [hl] at hok; cases hok
  | ok l => exact ⟨l, rfl, hd, lint_stableSort_runs g c l d hl hd⟩

end Linter
end YamlStyle
