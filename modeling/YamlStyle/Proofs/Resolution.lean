/-
# What a configuration makes of a registry

A rule is on if the configuration resolves a severity for it.  The rules that
are on keep the order of their registration, and each keeps the rank it has
among all registered rules, so ranks ascend strictly but may leave gaps
(`pairwise_rank_enabledFrom`).  A linter that is built holds exactly these rules,
with the severity and the options that the configuration gives them, in two
lists: rules on tokens and rules on lines (`build_eq_ok`).
-/

import YamlStyle.Linter

namespace YamlStyle

/-- A rule that is on, with the severity and the options resolved for it. -/
structure Enabled where
  rule : Rule
  severity : Severity
  options : rule.Options

namespace Enabled

/-- The rule as a linter holds it, if it is one on tokens. -/
def tokenRule? (rank : Nat) : Enabled → Option ActiveTokenRule
  | ⟨.token r, severity, options⟩ => some ⟨rank, severity, r, options⟩
  | ⟨.line _, _, _⟩ => none

/-- The rule as a linter holds it, if it is one on lines. -/
def lineRule? (rank : Nat) : Enabled → Option ActiveLineRule
  | ⟨.token _, _, _⟩ => none
  | ⟨.line r, severity, options⟩ => some ⟨rank, severity, r, options⟩

/-- A rule on tokens keeps its rank. -/
theorem rank_of_tokenRule? {rank : Nat} {e : Enabled} {a : ActiveTokenRule}
    (h : e.tokenRule? rank = some a) : a.rank = rank := by
  obtain ⟨r | r, severity, options⟩ := e
  · cases h
    rfl
  · cases h

/-- A rule on lines keeps its rank. -/
theorem rank_of_lineRule? {rank : Nat} {e : Enabled} {a : ActiveLineRule}
    (h : e.lineRule? rank = some a) : a.rank = rank := by
  obtain ⟨r | r, severity, options⟩ := e
  · cases h
  · cases h
    rfl

/-- Of ranked rules, those on tokens. -/
def tokenRules (rules : List (Nat × Enabled)) : List ActiveTokenRule :=
  rules.filterMap fun x => x.2.tokenRule? x.1

/-- Of ranked rules, those on lines. -/
def lineRules (rules : List (Nat × Enabled)) : List ActiveLineRule :=
  rules.filterMap fun x => x.2.lineRule? x.1

section Kinds

variable (rank : Nat) (severity : Severity) (rest : List (Nat × Enabled))

/-- A rule on tokens is one of the rules on tokens. -/
theorem tokenRules_cons_token (r : TokenRule) (options : r.Options) :
    tokenRules ((rank, ⟨.token r, severity, options⟩) :: rest) =
      ⟨rank, severity, r, options⟩ :: tokenRules rest := rfl

/-- A rule on lines is left out of the rules on tokens. -/
theorem tokenRules_cons_line (r : LineRule) (options : r.Options) :
    tokenRules ((rank, ⟨.line r, severity, options⟩) :: rest) = tokenRules rest := rfl

/-- A rule on tokens is left out of the rules on lines. -/
theorem lineRules_cons_token (r : TokenRule) (options : r.Options) :
    lineRules ((rank, ⟨.token r, severity, options⟩) :: rest) = lineRules rest := rfl

/-- A rule on lines is one of the rules on lines. -/
theorem lineRules_cons_line (r : LineRule) (options : r.Options) :
    lineRules ((rank, ⟨.line r, severity, options⟩) :: rest) =
      ⟨rank, severity, r, options⟩ :: lineRules rest := rfl

end Kinds

/-- Rules on tokens keep the order of their ranks. -/
theorem pairwise_rank_tokenRules {rules : List (Nat × Enabled)}
    (h : rules.Pairwise fun x y => x.1 < y.1) :
    (tokenRules rules).Pairwise fun a b => a.rank < b.rank := by
  refine List.Pairwise.filterMap _ (fun x y hxy a ha b hb => ?_) h
  rw [rank_of_tokenRule? ha, rank_of_tokenRule? hb]
  exact hxy

/-- Rules on lines keep the order of their ranks. -/
theorem pairwise_rank_lineRules {rules : List (Nat × Enabled)}
    (h : rules.Pairwise fun x y => x.1 < y.1) :
    (lineRules rules).Pairwise fun a b => a.rank < b.rank := by
  refine List.Pairwise.filterMap _ (fun x y hxy a ha b hb => ?_) h
  rw [rank_of_lineRule? ha, rank_of_lineRule? hb]
  exact hxy

end Enabled

namespace Config

variable [Pattern.Engine]

/-- What a configuration resolves for a rule, none if the rule is off. -/
def enabled? (c : Config) (r : Rule) : Option Enabled :=
  match c.severity r.name r.defaultSeverity r.recommended, Linter.resolve c r with
  | some severity, .ok options => some ⟨r, severity, options⟩
  | _, _ => none

/-- The rules that are on, each with its rank, counted from a rank on. -/
def enabledFrom (c : Config) : Nat → List Rule → List (Nat × Enabled)
  | _, [] => []
  | rank, r :: rest => ((c.enabled? r).map fun e => (rank, e)).toList ++ enabledFrom c (rank + 1) rest

/-- A rule that is on takes the next rank. -/
theorem enabledFrom_cons_some {c : Config} {r : Rule} {e : Enabled} (h : c.enabled? r = some e)
    (rank : Nat) (rest : List Rule) :
    c.enabledFrom rank (r :: rest) = (rank, e) :: c.enabledFrom (rank + 1) rest := by
  simp [enabledFrom, h]

/-- A rule that is off leaves its rank unused. -/
theorem enabledFrom_cons_none {c : Config} {r : Rule} (h : c.enabled? r = none)
    (rank : Nat) (rest : List Rule) :
    c.enabledFrom rank (r :: rest) = c.enabledFrom (rank + 1) rest := by
  simp [enabledFrom, h]

/-- Without their ranks, these are the rules that are on. -/
theorem map_snd_enabledFrom (c : Config) (rank : Nat) (rules : List Rule) :
    (c.enabledFrom rank rules).map (·.2) = rules.filterMap c.enabled? := by
  induction rules generalizing rank with
  | nil => rfl
  | cons r rest ih =>
    cases h : c.enabled? r with
    | none => rw [enabledFrom_cons_none h, ih, List.filterMap_cons_none h]
    | some e => rw [enabledFrom_cons_some h, List.map_cons, ih, List.filterMap_cons_some h]

/-- Ranks are counted from the given one. -/
theorem le_rank_of_mem_enabledFrom {c : Config} {rank : Nat} {rules : List Rule}
    {x : Nat × Enabled} (h : x ∈ c.enabledFrom rank rules) : rank ≤ x.1 := by
  induction rules generalizing rank with
  | nil => cases h
  | cons r rest ih =>
    cases hr : c.enabled? r with
    | none =>
      rw [enabledFrom_cons_none hr] at h
      have := ih h
      omega
    | some e =>
      rw [enabledFrom_cons_some hr] at h
      rcases List.mem_cons.1 h with rfl | h
      · exact Nat.le_refl rank
      · have := ih h
        omega

/-- Ranks ascend strictly. -/
theorem pairwise_rank_enabledFrom (c : Config) (rank : Nat) (rules : List Rule) :
    (c.enabledFrom rank rules).Pairwise fun x y => x.1 < y.1 := by
  induction rules generalizing rank with
  | nil => exact List.Pairwise.nil
  | cons r rest ih =>
    cases h : c.enabled? r with
    | none =>
      rw [enabledFrom_cons_none h]
      exact ih (rank + 1)
    | some e =>
      rw [enabledFrom_cons_some h]
      exact List.pairwise_cons.2 ⟨fun x hx => le_rank_of_mem_enabledFrom hx, ih (rank + 1)⟩

end Config

/-- The registered rules that a configuration switches on, in the order of their
registration. -/
def Registry.enabled [Pattern.Engine] (g : Registry) (c : Config) : List Enabled :=
  g.rules.filterMap c.enabled?

namespace Linter

/-- Adding a rule that is on appends it to the list of its kind. -/
theorem add_lists (l : Linter) (rank : Nat) (e : Enabled) (rest : List (Nat × Enabled)) :
    (l.add rank e.severity e.rule e.options).tokenRules ++ Enabled.tokenRules rest =
        l.tokenRules ++ Enabled.tokenRules ((rank, e) :: rest) ∧
      (l.add rank e.severity e.rule e.options).lineRules ++ Enabled.lineRules rest =
        l.lineRules ++ Enabled.lineRules ((rank, e) :: rest) := by
  obtain ⟨r | r, severity, options⟩ := e
  · rw [Enabled.tokenRules_cons_token, Enabled.lineRules_cons_token]
    simp [add]
  · rw [Enabled.tokenRules_cons_line, Enabled.lineRules_cons_line]
    simp [add]

variable [Pattern.Engine]

/-- Adding rules succeeds only if every rule's options can be resolved, and adds
the first rule if it is on. -/
theorem addRules_cons_eq_ok {c : Config} {rank : Nat} {l l' : Linter} {r : Rule}
    {rest : List Rule} (h : addRules c rank l (r :: rest) = .ok l') :
    (c.enabled? r = none ∧ addRules c (rank + 1) l rest = .ok l') ∨
      ∃ e, c.enabled? r = some e ∧
        addRules c (rank + 1) (l.add rank e.severity e.rule e.options) rest = .ok l' := by
  unfold addRules at h
  cases hopt : resolve c r with
  | error cause => simp [hopt, bind, Except.bind] at h
  | ok options =>
    cases hsev : c.severity r.name r.defaultSeverity r.recommended with
    | none =>
      refine Or.inl ⟨by simp [Config.enabled?, hsev], ?_⟩
      simpa [hopt, hsev, bind, Except.bind] using h
    | some severity =>
      refine Or.inr ⟨⟨r, severity, options⟩, by simp [Config.enabled?, hsev, hopt], ?_⟩
      simpa [hopt, hsev, bind, Except.bind] using h

/-- Adding rules appends those that are on, each kind to its list. -/
theorem addRules_eq_ok {c : Config} {rank : Nat} {l l' : Linter} {rules : List Rule}
    (h : addRules c rank l rules = .ok l') :
    l'.tokenRules = l.tokenRules ++ Enabled.tokenRules (c.enabledFrom rank rules) ∧
      l'.lineRules = l.lineRules ++ Enabled.lineRules (c.enabledFrom rank rules) := by
  induction rules generalizing rank l with
  | nil =>
    cases h
    simp [Config.enabledFrom, Enabled.tokenRules, Enabled.lineRules]
  | cons r rest ih =>
    rcases addRules_cons_eq_ok h with ⟨hr, h⟩ | ⟨e, hr, h⟩
    · rw [Config.enabledFrom_cons_none hr]
      exact ih h
    · rw [Config.enabledFrom_cons_some hr, ← (add_lists l rank e _).1, ← (add_lists l rank e _).2]
      exact ih h

/-- **A linter holds the rules that are on.** -/
theorem build_eq_ok {g : Registry} {c : Config} {l : Linter} (h : build g c = .ok l) :
    l.tokenRules = Enabled.tokenRules (c.enabledFrom 0 g.rules) ∧
      l.lineRules = Enabled.lineRules (c.enabledFrom 0 g.rules) := by
  unfold build at h
  cases hvalid : c.validate g.names with
  | error cause => simp [hvalid, bind, Except.bind] at h
  | ok u =>
    have hadd : addRules c 0 empty g.rules = .ok l := by
      simpa [hvalid, bind, Except.bind] using h
    simpa [empty] using addRules_eq_ok hadd

end Linter
end YamlStyle
