/-
# Updates of a configuration

A configuration is changed by giving rules settings, one after the other.  An update
touches the rule it names and nothing else, so after any number of them a rule has the
setting of its last update (`Config.getElem?_withRules_of_lastUpdate`), or what it had if
none names it (`Config.getElem?_withRules_of_not_mem`).  The presets stay as they are.

A rule's own setting decides about it.  Without one it is on if a preset covers it, and
for that it matters which presets there are, but neither their order nor how often each
is named (`Config.severity_eq_of_presets`).
-/

import YamlStyle.Proofs.SwitchOff

namespace YamlStyle
namespace Config

/-- Gives rules settings, from the first update to the last. -/
def withRules (c : Config) (updates : List (String × Setting)) : Config :=
  updates.foldl (fun c update => c.withRule update.1 update.2) c

/-- The last update of a rule: no later one names the rule. -/
def LastUpdate (updates : List (String × Setting)) (name : String) (setting : Setting) : Prop :=
  ∃ front back, updates = front ++ (name, setting) :: back ∧ name ∉ back.map Prod.fst

/-- One of some presets covers a rule. -/
def Covered (presets : List String) (recommended : Bool) : Prop :=
  "all" ∈ presets ∨ "recommended" ∈ presets ∧ recommended = true

instance (presets : List String) (recommended : Bool) : Decidable (Covered presets recommended) :=
  inferInstanceAs (Decidable (_ ∨ _))

/-! ### Sequences of updates -/

section

variable (c : Config)

/-- Updates can be made part by part. -/
theorem withRules_append (front back : List (String × Setting)) :
    c.withRules (front ++ back) = (c.withRules front).withRules back :=
  List.foldl_append

/-- Updates are made from the first on. -/
theorem withRules_cons (update : String × Setting) (updates : List (String × Setting)) :
    c.withRules (update :: updates) = (c.withRule update.1 update.2).withRules updates := rfl

/-- No update touches the presets. -/
theorem presetNames_withRules (updates : List (String × Setting)) :
    (c.withRules updates).presetNames = c.presetNames := by
  induction updates generalizing c with
  | nil => rfl
  | cons update updates ih => rw [withRules_cons, ih, presetNames_withRule]

/-- A rule that no update names has the setting it had. -/
theorem getElem?_withRules_of_not_mem {updates : List (String × Setting)} {name : String}
    (h : name ∉ updates.map Prod.fst) : (c.withRules updates).rules[name]? = c.rules[name]? := by
  induction updates generalizing c with
  | nil => rfl
  | cons update updates ih =>
    rw [List.map_cons, List.mem_cons, not_or] at h
    rw [withRules_cons, ih _ h.2, getElem?_withRule, if_neg (Ne.symm h.1)]

/-- A rule has the setting of its last update. -/
theorem getElem?_withRules_of_lastUpdate {updates : List (String × Setting)} {name : String}
    {setting : Setting} (h : LastUpdate updates name setting) :
    (c.withRules updates).rules[name]? = some setting := by
  obtain ⟨front, back, rfl, hback⟩ := h
  rw [withRules_append, withRules_cons, getElem?_withRules_of_not_mem _ hback, getElem?_withRule,
    if_pos rfl]

/-- Of the updates of a rule, one is the last. -/
theorem exists_lastUpdate {updates : List (String × Setting)} {name : String}
    (h : name ∈ updates.map Prod.fst) : ∃ setting, LastUpdate updates name setting := by
  induction updates with
  | nil => cases h
  | cons update updates ih =>
    by_cases hlater : name ∈ updates.map Prod.fst
    · obtain ⟨setting, front, back, rfl, hback⟩ := ih hlater
      exact ⟨setting, update :: front, back, rfl, hback⟩
    · have hname : name = update.1 := (List.mem_cons.1 h).resolve_right hlater
      exact ⟨update.2, [], updates, by rw [hname]; rfl, hlater⟩

end

/-! ### Severities and options -/

section

variable {c : Config} {name : String}

/-- A setting decides the severity. -/
theorem severity_of_setting {setting : Setting} (h : c.rules[name]? = some setting)
    (default : Severity) (recommended : Bool) :
    c.severity name default recommended = setting.severity default := by
  rw [severity, h]

/-- A setting decides the options. -/
theorem options_of_setting {setting : Setting} (h : c.rules[name]? = some setting) :
    c.options name = setting.options := by
  rw [options, h, Option.bind_some]

/-- Presets cover a rule if one of them does. -/
theorem any_covers_iff {presets : List String} {recommended : Bool} :
    presets.any (covers · recommended) = true ↔ Covered presets recommended := by
  simp only [List.any_eq_true, covers, Bool.or_eq_true, Bool.and_eq_true, decide_eq_true_eq]
  constructor
  · rintro ⟨preset, hmem, rfl | ⟨rfl, hrecommended⟩⟩
    · exact Or.inl hmem
    · exact Or.inr ⟨hmem, hrecommended⟩
  · rintro (hall | ⟨hmem, hrecommended⟩)
    · exact ⟨"all", hall, Or.inl rfl⟩
    · exact ⟨"recommended", hmem, Or.inr ⟨rfl, hrecommended⟩⟩

/-- A rule without a setting is on if a preset covers it. -/
theorem severity_of_none (h : c.rules[name]? = none) (default : Severity) (recommended : Bool) :
    c.severity name default recommended =
      if Covered c.presetNames recommended then some default else none := by
  rw [severity, h]
  simp only [any_covers_iff]

/-- Without a setting there are no options. -/
theorem options_of_none (h : c.rules[name]? = none) : c.options name = none := by
  rw [options, h, Option.bind_none]

/-- **Of the presets, it matters only which there are.** -/
theorem severity_eq_of_presets {c' : Config} (hrule : c'.rules[name]? = c.rules[name]?)
    (hpresets : ∀ preset, preset ∈ c'.presetNames ↔ preset ∈ c.presetNames) (default : Severity)
    (recommended : Bool) :
    c'.severity name default recommended = c.severity name default recommended := by
  cases hc : c.rules[name]? with
  | some setting =>
    rw [severity_of_setting hc, severity_of_setting (hrule.trans hc)]
  | none =>
    have hcovered : Covered c'.presetNames recommended ↔ Covered c.presetNames recommended := by
      rw [Covered, Covered, hpresets, hpresets]
    rw [severity_of_none hc, severity_of_none (hrule.trans hc)]
    simp only [hcovered]

end

/-- **The last update of a rule counts, and nothing else changes.**  After any updates of
any configuration, a rule that some of them name has the severity and the options of its
last update.  Any other rule has those it had: of its own setting, or else no options, and
its default severity if and only if a preset covers it.  The presets are the same, and two
configurations that differ in the order of their presets or in how often they name them
agree on every severity, before and after updates. -/
theorem withRules_lastUpdate (c : Config) (updates : List (String × Setting)) (name : String)
    (default : Severity) (recommended : Bool) :
    (name ∈ updates.map Prod.fst → ∃ setting, LastUpdate updates name setting) ∧
    (∀ setting, LastUpdate updates name setting →
      (c.withRules updates).severity name default recommended = setting.severity default ∧
        (c.withRules updates).options name = setting.options) ∧
    (name ∉ updates.map Prod.fst →
      (c.withRules updates).severity name default recommended =
          c.severity name default recommended ∧
        (c.withRules updates).options name = c.options name) ∧
    (∀ setting, c.rules[name]? = some setting →
      c.severity name default recommended = setting.severity default ∧
        c.options name = setting.options) ∧
    (c.rules[name]? = none →
      c.severity name default recommended =
          (if Covered c.presetNames recommended then some default else none) ∧
        c.options name = none) ∧
    (c.withRules updates).presetNames = c.presetNames ∧
    ∀ c' : Config, (∀ preset, preset ∈ c'.presetNames ↔ preset ∈ c.presetNames) →
      c'.rules[name]? = c.rules[name]? →
        (c'.withRules updates).severity name default recommended =
          (c.withRules updates).severity name default recommended := by
  refine ⟨exists_lastUpdate, fun setting hlast => ?_, fun hname => ?_, fun setting hsetting => ?_,
    fun hnone => ?_, c.presetNames_withRules updates, fun c' hpresets hrule => ?_⟩
  · have hsetting := c.getElem?_withRules_of_lastUpdate hlast
    exact ⟨severity_of_setting hsetting .., options_of_setting hsetting⟩
  · have hrule := c.getElem?_withRules_of_not_mem hname
    have hpresets := c.presetNames_withRules updates
    refine ⟨severity_eq_of_presets hrule (fun preset => by rw [hpresets]) .., ?_⟩
    rw [options, options, hrule]
  · exact ⟨severity_of_setting hsetting .., options_of_setting hsetting⟩
  · exact ⟨severity_of_none hnone .., options_of_none hnone⟩
  · refine severity_eq_of_presets ?_ (fun preset => ?_) ..
    · by_cases hname : name ∈ updates.map Prod.fst
      · obtain ⟨setting, hlast⟩ := exists_lastUpdate hname
        rw [getElem?_withRules_of_lastUpdate _ hlast, getElem?_withRules_of_lastUpdate _ hlast]
      · rw [getElem?_withRules_of_not_mem _ hname, getElem?_withRules_of_not_mem _ hname, hrule]
    · rw [presetNames_withRules, presetNames_withRules, hpresets]

/-- Presets become the base of a configuration with settings: one rule is updated twice,
one has a setting from before, and one has none and is covered whatever the order of the
presets. -/
theorem withRules_lastUpdate_twice :
    let c := (presets (.multiple ["recommended", "all"])).withRule "hyphens" (.level .warn)
    let c' := (presets (.multiple ["all", "recommended", "all"])).withRule "hyphens" (.level .warn)
    let updates := [("colons", .level .off), ("braces", .enabled true),
      ("colons", .detailed true (some .warn) (some .null)), ("commas", .enabled false)]
    "colons" ∈ updates.map Prod.fst ∧
      (c.withRules updates).severity "colons" .error true = some .warning ∧
      (c.withRules updates).options "colons" = some .null ∧
      (c.withRules updates).severity "hyphens" .error true = some .warning ∧
      (c.withRules updates).severity "octal-values" .error false = some .error ∧
      (c'.withRules updates).severity "octal-values" .error false = some .error ∧
      (c.withRules updates).presetNames = ["recommended", "all"] := by
  intro c c' updates
  have hlast : LastUpdate updates "colons" (.detailed true (some .warn) (some .null)) :=
    ⟨[("colons", .level .off), ("braces", .enabled true)], [("commas", .enabled false)], rfl,
      by simp⟩
  have hhyphens : c.rules["hyphens"]? = some (.level .warn) := by
    rw [getElem?_withRule, if_pos rfl]
  have hoctal : c.rules["octal-values"]? = none := by
    rw [getElem?_withRule, if_neg (by decide)]
    exact Std.TreeMap.getElem?_emptyc
  have hoctal' : c'.rules["octal-values"]? = none := by
    rw [getElem?_withRule, if_neg (by decide)]
    exact Std.TreeMap.getElem?_emptyc
  obtain ⟨-, hcolons, -⟩ := withRules_lastUpdate c updates "colons" .error true
  obtain ⟨-, -, hkept, hown, -⟩ := withRules_lastUpdate c updates "hyphens" .error true
  obtain ⟨-, -, hkept', -, hnone, hpresets, hequal⟩ :=
    withRules_lastUpdate c updates "octal-values" .error false
  have hon : (c.withRules updates).severity "octal-values" .error false = some .error := by
    rw [(hkept' (by simp [updates])).1, (hnone hoctal).1]
    decide
  refine ⟨by simp [updates], (hcolons _ hlast).1, (hcolons _ hlast).2, ?_, hon, ?_, hpresets⟩
  · rw [(hkept (by simp [updates])).1, (hown _ hhyphens).1]
    rfl
  · rw [hequal c' (fun preset => ?_) (hoctal'.trans hoctal.symm), hon]
    change preset ∈ ["all", "recommended", "all"] ↔ preset ∈ ["recommended", "all"]
    simp only [List.mem_cons, List.not_mem_nil, or_false]
    rw [or_comm (a := preset = "all"), or_assoc, or_self]

end Config
end YamlStyle
