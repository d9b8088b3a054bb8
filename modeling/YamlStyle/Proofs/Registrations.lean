/-
# Registrations

Rules are registered one by one and in blocks, and a registry has them in that order
under distinct names.  One step refuses a rule whose name is taken and adds any other,
which keeps the index in agreement with the order of the rules.  A run therefore stops at
the first position whose name stands at an earlier one
(`Catalogue.Consistent.registerAll_eq_error_iff`), and if there is none it ends with the
rules as they came (`Catalogue.Consistent.registerAll_eq_ok_iff`).

To add rules without looking at their names is right as long as the names are distinct
(`Catalogue.consistent_ofRules`).  Names of rules are, so in any registry a name leads to
the one rule that has it (`Registry.get?_eq_some_iff`).
-/

import Mathlib.Data.List.Nodup
import YamlStyle.Pattern.Standard
import YamlStyle.Registry

namespace YamlStyle

/-! ### Positions of repeated names -/

namespace Registration

/-- A name stands at a position and at an earlier one. -/
def RepeatedAt (names : List String) (i : Nat) (name : String) : Prop :=
  names[i]? = some name ∧ name ∈ names.take i

/-- The first position whose name stands at an earlier one. -/
def FirstRepeated (names : List String) (i : Nat) (name : String) : Prop :=
  RepeatedAt names i name ∧ ∀ j < i, ∀ other, ¬ RepeatedAt names j other

section

variable {names front back : List String} {name other : String} {i j : Nat}

/-- Where all names differ, none is repeated. -/
theorem not_repeatedAt_of_nodup (h : names.Nodup) : ¬ RepeatedAt names i name := by
  rintro ⟨hi, hearlier⟩
  obtain ⟨j, hj⟩ := List.mem_iff_getElem?.1 hearlier
  rw [List.getElem?_take] at hj
  split_ifs at hj with hlt
  have hlength : i < names.length := (List.getElem?_eq_some_iff.1 hi).1
  exact List.nodup_iff_getElem?_ne_getElem?.1 h j i hlt hlength (hj.trans hi.symm)

/-- Names that come later do not matter. -/
theorem repeatedAt_append_iff (hi : i < front.length) :
    RepeatedAt (front ++ back) i name ↔ RepeatedAt front i name := by
  rw [RepeatedAt, RepeatedAt, List.getElem?_append_left hi,
    List.take_append_of_le_length (Nat.le_of_lt hi)]

/-- Behind distinct names, the first that is one of them is the first repeated one. -/
theorem firstRepeated_append (hfront : front.Nodup) (hname : name ∈ front) :
    FirstRepeated (front ++ name :: back) front.length name := by
  refine ⟨⟨by simp, by simpa using hname⟩, fun j hj other hrepeated => ?_⟩
  exact not_repeatedAt_of_nodup hfront ((repeatedAt_append_iff hj).1 hrepeated)

/-- There is one first repetition. -/
theorem FirstRepeated.unique (h : FirstRepeated names i name) (h' : FirstRepeated names j other) :
    name = other := by
  rcases Nat.lt_trichotomy i j with hlt | rfl | hlt
  · exact absurd h.1 (h'.2 i hlt name)
  · exact Option.some.inj (h.1.1.symm.trans h'.1.1)
  · exact absurd h'.1 (h.2 j hlt other)

end

end Registration

/-! ### Names of rules -/

namespace Rule

/-- Every rule is among all rules. -/
theorem mem_all (r : Rule) : r ∈ all := by
  rcases r with r | r <;> cases r <;> decide

/-- No two rules have one name. -/
theorem name_injective : Function.Injective name := by
  intro r s h
  have hall : ∀ r ∈ all, ∀ s ∈ all, r.name = s.name → r = s := by decide
  exact hall r r.mem_all s s.mem_all h

end Rule

/-! ### Runs of registrations -/

namespace Catalogue

open Registration

section

variable {c next : Catalogue} {rules : List Rule}

/-- Rules are added at the end. -/
theorem rules_foldl_add (c : Catalogue) (rules : List Rule) :
    (rules.foldl add c).rules = c.rules ++ rules := by
  induction rules generalizing c with
  | nil => simp
  | cons r rest ih => simp [ih, add]

/-- The catalogue of rules has these rules. -/
theorem rules_ofRules (rules : List Rule) : (ofRules rules).rules = rules := by
  rw [ofRules, rules_foldl_add]
  rfl

/-- A name that is taken ends the registration. -/
theorem registerAll_cons_of_mem (h : c.Consistent) {r : Rule} (hr : r.name ∈ c.names) :
    c.registerAll (r :: rules) = .error (.duplicateRule r.name) := by
  rw [registerAll, h.register_eq, if_pos hr]

/-- A rule with a new name is added. -/
theorem registerAll_cons_of_not_mem (h : c.Consistent) {r : Rule} (hr : r.name ∉ c.names) :
    c.registerAll (r :: rules) = (c.add r).registerAll rules := by
  rw [registerAll, h.register_eq, if_neg hr]

/-- A rule that is added brings its name. -/
theorem names_add_append (r : Rule) (rest : List Rule) :
    (c.add r).names ++ rest.map Rule.name = c.names ++ (r :: rest).map Rule.name := by
  rw [names_add, List.append_assoc]
  rfl

/-- **A run that ends has distinct names, and has added every rule.** -/
theorem Consistent.registerAll_eq_ok_iff (h : c.Consistent) :
    c.registerAll rules = .ok next ↔
      (c.names ++ rules.map Rule.name).Nodup ∧ rules.foldl Catalogue.add c = next := by
  induction rules generalizing c with
  | nil => simp [Catalogue.registerAll, h.nodup_names]
  | cons r rest ih =>
    by_cases hr : r.name ∈ c.names
    · have hnodup : ¬ (c.names ++ (r :: rest).map Rule.name).Nodup := fun hnodup =>
        List.disjoint_of_nodup_append hnodup hr (by simp)
      rw [registerAll_cons_of_mem h hr]
      exact ⟨nofun, fun hall => absurd hall.1 hnodup⟩
    · rw [registerAll_cons_of_not_mem h hr, ih (h.add hr), names_add_append, List.foldl_cons]

/-- **A run stops at the first name that stands at an earlier position.** -/
theorem Consistent.registerAll_eq_error_iff (h : c.Consistent) {e : ConfigError} :
    c.registerAll rules = .error e ↔
      ∃ i name, FirstRepeated (c.names ++ rules.map Rule.name) i name ∧
        e = .duplicateRule name := by
  -- A step moves a name from those to come to those there are; the names together stay.
  induction rules generalizing c with
  | nil =>
    refine ⟨nofun, fun ⟨i, name, hfirst, _⟩ => ?_⟩
    rw [List.map_nil, List.append_nil] at hfirst
    exact absurd hfirst.1 (not_repeatedAt_of_nodup h.nodup_names)
  | cons r rest ih =>
    by_cases hr : r.name ∈ c.names
    · have hhere : FirstRepeated (c.names ++ (r :: rest).map Rule.name) c.names.length r.name :=
        firstRepeated_append h.nodup_names hr
      rw [registerAll_cons_of_mem h hr, Except.error.injEq]
      constructor
      · rintro rfl
        exact ⟨_, _, hhere, rfl⟩
      · rintro ⟨i, name, hfirst, rfl⟩
        rw [hfirst.unique hhere]
    · rw [registerAll_cons_of_not_mem h hr, ih (h.add hr), names_add_append]

/-- Rules with distinct names may be added without a look at the names. -/
theorem consistent_ofRules (h : (rules.map Rule.name).Nodup) : (ofRules rules).Consistent :=
  consistent_empty.registerAll (consistent_empty.registerAll_eq_ok_iff.2 ⟨h, rfl⟩)

/-- A name leads to the rule that has it. -/
theorem Consistent.get?_eq_some_iff (h : c.Consistent) {name : String} {r : Rule} :
    c.get? name = some r ↔ r ∈ c.rules ∧ r.name = name := by
  have hposition {i : Nat} (hi : c.rules[i]? = some r) : c.names[i]? = some r.name := by
    rw [names, List.getElem?_map, hi, Option.map_some]
  rw [get?, Option.bind_eq_some_iff]
  constructor
  · rintro ⟨i, hindex, hi⟩
    rw [h, hposition hi, Option.some_inj] at hindex
    exact ⟨List.mem_of_getElem? hi, hindex⟩
  · rintro ⟨hr, rfl⟩
    obtain ⟨i, hi⟩ := List.mem_iff_getElem?.1 hr
    exact ⟨i, (h _ _).2 (hposition hi), hi⟩

end

end Catalogue

/-! ### Registries -/

namespace Registry

open Registration

section

variable {g : Registry} {rules : List Rule} {name : String} {r : Rule}

/-- No name stands twice in a registry. -/
theorem nodup_names (g : Registry) : g.names.Nodup := g.nodup.map Rule.name_injective

/-- The index of a registry fits its rules. -/
theorem consistent_catalogue (g : Registry) : g.catalogue.Consistent :=
  Catalogue.consistent_ofRules g.nodup_names

/-- The index of a registry gives a name the position where it stands. -/
theorem getElem?_index_catalogue (g : Registry) (name : String) (i : Nat) :
    g.catalogue.index[name]? = some i ↔ g.names[i]? = some name := by
  rw [g.consistent_catalogue, Catalogue.names, catalogue, Catalogue.rules_ofRules, Registry.names]

/-- **In any registry, a name leads to the rule that has it.** -/
theorem get?_eq_some_iff : g.get? name = some r ↔ r ∈ g.rules ∧ r.name = name := by
  rw [get?, g.consistent_catalogue.get?_eq_some_iff, catalogue, Catalogue.rules_ofRules]

/-- A name that is not registered leads nowhere. -/
theorem get?_eq_none (h : name ∉ g.names) : g.get? name = none := by
  refine Option.eq_none_iff_forall_ne_some.2 fun r hr => ?_
  obtain ⟨hmem, rfl⟩ := get?_eq_some_iff.1 hr
  exact h (List.mem_map_of_mem hmem)

/-- Registrations that succeed make a registry of the rules. -/
theorem ofRules_of_ok {c : Catalogue} (h : Catalogue.empty.registerAll rules = .ok c) :
    ∃ g, ofRules rules = .ok g ∧ g.rules = c.rules := by
  unfold ofRules
  split
  · rename_i c' hc'
    obtain rfl : c' = c := Except.ok.inj (hc'.symm.trans h)
    exact ⟨_, rfl, rfl⟩
  · rename_i hcause
    cases hcause.symm.trans h

/-- Registrations that fail make none. -/
theorem ofRules_of_error {e : ConfigError} (h : Catalogue.empty.registerAll rules = .error e) :
    ofRules rules = .error e := by
  unfold ofRules
  split
  · rename_i hc
    cases hc.symm.trans h
  · rename_i hcause
    rw [Except.error.inj (hcause.symm.trans h)]

/-- Rules with distinct names make a registry, which has them as they came. -/
theorem exists_ofRules_eq_ok (h : (rules.map Rule.name).Nodup) :
    ∃ g, ofRules rules = .ok g ∧ g.rules = rules := by
  obtain ⟨g, hg, hrules⟩ :=
    ofRules_of_ok (Catalogue.consistent_empty.registerAll_eq_ok_iff.2 ⟨h, rfl⟩)
  exact ⟨g, hg, hrules.trans (Catalogue.rules_ofRules rules)⟩

/-- Any other rules are refused, for the first name that is repeated. -/
theorem ofRules_eq_error_iff {e : ConfigError} :
    ofRules rules = .error e ↔
      ∃ i name, FirstRepeated (rules.map Rule.name) i name ∧ e = .duplicateRule name := by
  change _ ↔ ∃ i name, FirstRepeated (Catalogue.empty.names ++ rules.map Rule.name) i name ∧ _
  rw [← Catalogue.consistent_empty.registerAll_eq_error_iff]
  refine ⟨fun he => ?_, ofRules_of_error⟩
  cases hrun : Catalogue.empty.registerAll rules with
  | error cause => rw [Except.error.inj ((ofRules_of_error hrun).symm.trans he)]
  | ok c =>
    obtain ⟨g, hg, -⟩ := ofRules_of_ok hrun
    cases hg.symm.trans he

/-- Registration fails if a name comes twice. -/
theorem exists_ofRules_eq_error_iff :
    (∃ e, ofRules rules = .error e) ↔ ¬ (rules.map Rule.name).Nodup := by
  constructor
  · rintro ⟨e, he⟩ hnodup
    obtain ⟨g, hg, -⟩ := exists_ofRules_eq_ok hnodup
    cases hg.symm.trans he
  · intro hnodup
    cases hrun : Catalogue.empty.registerAll rules with
    | error cause => exact ⟨cause, ofRules_of_error hrun⟩
    | ok c => exact absurd (Catalogue.consistent_empty.registerAll_eq_ok_iff.1 hrun).1 hnodup

end

/-- **A registry has the rules in the order of registration and finds each by its name.**
Registrations of single rules and of all rules at once, in any order and number, are
refused if and only if some name comes twice, and then for the name at the first position
whose name stands at an earlier one.  Otherwise there is a registry of just these rules
in their order, its index gives every name the one position where it stands, and a name
leads to the one rule that has it, or nowhere if no rule has it. -/
theorem ofRegistrations_order_index [Pattern.Engine] (registrations : List Registration) :
    let rules := registrations.flatMap Registration.rules
    let names := rules.map Rule.name
    ((∃ e, ofRegistrations registrations = .error e) ↔ ∃ name, 2 ≤ names.count name) ∧
    (∀ e, ofRegistrations registrations = .error e ↔
      ∃ i name, FirstRepeated names i name ∧ e = .duplicateRule name) ∧
    ((∀ name, names.count name ≤ 1) → ∃ g, ofRegistrations registrations = .ok g ∧
      g.rules = rules ∧ g.names = names ∧ g.size = names.length ∧
      (∀ (name : String) (i : Nat),
        g.catalogue.index[name]? = some i ↔ names[i]? = some name) ∧
      (∀ name ∈ names, ∃ r ∈ rules, r.name = name ∧ g.get? name = some r ∧
        ∀ s ∈ rules, s.name = name → s = r) ∧
      (∀ (i : Nat) (r : Rule), rules[i]? = some r →
        names[i]? = some r.name ∧ g.get? r.name = some r ∧
          (g.get? r.name).map Rule.kind = some r.kind ∧
          (g.get? r.name).map Rule.defaultOptions = some r.defaultOptions) ∧
      ∀ name, name ∉ names → g.get? name = none) := by
  intro rules names
  have htwice : ¬ names.Nodup ↔ ∃ name, 2 ≤ names.count name := by
    rw [List.nodup_iff_count_le_one, not_forall]
    simp only [Nat.not_le, Nat.succ_le_iff]
  refine ⟨exists_ofRules_eq_error_iff.trans htwice, fun e => ofRules_eq_error_iff,
    fun honce => ?_⟩
  obtain ⟨g, hg, hrules⟩ := exists_ofRules_eq_ok (List.nodup_iff_count_le_one.2 honce)
  have hnames : g.names = names := congrArg (List.map Rule.name) hrules
  have hfound {r : Rule} (hr : r ∈ rules) : g.get? r.name = some r :=
    get?_eq_some_iff.2 ⟨hrules ▸ hr, rfl⟩
  refine ⟨g, hg, hrules, hnames, ?_, fun name i => ?_, fun name hname => ?_, fun i r hi => ?_,
    fun name hname => get?_eq_none (hnames ▸ hname)⟩
  · rw [← hnames]
    simp [size, Registry.names]
  · rw [g.getElem?_index_catalogue, hnames]
  · obtain ⟨r, hr, rfl⟩ := List.mem_map.1 hname
    exact ⟨r, hr, rfl, hfound hr, fun s _ hs => Rule.name_injective hs⟩
  · have hr := hfound (List.mem_of_getElem? hi)
    refine ⟨?_, hr, ?_, ?_⟩
    · rw [List.getElem?_map, hi, Option.map_some]
    · rw [hr, Option.map_some]
    · rw [hr, Option.map_some]

open Pattern.Standard in
/-- A rule before the block of all rules makes the block's own registration of it the
first that is refused, before that of a third rule; two rules against their usual order
keep theirs. -/
theorem ofRegistrations_order_index_blocks :
    let registrations : List Registration :=
      [.rule (.line .trailingSpaces), .rule (.token .colons)]
    ofRegistrations [.rule (.line .newLines), .builtin, .rule (.token .colons)] =
        .error (.duplicateRule "new-lines") ∧
      (∀ name, ((registrations.flatMap Registration.rules).map Rule.name).count name ≤ 1) ∧
      ∃ g, ofRegistrations registrations = .ok g ∧ g.names = ["trailing-spaces", "colons"] ∧
        g.catalogue.index["colons"]? = some 1 ∧ g.get? "colons" = some (.token .colons) ∧
        g.get? "new-lines" = none := by
  intro registrations
  have honce : ∀ name,
      ((registrations.flatMap Registration.rules).map Rule.name).count name ≤ 1 :=
    List.nodup_iff_count_le_one.1 (by decide)
  obtain ⟨-, herror, -⟩ := ofRegistrations_order_index
    [.rule (.line .newLines), .builtin, .rule (.token .colons)]
  obtain ⟨-, -, hok⟩ := ofRegistrations_order_index registrations
  obtain ⟨g, hg, -, hnames, -, hindex, -, hfound, hnone⟩ := hok honce
  refine ⟨(herror _).2 ⟨12, "new-lines", ?_, rfl⟩, honce, g, hg, hnames, (hindex _ _).2 rfl,
    (hfound 1 (.token .colons) rfl).2.1, hnone _ (by decide)⟩
  have hfront : (Rule.line .newLines :: Rule.all.take 11).Nodup := by decide
  exact firstRepeated_append (hfront.map Rule.name_injective) (by decide)

end Registry
end YamlStyle
