/-
# Registries

The rules a linter knows, in the order in which they were registered.  The
order decides between diagnostics at one place.  No rule is registered twice.

A registry is made by way of a catalogue, which has an index of names beside its
rules.  Adding a rule does not look at the names there are; registering one does,
and refuses a name that leads to a rule.  So the index agrees with the order of
the rules however many are registered (`Catalogue.Consistent.registerAll`), and no
two of them have one name (`Catalogue.Consistent.nodup_names`).
-/

import Std.Data.TreeMap
import YamlStyle.Config.Error
import YamlStyle.Rule.Basic

namespace YamlStyle

/-- Rules in order, and where each name stands among them. -/
structure Catalogue where
  rules : List Rule
  index : Std.TreeMap String Nat Text.compareTexts

namespace Catalogue

/-- No rule. -/
def empty : Catalogue := ⟨[], ∅⟩

/-- The names of the rules, in order. -/
def names (c : Catalogue) : List String := c.rules.map (·.name)

/-- Puts a rule at the end.  Its name leads to it from then on, whatever it led to. -/
def add (c : Catalogue) (r : Rule) : Catalogue :=
  ⟨c.rules ++ [r], c.index.insert r.name c.rules.length⟩

/-- The rule to which a name leads. -/
def get? (c : Catalogue) (name : String) : Option Rule := c.index[name]?.bind (c.rules[·]?)

/-- Puts a rule at the end if its name leads nowhere. -/
def register (c : Catalogue) (r : Rule) : Except ConfigError Catalogue :=
  if (c.get? r.name).isSome then .error (.duplicateRule r.name) else .ok (c.add r)

/-- Registers rules in order, up to the first that is refused. -/
def registerAll : Catalogue → List Rule → Except ConfigError Catalogue
  | c, [] => .ok c
  | c, r :: rest =>
    match c.register r with
    | .ok next => registerAll next rest
    | .error cause => .error cause

/-- The rules in order, each added as it comes. -/
def ofRules (rules : List Rule) : Catalogue := rules.foldl add empty

/-- A name leads to a position if and only if it stands there. -/
def Consistent (c : Catalogue) : Prop :=
  ∀ (name : String) (i : Nat), c.index[name]? = some i ↔ c.names[i]? = some name

section

variable {c next : Catalogue} {r : Rule}

/-- A rule that is added brings its name at the end. -/
theorem names_add : (c.add r).names = c.names ++ [r.name] := by
  simp [names, add]

/-- A rule that is added is found at the end, and others where they were. -/
theorem getElem?_index_add (name : String) :
    (c.add r).index[name]? = if r.name = name then some c.names.length else c.index[name]? := by
  simp [add, names, Std.TreeMap.getElem?_insert, Std.LawfulEqCmp.compare_eq_iff_eq]

/-- Nothing is found in the empty catalogue. -/
theorem consistent_empty : empty.Consistent := by
  intro name i
  simp [empty, names]

/-- A name that leads somewhere is the name of a rule. -/
theorem Consistent.isSome_get?_iff (h : c.Consistent) {name : String} :
    (c.get? name).isSome = true ↔ name ∈ c.names := by
  rw [List.mem_iff_getElem?, get?]
  cases hindex : c.index[name]? with
  | none =>
    refine ⟨fun hsome => by simp at hsome, fun ⟨i, hi⟩ => ?_⟩
    rw [(h name i).2 hi] at hindex
    cases hindex
  | some i =>
    have hi := (h name i).1 hindex
    refine ⟨fun _ => ⟨i, hi⟩, fun _ => ?_⟩
    rw [names, List.getElem?_map] at hi
    obtain ⟨s, hs, -⟩ := Option.map_eq_some_iff.1 hi
    simp [hs]

/-- Adding a rule under a new name keeps the index in agreement with the order. -/
theorem Consistent.add (h : c.Consistent) (hr : r.name ∉ c.names) : (c.add r).Consistent := by
  intro name i
  rw [getElem?_index_add, names_add, List.getElem?_append]
  by_cases hname : r.name = name
  · -- The new name stands at the end only.
    subst hname
    rw [if_pos rfl, Option.some_inj]
    split
    · rename_i hi
      exact ⟨fun heq => by omega, fun heq => absurd (List.mem_of_getElem? heq) hr⟩
    · rename_i hi
      rw [List.getElem?_singleton]
      split
      · exact ⟨fun _ => rfl, fun _ => by omega⟩
      · exact ⟨fun heq => by omega, nofun⟩
  · rw [if_neg hname, h name i]
    split
    · rfl
    · rename_i hi
      rw [List.getElem?_eq_none (Nat.le_of_not_lt hi), List.getElem?_singleton]
      split
      · exact ⟨nofun, fun heq => absurd (Option.some.inj heq) hname⟩
      · rfl

/-- A name that stood at two positions would lead to both. -/
theorem Consistent.nodup_names (h : c.Consistent) : c.names.Nodup := by
  rw [List.Nodup, List.pairwise_iff_getElem]
  intro i j hi hj hij heq
  have hfirst := (h c.names[i] i).2 (List.getElem?_eq_getElem hi)
  have hsecond := (h c.names[i] j).2 (by rw [List.getElem?_eq_getElem hj, heq])
  rw [hfirst, Option.some_inj] at hsecond
  omega

/-- A rule is refused if its name is taken, and else added. -/
theorem Consistent.register_eq (h : c.Consistent) (r : Rule) :
    c.register r =
      if r.name ∈ c.names then .error (.duplicateRule r.name) else .ok (c.add r) := by
  rw [register]
  simp only [h.isSome_get?_iff]

/-- A catalogue stays consistent when a rule is registered. -/
theorem Consistent.register (h : c.Consistent) (hr : c.register r = .ok next) :
    next.Consistent := by
  rw [h.register_eq] at hr
  split at hr
  · cases hr
  · rename_i hname
    cases hr
    exact h.add hname

/-- However many rules are registered, the index agrees with the order. -/
theorem Consistent.registerAll {rules : List Rule} (h : c.Consistent)
    (hall : c.registerAll rules = .ok next) : next.Consistent := by
  induction rules generalizing c with
  | nil =>
    cases hall
    exact h
  | cons r rest ih =>
    unfold Catalogue.registerAll at hall
    split at hall
    · rename_i middle hmiddle
      exact ih (h.register hmiddle) hall
    · cases hall

/-- No rule stands twice in a consistent catalogue. -/
theorem Consistent.nodup_rules (h : c.Consistent) : c.rules.Nodup :=
  List.Pairwise.of_map _ (fun _ _ hne heq => hne (congrArg _ heq)) h.nodup_names

end

end Catalogue

/-- Rules in the order of their registration. -/
structure Registry where
  rules : List Rule
  nodup : rules.Nodup

/-- What is registered at once: one rule, or every rule there is. -/
inductive Registration where
  | rule (r : Rule)
  | builtin
  deriving DecidableEq, Repr

/-- The rules that are registered at once, in order. -/
def Registration.rules : Registration → List Rule
  | rule r => [r]
  | builtin => Rule.all

namespace Registry

/-- Registers rules in the given order. -/
def ofRules (rules : List Rule) : Except ConfigError Registry :=
  match h : Catalogue.empty.registerAll rules with
  | .ok c => .ok ⟨c.rules, (Catalogue.consistent_empty.registerAll h).nodup_rules⟩
  | .error cause => .error cause

/-- Makes registrations in the given order. -/
def ofRegistrations (registrations : List Registration) : Except ConfigError Registry :=
  ofRules (registrations.flatMap (·.rules))

/-- Every rule. -/
def builtin : Registry := ⟨Rule.all, by decide⟩

/-- The names of the rules, in order. -/
def names (g : Registry) : List String := g.rules.map (·.name)

/-- The number of rules. -/
def size (g : Registry) : Nat := g.rules.length

/-- The rules with an index of their names. -/
def catalogue (g : Registry) : Catalogue := .ofRules g.rules

/-- The registered rule with a name. -/
def get? (g : Registry) (name : String) : Option Rule := g.catalogue.get? name

end Registry
end YamlStyle
