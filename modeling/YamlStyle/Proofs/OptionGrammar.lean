/-
# How options of rules are written

The options that each rule has, by name and by what they hold, in the order of their
declaration (`Rule.table`).  Rules read exactly these options: they refuse what has no
place in the table, and what is not given keeps its default (`Rule.resolve_grammar`).
-/

import YamlStyle.Linter
import YamlStyle.Pattern.Standard
import YamlStyle.Proofs.OptionTables

namespace YamlStyle

/-! ### The tables -/

/-- Some rules have no options. -/
def NoOptions.table : Table NoOptions where
  entries := []
  nodup := .nil
  apart _ he := nomatch he
  ext _ _ _ := rfl

/-- The rule on colons has a limit on each side. -/
def Colons.table : Table Colons.Options where
  entries :=
    [{ name := "max-spaces-before", type := .signed, value := (·.maxBefore),
        set := ({ · with maxBefore := · }) },
      { name := "max-spaces-after", type := .signed, value := (·.maxAfter),
        set := ({ · with maxAfter := · }) }]
  nodup := by decide
  apart := by simp
  ext := by
    rintro ⟨⟩ ⟨⟩ h
    simpa using h

/-- The rule on commas has a limit before and two after. -/
def Commas.table : Table Commas.Options where
  entries :=
    [{ name := "max-spaces-before", type := .signed, value := (·.maxBefore),
        set := ({ · with maxBefore := · }) },
      { name := "min-spaces-after", type := .signed, value := (·.minAfter),
        set := ({ · with minAfter := · }) },
      { name := "max-spaces-after", type := .signed, value := (·.maxAfter),
        set := ({ · with maxAfter := · }) }]
  nodup := by decide
  apart := by simp
  ext := by
    rintro ⟨⟩ ⟨⟩ h
    simpa using h

/-- The rule on hyphens has a limit after them. -/
def Hyphens.table : Table Hyphens.Options where
  entries :=
    [{ name := "max-spaces-after", type := .signed, value := (·.maxAfter),
        set := ({ · with maxAfter := · }) }]
  nodup := by decide
  apart := by simp
  ext := by
    rintro ⟨⟩ ⟨⟩ h
    simpa using h

/-- The rules on markers ask for them or forbid them. -/
def Markers.table : Table Markers.Options where
  entries :=
    [{ name := "present", type := .truth, value := (·.present), set := ({ · with present := · }) }]
  nodup := by decide
  apart := by simp
  ext := by
    rintro ⟨⟩ ⟨⟩ h
    simpa using h

/-- The rule on empty values has one option for each kind of collection. -/
def EmptyValues.table : Table EmptyValues.Options where
  entries :=
    [{ name := "forbid-in-block-mappings", type := .truth, value := (·.blockMappings),
        set := ({ · with blockMappings := · }) },
      { name := "forbid-in-flow-mappings", type := .truth, value := (·.flowMappings),
        set := ({ · with flowMappings := · }) },
      { name := "forbid-in-block-sequences", type := .truth, value := (·.blockSequences),
        set := ({ · with blockSequences := · }) }]
  nodup := by decide
  apart := by simp
  ext := by
    rintro ⟨⟩ ⟨⟩ h
    simpa using h

/-- The rule on octal values has one option for each way to write them. -/
def OctalValues.table : Table OctalValues.Options where
  entries :=
    [{ name := "forbid-implicit-octal", type := .truth, value := (·.forbidImplicit),
        set := ({ · with forbidImplicit := · }) },
      { name := "forbid-explicit-octal", type := .truth, value := (·.forbidExplicit),
        set := ({ · with forbidExplicit := · }) }]
  nodup := by decide
  apart := by simp
  ext := by
    rintro ⟨⟩ ⟨⟩ h
    simpa using h

/-- The rule on the order of keys has patterns for those that it ignores. -/
def KeyOrdering.table : Table KeyOrdering.Options where
  entries :=
    [{ name := "ignored-keys", type := .patterns, value := (·.ignored),
        set := ({ · with ignored := · }) }]
  nodup := by decide
  apart := by simp
  ext := by
    rintro ⟨⟩ ⟨⟩ h
    simpa using h

/-- The rule on blank lines has one limit for each place of a run. -/
def EmptyLines.table : Table EmptyLines.Options where
  entries :=
    [{ name := "max", type := .unsigned, value := (·.max), set := ({ · with max := · }) },
      { name := "max-start", type := .unsigned, value := (·.maxStart),
        set := ({ · with maxStart := · }) },
      { name := "max-end", type := .unsigned, value := (·.maxEnd),
        set := ({ · with maxEnd := · }) }]
  nodup := by decide
  apart := by simp
  ext := by
    rintro ⟨⟩ ⟨⟩ h
    simpa using h

/-- The rule on the length of lines has a limit and an excuse. -/
def LineLength.table : Table LineLength.Options where
  entries :=
    [{ name := "max", type := .unsigned, value := (·.max), set := ({ · with max := · }) },
      { name := "allow-non-breakable-words", type := .truth, value := (·.allowLongWords),
        set := ({ · with allowLongWords := · }) }]
  nodup := by decide
  apart := by simp
  ext := by
    rintro ⟨⟩ ⟨⟩ h
    simpa using h

/-- The rule on line breaks has a convention. -/
def NewLines.table : Table NewLines.Options where
  entries :=
    [{ name := "type", type := .convention, value := (·.convention),
        set := ({ · with convention := · }) }]
  nodup := by decide
  apart := by simp
  ext := by
    rintro ⟨⟩ ⟨⟩ h
    simpa using h

namespace Rule

/-- The options of a rule. -/
def table : (r : Rule) → Table r.Options
  | token .colons => Colons.table
  | token .commas => Commas.table
  | token .documentEnd => Markers.table
  | token .documentStart => Markers.table
  | token .emptyValues => EmptyValues.table
  | token .hyphens => Hyphens.table
  | token .keyDuplicates => NoOptions.table
  | token .keyOrdering => KeyOrdering.table
  | token .octalValues => OctalValues.table
  | line .emptyLines => EmptyLines.table
  | line .lineLength => LineLength.table
  | line .newLineAtEndOfFile => NoOptions.table
  | line .newLines => NewLines.table
  | line .trailingSpaces => NoOptions.table

/-- Rules read the fields of their tables. -/
theorem schema_reads [Pattern.Engine] (r : Rule) : r.schema.Reads r.table := by
  rcases r with r | r
  · cases r <;> rfl
  · cases r <;> rfl

/-- A configuration gives a rule what is read from the options under its name. -/
theorem resolve_eq_ok_iff [Pattern.Engine] {c : Config} {r : Rule} {o : r.Options} :
    Linter.resolve c r = .ok o ↔ r.schema.resolve (c.options r.name) = .ok o := by
  rw [Linter.resolve]
  cases r.schema.resolve (c.options r.name) with
  | ok o' => simp
  | error cause => simp

/-- Options that cannot be read are refused with an error that names the rule and says what
is wrong. -/
theorem resolve_eq_error_iff [Pattern.Engine] {c : Config} {r : Rule} {e : ConfigError} :
    Linter.resolve c r = .error e ↔
      ∃ cause, r.schema.resolve (c.options r.name) = .error cause ∧
        e = .invalidOptions r.name cause := by
  rw [Linter.resolve]
  cases r.schema.resolve (c.options r.name) with
  | ok o => simp
  | error cause => simp [eq_comm]

/-- **Rules accept the options of their tables, and put them over the defaults.**  Nothing
else is accepted than null, an object whose members all fit, and an array, no longer than
there are fields, whose items fit by place.  Every field then has the value that is given
for it, or else its default, so an array means the same as the object with its items under
the names of the fields.  If an object is refused, it is for the key that comes first in
the order of bytes among those that are not declared or have a value that does not fit;
the members of an object stand in this order, whatever they are made from, and something
is wrong with each of them that does not fit.  All this holds for every engine, which alone
decides what is a pattern. -/
theorem resolve_grammar [Pattern.Engine] (c : Config) (r : Rule) :
    (∀ v, c.options r.name = some v →
      ((∃ o, Linter.resolve c r = .ok o) ↔
        ∃ members, r.table.Gives v members ∧ ∀ m ∈ members, r.table.Fits m) ∧
      ∀ o, Linter.resolve c r = .ok o ↔
        ∃ members, r.table.Gives v members ∧ r.table.Spelled r.schema.default members o) ∧
    (∀ items, items.length ≤ r.table.names.length → ∀ o,
      r.schema.resolve (some (.arr items)) = .ok o ↔
        r.schema.resolve (some (.object (r.table.names.zip items))) = .ok o) ∧
    (∀ members, c.options r.name = some (.obj members) →
      members.Pairwise (fun m n => Text.bytes m.1.toList < Text.bytes n.1.toList) →
      ∀ e, Linter.resolve c r = .error e ↔
        ∃ m ∈ members, ∃ cause, e = .invalidOptions r.name cause ∧ r.table.Misfit m cause ∧
          ∀ n ∈ members, Text.bytes n.1.toList < Text.bytes m.1.toList → r.table.Fits n) ∧
    (∀ m, ¬ r.table.Fits m ↔ ∃ cause, r.table.Misfit m cause) ∧
    ∀ listed, ∃ members, Json.object listed = .obj members ∧
      members.Pairwise fun m n => Text.bytes m.1.toList < Text.bytes n.1.toList := by
  have hreads := r.schema_reads
  refine ⟨fun v hv => ?_, fun items hlength o => hreads.resolve_array_iff_object hlength,
    fun members hv hasc e => ?_, fun m => Table.not_fits_iff, fun listed => ⟨_, rfl, ?_⟩⟩
  · simp only [resolve_eq_ok_iff, hv]
    exact ⟨hreads.exists_resolve_iff, fun o => hreads.resolve_eq_ok_iff⟩
  · simp only [Text.bytes_lt_bytes_iff] at hasc ⊢
    rw [resolve_eq_error_iff, hv]
    constructor
    · rintro ⟨cause, hcause, rfl⟩
      obtain ⟨m, hmem, hm, hleast⟩ := (hreads.foldlM_eq_error_iff_least hasc).1 hcause
      exact ⟨m, hmem, cause, rfl, hm, hleast⟩
    · rintro ⟨m, hmem, cause, rfl, hm, hleast⟩
      exact ⟨cause, (hreads.foldlM_eq_error_iff_least hasc).2 ⟨m, hmem, hm, hleast⟩, rfl⟩
  · simp only [Text.bytes_lt_bytes_iff]
    exact Json.pairwise_of_object_eq rfl

open Pattern.Standard in
/-- Items for the first two fields of three, as an array and by name; an object with a field
that fits, one that does not, and one that is not declared; and a pattern. -/
theorem resolve_grammar_commas :
    let given : Config := Config.empty.withRule "commas"
      (.detailed true none (some (.arr [.int 2, .int (-1)])))
    let members : List (String × Json) :=
      [("max-spaces-after", .int 1), ("min-spaces-after", .str "2"), ("min-spaces-before", .int 0)]
    let refused : Config := Config.empty.withRule "commas"
      (.detailed true none (some (.obj members)))
    let options : Commas.Options := { maxBefore := 2, minAfter := -1, maxAfter := 1 }
    let ignored : Json := .obj [("ignored-keys", .arr [.str "x-[0-9]+"])]
    let keys : Config := Config.empty.withRule "key-ordering" (.detailed true none (some ignored))
    (given.options "commas" = some (.arr [.int 2, .int (-1)]) ∧
        Linter.resolve given (token .commas) = .ok options ∧
        ∃ members, Commas.table.Gives (.arr [.int 2, .int (-1)]) members ∧
          Commas.table.Spelled {} members options) ∧
      (token .commas).schema.resolve (some (.object
        [("max-spaces-before", .int 2), ("min-spaces-after", .int (-1))])) = .ok options ∧
      refused.options "commas" = some (.obj members) ∧
      Linter.resolve refused (token .commas) =
        .error (.invalidOptions "commas" (.wrongType (.str "2") .signedInteger)) ∧
      keys.options "key-ordering" = some ignored ∧
      ∃ o, Linter.resolve keys (token .keyOrdering) = .ok o := by
  intro given members refused options ignored keys
  have hgiven : given.options "commas" = some (.arr [.int 2, .int (-1)]) := by
    simp [given, Config.options, Config.withRule, Config.rules, Setting.options]
  have hrefused : refused.options "commas" = some (.obj members) := by
    simp [refused, Config.options, Config.withRule, Config.rules, Setting.options]
  have hkeys : keys.options "key-ordering" = some ignored := by
    simp [keys, Config.options, Config.withRule, Config.rules, Setting.options]
  have hok : Linter.resolve given (token .commas) = .ok options := by
    rw [resolve_eq_ok_iff, show given.options (token .commas).name = _ from hgiven]
    rfl
  obtain ⟨haccepts, harray, -⟩ := resolve_grammar given (token .commas)
  obtain ⟨-, -, hleast, -⟩ := resolve_grammar refused (token .commas)
  obtain ⟨hignored, -⟩ := resolve_grammar keys (token .keyOrdering)
  refine ⟨⟨hgiven, hok, ((haccepts _ hgiven).2 options).1 hok⟩, ?_, hrefused, ?_, hkeys, ?_⟩
  · exact (harray [.int 2, .int (-1)] (by decide) options).1 rfl
  · refine (hleast members hrefused (by decide +kernel) _).2
      ⟨_, List.mem_cons_of_mem _ (List.mem_cons_self ..), _, rfl, ?_, ?_⟩
    · exact .illTyped (List.mem_cons_of_mem _ (List.mem_cons_self ..)) rfl rfl
    · intro n hn hlt
      rcases List.mem_cons.1 hn with rfl | hn
      · exact ⟨_, List.mem_cons_of_mem _ (List.mem_cons_of_mem _ (List.mem_cons_self ..)), rfl, 1,
          .signed 1⟩
      · have hle : ∀ n ∈ members.tail, ¬ Text.bytes n.1.toList <
            Text.bytes "min-spaces-after".toList := by decide +kernel
        exact absurd hlt (hle n hn)
  · refine (hignored _ hkeys).1.2 ⟨_, .object _, fun m hm => ?_⟩
    obtain rfl := List.mem_singleton.1 hm
    have hcompiles : (Pattern.Engine.compile "x-[0-9]+").isOk = true := by decide +kernel
    cases hp : Pattern.Engine.compile "x-[0-9]+" with
    | error cause => rw [hp] at hcompiles; cases hcompiles
    | ok p => exact ⟨_, List.mem_singleton_self _, rfl, [p], .patterns (.cons hp .nil)⟩

end Rule
end YamlStyle
