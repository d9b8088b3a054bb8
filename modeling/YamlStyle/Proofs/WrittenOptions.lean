/-
# Options as they are written

The options of a rule are written as an object that has every field under its name
(`Schema.Reads.encode_eq`).  Patterns are written as their sources, and that is enough if
the engine has compiled them and keeps sources; nothing is asked of other values
(`FieldType.Valid`).  Then what is written for a field spells its value
(`FieldType.spelled_encode`), and since no field is left out, the defaults do not matter
(`Table.spelled_members`).  What is read is valid (`Schema.Reads.valid_of_resolve`).  So
options that are written and read again are what they were, and a value can be replaced by
what is written for its options (`Rule.resolve_written`).
-/

import YamlStyle.Proofs.OptionGrammar

namespace YamlStyle

/-! ### Fields -/

section

variable [Pattern.Engine]

/-- Patterns are compiled.  Other values are valid as they are. -/
def FieldType.Valid : (t : FieldType) → t.Value → Prop
  | patterns, ps => ∀ p ∈ ps, p.Compiled
  | truth, _ | signed, _ | unsigned, _ | convention, _ => True

/-- Nothing is asked of what is no pattern. -/
theorem FieldType.valid_of_ne_patterns {t : FieldType} (h : t ≠ patterns) (x : t.Value) :
    t.Valid x := by
  cases t with
  | patterns => exact absurd rfl h
  | truth | signed | unsigned | convention => trivial

/-- What is spelled is valid. -/
theorem FieldType.Spelled.valid {t : FieldType} {v : Json} {x : t.Value} (h : t.Spelled v x) :
    t.Valid x := by
  cases h with
  | truth | signed | unsigned | named | keyed => trivial
  | patterns h =>
    induction h with
    | nil => exact fun _ hp => (nomatch hp)
    | cons hfirst _ ih => exact List.forall_mem_cons.2 ⟨⟨_, hfirst⟩, ih⟩

/-- What is written for a valid value spells it. -/
theorem FieldType.spelled_encode (hkeeps : Pattern.Engine.KeepsSources) {t : FieldType}
    {x : t.Value} (hx : t.Valid x) : t.Spelled (t.codec.encode x) x := by
  cases t with
  | truth => exact .truth x
  | signed => exact .signed x
  | unsigned => exact .unsigned x
  | convention => exact .named x
  | patterns =>
    -- the source of a compiled pattern compiles to the pattern itself
    have hsources : List.Forall₂ (fun source p => Pattern.Engine.compile source = .ok p)
        (x.map (·.source)) x := by
      rw [List.forall₂_map_left_iff, List.forall₂_same]
      exact fun p hp => (hx p hp).compile_source hkeeps
    have hspelled := FieldType.Spelled.patterns hsources
    rwa [List.map_map] at hspelled

end

/-! ### Records -/

namespace Table

variable [Pattern.Engine] {ρ : Type}

/-- All fields of a record are valid. -/
def Valid (t : Table ρ) (r : ρ) : Prop := ∀ e ∈ t.entries, e.type.Valid (e.value r)

/-- A record that has no patterns is valid. -/
theorem valid_of_ne_patterns {t : Table ρ} (h : ∀ e ∈ t.entries, e.type ≠ .patterns) (r : ρ) :
    t.Valid r :=
  fun e he => FieldType.valid_of_ne_patterns (h e he) (e.value r)

/-- What members spell over valid defaults is valid. -/
theorem Spelled.valid {t : Table ρ} {default r : ρ} {members : List (String × Json)}
    (h : t.Spelled default members r) (hdefault : t.Valid default) : t.Valid r := by
  intro e he
  -- a field has the last value under its name, and its default if there is none
  cases hlast : Json.last? e.name members with
  | none =>
    rw [(h.fields e he).absent hlast]
    exact hdefault e he
  | some v => exact ((h.fields e he).last v hlast).valid

/-- The fields of a record as members. -/
def members (t : Table ρ) (r : ρ) : List (String × Json) :=
  t.entries.map fun e => (e.name, e.type.codec.encode (e.value r))

/-- The members have the names of the fields. -/
theorem keys_members (t : Table ρ) (r : ρ) : (t.members r).map Prod.fst = t.names := by
  rw [members, List.map_map]
  rfl

/-- No name stands twice. -/
theorem nodup_members (t : Table ρ) (r : ρ) : ((t.members r).map Prod.fst).Nodup := by
  rw [keys_members]
  exact t.nodup

/-- Under the name of a field stands what is written for it. -/
theorem last?_members {t : Table ρ} {e : Entry ρ} (he : e ∈ t.entries) (r : ρ) :
    Json.last? e.name (t.members r) = some (e.type.codec.encode (e.value r)) :=
  (Json.last?_eq_some_iff (t.nodup_members r)).2 (List.mem_map.2 ⟨e, he, rfl⟩)

/-- A valid record is spelled by its fields, whatever the defaults. -/
theorem spelled_members (hkeeps : Pattern.Engine.KeepsSources) {t : Table ρ} (default : ρ) {r : ρ}
    (hr : t.Valid r) : t.Spelled default (t.members r) r := by
  refine ⟨fun m hm => ?_, fun e he => ?_⟩
  · rw [← t.keys_members r]
    exact List.mem_map_of_mem hm
  · have hlast := last?_members he r
    have hspelled := FieldType.spelled_encode hkeeps (hr e he)
    refine ⟨fun v hv => ?_, fun v hv => ?_, fun hnone => ?_⟩
    · rw [← Json.last?_eq_some_iff (t.nodup_members r), hlast] at hv
      obtain rfl := Option.some.inj hv
      exact ⟨_, hspelled⟩
    · rw [hlast] at hv
      obtain rfl := Option.some.inj hv
      exact hspelled
    · rw [hlast] at hnone
      cases hnone

end Table

namespace Schema

variable [Pattern.Engine] {ρ : Type} {s : Schema ρ} {t : Table ρ}

/-- A record is written as the object of its members. -/
theorem Reads.encode_eq (h : s.Reads t) (r : ρ) : s.encode r = .object (t.members r) := by
  rw [encode, h, List.map_map]
  rfl

/-- A valid record that is written and read is what it was. -/
theorem Reads.resolve_encode (h : s.Reads t) (hkeeps : Pattern.Engine.KeepsSources) {r : ρ}
    (hr : t.Valid r) : s.resolve (some (s.encode r)) = .ok r := by
  obtain ⟨placed, hobject, hperm⟩ := Json.exists_object_eq (t.nodup_members r)
  have hplaced : t.Spelled s.default placed r :=
    (Table.spelled_members hkeeps s.default hr).of_perm hperm.symm (t.nodup_members r)
  rw [h.encode_eq, hobject, h.resolve_eq_ok_iff]
  exact ⟨placed, .object placed, hplaced⟩

/-- Whatever is read over valid defaults is valid. -/
theorem Reads.valid_of_resolve (h : s.Reads t) (hdefault : t.Valid s.default) {v? : Option Json}
    {r : ρ} (hr : s.resolve v? = .ok r) : t.Valid r := by
  cases v? with
  | none =>
    obtain rfl := Except.ok.inj hr
    exact hdefault
  | some v =>
    obtain ⟨members, -, hspelled⟩ := h.resolve_eq_ok_iff.1 hr
    exact hspelled.valid hdefault

end Schema

/-! ### Rules -/

/-- What is set for a rule gives its options. -/
theorem Config.options_withRule (c : Config) (name : String) (setting : Setting) :
    (c.withRule name setting).options name = setting.options := by
  simp [options, withRule, rules]

namespace Rule

/-- Every rule has valid defaults: none of them holds a pattern. -/
theorem valid_default [Pattern.Engine] (r : Rule) : r.table.Valid r.schema.default := by
  rcases r with r | r
  · cases r with
    | keyOrdering =>
      intro e he
      obtain rfl := List.mem_singleton.1 he
      exact fun _ hp => (nomatch hp)
    | colons | commas | documentEnd | documentStart | emptyValues | hyphens | keyDuplicates
    | octalValues => exact Table.valid_of_ne_patterns (by decide) _
  · cases r <;> exact Table.valid_of_ne_patterns (by decide) _

/-- **Options survive being written and read.**  The engine keeps the sources of patterns.
A configuration that gives a rule what is written for valid options gives it these options:
patterns have to be compiled, and any other value will do.  What a configuration gives a
rule is valid, so what is written for the options that are read gives the same. -/
theorem resolve_written [Pattern.Engine] (hkeeps : Pattern.Engine.KeepsSources) (r : Rule) :
    (∀ o, r.table.Valid o → ∀ c, c.options r.name = some (r.schema.encode o) →
      Linter.resolve c r = .ok o) ∧
    ∀ c o, Linter.resolve c r = .ok o → r.table.Valid o ∧
      ∀ c', c'.options r.name = some (r.schema.encode o) →
        Linter.resolve c' r = Linter.resolve c r := by
  have hwritten : ∀ o, r.table.Valid o → ∀ c, c.options r.name = some (r.schema.encode o) →
      Linter.resolve c r = .ok o := by
    intro o ho c hc
    rw [resolve_eq_ok_iff, hc]
    exact r.schema_reads.resolve_encode hkeeps ho
  refine ⟨hwritten, fun c o hok => ?_⟩
  have ho : r.table.Valid o :=
    r.schema_reads.valid_of_resolve r.valid_default (resolve_eq_ok_iff.1 hok)
  refine ⟨ho, fun c' hc' => ?_⟩
  rw [hok]
  exact hwritten o ho c' hc'

open Pattern.Standard in
/-- The greatest limit on the length of lines, a pattern for keys, and a convention that is
given by a key and written by its name. -/
theorem resolve_written_max :
    let longest : LineLength.Options := { max := 18446744073709551615, allowLongWords := false }
    let lengths : Config := Config.empty.withRule "line-length"
      (.detailed true none (some ((line .lineLength).schema.encode longest)))
    let ignoring : KeyOrdering.Options :=
      { ignored := (Pattern.Engine.compile "x-[0-9]+").toOption.toList }
    let keys : Config := Config.empty.withRule "key-ordering"
      (.detailed true none (some ((token .keyOrdering).schema.encode ignoring)))
    let keyed : Json := .obj [("type", .obj [("dos", .null)])]
    let given : Config := Config.empty.withRule "new-lines" (.detailed true none (some keyed))
    let written : Config := Config.empty.withRule "new-lines"
      (.detailed true none (some (.obj [("type", .str "dos")])))
    Pattern.Engine.KeepsSources ∧
      (line .lineLength).table.Valid longest ∧
      Linter.resolve lengths (line .lineLength) = .ok longest ∧
      ignoring.ignored.map (·.source) = ["x-[0-9]+"] ∧
      (token .keyOrdering).table.Valid ignoring ∧
      Linter.resolve keys (token .keyOrdering) = .ok ignoring ∧
      Linter.resolve given (line .newLines) = .ok ⟨.dos⟩ ∧
      Linter.resolve written (line .newLines) = .ok ⟨.dos⟩ := by
  intro longest lengths ignoring keys keyed given written
  have hlengths :
      lengths.options "line-length" = some ((line .lineLength).schema.encode longest) :=
    Config.options_withRule ..
  have hkeys : keys.options "key-ordering" = some ((token .keyOrdering).schema.encode ignoring) :=
    Config.options_withRule ..
  have hgiven : given.options "new-lines" = some keyed := Config.options_withRule ..
  have hwritten : written.options "new-lines" = some (.obj [("type", .str "dos")]) :=
    Config.options_withRule ..
  have hlongest : (line .lineLength).table.Valid longest :=
    Table.valid_of_ne_patterns (by decide) longest
  have hignoring : (token .keyOrdering).table.Valid ignoring := by
    intro e he
    obtain rfl := List.mem_singleton.1 he
    change ∀ p ∈ (Pattern.Engine.compile "x-[0-9]+").toOption.toList, p.Compiled
    cases hp : Pattern.Engine.compile "x-[0-9]+" with
    | error cause => exact fun _ hmem => (nomatch hmem)
    | ok p => exact List.forall_mem_singleton.2 ⟨_, hp⟩
  have hdos : Linter.resolve given (line .newLines) = .ok ⟨.dos⟩ := by
    rw [resolve_eq_ok_iff]
    exact (congrArg _ hgiven).trans rfl
  refine ⟨keepsSources, hlongest,
    (resolve_written keepsSources (line .lineLength)).1 longest hlongest lengths hlengths,
    by decide +kernel, hignoring,
    (resolve_written keepsSources (token .keyOrdering)).1 ignoring hignoring keys hkeys, hdos, ?_⟩
  rw [← hdos]
  exact ((resolve_written keepsSources (line .newLines)).2 given ⟨.dos⟩ hdos).2 written hwritten

end Rule
end YamlStyle
