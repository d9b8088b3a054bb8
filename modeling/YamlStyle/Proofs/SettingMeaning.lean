/-
# What settings say

A setting can be written in four ways, which share their words.  Which values are
settings is said here on the values alone (`Setting.Accepted`), and so is what they
say: whether they switch a rule off (`Setting.SwitchesOff`), which severity they name
(`Setting.named?`), and which options they give (`Setting.given?`).

However it is written, a setting has three parts (`Setting.detail`): whether the rule is
on, a level, and options.  Each part of what is read is found in the value by itself
(`Setting.Spelled.on_iff`, `level_eq`, `options_eq`), and the severity depends on the
first two only (`Setting.severity_eq_none_iff`, `Setting.severity_eq_some`).  So reading
accepts the right values, and gives each its meaning (`Setting.decode_resolves`).
-/

import YamlStyle.Proofs.SettingGrammar

namespace YamlStyle

/-! ### Words for levels -/

namespace Level

/-- The words that switch a rule off. -/
def offWords : List String := ["off", "disable"]

/-- The words for severities. -/
def severityWords : List (String × Severity) :=
  [("warn", .warning), ("warning", .warning), ("error", .error)]

/-- The words for levels. -/
def words : List String := offWords ++ severityWords.map Prod.fst

/-- Two words mean that a rule is off. -/
theorem ofName?_eq_off_iff {word : String} : ofName? word = some .off ↔ word ∈ offWords := by
  unfold ofName?
  split <;> simp_all [offWords]

/-- Nothing but these words is a level. -/
theorem exists_ofName?_iff {word : String} : (∃ l, ofName? word = some l) ↔ word ∈ words := by
  unfold ofName?
  split <;> simp_all [words, offWords, severityWords]

/-- A word names the severity of its level. -/
theorem ofName?_bind_severity (word : String) :
    (ofName? word).bind severity = severityWords.lookup word := by
  unfold ofName?
  split
  case h_6 => exact (List.lookup_eq_none_iff.2 (by simp_all [severityWords])).symm
  all_goals rfl

/-- Only the level for off has no severity. -/
theorem severity_eq_none_iff {l : Level} : l.severity = none ↔ l = .off := by
  cases l <;> simp [severity]

end Level

namespace Setting

/-! ### What values say -/

/-- The values that are settings. -/
inductive Accepted : Json → Prop
  | truth (on : Bool) : Accepted (.bool on)
  | word {word : String} (h : word = "enable" ∨ word ∈ Level.words) : Accepted (.str word)
  | items {word : String} {rest : List Json} (h : word ∈ Level.words) (hlength : rest.length ≤ 1) :
      Accepted (.arr (.str word :: rest))
  | object {members : List (String × Json)} (hkeys : Json.Known keys members)
      (hon : ∀ v, ("enabled", v) ∈ members → ∃ on, v = .bool on)
      (hlevel : ∀ v, ("severity", v) ∈ members → v = .null ∨ ∃ word ∈ Level.words, v = .str word) :
      Accepted (.obj members)

/-- The word in a value that stands for a level. -/
def word? : Json → Option String
  | .str word => some word
  | .arr (.str word :: _) => some word
  | .obj members =>
    match Json.last? "severity" members with
    | some (.str word) => some word
    | _ => none
  | _ => none

/-- The values that switch a rule off. -/
inductive SwitchesOff : Json → Prop
  | truth : SwitchesOff (.bool false)
  | member {members : List (String × Json)}
      (h : Json.last? "enabled" members = some (.bool false)) : SwitchesOff (.obj members)
  | word {v : Json} {word : String} (hword : word? v = some word) (h : word ∈ Level.offWords) :
      SwitchesOff v

/-- The severity a value names. -/
def named? (v : Json) : Option Severity :=
  (word? v).bind fun word => Level.severityWords.lookup word

/-- The options a value gives.  In an object, null gives none. -/
def given? : Json → Option Json
  | .arr [_, options] => some options
  | .obj members =>
    match Json.last? "options" members with
    | some .null => none
    | found => found
  | _ => none

/-! ### The parts of a setting -/

/-- The parts of a setting, whichever way it was written. -/
def detail : Setting → Detail
  | level l => ⟨true, some l, none⟩
  | enabled on => ⟨on, none, none⟩
  | detailed on named options => ⟨on, named, options⟩

/-- The options of a setting are those among its parts. -/
theorem options_eq_detail (s : Setting) : s.options = s.detail.options := by
  cases s <;> rfl

/-- A setting that is off has no severity. -/
theorem severity_of_off {s : Setting} (h : s.detail.on = false) (default : Severity) :
    s.severity default = none := by
  match s, h with
  | .enabled false, _ => rfl
  | .detailed false _ _, _ => rfl

/-- A setting that is on has the severity of its level, or else the default. -/
theorem severity_of_on {s : Setting} (h : s.detail.on = true) (default : Severity) :
    s.severity default = s.detail.level.elim (some default) Level.severity := by
  match s, h with
  | .level _, _ => rfl
  | .enabled true, _ => rfl
  | .detailed true (some _) _, _ => rfl
  | .detailed true none _, _ => rfl

/-- A setting is off by itself, or by its level. -/
theorem severity_eq_none_iff (s : Setting) (default : Severity) :
    s.severity default = none ↔ s.detail.on = false ∨ s.detail.level = some .off := by
  cases hon : s.detail.on with
  | false => simp [severity_of_off hon]
  | true =>
    rw [severity_of_on hon]
    cases s.detail.level with
    | none => simp
    | some l => simp [Level.severity_eq_none_iff]

/-- A setting that is not off has the severity of its level, or the default one. -/
theorem severity_eq_some {s : Setting} {default : Severity} (h : s.severity default ≠ none) :
    s.severity default = some ((s.detail.level.bind Level.severity).getD default) := by
  have hon : s.detail.on = true := by
    rw [← Bool.not_eq_false]
    exact fun hoff => h (severity_of_off hoff default)
  rw [severity_of_on hon] at h ⊢
  cases hlevel : s.detail.level with
  | none => rfl
  | some l =>
    rw [hlevel] at h
    cases l with
    | off => exact absurd rfl h
    | warn | error => rfl

/-! ### What is read -/

section

variable {v : Json} {s : Setting}

/-- A setting is off by itself if it is false, or an object that says so. -/
theorem Spelled.on_iff (h : Spelled v s) :
    s.detail.on = false ↔ v = .bool false ∨
      ∃ members, v = .obj members ∧ Json.last? "enabled" members = some (.bool false) := by
  cases h with
  | truth on => simp [detail]
  | enable | level | item | items => simp [detail]
  | @object members d h =>
    have hon : d.on = false ↔ Json.last? "enabled" members = some (.bool false) := by
      cases hlast : Json.last? "enabled" members with
      | none => simp [h.on.absent hlast]
      | some v => simp [h.on.last v hlast]
    simpa [detail] using hon

/-- The level of a detailed setting is the one that its word names. -/
theorem Detail.Spelled.level_eq {members : List (String × Json)} {d : Detail}
    (h : d.Spelled members) : d.level = (word? (.obj members)).bind Level.ofName? := by
  cases hlast : Json.last? "severity" members with
  | none => simp [word?, hlast, h.level.absent hlast]
  | some v =>
    have hlevel := h.level.last v hlast
    generalize d.level = level at hlevel ⊢
    cases hlevel with
    | null => simp [word?, hlast]
    | named hname => simp [word?, hlast, hname]

/-- The level of a setting is the one that its word names. -/
theorem Spelled.level_eq (h : Spelled v s) : s.detail.level = (word? v).bind Level.ofName? := by
  cases h with
  | truth | enable => rfl
  | level h | item h | items h => exact h.symm
  | object h => exact h.level_eq

/-- A detailed setting has the options that are given. -/
theorem Detail.Spelled.options_eq {members : List (String × Json)} {d : Detail}
    (h : d.Spelled members) : d.options = given? (.obj members) := by
  cases hlast : Json.last? "options" members with
  | none => simp [given?, hlast, h.options.absent hlast]
  | some v =>
    have hoptions := h.options.last v hlast
    generalize d.options = options at hoptions ⊢
    cases hoptions with
    | null => simp [given?, hlast]
    | given hne => simp [given?, hlast, hne]

/-- A setting has the options that are given. -/
theorem Spelled.options_eq (h : Spelled v s) : s.detail.options = given? v := by
  cases h with
  | truth | enable | level | item | items => rfl
  | object h => exact h.options_eq

/-- A value switches a rule off by a truth value or by a word. -/
theorem switchesOff_iff :
    SwitchesOff v ↔ (v = .bool false ∨
      ∃ members, v = .obj members ∧ Json.last? "enabled" members = some (.bool false)) ∨
      (word? v).bind Level.ofName? = some .off := by
  constructor
  · rintro (_ | h | ⟨hword, h⟩)
    · exact .inl (.inl rfl)
    · exact .inl (.inr ⟨_, rfl, h⟩)
    · right
      rw [hword]
      exact Level.ofName?_eq_off_iff.2 h
  · rintro ((rfl | ⟨members, rfl, h⟩) | h)
    · exact .truth
    · exact .member h
    · obtain ⟨word, hword, hoff⟩ := Option.bind_eq_some_iff.1 h
      exact .word hword (Level.ofName?_eq_off_iff.1 hoff)

/-- The severity that a value names is that of its level. -/
theorem named?_eq (v : Json) : named? v = ((word? v).bind Level.ofName?).bind Level.severity := by
  rw [named?, Option.bind_assoc]
  simp only [Level.ofName?_bind_severity]

/-- Null and the words for levels are written for a level. -/
theorem exists_levelSpelled_iff :
    (∃ l, LevelSpelled v l) ↔ v = .null ∨ ∃ word ∈ Level.words, v = .str word := by
  constructor
  · rintro ⟨l, h⟩
    cases h with
    | null => exact .inl rfl
    | named h => exact .inr ⟨_, Level.exists_ofName?_iff.1 ⟨_, h⟩, rfl⟩
  · rintro (rfl | ⟨word, h, rfl⟩)
    · exact ⟨none, .null⟩
    · obtain ⟨l, hl⟩ := Level.exists_ofName?_iff.2 h
      exact ⟨some l, .named hl⟩

/-- Every value spells options. -/
theorem exists_optionsSpelled (v : Json) : ∃ o, OptionsSpelled v o := by
  cases v with
  | null => exact ⟨none, .null⟩
  | bool | int | float | str | arr | obj => exact ⟨_, .given fun h => (nomatch h)⟩

/-- The parts of an object are read apart from each other. -/
theorem exists_spelled_object_iff {members : List (String × Json)} :
    (∃ d : Detail, d.Spelled members) ↔ Accepted (.obj members) := by
  constructor
  · rintro ⟨d, h⟩
    exact .object h.known (fun v hv => h.on.valid v hv)
      fun v hv => exists_levelSpelled_iff.1 (h.level.valid v hv)
  · intro h
    cases h with
    | object hkeys hon hlevel =>
      obtain ⟨on, hon⟩ := Json.exists_under_iff.2 hon
      obtain ⟨level, hlevel⟩ :=
        Json.exists_under_iff.2 fun v hv => exists_levelSpelled_iff.2 (hlevel v hv)
      obtain ⟨options, hoptions⟩ := Json.exists_under_iff.2 fun v _ => exists_optionsSpelled v
      exact ⟨⟨on, level, options⟩, hkeys, hon, hlevel, hoptions⟩

/-- The values that spell a setting. -/
theorem exists_spelled_iff : (∃ s, Spelled v s) ↔ Accepted v := by
  constructor
  · rintro ⟨s, h⟩
    cases h with
    | truth on => exact .truth on
    | enable => exact .word (.inl rfl)
    | level h => exact .word (.inr (Level.exists_ofName?_iff.1 ⟨_, h⟩))
    | item h => exact .items (Level.exists_ofName?_iff.1 ⟨_, h⟩) (Nat.zero_le 1)
    | items h options => exact .items (Level.exists_ofName?_iff.1 ⟨_, h⟩) (Nat.le_refl 1)
    | object h => exact exists_spelled_object_iff.1 ⟨_, h⟩
  · intro h
    cases h with
    | truth on => exact ⟨_, .truth on⟩
    | word h =>
      rcases h with rfl | h
      · exact ⟨_, .enable⟩
      · obtain ⟨l, hl⟩ := Level.exists_ofName?_iff.2 h
        exact ⟨_, .level hl⟩
    | @items word rest h hlength =>
      obtain ⟨l, hl⟩ := Level.exists_ofName?_iff.2 h
      match rest, hlength with
      | [], _ => exact ⟨_, .item hl⟩
      | [options], _ => exact ⟨_, .items hl options⟩
    | object hkeys hon hlevel =>
      obtain ⟨d, hd⟩ := exists_spelled_object_iff.2 (.object hkeys hon hlevel)
      exact ⟨_, .object hd⟩

end

/-- **Settings are read as they are meant.**  A value is read as a setting if and only if it
is one of the four forms.  What is read is off if and only if the value switches it off, has
else the severity the value names or the default, and has the options the value gives. -/
theorem decode_resolves (v : Json) :
    ((∃ s, decode v = .ok s) ↔ Accepted v) ∧
      ∀ s, decode v = .ok s → s.options = given? v ∧ ∀ default,
        (s.severity default = none ↔ SwitchesOff v) ∧
        (¬ SwitchesOff v → s.severity default = some ((named? v).getD default)) := by
  simp only [decode_eq_ok_iff]
  refine ⟨exists_spelled_iff, fun s h => ⟨?_, fun default => ?_⟩⟩
  · rw [options_eq_detail, h.options_eq]
  · have hoff : s.severity default = none ↔ SwitchesOff v := by
      rw [severity_eq_none_iff, switchesOff_iff, h.on_iff, h.level_eq]
    refine ⟨hoff, fun hon => ?_⟩
    rw [severity_eq_some (hoff.not.2 hon), h.level_eq, named?_eq]

/-- Null is an option in an array and nothing in an object, and an object that switches a
rule on can still name a level that is off. -/
theorem decode_resolves_null :
    let items : Json := .arr [.str "warning", .null]
    let object : Json :=
      .obj [("enabled", .bool true), ("options", .null), ("severity", .str "disable")]
    let s : Setting := .detailed true (some .warn) (some .null)
    let s' : Setting := .detailed true (some .off) none
    (decode items = .ok s ∧ ¬ SwitchesOff items ∧ s.severity .error = some .warning ∧
        s.options = some .null) ∧
      decode object = .ok s' ∧ SwitchesOff object ∧ s'.severity .error = none ∧
        s'.options = none := by
  intro items object s s'
  have hs : decode items = .ok s := rfl
  have hs' : decode object = .ok s' := rfl
  have hon : ¬ SwitchesOff items := by
    rw [switchesOff_iff]
    simp [items, word?, Level.ofName?]
  have hoff : SwitchesOff object := .word rfl (by decide)
  obtain ⟨hoptions, hseverity⟩ := (decode_resolves items).2 s hs
  obtain ⟨hoptions', hseverity'⟩ := (decode_resolves object).2 s' hs'
  exact ⟨⟨hs, hon, (hseverity .error).2 hon, hoptions⟩, hs', hoff, (hseverity' .error).1.2 hoff,
    hoptions'⟩

end Setting
end YamlStyle
