/-
# How configurations are written

The grammar of configurations, apart from the way they are read.  The same array
can be tried as names of presets or as presets and settings in their order; the
grammar has no value that is both, since the second form asks for an item that is
no text.  Settings are compared by what they say about each name
(`Config.Content`), not by the tree they are kept in.

Reading tries one form after the other, and inside an object or an array it stops
at the first thing that is wrong, however deep.  It accepts exactly the values of
the grammar, and gives what they spell (`Config.decode_exact`).
-/

import Mathlib.Data.Set.List
import YamlStyle.Proofs.SettingGrammar

namespace YamlStyle

/-! ### The grammar -/

/-- How presets are written. -/
inductive Presets.Spelled : Json → Presets → Prop
  | single (name : String) : Spelled (.str name) (.single name)
  | multiple (names : List String) : Spelled (.arr (names.map .str)) (.multiple names)

namespace Config

/-- What a configuration says: the presets alone, or the presets it builds on and
the setting of each rule that has one. -/
inductive Content where
  | presets (p : Presets)
  | full (base : Option Presets) (rules : String → Option Setting)

/-- What a configuration says. -/
def content : Config → Content
  | presets p => .presets p
  | full base rules => .full base fun name => rules[name]?

/-- How the presets of a full configuration are written. -/
inductive BaseSpelled : Json → Option Presets → Prop
  | null : BaseSpelled .null none
  | presets {v : Json} {p : Presets} (h : Presets.Spelled v p) : BaseSpelled v (some p)

/-- How the setting under a name is written. -/
def SettingSpelled (v : Json) (setting? : Option Setting) : Prop :=
  ∃ setting, Setting.Spelled v setting ∧ some setting = setting?

/-- How the settings of a full configuration are written. -/
inductive SettingsSpelled : Json → (String → Option Setting) → Prop
  | object {members : List (String × Json)} {rules : String → Option Setting}
      (h : ∀ name, Json.Under name SettingSpelled none members (rules name)) :
      SettingsSpelled (.obj members) rules

/-- The keys of a full configuration's object, in the order of the array that stands
for it. -/
def keys : List String := ["extends", "rules"]

/-- How a configuration is written. -/
inductive Spelled : Json → Content → Prop
  | presets {v : Json} {p : Presets} (h : Presets.Spelled v p) : Spelled v (.presets p)
  | object {members : List (String × Json)} {base : Option Presets}
      {rules : String → Option Setting}
      (known : Json.Known keys members)
      (hbase : Json.Under "extends" BaseSpelled none members base)
      (hrules : Json.Under "rules" SettingsSpelled (fun _ => none) members rules) :
      Spelled (.obj members) (.full base rules)
  | positional {items : List Json} {content : Content}
      (length : items.length = 1 ∨ items.length = 2)
      (mixed : ∃ v ∈ items, ∀ text, v ≠ .str text)
      (h : Spelled (.obj (keys.zip items)) content) : Spelled (.arr items) content

end Config

/-! ### Presets -/

/-- A list of texts is read if all items are texts. -/
theorem Codec.mapM_readText_eq_ok_iff {items : List Json} {names : List String} :
    items.mapM readText = .ok names ↔ items = names.map .str := by
  refine mapM_eq_ok_iff fun v name => ?_
  cases v with
  | str text => exact ⟨fun h => congrArg _ (Except.ok.inj h), fun h => congrArg _ (Json.str.inj h)⟩
  | null | bool | int | float | arr | obj => exact ⟨fun h => (nomatch h), fun h => (nomatch h)⟩

/-- Presets are read as they are spelled. -/
theorem Presets.ofJson?_eq_some_iff {v : Json} {p : Presets} :
    ofJson? v = some p ↔ Presets.Spelled v p := by
  cases v with
  | str name =>
    constructor
    · intro h
      obtain rfl := Option.some.inj h
      exact .single name
    · intro h
      cases h
      rfl
  | arr items =>
    have hitems : ofJson? (.arr items) = (items.mapM Codec.readText).toOption.map .multiple := rfl
    rw [hitems]
    constructor
    · intro h
      obtain ⟨names, hnames, rfl⟩ := Option.map_eq_some_iff.1 h
      cases hread : items.mapM Codec.readText with
      | error cause => simp [hread, Except.toOption] at hnames
      | ok names' =>
        rw [hread] at hnames
        obtain rfl := Option.some.inj hnames
        rw [Codec.mapM_readText_eq_ok_iff.1 hread]
        exact .multiple _
    · intro h
      cases h with
      | multiple names => rw [Codec.mapM_readText_eq_ok_iff.2 rfl]; rfl
  | null | bool | int | float | obj => exact ⟨fun h => (nomatch h), fun h => (nomatch h)⟩

/-- An array is no list of names if and only if an item is no text. -/
theorem Presets.ofJson?_arr_eq_none_iff {items : List Json} :
    ofJson? (.arr items) = none ↔ ∃ v ∈ items, ∀ text, v ≠ .str text := by
  have hnames : (∃ names : List String, names.map .str = items) ↔
      ∀ v ∈ items, ∃ text, Json.str text = v :=
    Set.ext_iff.1 (Set.range_list_map Json.str) items
  have hspelled : (∃ p, ofJson? (.arr items) = some p) ↔
      ∃ names : List String, names.map .str = items := by
    simp only [ofJson?_eq_some_iff]
    constructor
    · rintro ⟨_, h⟩
      cases h with
      | multiple names => exact ⟨names, rfl⟩
    · rintro ⟨names, rfl⟩
      exact ⟨_, .multiple names⟩
  rw [Option.eq_none_iff_forall_ne_some, ← not_exists, hspelled, hnames]
  simp only [not_forall, not_exists, exists_prop, ne_eq, eq_comm]

namespace Config

/-- The base of a configuration is read as it is spelled. -/
theorem base?_eq_some_iff {v : Json} {base : Option Presets} :
    base? v = some base ↔ BaseSpelled v base := by
  have hsome : ∀ w, (Presets.ofJson? w).map some = some base ↔
      ∃ p, Presets.Spelled w p ∧ some p = base := by
    intro w
    simp only [Option.map_eq_some_iff, Presets.ofJson?_eq_some_iff]
  have hcases : (∃ p, Presets.Spelled v p ∧ some p = base) → BaseSpelled v base := by
    rintro ⟨p, hp, rfl⟩
    exact .presets hp
  cases v with
  | null =>
    constructor
    · intro h
      obtain rfl := Option.some.inj h
      exact .null
    · intro h
      cases h with
      | null => rfl
      | presets h => cases h
  | bool | int | float | str | arr | obj =>
    refine (hsome _).trans ⟨hcases, fun h => ?_⟩
    cases h with
    | presets h => exact ⟨_, h, rfl⟩

/-! ### Settings -/

/-- A setting is read as it is spelled. -/
theorem toOption_decode_eq_some_iff {v : Json} {setting : Setting} :
    (Setting.decode v).toOption = some setting ↔ Setting.Spelled v setting := by
  rw [← Setting.decode_eq_ok_iff]
  cases Setting.decode v with
  | error cause => exact ⟨fun h => (nomatch h), fun h => (nomatch h)⟩
  | ok found =>
    exact ⟨fun h => congrArg Except.ok (Option.some.inj h),
      fun h => congrArg some (Except.ok.inj h)⟩

/-- One more member gives one more name a setting, if it spells one. -/
theorem settings?_concat_eq_some_iff {members : List (String × Json)} {name : String} {v : Json}
    {rules : Settings} :
    settings? (.obj (members ++ [(name, v)])) = some rules ↔
      ∃ before setting, settings? (.obj members) = some before ∧ Setting.Spelled v setting ∧
        before.insert name setting = rules := by
  have hconcat : settings? (.obj (members ++ [(name, v)])) =
      (settings? (.obj members)).bind fun before =>
        (Setting.decode v).toOption.bind fun setting => some (before.insert name setting) := by
    simp only [settings?, List.foldlM_append, List.foldlM_cons, List.foldlM_nil, bind_pure]
    rfl
  rw [hconcat]
  simp only [Option.bind_eq_some_iff, toOption_decode_eq_some_iff, Option.some.injEq]
  constructor
  · rintro ⟨before, hbefore, setting, hsetting, hrules⟩
    exact ⟨before, setting, hbefore, hsetting, hrules⟩
  · rintro ⟨before, setting, hbefore, hsetting, hrules⟩
    exact ⟨before, hbefore, setting, hsetting, hrules⟩

/-- Each name has the setting that is written under it. -/
theorem under_of_settings? {members : List (String × Json)} {rules : Settings}
    (h : settings? (.obj members) = some rules) (name : String) :
    Json.Under name SettingSpelled none members rules[name]? := by
  induction members using List.reverseRecOn generalizing rules with
  | nil =>
    obtain rfl := Option.some.inj h
    exact Json.under_nil.2 Std.TreeMap.getElem?_emptyc
  | append_singleton members member ih =>
    obtain ⟨k, v⟩ := member
    obtain ⟨before, setting, hbefore, hsetting, rfl⟩ := settings?_concat_eq_some_iff.1 h
    rw [Std.TreeMap.getElem?_insert]
    by_cases hkey : k = name
    · subst hkey
      rw [if_pos (Text.compareTexts_self k)]
      exact Json.under_concat_self.2 ⟨⟨_, ih hbefore⟩, setting, hsetting, rfl⟩
    · rw [if_neg (fun heq => hkey (Text.eq_of_compareTexts heq)), Json.under_concat_of_ne hkey]
      exact ih hbefore

/-- Settings can be read if all of them are valid. -/
theorem exists_settings? {members : List (String × Json)}
    (h : ∀ m ∈ members, ∃ setting, Setting.Spelled m.2 setting) :
    ∃ rules, settings? (.obj members) = some rules := by
  induction members using List.reverseRecOn with
  | nil => exact ⟨∅, rfl⟩
  | append_singleton members member ih =>
    obtain ⟨name, v⟩ := member
    obtain ⟨before, hbefore⟩ := ih fun m hm => h m (List.mem_append_left _ hm)
    obtain ⟨setting, hsetting⟩ := h (name, v) (by simp)
    exact ⟨_, settings?_concat_eq_some_iff.2 ⟨before, setting, hbefore, hsetting, rfl⟩⟩

/-- A value spells at most one setting. -/
theorem SettingSpelled.unique {v : Json} {a b : Option Setting} (ha : SettingSpelled v a)
    (hb : SettingSpelled v b) : a = b := by
  obtain ⟨setting, ha, rfl⟩ := ha
  obtain ⟨setting', hb, rfl⟩ := hb
  rw [← Setting.decode_eq_ok_iff] at ha hb
  rw [ha] at hb
  exact congrArg some (Except.ok.inj hb)

/-- Settings are read as they are spelled, name by name. -/
theorem settingsSpelled_iff {v : Json} {rules : String → Option Setting} :
    SettingsSpelled v rules ↔
      ∃ read, settings? v = some read ∧ (fun name => read[name]?) = rules := by
  cases v with
  | obj members =>
    constructor
    · intro h
      cases h with
      | object h =>
        have hvalid : ∀ m ∈ members, ∃ setting, Setting.Spelled m.2 setting := by
          rintro ⟨name, v⟩ hm
          obtain ⟨_, setting, hsetting, -⟩ := (h name).valid v hm
          exact ⟨setting, hsetting⟩
        obtain ⟨read, hread⟩ := exists_settings? hvalid
        refine ⟨read, hread, funext fun name => ?_⟩
        exact (under_of_settings? hread name).unique (fun _ _ _ ha hb => ha.unique hb) (h name)
    · rintro ⟨read, hread, rfl⟩
      exact .object (under_of_settings? hread)
  | null | bool | int | float | str | arr =>
    exact ⟨fun h => (nomatch h), fun ⟨_, h, _⟩ => (nomatch h)⟩

/-! ### Objects -/

/-- What is read from the members of an object. -/
structure Read (members : List (String × Json)) (c : Option Presets × Settings) : Prop where
  known : Json.Known keys members
  base : Json.Under "extends" BaseSpelled none members c.1
  rules : Json.Under "rules" (fun v rules => settings? v = some rules) ∅ members c.2

/-- The key of the presets gives the base. -/
theorem putMember_extends_iff {c c' : Option Presets × Settings} {v : Json} :
    putMember c ("extends", v) = some c' ↔ ∃ base, BaseSpelled v base ∧ (base, c.2) = c' := by
  have hput : putMember c ("extends", v) = (base? v).map fun base => (base, c.2) := rfl
  simp only [hput, Option.map_eq_some_iff, base?_eq_some_iff]

/-- The key of the settings gives the settings. -/
theorem putMember_rules_iff {c c' : Option Presets × Settings} {v : Json} :
    putMember c ("rules", v) = some c' ↔ ∃ rules, settings? v = some rules ∧ (c.1, rules) = c' := by
  have hput : putMember c ("rules", v) = (settings? v).map fun rules => (c.1, rules) := rfl
  simp only [hput, Option.map_eq_some_iff]

/-- No other key is accepted. -/
theorem putMember_of_unknown {c : Option Presets × Settings} {k : String} (h : k ∉ keys)
    (v : Json) : putMember c (k, v) = none := by
  unfold putMember
  split <;> simp_all [keys]

/-- An empty object leaves everything out. -/
theorem read_nil {c : Option Presets × Settings} : Read [] c ↔ c = (none, ∅) := by
  constructor
  · intro h
    exact Prod.ext (Json.under_nil.1 h.base) (Json.under_nil.1 h.rules)
  · rintro rfl
    exact ⟨Json.known_nil keys, Json.under_nil.2 rfl, Json.under_nil.2 rfl⟩

/-- One more member is put over what the members before it give. -/
theorem read_concat {members : List (String × Json)} {member : String × Json}
    {c : Option Presets × Settings} :
    Read (members ++ [member]) c ↔ ∃ c₀, Read members c₀ ∧ putMember c₀ member = some c := by
  obtain ⟨k, v⟩ := member
  by_cases hk : k ∈ keys
  · have hk' : k = "extends" ∨ k = "rules" := by simpa [keys] using hk
    rcases hk' with rfl | rfl
    · simp only [putMember_extends_iff]
      constructor
      · intro h
        obtain ⟨⟨base, hbase⟩, hv⟩ := Json.under_concat_self.1 h.base
        exact ⟨(base, c.2), ⟨(Json.known_concat.1 h.known).1, hbase,
          (Json.under_concat_of_ne (by decide)).1 h.rules⟩, c.1, hv, rfl⟩
      · rintro ⟨c₀, h, base, hv, rfl⟩
        exact ⟨Json.known_concat.2 ⟨h.known, hk⟩, Json.under_concat_self.2 ⟨⟨_, h.base⟩, hv⟩,
          (Json.under_concat_of_ne (by decide)).2 h.rules⟩
    · simp only [putMember_rules_iff]
      constructor
      · intro h
        obtain ⟨⟨rules, hrules⟩, hv⟩ := Json.under_concat_self.1 h.rules
        exact ⟨(c.1, rules), ⟨(Json.known_concat.1 h.known).1,
          (Json.under_concat_of_ne (by decide)).1 h.base, hrules⟩, c.2, hv, rfl⟩
      · rintro ⟨c₀, h, rules, hv, rfl⟩
        exact ⟨Json.known_concat.2 ⟨h.known, hk⟩, (Json.under_concat_of_ne (by decide)).2 h.base,
          Json.under_concat_self.2 ⟨⟨_, h.rules⟩, hv⟩⟩
  · constructor
    · intro h
      exact absurd (Json.known_concat.1 h.known).2 hk
    · rintro ⟨c₀, -, h⟩
      rw [putMember_of_unknown hk] at h
      cases h

/-- Members are read one after the other. -/
theorem foldlM_putMember_iff {members : List (String × Json)} {c : Option Presets × Settings} :
    members.foldlM putMember (none, ∅) = some c ↔ Read members c :=
  Json.foldlM_eq_some_iff Read (fun _ => read_nil) (fun _ _ _ => read_concat) members c

/-- Through what it says, the part under `rules` follows the grammar. -/
theorem under_rules_iff {members : List (String × Json)} {rules : String → Option Setting} :
    Json.Under "rules" SettingsSpelled (fun _ => none) members rules ↔
      ∃ read : Settings,
        Json.Under "rules" (fun v rules => settings? v = some rules) ∅ members read ∧
          (fun name => read[name]?) = rules := by
  have hempty : (fun _ : String => (none : Option Setting)) = fun name => (∅ : Settings)[name]? :=
    funext fun _ => Std.TreeMap.getElem?_emptyc.symm
  have hspelled : ∀ v (rules : String → Option Setting), SettingsSpelled v rules ↔
      ∃ read : Settings, settings? v = some read ∧ (fun name => read[name]?) = rules :=
    fun _ _ => settingsSpelled_iff
  rw [hempty]
  exact Json.under_map_iff hspelled

/-- An object is read as it is spelled. -/
theorem spelled_obj_iff {members : List (String × Json)} {content : Content} :
    Spelled (.obj members) content ↔
      ∃ c, full? (.obj members) = some c ∧ c.content = content := by
  have hfull : full? (.obj members) =
      (members.foldlM putMember (none, ∅)).bind fun c => some (.full c.1 c.2) := rfl
  simp only [hfull, Option.bind_eq_some_iff, foldlM_putMember_iff, Option.some.injEq]
  constructor
  · intro h
    cases h with
    | presets h => cases h
    | object known hbase hrules =>
      obtain ⟨read, hread, rfl⟩ := under_rules_iff.1 hrules
      exact ⟨_, ⟨(_, read), ⟨known, hbase, hread⟩, rfl⟩, rfl⟩
  · rintro ⟨_, ⟨c, hc, rfl⟩, rfl⟩
    exact .object hc.known hc.base (under_rules_iff.2 ⟨_, hc.rules, rfl⟩)

/-! ### All values -/

/-- An array of one or two items is read as the object it stands for. -/
theorem full?_arr {items : List Json} (h : items.length = 1 ∨ items.length = 2) :
    full? (.arr items) = full? (.obj (keys.zip items)) := by
  match items with
  | [base] =>
    cases hbase : base? base <;> simp [full?, keys, putMember, hbase]
  | [base, rules] =>
    cases hbase : base? base <;> cases hrules : settings? rules <;>
      simp [full?, keys, putMember, hbase, hrules]
  | [] | _ :: _ :: _ :: _ => simp at h

/-- An array that is empty or has more than two items is no full configuration. -/
theorem full?_arr_eq_none {items : List Json} (h : ¬ (items.length = 1 ∨ items.length = 2)) :
    full? (.arr items) = none := by
  match items with
  | [] | _ :: _ :: _ :: _ => rfl
  | [_] | [_, _] => simp at h

/-- A configuration is read as it is spelled. -/
theorem spelled_iff {v : Json} {content : Content} :
    Spelled v content ↔ ∃ c, ofJson? v = some c ∧ c.content = content := by
  unfold ofJson?
  cases hpresets : Presets.ofJson? v with
  | some p =>
    have hp := Presets.ofJson?_eq_some_iff.1 hpresets
    constructor
    · intro h
      cases h with
      | presets h =>
        rw [Presets.ofJson?_eq_some_iff.2 h] at hpresets
        exact ⟨_, rfl, congrArg Content.presets (Option.some.inj hpresets).symm⟩
      | object => cases hp
      | positional _ mixed _ =>
        rw [Presets.ofJson?_arr_eq_none_iff.2 mixed] at hpresets
        cases hpresets
    · rintro ⟨_, h, rfl⟩
      obtain rfl := Option.some.inj h
      exact .presets hp
  | none =>
    have hnone : ∀ p, ¬ Presets.Spelled v p := by
      intro p hp
      rw [Presets.ofJson?_eq_some_iff.2 hp] at hpresets
      cases hpresets
    cases v with
    | str name => exact absurd (.single name) (hnone _)
    | obj members => exact spelled_obj_iff
    | arr items =>
      by_cases hlength : items.length = 1 ∨ items.length = 2
      · simp only [full?_arr hlength, ← spelled_obj_iff]
        constructor
        · intro h
          cases h with
          | presets h => exact absurd h (hnone _)
          | positional _ _ h => exact h
        · exact .positional hlength (Presets.ofJson?_arr_eq_none_iff.1 hpresets)
      · simp only [full?_arr_eq_none hlength]
        constructor
        · intro h
          cases h with
          | presets h => exact absurd h (hnone _)
          | positional length _ _ => exact absurd length hlength
        · rintro ⟨_, h, _⟩
          cases h
    | null | bool | int | float =>
      constructor
      · intro h
        cases h with
        | presets h => exact absurd h (hnone _)
      · rintro ⟨_, h, _⟩
        cases h

/-- **The language of configurations is exact and unambiguous.**  A value spells at
most one content.  It is accepted if and only if it spells one, and what is read
says what the value spells; every other value is refused as none of the forms of a
configuration. -/
theorem decode_exact (v : Json) :
    (∀ content, Spelled v content ↔ ∃ c, decode v = .ok c ∧ c.content = content) ∧
      (∀ a b, Spelled v a → Spelled v b → a = b) ∧
      ((¬ ∃ content, Spelled v content) ↔ decode v = .error (.noAlternative .configuration)) := by
  simp only [spelled_iff]
  unfold decode
  cases ofJson? v with
  | none => simp
  | some c =>
    refine ⟨fun content => ?_, ?_, ?_⟩
    · simp
    · rintro a b ⟨_, ha, rfl⟩ ⟨_, hb, rfl⟩
      rw [Option.some.inj ha] at hb
      rw [Option.some.inj hb]
    · simp

end Config
end YamlStyle
