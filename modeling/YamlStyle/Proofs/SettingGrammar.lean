/-
# How settings are written

The grammar of settings, apart from the way they are read: a truth value, the word
`enable`, the name of a level, an array that begins with the name of a level and
may end with options, or an object.  In an object null stands for nothing, in an
array it is an option like any other.  Reading a setting accepts exactly what the
grammar allows, and gives what it says (`Setting.decode_eq_ok_iff`).
-/

import YamlStyle.Config.Decode
import YamlStyle.Proofs.Members

namespace YamlStyle
namespace Setting

/-! ### The grammar -/

/-- How a level is written in an object. -/
inductive LevelSpelled : Json → Option Level → Prop
  | null : LevelSpelled .null none
  | named {text : String} {l : Level} (h : Level.ofName? text = some l) :
      LevelSpelled (.str text) (some l)

/-- How options are written in an object. -/
inductive OptionsSpelled : Json → Option Json → Prop
  | null : OptionsSpelled .null none
  | given {v : Json} (h : v ≠ .null) : OptionsSpelled v (some v)

/-- The keys of a setting's object. -/
def keys : List String := ["enabled", "severity", "options"]

/-- How the parts of a setting are written as members of an object. -/
structure Detail.Spelled (d : Detail) (members : List (String × Json)) : Prop where
  known : Json.Known keys members
  on : Json.Under "enabled" (fun v on => v = .bool on) true members d.on
  level : Json.Under "severity" LevelSpelled none members d.level
  options : Json.Under "options" OptionsSpelled none members d.options

/-- How a setting is written. -/
inductive Spelled : Json → Setting → Prop
  | truth (on : Bool) : Spelled (.bool on) (.enabled on)
  | enable : Spelled (.str "enable") (.enabled true)
  | level {text : String} {l : Level} (h : Level.ofName? text = some l) :
      Spelled (.str text) (.level l)
  | item {text : String} {l : Level} (h : Level.ofName? text = some l) :
      Spelled (.arr [.str text]) (.detailed true (some l) none)
  | items {text : String} {l : Level} (h : Level.ofName? text = some l) (options : Json) :
      Spelled (.arr [.str text, options]) (.detailed true (some l) (some options))
  | object {members : List (String × Json)} {d : Detail} (h : d.Spelled members) :
      Spelled (.obj members) (.detailed d.on d.level d.options)

/-! ### Members of an object -/

/-- A level is read from its name. -/
theorem level_read_eq_ok_iff {text : String} {l : Level} :
    Level.read text = .ok l ↔ Level.ofName? text = some l := by
  unfold Level.read
  cases Level.ofName? text with
  | none => exact ⟨fun h => (nomatch h), fun h => (nomatch h)⟩
  | some found =>
    exact ⟨fun h => congrArg some (Except.ok.inj h),
      fun h => congrArg Except.ok (Option.some.inj h)⟩

namespace Detail

/-- The key that switches a rule on or off takes a truth value. -/
theorem putMember_enabled_iff {d d' : Detail} {v : Json} :
    d.putMember ("enabled", v) = .ok d' ↔ ∃ on, v = .bool on ∧ d' = { d with on := on } := by
  cases v with
  | bool on =>
    constructor
    · intro h
      exact ⟨on, rfl, (Except.ok.inj h).symm⟩
    · rintro ⟨_, h, rfl⟩
      cases h
      rfl
  | null | int | float | str | arr | obj =>
    exact ⟨fun h => (nomatch h), fun ⟨_, h, _⟩ => (nomatch h)⟩

/-- The key of the severity takes a level, or null. -/
theorem putMember_severity_iff {d d' : Detail} {v : Json} :
    d.putMember ("severity", v) = .ok d' ↔ ∃ l, LevelSpelled v l ∧ d' = { d with level := l } := by
  cases v with
  | null =>
    constructor
    · intro h
      exact ⟨none, .null, (Except.ok.inj h).symm⟩
    · rintro ⟨_, h, rfl⟩
      cases h
      rfl
  | str text =>
    have hput : d.putMember ("severity", .str text) =
        Level.read text >>= fun l => .ok { d with level := some l } := rfl
    rw [hput, bind_eq_ok_iff]
    constructor
    · rintro ⟨l, hread, h⟩
      exact ⟨some l, .named (level_read_eq_ok_iff.1 hread), (Except.ok.inj h).symm⟩
    · rintro ⟨_, h, rfl⟩
      cases h with
      | named h => exact ⟨_, level_read_eq_ok_iff.2 h, rfl⟩
  | bool | int | float | arr | obj =>
    exact ⟨fun h => (nomatch h), fun ⟨_, h, _⟩ => (nomatch h)⟩

/-- The key of the options takes any value. -/
theorem putMember_options_iff {d d' : Detail} {v : Json} :
    d.putMember ("options", v) = .ok d' ↔
      ∃ o, OptionsSpelled v o ∧ d' = { d with options := o } := by
  cases v with
  | null =>
    constructor
    · intro h
      exact ⟨none, .null, (Except.ok.inj h).symm⟩
    · rintro ⟨_, h, rfl⟩
      cases h with
      | null => rfl
      | given h => exact absurd rfl h
  | bool | int | float | str | arr | obj =>
    constructor
    · intro h
      exact ⟨_, .given (fun h => (nomatch h)), (Except.ok.inj h).symm⟩
    · rintro ⟨_, h, rfl⟩
      cases h
      rfl

/-- No other key is accepted. -/
theorem putMember_of_unknown {d : Detail} {k : String} (h : k ∉ keys) (v : Json) :
    d.putMember (k, v) = .error (.unknownField k keys) := by
  unfold putMember
  split <;> simp_all [keys]

/-- Without members nothing is set. -/
theorem spelled_nil {d : Detail} : d.Spelled [] ↔ d = {} := by
  constructor
  · intro h
    obtain ⟨on, level, options⟩ := d
    obtain rfl : on = true := Json.under_nil.1 h.on
    obtain rfl : level = none := Json.under_nil.1 h.level
    obtain rfl : options = none := Json.under_nil.1 h.options
    rfl
  · rintro rfl
    exact ⟨Json.known_nil keys, Json.under_nil.2 rfl, Json.under_nil.2 rfl, Json.under_nil.2 rfl⟩

/-- One more member spells its own part, and leaves the others alone. -/
theorem spelled_concat {members : List (String × Json)} {member : String × Json} {d : Detail} :
    d.Spelled (members ++ [member]) ↔
      ∃ d₀ : Detail, d₀.Spelled members ∧ d₀.putMember member = .ok d := by
  obtain ⟨k, v⟩ := member
  by_cases hk : k ∈ keys
  · have hk' : k = "enabled" ∨ k = "severity" ∨ k = "options" := by simpa [keys] using hk
    rcases hk' with rfl | rfl | rfl
    · simp only [putMember_enabled_iff]
      constructor
      · intro h
        obtain ⟨⟨on, hon⟩, hv⟩ := Json.under_concat_self.1 h.on
        exact ⟨{ d with on := on }, ⟨(Json.known_concat.1 h.known).1, hon,
          (Json.under_concat_of_ne (by decide)).1 h.level,
          (Json.under_concat_of_ne (by decide)).1 h.options⟩, d.on, hv, rfl⟩
      · rintro ⟨d₀, h, on, hv, rfl⟩
        exact ⟨Json.known_concat.2 ⟨h.known, hk⟩, Json.under_concat_self.2 ⟨⟨_, h.on⟩, hv⟩,
          (Json.under_concat_of_ne (by decide)).2 h.level,
          (Json.under_concat_of_ne (by decide)).2 h.options⟩
    · simp only [putMember_severity_iff]
      constructor
      · intro h
        obtain ⟨⟨level, hlevel⟩, hv⟩ := Json.under_concat_self.1 h.level
        exact ⟨{ d with level := level }, ⟨(Json.known_concat.1 h.known).1,
          (Json.under_concat_of_ne (by decide)).1 h.on, hlevel,
          (Json.under_concat_of_ne (by decide)).1 h.options⟩, d.level, hv, rfl⟩
      · rintro ⟨d₀, h, level, hv, rfl⟩
        exact ⟨Json.known_concat.2 ⟨h.known, hk⟩, (Json.under_concat_of_ne (by decide)).2 h.on,
          Json.under_concat_self.2 ⟨⟨_, h.level⟩, hv⟩,
          (Json.under_concat_of_ne (by decide)).2 h.options⟩
    · simp only [putMember_options_iff]
      constructor
      · intro h
        obtain ⟨⟨options, hoptions⟩, hv⟩ := Json.under_concat_self.1 h.options
        exact ⟨{ d with options := options }, ⟨(Json.known_concat.1 h.known).1,
          (Json.under_concat_of_ne (by decide)).1 h.on,
          (Json.under_concat_of_ne (by decide)).1 h.level, hoptions⟩, d.options, hv, rfl⟩
      · rintro ⟨d₀, h, options, hv, rfl⟩
        exact ⟨Json.known_concat.2 ⟨h.known, hk⟩, (Json.under_concat_of_ne (by decide)).2 h.on,
          (Json.under_concat_of_ne (by decide)).2 h.level,
          Json.under_concat_self.2 ⟨⟨_, h.options⟩, hv⟩⟩
  · constructor
    · intro h
      exact absurd (Json.known_concat.1 h.known).2 hk
    · rintro ⟨d₀, -, h⟩
      rw [putMember_of_unknown hk] at h
      cases h

/-- Members are read one after the other. -/
theorem foldlM_putMember_iff {members : List (String × Json)} {d : Detail} :
    members.foldlM putMember {} = .ok d ↔ d.Spelled members :=
  Json.foldlM_eq_ok_iff (fun members d => Spelled d members) (fun _ => spelled_nil)
    (fun _ _ _ => spelled_concat) members d

end Detail

/-! ### Whole settings -/

/-- The word `enable` is not the name of a level. -/
theorem decode_str_eq_ok_iff {text : String} {s : Setting} :
    decode (.str text) = .ok s ↔ Spelled (.str text) s := by
  by_cases henable : text = "enable"
  · subst henable
    constructor
    · intro h
      obtain rfl := Except.ok.inj h
      exact .enable
    · intro h
      cases h with
      | enable => rfl
      | level h => cases h
  · have hdecode : decode (.str text) = Level.read text >>= fun l => .ok (.level l) := by
      unfold decode
      split <;> simp_all [pure, Except.pure]
    rw [hdecode, bind_eq_ok_iff]
    constructor
    · rintro ⟨l, hread, h⟩
      obtain rfl := Except.ok.inj h
      exact .level (level_read_eq_ok_iff.1 hread)
    · intro h
      cases h with
      | enable => exact absurd rfl henable
      | level h => exact ⟨_, level_read_eq_ok_iff.2 h, rfl⟩

/-- An array is read as it is spelled. -/
theorem ofItems_eq_ok_iff {items : List Json} {s : Setting} :
    ofItems items = .ok s ↔ Spelled (.arr items) s := by
  cases items with
  | nil => exact ⟨fun h => (nomatch h), fun h => (nomatch h)⟩
  | cons first rest =>
    cases first with
    | str text =>
      constructor
      · intro h
        obtain ⟨_, htext, h⟩ := bind_eq_ok_iff.1 h
        obtain rfl := Except.ok.inj htext
        obtain ⟨l, hread, h⟩ := bind_eq_ok_iff.1 h
        have hname := level_read_eq_ok_iff.1 hread
        match rest with
        | [] =>
          obtain rfl := Except.ok.inj h
          exact .item hname
        | [options] =>
          obtain rfl := Except.ok.inj h
          exact .items hname options
        | _ :: _ :: _ => cases h
      · intro h
        cases h with
        | item h =>
          exact bind_eq_ok_iff.2 ⟨text, rfl, bind_eq_ok_iff.2 ⟨_, level_read_eq_ok_iff.2 h, rfl⟩⟩
        | items h options =>
          exact bind_eq_ok_iff.2 ⟨text, rfl, bind_eq_ok_iff.2 ⟨_, level_read_eq_ok_iff.2 h, rfl⟩⟩
    | null | bool | int | float | arr | obj =>
      exact ⟨fun h => (nomatch h), fun h => (nomatch h)⟩

/-- **Reading a setting follows the grammar.**  A value is accepted if and only if
it spells a setting, and the setting that is read is the one it spells. -/
theorem decode_eq_ok_iff {v : Json} {s : Setting} : decode v = .ok s ↔ Spelled v s := by
  cases v with
  | null | int | float => exact ⟨fun h => (nomatch h), fun h => (nomatch h)⟩
  | bool on =>
    constructor
    · intro h
      obtain rfl := Except.ok.inj h
      exact .truth on
    · intro h
      cases h
      rfl
  | str text => exact decode_str_eq_ok_iff
  | arr items => exact ofItems_eq_ok_iff
  | obj members =>
    constructor
    · intro h
      obtain ⟨d, hread, h⟩ := bind_eq_ok_iff.1 h
      obtain rfl := Except.ok.inj h
      exact .object (Detail.foldlM_putMember_iff.1 hread)
    · intro h
      cases h with
      | object h => exact bind_eq_ok_iff.2 ⟨_, Detail.foldlM_putMember_iff.2 h, rfl⟩

end Setting
end YamlStyle
