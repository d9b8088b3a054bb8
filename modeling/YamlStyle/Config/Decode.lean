/-
# Reading configurations

How settings, presets and whole configurations are written in JSON.  A setting
is a level, a truth value, an array of a level and options, or an object.  A
configuration is the names of presets, or an object of presets and settings,
which can also be written as an array of the two.  A configuration that is none
of these, or has a setting that is none, is refused as a whole.
-/

import YamlStyle.Config.Basic
import YamlStyle.Decode.Codec

namespace YamlStyle

/-- The level a text spells. -/
def Level.read (text : String) : Except DecodeError Level :=
  match ofName? text with
  | some l => .ok l
  | none => .error (.unknownLevel text)

namespace Setting

/-- The parts of a setting that is written as an object. -/
structure Detail where
  on : Bool := true
  level : Option Level := none
  options : Option Json := none

/-- Reads a member of a setting's object. -/
def Detail.putMember (d : Detail) : String × Json → Except DecodeError Detail
  | ("enabled", v) => do return { d with on := ← Codec.boolean.decode v }
  | ("severity", .null) => .ok { d with level := none }
  | ("severity", v) => do return { d with level := some (← Level.read (← Codec.readText v)) }
  | ("options", .null) => .ok { d with options := none }
  | ("options", v) => .ok { d with options := some v }
  | (name, _) => .error (.unknownField name ["enabled", "severity", "options"])

/-- The setting of an array: a level, and options if there is a second item. -/
def ofItems : List Json → Except DecodeError Setting
  | [] => .error (.wrongLength 0 .withLevel)
  | first :: rest => do
    let level ← Level.read (← Codec.readText first)
    match rest with
    | [] => return .detailed true (some level) none
    | [options] => return .detailed true (some level) (some options)
    | _ => .error (.wrongLength (first :: rest).length .fewer)

/-- Reads a setting. -/
def decode : Json → Except DecodeError Setting
  | .bool on => .ok (.enabled on)
  | .str "enable" => .ok (.enabled true)
  | .str text => do return .level (← Level.read text)
  | .arr items => ofItems items
  | .obj members => do
    let d ← members.foldlM Detail.putMember {}
    return .detailed d.on d.level d.options
  | v => .error (.wrongType v .ruleSetting)

end Setting

/-- The names of presets, if the value is a text or an array of texts. -/
def Presets.ofJson? : Json → Option Presets
  | .str name => some (.single name)
  | .arr items => (Codec.readTexts (.arr items)).toOption.map .multiple
  | _ => none

/-- Reads the names of presets. -/
def Presets.decode (v : Json) : Except DecodeError Presets :=
  match ofJson? v with
  | some p => .ok p
  | none => .error (.noAlternative .presets)

namespace Config

/-- The presets a full configuration builds on, where null means none. -/
def base? : Json → Option (Option Presets)
  | .null => some none
  | v => (Presets.ofJson? v).map some

/-- The settings of a full configuration. -/
def settings? : Json → Option Settings
  | .obj members =>
    members.foldlM (fun rules (name, v) => do
      return rules.insert name (← (Setting.decode v).toOption)) ∅
  | _ => none

/-- Reads a member of a full configuration's object. -/
def putMember (c : Option Presets × Settings) :
    String × Json → Option (Option Presets × Settings)
  | ("extends", v) => (base? v).map fun base => (base, c.2)
  | ("rules", v) => (settings? v).map fun rules => (c.1, rules)
  | _ => none

/-- A configuration with settings. -/
def full? : Json → Option Config
  | .obj members => do
    let (base, rules) ← members.foldlM putMember (none, ∅)
    return .full base rules
  | .arr [base] => do return .full (← base? base) ∅
  | .arr [base, rules] => do return .full (← base? base) (← settings? rules)
  | _ => none

/-- The configuration a value spells.  What can be read as names of presets is
read so. -/
def ofJson? (v : Json) : Option Config :=
  match Presets.ofJson? v with
  | some p => some (.presets p)
  | none => full? v

/-- Reads a configuration. -/
def decode (v : Json) : Except DecodeError Config :=
  match ofJson? v with
  | some c => .ok c
  | none => .error (.noAlternative .configuration)

end Config
end YamlStyle
