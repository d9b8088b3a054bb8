/-
# What can be wrong with a configuration

Problems that come to light before any rule runs, and the check of names that
finds two of them.
-/

import YamlStyle.Config.Basic
import YamlStyle.Decode.Error

namespace YamlStyle

/-- Why a configuration or a set of rules is refused. -/
inductive ConfigError where
  | unknownRules (unknown known : List String)
  | invalidPreset (name : String)
  | invalidOptions (rule : String) (cause : DecodeError)
  | duplicateRule (rule : String)

/-- The wording of a cause. -/
def ConfigError.message : ConfigError → String
  | unknownRules unknown known =>
    let refused := ", ".intercalate unknown
    let listed := "\n".intercalate (known.map fun name => s!"  - {name}")
    s!"Invalid lint rule name(s): {refused}\n\nValid rule names are:\n{listed}"
  | invalidPreset name =>
    s!"Invalid preset name: '{name}'\n\nValid presets are:\n  - recommended\n  - all"
  | invalidOptions rule cause => s!"Invalid options for rule '{rule}': {cause.message}"
  | duplicateRule rule => s!"Rule '{rule}' is registered more than once"

namespace Config

/-- The presets there are. -/
def validPresets : List String := ["recommended", "all"]

/-- Names in ascending order. -/
def sortNames (names : List String) : List String :=
  names.mergeSort fun a b => !Text.precedes b.toList a.toList

/-- The names of configured rules that are not known, in ascending order. -/
def unknownRules (c : Config) (known : List String) : List String :=
  c.rules.keys.filter fun name => !known.contains name

/-- Checks the names of presets, in order, and then those of rules. -/
def validate (c : Config) (known : List String) : Except ConfigError Unit :=
  match c.presetNames.find? (!validPresets.contains ·) with
  | some name => .error (.invalidPreset name)
  | none =>
    let unknown := c.unknownRules known
    if unknown.isEmpty then .ok () else .error (.unknownRules unknown (sortNames known))

end Config
end YamlStyle
