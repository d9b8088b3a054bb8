/-
# Configurations

A configuration names presets and settings of single rules.  A rule's own
setting decides whether and how severely it reports; a rule without one is on
if a preset covers it.  Presets are not looked up by name here: "all" covers
every rule and "recommended" the recommended ones, and no other name is valid.
-/

import Std.Data.TreeMap
import YamlStyle.Json.Basic
import YamlStyle.Severity

namespace YamlStyle

/-- What a configuration says about one rule. -/
inductive Setting where
  /-- A level. -/
  | level (l : Level)
  /-- On at the default severity, or off. -/
  | enabled (on : Bool)
  /-- All at once; without a level the default severity holds. -/
  | detailed (on : Bool) (level : Option Level) (options : Option Json)

namespace Setting

/-- The severity of a rule with this setting, none if the rule is off. -/
def severity (default : Severity) : Setting → Option Severity
  | level l => l.severity
  | enabled true => some default
  | enabled false => none
  | detailed false _ _ => none
  | detailed true (some l) _ => l.severity
  | detailed true none _ => some default

/-- The options the setting gives. -/
def options : Setting → Option Json
  | detailed _ _ options => options
  | _ => none

end Setting

/-- The presets a configuration builds on: one name, or a list of names. -/
inductive Presets where
  | single (name : String)
  | multiple (names : List String)
  deriving DecidableEq, Repr

/-- The names of the presets, in order. -/
def Presets.names : Presets → List String
  | single name => [name]
  | multiple names => names

/-- The settings of rules, by name. -/
abbrev Settings := Std.TreeMap String Setting Text.compareTexts

/-- A configuration: presets alone, or settings on top of presets. -/
inductive Config where
  | presets (p : Presets)
  | full (base : Option Presets) (rules : Settings)

namespace Config

/-- No preset and no setting: every rule is off. -/
def empty : Config := full none ∅

/-- A single preset. -/
def preset (name : String) : Config := presets (.single name)

/-- The given rules and no other, each at its default severity. -/
def only (names : List String) : Config :=
  full none (names.foldl (fun rules name => rules.insert name (.enabled true)) ∅)

/-- The presets the configuration builds on. -/
def base : Config → Option Presets
  | presets p => some p
  | full base _ => base

/-- The settings of single rules. -/
def rules : Config → Settings
  | presets _ => ∅
  | full _ rules => rules

/-- The names of the presets. -/
def presetNames (c : Config) : List String :=
  match c.base with
  | some p => p.names
  | none => []

/-- Gives a rule a setting in place of any it had. -/
def withRule (c : Config) (name : String) (setting : Setting) : Config :=
  full c.base (c.rules.insert name setting)

/-- Whether a preset covers a rule. -/
def covers (preset : String) (recommended : Bool) : Bool :=
  preset = "all" || (preset = "recommended" && recommended)

/-- The severity of a rule, none if it is off. -/
def severity (c : Config) (name : String) (default : Severity) (recommended : Bool) :
    Option Severity :=
  match c.rules[name]? with
  | some setting => setting.severity default
  | none => if c.presetNames.any (covers · recommended) then some default else none

/-- The options of a rule. -/
def options (c : Config) (name : String) : Option Json := c.rules[name]?.bind Setting.options

end Config
end YamlStyle
