/-
# Severities and levels

A diagnostic has a severity; a configuration gives a rule a level, which is a
severity or "off".  Each level other than "error" can be written in two ways,
and no other text names a level.
-/

namespace YamlStyle

/-- How grave a diagnostic is. -/
inductive Severity where
  | warning
  | error
  deriving DecidableEq, Repr

namespace Severity

/-- The name of a severity. -/
def name : Severity → String
  | warning => "warning"
  | error => "error"

/-- The severity with a name. -/
def ofName? (name : String) : Option Severity := [warning, error].find? (·.name == name)

/-- A warning ranks below an error. -/
def rank : Severity → Nat
  | warning => 0
  | error => 1

/-- The order of two severities. -/
def order (a b : Severity) : Ordering := compareOfLessAndEq a.rank b.rank

/-- Whether the severity is the gravest. -/
def isError (s : Severity) : Bool := s = error

end Severity

/-- What a configuration asks of a rule. -/
inductive Level where
  | off
  | warn
  | error
  deriving DecidableEq, Repr

namespace Level

/-- The level of a rule that is switched on without a level. -/
def standard : Level := warn

/-- The name of a level. -/
def name : Level → String
  | off => "off"
  | warn => "warn"
  | error => "error"

/-- The level a text spells. -/
def ofName? : String → Option Level
  | "off" | "disable" => some off
  | "warn" | "warning" => some warn
  | "error" => some error
  | _ => none

/-- The complaint about a text that spells no level. -/
def unknownMessage (text : String) : String := s!"unknown severity: {text}"

/-- The severity of diagnostics at a level, none if the rule is off. -/
def severity : Level → Option Severity
  | off => none
  | warn => some .warning
  | error => some .error

/-- Whether a rule at the level runs. -/
def isEnabled (l : Level) : Bool := l.severity.isSome

end Level
end YamlStyle
