/-
# What can be wrong with a configuration value

A value of the wrong kind, a number out of range, a name that is not known, an
array of the wrong length.  Each cause carries what its wording needs, and the
wording stands in `DecodeError.message`.
-/

import YamlStyle.Json.Number
import YamlStyle.Severity
import YamlStyle.Text.Quoted

namespace YamlStyle

/-- What a value should have been. -/
inductive Expected where
  | boolean
  | signedInteger
  | unsignedInteger
  | text
  | sequence
  /-- The options of a rule, under the name of their record. -/
  | options (record : String)
  | choice
  | nothing
  | singleKey
  | ruleSetting
  deriving DecidableEq, Repr

/-- The wording of an expectation. -/
def Expected.words : Expected → String
  | boolean => "a boolean"
  | signedInteger => "i64"
  | unsignedInteger => "usize"
  | text => "a string"
  | sequence => "a sequence"
  | options record => s!"struct {record}"
  | choice => "string or map"
  | nothing => "unit"
  | singleKey => "map with a single key"
  | ruleSetting =>
    "a severity string ('off', 'warn', 'error'), a boolean, an array [severity, options], " ++
      "or an object \x7b enabled, severity, options \x7d"

/-- What was found in place of the expected. -/
def Json.words : Json → String
  | null => "null"
  | bool true => "boolean `true`"
  | bool false => "boolean `false`"
  | int n => s!"integer `{n}`"
  | float x => s!"floating point `{floatText x}`"
  | str s => s!"string {Text.quoted s}"
  | arr _ => "sequence"
  | obj _ => "map"

/-- The lengths an array can be required to have. -/
inductive LengthRule where
  /-- The array has more elements than there are places for. -/
  | fewer
  /-- The array lacks the level it has to begin with. -/
  | withLevel
  deriving DecidableEq, Repr

/-- The wording of a length rule. -/
def LengthRule.words : LengthRule → String
  | fewer => "fewer elements in array"
  | withLevel => "array with severity"

/-- The values that can be written in several ways. -/
inductive Alternatives where
  | presets
  | configuration
  deriving DecidableEq, Repr

/-- The name of such a value. -/
def Alternatives.name : Alternatives → String
  | presets => "ExtendsConfig"
  | configuration => "LintConfig"

/-- Why a value can not be read. -/
inductive DecodeError where
  | wrongType (found : Json) (expected : Expected)
  | wrongValue (found : Json) (expected : Expected)
  | unknownField (name : String) (known : List String)
  | unknownChoice (name : String) (known : List String)
  | wrongLength (length : Nat) (rule : LengthRule)
  | unknownLevel (text : String)
  /-- A pattern that the engine refuses, with what the engine says about it. -/
  | malformedPattern (cause : String)
  | noAlternative (of : Alternatives)

namespace DecodeError

/-- The names that would have been known. -/
def knownNames : List String → String
  | [] => "there are no fields"
  | [a] => s!"expected `{a}`"
  | [a, b] => s!"expected `{a}` or `{b}`"
  | names => "expected one of " ++ ", ".intercalate (names.map fun name => s!"`{name}`")

/-- The wording of a cause. -/
def message : DecodeError → String
  | wrongType found expected => s!"invalid type: {found.words}, expected {expected.words}"
  | wrongValue found expected => s!"invalid value: {found.words}, expected {expected.words}"
  | unknownField name known => s!"unknown field `{name}`, {knownNames known}"
  | unknownChoice name known => s!"unknown variant `{name}`, {knownNames known}"
  | wrongLength length rule => s!"invalid length {length}, expected {rule.words}"
  | unknownLevel text => Level.unknownMessage text
  | malformedPattern cause => cause
  | noAlternative of => s!"data did not match any variant of untagged enum {of.name}"

end DecodeError
end YamlStyle
