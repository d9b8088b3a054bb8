/-
# The rules

Nine rules look at tokens and five at lines.  Every rule has a name, a type of
options with a schema, a default severity, and a place in the recommended set
or none.  A rule on tokens walks with the open collections; a rule on lines
looks at each line by itself.
-/

import YamlStyle.Rule.BlankLines
import YamlStyle.Rule.Keys
import YamlStyle.Rule.LineContent
import YamlStyle.Rule.Markers
import YamlStyle.Rule.Spacing
import YamlStyle.Rule.Terminators
import YamlStyle.Rule.Values

namespace YamlStyle

/-- The rules on tokens. -/
inductive TokenRule where
  | colons
  | commas
  | documentEnd
  | documentStart
  | emptyValues
  | hyphens
  | keyDuplicates
  | keyOrdering
  | octalValues
  deriving DecidableEq, Repr

/-- The rules on lines. -/
inductive LineRule where
  | emptyLines
  | lineLength
  | newLineAtEndOfFile
  | newLines
  | trailingSpaces
  deriving DecidableEq, Repr

/-- A rule. -/
inductive Rule where
  | token (r : TokenRule)
  | line (r : LineRule)
  deriving DecidableEq, Repr

namespace TokenRule

/-- The options of a rule on tokens. -/
@[reducible] def Options : TokenRule → Type
  | colons => Colons.Options
  | commas => Commas.Options
  | documentEnd => Markers.Options
  | documentStart => Markers.Options
  | emptyValues => EmptyValues.Options
  | hyphens => Hyphens.Options
  | keyDuplicates => NoOptions
  | keyOrdering => KeyOrdering.Options
  | octalValues => OctalValues.Options

/-- How the options of a rule on tokens are written. -/
def schema [Pattern.Engine] : (r : TokenRule) → Schema r.Options
  | colons => Colons.schema
  | commas => Commas.schema
  | documentEnd => Markers.schema
  | documentStart => Markers.schema
  | emptyValues => EmptyValues.schema
  | hyphens => Hyphens.schema
  | keyDuplicates => NoOptions.schema
  | keyOrdering => KeyOrdering.schema
  | octalValues => OctalValues.schema

/-- One token of a rule's walk. -/
def check : (r : TokenRule) → r.Options → Nesting → Window → StepResult
  | colons, o, n, w => .ok (n, Colons.check o w)
  | commas, o, n, w => .ok (n, Commas.check o w)
  | documentEnd, o, n, w => .ok (n, Markers.checkEnd o w)
  | documentStart, o, n, w => .ok (n, Markers.checkStart o w)
  | emptyValues, o, n, w => .ok (n, EmptyValues.check o w)
  | hyphens, o, n, w => .ok (n, Hyphens.check o w)
  | keyDuplicates, _, n, w => KeyDuplicates.check n w
  | keyOrdering, o, n, w => KeyOrdering.check o n w
  | octalValues, o, n, w => .ok (n, OctalValues.check o w)

/-- The name of a rule on tokens. -/
def name : TokenRule → String
  | colons => "colons"
  | commas => "commas"
  | documentEnd => "document-end"
  | documentStart => "document-start"
  | emptyValues => "empty-values"
  | hyphens => "hyphens"
  | keyDuplicates => "key-duplicates"
  | keyOrdering => "key-ordering"
  | octalValues => "octal-values"

/-- What a rule on tokens does. -/
def description : TokenRule → String
  | colons => "Limits the number of spaces before and after colons"
  | commas => "Limits the number of spaces before and after commas"
  | documentEnd => "Requires or forbids the document end marker"
  | documentStart => "Requires or forbids the document start marker"
  | emptyValues => "Forbids empty values in mappings and sequences"
  | hyphens => "Limits the number of spaces after hyphens"
  | keyDuplicates => "Detects duplicate keys in mappings"
  | keyOrdering => "Requires mapping keys to be sorted"
  | octalValues => "Forbids implicit and explicit octal values"

/-- The severity of a rule on tokens that is switched on without a level. -/
def defaultSeverity : TokenRule → Severity
  | documentStart => .warning
  | _ => .error

/-- Whether a rule on tokens belongs to the recommended set. -/
def recommended : TokenRule → Bool
  | documentEnd | emptyValues | keyOrdering | octalValues => false
  | _ => true

/-- Walks over windows from the given open collections, one result per window.
After an error the walk goes on with the open collections it had. -/
def walk (r : TokenRule) (o : r.Options) : Nesting → List Window →
    List (Except StreamError (List Finding))
  | _, [] => []
  | n, w :: ws =>
    match r.check o n w with
    | .ok (next, found) => .ok found :: walk r o next ws
    | .error e => .error e :: walk r o n ws

end TokenRule

namespace LineRule

/-- The options of a rule on lines. -/
@[reducible] def Options : LineRule → Type
  | emptyLines => EmptyLines.Options
  | lineLength => LineLength.Options
  | newLineAtEndOfFile => NoOptions
  | newLines => NewLines.Options
  | trailingSpaces => NoOptions

/-- How the options of a rule on lines are written. -/
def schema : (r : LineRule) → Schema r.Options
  | emptyLines => EmptyLines.schema
  | lineLength => LineLength.schema
  | newLineAtEndOfFile => NoOptions.schema
  | newLines => NewLines.schema
  | trailingSpaces => NoOptions.schema

/-- What a rule finds in a line. -/
def check : (r : LineRule) → r.Options → Line → List Finding
  | emptyLines, o => EmptyLines.check o
  | lineLength, o => LineLength.check o
  | newLineAtEndOfFile, _ => FinalNewLine.check
  | newLines, o => NewLines.check o
  | trailingSpaces, _ => TrailingSpaces.check

/-- The name of a rule on lines. -/
def name : LineRule → String
  | emptyLines => "empty-lines"
  | lineLength => "line-length"
  | newLineAtEndOfFile => "new-line-at-end-of-file"
  | newLines => "new-lines"
  | trailingSpaces => "trailing-spaces"

/-- What a rule on lines does. -/
def description : LineRule → String
  | emptyLines => "Limits the number of consecutive blank lines"
  | lineLength => "Limits the length of lines"
  | newLineAtEndOfFile => "Requires a new line character at the end of the file"
  | newLines => "Requires a consistent line terminator"
  | trailingSpaces => "Forbids trailing spaces at the end of lines"

end LineRule

/-- What a rule looks at. -/
inductive RuleKind where
  | token
  | line
  deriving DecidableEq, Repr

namespace Rule

/-- Every rule, in the order in which they are registered together. -/
def all : List Rule :=
  [token .colons, token .commas, token .documentEnd, token .documentStart, line .emptyLines,
    token .emptyValues, token .hyphens, token .keyDuplicates, token .keyOrdering,
    line .lineLength, line .newLineAtEndOfFile, line .newLines, token .octalValues,
    line .trailingSpaces]

/-- The options of a rule. -/
@[reducible] def Options : Rule → Type
  | token r => r.Options
  | line r => r.Options

/-- How the options of a rule are written. -/
def schema [Pattern.Engine] : (r : Rule) → Schema r.Options
  | token r => r.schema
  | line r => r.schema

/-- The name of a rule. -/
def name : Rule → String
  | token r => r.name
  | line r => r.name

/-- What a rule does. -/
def description : Rule → String
  | token r => r.description
  | line r => r.description

/-- What a rule looks at. -/
def kind : Rule → RuleKind
  | token _ => .token
  | line _ => .line

/-- The severity of a rule that is switched on without a level. -/
def defaultSeverity : Rule → Severity
  | token r => r.defaultSeverity
  | line _ => .error

/-- Whether a rule belongs to the recommended set. -/
def recommended : Rule → Bool
  | token r => r.recommended
  | line _ => true

/-- The rule with a name. -/
def ofName? (name : String) : Option Rule := all.find? (·.name == name)

/-- The default options of a rule, written out. -/
def defaultOptions [Pattern.Engine] (r : Rule) : Json := r.schema.encode r.schema.default

/-- A rule in one line. -/
def render (r : Rule) : String :=
  let kind := match r.kind with
    | .token => "Token"
    | .line => "Line"
  s!"RegisteredRule \x7b name: {Text.quoted r.name}, kind: {kind} \x7d"

end Rule
end YamlStyle
