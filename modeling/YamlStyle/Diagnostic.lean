/-
# Findings and diagnostics

A rule finds problems.  A finding says where the problem is and what it is; a
diagnostic is a finding as it is reported, under the name of its rule and with
a severity.  The wording of each problem stands in one place, `Problem.message`.
-/

import YamlStyle.Severity

namespace YamlStyle

/-- The side of a delimiter on which spaces are counted. -/
inductive Side where
  | before
  | after
  deriving DecidableEq, Repr

/-- The signs around which spaces are counted. -/
inductive Delimiter where
  | colon
  | questionMark
  | comma
  | hyphen
  deriving DecidableEq, Repr

/-- Whether a count is above its upper bound or below its lower one. -/
inductive Excess where
  | tooMany
  | tooFew
  deriving DecidableEq, Repr

/-- The signs that open and close a document. -/
inductive DocumentMarker where
  | start
  | stop
  deriving DecidableEq, Repr

/-- Where a value can be left out. -/
inductive ValuePlace where
  | blockMapping
  | flowMapping
  | blockSequence
  deriving DecidableEq, Repr

/-- The two ways of writing an octal number: `010` and `0o10`. -/
inductive OctalForm where
  | implicit
  | explicit
  deriving DecidableEq, Repr

/-- How lines end. -/
inductive Terminator where
  | lineFeed
  | carriageReturnLineFeed
  deriving DecidableEq, Repr

/-- The characters of a terminator. -/
def Terminator.chars : Terminator → List Char
  | .lineFeed => ['\n']
  | .carriageReturnLineFeed => ['\r', '\n']

/-- A terminator spelled with visible characters. -/
def Terminator.spelled : Terminator → String
  | .lineFeed => "\\n"
  | .carriageReturnLineFeed => "\\r\\n"

/-- What a rule can complain about. -/
inductive Problem where
  | spacing (excess : Excess) (side : Side) (delimiter : Delimiter)
  | missingMarker (marker : DocumentMarker)
  | forbiddenMarker (marker : DocumentMarker)
  | emptyValue (place : ValuePlace)
  | octalValue (form : OctalForm) (text : String)
  | duplicateKey (key : String)
  | misorderedKey (key : String)
  | tooManyBlankLines (count limit : Nat)
  | lineTooLong (length limit : Nat)
  | wrongTerminator (expected : Terminator)
  | noFinalTerminator
  | trailingSpaces
  deriving DecidableEq, Repr

def Excess.words : Excess → String
  | .tooMany => "too many"
  | .tooFew => "too few"

def Side.words : Side → String
  | .before => "before"
  | .after => "after"

def Delimiter.words : Delimiter → String
  | .colon => "colon"
  | .questionMark => "question mark"
  | .comma => "comma"
  | .hyphen => "hyphen"

def DocumentMarker.words : DocumentMarker → String
  | .start => "document start \"---\""
  | .stop => "document end \"...\""

def ValuePlace.words : ValuePlace → String
  | .blockMapping => "block mapping"
  | .flowMapping => "flow mapping"
  | .blockSequence => "block sequence"

def OctalForm.words : OctalForm → String
  | .implicit => "implicit"
  | .explicit => "explicit"

/-- The wording of a problem. -/
def Problem.message : Problem → String
  | .spacing excess side delimiter =>
    s!"{excess.words} spaces {side.words} {delimiter.words}"
  | .missingMarker marker => s!"missing {marker.words}"
  | .forbiddenMarker marker => s!"found forbidden {marker.words}"
  | .emptyValue place => s!"empty value in {place.words}"
  | .octalValue form text => s!"forbidden {form.words} octal value \"{text}\""
  | .duplicateKey key => s!"duplication of key \"{key}\" in mapping"
  | .misorderedKey key => s!"wrong ordering of key \"{key}\" in mapping"
  | .tooManyBlankLines count limit => s!"too many blank lines ({count} > {limit})"
  | .lineTooLong length limit => s!"line too long ({length} > {limit} characters)"
  | .wrongTerminator expected => s!"wrong new line character: expected {expected.spelled}"
  | .noFinalTerminator => "no new line character at the end of file"
  | .trailingSpaces => "trailing spaces"

/-- A problem and where it is, counted from one. -/
structure Finding where
  line : Nat
  column : Nat
  problem : Problem
  deriving DecidableEq, Repr

/-- What is reported about a place, counted from one. -/
structure Diagnostic where
  line : Nat
  column : Nat
  severity : Severity
  rule : String
  message : String
  deriving DecidableEq, Repr

/-- A finding as its rule reports it. -/
def Finding.report (f : Finding) (rule : String) (severity : Severity) : Diagnostic :=
  ⟨f.line, f.column, severity, rule, f.problem.message⟩

namespace Diagnostic

/-- One line of a report. -/
def render (d : Diagnostic) : String :=
  s!"{d.line}:{d.column}  {d.severity.name}  {d.message}  ({d.rule})"

/-- Numbered entries, one per line, or a note that there are none. -/
def numbered (entries : List String) : String :=
  if entries.isEmpty then "(no diagnostics)"
  else "\n".intercalate (entries.zipIdx.map fun (entry, i) => s!"[{i + 1}] {entry}")

/-- A report with places, severities and rules. -/
def report (ds : List Diagnostic) : String := numbered (ds.map render)

/-- A report with the messages alone. -/
def messages (ds : List Diagnostic) : String := numbered (ds.map (·.message))

end Diagnostic
end YamlStyle
