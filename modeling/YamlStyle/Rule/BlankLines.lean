/-
# Blank lines

One rule limits how many blank lines may follow each other, with limits of
their own at the beginning and at the end of a text.  A run of blank lines is
looked at from its last line: the line breaks behind that line are counted, and
one more where they reach back to the beginning of the text, since the first
line has no break behind it.
-/

import YamlStyle.Decode.Schema
import YamlStyle.Diagnostic
import YamlStyle.Line

namespace YamlStyle
namespace EmptyLines

/-- How many blank lines may follow each other. -/
structure Options where
  max : UInt64 := 2
  maxStart : UInt64 := 0
  maxEnd : UInt64 := 0
  deriving DecidableEq, Repr

/-- How the options are written. -/
def schema : Schema Options where
  record := "EmptyLinesOptions"
  fields :=
    [.of "max" .uint64 (·.max) ({ · with max := · }),
      .of "max-start" .uint64 (·.maxStart) ({ · with maxStart := · }),
      .of "max-end" .uint64 (·.maxEnd) ({ · with maxEnd := · })]
  default := {}

/-- Counts line feeds, nearest first, and returns what is behind them. -/
def countFeeds (count : Nat) : List Char → Nat × List Char
  | '\n' :: behind => countFeeds (count + 1) behind
  | behind => (count, behind)

/-- Counts line breaks with carriage returns, nearest first, then line feeds
alone, and returns what is behind them. -/
def countBreaks (count : Nat) : List Char → Nat × List Char
  | '\n' :: '\r' :: behind => countBreaks (count + 1) behind
  | behind => countFeeds count behind

/-- Whether the line is followed by another blank line with the same line
break. -/
def continues (l : Line) : Bool :=
  Text.startsWith l.ahead ['\n', '\n'] || Text.startsWith l.ahead ['\r', '\n', '\r', '\n']

/-- Whether the line's own break ends the text. -/
def endsText (l : Line) : Bool := l.ahead = ['\n'] || l.ahead = ['\r', '\n']

/-- The number of blank lines up to a line, and the limit that holds for them
if they are not at the end of the text. -/
def countUpTo (o : Options) (l : Line) : Nat × UInt64 :=
  match countBreaks 0 l.behind with
  | (count, []) => (count + 1, o.maxStart)
  | (count, _) => (count, o.max)

/-- Looks at the run of blank lines that ends with a line.  A text that is one
line break and no more has no blank line. -/
def check (o : Options) (l : Line) : List Finding :=
  if !l.isBlank || continues l then []
  else
    let (count, inner) := countUpTo o l
    if endsText l && l.behind.isEmpty then []
    else
      let limit := if endsText l then o.maxEnd else inner
      if limit.toNat < count then [⟨l.number, 1, .tooManyBlankLines count limit.toNat⟩] else []

end EmptyLines
end YamlStyle
