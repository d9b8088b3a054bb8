/-
# The content of lines

One rule limits the length of lines, another forbids spaces and tabs at their
end.
-/

import YamlStyle.Decode.Schema
import YamlStyle.Diagnostic
import YamlStyle.Line

namespace YamlStyle
namespace LineLength

/-- How long a line may be, and whether a single long word is excused. -/
structure Options where
  max : UInt64 := 80
  allowLongWords : Bool := true
  deriving DecidableEq, Repr

/-- How the options are written. -/
def schema : Schema Options where
  record := "LineLengthOptions"
  fields :=
    [.of "max" .uint64 (·.max) ({ · with max := · }),
      .of "allow-non-breakable-words" .boolean (·.allowLongWords) ({ · with allowLongWords := · })]
  default := {}

/-- The text after the sign of a comment or of an entry and the character that
follows it. -/
def afterSign : List Char → List Char
  | '#' :: s => (s.dropWhile (· = '#')).drop 1
  | '-' :: s => s.drop 1
  | s => s

/-- Whether the text after the indentation is a single word, behind an optional
sign. -/
def isSingleWord (content : List Char) : Bool :=
  let text := content.dropWhile (· = ' ')
  !text.isEmpty && !(afterSign text).contains ' '

/-- A line that is too long is reported where the limit is passed. -/
def check (o : Options) (l : Line) : List Finding :=
  if l.charLength ≤ o.max.toNat || (o.allowLongWords && isSingleWord l.content) then []
  else [⟨l.number, o.max.toNat + 1, .lineTooLong l.charLength o.max.toNat⟩]

end LineLength

namespace TrailingSpaces

/-- The characters that can stand in the white space at the end of a line. -/
def isBlank (c : Char) : Bool :=
  c = ' ' || c = '\t' || c = '\n' || c = '\r' || c = '\x0b' || c = '\x0c'

/-- The white space at the end of a content. -/
def trailing (content : List Char) : List Char :=
  (content.reverse.takeWhile isBlank).reverse

/-- White space at the end of a line is reported where it begins, if it begins
with a space or a tab. -/
def check (l : Line) : List Finding :=
  let run := trailing l.content
  match run with
  | ' ' :: _ | '\t' :: _ =>
    [⟨l.number, l.content.length - run.length + 1, .trailingSpaces⟩]
  | _ => []

end TrailingSpaces
end YamlStyle
