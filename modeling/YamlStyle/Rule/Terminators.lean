/-
# How lines end

One rule asks every line break to be of one kind, another asks the last line to
end with a line break.
-/

import YamlStyle.Decode.Schema
import YamlStyle.Diagnostic
import YamlStyle.Line

namespace YamlStyle
namespace NewLines

/-- The kinds of line breaks that can be asked for. -/
inductive Convention where
  | unix
  | dos
  | platform
  deriving DecidableEq, Repr

namespace Convention

/-- Every convention. -/
def all : List Convention := [unix, dos, platform]

/-- The name of a convention. -/
def name : Convention → String
  | unix => "unix"
  | dos => "dos"
  | platform => "platform"

/-- The terminator of a convention. -/
def terminator : Convention → Terminator
  | unix | platform => .lineFeed
  | dos => .carriageReturnLineFeed

/-- How a convention is written. -/
def codec : Codec Convention := .choice all name

end Convention

/-- The convention that is asked for. -/
structure Options where
  convention : Convention := .unix
  deriving DecidableEq, Repr

/-- How the options are written. -/
def schema : Schema Options where
  record := "NewLinesOptions"
  fields := [.of "type" Convention.codec (·.convention) ({ · with convention := · })]
  default := {}

/-- A wrong line break is reported right after the content of its line. -/
def check (o : Options) (l : Line) : List Finding :=
  let expected := o.convention.terminator
  if l.isLast || Text.startsWith l.ahead expected.chars then []
  else [⟨l.number, l.charLength + 1, .wrongTerminator expected⟩]

end NewLines

namespace FinalNewLine

/-- A last line with content lacks a line break. -/
def check (l : Line) : List Finding :=
  if l.isLast && !l.isEmpty then [⟨l.number, l.charLength + 1, .noFinalTerminator⟩] else []

end FinalNewLine
end YamlStyle
