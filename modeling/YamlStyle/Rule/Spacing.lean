/-
# Spaces around delimiters

Three rules limit the spaces before and after colons, commas and hyphens.  What
they measure is the gap between two neighbouring tokens on one line, in bytes;
tokens that overlap have no gap.  A gap is measured before a delimiter only if
the token before it does not end with a line break, since then nothing of that
token is on the delimiter's line.
-/

import YamlStyle.Decode.Schema
import YamlStyle.Diagnostic
import YamlStyle.Document

namespace YamlStyle

/-- How many spaces a gap may have.  A negative limit is no limit. -/
structure SpaceLimits where
  least : Int
  most : Int
  deriving DecidableEq, Repr

namespace SpaceLimits

/-- An upper limit alone. -/
def atMost (most : Int64) : SpaceLimits := ⟨-1, most.toInt⟩

/-- A number of spaces as limits see it: what is greater than any signed integer of
64 bits counts as the greatest of these. -/
def counted (spaces : Nat) : Nat := min spaces 0x7FFFFFFFFFFFFFFF

/-- What is wrong with a number of spaces.  The upper limit is asked first. -/
def excess? (l : SpaceLimits) (spaces : Nat) : Option Excess :=
  if 0 ≤ l.most ∧ l.most < counted spaces then some .tooMany
  else if 0 ≤ l.least ∧ counted spaces < l.least then some .tooFew
  else none

end SpaceLimits

namespace Window

/-- The gap after the token, at the place of the token. -/
def spacesAfter (w : Window) (limits : SpaceLimits) (delimiter : Delimiter) : Option Finding := do
  let next ← w.next
  if w.token.stop.line = next.start.line then
    let excess ← limits.excess? (next.start.pointer - w.token.stop.pointer)
    return ⟨w.token.start.line + 1, w.token.start.column + 1, .spacing excess .after delimiter⟩
  else none

/-- Whether the last byte of a token is a line feed. -/
def endsWithLineFeed (w : Window) (t : Token) : Bool :=
  0 < t.stop.pointer && w.byteAt? (t.stop.pointer - 1) == some 0x0A

/-- The gap before the token, at the place where the gap begins. -/
def spacesBefore (w : Window) (limits : SpaceLimits) (delimiter : Delimiter) : Option Finding := do
  let previous ← w.previous
  if previous.stop.line = w.token.start.line ∧ !w.endsWithLineFeed previous then
    let excess ← limits.excess? (w.token.start.pointer - previous.stop.pointer)
    return ⟨w.token.start.line + 1, previous.stop.column + 1, .spacing excess .before delimiter⟩
  else none

/-- Whether the token is the sign of a key that is written out, and not the
empty token before a key that is not. -/
def isWrittenKey (w : Window) : Bool :=
  w.token.start.pointer < w.token.stop.pointer && w.byteAt? w.token.start.pointer == some 0x3F

/-- Whether the token stands one byte after an alias.  A colon right after an
alias would belong to its name. -/
def followsAlias (w : Window) : Bool :=
  match w.previous with
  | some previous =>
    previous.kind = .aliasNode && w.token.start.pointer - previous.stop.pointer = 1
  | none => false

/-- Whether the token stands on a later line than the end of the one before. -/
def startsLine (w : Window) : Bool :=
  match w.previous with
  | some previous => previous.stop.line < w.token.start.line
  | none => false

end Window

namespace Colons

/-- Limits around colons; the second holds after question marks too. -/
structure Options where
  maxBefore : Int64 := 0
  maxAfter : Int64 := 1
  deriving DecidableEq, Repr

/-- How the options are written. -/
def schema : Schema Options where
  record := "ColonsOptions"
  fields :=
    [.of "max-spaces-before" .int64 (·.maxBefore) ({ · with maxBefore := · }),
      .of "max-spaces-after" .int64 (·.maxAfter) ({ · with maxAfter := · })]
  default := {}

/-- Measures around a colon, unless it follows an alias, and after the question
mark of a written key. -/
def check (o : Options) (w : Window) : List Finding :=
  match w.kind with
  | .value =>
    if w.followsAlias then []
    else
      (w.spacesBefore (.atMost o.maxBefore) .colon).toList ++
        (w.spacesAfter (.atMost o.maxAfter) .colon).toList
  | .key =>
    if w.isWrittenKey then (w.spacesAfter (.atMost o.maxAfter) .questionMark).toList else []
  | _ => []

end Colons

namespace Commas

/-- Limits around commas. -/
structure Options where
  maxBefore : Int64 := 0
  minAfter : Int64 := 1
  maxAfter : Int64 := 1
  deriving DecidableEq, Repr

/-- How the options are written. -/
def schema : Schema Options where
  record := "CommasOptions"
  fields :=
    [.of "max-spaces-before" .int64 (·.maxBefore) ({ · with maxBefore := · }),
      .of "min-spaces-after" .int64 (·.minAfter) ({ · with minAfter := · }),
      .of "max-spaces-after" .int64 (·.maxAfter) ({ · with maxAfter := · })]
  default := {}

/-- The gap before a comma.  A comma that begins a line always has too much
before it, if there is a limit at all. -/
def checkBefore (o : Options) (w : Window) : Option Finding :=
  if w.startsLine then
    if 0 ≤ o.maxBefore.toInt then
      some ⟨w.token.start.line + 1, max w.token.start.column 1, .spacing .tooMany .before .comma⟩
    else none
  else w.spacesBefore (.atMost o.maxBefore) .comma

/-- Measures around a comma. -/
def check (o : Options) (w : Window) : List Finding :=
  if w.kind = .flowEntry then
    (checkBefore o w).toList ++
      (w.spacesAfter ⟨o.minAfter.toInt, o.maxAfter.toInt⟩ .comma).toList
  else []

end Commas

namespace Hyphens

/-- The limit after hyphens. -/
structure Options where
  maxAfter : Int64 := 1
  deriving DecidableEq, Repr

/-- How the options are written. -/
def schema : Schema Options where
  record := "HyphensOptions"
  fields := [.of "max-spaces-after" .int64 (·.maxAfter) ({ · with maxAfter := · })]
  default := {}

/-- Measures after the hyphen of an entry. -/
def check (o : Options) (w : Window) : List Finding :=
  if w.kind = .blockEntry then (w.spacesAfter (.atMost o.maxAfter) .hyphen).toList else []

end Hyphens
end YamlStyle
