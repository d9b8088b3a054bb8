/-
# Values

One rule forbids values that are left out, another forbids numbers that are, or
look like, octal ones.
-/

import YamlStyle.Decode.Schema
import YamlStyle.Diagnostic
import YamlStyle.Document

namespace YamlStyle
namespace EmptyValues

/-- Where values must not be left out. -/
structure Options where
  blockMappings : Bool := true
  flowMappings : Bool := true
  blockSequences : Bool := true
  deriving DecidableEq, Repr

/-- How the options are written. -/
def schema : Schema Options where
  record := "EmptyValuesOptions"
  fields :=
    [.of "forbid-in-block-mappings" .boolean (·.blockMappings) ({ · with blockMappings := · }),
      .of "forbid-in-flow-mappings" .boolean (·.flowMappings) ({ · with flowMappings := · }),
      .of "forbid-in-block-sequences" .boolean (·.blockSequences)
        ({ · with blockSequences := · })]
  default := {}

/-- The place of a value that is left out, as the token and the next one show
it. -/
def place? : TokenKind → TokenKind → Option ValuePlace
  | .value, .key | .value, .blockEnd => some .blockMapping
  | .value, .flowEntry | .value, .flowMappingEnd => some .flowMapping
  | .blockEntry, .key | .blockEntry, .blockEnd | .blockEntry, .blockEntry => some .blockSequence
  | _, _ => none

/-- Whether a value must not be left out at a place. -/
def Options.forbids (o : Options) : ValuePlace → Bool
  | .blockMapping => o.blockMappings
  | .flowMapping => o.flowMappings
  | .blockSequence => o.blockSequences

/-- A value left out is reported after the sign that announces it. -/
def check (o : Options) (w : Window) : List Finding :=
  match w.next.bind fun next => place? w.kind next.kind with
  | some place =>
    if o.forbids place then
      [⟨w.token.start.line + 1, w.token.stop.column + 1, .emptyValue place⟩]
    else []
  | none => []

end EmptyValues

namespace OctalValues

/-- Which ways of writing octal numbers are forbidden. -/
structure Options where
  forbidImplicit : Bool := true
  forbidExplicit : Bool := true
  deriving DecidableEq, Repr

/-- How the options are written. -/
def schema : Schema Options where
  record := "OctalValuesOptions"
  fields :=
    [.of "forbid-implicit-octal" .boolean (·.forbidImplicit) ({ · with forbidImplicit := · }),
      .of "forbid-explicit-octal" .boolean (·.forbidExplicit) ({ · with forbidExplicit := · })]
  default := {}

/-- Digits only, after a zero. -/
def isImplicit : List Char → Bool
  | '0' :: c :: s => (c :: s).all Char.isDigit
  | _ => false

/-- Digits only, after `0o`. -/
def isExplicit : List Char → Bool
  | '0' :: 'o' :: c :: s => (c :: s).all Char.isDigit
  | _ => false

/-- The forbidden way in which a text is an octal number. -/
def form? (o : Options) (text : List Char) : Option OctalForm :=
  if o.forbidImplicit && isImplicit text then some .implicit
  else if o.forbidExplicit && isExplicit text then some .explicit
  else none

/-- A plain scalar without a tag is read as a number if it looks like one. -/
def check (o : Options) (w : Window) : List Finding :=
  match w.previousKind, w.kind with
  | some .tag, _ => []
  | _, .scalar text .plain =>
    match form? o text.toList with
    | some form => [⟨w.token.start.line + 1, w.token.stop.column + 1, .octalValue form text⟩]
    | none => []
  | _, _ => []

end OctalValues
end YamlStyle
