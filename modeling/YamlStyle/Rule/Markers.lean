/-
# Document markers

Two rules on the signs `---` and `...` that open and close a document.  Each
either requires its marker of every document or forbids it.
-/

import YamlStyle.Decode.Schema
import YamlStyle.Diagnostic
import YamlStyle.Document

namespace YamlStyle
namespace Markers

/-- Whether the marker has to be there, or must not be. -/
structure Options where
  present : Bool := true
  deriving DecidableEq, Repr

/-- How the options are written. -/
def schema : Schema Options where
  record := "MarkerOptions"
  fields := [.of "present" .boolean (·.present) ({ · with present := · })]
  default := {}

/-- Whether a document can begin after the token before. -/
def atDocumentStart (w : Window) : Bool :=
  match w.previousKind with
  | some .streamStart | some .documentEnd | some .directive => true
  | _ => false

/-- A document begins at a token that is no marker, no directive and not the
end of the stream. -/
def checkStart (o : Options) (w : Window) : List Finding :=
  if o.present then
    match w.kind with
    | .documentStart | .directive | .streamEnd => []
    | _ =>
      if atDocumentStart w then [⟨w.token.start.line + 1, 1, .missingMarker .start⟩] else []
  else if w.kind = .documentStart then
    [⟨w.token.start.line + 1, w.token.start.column + 1, .forbiddenMarker .start⟩]
  else []

/-- A document ends before the end of the stream and before the start of the
next one.  The end of the stream lies past the last line break, so the line
before it is reported. -/
def checkEnd (o : Options) (w : Window) : List Finding :=
  if o.present then
    match w.kind, w.previousKind with
    | .streamEnd, some .documentEnd | .streamEnd, some .streamStart => []
    | .streamEnd, _ => [⟨max w.token.start.line 1, 1, .missingMarker .stop⟩]
    | .documentStart, some .documentEnd | .documentStart, some .streamStart
    | .documentStart, some .directive => []
    | .documentStart, _ => [⟨w.token.start.line + 1, 1, .missingMarker .stop⟩]
    | _, _ => []
  else if w.kind = .documentEnd then
    [⟨w.token.start.line + 1, w.token.start.column + 1, .forbiddenMarker .stop⟩]
  else []

end Markers
end YamlStyle
