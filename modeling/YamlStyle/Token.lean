/-
# Tokens

The tokens of a YAML stream, as a scanner delivers them: what each one is, and
the marks where it starts and stops.  The marks are data and need not agree
with a text, with each other or with their neighbours.
-/

import YamlStyle.Mark
import YamlStyle.Text.Basic

namespace YamlStyle

/-- How a scalar is written. -/
inductive ScalarStyle where
  | plain
  | single
  | double
  | literal
  | folded
  deriving DecidableEq, Repr

namespace ScalarStyle

/-- Every style. -/
def all : List ScalarStyle := [plain, single, double, literal, folded]

/-- The name of a style. -/
def name : ScalarStyle → String
  | plain => "plain"
  | single => "single"
  | double => "double"
  | literal => "literal"
  | folded => "folded"

/-- The style with a name. -/
def ofName? (name : String) : Option ScalarStyle := all.find? (·.name == name)

end ScalarStyle

/-- What a token is. -/
inductive TokenKind where
  | streamStart
  | streamEnd
  | directive
  | documentStart
  | documentEnd
  | blockSequenceStart
  | blockMappingStart
  | blockEnd
  | flowSequenceStart
  | flowSequenceEnd
  | flowMappingStart
  | flowMappingEnd
  | key
  | value
  | blockEntry
  | flowEntry
  | aliasNode
  | anchor
  | tag
  | scalar (text : String) (style : ScalarStyle)
  deriving DecidableEq, Repr

namespace TokenKind

/-- The kinds without a text. -/
def textless : List TokenKind :=
  [streamStart, streamEnd, directive, documentStart, documentEnd, blockSequenceStart,
    blockMappingStart, blockEnd, flowSequenceStart, flowSequenceEnd, flowMappingStart,
    flowMappingEnd, key, value, blockEntry, flowEntry, aliasNode, anchor, tag]

/-- The name of a kind; all scalars share one. -/
def name : TokenKind → String
  | streamStart => "stream-start"
  | streamEnd => "stream-end"
  | directive => "directive"
  | documentStart => "document-start"
  | documentEnd => "document-end"
  | blockSequenceStart => "block-sequence-start"
  | blockMappingStart => "block-mapping-start"
  | blockEnd => "block-end"
  | flowSequenceStart => "flow-sequence-start"
  | flowSequenceEnd => "flow-sequence-end"
  | flowMappingStart => "flow-mapping-start"
  | flowMappingEnd => "flow-mapping-end"
  | key => "key"
  | value => "value"
  | blockEntry => "block-entry"
  | flowEntry => "flow-entry"
  | aliasNode => "alias"
  | anchor => "anchor"
  | tag => "tag"
  | scalar _ _ => "scalar"

/-- The kind without a text that has a name. -/
def ofName? (name : String) : Option TokenKind := textless.find? (·.name == name)

/-- Whether the token closes a collection. -/
def endsCollection : TokenKind → Bool
  | blockEnd | flowMappingEnd | flowSequenceEnd => true
  | _ => false

end TokenKind

/-- A token and where it stands. -/
structure Token where
  kind : TokenKind
  start : Mark
  stop : Mark
  deriving DecidableEq, Repr

namespace Token

/-- A token over a range of byte offsets of a text. -/
def ofRange (s : List Char) (kind : TokenKind) (start stop : Nat) : Token :=
  ⟨kind, Mark.atOffset s start, Mark.atOffset s stop⟩

/-- The token that opens a stream. -/
def streamStart (s : List Char) : Token := ofRange s .streamStart 0 0

/-- The token that closes a stream, at the end of the text. -/
def streamEnd (s : List Char) : Token :=
  ofRange s .streamEnd (Text.byteLength s) (Text.byteLength s)

/-- The plain scalar a range of a text spells, if the range can be cut out. -/
def plain? (s : List Char) (start stop : Nat) : Option Token :=
  (Text.slice? s start stop).map fun spelled =>
    ofRange s (.scalar (String.ofList spelled) .plain) start stop

end Token
end YamlStyle
