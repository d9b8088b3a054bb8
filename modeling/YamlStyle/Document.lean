/-
# Documents and windows

A document is a text with the tokens of its stream.  A rule on tokens sees one
token at a time, with its neighbours and the whole text: a window.  Past
either end of the stream there is no neighbour.
-/

import YamlStyle.Line
import YamlStyle.Token

namespace YamlStyle

/-- A token with its neighbours, over the text it comes from. -/
structure Window where
  text : List Char
  previous : Option Token
  token : Token
  next : Option Token
  afterNext : Option Token
  deriving DecidableEq, Repr

namespace Window

/-- What the token is. -/
def kind (w : Window) : TokenKind := w.token.kind

/-- What the token before is. -/
def previousKind (w : Window) : Option TokenKind := w.previous.map (·.kind)

/-- The byte of the text at an offset. -/
def byteAt? (w : Window) (offset : Nat) : Option UInt8 := Text.byteAt? w.text offset

/-- The windows over a list of tokens, given the token before them. -/
def ofTokens (text : List Char) (previous : Option Token) : List Token → List Window
  | [] => []
  | token :: rest =>
    ⟨text, previous, token, rest[0]?, rest[1]?⟩ :: ofTokens text (some token) rest

end Window

/-- A text with the tokens of its stream. -/
structure Document where
  text : List Char
  tokens : List Token
  deriving DecidableEq, Repr

namespace Document

/-- A window for every token, in order. -/
def windows (d : Document) : List Window := Window.ofTokens d.text none d.tokens

/-- The lines of the text, in order. -/
def lines (d : Document) : List Line := Line.ofText d.text

end Document
end YamlStyle
