/-
# Lines

A line of a text is a cut of the text into three: what is behind the line, the
line's own content, and what is ahead of it, beginning with the line's
terminator.  A terminator is a line feed, alone or with one carriage return
right before it; a carriage return anywhere else belongs to the content.  The
text after the last terminator is a line too, possibly an empty one, and the
only one with nothing ahead.
-/

import YamlStyle.Text.Basic

namespace YamlStyle

/-- One line, as a cut of the text it belongs to. -/
structure Line where
  /-- Lines are numbered from one. -/
  number : Nat
  /-- The text behind the line, nearest character first. -/
  behind : List Char
  /-- The line without its terminator. -/
  content : List Char
  /-- The text from the line's terminator on. -/
  ahead : List Char
  deriving DecidableEq, Repr

namespace Line

/-- The offset of the line's first byte. -/
def start (l : Line) : Nat := Text.byteLength l.behind

/-- The offset right after the line's content. -/
def stop (l : Line) : Nat := l.start + Text.byteLength l.content

/-- The number of characters of the content. -/
def charLength (l : Line) : Nat := l.content.length

/-- Whether the line has no content. -/
def isEmpty (l : Line) : Bool := l.content.isEmpty

/-- Whether no terminator follows: the line is the last of its text. -/
def isLast (l : Line) : Bool := l.ahead.isEmpty

/-- Whether the line is empty and terminated. -/
def isBlank (l : Line) : Bool := l.isEmpty && !l.isLast

/-- Cuts the rest of a text into lines, given the number of the current line,
the text behind it and the content read so far, both nearest character first. -/
def cut (number : Nat) (behind read : List Char) : List Char → List Line
  | [] => [⟨number, behind, read.reverse, []⟩]
  | '\n' :: s =>
    ⟨number, behind, read.reverse, '\n' :: s⟩ ::
      cut (number + 1) ('\n' :: (read ++ behind)) [] s
  | '\r' :: '\n' :: s =>
    ⟨number, behind, read.reverse, '\r' :: '\n' :: s⟩ ::
      cut (number + 1) ('\n' :: '\r' :: (read ++ behind)) [] s
  | c :: s => cut number behind (c :: read) s

/-- The lines of a text, in order. -/
def ofText (s : List Char) : List Line := cut 1 [] [] s

end Line
end YamlStyle
