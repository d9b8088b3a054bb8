/-
# Flags of patterns

What the letters in `(?ims)` switch on and off, and what follows from them for
the meaning of a character, a dot and an anchor.  A flag holds from where it is
set to the end of the group it is set in, alternatives after it included.
-/

import YamlStyle.Pattern.Regex

namespace YamlStyle
namespace Pattern

/-- The flags in force at a place of a pattern. -/
structure Flags where
  ignoreCase : Bool := false
  multiLine : Bool := false
  dotAll : Bool := false
  /-- Many or few rounds first; the places reached do not depend on it. -/
  swapGreed : Bool := false
  unicode : Bool := true
  /-- A carriage return ends a line too. -/
  returns : Bool := false
  /-- Blanks and comments of the pattern mean nothing. -/
  verbose : Bool := false
  deriving DecidableEq, Repr

namespace Flags

/-- Sets the flag a letter names. -/
def set? (f : Flags) (letter : Char) (on : Bool) : Option Flags :=
  match letter with
  | 'i' => some { f with ignoreCase := on }
  | 'm' => some { f with multiLine := on }
  | 's' => some { f with dotAll := on }
  | 'U' => some { f with swapGreed := on }
  | 'u' => some { f with unicode := on }
  | 'R' => some { f with returns := on }
  | 'x' => some { f with verbose := on }
  | _ => none

/-- Skips blanks and comments, given whether a comment is being skipped. -/
def skipComments : Bool → List Char → List Char
  | _, [] => []
  | true, c :: s => skipComments (c != '\n') s
  | false, c :: s =>
    if Unicode.isWhiteSpace c then skipComments false s
    else if c = '#' then skipComments true s
    else c :: s

/-- Skips what means nothing before the next part of the pattern. -/
def skip (f : Flags) (s : List Char) : List Char :=
  if f.verbose then skipComments false s else s

/-- Closes a set under case, if case is ignored. -/
def fold (f : Flags) (s : CharSet) : CharSet :=
  if f.ignoreCase then if f.unicode then .folded s else .asciiFolded s else s

/-- The expression for one character. -/
def literal (f : Flags) (c : Char) : Regex := .set (f.fold (.single c))

/-- The expression for a dot. -/
def dot (f : Flags) : Option Regex :=
  if !f.unicode then none
  else if f.dotAll then some (.set (.compl .empty))
  else if f.returns then some (.set (.compl (.union (.single '\n') (.single '\r'))))
  else some (.set (.compl (.single '\n')))

/-- The expression for `^`. -/
def caret (f : Flags) : Regex :=
  .look (if f.multiLine then if f.returns then .lineStartReturn else .lineStart else .textStart)

/-- The expression for `$`. -/
def dollar (f : Flags) : Regex :=
  .look (if f.multiLine then if f.returns then .lineEndReturn else .lineEnd else .textEnd)

/-- The characters of words. -/
def wordSet (f : Flags) : CharSet := if f.unicode then .named .word else .asciiWord

/-- The set a letter names after a backslash; a capital names what is left.
Without Unicode a set must not reach beyond code point 127. -/
def classLetter? (f : Flags) (letter : Char) : Option CharSet :=
  let digit := if f.unicode then CharSet.named .digit else .asciiDigit
  let space := if f.unicode then CharSet.named .space else .asciiSpace
  let rest (s : CharSet) : Option CharSet := if f.unicode then some (.compl s) else none
  match letter with
  | 'd' => some digit
  | 's' => some space
  | 'w' => some f.wordSet
  | 'D' => rest digit
  | 'S' => rest space
  | 'W' => rest f.wordSet
  | _ => none

end Flags
end Pattern
end YamlStyle
