/-
# Sets of characters in patterns

What a bracket expression, a class escape or a dot stands for: a set of
characters, built from ranges and named classes by the operations on sets.
Membership is decided one character at a time, so no set is ever listed.
-/

import YamlStyle.Unicode.CaseFolding
import YamlStyle.Unicode.DecimalDigit
import YamlStyle.Unicode.WhiteSpace
import YamlStyle.Unicode.Word

namespace YamlStyle
namespace Pattern

/-- The named classes of characters. -/
inductive NamedClass where
  | digit
  | space
  | word
  | alphabetic
  deriving DecidableEq, Repr

/-- Whether a character is in a named class. -/
def NamedClass.mem : NamedClass → Char → Bool
  | digit => Unicode.isDecimalDigit
  | space => Unicode.isWhiteSpace
  | word => Unicode.isWord
  | alphabetic => Unicode.isAlphabetic

/-- A set of characters. -/
inductive CharSet where
  | empty
  | range (first last : Nat)
  | named (c : NamedClass)
  | union (a b : CharSet)
  | inter (a b : CharSet)
  | diff (a b : CharSet)
  | symmDiff (a b : CharSet)
  | compl (a : CharSet)
  /-- The set with every letter that differs from a member only in case. -/
  | folded (a : CharSet)
  /-- The same for the letters from `a` to `z` alone. -/
  | asciiFolded (a : CharSet)
  deriving DecidableEq, Repr

namespace CharSet

/-- The two cases of a letter from `a` to `z`, or the character alone. -/
def asciiVariants (c : Char) : List Char := [c, c.toLower, c.toUpper]

/-- Whether a character is in a set. -/
def mem : CharSet → Char → Bool
  | empty, _ => false
  | range first last, c => first ≤ c.toNat && c.toNat ≤ last
  | named n, c => n.mem c
  | union a b, c => a.mem c || b.mem c
  | inter a b, c => a.mem c && b.mem c
  | diff a b, c => a.mem c && !b.mem c
  | symmDiff a b, c => a.mem c != b.mem c
  | compl a, c => !a.mem c
  | folded a, c => (Unicode.caseVariants c).any a.mem
  | asciiFolded a, c => (asciiVariants c).any a.mem

/-- The set of one character. -/
def single (c : Char) : CharSet := range c.toNat c.toNat

/-- The set of the characters from one to another. -/
def between (first last : Char) : CharSet := range first.toNat last.toNat

/-- The union of several sets. -/
def unions (sets : List CharSet) : CharSet := sets.foldr union empty

/-- The characters from `0` to `9`. -/
def asciiDigit : CharSet := between '0' '9'

/-- The characters from `a` to `z` and from `A` to `Z`. -/
def asciiLetter : CharSet := union (between 'a' 'z') (between 'A' 'Z')

/-- The characters of words up to code point 127. -/
def asciiWord : CharSet := unions [asciiDigit, asciiLetter, single '_']

/-- The white space up to code point 127. -/
def asciiSpace : CharSet := union (range 0x09 0x0D) (single ' ')

/-- The classes that have a name inside brackets, such as `[:digit:]`. -/
def bracketClass? : String → Option CharSet
  | "alnum" => some (union asciiDigit asciiLetter)
  | "alpha" => some asciiLetter
  | "ascii" => some (range 0x00 0x7F)
  | "blank" => some (union (single '\t') (single ' '))
  | "cntrl" => some (union (range 0x00 0x1F) (range 0x7F 0x7F))
  | "digit" => some asciiDigit
  | "graph" => some (between '!' '~')
  | "lower" => some (between 'a' 'z')
  | "print" => some (between ' ' '~')
  | "punct" =>
    some (unions [between '!' '/', between ':' '@', between '[' (Char.ofNat 0x60),
      between '\x7b' '~'])
  | "space" => some asciiSpace
  | "upper" => some (between 'A' 'Z')
  | "word" => some asciiWord
  | "xdigit" => some (unions [asciiDigit, between 'A' 'F', between 'a' 'f'])
  | _ => none

end CharSet
end Pattern
end YamlStyle
