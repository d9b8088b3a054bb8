/-
# Escapes in patterns

What may follow a backslash: a character taken as it is, a control character, a
code point in hexadecimal, a class, a property or a condition on the place.
Letters and digits without a meaning are refused, so are references to groups.
Each reader takes what is left of the pattern and returns what is left after
it, or none if the pattern is malformed; fuel bounds the characters read.
-/

import YamlStyle.Pattern.Flags
import YamlStyle.Text.Digits

namespace YamlStyle
namespace Pattern

/-- What an escape stands for. -/
inductive Escape where
  | literal (c : Char)
  | oneOf (s : CharSet)
  | look (l : Look)
  deriving DecidableEq, Repr

namespace Escape

/-- The character with a code point. -/
def charOfCode? (n : Nat) : Option Char :=
  if n.isValidChar then some (Char.ofNat n) else none

/-- A row of hexadecimal digits of fixed length. -/
def hexFixed (f : Flags) : Nat → Nat → List Char → Option (Nat × List Char)
  | 0, value, s => some (value, s)
  | _ + 1, _, [] => none
  | n + 1, value, c :: s => do hexFixed f n (16 * value + (← Text.hexDigit? c)) (f.skip s)

/-- Hexadecimal digits up to a closing brace, at least one. -/
def hexBraced (f : Flags) : Nat → Option Nat → List Char → Option (Nat × List Char)
  | 0, _, _ => none
  | fuel + 1, value, s =>
    match f.skip s with
    | [] => none
    | '}' :: rest => value.map fun v => (v, f.skip rest)
    | c :: rest => do hexBraced f fuel (some (16 * value.getD 0 + (← Text.hexDigit? c))) rest

/-- A code point after `x`, `u` or `U`. -/
def readCode (f : Flags) (width : Nat) (s : List Char) : Option (Escape × List Char) := do
  match f.skip s with
  | [] => none
  | '{' :: t =>
    let (code, rest) ← hexBraced f t.length none t
    return (.literal (← charOfCode? code), rest)
  | t =>
    let (code, rest) ← hexFixed f width 0 t
    if width = 2 ∧ !f.unicode ∧ 0x7F < code then none
    return (.literal (← charOfCode? code), rest)

/-- The text up to a closing brace, without what means nothing. -/
def braced (f : Flags) : Nat → List Char → List Char → Option (List Char × List Char)
  | 0, _, _ => none
  | fuel + 1, read, s =>
    match f.skip s with
    | [] => none
    | '}' :: rest => some (read.reverse, rest)
    | c :: rest => braced f fuel (c :: read) rest

/-- The name of a property in its loose form: blanks, hyphens and low lines
left out and letters small. -/
def looseName (name : List Char) : String :=
  String.ofList ((name.filter fun c => c != ' ' && c != '-' && c != '_').map Char.toLower)

/-- The set of characters with a property. -/
def property? (name : List Char) : Option CharSet :=
  match looseName name with
  | "any" => some (.compl .empty)
  | "ascii" => some (.range 0x00 0x7F)
  | "alphabetic" | "alpha" => some (.named .alphabetic)
  | "whitespace" | "space" => some (.named .space)
  | "nd" | "decimalnumber" | "digit" => some (.named .digit)
  | _ => none

/-- A property after `p` or `P`. -/
def readProperty (f : Flags) (negated : Bool) (s : List Char) : Option (Escape × List Char) := do
  let (name, rest) ←
    match f.skip s with
    | [] => none
    | '{' :: t => braced f t.length [] t
    | c :: t => if c = '\\' then none else some ([c], f.skip t)
  if !f.unicode then none
  let set := f.fold (← property? name)
  return (.oneOf (if negated then .compl set else set), rest)

/-- Whether a character can be part of the name of a word condition. -/
def isConditionChar (c : Char) : Bool := c.isAlpha || c = '-'

/-- The name of a word condition in braces, none if the braces hold a count. -/
def readCondition (f : Flags) (s : List Char) : Option (Option Look × List Char) :=
  match s with
  | '{' :: t =>
    match f.skip t with
    | [] => none
    | c :: _ =>
      if !isConditionChar c then some (none, s)
      else do
        let (name, rest) ← braced f t.length [] t
        let condition ←
          match String.ofList name with
          | "start" => some (Look.wordStart f.wordSet)
          | "end" => some (Look.wordEnd f.wordSet)
          | "start-half" => some (Look.wordStartHalf f.wordSet)
          | "end-half" => some (Look.wordEndHalf f.wordSet)
          | _ => none
        return (some condition, rest)
  | _ => some (none, s)

/-- Whether a character may be escaped to stand for itself. -/
def isPunctuation (c : Char) : Bool :=
  c.toNat < 0x80 && !c.isAlphanum && c != '<' && c != '>'

/-- The control character a letter stands for. -/
def control? : Char → Option Char
  | 'a' => some '\x07'
  | 'f' => some '\x0c'
  | 't' => some '\t'
  | 'n' => some '\n'
  | 'r' => some '\r'
  | 'v' => some '\x0b'
  | _ => none

/-- The condition a character stands for. -/
def condition? (f : Flags) : Char → Option Look
  | 'A' => some .textStart
  | 'z' => some .textEnd
  | 'B' => some (.noWordBoundary f.wordSet)
  | '<' => some (.wordStart f.wordSet)
  | '>' => some (.wordEnd f.wordSet)
  | _ => none

/-- What follows a backslash. -/
def read (f : Flags) : List Char → Option (Escape × List Char)
  | [] => none
  | 'x' :: s => readCode f 2 s
  | 'u' :: s => readCode f 4 s
  | 'U' :: s => readCode f 8 s
  | 'p' :: s => readProperty f false s
  | 'P' :: s => readProperty f true s
  | 'b' :: s => do
    let (condition, rest) ← readCondition f s
    return (.look (condition.getD (.wordBoundary f.wordSet)), rest)
  | c :: s =>
    if c = 'd' ∨ c = 's' ∨ c = 'w' ∨ c = 'D' ∨ c = 'S' ∨ c = 'W' then
      (f.classLetter? c).map fun set => (.oneOf set, s)
    else if isPunctuation c then some (.literal c, s)
    else
      match control? c, condition? f c with
      | some d, _ => some (.literal d, s)
      | none, some l => some (.look l, s)
      | none, none => none

end Escape
end Pattern
end YamlStyle
