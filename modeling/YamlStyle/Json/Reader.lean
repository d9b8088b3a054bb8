/-
# Reading JSON texts

A reader for JSON texts as the standard gives them.  Every function takes the
text that is left and returns what it read and what is left after it.  The
fuel of the mutual readers bounds how deep values nest and how long they are;
the length of the text is enough, since every round reads a character.
-/

import YamlStyle.Json.Number

namespace YamlStyle
namespace Json

/-- Skips the blanks that may stand between the parts of a value. -/
def skipBlanks (s : List Char) : List Char :=
  s.dropWhile fun c => c = ' ' || c = '\n' || c = '\r' || c = '\t'

/-- The value of four hexadecimal digits. -/
def hexUnit? (a b c d : Char) : Option Nat := do
  return 4096 * (← Text.hexDigit? a) + 256 * (← Text.hexDigit? b) +
    16 * (← Text.hexDigit? c) + (← Text.hexDigit? d)

/-- The character a letter stands for after a backslash. -/
def escapeLetter? : Char → Option Char
  | '"' => some '"'
  | '\\' => some '\\'
  | '/' => some '/'
  | 'b' => some '\x08'
  | 'f' => some '\x0c'
  | 'n' => some '\n'
  | 'r' => some '\r'
  | 't' => some '\t'
  | _ => none

/-- The rest of a string after its opening quote, given the characters read so
far, last first.  Two units of a surrogate pair make one character, and neither
may stand alone. -/
def readString (read : List Char) : List Char → Option (String × List Char)
  | [] => none
  | '"' :: s => some (String.ofList read.reverse, s)
  | '\\' :: 'u' :: a :: b :: c :: d :: s => do
    let unit ← hexUnit? a b c d
    if 0xD800 ≤ unit ∧ unit < 0xDC00 then
      match s with
      | '\\' :: 'u' :: e :: f :: g :: h :: t =>
        let low ← hexUnit? e f g h
        if 0xDC00 ≤ low ∧ low < 0xE000 then
          readString (Char.ofNat (0x10000 + 1024 * (unit - 0xD800) + (low - 0xDC00)) :: read) t
        else none
      | _ => none
    else if 0xDC00 ≤ unit ∧ unit < 0xE000 then none
    else readString (Char.ofNat unit :: read) s
  | '\\' :: c :: s =>
    match escapeLetter? c with
    | some d => readString (d :: read) s
    | none => none
  | c :: s => if c.toNat < 0x20 ∨ c = '\\' then none else readString (c :: read) s

/-- Splits off the digits at the beginning of a text. -/
def spanDigits (s : List Char) : List Char × List Char := s.span Char.isDigit

/-- The digits after a point, if there is a point. -/
def readFraction : List Char → Option (Option (List Char) × List Char)
  | '.' :: s =>
    let (digits, rest) := spanDigits s
    if digits.isEmpty then none else some (some digits, rest)
  | s => some (none, s)

/-- The digits of an exponent, after its sign. -/
def readExponentDigits (negative : Bool) (s : List Char) : Option (Option Int × List Char) :=
  let (digits, rest) := spanDigits s
  if digits.isEmpty then none
  else
    let size : Int := Text.decimalValue digits
    some (some (if negative then -size else size), rest)

/-- The exponent, if there is one. -/
def readExponent : List Char → Option (Option Int × List Char)
  | c :: s =>
    if c = 'e' ∨ c = 'E' then
      match s with
      | '+' :: t => readExponentDigits false t
      | '-' :: t => readExponentDigits true t
      | t => readExponentDigits false t
    else some (none, c :: s)
  | [] => some (none, [])

/-- A number without its sign. -/
def readUnsigned (negative : Bool) (s : List Char) : Option (Json × List Char) := do
  let (whole, rest) := spanDigits s
  if whole.isEmpty ∨ (whole.length ≠ 1 ∧ whole.head? = some '0') then none
  let (fraction, rest) ← readFraction rest
  let (exponent, rest) ← readExponent rest
  return (ofLiteral negative whole fraction exponent, rest)

/-- A number. -/
def readNumber : List Char → Option (Json × List Char)
  | '-' :: s => readUnsigned true s
  | s => readUnsigned false s

mutual

/-- A value of any kind. -/
def readValue : Nat → List Char → Option (Json × List Char)
  | 0, _ => none
  | fuel + 1, s =>
    match skipBlanks s with
    | 'n' :: 'u' :: 'l' :: 'l' :: t => some (.null, t)
    | 't' :: 'r' :: 'u' :: 'e' :: t => some (.bool true, t)
    | 'f' :: 'a' :: 'l' :: 's' :: 'e' :: t => some (.bool false, t)
    | '"' :: t => (readString [] t).map fun (text, rest) => (.str text, rest)
    | '[' :: t =>
      match skipBlanks t with
      | ']' :: rest => some (.arr [], rest)
      | rest => readItems fuel [] rest
    | '{' :: t =>
      match skipBlanks t with
      | '}' :: rest => some (.obj [], rest)
      | rest => readMembers fuel [] rest
    | t => readNumber t

/-- The items of an array that has some, given those read so far, last first. -/
def readItems : Nat → List Json → List Char → Option (Json × List Char)
  | 0, _, _ => none
  | fuel + 1, read, s => do
    let (item, rest) ← readValue fuel s
    match skipBlanks rest with
    | ',' :: t => readItems fuel (item :: read) t
    | ']' :: t => some (.arr (item :: read).reverse, t)
    | _ => none

/-- The members of an object that has some, given those read so far, last
first. -/
def readMembers : Nat → List (String × Json) → List Char → Option (Json × List Char)
  | 0, _, _ => none
  | fuel + 1, read, s =>
    match skipBlanks s with
    | '"' :: t => do
      let (key, rest) ← readString [] t
      match skipBlanks rest with
      | ':' :: rest =>
        let (value, rest) ← readValue fuel rest
        match skipBlanks rest with
        | ',' :: t => readMembers fuel ((key, value) :: read) t
        | '}' :: t => some (Json.object ((key, value) :: read).reverse, t)
        | _ => none
      | _ => none
    | _ => none

end

/-- The value a whole text spells. -/
def parse? (text : String) : Option Json :=
  let s := text.toList
  match readValue (s.length + 1) s with
  | some (value, rest) => if (skipBlanks rest).isEmpty then some value else none
  | none => none

end Json
end YamlStyle
