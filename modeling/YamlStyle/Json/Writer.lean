/-
# Writing JSON texts

A value on one line without blanks, in the order in which it holds its items
and members.
-/

import YamlStyle.Json.Number

namespace YamlStyle
namespace Json

/-- A control character as an escape with four hexadecimal digits. -/
def escapeControl (c : Char) : List Char :=
  let digits := Nat.toDigits 16 c.toNat
  '\\' :: 'u' :: (List.replicate (4 - digits.length) '0' ++ digits)

/-- A character as it stands between the quotes of a string. -/
def escapeChar : Char → List Char
  | '"' => ['\\', '"']
  | '\\' => ['\\', '\\']
  | '\n' => ['\\', 'n']
  | '\r' => ['\\', 'r']
  | '\t' => ['\\', 't']
  | c => if c.toNat < 0x20 then escapeControl c else [c]

/-- A string with its quotes. -/
def stringText (s : String) : String :=
  String.ofList ('"' :: (s.toList.flatMap escapeChar ++ ['"']))

mutual

/-- The text of a value. -/
def render : Json → String
  | null => "null"
  | bool true => "true"
  | bool false => "false"
  | int n => toString n
  | float x => floatText x
  | str s => stringText s
  | arr items => "[" ++ ",".intercalate (renderItems items) ++ "]"
  | obj members => "\x7b" ++ ",".intercalate (renderMembers members) ++ "\x7d"

/-- The texts of the items of an array. -/
def renderItems : List Json → List String
  | [] => []
  | item :: rest => render item :: renderItems rest

/-- The texts of the members of an object. -/
def renderMembers : List (String × Json) → List String
  | [] => []
  | (key, value) :: rest => (stringText key ++ ":" ++ render value) :: renderMembers rest

end

end Json
end YamlStyle
