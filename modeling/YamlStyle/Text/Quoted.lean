/-
# Quoted texts

A text in double quotes, as messages show it.  Quotes, backslashes and the
common control characters have escapes of two characters; any other character
that does not print, or that would join the one before it, is shown by its code
point.
-/

import YamlStyle.Unicode.GraphemeExtend
import YamlStyle.Unicode.Unprintable

namespace YamlStyle
namespace Text

/-- A character by its code point in hexadecimal. -/
def codePointEscape (c : Char) : List Char :=
  '\\' :: 'u' :: '{' :: (Nat.toDigits 16 c.toNat ++ ['}'])

/-- A character as it stands between the quotes. -/
def quotedChar : Char → List Char
  | '\x00' => ['\\', '0']
  | '\t' => ['\\', 't']
  | '\r' => ['\\', 'r']
  | '\n' => ['\\', 'n']
  | '"' => ['\\', '"']
  | '\\' => ['\\', '\\']
  | c => if Unicode.extendsGrapheme c || Unicode.isUnprintable c then codePointEscape c else [c]

/-- A text in double quotes. -/
def quoted (s : String) : String :=
  String.ofList ('"' :: (s.toList.flatMap quotedChar ++ ['"']))

end Text
end YamlStyle
