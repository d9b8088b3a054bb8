/-
# Numbers of JSON texts

How a number literal is read, and how a number is written.  A literal without
fraction and exponent is an integer if it fits into 64 bits; all others, and
`-0`, are floating point numbers.  A floating point number is written with the
fewest digits that read back as it, with a point and at least one digit after
it as long as the point falls between five places before and sixteen places
after the first digit, and with an exponent otherwise.
-/

import YamlStyle.Decimal.Shortest
import YamlStyle.Json.Basic
import YamlStyle.Text.Digits

namespace YamlStyle
namespace Json

/-- The floating point number nearest to `digits * 10 ^ exponent`. -/
def nearestFloat (negative : Bool) (digits : Nat) (exponent : Int) : Float :=
  let size := Float.ofScientific digits (exponent < 0) exponent.natAbs
  if negative then -size else size

/-- The number a literal stands for, from its sign, the digits before and after
its point and its exponent. -/
def ofLiteral (negative : Bool) (whole : List Char) (fraction : Option (List Char))
    (exponent : Option Int) : Json :=
  let float :=
    Json.float (nearestFloat negative (Text.decimalValue (whole ++ fraction.getD []))
      (exponent.getD 0 - (fraction.getD []).length))
  let size := Text.decimalValue whole
  match fraction, exponent with
  | none, none =>
    if negative then if 0 < size ∧ size ≤ 0x8000000000000000 then .int (-size) else float
    else if size < 0x10000000000000000 then .int size else float
  | _, _ => float

/-- The digits of a decimal, and the place of its point counted from before
the first of them. -/
def layout (d : Decimal.Scientific) : String :=
  let digits := Nat.toDigits 10 d.digits
  let point := (digits.length : Int) + d.exponent
  let zeros (n : Int) := List.replicate n.toNat '0'
  let power := toString (point - 1)
  if 0 ≤ d.exponent ∧ point ≤ 16 then String.ofList (digits ++ zeros d.exponent) ++ ".0"
  else if 0 < point ∧ point ≤ 16 then
    String.ofList (digits.take point.toNat ++ '.' :: digits.drop point.toNat)
  else if -5 < point ∧ point ≤ 0 then
    "0." ++ String.ofList (zeros (-point) ++ digits)
  else
    match digits with
    | [] | [_] => String.ofList digits ++ "e" ++ power
    | first :: rest => String.ofList (first :: '.' :: rest) ++ "e" ++ power

/-- The text of a finite floating point number. -/
def floatText (x : Float) : String :=
  let parts := BinaryParts.ofFloat x
  let sign := if parts.negative then "-" else ""
  if parts.mantissa = 0 then sign ++ "0.0"
  else sign ++ layout (Decimal.Rounding.ofBinary parts.mantissa parts.exponent).shortest

end Json
end YamlStyle
