/-
# Shortest decimals

The decimal with the fewest digits among those that read back as a given
binary floating point number, and of these the nearest to it.

A finite number is `m * 2 ^ q`.  The reals that round to it form an interval
around it, with ends half way to its neighbours; the ends belong to it when `m`
is even.  For one digit, two digits and so on, the two points next to the
number on the grid of decimals of that many digits are tried, in exact integer
arithmetic.  Seventeen digits always suffice.
-/

namespace YamlStyle
namespace Decimal

/-- The decimal `digits * 10 ^ exponent`. -/
structure Scientific where
  digits : Nat
  exponent : Int
  deriving DecidableEq, Repr

/-- A positive real as a fraction, with the interval of reals that round to
it, over one denominator. -/
structure Rounding where
  lowest : Nat
  value : Nat
  highest : Nat
  denominator : Nat
  /-- Whether the ends of the interval round to the value too. -/
  closed : Bool

/-- The interval around `m * 2 ^ q`.  Below a power of two the neighbours are
twice as dense, except where the exponent is at its least. -/
def Rounding.ofBinary (m : Nat) (q : Int) : Rounding :=
  let up := Nat.pow 2 q.toNat
  let gapBelow := if m = 0x10000000000000 ∧ -1074 < q then 1 else 2
  { lowest := (4 * m - gapBelow) * up
    value := 4 * m * up
    highest := (4 * m + 2) * up
    denominator := 4 * Nat.pow 2 (-q).toNat
    closed := m % 2 = 0 }

/-- Whether `k * 10 ^ e` lies in the interval. -/
def Rounding.contains (r : Rounding) (k : Nat) (e : Int) : Bool :=
  let point := k * Nat.pow 10 e.toNat * r.denominator
  let scale := Nat.pow 10 (-e).toNat
  if r.closed then r.lowest * scale ≤ point && point ≤ r.highest * scale
  else r.lowest * scale < point && point < r.highest * scale

/-- The least exponent `e` from `-330` to `310` with the value below `10 ^ e`. -/
def Rounding.magnitude (r : Rounding) : Int :=
  let below (e : Int) : Bool :=
    r.value * Nat.pow 10 (-e).toNat < r.denominator * Nat.pow 10 e.toNat
  (((List.range 641).map fun (i : Nat) => (i : Int) - 330).find? below).getD 310

/-- The nearer of the two grid points next to the value that lie in the
interval, on the grid of multiples of `10 ^ e`; of two at one distance the even
one. -/
def Rounding.onGrid? (r : Rounding) (e : Int) : Option Nat :=
  let top := r.value * Nat.pow 10 (-e).toNat
  let unit := r.denominator * Nat.pow 10 e.toNat
  let below := top / unit
  let rest := top % unit
  match r.contains below e, r.contains (below + 1) e with
  | false, false => none
  | true, false => some below
  | false, true => some (below + 1)
  | true, true =>
    if 2 * rest < unit then some below
    else if unit < 2 * rest then some (below + 1)
    else some (if below % 2 = 0 then below else below + 1)

/-- Moves the zeros at the end of the digits into the exponent. -/
def Scientific.trim : Nat → Scientific → Scientific
  | 0, d => d
  | fuel + 1, d =>
    if d.digits ≠ 0 ∧ d.digits % 10 = 0 then trim fuel ⟨d.digits / 10, d.exponent + 1⟩ else d

/-- The shortest decimal of a positive number. -/
def Rounding.shortest (r : Rounding) : Scientific :=
  let e := r.magnitude
  let onGridOf (count : Nat) : Option Scientific :=
    (r.onGrid? (e - count)).map fun k => (Scientific.mk k (e - count)).trim 18
  (((List.range 17).map (· + 1)).findSome? onGridOf).getD ⟨0, 0⟩

end Decimal

/-- The parts of a floating point number: its sign, and `m` and `q` of its size
`m * 2 ^ q`. -/
structure BinaryParts where
  negative : Bool
  mantissa : Nat
  exponent : Int
  deriving DecidableEq, Repr

/-- The parts of a finite number. -/
def BinaryParts.ofFloat (x : Float) : BinaryParts :=
  let bits := x.toBits.toNat
  let field : Nat := bits / 0x10000000000000 % 0x800
  let low := bits % 0x10000000000000
  { negative := 0x8000000000000000 ≤ bits
    mantissa := if field = 0 then low else low + 0x10000000000000
    exponent := (if field = 0 then 1 else (field : Int)) - 1075 }

end YamlStyle
