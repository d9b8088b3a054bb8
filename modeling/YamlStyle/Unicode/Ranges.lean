/-
# Sets of code points

A set of code points as a list of ranges in ascending order, and the question
whether a character is in it.
-/

namespace YamlStyle
namespace Unicode

/-- Whether a number lies in one of the ranges, which stand in ascending order
and include both ends. -/
def inRanges (n : Nat) : List (Nat × Nat) → Bool
  | [] => false
  | (lo, hi) :: rest => if n < lo then false else n ≤ hi || inRanges n rest

end Unicode
end YamlStyle
