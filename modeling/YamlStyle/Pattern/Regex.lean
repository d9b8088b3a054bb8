/-
# Regular expressions and where their matches end

A regular expression is matched against a text from a set of starting places
to the set of places where a match can end.  Whether a repetition prefers many
or few rounds decides only which match is found first, not which places can be
reached, so the preference is not part of an expression.

The rounds of a repetition never go back, so after more rounds than the text
has places nothing new can be reached: a round that moves on uses up a place,
and a round that stays can be left out or repeated.  This bounds the work of
`rounds` and `closure` by the length of the text, however large the counts.
-/

import YamlStyle.Pattern.CharSet
import YamlStyle.Text.Basic

namespace YamlStyle
namespace Pattern

/-- Conditions on a place that read no character. -/
inductive Look where
  | textStart
  | textEnd
  | lineStart
  | lineEnd
  /-- Line starts and ends where a carriage return ends a line too. -/
  | lineStartReturn
  | lineEndReturn
  | wordBoundary (word : CharSet)
  | noWordBoundary (word : CharSet)
  | wordStart (word : CharSet)
  | wordEnd (word : CharSet)
  | wordStartHalf (word : CharSet)
  | wordEndHalf (word : CharSet)
  deriving DecidableEq, Repr

/-- Whether a condition holds between a character and the next one. -/
def Look.holds (before after : Option Char) : Look → Bool
  | textStart => before.isNone
  | textEnd => after.isNone
  | lineStart => before.all (· = '\n')
  | lineEnd => after.all (· = '\n')
  | lineStartReturn => before.all fun c => c = '\n' || (c = '\r' && after != some '\n')
  | lineEndReturn => after.all fun c => c = '\r' || (c = '\n' && before != some '\r')
  | wordBoundary w => before.any w.mem != after.any w.mem
  | noWordBoundary w => before.any w.mem == after.any w.mem
  | wordStart w => !before.any w.mem && after.any w.mem
  | wordEnd w => before.any w.mem && !after.any w.mem
  | wordStartHalf w => !before.any w.mem
  | wordEndHalf w => !after.any w.mem

/-- A regular expression. -/
inductive Regex where
  | empty
  | set (s : CharSet)
  | look (l : Look)
  | seq (a b : Regex)
  | alt (a b : Regex)
  /-- From `least` rounds up to `most`, or without an upper bound. -/
  | rep (r : Regex) (least : Nat) (most : Option Nat)
  deriving DecidableEq, Repr

namespace Regex

/-- Applies a step a number of times. -/
def rounds (step : List Nat → List Nat) : Nat → List Nat → List Nat
  | 0, places => places
  | n + 1, places => rounds step n (step places)

/-- What up to a number of steps can reach, the start included. -/
def closure (step : List Nat → List Nat) : Nat → List Nat → List Nat
  | 0, places => places
  | n + 1, places =>
    let wider := (places ++ step places).eraseDups
    if wider.length = places.length then places else closure step n wider

/-- The places where a match can end that starts at one of the given places. -/
def ends (text : Array Char) : Regex → List Nat → List Nat
  | empty, places => places
  | set s, places => places.filterMap fun i =>
    match text[i]? with
    | some c => if s.mem c then some (i + 1) else none
    | none => none
  | look l, places => places.filter fun i =>
    l.holds (if i = 0 then none else text[i - 1]?) text[i]?
  | seq a b, places => b.ends text (a.ends text places)
  | alt a b, places => (a.ends text places ++ b.ends text places).eraseDups
  | rep r least most, places =>
    let step := fun reached => (r.ends text reached).eraseDups
    let bound := text.size + 1
    let atLeast := rounds step (min least bound) places
    closure step (match most with | none => bound | some m => min (m - least) bound) atLeast

/-- Whether some match starts at a place. -/
def matchesAt (text : Array Char) (r : Regex) (place : Nat) : Bool :=
  !(r.ends text [place]).isEmpty

/-- The byte at which the first match in a text starts. -/
def find (r : Regex) (text : String) : Option Nat :=
  let cs := text.toList
  let places := cs.toArray
  ((List.range (cs.length + 1)).find? (r.matchesAt places)).map fun place =>
    Text.byteLength (cs.take place)

end Regex
end Pattern
end YamlStyle
