/-
# Reading patterns

The grammar of patterns, read from left to right in one pass.  A repetition
applies to the part right before it, so a pattern with nothing to repeat is
malformed; so are groups that do not close or were not opened, look-around,
unknown flags and two groups of one name.
-/

import YamlStyle.Pattern.Bracket
import YamlStyle.Text.Basic
import YamlStyle.Unicode.OtherNumber

namespace YamlStyle
namespace Pattern

/-- What stands outside an open group: the finished alternatives and the parts
of the current one, last first, and the flags to return to. -/
structure Enclosing where
  branches : List Regex
  parts : List (Option Regex)
  flags : Flags
  deriving DecidableEq, Repr

/-- What has been read of a pattern.  A part that only sets flags is none, since
it can not be repeated. -/
structure Reading where
  outer : List Enclosing
  branches : List Regex
  parts : List (Option Regex)
  flags : Flags
  names : List (List Char)
  deriving DecidableEq, Repr

namespace Reading

/-- Nothing has been read. -/
def start : Reading := ⟨[], [], [], {}, []⟩

/-- The parts of an alternative, last first, one after the other. -/
def sequence (parts : List (Option Regex)) : Regex :=
  parts.foldl (fun after part => match part with
    | none => after
    | some r => if after = .empty then r else .seq r after) .empty

/-- The current group as an expression. -/
def group (r : Reading) : Regex :=
  r.branches.foldl (fun later branch => .alt branch later) (sequence r.parts)

/-- Adds a part. -/
def push (r : Reading) (part : Regex) : Reading := { r with parts := some part :: r.parts }

/-- Starts another alternative. -/
def alternative (r : Reading) : Reading :=
  { r with branches := sequence r.parts :: r.branches, parts := [] }

/-- Opens a group with the given flags. -/
def openGroup (r : Reading) (flags : Flags) : Reading :=
  { r with
    outer := ⟨r.branches, r.parts, r.flags⟩ :: r.outer
    branches := []
    parts := []
    flags := flags }

/-- Closes the innermost group, if one is open. -/
def closeGroup (r : Reading) : Option Reading :=
  match r.outer with
  | [] => none
  | enclosing :: outer =>
    some { r with
      outer := outer
      branches := enclosing.branches
      parts := some r.group :: enclosing.parts
      flags := enclosing.flags }

/-- Repeats the last part. -/
def repeatLast (r : Reading) (least : Nat) (most : Option Nat) : Option Reading :=
  match r.parts with
  | some part :: parts => some { r with parts := some (.rep part least most) :: parts }
  | _ => none

end Reading

/-- Skips the sign of a repetition that prefers few rounds. -/
def skipLazy : List Char → List Char
  | '?' :: s => s
  | s => s

/-- A row of digits, with what means nothing between them. -/
def countDigits (f : Flags) : Nat → List Char → List Char → List Char × List Char
  | 0, read, s => (read.reverse, s)
  | fuel + 1, read, s =>
    match s with
    | c :: t => if c.isDigit then countDigits f fuel (c :: read) (f.skip t) else (read.reverse, s)
    | [] => (read.reverse, [])

/-- A count of rounds below `2 ^ 32`, with blanks around it. -/
def readCount (f : Flags) (s : List Char) : Option (Nat × List Char) :=
  let s := s.dropWhile Unicode.isWhiteSpace
  let (digits, rest) := countDigits f s.length [] s
  let value := Text.decimalValue digits
  if digits.isEmpty ∨ 0x100000000 ≤ value then none
  else some (value, rest.dropWhile Unicode.isWhiteSpace)

/-- The counts of a repetition after its opening brace. -/
def readCounts (f : Flags) (s : List Char) : Option ((Nat × Option Nat) × List Char) := do
  let (least, rest) ← readCount f (f.skip s)
  match rest with
  | '}' :: t => return ((least, some least), skipLazy (f.skip t))
  | ',' :: t =>
    match f.skip t with
    | '}' :: u => return ((least, none), skipLazy (f.skip u))
    | u =>
      let (most, rest) ← readCount f u
      match rest with
      | '}' :: v => if least ≤ most then return ((least, some most), skipLazy (f.skip v)) else none
      | _ => none
  | _ => none

/-- Whether a character can begin the name of a group. -/
def isNameStart (c : Char) : Bool := c = '_' || Unicode.isAlphabetic c

/-- Whether a character can continue the name of a group. -/
def isNamePart (c : Char) : Bool :=
  c = '_' || c = '.' || c = '[' || c = ']' || Unicode.isAlphabetic c ||
    Unicode.isDecimalDigit c || Unicode.isOtherNumber c

/-- The name of a group, up to its closing angle bracket. -/
def readName (s : List Char) : Option (List Char × List Char) :=
  let name := s.takeWhile (· != '>')
  match name, s.dropWhile (· != '>') with
  | first :: others, '>' :: rest =>
    if isNameStart first && others.all isNamePart then some (name, rest) else none
  | _, _ => none

/-- Flags up to a colon or a closing parenthesis, given the flags so far, the
letters already used and whether flags are being switched off.  Yields the
flags, whether there were any, and what is left from the colon or parenthesis
on. -/
def readFlags (f : Flags) (used : List Char) (on : Bool) (dangling : Bool) :
    List Char → Option (Flags × Bool × List Char)
  | [] => none
  | c :: s =>
    if c = ':' ∨ c = ')' then if dangling then none else some (f, !used.isEmpty, c :: s)
    else if c = '-' then if on then readFlags f (c :: used) false true s else none
    else if used.contains c then none
    else
      match f.set? c on with
      | some g => readFlags g (c :: used) on false s
      | none => none

/-- Whether look-around begins here. -/
def beginsLookAround (s : List Char) : Bool :=
  ["?=", "?!", "?<=", "?<!"].any fun sign => Text.startsWith s sign.toList

/-- Opens a group with a name. -/
def Reading.openNamed (r : Reading) (s : List Char) : Option (Reading × List Char) := do
  let (name, rest) ← readName s
  if r.names.contains name then none
  return ({ r with names := name :: r.names }.openGroup r.flags, rest)

/-- Reads what follows an opening parenthesis. -/
def Reading.readGroup (r : Reading) (s : List Char) : Option (Reading × List Char) :=
  let s := r.flags.skip s
  if beginsLookAround s then none
  else
    match s with
    | '?' :: 'P' :: '<' :: t => r.openNamed t
    | '?' :: '<' :: t => r.openNamed t
    | '?' :: t =>
      match readFlags r.flags [] true false t with
      | some (flags, _, ':' :: rest) => some (r.openGroup flags, rest)
      | some (flags, true, ')' :: rest) =>
        some ({ r with flags := flags, parts := none :: r.parts }, rest)
      | _ => none
    | t => some (r.openGroup r.flags, t)

/-- Reads the part that begins with a character. -/
def Reading.step (r : Reading) (c : Char) (s : List Char) : Option (Reading × List Char) :=
  match c with
  | '(' => r.readGroup s
  | ')' => r.closeGroup.map fun r => (r, s)
  | '|' => some (r.alternative, s)
  | '[' => (Bracket.read r.flags s).map fun (set, rest) => (r.push (.set set), rest)
  | '?' => (r.repeatLast 0 (some 1)).map fun r => (r, skipLazy s)
  | '*' => (r.repeatLast 0 none).map fun r => (r, skipLazy s)
  | '+' => (r.repeatLast 1 none).map fun r => (r, skipLazy s)
  | '{' => do
    let ((least, most), rest) ← readCounts r.flags s
    return (← r.repeatLast least most, rest)
  | '\\' => do
    let (escape, rest) ← Escape.read r.flags s
    let part := match escape with
      | .literal c => r.flags.literal c
      | .oneOf set => .set set
      | .look l => .look l
    return (r.push part, rest)
  | '.' => r.flags.dot.map fun dot => (r.push dot, s)
  | '^' => some (r.push r.flags.caret, s)
  | '$' => some (r.push r.flags.dollar, s)
  | c => some (r.push (r.flags.literal c), s)

/-- Reads part after part to the end of the pattern. -/
def Reading.run : Nat → Reading → List Char → Option Reading
  | 0, _, _ => none
  | fuel + 1, r, s =>
    match r.flags.skip s with
    | [] => some r
    | c :: t => do
      let (next, rest) ← r.step c t
      run fuel next rest

/-- The expression a pattern spells, none if it is malformed. -/
def Regex.ofPattern? (pattern : String) : Option Regex :=
  let s := pattern.toList
  match Reading.start.run (s.length + 1) s with
  | some r => if r.outer.isEmpty then some r.group else none
  | none => none

end Pattern
end YamlStyle
