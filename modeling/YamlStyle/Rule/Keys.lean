/-
# Keys of mappings

Two rules compare the keys of one mapping with each other: none may occur
twice, and each must not come before one that stands above it.  Both walk with
the open collections and record in them the keys they have seen.
-/

import YamlStyle.Decode.Schema
import YamlStyle.Diagnostic
import YamlStyle.Nesting
import YamlStyle.Text.Order

namespace YamlStyle

/-- What a rule on tokens gives at one token: the open collections after it and
what it found, or what is wrong with the stream. -/
abbrev StepResult := Except StreamError (Nesting × List Finding)

/-- A key with a problem, at the place of its scalar. -/
def KeyVisit.finding (v : KeyVisit) (problem : Problem) : Finding :=
  ⟨v.scalar.start.line + 1, v.scalar.start.column + 1, problem⟩

/-- The options of a rule that has none. -/
structure NoOptions where
  deriving DecidableEq, Repr

/-- How no options are written. -/
def NoOptions.schema : Schema NoOptions where
  record := "NoOptions"
  fields := []
  default := {}

namespace KeyDuplicates

/-- Reports a key that the mapping has already; records all others. -/
def visit (n : Nesting) (v : KeyVisit) : Nesting × List Finding :=
  if v.earlier.contains v.key then (n, [v.finding (.duplicateKey v.key)])
  else (n.record v.key, [])

/-- One token of the walk. -/
def check (n : Nesting) (w : Window) : StepResult := do
  let n ← n.advance w.token
  match n.visit? w with
  | some v => return visit n v
  | none => return (n, [])

end KeyDuplicates

namespace KeyOrdering

/-- The keys that may stand anywhere. -/
structure Options where
  ignored : List KeyPattern := []

/-- How the options are written. -/
def schema [Pattern.Engine] : Schema Options where
  record := "KeyOrderingOptions"
  fields := [.of "ignored-keys" .patterns (·.ignored) ({ · with ignored := · })]
  default := {}

/-- Whether a key may stand anywhere. -/
def Options.ignores (o : Options) (key : String) : Bool := o.ignored.any (·.picks key)

/-- Reports a key that comes before a recorded one; records all others that are
not ignored. -/
def visit (o : Options) (n : Nesting) (v : KeyVisit) : Nesting × List Finding :=
  if o.ignores v.key then (n, [])
  else if v.earlier.any fun seen => Text.precedes v.key.toList seen.toList then
    (n, [v.finding (.misorderedKey v.key)])
  else (n.record v.key, [])

/-- One token of the walk. -/
def check (o : Options) (n : Nesting) (w : Window) : StepResult := do
  let n ← n.advance w.token
  match n.visit? w with
  | some v => return visit o n v
  | none => return (n, [])

end KeyOrdering
end YamlStyle
