/-
# Patterns for keys

A user writes patterns to pick out keys.  What a pattern means is not settled here:
an engine of regular expressions compiles the text of a pattern or says why it
cannot, and a compiled pattern finds its first match in a text.  Everything that
reads options or checks keys works with any engine.  A pattern picks a key if its
first match is found right where the key starts.
-/

namespace YamlStyle

/-- A compiled pattern: the text it is written as, and the byte at which its first
match in a text starts. -/
structure KeyPattern where
  source : String
  find : String → Option Nat

/-- Whether the pattern picks a key. -/
def KeyPattern.picks (p : KeyPattern) (key : String) : Bool := (p.find key).any (· = 0)

/-- An engine of regular expressions.  It compiles the source of a pattern, or says
what is wrong with it. -/
class Pattern.Engine where
  compile : String → Except String KeyPattern

section

variable [Pattern.Engine]

/-- A compiled pattern is written as what it was compiled from. -/
def Pattern.Engine.KeepsSources : Prop :=
  ∀ source p, Pattern.Engine.compile source = .ok p → p.source = source

/-- The engine has made the pattern. -/
def KeyPattern.Compiled (p : KeyPattern) : Prop :=
  ∃ source, Pattern.Engine.compile source = .ok p

/-- What a pattern is written as compiles to the pattern. -/
theorem KeyPattern.Compiled.compile_source {p : KeyPattern} (h : p.Compiled)
    (hkeeps : Pattern.Engine.KeepsSources) : Pattern.Engine.compile p.source = .ok p := by
  obtain ⟨source, hp⟩ := h
  rw [hkeeps source p hp]
  exact hp

end

end YamlStyle
