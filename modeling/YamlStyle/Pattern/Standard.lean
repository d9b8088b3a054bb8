/-
# The standard engine

Patterns are read by the grammar of `Pattern.Reader` and matched by the sets of places
of `Pattern.Regex`.  This is the engine of the command line.  What is proved about
options and keys holds for every engine; this one runs the examples.
-/

import YamlStyle.KeyPattern
import YamlStyle.Pattern.Reader

namespace YamlStyle
namespace Pattern.Standard

/-- The wording for a pattern that is malformed. -/
def malformedMessage : String := "regex parse error:"

/-- The engine that compiles what can be read as a regular expression. -/
scoped instance engine : Engine where
  compile source :=
    match Regex.ofPattern? source with
    | some regex => .ok ⟨source, regex.find⟩
    | none => .error malformedMessage

/-- Patterns keep the text that is read. -/
theorem keepsSources : Engine.KeepsSources := by
  intro source p h
  simp only [Engine.compile] at h
  split at h
  · obtain rfl := Except.ok.inj h
    rfl
  · cases h

end Pattern.Standard
end YamlStyle
