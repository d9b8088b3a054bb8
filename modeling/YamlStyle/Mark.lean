/-
# Marks

A mark is a place in a text, given three ways at once: the number of line
breaks before it, the number of characters since the last of them, and its
byte offset.  Marks are ordered by their offset alone, since the other two
follow from it when all marks belong to one text; they are equal only if all
three agree.
-/

namespace YamlStyle

/-- A place in a text, counted from zero. -/
structure Mark where
  /-- Line breaks before the place. -/
  line : Nat
  /-- Characters between the last line break and the place. -/
  column : Nat
  /-- Bytes before the place. -/
  pointer : Nat
  deriving DecidableEq, Repr

namespace Mark

/-- The beginning of a text. -/
def origin : Mark := ⟨0, 0, 0⟩

/-- Moves a mark on by a number of bytes over the text after it, or to the end
of that text.  A character that the last byte cuts counts as one column. -/
def forward (m : Mark) : Nat → List Char → Mark
  | 0, _ => m
  | _ + 1, [] => m
  | n + 1, c :: s =>
    if c = '\n' then forward ⟨m.line + 1, 0, m.pointer + 1⟩ n s
    else
      forward ⟨m.line, m.column + 1, m.pointer + min (n + 1) c.utf8Size⟩ (n + 1 - c.utf8Size) s

/-- The mark of a byte offset.  An offset past the end means the end. -/
def atOffset (s : List Char) (offset : Nat) : Mark := origin.forward offset s

/-- The order of two places, by their offsets. -/
def order (a b : Mark) : Ordering := compareOfLessAndEq a.pointer b.pointer

/-- Line and column counted from one, as people read them. -/
def render (m : Mark) : String := s!"{m.line + 1}:{m.column + 1}"

end Mark
end YamlStyle
