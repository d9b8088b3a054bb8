/-
# Line breaks between marks

The line of a mark counts the line feeds among the bytes before its offset, whether or not
the offset cuts a character (`Mark.line_atOffset`).  So two marks of a text are on one line
if no line feed lies between them, whichever comes first (`Mark.Over.line_eq_iff`), and one
is on an earlier line if it comes first and a line feed lies between them
(`Mark.Over.line_lt_iff`).

A document over ranges of its own text has such marks only, also where ranges overlap, are
reversed or go past the end (`Document.over_of_mem_windows`).
-/

import YamlStyle.Proofs.Pointing

namespace YamlStyle
namespace Text

/-! ### Bytes between offsets -/

/-- The bytes between two offsets, whichever of them is the smaller one. -/
def bytesBetween (s : List Char) (m n : Nat) : List UInt8 :=
  ((bytes s).take (max m n)).drop (min m n)

/-- It does not matter which offset comes first. -/
theorem bytesBetween_comm (s : List Char) (m n : Nat) :
    bytesBetween s m n = bytesBetween s n m := by
  rw [bytesBetween, bytesBetween, Nat.max_comm, Nat.min_comm]

/-- Between offsets in order lie the bytes from one to the other. -/
theorem bytesBetween_of_le (s : List Char) {m n : Nat} (h : m ≤ n) :
    bytesBetween s m n = ((bytes s).take n).drop m := by
  rw [bytesBetween, Nat.max_eq_right h, Nat.min_eq_left h]

/-- Between two offsets of a text lie as many bytes as they are apart. -/
theorem length_bytesBetween {s : List Char} {m n : Nat} (hm : m ≤ byteLength s)
    (hn : n ≤ byteLength s) : (bytesBetween s m n).length = max m n - min m n := by
  rw [bytesBetween, List.length_drop, List.length_take, length_bytes,
    Nat.min_eq_left (Nat.max_le.2 ⟨hm, hn⟩)]

/-- The byte at an offset is the byte of the UTF-8 form there. -/
theorem byteAt?_eq (s : List Char) (n : Nat) : byteAt? s n = (bytes s)[n]? := by
  induction s generalizing n with
  | nil => rfl
  | cons c s ih =>
    rw [byteAt?, bytes_cons]
    split
    · rename_i hlt
      rw [List.getElem?_append_left (by rwa [String.length_utf8EncodeChar])]
    · rename_i hge
      rw [List.getElem?_append_right (by rw [String.length_utf8EncodeChar]; omega), ih,
        String.length_utf8EncodeChar]

/-- An offset right after a line feed. -/
def AfterLineFeed (s : List Char) (n : Nat) : Prop :=
  ∃ m, n = m + 1 ∧ (bytes s)[m]? = some '\n'.toUInt8

end Text

namespace Mark

/-! ### Lines -/

open Text

/-- Going forward counts the line feeds that it passes. -/
theorem line_forward (m : Mark) (n : Nat) (s : List Char) :
    (m.forward n s).line = m.line + ((bytes s).take n).count '\n'.toUInt8 := by
  induction s generalizing m n with
  | nil => cases n <;> simp [forward]
  | cons c s ih =>
    cases n with
    | zero => simp [forward]
    | succ n =>
      rw [forward]
      split
      · rename_i hc
        rw [ih, hc, bytes_cons, utf8EncodeChar_ascii rfl, List.singleton_append,
          List.take_succ_cons, List.count_cons_self]
        dsimp only
        omega
      · rename_i hc
        -- no byte of another character is a line feed, also if the offset cuts it
        have hfront : ((String.utf8EncodeChar c).take (n + 1)).count '\n'.toUInt8 = 0 :=
          List.count_eq_zero.2 fun hmem => hc (eq_of_toUInt8_mem rfl (List.mem_of_mem_take hmem))
        rw [ih, bytes_cons, List.take_append, List.count_append, hfront, Nat.zero_add,
          String.length_utf8EncodeChar]

/-- **The line of a mark counts the line feeds before it.** -/
theorem line_atOffset (s : List Char) (n : Nat) :
    (atOffset s n).line = ((bytes s).take n).count '\n'.toUInt8 := by
  rw [atOffset, line_forward]
  exact Nat.zero_add _

/-- From one offset to a later one, lines are counted by the line feeds between them. -/
theorem line_atOffset_add (s : List Char) {m n : Nat} (h : m ≤ n) :
    (atOffset s n).line = (atOffset s m).line + (bytesBetween s m n).count '\n'.toUInt8 := by
  have hsplit := List.take_append_drop m ((bytes s).take n)
  rw [List.take_take, Nat.min_eq_left h, ← bytesBetween_of_le s h] at hsplit
  rw [line_atOffset, line_atOffset, ← hsplit, List.count_append]

/-- A mark of a text: the one that its offset has there. -/
def Over (s : List Char) (m : Mark) : Prop := m = atOffset s m.pointer

/-- The mark of an offset is one of the text. -/
theorem over_atOffset (s : List Char) (n : Nat) : Over s (atOffset s n) := by
  rw [Over, pointer_atOffset, atOffset_min]

/-- Marks of a text are not past its end. -/
theorem Over.pointer_le {s : List Char} {m : Mark} (h : Over s m) : m.pointer ≤ byteLength s := by
  rw [h, pointer_atOffset]
  exact Nat.min_le_right _ _

section

variable {s : List Char} {a b : Mark} (ha : Over s a) (hb : Over s b)
include ha hb

/-- A later mark is as many lines on as there are line feeds in between. -/
theorem Over.line_add (h : a.pointer ≤ b.pointer) :
    b.line = a.line + (bytesBetween s a.pointer b.pointer).count '\n'.toUInt8 := by
  have hline := line_atOffset_add s h
  rwa [← ha, ← hb] at hline

/-- **Two marks are on one line if no line feed lies between them.** -/
theorem Over.line_eq_iff :
    a.line = b.line ↔ '\n'.toUInt8 ∉ bytesBetween s a.pointer b.pointer := by
  rw [← List.count_eq_zero]
  rcases Nat.le_total a.pointer b.pointer with h | h
  · have hline := ha.line_add hb h
    omega
  · have hline := hb.line_add ha h
    rw [bytesBetween_comm]
    omega

/-- A mark is on an earlier line than another if it comes first and a line feed lies
between them. -/
theorem Over.line_lt_iff :
    a.line < b.line ↔
      a.pointer < b.pointer ∧ '\n'.toUInt8 ∈ bytesBetween s a.pointer b.pointer := by
  rw [← List.count_pos_iff]
  rcases Nat.lt_or_ge a.pointer b.pointer with h | h
  · have hline := ha.line_add hb h.le
    omega
  · have hline := hb.line_add ha h
    omega

end

end Mark

/-! ### Documents over their own text -/

/-- Both marks of a token are marks of a text. -/
structure Token.Over (s : List Char) (t : Token) : Prop where
  start : t.start.Over s
  stop : t.stop.Over s

/-- A window over a text: the marks of its token and of the neighbours are marks of the text
that it shows. -/
structure Window.Over (s : List Char) (w : Window) : Prop where
  text : w.text = s
  token : w.token.Over s
  previous : ∀ t, w.previous = some t → t.Over s
  next : ∀ t, w.next = some t → t.Over s

/-- In a document over ranges all marks are those of its text. -/
theorem Document.over_of_mem_windows {s : List Char} {ranges : List (TokenKind × Nat × Nat)}
    {w : Window} (h : w ∈ (ofRanges s ranges).windows) : w.Over s := by
  have htokens : ∀ (i : Nat) (t : Token), (ofRanges s ranges).tokens[i]? = some t → t.Over s := by
    intro i t ht
    obtain ⟨⟨kind, start, stop⟩, -, rfl⟩ := List.mem_map.1 (List.mem_of_getElem? ht)
    exact ⟨Mark.over_atOffset s start, Mark.over_atOffset s stop⟩
  obtain ⟨i, hi⟩ := List.mem_iff_getElem?.1 h
  rw [getElem?_windows] at hi
  obtain ⟨t, ht, rfl⟩ := Option.map_eq_some_iff.1 hi
  refine ⟨rfl, htokens i t ht, fun u hu => ?_, fun u hu => htokens (i + 1) u hu⟩
  dsimp only at hu
  split at hu
  · cases hu
  · exact htokens (i - 1) u hu

/-- Whether a token ends with a line feed is read off the text. -/
theorem Window.Over.endsWithLineFeed_iff {s : List Char} {w : Window} (h : w.Over s) (t : Token) :
    w.endsWithLineFeed t = true ↔ Text.AfterLineFeed s t.stop.pointer := by
  rw [endsWithLineFeed, byteAt?, h.text, Text.byteAt?_eq, Bool.and_eq_true, decide_eq_true_eq,
    beq_iff_eq]
  constructor
  · rintro ⟨hpos, hbyte⟩
    exact ⟨t.stop.pointer - 1, by omega, hbyte⟩
  · rintro ⟨m, hm, hbyte⟩
    rw [hm, Nat.add_sub_cancel]
    exact ⟨Nat.succ_pos m, hbyte⟩

end YamlStyle
