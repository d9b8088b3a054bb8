/-
# Texts as contents with terminators

A text is the same thing as a list of contents, each with the terminator after it,
and a last content without one.  So that there is one way only to read a text like
this, no content holds a line feed, and none that ends in a carriage return stands
before a bare line feed (`Terminated.Proper`).  Then every text can be read
(`Terminated.exists_joined`), and it has one line feed for every terminator
(`Terminated.count_joined`).

Offsets into a text count bytes.  Adding up the characters of a prefix gives an
offset at which the text can be cut again (`Text.slice?_append`).
-/

import YamlStyle.Diagnostic
import YamlStyle.Text.Basic

namespace YamlStyle

/-! ### Offsets between characters -/

namespace Text

/-- An offset lies between two characters of a text or at an end. -/
def IsBoundary (s : List Char) (offset : Nat) : Prop :=
  ∃ front back, s = front ++ back ∧ byteLength front = offset

/-- A text can be split after any part of it. -/
theorem splitAt?_append (front back : List Char) :
    splitAt? (byteLength front) (front ++ back) = some (front, back) := by
  induction front with
  | nil => simp [splitAt?]
  | cons c front ih =>
    have hpos : 0 < c.utf8Size := c.utf8Size_pos
    obtain ⟨n, hn⟩ : ∃ n, c.utf8Size + byteLength front = n + 1 :=
      ⟨c.utf8Size + byteLength front - 1, by omega⟩
    have hrest : n + 1 - c.utf8Size = byteLength front := by omega
    rw [byteLength_cons, hn, List.cons_append, splitAt?, if_pos (by omega), hrest, ih]
    rfl

/-- A part of a text lies between the ends of that part. -/
theorem slice?_append (front middle back : List Char) :
    slice? (front ++ middle ++ back) (byteLength front) (byteLength front + byteLength middle) =
      some middle := by
  have hsub : byteLength front + byteLength middle - byteLength front = byteLength middle := by omega
  rw [slice?, if_pos (Nat.le_add_right _ _), List.append_assoc, splitAt?_append, hsub]
  simp [splitAt?_append]

end Text

/-! ### Contents with terminators -/

/-- The terminator that a text begins with. -/
def Terminator.read? : List Char → Option Terminator
  | '\n' :: _ => some .lineFeed
  | '\r' :: '\n' :: _ => some .carriageReturnLineFeed
  | _ => none

/-- A terminator is read from its own characters. -/
theorem Terminator.read?_chars_append (t : Terminator) (s : List Char) :
    read? (t.chars ++ s) = some t := by
  cases t <;> rfl

/-- A content with the terminator after it. -/
structure Terminated where
  content : List Char
  terminator : Terminator
  deriving DecidableEq, Repr

/-- The content and its terminator as a text. -/
def Terminated.chars (e : Terminated) : List Char := e.content ++ e.terminator.chars

/-- The terminator is the first one to be found and cannot be read otherwise. -/
structure Terminated.Proper (e : Terminated) : Prop where
  lineFeed_not_mem : '\n' ∉ e.content
  not_return : e.terminator = .lineFeed → e.content.getLast? ≠ some '\r'

instance (e : Terminated) : Decidable e.Proper :=
  decidable_of_iff
    ('\n' ∉ e.content ∧ (e.terminator = .lineFeed → e.content.getLast? ≠ some '\r'))
    ⟨fun h => ⟨h.1, h.2⟩, fun h => ⟨h.lineFeed_not_mem, h.not_return⟩⟩

/-- Contents with their terminators, and a last content, as one text. -/
def Terminated.joined (pairs : List Terminated) (last : List Char) : List Char :=
  pairs.flatMap chars ++ last

/-- A pair stands before the rest with its content and its terminator. -/
theorem Terminated.joined_cons (e : Terminated) (pairs : List Terminated) (last : List Char) :
    joined (e :: pairs) last = e.content ++ (e.terminator.chars ++ joined pairs last) := by
  simp [joined, chars]

/-- A character that is no line feed goes to the first content, unless it makes a
line feed into a longer terminator. -/
theorem Terminated.Proper.cons {e : Terminated} (h : e.Proper) {c : Char} (hc : c ≠ '\n')
    (hne : ¬ (c = '\r' ∧ e.content = [] ∧ e.terminator = .lineFeed)) :
    Proper ⟨c :: e.content, e.terminator⟩ := by
  refine ⟨?_, fun ht => ?_⟩
  · rw [List.mem_cons]
    rintro (hnl | hnl)
    · exact hc hnl.symm
    · exact h.lineFeed_not_mem hnl
  · cases hcontent : e.content with
    | nil =>
      intro hlast
      exact hne ⟨by simpa using hlast, hcontent, ht⟩
    | cons x rest =>
      have := h.not_return ht
      rw [hcontent] at this
      rwa [List.getLast?_cons_cons]

/-- **Every text is made of contents and terminators.** -/
theorem Terminated.exists_joined (s : List Char) :
    ∃ pairs last, (∀ e ∈ pairs, e.Proper) ∧ '\n' ∉ last ∧ joined pairs last = s := by
  induction s with
  | nil => exact ⟨[], [], by simp, by simp, rfl⟩
  | cons c s ih =>
    obtain ⟨pairs, last, hpairs, hlast, rfl⟩ := ih
    by_cases hc : c = '\n'
    · refine ⟨⟨[], .lineFeed⟩ :: pairs, last, ?_, hlast, by rw [hc]; rfl⟩
      rw [List.forall_mem_cons]
      exact ⟨⟨by simp, by simp⟩, hpairs⟩
    · cases pairs with
      | nil =>
        refine ⟨[], c :: last, by simp, ?_, rfl⟩
        simpa [eq_comm] using ⟨hc, hlast⟩
      | cons e rest =>
        rw [List.forall_mem_cons] at hpairs
        -- a carriage return before a bare line feed is read as part of the terminator
        by_cases hreturn : c = '\r' ∧ e.content = [] ∧ e.terminator = .lineFeed
        · obtain ⟨hr, hcontent, hterm⟩ := hreturn
          refine ⟨⟨[], .carriageReturnLineFeed⟩ :: rest, last, ?_, hlast, ?_⟩
          · rw [List.forall_mem_cons]
            exact ⟨⟨by simp, by simp⟩, hpairs.2⟩
          · rw [joined_cons, joined_cons, hr, hcontent, hterm]
            rfl
        · refine ⟨⟨c :: e.content, e.terminator⟩ :: rest, last, ?_, hlast, ?_⟩
          · rw [List.forall_mem_cons]
            exact ⟨hpairs.1.cons hc hreturn, hpairs.2⟩
          · rw [joined_cons, joined_cons]
            rfl

/-- Every terminator holds one line feed, and nothing else holds any. -/
theorem Terminated.count_joined {pairs : List Terminated} {last : List Char}
    (hpairs : ∀ e ∈ pairs, e.Proper) (hlast : '\n' ∉ last) :
    (joined pairs last).count '\n' = pairs.length := by
  induction pairs with
  | nil => exact List.count_eq_zero.2 hlast
  | cons e pairs ih =>
    rw [List.forall_mem_cons] at hpairs
    have hcontent : e.content.count '\n' = 0 := List.count_eq_zero.2 hpairs.1.lineFeed_not_mem
    have hterm : e.terminator.chars.count '\n' = 1 := by cases e.terminator <;> rfl
    rw [joined_cons, List.count_append, List.count_append, ih hpairs.2, hcontent, hterm,
      List.length_cons]
    omega

end YamlStyle
