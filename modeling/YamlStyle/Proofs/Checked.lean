/-
# Checked operations

Numbers here have no greatest one, subtraction stops at zero, and looking past an
end gives nothing.  On a machine these are faults: a sum that no word holds, a
difference below zero, an index past the end, a cut inside a character.  The
operations below work on the same numbers, lists and texts and give a fault where a
machine does; each has one lemma that says when it gives the plain result.

Offsets into a text are offsets into its UTF-8 form (`Text.bytes`).  A byte below
128 stands for a character of its own and is part of no other
(`Text.eq_of_toUInt8_mem`), so whatever is found by looking for such bytes, forwards
or backwards, is found between characters (`Text.isPrefixOf_bytes`,
`Text.lastByte_eq_iff`, `Checked.retreat_bytes`).
-/

import Mathlib.Tactic.ByContra
import Mathlib.Tactic.SplitIfs
import YamlStyle.Proofs.Lines

namespace YamlStyle

/-! ### Faults -/

/-- What a machine cannot do. -/
inductive Fault where
  /-- A sum that no word holds. -/
  | overflow
  /-- A difference below zero. -/
  | underflow
  /-- An index or a range past the end. -/
  | index
  /-- A cut inside a character or past the end. -/
  | boundary
  deriving DecidableEq, Repr

/-- What a machine computes, or the fault at which it stops. -/
abbrev Checked := Except Fault

namespace Checked

/-- A result is passed on. -/
@[simp] theorem ok_bind {α β : Type} (a : α) (f : α → Checked β) : (Except.ok a >>= f) = f a := rfl

/-- A result is mapped. -/
@[simp] theorem map_ok {α β : Type} (f : α → β) (a : α) : (f <$> (Except.ok a : Checked α)) = .ok (f a) :=
  rfl

/-- A result is given back. -/
@[simp] theorem pure_eq_ok {α : Type} (a : α) : (pure a : Checked α) = .ok a := rfl

/-- What comes out of two steps comes out of the second one, after the first. -/
theorem bind_eq_ok {α β : Type} {x : Checked α} {f : α → Checked β} {b : β}
    (h : x >>= f = .ok b) : ∃ a, x = .ok a ∧ f a = .ok b := by
  cases x with
  | error fault => cases h
  | ok a => exact ⟨a, rfl, h⟩

/-- One more than the greatest number that a word holds. -/
def wordSize : Nat := 18446744073709551616

/-- A sum. -/
def add (a b : Nat) : Checked Nat := if a + b < wordSize then .ok (a + b) else .error .overflow

/-- A difference. -/
def sub (a b : Nat) : Checked Nat := if b ≤ a then .ok (a - b) else .error .underflow

/-- The element at an index. -/
def item {α : Type} (l : List α) (i : Nat) : Checked α :=
  match l[i]? with
  | some a => .ok a
  | none => .error .index

/-- The elements between two indices. -/
def range {α : Type} (l : List α) (start stop : Nat) : Checked (List α) :=
  if start ≤ stop ∧ stop ≤ l.length then .ok ((l.take stop).drop start) else .error .index

/-- The text between two offsets. -/
def slice (s : List Char) (start stop : Nat) : Checked (List Char) :=
  match Text.slice? s start stop with
  | some t => .ok t
  | none => .error .boundary

/-- A sum that fits a word is the sum. -/
theorem add_eq_ok {a b : Nat} (h : a + b < wordSize) : add a b = .ok (a + b) := if_pos h

/-- A difference that is not negative is the difference. -/
theorem sub_eq_ok {a b : Nat} (h : b ≤ a) : sub a b = .ok (a - b) := if_pos h

/-- If a sum is given, it is the sum. -/
theorem eq_of_add {a b sum : Nat} (h : add a b = .ok sum) : sum = a + b := by
  unfold add at h
  split_ifs at h
  exact (Except.ok.inj h).symm

/-- If a difference is given, it is not negative. -/
theorem eq_of_sub {a b d : Nat} (h : sub a b = .ok d) : b ≤ a ∧ d = a - b := by
  unfold sub at h
  split_ifs at h with hle
  exact ⟨hle, (Except.ok.inj h).symm⟩

/-- An item that is there is given. -/
theorem item_eq_ok {α : Type} {l : List α} {i : Nat} {a : α} (h : l[i]? = some a) :
    item l i = .ok a := by
  simp [item, h]

/-- A cut that is possible is made. -/
theorem slice_eq_ok {s t : List Char} {start stop : Nat} (h : Text.slice? s start stop = some t) :
    slice s start stop = .ok t := by
  simp [slice, h]

/-- A range inside the list is cut out. -/
theorem range_eq_ok {α : Type} {l : List α} {start stop : Nat} (h : start ≤ stop)
    (hstop : stop ≤ l.length) : range l start stop = .ok ((l.take stop).drop start) :=
  if_pos ⟨h, hstop⟩

/-- If a range is given, it is what lies between its ends. -/
theorem eq_of_range {α : Type} {l part : List α} {start stop : Nat}
    (h : range l start stop = .ok part) : part = (l.take stop).drop start := by
  unfold range at h
  split_ifs at h
  exact (Except.ok.inj h).symm

/-- The middle part of a list is the range over it. -/
theorem range_append {α : Type} (front middle back : List α) :
    range (front ++ middle ++ back) front.length (front.length + middle.length) = .ok middle := by
  rw [range_eq_ok (Nat.le_add_right _ _) (by simp), ← List.length_append, List.take_left,
    List.drop_left]

end Checked

/-! ### Bytes -/

namespace Text

/-- The UTF-8 form of a text. -/
def bytes (s : List Char) : List UInt8 := s.flatMap String.utf8EncodeChar

/-- The empty text has no bytes. -/
@[simp] theorem bytes_nil : bytes [] = [] := rfl

/-- The bytes of a text are those of its characters in turn. -/
theorem bytes_cons (c : Char) (s : List Char) : bytes (c :: s) = String.utf8EncodeChar c ++ bytes s :=
  rfl

/-- Texts that are put together have the bytes of both. -/
@[simp] theorem bytes_append (s t : List Char) : bytes (s ++ t) = bytes s ++ bytes t :=
  List.flatMap_append

/-- A text has as many bytes as its length in bytes says. -/
@[simp] theorem length_bytes (s : List Char) : (bytes s).length = byteLength s := by
  induction s with
  | nil => rfl
  | cons c s ih => rw [bytes_cons, List.length_append, String.length_utf8EncodeChar, ih, byteLength_cons]

/-- Only the empty text has no bytes. -/
theorem byteLength_eq_zero_iff {s : List Char} : byteLength s = 0 ↔ s = [] := by
  cases s with
  | nil => simp
  | cons c s =>
    have hpos : 0 < c.utf8Size := c.utf8Size_pos
    simp only [byteLength_cons, reduceCtorEq, iff_false]
    omega

/-- Every character takes at least one byte. -/
theorem length_le_byteLength (s : List Char) : s.length ≤ byteLength s := by
  induction s with
  | nil => simp
  | cons c s ih =>
    have hpos : 0 < c.utf8Size := c.utf8Size_pos
    rw [List.length_cons, byteLength_cons]
    omega

/-- A character that takes up one byte is that byte. -/
theorem utf8EncodeChar_ascii {c : Char} (h : c.utf8Size = 1) :
    String.utf8EncodeChar c = [c.toUInt8] :=
  String.utf8EncodeChar_eq_singleton h

/-- The bytes of a longer character are all 128 or more. -/
theorem utf8Size_of_mem {b : UInt8} {c : Char} (h : b ∈ String.utf8EncodeChar c)
    (hb : b.toNat < 128) : c.utf8Size = 1 := by
  rw [Char.utf8Size_eq_one_iff, UInt32.le_iff_toNat_le]
  by_contra hlong
  change ¬ c.val.toNat ≤ 127 at hlong
  simp only [String.utf8EncodeChar, if_neg hlong] at h
  split_ifs at h <;> simp only [List.mem_cons, List.not_mem_nil, or_false] at h <;>
    rcases h with rfl | rfl | rfl | rfl <;> simp only [UInt8.toNat_ofNat'] at hb <;> omega

/-- The byte of an ASCII character is its code point. -/
theorem toNat_toUInt8 {c : Char} (h : c.utf8Size = 1) : c.toUInt8.toNat = c.toNat ∧ c.toNat < 128 := by
  rw [Char.utf8Size_eq_one_iff, UInt32.le_iff_toNat_le] at h
  have hlt : c.toNat < 128 := Nat.lt_succ_of_le h
  refine ⟨?_, hlt⟩
  change c.toNat % 256 = c.toNat
  omega

/-- **A byte below 128 belongs to one character only.** -/
theorem eq_of_toUInt8_mem {a c : Char} (ha : a.utf8Size = 1)
    (h : a.toUInt8 ∈ String.utf8EncodeChar c) : c = a := by
  obtain ⟨hbyte, hlt⟩ := toNat_toUInt8 ha
  have hc := utf8Size_of_mem h (by omega)
  rw [utf8EncodeChar_ascii hc, List.mem_singleton] at h
  obtain ⟨hbyte', -⟩ := toNat_toUInt8 hc
  have heq : c.toNat = a.toNat := by rw [← hbyte', ← hbyte, h]
  rw [← Char.ofNat_toNat c, heq, Char.ofNat_toNat]

/-- A byte of ASCII comes from its own character only. -/
theorem toUInt8_not_mem_bytes {a : Char} (ha : a.utf8Size = 1) {s : List Char} (h : a ∉ s) :
    a.toUInt8 ∉ bytes s := by
  intro hmem
  obtain ⟨c, hc, hbyte⟩ := List.mem_flatMap.1 hmem
  exact h (eq_of_toUInt8_mem ha hbyte ▸ hc)

/-- Every character has bytes. -/
theorem utf8EncodeChar_ne_nil (c : Char) : String.utf8EncodeChar c ≠ [] := by
  rw [← List.length_pos_iff, String.length_utf8EncodeChar]
  exact c.utf8Size_pos

/-- The last byte of a character. -/
def lastByte (c : Char) : UInt8 := (String.utf8EncodeChar c).getLast (utf8EncodeChar_ne_nil c)

/-- An ASCII character is its own last byte. -/
theorem lastByte_ascii {c : Char} (h : c.utf8Size = 1) : lastByte c = c.toUInt8 := by
  simp [lastByte, utf8EncodeChar_ascii h]

/-- The last byte of a character tells if it is a given ASCII character. -/
theorem lastByte_eq_iff {a : Char} (ha : a.utf8Size = 1) {c : Char} :
    lastByte c = a.toUInt8 ↔ c = a := by
  refine ⟨fun h => eq_of_toUInt8_mem ha (h ▸ List.getLast_mem _), ?_⟩
  rintro rfl
  exact lastByte_ascii ha

/-- ASCII characters differ in their bytes. -/
theorem toUInt8_eq_iff {a c : Char} (ha : a.utf8Size = 1) (hc : c.utf8Size = 1) :
    c.toUInt8 = a.toUInt8 ↔ c = a := by
  rw [← lastByte_ascii hc, lastByte_eq_iff ha]

/-- A text ends with the last byte of its last character. -/
theorem exists_bytes_concat (s : List Char) (c : Char) :
    ∃ front, bytes (s ++ [c]) = front ++ [lastByte c] ∧ front.length + 1 = byteLength (s ++ [c]) := by
  have hbytes : bytes (s ++ [c]) =
      bytes s ++ (String.utf8EncodeChar c).dropLast ++ [lastByte c] := by
    rw [List.append_assoc, lastByte, List.dropLast_concat_getLast, bytes_append, bytes_cons,
      bytes_nil, List.append_nil]
  refine ⟨_, hbytes, ?_⟩
  rw [← length_bytes, hbytes]
  simp [Nat.add_assoc]

/-- The byte right before the end of a character is its last one. -/
theorem getElem?_lastByte (front : List Char) (c : Char) (back : List Char) :
    (bytes (front ++ [c] ++ back))[byteLength (front ++ [c]) - 1]? = some (lastByte c) := by
  obtain ⟨pre, hbytes, hlen⟩ := exists_bytes_concat front c
  rw [← hlen, Nat.add_sub_cancel, bytes_append, hbytes, List.append_assoc,
    List.getElem?_append_right (Nat.le_refl _)]
  simp

/-- A text that ends with a byte below 128 ends with its character. -/
theorem eq_concat_of_bytes {a : Char} (ha : a.utf8Size = 1) {s : List Char} {front : List UInt8}
    (h : bytes s = front ++ [a.toUInt8]) : ∃ t, s = t ++ [a] ∧ bytes t = front := by
  cases hlast : s.getLast? with
  | none =>
    rw [List.getLast?_eq_none_iff.1 hlast] at h
    simp at h
  | some c =>
    obtain ⟨t, rfl⟩ := List.getLast?_eq_some_iff.1 hlast
    obtain ⟨front', hbytes, -⟩ := exists_bytes_concat t c
    have hbyte : lastByte c = a.toUInt8 := by
      have hboth := hbytes.symm.trans h
      simpa using (List.append_inj' hboth rfl).2
    obtain rfl := (lastByte_eq_iff ha).1 hbyte
    have hsplit : bytes t ++ [c.toUInt8] = front ++ [c.toUInt8] := by
      rw [← h, bytes_append, bytes_cons, utf8EncodeChar_ascii ha, bytes_nil, List.append_nil]
    exact ⟨t, rfl, List.append_cancel_right hsplit⟩

/-- Every character of a text is one byte. -/
def isAscii (s : List Char) : Bool := s.all (·.utf8Size = 1)

/-- A text is ASCII if all its characters take one byte. -/
theorem isAscii_cons {c : Char} {s : List Char} :
    isAscii (c :: s) = true ↔ c.utf8Size = 1 ∧ isAscii s = true := by
  simp [isAscii]

/-- A pattern of one-byte characters is found at the beginning of a text or of its
bytes. -/
theorem isPrefixOf_bytes {pattern : List Char} (h : isAscii pattern = true) (s : List Char) :
    (bytes pattern).isPrefixOf (bytes s) = startsWith s pattern := by
  induction pattern generalizing s with
  | nil => cases s <;> rfl
  | cons a pattern ih =>
    rw [isAscii_cons] at h
    rw [bytes_cons, utf8EncodeChar_ascii h.1, List.singleton_append]
    cases s with
    | nil => rfl
    | cons c s =>
      rw [startsWith, ← ih h.2]
      by_cases hc : c = a
      · rw [hc, bytes_cons, utf8EncodeChar_ascii h.1, List.singleton_append]
        simp
      · -- the byte does not occur in another character, so not at its beginning either
        cases hbytes : String.utf8EncodeChar c with
        | nil => exact absurd hbytes (utf8EncodeChar_ne_nil c)
        | cons b rest =>
          have hne : a.toUInt8 ≠ b := by
            rintro rfl
            exact hc (eq_of_toUInt8_mem h.1 (hbytes ▸ List.mem_cons_self ..))
          rw [bytes_cons, hbytes, List.cons_append, List.isPrefixOf_cons_cons]
          simp [hc, hne]

/-- A text is a pattern of one-byte characters if its bytes are. -/
theorem bytes_eq_iff {pattern : List Char} (h : isAscii pattern = true) {s : List Char} :
    bytes s = bytes pattern ↔ s = pattern := by
  refine ⟨fun heq => ?_, fun heq => heq ▸ rfl⟩
  induction pattern generalizing s with
  | nil =>
    cases s with
    | nil => rfl
    | cons c s => exact absurd (List.append_eq_nil_iff.1 heq).1 (utf8EncodeChar_ne_nil c)
  | cons a pattern ih =>
    rw [isAscii_cons] at h
    rw [bytes_cons a, utf8EncodeChar_ascii h.1, List.singleton_append] at heq
    cases s with
    | nil => cases heq
    | cons c s =>
      have hmem : a.toUInt8 ∈ String.utf8EncodeChar c := by
        cases hbytes : String.utf8EncodeChar c with
        | nil => exact absurd hbytes (utf8EncodeChar_ne_nil c)
        | cons b rest =>
          rw [bytes_cons, hbytes] at heq
          rw [← (List.cons.inj heq).1]
          exact List.mem_cons_self ..
      obtain rfl := eq_of_toUInt8_mem h.1 hmem
      rw [bytes_cons, utf8EncodeChar_ascii h.1, List.singleton_append] at heq
      rw [ih h.2 (List.cons.inj heq).2]

end Text

/-! ### Ranges of bytes -/

namespace Checked

open Text

/-- The bytes of a part of a text are a range of its bytes. -/
theorem range_bytes (front middle back : List Char) :
    range (bytes (front ++ middle ++ back)) (byteLength front)
      (byteLength front + byteLength middle) = .ok (bytes middle) := by
  simpa using range_append (bytes front) (bytes middle) (bytes back)

/-- The byte right before an offset. -/
theorem range_lastByte (front : List Char) (c : Char) (back : List Char) :
    range (bytes (front ++ [c] ++ back)) (byteLength (front ++ [c]) - 1) (byteLength (front ++ [c])) =
      .ok [lastByte c] := by
  obtain ⟨pre, hbytes, hlen⟩ := exists_bytes_concat front c
  have hrange := range_append pre [lastByte c] (bytes back)
  rw [← hbytes, ← bytes_append, List.length_singleton, hlen] at hrange
  rwa [← hlen, Nat.add_sub_cancel, hlen]

/-- The byte before an offset is the last one of the character that stops there. -/
theorem item_lastByte (front : List Char) (c : Char) (back : List Char) :
    item (bytes (front ++ [c] ++ back)) (byteLength (front ++ [c]) - 1) = .ok (lastByte c) :=
  item_eq_ok (getElem?_lastByte front c back)

/-- The byte right after an offset. -/
theorem item_ascii {c : Char} (h : c.utf8Size = 1) (front back : List Char) :
    item (bytes (front ++ c :: back)) (byteLength front) = .ok c.toUInt8 := by
  refine item_eq_ok ?_
  rw [bytes_append, bytes_cons, utf8EncodeChar_ascii h, ← length_bytes,
    List.getElem?_append_right (Nat.le_refl _)]
  simp

/-! ### Stepping back -/

/-- Steps back from an offset by a width, over bytes that are accepted and not past
a floor.  Gives the number of steps and where they lead. -/
def retreat (bs : List UInt8) (floor width : Nat) (accepts : List UInt8 → Bool) (count pos : Nat)
    (hwidth : 0 < width := by decide) : Checked (Nat × Nat) :=
  if floor + width ≤ pos then
    match _ : sub pos width with
    | .error fault => .error fault
    | .ok before => do
      let step ← range bs before pos
      if accepts step then
        let count ← add count 1
        retreat bs floor width accepts count before hwidth
      else return (count, pos)
  else return (count, pos)
termination_by pos
decreasing_by
  obtain ⟨hle, rfl⟩ := eq_of_sub ‹sub pos width = .ok before›
  omega

section Retreat

variable {bs step : List UInt8} {floor width : Nat} {hwidth : 0 < width}
  {accepts : List UInt8 → Bool} {count pos : Nat}

/-- Going back stops at the floor. -/
theorem retreat_floor (h : pos < floor + width) :
    retreat bs floor width accepts count pos hwidth = .ok (count, pos) := by
  rw [retreat, if_neg (Nat.not_le.2 h)]
  rfl

/-- Above the floor, the bytes before the offset decide. -/
theorem retreat_above (hpos : floor + width ≤ pos) (hstep : range bs (pos - width) pos = .ok step) :
    retreat bs floor width accepts count pos hwidth =
      if accepts step then
        add count 1 >>= fun count => retreat bs floor width accepts count (pos - width) hwidth
      else .ok (count, pos) := by
  have hsub : sub pos width = .ok (pos - width) := sub_eq_ok (by omega)
  rw [retreat, if_pos hpos]
  split
  next fault h => cases hsub.symm.trans h
  next before h =>
    obtain rfl : before = pos - width := Except.ok.inj (h.symm.trans hsub)
    rw [hstep, ok_bind]
    rfl

/-- Going back stops at a step that is not accepted. -/
theorem retreat_stop (hpos : floor + width ≤ pos) (hstep : range bs (pos - width) pos = .ok step)
    (h : accepts step = false) :
    retreat bs floor width accepts count pos hwidth = .ok (count, pos) := by
  rw [retreat_above hpos hstep, if_neg (Bool.eq_false_iff.1 h)]

/-- Going back takes a step that is accepted, and counts it. -/
theorem retreat_step (hpos : floor + width ≤ pos) (hstep : range bs (pos - width) pos = .ok step)
    (h : accepts step = true) (hcount : count + 1 < wordSize) :
    retreat bs floor width accepts count pos hwidth =
      retreat bs floor width accepts (count + 1) (pos - width) hwidth := by
  rw [retreat_above hpos hstep, if_pos h, add_eq_ok hcount, ok_bind]

end Retreat

/-- **Stepping back by one byte is stepping back by characters.**  It goes over the
characters, nearest first, as long as their last byte is accepted. -/
theorem retreat_bytes (accepts : List UInt8 → Bool) (p : Char → Bool)
    (haccepts : ∀ c, accepts [lastByte c] = p c) (hp : ∀ c, p c = true → c.utf8Size = 1)
    (base near back : List Char) (count : Nat) (hcount : count + near.length < wordSize) :
    retreat (bytes (base ++ near.reverse ++ back)) (byteLength base) 1 accepts count
        (byteLength base + byteLength near) =
      .ok (count + (near.takeWhile p).length, byteLength base + byteLength (near.dropWhile p)) := by
  induction near generalizing back count with
  | nil => exact retreat_floor (by simp)
  | cons c near ih =>
    have hpos : 0 < c.utf8Size := c.utf8Size_pos
    have hend : byteLength base + byteLength (c :: near) = byteLength (base ++ near.reverse ++ [c]) := by
      simp
      omega
    have htext : base ++ (c :: near).reverse ++ back = base ++ near.reverse ++ [c] ++ back := by
      simp
    have hfloor : byteLength base + 1 ≤ byteLength base + byteLength (c :: near) := by
      rw [byteLength_cons]
      omega
    have hstep : range (bytes (base ++ (c :: near).reverse ++ back))
        (byteLength base + byteLength (c :: near) - 1) (byteLength base + byteLength (c :: near)) =
        .ok [lastByte c] := by
      rw [htext, hend]
      exact range_lastByte _ c back
    cases hc : p c with
    | false =>
      rw [retreat_stop hfloor hstep ((haccepts c).trans hc), List.takeWhile_cons, List.dropWhile_cons]
      simp [hc]
    | true =>
      rw [List.length_cons] at hcount
      have hbefore : byteLength base + byteLength (c :: near) - 1 = byteLength base + byteLength near := by
        rw [byteLength_cons, hp c hc]
        omega
      rw [retreat_step hfloor hstep ((haccepts c).trans hc) (by omega), hbefore, htext,
        List.append_assoc, ih ([c] ++ back) (count + 1) (by omega), List.takeWhile_cons,
        List.dropWhile_cons]
      simp [hc]
      omega

end Checked
end YamlStyle
