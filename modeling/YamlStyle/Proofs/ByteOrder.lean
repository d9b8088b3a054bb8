/-
# One order for code points and for bytes

Texts are ordered by the code points of their characters (`precedes_iff_lt`).  A
machine that holds them in UTF-8 compares bytes instead, and gets the same order:
the bytes of two different characters differ at a place where the lesser character
has the lesser byte (`utf8EncodeChar_append_lt`), so what follows them does not
matter, and texts are compared at their first difference either way
(`bytes_lt_bytes_iff`).
-/

import Mathlib.Data.String.Basic
import YamlStyle.Proofs.Checked
import YamlStyle.Text.Order

namespace YamlStyle
namespace Text

/-! ### Code points -/

/-- The comparison of characters is the lexicographic order of lists. -/
theorem precedes_iff_lt_list (s t : List Char) : precedes s t = true ↔ s < t := by
  induction s generalizing t with
  | nil =>
    cases t with
    | nil => simp [precedes]
    | cons d t => simp [precedes]
  | cons c s ih =>
    cases t with
    | nil => simp [precedes]
    | cons d t =>
      rw [precedes_cons_iff, List.cons_lt_cons_iff, ih]
      exact Iff.rfl

/-- The comparison of texts is the order of strings. -/
theorem precedes_iff_lt {a b : String} : precedes a.toList b.toList = true ↔ a < b := by
  rw [precedes_iff_lt_list, String.lt_iff_toList_lt]

/-! ### Bytes -/

/-- **The bytes of a lesser character come first**, whatever follows them. -/
theorem utf8EncodeChar_append_lt {c d : Char} (h : c < d) (x y : List UInt8) :
    String.utf8EncodeChar c ++ x < String.utf8EncodeChar d ++ y := by
  have hlt : c.val.toNat < d.val.toNat := h
  have hmax : d.val.toNat < 0x110000 := by
    have hvalid := d.valid
    simp only [UInt32.isValidChar, Nat.isValidChar] at hvalid
    omega
  -- the last two bytes decide only if all bits before them agree
  have hhigh : c.val.toNat / 4096 < d.val.toNat / 4096 ∨
      c.val.toNat / 4096 = d.val.toNat / 4096 := by
    omega
  -- one case for each pair of lengths; bytes are compared as the numbers they stand for
  simp only [String.utf8EncodeChar]
  rcases hhigh with hhigh | hhigh <;> split_ifs <;>
    simp only [List.cons_append, List.nil_append, List.cons_lt_cons_iff, UInt8.lt_iff_toNat_lt,
      ← UInt8.toNat_inj, UInt8.toNat_ofNat'] <;>
    omega

/-- Bytes are in the order of the characters that they encode. -/
theorem bytes_lt_bytes {s t : List Char} (h : s < t) : bytes s < bytes t := by
  induction s generalizing t with
  | nil =>
    cases t with
    | nil => exact absurd h (lt_irrefl _)
    | cons d t =>
      obtain ⟨b, rest, hbytes⟩ := List.exists_cons_of_ne_nil (utf8EncodeChar_ne_nil d)
      rw [bytes_cons, hbytes]
      exact List.nil_lt_cons _ _
  | cons c s ih =>
    cases t with
    | nil => exact absurd h (List.not_lt_nil _)
    | cons d t =>
      rw [bytes_cons, bytes_cons]
      rcases List.cons_lt_cons_iff.1 h with hlt | ⟨rfl, hlt⟩
      · exact utf8EncodeChar_append_lt hlt _ _
      · exact List.append_left_lt (ih hlt)

/-- **Texts are in the order of their bytes.** -/
theorem bytes_lt_bytes_iff {a b : String} : bytes a.toList < bytes b.toList ↔ a < b := by
  rw [String.lt_iff_toList_lt]
  refine ⟨fun h => ?_, bytes_lt_bytes⟩
  rcases lt_trichotomy a.toList b.toList with hlt | heq | hgt
  · exact hlt
  · rw [heq] at h
    exact absurd h (List.lt_irrefl _)
  · exact absurd (bytes_lt_bytes hgt) (List.lt_asymm h)

end Text
end YamlStyle
