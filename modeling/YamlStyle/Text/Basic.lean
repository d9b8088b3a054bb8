/-
# Texts and their byte offsets

A text is a list of characters.  Offsets into it count the bytes of its UTF-8
form, so a character takes up one to four of them, and an offset may fall
inside a character.  Nothing here cuts bytes: an offset is turned into a
prefix of characters by adding up their sizes, so every answer is a text
again.
-/

namespace YamlStyle
namespace Text

/-- The number of bytes a text takes up. -/
def byteLength : List Char → Nat
  | [] => 0
  | c :: s => c.utf8Size + byteLength s

/-- The empty text has no bytes. -/
@[simp] theorem byteLength_nil : byteLength [] = 0 := rfl

/-- A character takes its bytes. -/
@[simp] theorem byteLength_cons (c : Char) (s : List Char) :
    byteLength (c :: s) = c.utf8Size + byteLength s := rfl

/-- Lengths in bytes add up. -/
@[simp] theorem byteLength_append (s t : List Char) :
    byteLength (s ++ t) = byteLength s + byteLength t := by
  induction s with
  | nil => simp
  | cons c s ih => simp [ih, Nat.add_assoc]

/-- The order of characters does not matter. -/
@[simp] theorem byteLength_reverse (s : List Char) : byteLength s.reverse = byteLength s := by
  induction s with
  | nil => rfl
  | cons c s ih => simp [ih, Nat.add_comm]

/-- The byte at an offset, none past the end. -/
def byteAt? : List Char → Nat → Option UInt8
  | [], _ => none
  | c :: s, n =>
    if n < c.utf8Size then (String.utf8EncodeChar c)[n]? else byteAt? s (n - c.utf8Size)

/-- The text before and after an offset, if the offset lies between two
characters or at an end. -/
def splitAt? : Nat → List Char → Option (List Char × List Char)
  | 0, s => some ([], s)
  | _ + 1, [] => none
  | n + 1, c :: s =>
    if c.utf8Size ≤ n + 1 then
      (splitAt? (n + 1 - c.utf8Size) s).map fun (front, back) => (c :: front, back)
    else none

/-- The text between two offsets, if they are in order and both lie between
characters. -/
def slice? (s : List Char) (start stop : Nat) : Option (List Char) :=
  if start ≤ stop then do
    let (_, tail) ← splitAt? start s
    let (middle, _) ← splitAt? (stop - start) tail
    return middle
  else none

/-- Whether a text begins with the given characters. -/
def startsWith : List Char → List Char → Bool
  | _, [] => true
  | [], _ :: _ => false
  | c :: s, p :: ps => c = p && startsWith s ps

end Text
end YamlStyle
