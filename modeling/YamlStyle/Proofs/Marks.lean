/-
# Marks and lines

The mark of an offset counts the characters that begin before the offset
(`Text.begun`), one of which the offset may cut.  A line break moves on to the next
line, any other character to the next column, so every further character leads to
a later place (`Text.lt_placeAfter`), and places are ordered as offsets are
(`Mark.place_atOffset_le`).

Lines are found in another way, by cutting the text at its terminators.  The last
line that starts at or before an offset (`Line.at?`) is the line of the mark there:
what begins before the offset is the text behind that line, which ends with a line
break, and characters of the line after it, which hold none
(`Line.exists_at?_laid`).  An offset between the two characters of a terminator
still belongs to the line before.
-/

import Mathlib.Data.Prod.Lex
import YamlStyle.Mark
import YamlStyle.Proofs.Lines

namespace YamlStyle
namespace Text

/-! ### Characters before an offset -/

/-- The characters of a text that begin before an offset. -/
def begun : Nat → List Char → List Char
  | 0, _ => []
  | _ + 1, [] => []
  | n + 1, c :: s => c :: begun (n + 1 - c.utf8Size) s

/-- The offsets at which the characters of a text begin, from an offset on. -/
def starts (offset : Nat) : List Char → List Nat
  | [] => []
  | c :: s => offset :: starts (offset + c.utf8Size) s

/-- Nothing begins before the start. -/
@[simp] theorem begun_zero (s : List Char) : begun 0 s = [] := by
  cases s <;> rfl

/-- Nothing begins in the empty text. -/
@[simp] theorem begun_nil (n : Nat) : begun n [] = [] := by
  cases n <;> rfl

/-- Before a later offset the first character begins. -/
theorem begun_cons {n : Nat} (h : 0 < n) (c : Char) (s : List Char) :
    begun n (c :: s) = c :: begun (n - c.utf8Size) s := by
  obtain ⟨k, rfl⟩ : ∃ k, n = k + 1 := ⟨n - 1, by omega⟩
  rfl

/-- Everything before the offset that follows a text has begun. -/
theorem begun_append (u v : List Char) (n : Nat) :
    begun (byteLength u + n) (u ++ v) = u ++ begun n v := by
  induction u with
  | nil => simp
  | cons c u ih =>
    have hpos : 0 < c.utf8Size := c.utf8Size_pos
    have hrest : c.utf8Size + byteLength u + n - c.utf8Size = byteLength u + n := by omega
    rw [byteLength_cons, List.cons_append, begun_cons (by omega), hrest, ih, List.cons_append]

/-- Nothing after a text begins before an offset inside it. -/
theorem begun_append_of_le {u : List Char} {n : Nat} (h : n ≤ byteLength u) (v : List Char) :
    begun n (u ++ v) = begun n u := by
  induction u generalizing n with
  | nil =>
    obtain rfl : n = 0 := Nat.le_zero.1 h
    simp
  | cons c u ih =>
    rcases Nat.eq_zero_or_pos n with rfl | hn
    · simp
    · rw [byteLength_cons] at h
      rw [List.cons_append, begun_cons hn, begun_cons hn, ih (by omega)]

/-- Before the end of a part of the text that part begins. -/
theorem begun_byteLength (u v : List Char) : begun (byteLength u) (u ++ v) = u := by
  simpa using begun_append u v 0

/-- Before an offset past the end the whole text begins. -/
theorem begun_of_byteLength_le {s : List Char} {n : Nat} (h : byteLength s ≤ n) :
    begun n s = s := by
  obtain ⟨k, rfl⟩ := Nat.exists_eq_add_of_le h
  simpa using begun_append s [] k

/-- Offsets past the end count as the end. -/
theorem begun_min (n : Nat) (s : List Char) : begun (min n (byteLength s)) s = begun n s := by
  rcases Nat.le_total n (byteLength s) with h | h
  · rw [Nat.min_eq_left h]
  · rw [Nat.min_eq_right h, begun_of_byteLength_le h, begun_of_byteLength_le (Nat.le_refl _)]

/-- What begins before an offset begins before a greater one. -/
theorem begun_mono {m n : Nat} (h : m ≤ n) (s : List Char) : begun m s <+: begun n s := by
  induction s generalizing m n with
  | nil => simp
  | cons c s ih =>
    rcases Nat.eq_zero_or_pos m with rfl | hm
    · simp
    · rw [begun_cons hm, begun_cons (by omega)]
      exact List.cons_prefix_cons.2 ⟨rfl, ih (by omega)⟩

/-- What begins before an offset stands at the front of the text. -/
theorem begun_prefix (n : Nat) (s : List Char) : begun n s <+: s := by
  have h := begun_mono (Nat.le_max_left n (byteLength s)) s
  rwa [begun_of_byteLength_le (Nat.le_max_right n (byteLength s))] at h

/-- Characters begin at or after the offset of the text. -/
theorem le_of_mem_starts {k o : Nat} {s : List Char} (h : o ∈ starts k s) : k ≤ o := by
  induction s generalizing k with
  | nil => cases h
  | cons c s ih =>
    rcases List.mem_cons.1 h with rfl | h
    · exact Nat.le_refl _
    · have := ih h
      omega

/-- Every character begins somewhere. -/
@[simp] theorem length_starts (k : Nat) (s : List Char) : (starts k s).length = s.length := by
  induction s generalizing k with
  | nil => rfl
  | cons c s ih => rw [starts, List.length_cons, ih, List.length_cons]

/-- A character begins where those before it end. -/
theorem getElem?_starts {n : Nat} {s : List Char} (h : n < s.length) (k : Nat) :
    (starts k s)[n]? = some (k + byteLength (s.take n)) := by
  induction s generalizing k n with
  | nil => exact absurd h (Nat.not_lt_zero n)
  | cons c s ih =>
    cases n with
    | zero => rfl
    | succ n =>
      rw [starts, List.getElem?_cons_succ, ih (Nat.lt_of_succ_lt_succ h), List.take_succ_cons,
        byteLength_cons, Nat.add_assoc]

/-- Characters that begin before an offset, counted by their first bytes. -/
theorem countP_starts (k n : Nat) (s : List Char) :
    (starts k s).countP (· < k + n) = (begun n s).length := by
  induction s generalizing k n with
  | nil => simp [starts]
  | cons c s ih =>
    rcases Nat.eq_zero_or_pos n with rfl | hn
    · rw [begun_zero, List.length_nil, List.countP_eq_zero]
      intro o ho
      have := le_of_mem_starts ho
      simpa using this
    · rw [begun_cons hn, List.length_cons, ← ih (k + c.utf8Size), starts,
        List.countP_cons_of_pos (by simpa using hn)]
      congr 1
      -- past the character nothing starts before its end, so the cut-off does no harm
      refine List.countP_congr fun o ho => ?_
      have := le_of_mem_starts ho
      simp only [decide_eq_true_eq]
      omega

/-- Of the characters that begin before an offset, those that begin after a part of
the text. -/
theorem countP_starts_between {s u tail : List Char} {n : Nat} (h : begun n s = u ++ tail)
    (hle : byteLength u ≤ n) :
    (starts 0 s).countP (fun o => byteLength u ≤ o ∧ o < n) = tail.length := by
  obtain ⟨rest, hrest⟩ := begun_prefix n s
  have hu : begun (byteLength u) s = u := by
    rw [← hrest, h, List.append_assoc, begun_byteLength]
  have hall := countP_starts 0 n s
  have hfront := countP_starts 0 (byteLength u) s
  rw [Nat.zero_add, h, List.length_append] at hall
  rw [Nat.zero_add, hu] at hfront
  have hsplit : ∀ l : List Nat, l.countP (· < n) =
      l.countP (· < byteLength u) + l.countP (fun o => byteLength u ≤ o ∧ o < n) := by
    intro l
    induction l with
    | nil => rfl
    | cons o l ih =>
      simp only [List.countP_cons, ih, decide_eq_true_eq]
      split_ifs <;> omega
  have := hsplit (starts 0 s)
  omega

/-! ### Places -/

/-- The place after a character: the number of its line, then its column. -/
def nextPlace (p : ℕ ×ₗ ℕ) (c : Char) : ℕ ×ₗ ℕ :=
  if c = '\n' then toLex ((ofLex p).1 + 1, 0) else toLex ((ofLex p).1, (ofLex p).2 + 1)

/-- The place after a text. -/
def placeAfter (p : ℕ ×ₗ ℕ) (s : List Char) : ℕ ×ₗ ℕ := s.foldl nextPlace p

/-- The place after a text is found part by part. -/
theorem placeAfter_append (p : ℕ ×ₗ ℕ) (u v : List Char) :
    placeAfter p (u ++ v) = placeAfter (placeAfter p u) v :=
  List.foldl_append

/-- A character moves the place on. -/
theorem lt_nextPlace (p : ℕ ×ₗ ℕ) (c : Char) : p < nextPlace p c := by
  obtain ⟨line, column⟩ := p
  unfold nextPlace
  split_ifs
  · exact Prod.Lex.toLex_lt_toLex.2 (Or.inl (Nat.lt_succ_self line))
  · exact Prod.Lex.toLex_lt_toLex.2 (Or.inr ⟨rfl, Nat.lt_succ_self column⟩)

/-- **Every character leads to a later place.** -/
theorem lt_placeAfter (p : ℕ ×ₗ ℕ) {s : List Char} (h : s ≠ []) : p < placeAfter p s := by
  induction s generalizing p with
  | nil => exact absurd rfl h
  | cons c s ih =>
    have hstep := lt_nextPlace p c
    cases s with
    | nil => exact hstep
    | cons d s => exact hstep.trans (ih (nextPlace p c) (List.cons_ne_nil d s))

/-- Without a line break, characters are columns. -/
theorem placeAfter_of_not_mem {s : List Char} (h : '\n' ∉ s) (line column : Nat) :
    placeAfter (toLex (line, column)) s = toLex (line, column + s.length) := by
  induction s generalizing column with
  | nil => rfl
  | cons c s ih =>
    rw [List.mem_cons, not_or] at h
    have hstep : nextPlace (toLex (line, column)) c = toLex (line, column + 1) :=
      if_neg fun hc => h.1 hc.symm
    rw [placeAfter, List.foldl_cons, hstep, ← placeAfter, ih h.2, List.length_cons]
    congr 2
    omega

end Text

namespace Mark

/-- Line and column of a mark, ordered by line first. -/
def place (m : Mark) : ℕ ×ₗ ℕ := toLex (m.line, m.column)

/-- A mark moves on by the offset, but not past the end. -/
theorem pointer_forward (m : Mark) (n : Nat) (s : List Char) :
    (m.forward n s).pointer = m.pointer + min n (Text.byteLength s) := by
  induction s generalizing m n with
  | nil => cases n <;> simp [forward]
  | cons c s ih =>
    cases n with
    | zero => simp [forward]
    | succ n =>
      rw [forward, Text.byteLength_cons]
      split_ifs with hc
      · have hsize : c.utf8Size = 1 := by rw [hc]; rfl
        rw [ih]
        simp only
        omega
      · rw [ih]
        simp only
        omega

/-- A mark moves on over the characters that begin before the offset. -/
theorem place_forward (m : Mark) (n : Nat) (s : List Char) :
    (m.forward n s).place = Text.placeAfter m.place (Text.begun n s) := by
  induction s generalizing m n with
  | nil => cases n <;> rfl
  | cons c s ih =>
    cases n with
    | zero => rfl
    | succ n =>
      rw [forward, Text.begun, Text.placeAfter, List.foldl_cons, ← Text.placeAfter]
      split_ifs with hc
      · have hsize : n + 1 - c.utf8Size = n := by rw [hc]; rfl
        have hstep : Text.nextPlace m.place c = toLex (m.line + 1, 0) := if_pos hc
        rw [ih, hsize, hstep]
        rfl
      · have hstep : Text.nextPlace m.place c = toLex (m.line, m.column + 1) := if_neg hc
        rw [ih, hstep]
        rfl

/-- The mark of an offset has this offset, unless it is past the end. -/
theorem pointer_atOffset (s : List Char) (n : Nat) :
    (atOffset s n).pointer = min n (Text.byteLength s) := by
  rw [atOffset, pointer_forward, origin, Nat.zero_add]

/-- The mark of an offset is at the place after what begins before it. -/
theorem place_atOffset (s : List Char) (n : Nat) :
    (atOffset s n).place = Text.placeAfter (toLex (0, 0)) (Text.begun n s) :=
  place_forward origin n s

/-- Place and offset make up a mark. -/
theorem eq_of_place_pointer {a b : Mark} (hplace : a.place = b.place)
    (hpointer : a.pointer = b.pointer) : a = b := by
  obtain ⟨line, column, pointer⟩ := a
  obtain ⟨line', column', pointer'⟩ := b
  obtain ⟨rfl, rfl⟩ : line = line' ∧ column = column' := Prod.mk.inj (toLex.injective hplace)
  obtain rfl : pointer = pointer' := hpointer
  rfl

/-- Offsets past the end have the mark of the end. -/
theorem atOffset_min (s : List Char) (n : Nat) :
    atOffset s (min n (Text.byteLength s)) = atOffset s n := by
  refine eq_of_place_pointer ?_ ?_
  · rw [place_atOffset, place_atOffset, Text.begun_min]
  · rw [pointer_atOffset, pointer_atOffset, Nat.min_assoc, Nat.min_self]

/-- **Places are ordered as offsets are.** -/
theorem place_atOffset_le {m n : Nat} (h : m ≤ n) (s : List Char) :
    (atOffset s m).place ≤ (atOffset s n).place := by
  obtain ⟨rest, hrest⟩ := Text.begun_mono h s
  rw [place_atOffset, place_atOffset, ← hrest, Text.placeAfter_append]
  cases rest with
  | nil => exact le_refl _
  | cons c rest => exact (Text.lt_placeAfter _ (List.cons_ne_nil c rest)).le

/-- Between two offsets that cut no character there is a character. -/
theorem place_atOffset_lt {m n : Nat} (h : m < n) {s : List Char} (hm : Text.IsBoundary s m)
    (hn : Text.IsBoundary s n) : (atOffset s m).place < (atOffset s n).place := by
  obtain ⟨front, back, rfl, rfl⟩ := hm
  obtain ⟨front', back', hcut, rfl⟩ := hn
  have hfront := Text.begun_byteLength front back
  have hfront' : Text.begun (Text.byteLength front') (front ++ back) = front' := by
    rw [hcut, Text.begun_byteLength]
  obtain ⟨rest, hrest⟩ := Text.begun_mono h.le (front ++ back)
  rw [hfront, hfront'] at hrest
  rw [place_atOffset, place_atOffset, hfront, hfront', ← hrest, Text.placeAfter_append]
  refine Text.lt_placeAfter _ fun hnil => ?_
  rw [← hrest, hnil, List.append_nil] at h
  exact Nat.lt_irrefl _ h

end Mark

/-! ### The line of an offset -/

/-- A text of a content and its terminator leads to the beginning of the next
line. -/
theorem Terminated.Proper.placeAfter_chars {e : Terminated} (h : e.Proper) (line column : Nat) :
    Text.placeAfter (toLex (line, column)) e.chars = toLex (line + 1, 0) := by
  rw [Terminated.chars, Text.placeAfter_append, Text.placeAfter_of_not_mem h.lineFeed_not_mem]
  cases e.terminator <;> rfl

/-- The line break of a content begins with its last byte. -/
theorem Terminated.Proper.not_mem_begun {e : Terminated} (h : e.Proper) {n : Nat}
    (hn : n < Text.byteLength e.chars) : '\n' ∉ Text.begun n e.chars := by
  obtain ⟨front, hfront, hmem⟩ : ∃ front, e.chars = front ++ ['\n'] ∧ '\n' ∉ front := by
    obtain ⟨content, terminator⟩ := e
    cases terminator with
    | lineFeed => exact ⟨content, rfl, h.lineFeed_not_mem⟩
    | carriageReturnLineFeed =>
      refine ⟨content ++ ['\r'], by simp [Terminated.chars, Terminator.chars], ?_⟩
      simpa using h.lineFeed_not_mem
  have hlen : Text.byteLength e.chars = Text.byteLength front + 1 := by
    rw [hfront, Text.byteLength_append]
    rfl
  rw [hfront, Text.begun_append_of_le (by omega)]
  exact fun hbegun => hmem ((Text.begun_prefix n front).subset hbegun)

namespace Line

open Terminated

/-- The last of some lines that starts at or before an offset. -/
def at? (lines : List Line) (offset : Nat) : Option Line :=
  (lines.filter (·.start ≤ offset)).getLast?

/-- A later line is preferred, if one starts early enough. -/
theorem at?_cons_of_some {lines : List Line} {offset : Nat} {l : Line}
    (h : at? lines offset = some l) (first : Line) : at? (first :: lines) offset = some l := by
  unfold at? at h ⊢
  rw [List.filter_cons]
  split_ifs
  · rw [List.getLast?_cons, h]
    rfl
  · exact h

/-- The first line is taken if all others start too late. -/
theorem at?_cons_of_lt {lines : List Line} {offset : Nat} (h : ∀ l ∈ lines, offset < l.start)
    {first : Line} (hfirst : first.start ≤ offset) : at? (first :: lines) offset = some first := by
  have hnone : lines.filter (·.start ≤ offset) = [] :=
    List.filter_eq_nil_iff.2 fun l hl => by
      have := h l hl
      simpa using this
  rw [at?, List.filter_cons_of_pos (by simpa using hfirst), hnone]
  rfl

/-- Lines start at or after the text behind them. -/
theorem start_le_of_mem_laid {number : Nat} {behind : List Char} {pairs : List Terminated}
    {last : List Char} {l : Line} (h : l ∈ laid number behind pairs last) :
    Text.byteLength behind ≤ l.start := by
  induction pairs generalizing number behind with
  | nil =>
    obtain rfl := List.mem_singleton.1 h
    exact Nat.le_refl _
  | cons e pairs ih =>
    rcases List.mem_cons.1 h with rfl | h
    · exact Nat.le_refl _
    · have := ih h
      rw [Text.byteLength_append] at this
      omega

/-- **What begins before an offset is the text behind its line and, after it, no
line break.**  The text behind ends where the line starts, at column zero. -/
theorem exists_at?_laid {pairs : List Terminated} {last : List Char}
    (hpairs : ∀ e ∈ pairs, e.Proper) (hlast : '\n' ∉ last) (line : Nat) (behind : List Char)
    (n : Nat) :
    ∃ l u tail, at? (laid (line + 1) behind pairs last) (Text.byteLength behind + n) = some l ∧
      l.start = Text.byteLength behind + Text.byteLength u ∧ Text.byteLength u ≤ n ∧
      Text.begun n (joined pairs last) = u ++ tail ∧ '\n' ∉ tail ∧
      Text.placeAfter (toLex (line, 0)) u = toLex (l.number - 1, 0) ∧ 0 < l.number := by
  -- the line and the text behind it are those of the first content, so both grow with it
  induction pairs generalizing line behind n with
  | nil =>
    refine ⟨⟨line + 1, behind, last, []⟩, [], Text.begun n last, ?_, rfl, Nat.zero_le n, rfl, ?_,
      rfl, Nat.succ_pos line⟩
    · exact at?_cons_of_lt (by simp) (Nat.le_add_right _ _)
    · exact fun h => hlast ((Text.begun_prefix n last).subset h)
  | cons e pairs ih =>
    rw [List.forall_mem_cons] at hpairs
    have hjoined : joined (e :: pairs) last = e.chars ++ joined pairs last := by
      rw [joined_cons, ← List.append_assoc]
      rfl
    rcases Nat.lt_or_ge n (Text.byteLength e.chars) with hn | hn
    · refine ⟨⟨line + 1, behind, e.content, e.terminator.chars ++ joined pairs last⟩, [],
        Text.begun n e.chars, ?_, rfl, Nat.zero_le n, ?_, hpairs.1.not_mem_begun hn, rfl,
        Nat.succ_pos line⟩
      · refine at?_cons_of_lt (fun l hl => ?_) (Nat.le_add_right _ _)
        have := start_le_of_mem_laid hl
        rw [Text.byteLength_append, Text.byteLength_reverse] at this
        omega
      · rw [hjoined, Text.begun_append_of_le hn.le]
        rfl
    · obtain ⟨k, rfl⟩ := Nat.exists_eq_add_of_le hn
      obtain ⟨l, u, tail, hat, hstart, hle, hbegun, htail, hplace, hpos⟩ :=
        ih hpairs.2 (line + 1) (e.chars.reverse ++ behind) k
      rw [Text.byteLength_append, Text.byteLength_reverse] at hat hstart
      refine ⟨l, e.chars ++ u, tail, ?_, ?_, ?_, ?_, htail, ?_, hpos⟩
      · refine at?_cons_of_some ?_ _
        rwa [show Text.byteLength behind + (Text.byteLength e.chars + k) =
          Text.byteLength e.chars + Text.byteLength behind + k by omega]
      · rw [hstart, Text.byteLength_append]
        omega
      · rw [Text.byteLength_append]
        omega
      · rw [hjoined, Text.begun_append, hbegun, List.append_assoc]
      · rw [Text.placeAfter_append, hpairs.1.placeAfter_chars, hplace]

end Line

namespace Mark

/-- The mark of an offset counts from the line of the offset. -/
theorem exists_line_atOffset (s : List Char) {p : Nat} :
    ∃ l, Line.at? (Line.ofText s) p = some l ∧ (atOffset s p).line + 1 = l.number ∧
      (atOffset s p).column = (Text.starts 0 s).countP fun o => l.start ≤ o ∧ o < p := by
  obtain ⟨pairs, last, hpairs, hlast, rfl⟩ := Terminated.exists_joined s
  obtain ⟨l, u, tail, hat, hstart, hle, hbegun, htail, hplace, hpos⟩ :=
    Line.exists_at?_laid hpairs hlast 0 [] p
  simp only [Text.byteLength_nil, Nat.zero_add] at hat hstart
  refine ⟨l, by rw [Line.ofText_joined hpairs hlast]; exact hat, ?_⟩
  have hmark : (atOffset (Terminated.joined pairs last) p).place =
      toLex (l.number - 1, 0 + tail.length) := by
    rw [place_atOffset, hbegun, Text.placeAfter_append, hplace, Text.placeAfter_of_not_mem htail]
  obtain ⟨hline, hcolumn⟩ := Prod.mk.inj (toLex.injective hmark)
  refine ⟨by omega, ?_⟩
  rw [hcolumn, hstart, Nat.zero_add, Text.countP_starts_between hbegun hle]

/-- Two marks of one text have one offset only if they agree. -/
theorem order_atOffset_eq_iff (s : List Char) (m n : Nat) :
    order (atOffset s m) (atOffset s n) = .eq ↔ atOffset s m = atOffset s n := by
  rw [order, compareOfLessAndEq_eq_eq Nat.le_refl Nat.not_le]
  refine ⟨fun h => ?_, fun h => by rw [h]⟩
  rw [pointer_atOffset, pointer_atOffset] at h
  rw [← atOffset_min s m, h, atOffset_min]

/-- **Marks agree with lines and order places faithfully.**  The mark of an offset,
which the end of the text bounds, lies on the last line that starts at or before
it, and its column counts the characters that begin between the two.  Greater
offsets have no earlier places, and strictly later ones if neither cuts a
character; and the order by offsets takes two marks for the same only if they are
equal. -/
theorem atOffset_agrees_ofText (s : List Char) :
    (∀ n, let p := min n (Text.byteLength s)
      (atOffset s n).pointer = p ∧
        ∃ l, Line.at? (Line.ofText s) p = some l ∧ (atOffset s n).line + 1 = l.number ∧
          (atOffset s n).column = (Text.starts 0 s).countP fun o => l.start ≤ o ∧ o < p) ∧
    ∀ m n, let p := min m (Text.byteLength s)
      let q := min n (Text.byteLength s)
      (p ≤ q → (atOffset s m).place ≤ (atOffset s n).place) ∧
        (p < q → Text.IsBoundary s p → Text.IsBoundary s q →
          (atOffset s m).place < (atOffset s n).place) ∧
        (order (atOffset s m) (atOffset s n) = .eq ↔ atOffset s m = atOffset s n) := by
  refine ⟨fun n => ?_, fun m n => ⟨fun h => ?_, fun h hm hn => ?_, order_atOffset_eq_iff s m n⟩⟩
  · rw [← atOffset_min s n]
    refine ⟨?_, exists_line_atOffset s⟩
    rw [pointer_atOffset, Nat.min_assoc, Nat.min_self]
  · rw [← atOffset_min s m, ← atOffset_min s n]
    exact place_atOffset_le h s
  · rw [← atOffset_min s m, ← atOffset_min s n]
    exact place_atOffset_lt h hm hn

/-- One offset falls between the two characters of a terminator, one cuts a
character, and one lies past the end. -/
theorem atOffset_agrees_ofText_cut :
    let s := "a\r\né\nb".toList
    atOffset s 2 = ⟨0, 2, 2⟩ ∧ atOffset s 4 = ⟨1, 1, 4⟩ ∧ atOffset s 99 = ⟨2, 1, 7⟩ ∧
      Text.IsBoundary s 2 ∧ Text.IsBoundary s 3 ∧ (atOffset s 2).place < (atOffset s 3).place ∧
      (atOffset s 4).place ≤ (atOffset s 5).place ∧
      ∃ l, Line.at? (Line.ofText s) 4 = some l ∧ (atOffset s 4).line + 1 = l.number ∧
        (atOffset s 4).column = (Text.starts 0 s).countP fun o => l.start ≤ o ∧ o < 4 := by
  intro s
  have hreturn : Text.IsBoundary s 2 := ⟨['a', '\r'], ['\n', 'é', '\n', 'b'], by decide, by decide⟩
  have hnext : Text.IsBoundary s 3 := ⟨['a', '\r', '\n'], ['é', '\n', 'b'], by decide, by decide⟩
  obtain ⟨hmark, hpair⟩ := atOffset_agrees_ofText s
  exact ⟨by decide, by decide, by decide, hreturn, hnext, (hpair 2 3).2.1 (by decide) hreturn hnext,
    (hpair 4 5).1 (by decide), (hmark 4).2⟩

end Mark
end YamlStyle
