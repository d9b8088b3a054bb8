/-
# The lines of a text

A text that is joined from contents and terminators has these contents as its
lines, each one starting where the terminator before it stops.  That is its layout
(`laid`), and cutting the text gives the layout back (`ofText_joined`), by induction
on the contents.  Since every text is joined like this, whatever holds of every
layout holds of the lines of every text; so the facts about lines are facts about
layouts first, then about a single line as a cut of its text (`Cuts`), and are put
together at the end (`ofText_lossless_unambiguous`).
-/

import YamlStyle.Line
import YamlStyle.Proofs.Terminated

namespace YamlStyle
namespace Line

open Terminated

/-! ### The layout -/

/-- A character that begins no terminator is read into the content. -/
theorem cut_cons {c : Char} {s : List Char} (hc : c ≠ '\n') (hr : c = '\r' → s.head? ≠ some '\n')
    (number : Nat) (behind read : List Char) :
    cut number behind read (c :: s) = cut number behind (c :: read) s := by
  rw [cut]
  · exact hc
  · rintro rest rfl rfl
    exact hr rfl rfl

/-- The last content is read to the end. -/
theorem cut_last {last : List Char} (h : '\n' ∉ last) (number : Nat) (behind read : List Char) :
    cut number behind read last = [⟨number, behind, read.reverse ++ last, []⟩] := by
  induction last generalizing read with
  | nil => simp [cut]
  | cons c last ih =>
    rw [List.mem_cons, not_or] at h
    have hhead : last.head? ≠ some '\n' := fun hhead => h.2 (List.mem_of_head? hhead)
    rw [cut_cons (fun hc => h.1 hc.symm) (fun _ => hhead), ih h.2]
    simp

/-- A content is read up to its terminator, and the next line starts after it. -/
theorem cut_terminated {e : Terminated} (h : e.Proper) (number : Nat)
    (behind read rest : List Char) :
    cut number behind read (e.content ++ (e.terminator.chars ++ rest)) =
      ⟨number, behind, read.reverse ++ e.content, e.terminator.chars ++ rest⟩ ::
        cut (number + 1) (e.chars.reverse ++ (read ++ behind)) [] rest := by
  obtain ⟨content, terminator⟩ := e
  induction content generalizing read with
  | nil => cases terminator <;> simp [cut, Terminator.chars, Terminated.chars]
  | cons c content ih =>
    obtain ⟨hmem, hreturn⟩ := h
    rw [List.mem_cons, not_or] at hmem
    have hproper : Terminated.Proper ⟨content, terminator⟩ := by
      refine ⟨hmem.2, fun hterm => ?_⟩
      cases content with
      | nil => simp
      | cons x rest => simpa using hreturn hterm
    -- a carriage return is not followed by a line feed inside a proper content
    have hhead : c = '\r' → (content ++ (terminator.chars ++ rest)).head? ≠ some '\n' := by
      rintro rfl
      cases content with
      | nil => cases terminator <;> simp [Terminator.chars] at hreturn ⊢
      | cons x content =>
        intro hx
        exact hmem.2 (by simpa using Or.inl (Option.some.inj hx).symm)
    rw [List.cons_append, cut_cons (fun hc => hmem.1 hc.symm) hhead, ih _ hproper]
    simp [Terminated.chars]

/-- Contents laid out as lines, from a number on and after the text behind. -/
def laid (number : Nat) (behind : List Char) : List Terminated → List Char → List Line
  | [], last => [⟨number, behind, last, []⟩]
  | e :: pairs, last =>
    ⟨number, behind, e.content, e.terminator.chars ++ joined pairs last⟩ ::
      laid (number + 1) (e.chars.reverse ++ behind) pairs last

/-- Cutting a text of lines gives the lines that are laid out in it. -/
theorem cut_joined {pairs : List Terminated} {last : List Char} (hpairs : ∀ e ∈ pairs, e.Proper)
    (hlast : '\n' ∉ last) (number : Nat) (behind : List Char) :
    cut number behind [] (joined pairs last) = laid number behind pairs last := by
  induction pairs generalizing number behind with
  | nil => exact cut_last hlast number behind []
  | cons e pairs ih =>
    rw [List.forall_mem_cons] at hpairs
    rw [joined_cons, cut_terminated hpairs.1, ih hpairs.2]
    rfl

/-- **The lines of a text are its contents, laid out one after the other.** -/
theorem ofText_joined {pairs : List Terminated} {last : List Char}
    (hpairs : ∀ e ∈ pairs, e.Proper) (hlast : '\n' ∉ last) :
    ofText (joined pairs last) = laid 1 [] pairs last :=
  cut_joined hpairs hlast 1 []

/-- The terminator that follows a line. -/
def terminator? (l : Line) : Option Terminator := Terminator.read? l.ahead

/-- A line with its terminator, if it has one. -/
def terminated (l : Line) : List Char := l.content ++ (l.terminator?.map (·.chars)).getD []

section Laid

variable (number : Nat) (behind : List Char) (pairs : List Terminated) (last : List Char)

/-- Lines have the contents that they are laid out from. -/
theorem map_content_laid :
    (laid number behind pairs last).map (·.content) = pairs.map (·.content) ++ [last] := by
  induction pairs generalizing number behind with
  | nil => rfl
  | cons e pairs ih => rw [laid, List.map_cons, ih]; rfl

/-- Lines are numbered one after the other. -/
theorem map_number_laid :
    (laid number behind pairs last).map (·.number) = List.range' number (pairs.length + 1) := by
  induction pairs generalizing number behind with
  | nil => rfl
  | cons e pairs ih => rw [laid, List.map_cons, ih]; rfl

/-- There is one line more than there are terminators. -/
theorem length_laid : (laid number behind pairs last).length = pairs.length + 1 := by
  induction pairs generalizing number behind with
  | nil => rfl
  | cons e pairs ih => rw [laid, List.length_cons, ih, List.length_cons]

/-- The first line starts where the text behind ends. -/
theorem behind_of_head_laid {l : Line} (h : (laid number behind pairs last)[0]? = some l) :
    l.behind = behind := by
  cases pairs with
  | nil => cases h; rfl
  | cons e pairs => cases h; rfl

/-- Every line is a cut of the whole text. -/
theorem append_of_mem_laid {l : Line} (h : l ∈ laid number behind pairs last) :
    l.behind.reverse ++ l.content ++ l.ahead = behind.reverse ++ joined pairs last := by
  induction pairs generalizing number behind with
  | nil =>
    obtain rfl := List.mem_singleton.1 h
    simp [joined]
  | cons e pairs ih =>
    rcases List.mem_cons.1 h with rfl | h
    · rw [joined_cons, List.append_assoc]
    · rw [ih _ _ h, joined_cons]
      simp [Terminated.chars]

/-- Nothing is ahead of the last line only. -/
theorem isLast_getElem?_laid {i : Nat} {l : Line}
    (h : (laid number behind pairs last)[i]? = some l) :
    l.isLast = true ↔ i = pairs.length := by
  induction pairs generalizing number behind i with
  | nil =>
    cases i with
    | zero => cases h; simp [isLast]
    | succ i => simp [laid] at h
  | cons e pairs ih =>
    cases i with
    | zero =>
      cases h
      cases e.terminator <;> simp [isLast, Terminator.chars]
    | succ i =>
      rw [ih _ _ h, List.length_cons]
      omega

/-- Between a line and the next one stands the terminator of its content. -/
theorem next_of_getElem?_laid {i : Nat} {l next : Line}
    (hl : (laid number behind pairs last)[i]? = some l)
    (hnext : (laid number behind pairs last)[i + 1]? = some next) :
    ∃ e ∈ pairs, l.content = e.content ∧ (∃ rest, l.ahead = e.terminator.chars ++ rest) ∧
      next.behind = e.chars.reverse ++ l.behind := by
  induction pairs generalizing number behind i with
  | nil => simp [laid] at hnext
  | cons e pairs ih =>
    cases i with
    | zero =>
      cases hl
      exact ⟨e, List.mem_cons_self .., rfl, ⟨_, rfl⟩, behind_of_head_laid _ _ _ _ hnext⟩
    | succ i =>
      obtain ⟨e', he', hrest⟩ := ih _ _ hl hnext
      exact ⟨e', List.mem_cons_of_mem _ he', hrest⟩

/-- The lines with their terminators give the text back. -/
theorem flatMap_terminated_laid :
    (laid number behind pairs last).flatMap (·.terminated) = joined pairs last := by
  induction pairs generalizing number behind with
  | nil => simp [laid, terminated, terminator?, Terminator.read?, joined]
  | cons e pairs ih =>
    rw [laid, List.flatMap_cons, ih, joined_cons, terminated, terminator?,
      Terminator.read?_chars_append]
    simp

end Laid

/-! ### One line of a text -/

/-- A line is a cut of a text. -/
def Cuts (l : Line) (s : List Char) : Prop := l.behind.reverse ++ l.content ++ l.ahead = s

section Cuts

variable {l : Line} {s : List Char} (h : l.Cuts s)
include h

/-- A line starts between characters. -/
theorem Cuts.isBoundary_start : Text.IsBoundary s l.start :=
  ⟨l.behind.reverse, l.content ++ l.ahead, by rw [← List.append_assoc]; exact h.symm,
    by simp [start]⟩

/-- A line stops between characters. -/
theorem Cuts.isBoundary_stop : Text.IsBoundary s l.stop :=
  ⟨l.behind.reverse ++ l.content, l.ahead, h.symm, by simp [stop, start]⟩

/-- After a line comes the rest of the text. -/
theorem Cuts.byteLength_eq : Text.byteLength s = l.stop + Text.byteLength l.ahead := by
  rw [← h]
  simp [stop, start, Nat.add_assoc]

/-- The text between the ends of a line is its content. -/
theorem Cuts.slice?_content : Text.slice? s l.start l.stop = some l.content := by
  have hslice := Text.slice?_append l.behind.reverse l.content l.ahead
  rw [Text.byteLength_reverse, h] at hslice
  exact hslice

/-- What the text ahead begins with stands right after the content. -/
theorem Cuts.slice?_ahead {front back : List Char} (hahead : l.ahead = front ++ back) :
    Text.slice? s l.stop (l.stop + Text.byteLength front) = some front := by
  have hslice := Text.slice?_append (l.behind.reverse ++ l.content) front back
  rw [List.append_assoc _ front, ← hahead, h, Text.byteLength_append, Text.byteLength_reverse]
    at hslice
  exact hslice

/-- A line is the last if it stops with the text. -/
theorem Cuts.isLast_iff : l.isLast = true ↔ l.stop = Text.byteLength s := by
  have hlen := h.byteLength_eq
  unfold isLast
  cases hahead : l.ahead with
  | nil => simp [hlen, hahead]
  | cons c rest =>
    have hpos : 0 < c.utf8Size := c.utf8Size_pos
    rw [hahead, Text.byteLength_cons] at hlen
    simp only [List.isEmpty_cons, Bool.false_eq_true, false_iff]
    omega

end Cuts

/-! ### All lines of a text -/

/-- Lines take a text apart without loss. -/
structure Decomposition (s : List Char) (lines : List Line) : Prop where
  /-- There is one line more than there are line feeds. -/
  length_eq : lines.length = s.count '\n' + 1
  numbers : lines.map (·.number) = List.range' 1 lines.length
  /-- Offsets lie between characters, in order and inside the text. -/
  offsets : ∀ l ∈ lines, Text.IsBoundary s l.start ∧ Text.IsBoundary s l.stop ∧
    l.start ≤ l.stop ∧ l.stop ≤ Text.byteLength s
  contents : ∀ l ∈ lines, Text.slice? s l.start l.stop = some l.content ∧ '\n' ∉ l.content
  /-- A terminator leads from each line to the next one. -/
  terminators : ∀ i l next, lines[i]? = some l → lines[i + 1]? = some next →
    ∃ t, l.terminator? = some t ∧ next.start = l.stop + Text.byteLength t.chars ∧
      Text.slice? s l.stop next.start = some t.chars ∧
      (t = .lineFeed → l.content.getLast? ≠ some '\r')
  /-- The last line is the one that stops at the end of the text. -/
  isLast_iff : ∀ i l, lines[i]? = some l →
    (l.isLast = true ↔ i + 1 = lines.length) ∧ (l.isLast = true ↔ l.stop = Text.byteLength s)
  lossless : lines.flatMap (·.terminated) = s

/-- Lines that are laid out are cuts of the text. -/
theorem cuts_of_mem_laid {pairs : List Terminated} {last : List Char} {l : Line}
    (h : l ∈ laid 1 [] pairs last) : l.Cuts (joined pairs last) := by
  rw [Cuts, append_of_mem_laid 1 [] pairs last h]
  rfl

/-- A layout takes the text that it is the layout of apart. -/
theorem decomposition_laid {pairs : List Terminated} {last : List Char}
    (hpairs : ∀ e ∈ pairs, e.Proper) (hlast : '\n' ∉ last) :
    Decomposition (joined pairs last) (laid 1 [] pairs last) where
  length_eq := by rw [length_laid, count_joined hpairs hlast]
  numbers := by rw [map_number_laid, length_laid]
  offsets l hl := by
    have hcut := cuts_of_mem_laid hl
    have hlen := hcut.byteLength_eq
    exact ⟨hcut.isBoundary_start, hcut.isBoundary_stop, Nat.le_add_right _ _, by omega⟩
  contents l hl := by
    refine ⟨(cuts_of_mem_laid hl).slice?_content, ?_⟩
    have hmem : l.content ∈ pairs.map (·.content) ++ [last] := by
      rw [← map_content_laid 1 []]
      exact List.mem_map_of_mem hl
    rcases List.mem_append.1 hmem with hmem | hmem
    · obtain ⟨e, he, hcontent⟩ := List.mem_map.1 hmem
      rw [← hcontent]
      exact (hpairs e he).lineFeed_not_mem
    · rw [List.mem_singleton.1 hmem]
      exact hlast
  terminators i l next hl hnext := by
    have hcut := cuts_of_mem_laid (List.mem_of_getElem? hl)
    obtain ⟨e, he, hcontent, ⟨rest, hahead⟩, hbehind⟩ := next_of_getElem?_laid 1 [] _ _ hl hnext
    have hstart : next.start = l.stop + Text.byteLength e.terminator.chars := by
      rw [start, hbehind]
      simp only [Terminated.chars, Text.byteLength_append, Text.byteLength_reverse, stop, start,
        hcontent]
      omega
    refine ⟨e.terminator, ?_, hstart, ?_, ?_⟩
    · rw [terminator?, hahead, Terminator.read?_chars_append]
    · rw [hstart]
      exact hcut.slice?_ahead hahead
    · rw [hcontent]
      exact (hpairs e he).not_return
  isLast_iff i l hl := by
    refine ⟨?_, (cuts_of_mem_laid (List.mem_of_getElem? hl)).isLast_iff⟩
    rw [isLast_getElem?_laid 1 [] _ _ hl, length_laid]
    omega
  lossless := flatMap_terminated_laid 1 [] pairs last

/-- **Lines take every text apart without loss, and in one way only.**  The lines
of a text are numbered from one, hold no line feed, and with the terminators
between them give the text back; and any contents that are joined with
terminators that cannot be read otherwise come back as the lines. -/
theorem ofText_lossless_unambiguous :
    (∀ s, Decomposition s (ofText s)) ∧
      ∀ (pairs : List Terminated) (last : List Char), (∀ e ∈ pairs, e.Proper) → '\n' ∉ last →
        (ofText (joined pairs last)).map (·.content) = pairs.map (·.content) ++ [last] := by
  refine ⟨fun s => ?_, fun pairs last hpairs hlast => ?_⟩
  · obtain ⟨pairs, last, hpairs, hlast, rfl⟩ := exists_joined s
    rw [ofText_joined hpairs hlast]
    exact decomposition_laid hpairs hlast
  · rw [ofText_joined hpairs hlast, map_content_laid]

/-- Carriage returns stand before a longer terminator and at the end of the text,
and an empty line stands between the two kinds of terminators. -/
theorem ofText_lossless_unambiguous_returns :
    let pairs : List Terminated := [⟨['a', '\r'], .carriageReturnLineFeed⟩, ⟨[], .lineFeed⟩,
      ⟨['\r', 'é'], .lineFeed⟩]
    (∀ e ∈ pairs, e.Proper) ∧ '\n' ∉ ['\r'] ∧
      joined pairs ['\r'] = "a\r\r\n\n\ré\n\r".toList ∧
      Decomposition (joined pairs ['\r']) (ofText (joined pairs ['\r'])) ∧
      (ofText (joined pairs ['\r'])).map (·.content) =
        [['a', '\r'], [], ['\r', 'é'], ['\r']] := by
  intro pairs
  have hpairs : ∀ e ∈ pairs, e.Proper := by decide
  have hlast : '\n' ∉ ['\r'] := by decide
  exact ⟨hpairs, hlast, by decide +kernel, ofText_lossless_unambiguous.1 _,
    ofText_lossless_unambiguous.2 pairs ['\r'] hpairs hlast⟩

end Line
end YamlStyle
