/-
# Rules on lines in checked form

The five rules on lines, as they work on the bytes of the text and the offsets of a
line.  Two of them step backwards from an offset and look at bytes on the way, some
cut the text at offsets that they have computed, and most add one to a number.  On
a line of the text none of this faults, and the findings are those of the rule
(`Checked.lineCheck_eq_ok`): offsets of lines lie between characters, stepping back
stops at the beginning of the text or of the line, and it goes over whole
characters.
-/

import YamlStyle.Proofs.LineScan
import YamlStyle.Proofs.Marks
import YamlStyle.Rule.Basic

namespace YamlStyle
namespace Checked

open Text

/-! ### The rules -/

/-- The content of a line. -/
def content (s : List Char) (p : Span) : Checked (List Char) := slice s p.start p.stop

/-- The number of characters of a line. -/
def charLength (s : List Char) (p : Span) : Checked Nat := do
  let content ← content s p
  return content.length

/-- Line breaks right before an offset, counted on from a number, and where they
begin: first those with carriage returns, then line feeds alone. -/
def breaksBefore (bs : List UInt8) (count pos : Nat) : Checked (Nat × Nat) := do
  let (count, pos) ← retreat bs 0 2 (· = bytes ['\r', '\n']) count pos
  retreat bs 0 1 (· = bytes ['\n']) count pos

/-- The number of blank lines up to a line, and the limit that holds for them if
they are not at the end of the text. -/
def countUpTo (o : EmptyLines.Options) (s : List Char) (p : Span) : Checked (Nat × UInt64) := do
  let (count, start) ← breaksBefore (bytes s) 0 p.start
  if start = 0 then
    let count ← add count 1
    return (count, o.maxStart)
  else return (count, o.max)

/-- The rule on runs of blank lines. -/
def emptyLines (o : EmptyLines.Options) (s : List Char) (p : Span) : Checked (List Finding) := do
  if p.start ≠ p.stop ∨ byteLength s ≤ p.stop then return []
  let rest ← range (bytes s) p.stop (byteLength s)
  if (bytes ['\n', '\n']).isPrefixOf rest || (bytes ['\r', '\n', '\r', '\n']).isPrefixOf rest then
    return []
  let (count, inner) ← countUpTo o s p
  let ends : Bool := rest = bytes ['\n'] || rest = bytes ['\r', '\n']
  if ends ∧ p.stop = 0 then return []
  let limit := if ends then o.maxEnd else inner
  if count ≤ limit.toNat then return []
  return [⟨p.number, 1, .tooManyBlankLines count limit.toNat⟩]

/-- A text without its first characters. -/
def skipChars (s : List Char) (n : Nat) : Checked (List Char) :=
  match (starts 0 s)[n]? with
  | some offset => slice s offset (byteLength s)
  | none => return []

/-- The text after the sign of a comment or of an entry and the character that
follows it. -/
def afterSign : List Char → Checked (List Char)
  | '#' :: s => skipChars (s.dropWhile (· = '#')) 1
  | '-' :: s => skipChars ('-' :: s) 2
  | s => return s

/-- Whether the text after the indentation is a single word, behind an optional
sign. -/
def isSingleWord (content : List Char) : Checked Bool := do
  let text := content.dropWhile (· = ' ')
  if text.isEmpty then return false
  let word ← afterSign text
  return !word.contains ' '

/-- The rule on the length of lines. -/
def lineLength (o : LineLength.Options) (s : List Char) (p : Span) : Checked (List Finding) := do
  let length ← charLength s p
  if length ≤ o.max.toNat then return []
  if o.allowLongWords then
    let content ← content s p
    let single ← isSingleWord content
    if single then return []
  let column ← add o.max.toNat 1
  return [⟨p.number, column, .lineTooLong length o.max.toNat⟩]

/-- The rule on the last line break. -/
def finalNewLine (s : List Char) (p : Span) : Checked (List Finding) := do
  if p.stop ≠ byteLength s ∨ p.start = p.stop then return []
  let length ← charLength s p
  let column ← add length 1
  return [⟨p.number, column, .noFinalTerminator⟩]

/-- The rule on the kind of line breaks. -/
def newLines (o : NewLines.Options) (s : List Char) (p : Span) : Checked (List Finding) := do
  if byteLength s ≤ p.stop then return []
  let rest ← slice s p.stop (byteLength s)
  if startsWith rest o.convention.terminator.chars then return []
  let length ← charLength s p
  let column ← add length 1
  return [⟨p.number, column, .wrongTerminator o.convention.terminator⟩]

/-- The bytes that can stand in the white space at the end of a line. -/
def isBlankByte (b : UInt8) : Bool :=
  b = ' '.toUInt8 || b = '\t'.toUInt8 || b = '\n'.toUInt8 || b = '\r'.toUInt8 ||
    b = '\x0b'.toUInt8 || b = '\x0c'.toUInt8

/-- The rule on white space at the end of lines. -/
def trailingSpaces (s : List Char) (p : Span) : Checked (List Finding) := do
  if p.stop = 0 then return []
  let (_, pos) ← retreat (bytes s) p.start 1 (·.all isBlankByte) 0 p.stop
  if pos = p.stop then return []
  let first ← item (bytes s) pos
  if first ≠ ' '.toUInt8 ∧ first ≠ '\t'.toUInt8 then return []
  let kept ← slice s p.start pos
  let column ← add kept.length 1
  return [⟨p.number, column, .trailingSpaces⟩]

/-- What a rule finds in a line. -/
def lineCheck : (r : LineRule) → r.Options → List Char → Span → Checked (List Finding)
  | .emptyLines, o => emptyLines o
  | .lineLength, o => lineLength o
  | .newLineAtEndOfFile, _ => finalNewLine
  | .newLines, o => newLines o
  | .trailingSpaces, _ => trailingSpaces

/-! ### Lines of a text -/

/-- The lines of a text are cuts of it. -/
theorem cuts_of_mem_ofText {s : List Char} {l : Line} (h : l ∈ Line.ofText s) : l.Cuts s := by
  obtain ⟨pairs, last, hpairs, hlast, rfl⟩ := Terminated.exists_joined s
  rw [Line.ofText_joined hpairs hlast] at h
  exact Line.cuts_of_mem_laid h

section Cuts

variable {l : Line} {s : List Char} (h : l.Cuts s)

/-- A line stops where it starts if it is empty. -/
theorem start_eq_stop_iff (l : Line) : l.start = l.stop ↔ l.content = [] := by
  rw [← byteLength_eq_zero_iff, Line.stop]
  omega

include h

/-- The content of a line is cut out of the text. -/
theorem content_eq_ok : content s l.span = .ok l.content := slice_eq_ok h.slice?_content

/-- The length of a line is counted. -/
theorem charLength_eq_ok : charLength s l.span = .ok l.charLength := by
  rw [charLength, content_eq_ok h]
  rfl

/-- A line is not longer than its text. -/
theorem charLength_le : l.charLength ≤ byteLength s := by
  have hlen := length_le_byteLength l.content
  have hs := h.byteLength_eq
  unfold Line.stop at hs
  unfold Line.charLength
  omega

/-- The last line stops at the end of the text. -/
theorem byteLength_le_stop_iff : byteLength s ≤ l.stop ↔ l.isLast = true := by
  rw [h.isLast_iff, h.byteLength_eq]
  omega

/-- Lines that are passed over are those that are not blank. -/
theorem skips_iff : l.start ≠ l.stop ∨ byteLength s ≤ l.stop ↔ l.isBlank = false := by
  rw [byteLength_le_stop_iff h, ne_eq, start_eq_stop_iff, Line.isBlank, Line.isEmpty]
  cases l.content <;> cases l.isLast <;> simp

/-- What comes after a line is cut out of the text. -/
theorem slice_ahead : slice s l.stop (byteLength s) = .ok l.ahead := by
  have hslice := h.slice?_ahead (List.append_nil l.ahead).symm
  rw [← h.byteLength_eq] at hslice
  exact slice_eq_ok hslice

/-- The bytes after a line are a range of those of the text. -/
theorem range_ahead : range (bytes s) l.stop (byteLength s) = .ok (bytes l.ahead) := by
  have hrange := range_bytes (l.behind.reverse ++ l.content) l.ahead []
  have hstop : byteLength (l.behind.reverse ++ l.content) = l.stop := by
    simp [Line.stop, Line.start]
  rw [List.append_nil, h, hstop, ← h.byteLength_eq] at hrange
  exact hrange

end Cuts

/-! ### Each rule on a line -/

/-- Line feeds are counted as long as they follow each other. -/
theorem countFeeds_eq (count : Nat) (near : List Char) :
    EmptyLines.countFeeds count near =
      (count + (near.takeWhile (· = '\n')).length, near.dropWhile (· = '\n')) := by
  induction near generalizing count with
  | nil => rfl
  | cons c near ih =>
    by_cases hc : c = '\n'
    · simp [hc, EmptyLines.countFeeds, ih]
      omega
    · simp [hc, EmptyLines.countFeeds]

/-- Stepping back over line feeds counts them. -/
theorem retreat_feeds (near back : List Char) (count : Nat)
    (hcount : count + near.length < wordSize) :
    retreat (bytes (near.reverse ++ back)) 0 1 (· = bytes ['\n']) count (byteLength near) =
      .ok ((EmptyLines.countFeeds count near).1,
        byteLength (EmptyLines.countFeeds count near).2) := by
  have haccepts : ∀ c, decide ([lastByte c] = bytes ['\n']) = decide (c = '\n') := by
    intro c
    rw [bytes_cons, utf8EncodeChar_ascii rfl]
    simpa using lastByte_eq_iff rfl
  have hone : ∀ c, decide (c = '\n') = true → c.utf8Size = 1 := by
    intro c hc
    rw [of_decide_eq_true hc]
    rfl
  have hretreat := retreat_bytes (· = bytes ['\n']) (· = '\n') haccepts hone [] near back count hcount
  rw [countFeeds_eq]
  simpa using hretreat

/-- A line break with a carriage return is found by its two bytes. -/
theorem eq_cons_cons_of_take {near back : List Char}
    (h : ((bytes (near.reverse ++ back)).take (byteLength near)).drop (byteLength near - 2) =
      bytes ['\r', '\n']) : ∃ rest, near = '\n' :: '\r' :: rest := by
  have htake : (bytes (near.reverse ++ back)).take (byteLength near) = bytes near.reverse := by
    rw [bytes_append, ← byteLength_reverse, ← length_bytes, List.take_left]
  have hends : bytes near.reverse =
      ((bytes near.reverse).take (byteLength near - 2) ++ ['\r'.toUInt8]) ++ ['\n'.toUInt8] := by
    have hsplit := List.take_append_drop (byteLength near - 2) (bytes near.reverse)
    rw [htake] at h
    rw [h] at hsplit
    rw [List.append_assoc]
    exact hsplit.symm
  obtain ⟨t, ht, hbytes⟩ := eq_concat_of_bytes rfl hends
  obtain ⟨t', rfl, -⟩ := eq_concat_of_bytes rfl hbytes
  exact ⟨t'.reverse, by simpa using congrArg List.reverse ht⟩

/-- There are not more breaks than characters. -/
theorem countBreaks_le (count : Nat) (near : List Char) :
    (EmptyLines.countBreaks count near).1 ≤ count + near.length := by
  fun_induction EmptyLines.countBreaks count near with
  | case1 count near ih =>
    simp only [List.length_cons]
    omega
  | case2 count near hne =>
    rw [countFeeds_eq]
    have hle := (List.takeWhile_sublist (l := near) (· = '\n')).length_le
    dsimp only
    omega

/-- Stepping back over line breaks counts them. -/
theorem breaksBefore_eq_ok (near back : List Char) (count : Nat)
    (hcount : count + near.length < wordSize) :
    breaksBefore (bytes (near.reverse ++ back)) count (byteLength near) =
      .ok ((EmptyLines.countBreaks count near).1,
        byteLength (EmptyLines.countBreaks count near).2) := by
  fun_induction EmptyLines.countBreaks count near generalizing back with
  | case1 count near ih =>
    have hpos : byteLength ('\n' :: '\r' :: near) = byteLength near + 2 := by
      have hfeed : '\n'.utf8Size = 1 := rfl
      have hreturn : '\r'.utf8Size = 1 := rfl
      rw [byteLength_cons, byteLength_cons, hfeed, hreturn]
      omega
    have htext : ('\n' :: '\r' :: near).reverse ++ back = near.reverse ++ (['\r', '\n'] ++ back) := by
      simp
    have hrange : range (bytes (near.reverse ++ (['\r', '\n'] ++ back))) (byteLength near + 2 - 2)
        (byteLength near + 2) = .ok (bytes ['\r', '\n']) := by
      have hrange := range_bytes near.reverse ['\r', '\n'] back
      rwa [byteLength_reverse, List.append_assoc] at hrange
    simp only [List.length_cons] at hcount
    have hstep : retreat (bytes (near.reverse ++ (['\r', '\n'] ++ back))) 0 2 (· = bytes ['\r', '\n'])
        count (byteLength near + 2) =
        retreat (bytes (near.reverse ++ (['\r', '\n'] ++ back))) 0 2 (· = bytes ['\r', '\n'])
          (count + 1) (byteLength near) :=
      retreat_step (by omega) hrange (decide_eq_true rfl) (by omega)
    rw [← ih (['\r', '\n'] ++ back) (by omega), breaksBefore, breaksBefore, htext, hpos, hstep]
  | case2 count near hne =>
    have hstay : retreat (bytes (near.reverse ++ back)) 0 2 (· = bytes ['\r', '\n']) count
        (byteLength near) = .ok (count, byteLength near) := by
      by_cases hpos : 0 + 2 ≤ byteLength near
      · refine retreat_stop hpos (range_eq_ok (Nat.sub_le _ _) (by simp)) (decide_eq_false ?_)
        intro hstep
        obtain ⟨rest, rfl⟩ := eq_cons_cons_of_take hstep
        exact hne rest rfl
      · exact retreat_floor (Nat.not_le.1 hpos)
    rw [breaksBefore, hstay, ok_bind]
    exact retreat_feeds near back count hcount

/-- Characters can always be left out. -/
theorem skipChars_eq_ok (s : List Char) (n : Nat) : skipChars s n = .ok (s.drop n) := by
  unfold skipChars
  rcases Nat.lt_or_ge n s.length with hn | hn
  · have hstart : (starts 0 s)[n]? = some (byteLength (s.take n)) := by
      simpa using getElem?_starts hn 0
    have hslice := slice?_append (s.take n) (s.drop n) []
    rw [List.append_nil, List.take_append_drop, ← byteLength_append, List.take_append_drop] at hslice
    rw [hstart]
    exact slice_eq_ok hslice
  · rw [List.getElem?_eq_none (by simpa using hn), List.drop_eq_nil_of_le hn]
    rfl

/-- A sign is passed over without a fault. -/
theorem afterSign_eq_ok (s : List Char) : afterSign s = .ok (LineLength.afterSign s) := by
  fun_cases LineLength.afterSign s with
  | case1 s => exact skipChars_eq_ok _ 1
  | case2 s => exact skipChars_eq_ok _ 2
  | case3 s hcomment hentry =>
    rw [afterSign]
    · rfl
    · exact hcomment
    · exact hentry

/-- Words are told apart without a fault. -/
theorem isSingleWord_eq_ok (content : List Char) :
    isSingleWord content = .ok (LineLength.isSingleWord content) := by
  unfold isSingleWord LineLength.isSingleWord
  dsimp only
  rw [afterSign_eq_ok]
  cases h : (content.dropWhile (· = ' ')).isEmpty
  · simp
  · simp

/-- The bytes of blank characters are blank, and no others are. -/
theorem isBlankByte_lastByte (c : Char) : isBlankByte (lastByte c) = TrailingSpaces.isBlank c := by
  have hbyte (a : Char) (ha : a.utf8Size = 1) : decide (lastByte c = a.toUInt8) = decide (c = a) :=
    decide_eq_decide.2 (lastByte_eq_iff ha)
  rw [isBlankByte, hbyte _ rfl, hbyte _ rfl, hbyte _ rfl, hbyte _ rfl, hbyte _ rfl, hbyte _ rfl]
  rfl

/-- Blank characters are ASCII. -/
theorem utf8Size_of_isBlank {c : Char} (h : TrailingSpaces.isBlank c = true) : c.utf8Size = 1 := by
  simp only [TrailingSpaces.isBlank, Bool.or_eq_true, decide_eq_true_eq] at h
  rcases h with ((((rfl | rfl) | rfl) | rfl) | rfl) | rfl <;> rfl

/-- A content without the white space at its end. -/
def kept (content : List Char) : List Char := (content.reverse.dropWhile TrailingSpaces.isBlank).reverse

/-- A content is what is kept and what trails it. -/
theorem kept_append_trailing (content : List Char) :
    kept content ++ TrailingSpaces.trailing content = content := by
  rw [kept, TrailingSpaces.trailing, ← List.reverse_append, List.takeWhile_append_dropWhile,
    List.reverse_reverse]

/-- What trails a content is blank. -/
theorem isBlank_of_mem_trailing {content : List Char} {c : Char}
    (h : c ∈ TrailingSpaces.trailing content) : TrailingSpaces.isBlank c = true := by
  rw [TrailingSpaces.trailing, List.mem_reverse] at h
  exact List.all_eq_true.1 List.all_takeWhile c h

section Trailing

variable {l : Line} {s : List Char} (h : l.Cuts s)
include h

/-- The text is cut right before the white space at the end of a line. -/
theorem cut_before_trailing :
    l.behind.reverse ++ kept l.content ++ (TrailingSpaces.trailing l.content ++ l.ahead) = s := by
  have hcut : l.behind.reverse ++ l.content ++ l.ahead = s := h
  rw [← kept_append_trailing l.content] at hcut
  rw [← hcut]
  simp

/-- What is kept of a line is cut out of the text. -/
theorem slice_kept :
    slice s l.start (l.start + byteLength (kept l.content)) = .ok (kept l.content) := by
  have hslice := slice?_append l.behind.reverse (kept l.content)
    (TrailingSpaces.trailing l.content ++ l.ahead)
  rw [cut_before_trailing h, byteLength_reverse] at hslice
  exact slice_eq_ok hslice

/-- After what is kept comes the first character that trails it. -/
theorem item_trailing {c : Char} {rest : List Char}
    (htrailing : TrailingSpaces.trailing l.content = c :: rest) (hc : c.utf8Size = 1) :
    item (bytes s) (l.start + byteLength (kept l.content)) = .ok c.toUInt8 := by
  have hitem := item_ascii hc (l.behind.reverse ++ kept l.content) (rest ++ l.ahead)
  rw [byteLength_append, byteLength_reverse, ← List.cons_append, ← htrailing, cut_before_trailing h]
    at hitem
  exact hitem

end Trailing

section Cuts

variable {l : Line} {s : List Char} (h : l.Cuts s) (hsize : byteLength s + 1 < wordSize)
include h hsize

/-- One more than the limit fits in a word if a line is longer than the limit. -/
theorem lineLength_eq_ok (o : LineLength.Options) :
    lineLength o s l.span = .ok (LineLength.check o l) := by
  have hlen := charLength_le h
  unfold lineLength LineLength.check
  rw [charLength_eq_ok h, ok_bind, content_eq_ok h]
  by_cases hmax : l.charLength ≤ o.max.toNat
  · simp [hmax]
  · have hadd := add_eq_ok (show o.max.toNat + 1 < wordSize by omega)
    cases o.allowLongWords with
    | false => simp [hmax, hadd]
    | true =>
      cases hword : LineLength.isSingleWord l.content with
      | false => simp [hmax, isSingleWord_eq_ok, hword, hadd]
      | true => simp [hmax, isSingleWord_eq_ok, hword]

/-- The rule on the end of the text does not fault. -/
theorem finalNewLine_eq_ok : finalNewLine s l.span = .ok (FinalNewLine.check l) := by
  have hlen := charLength_le h
  have hadd := add_eq_ok (show l.charLength + 1 < wordSize by omega)
  have hlast := h.isLast_iff
  have hempty := start_eq_stop_iff l
  unfold finalNewLine FinalNewLine.check
  rw [charLength_eq_ok h, ok_bind, hadd]
  by_cases hskip : l.stop ≠ byteLength s ∨ l.start = l.stop
  · have hfalse : (l.isLast && !l.isEmpty) = false := by
      rcases hskip with hskip | hskip
      · simp [Bool.eq_false_iff.2 (hlast.not.2 hskip)]
      · simp [Line.isEmpty, hempty.1 hskip]
    rw [Line.span_start, Line.span_stop, if_pos hskip, hfalse]
    rfl
  · have htrue : (l.isLast && !l.isEmpty) = true := by
      simp only [not_or, ne_eq, not_not] at hskip
      simp [hlast.2 hskip.1, Line.isEmpty, hempty.not.1 hskip.2]
    rw [Line.span_start, Line.span_stop, if_neg hskip, htrue]
    rfl

/-- The rule on line breaks does not fault. -/
theorem newLines_eq_ok (o : NewLines.Options) : newLines o s l.span = .ok (NewLines.check o l) := by
  have hlen := charLength_le h
  have hadd := add_eq_ok (show l.charLength + 1 < wordSize by omega)
  have hlast := byteLength_le_stop_iff h
  unfold newLines NewLines.check
  rw [charLength_eq_ok h, ok_bind, hadd, Line.span_stop, slice_ahead h]
  cases hend : l.isLast with
  | true => simp [hlast.2 hend]
  | false =>
    rw [if_neg (hlast.not.2 (Bool.eq_false_iff.1 hend)), ok_bind]
    cases hstarts : startsWith l.ahead o.convention.terminator.chars with
    | true => simp [hstarts]
    | false => simp [hstarts]

/-- Stepping back from the end of a line goes over the white space there. -/
theorem retreat_trailing :
    retreat (bytes s) l.start 1 (·.all isBlankByte) 0 l.stop =
      .ok ((TrailingSpaces.trailing l.content).length, l.start + byteLength (kept l.content)) := by
  have hlen := charLength_le h
  have hretreat := retreat_bytes (·.all isBlankByte) TrailingSpaces.isBlank
    (fun c => by simp [isBlankByte_lastByte]) (fun c => utf8Size_of_isBlank) l.behind.reverse
    l.content.reverse l.ahead 0 (by rw [List.length_reverse]; unfold Line.charLength at hlen; omega)
  rw [List.reverse_reverse, h, byteLength_reverse, byteLength_reverse, Nat.zero_add] at hretreat
  rw [TrailingSpaces.trailing, kept, List.length_reverse, byteLength_reverse]
  exact hretreat

/-- The rule on trailing spaces does not fault. -/
theorem trailingSpaces_eq_ok : trailingSpaces s l.span = .ok (TrailingSpaces.check l) := by
  have hstop : l.stop = l.start + byteLength (kept l.content) +
      byteLength (TrailingSpaces.trailing l.content) := by
    rw [Line.stop, Nat.add_assoc, ← byteLength_append, kept_append_trailing]
  unfold trailingSpaces TrailingSpaces.check
  rw [Line.span_start, Line.span_stop, retreat_trailing h hsize, ok_bind]
  cases htrailing : TrailingSpaces.trailing l.content with
  | nil =>
    rw [htrailing, byteLength_nil, Nat.add_zero] at hstop
    simp [hstop]
  | cons c rest =>
    have hblank : TrailingSpaces.isBlank c = true :=
      isBlank_of_mem_trailing (htrailing ▸ List.mem_cons_self ..)
    have hc : c.utf8Size = 1 := utf8Size_of_isBlank hblank
    rw [htrailing, byteLength_cons, hc] at hstop
    have hlength := congrArg List.length (kept_append_trailing l.content)
    rw [List.length_append, htrailing] at hlength
    have hcolumn : l.content.length - (c :: rest).length = (kept l.content).length := by
      omega
    have hadd : add (kept l.content).length 1 = .ok ((kept l.content).length + 1) := by
      have hlen := charLength_le h
      unfold Line.charLength at hlen
      exact add_eq_ok (by omega)
    dsimp only
    rw [if_neg (by omega), if_neg (by omega), item_trailing h htrailing hc, ok_bind, slice_kept h,
      ok_bind, hadd, ok_bind, hcolumn]
    -- the first byte of the white space is its first character
    by_cases hspace : c = ' '
    · subst hspace
      rfl
    · by_cases htab : c = '\t'
      · subst htab
        rfl
      · rw [if_pos ⟨(toUInt8_eq_iff rfl hc).not.2 hspace, (toUInt8_eq_iff rfl hc).not.2 htab⟩]
        simp [hspace, htab]

/-- The number of line breaks before a line fits in a word, with one more. -/
theorem countUpTo_eq_ok (o : EmptyLines.Options) :
    countUpTo o s l.span = .ok (EmptyLines.countUpTo o l) := by
  have hbehind : l.behind.length + 1 < wordSize := by
    have hlen := length_le_byteLength l.behind
    have hs := h.byteLength_eq
    unfold Line.stop Line.start at hs
    omega
  have hbreaks := breaksBefore_eq_ok l.behind (l.content ++ l.ahead) 0 (by omega)
  have hle := countBreaks_le 0 l.behind
  rw [← List.append_assoc, h] at hbreaks
  rw [countUpTo, Line.span_start, Line.start, hbreaks, ok_bind, EmptyLines.countUpTo]
  generalize EmptyLines.countBreaks 0 l.behind = result at hle ⊢
  obtain ⟨count, rest⟩ := result
  cases rest with
  | nil =>
    have hadd := add_eq_ok (show count + 1 < wordSize by dsimp only at hle; omega)
    simp [hadd]
  | cons c rest =>
    have hpos : 0 < c.utf8Size := c.utf8Size_pos
    simp [Nat.pos_iff_ne_zero.1 hpos]

/-- The rule on blank lines does not fault. -/
theorem emptyLines_eq_ok (o : EmptyLines.Options) :
    emptyLines o s l.span = .ok (EmptyLines.check o l) := by
  unfold emptyLines EmptyLines.check
  rw [Line.span_start, Line.span_stop, range_ahead h, ok_bind, countUpTo_eq_ok h hsize, ok_bind,
    isPrefixOf_bytes rfl, isPrefixOf_bytes rfl]
  by_cases hblank : l.isBlank = true
  · have hempty : l.content = [] := by
      simpa [Line.isBlank, Line.isEmpty] using (Bool.and_eq_true_iff.1 hblank).1
    have hstop : l.stop = 0 ↔ l.behind.isEmpty = true := by
      rw [Line.stop, hempty, byteLength_nil, Nat.add_zero, Line.start, byteLength_eq_zero_iff,
        List.isEmpty_iff]
    have hends : (decide (bytes l.ahead = bytes ['\n']) || decide (bytes l.ahead = bytes ['\r', '\n'])) =
        EmptyLines.endsText l := by
      rw [EmptyLines.endsText, decide_eq_decide.2 (bytes_eq_iff rfl),
        decide_eq_decide.2 (bytes_eq_iff rfl)]
    rw [if_neg ((skips_iff h).not.2 (by simp [hblank])), ← EmptyLines.continues, hblank]
    cases hcontinues : EmptyLines.continues l with
    | true => simp
    | false =>
      obtain ⟨count, inner⟩ := EmptyLines.countUpTo o l
      dsimp only
      rw [hends]
      generalize (if EmptyLines.endsText l = true then o.maxEnd else inner) = limit
      by_cases halone : EmptyLines.endsText l = true ∧ l.stop = 0
      · simp [halone.1, halone.2, hstop.1 halone.2]
      · have hnot : (EmptyLines.endsText l && l.behind.isEmpty) = false := by
          rw [hstop] at halone
          simpa [Bool.and_eq_false_iff, imp_iff_not_or] using halone
        by_cases hlimit : count ≤ limit.toNat
        · simp [halone, hnot, hlimit, Nat.not_lt.2 hlimit]
        · simp [halone, hnot, hlimit, Nat.not_le.1 hlimit]
  · rw [if_pos ((skips_iff h).2 (by simpa using hblank))]
    simp [hblank]

/-- **No rule on lines faults on a line of the text.** -/
theorem lineCheck_eq_ok (r : LineRule) (o : r.Options) : lineCheck r o s l.span = .ok (r.check o l) := by
  cases r with
  | emptyLines => exact emptyLines_eq_ok h hsize o
  | lineLength => exact lineLength_eq_ok h hsize o
  | newLineAtEndOfFile => exact finalNewLine_eq_ok h hsize
  | newLines => exact newLines_eq_ok h hsize o
  | trailingSpaces => exact trailingSpaces_eq_ok h hsize

end Cuts

end Checked
end YamlStyle
