/-
# Lines by scanning bytes

Lines can be found without cutting the text: from the offset where a line starts,
look for the next byte that is a line feed, and see whether the byte before it, if
it is still in the line, is a carriage return.  What is kept of a line then is its
number and two offsets (`Span`).  Every index, difference and sum on the way can
fault (`Checked.scanLine`); none does, and the spans are those of the lines that
cutting the text gives (`Checked.scanLines_eq_ok`), by induction on the contents of
which the text is joined.
-/

import YamlStyle.Proofs.Checked

namespace YamlStyle

/-- Where a line stands in its text. -/
structure Span where
  number : Nat
  start : Nat
  stop : Nat
  deriving DecidableEq, Repr

/-- The offsets of a line. -/
def Line.span (l : Line) : Span := ⟨l.number, l.start, l.stop⟩

/-- The span has the number of the line. -/
@[simp] theorem Line.span_number (l : Line) : l.span.number = l.number := rfl

/-- The span starts with the line. -/
@[simp] theorem Line.span_start (l : Line) : l.span.start = l.start := rfl

/-- The span stops with the line. -/
@[simp] theorem Line.span_stop (l : Line) : l.span.stop = l.stop := rfl

namespace Checked

open Text

/-- Where a line stops that starts and has its line feed at given offsets. -/
def contentStop (bs : List UInt8) (start feed : Nat) : Checked Nat :=
  if start < feed then do
    let before ← sub feed 1
    let byte ← item bs before
    if byte = '\r'.toUInt8 then sub feed 1 else return feed
  else return feed

/-- Scans one line: where it stands, and where the next one starts, if there is
one. -/
def scanLine (s : List Char) (number cursor : Nat) : Checked (Span × Option Nat) := do
  let tail ← range (bytes s) cursor (byteLength s)
  match tail.findIdx? (· = '\n'.toUInt8) with
  | none => return (⟨number, cursor, byteLength s⟩, none)
  | some i =>
    let feed ← add cursor i
    let stop ← contentStop (bytes s) cursor feed
    let next ← add feed 1
    return (⟨number, cursor, stop⟩, some next)

/-- The next line starts further on. -/
theorem next_of_scanLine {s : List Char} {number cursor next : Nat} {span : Span}
    (h : scanLine s number cursor = .ok (span, some next)) : cursor < next ∧ next ≤ byteLength s := by
  obtain ⟨tail, htail, h⟩ := bind_eq_ok h
  have hlen : tail.length ≤ byteLength s - cursor := by
    rw [eq_of_range htail]
    simp
  split at h
  · cases h
  · rename_i i hfeed
    obtain ⟨feed, hadd, h⟩ := bind_eq_ok h
    obtain ⟨stop, -, h⟩ := bind_eq_ok h
    obtain ⟨next', hnext, h⟩ := bind_eq_ok h
    obtain rfl : next' = next := (Option.some.inj (Prod.mk.inj (Except.ok.inj h)).2)
    have hlt := (List.findIdx?_eq_some_iff_getElem.1 hfeed).1
    rw [eq_of_add hnext, eq_of_add hadd]
    omega

/-- Scans lines from an offset on, after a number of lines. -/
def scanLines (s : List Char) (number cursor : Nat) : Checked (List Span) := do
  let number ← add number 1
  match _ : scanLine s number cursor with
  | .error fault => .error fault
  | .ok (span, none) => return [span]
  | .ok (span, some next) =>
    let rest ← scanLines s number next
    return span :: rest
termination_by byteLength s - cursor
decreasing_by
  have := next_of_scanLine ‹scanLine s number cursor = .ok (span, some next)›
  omega

/-- Where no break is found, the scan ends with the line. -/
theorem scanLines_last {s : List Char} {number cursor : Nat} {span : Span}
    (hnumber : number + 1 < wordSize) (h : scanLine s (number + 1) cursor = .ok (span, none)) :
    scanLines s number cursor = .ok [span] := by
  rw [scanLines, add_eq_ok hnumber, ok_bind]
  split <;> simp_all

/-- After a break the scan goes on. -/
theorem scanLines_cons {s : List Char} {number cursor next : Nat} {span : Span}
    (hnumber : number + 1 < wordSize) (h : scanLine s (number + 1) cursor = .ok (span, some next)) :
    scanLines s number cursor = (scanLines s (number + 1) next).map (span :: ·) := by
  rw [scanLines, add_eq_ok hnumber, ok_bind]
  split <;> simp_all
  rfl

/-! ### One line -/

/-- Without a line feed none is found in the bytes. -/
theorem findIdx?_feed_eq_none {text : List Char} (h : '\n' ∉ text) :
    (bytes text).findIdx? (· = '\n'.toUInt8) = none := by
  rw [List.findIdx?_eq_none_iff]
  intro b hb
  exact decide_eq_false fun heq => toUInt8_not_mem_bytes rfl h (heq ▸ hb)

/-- The first line feed is found where the text before it stops. -/
theorem findIdx?_feed_eq_some {text : List Char} (h : '\n' ∉ text) (rest : List Char) :
    (bytes (text ++ '\n' :: rest)).findIdx? (· = '\n'.toUInt8) = some (byteLength text) := by
  rw [bytes_append, List.findIdx?_append, findIdx?_feed_eq_none h, bytes_cons,
    utf8EncodeChar_ascii rfl, List.singleton_append, List.findIdx?_cons, if_pos (decide_eq_true rfl)]
  simp

section

variable (front : List Char)

/-- Without a line feed ahead the line goes on to the end. -/
theorem scanLine_last {last : List Char} (h : '\n' ∉ last) (number : Nat) :
    scanLine (front ++ last) number (byteLength front) =
      .ok (⟨number, byteLength front, byteLength front + byteLength last⟩, none) := by
  have htail : range (bytes (front ++ last)) (byteLength front) (byteLength (front ++ last)) =
      .ok (bytes last) := by
    simpa using range_bytes front last []
  rw [scanLine, htail, ok_bind, findIdx?_feed_eq_none h]
  simp

/-- The first line feed ahead ends the line. -/
theorem scanLine_feed {text rest : List Char} (h : '\n' ∉ text) (number : Nat) {stop : Nat}
    (hsize : byteLength (front ++ (text ++ '\n' :: rest)) < wordSize)
    (hstop : contentStop (bytes (front ++ (text ++ '\n' :: rest))) (byteLength front)
      (byteLength front + byteLength text) = .ok stop) :
    scanLine (front ++ (text ++ '\n' :: rest)) number (byteLength front) =
      .ok (⟨number, byteLength front, stop⟩, some (byteLength front + byteLength text + 1)) := by
  have htail : range (bytes (front ++ (text ++ '\n' :: rest))) (byteLength front)
      (byteLength (front ++ (text ++ '\n' :: rest))) = .ok (bytes (text ++ '\n' :: rest)) := by
    simpa using range_bytes front (text ++ '\n' :: rest) []
  have hend : byteLength front + byteLength text + 1 < wordSize := by
    have hone : '\n'.utf8Size = 1 := rfl
    simp only [byteLength_append, byteLength_cons, hone] at hsize
    omega
  rw [scanLine, htail, ok_bind, findIdx?_feed_eq_some h]
  dsimp only
  rw [add_eq_ok (Nat.lt_of_succ_lt hend), ok_bind, hstop, ok_bind, add_eq_ok hend]
  rfl

/-- A carriage return before the line feed belongs to the terminator. -/
theorem contentStop_return (content rest : List Char) :
    contentStop (bytes (front ++ (content ++ '\r' :: rest))) (byteLength front)
      (byteLength front + byteLength (content ++ ['\r'])) =
      .ok (byteLength front + byteLength content) := by
  have hitem := item_lastByte (front ++ content) '\r' rest
  have hone : '\r'.utf8Size = 1 := rfl
  have hpos : byteLength front + byteLength (content ++ ['\r']) =
      byteLength (front ++ content ++ ['\r']) := by simp
  have htext : front ++ (content ++ '\r' :: rest) = front ++ content ++ ['\r'] ++ rest := by simp
  rw [contentStop, htext, hpos, if_pos (by simp; omega), sub_eq_ok (by simp; omega), ok_bind, hitem,
    ok_bind, if_pos (lastByte_ascii rfl)]
  simp [hone]

/-- Without one before it, a line feed is the whole terminator. -/
theorem contentStop_bare {content : List Char} (h : content.getLast? ≠ some '\r')
    (rest : List Char) :
    contentStop (bytes (front ++ (content ++ rest))) (byteLength front)
      (byteLength front + byteLength content) = .ok (byteLength front + byteLength content) := by
  cases hlast : content.getLast? with
  | none =>
    rw [List.getLast?_eq_none_iff.1 hlast, contentStop, if_neg (by simp)]
    rfl
  | some c =>
    obtain ⟨init, rfl⟩ := List.getLast?_eq_some_iff.1 hlast
    have hc : c ≠ '\r' := fun heq => h (heq ▸ hlast)
    have hpos : 0 < c.utf8Size := c.utf8Size_pos
    have hitem := item_lastByte (front ++ init) c rest
    have hend : byteLength front + byteLength (init ++ [c]) = byteLength (front ++ init ++ [c]) := by
      simp
    have htext : front ++ (init ++ [c] ++ rest) = front ++ init ++ [c] ++ rest := by simp
    rw [contentStop, htext, hend, if_pos (by simp; omega), sub_eq_ok (by simp; omega), ok_bind, hitem,
      ok_bind, if_neg fun heq => hc ((lastByte_eq_iff rfl).1 heq)]
    rfl

/-- **A scanned line stops where its content does, and leads past its terminator.** -/
theorem scanLine_terminated {e : Terminated} (h : e.Proper) (rest : List Char) (number : Nat)
    (hsize : byteLength (front ++ (e.content ++ (e.terminator.chars ++ rest))) < wordSize) :
    scanLine (front ++ (e.content ++ (e.terminator.chars ++ rest))) number (byteLength front) =
      .ok (⟨number, byteLength front, byteLength front + byteLength e.content⟩,
        some (byteLength (front ++ e.chars))) := by
  obtain ⟨content, terminator⟩ := e
  obtain ⟨hfeed, hreturn⟩ := h
  cases terminator with
  | lineFeed =>
    have hscan := scanLine_feed front hfeed number hsize
      (contentStop_bare front (hreturn rfl) _)
    have hnext : byteLength (front ++ Terminated.chars ⟨content, .lineFeed⟩) =
        byteLength front + byteLength content + 1 := by
      simp [Terminated.chars, Terminator.chars, Nat.add_assoc]
      rfl
    rw [hnext]
    exact hscan
  | carriageReturnLineFeed =>
    have htext : content ++ (Terminator.carriageReturnLineFeed.chars ++ rest) =
        content ++ ['\r'] ++ '\n' :: rest := by simp [Terminator.chars]
    have hstop := contentStop_return front content ('\n' :: rest)
    rw [htext] at hsize ⊢
    rw [List.append_cons] at hstop
    have hscan := scanLine_feed front (by simpa using hfeed) number hsize hstop
    have hnext : byteLength (front ++ Terminated.chars ⟨content, .carriageReturnLineFeed⟩) =
        byteLength front + byteLength (content ++ ['\r']) + 1 := by
      simp [Terminated.chars, Terminator.chars, Nat.add_assoc]
      rfl
    rw [hnext]
    exact hscan

end

/-! ### All lines -/

/-- Scanning from between two lines on gives the layout of what is ahead. -/
theorem scanLines_joined {pairs : List Terminated} {last : List Char}
    (hpairs : ∀ e ∈ pairs, e.Proper) (hlast : '\n' ∉ last) (front : List Char) (number : Nat)
    (hnumber : number + pairs.length + 1 < wordSize)
    (hsize : byteLength (front ++ Terminated.joined pairs last) < wordSize) :
    scanLines (front ++ Terminated.joined pairs last) number (byteLength front) =
      .ok ((Line.laid (number + 1) front.reverse pairs last).map Line.span) := by
  induction pairs generalizing front number with
  | nil =>
    change scanLines (front ++ last) number (byteLength front) = _
    rw [scanLines_last (by simpa using hnumber) (scanLine_last front hlast _)]
    simp [Line.laid, Line.span, Line.start, Line.stop]
  | cons e pairs ih =>
    rw [List.forall_mem_cons] at hpairs
    rw [List.length_cons] at hnumber
    have hscan := scanLine_terminated front hpairs.1 (Terminated.joined pairs last) (number + 1)
    have htext : front ++ e.chars ++ Terminated.joined pairs last =
        front ++ (e.content ++ (e.terminator.chars ++ Terminated.joined pairs last)) := by
      simp [Terminated.chars]
    rw [Terminated.joined_cons] at hsize ⊢
    have hrest := ih hpairs.2 (front ++ e.chars) (number + 1) (by omega) (htext ▸ hsize)
    rw [htext] at hrest
    rw [scanLines_cons (by omega) (hscan hsize), hrest, Line.laid]
    simp [Line.span, Line.start, Line.stop, Except.map]

/-- **Scanning a text never faults and finds its lines.** -/
theorem scanLines_eq_ok {s : List Char} (h : byteLength s + 1 < wordSize) :
    scanLines s 0 0 = .ok ((Line.ofText s).map Line.span) := by
  obtain ⟨pairs, last, hpairs, hlast, rfl⟩ := Terminated.exists_joined s
  have hcount := Terminated.count_joined hpairs hlast
  have hle := List.count_le_length (a := '\n') (l := Terminated.joined pairs last)
  have hlen := length_le_byteLength (Terminated.joined pairs last)
  rw [Line.ofText_joined hpairs hlast]
  exact scanLines_joined hpairs hlast [] 0 (by omega) (by simpa using Nat.lt_of_succ_lt h)

end Checked
end YamlStyle
