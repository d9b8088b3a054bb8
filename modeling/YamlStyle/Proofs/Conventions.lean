/-
# Either kind of line break

A text whose line feeds stand alone can be written with a carriage return before
each of them (`Text.withReturns`).  It keeps its lines: cutting the text that has
the carriage returns gives the same lines, with carriage returns in what is behind
and ahead of each (`Line.ofText_withReturns`).  So a rule that looks at numbers and
contents only cannot tell the two texts apart.

The rule on blank lines looks further, at the breaks ahead of a line and behind it,
and reads the two kinds in different ways: backwards it first takes pairs of
characters and then single ones.  On a text of one kind only one of the two loops
runs, and both count the same breaks (`EmptyLines.countBreaks_withReturns`).  The
rule on the kind of line breaks does tell the texts apart, and so that each
convention accepts one of them and refuses every break of the other
(`LineRule.findings_withReturns`).
-/

import YamlStyle.Proofs.Lines
import YamlStyle.Rule.Basic

namespace YamlStyle

/-! ### Carriage returns before line feeds -/

namespace Text

/-- A text with a carriage return before every line feed. -/
def withReturns (s : List Char) : List Char :=
  s.flatMap fun c => if c = '\n' then ['\r', '\n'] else [c]

/-- No line feed of the text has a carriage return right before it. -/
def HasBareFeeds (s : List Char) : Prop := ¬ ['\r', '\n'] <:+: s

instance (s : List Char) : Decidable (HasBareFeeds s) :=
  inferInstanceAs (Decidable (¬ ['\r', '\n'] <:+: s))

/-- There is nothing to replace in the empty text. -/
@[simp] theorem withReturns_nil : withReturns [] = [] := rfl

/-- A line feed gets a carriage return before it. -/
@[simp] theorem withReturns_feed (s : List Char) :
    withReturns ('\n' :: s) = '\r' :: '\n' :: withReturns s := rfl

/-- Other characters stay. -/
theorem withReturns_cons {c : Char} (hc : c ≠ '\n') (s : List Char) :
    withReturns (c :: s) = c :: withReturns s := by
  simp [withReturns, hc]

/-- Each part of a text is replaced by itself. -/
@[simp] theorem withReturns_append (s t : List Char) :
    withReturns (s ++ t) = withReturns s ++ withReturns t := by
  simp [withReturns]

/-- A text without line feeds stays as it is. -/
theorem withReturns_of_not_mem {s : List Char} (h : '\n' ∉ s) : withReturns s = s := by
  induction s with
  | nil => rfl
  | cons c s ih =>
    rw [List.mem_cons, not_or] at h
    rw [withReturns_cons (fun hc => h.1 hc.symm), ih h.2]

/-- Replacing never empties a text. -/
@[simp] theorem withReturns_eq_nil_iff {s : List Char} : withReturns s = [] ↔ s = [] := by
  refine ⟨fun h => ?_, fun h => by rw [h]; rfl⟩
  cases s with
  | nil => rfl
  | cons c s =>
    by_cases hc : c = '\n'
    · subst hc
      cases h
    · rw [withReturns_cons hc] at h
      cases h

/-- A break with a carriage return comes from a line feed. -/
theorem startsWith_withReturns (s : List Char) :
    startsWith (withReturns s) ['\r', '\n'] = startsWith s ['\n'] := by
  cases s with
  | nil => rfl
  | cons c s =>
    by_cases hc : c = '\n'
    · subst hc
      simp [startsWith]
    · rw [withReturns_cons hc]
      -- a carriage return of the text is not followed by a line feed any more
      have hnext : startsWith (withReturns s) ['\n'] = false := by
        cases s with
        | nil => rfl
        | cons d s =>
          by_cases hd : d = '\n'
          · subst hd
            rfl
          · rw [withReturns_cons hd]
            simp [startsWith, hd]
      simp [startsWith, hc, hnext]

end Text

/-! ### Lines -/

namespace Terminated

/-- The content with a carriage return in its terminator. -/
def withReturn (e : Terminated) : Terminated := ⟨e.content, .carriageReturnLineFeed⟩

/-- A pair stays proper with the longer terminator. -/
theorem Proper.withReturn {e : Terminated} (h : e.Proper) : e.withReturn.Proper :=
  ⟨h.lineFeed_not_mem, fun hterm => nomatch hterm⟩

/-- A carriage return is added to the terminator and nowhere else. -/
theorem withReturns_chars {e : Terminated} (h : e.Proper) (hterm : e.terminator = .lineFeed) :
    Text.withReturns e.chars = e.withReturn.chars := by
  rw [chars, Text.withReturns_append, Text.withReturns_of_not_mem h.lineFeed_not_mem, hterm]
  rfl

/-- In a text of lines, replacing changes the terminators and nothing else. -/
theorem withReturns_joined {pairs : List Terminated} {last : List Char}
    (hpairs : ∀ e ∈ pairs, e.Proper ∧ e.terminator = .lineFeed) (hlast : '\n' ∉ last) :
    Text.withReturns (joined pairs last) = joined (pairs.map withReturn) last := by
  induction pairs with
  | nil => exact Text.withReturns_of_not_mem hlast
  | cons e pairs ih =>
    rw [List.forall_mem_cons] at hpairs
    obtain ⟨⟨hproper, hterm⟩, hpairs⟩ := hpairs
    have hcons : ∀ (e : Terminated) pairs,
        joined (e :: pairs) last = e.chars ++ joined pairs last :=
      fun e pairs => by rw [joined_cons, ← List.append_assoc]; rfl
    rw [List.map_cons, hcons, hcons, Text.withReturns_append, withReturns_chars hproper hterm,
      ih hpairs]

/-- Where line feeds are bare, so are the terminators. -/
theorem terminator_of_hasBareFeeds {pairs : List Terminated} {last : List Char}
    (h : Text.HasBareFeeds (joined pairs last)) {e : Terminated} (he : e ∈ pairs) :
    e.terminator = .lineFeed := by
  cases hterm : e.terminator with
  | lineFeed => rfl
  | carriageReturnLineFeed =>
    refine absurd ?_ h
    have hchars : ['\r', '\n'] <:+: e.chars := ⟨e.content, [], by rw [chars, hterm]; simp; rfl⟩
    obtain ⟨front, back, rfl⟩ := List.append_of_mem he
    exact hchars.trans ⟨front.flatMap chars, back.flatMap chars ++ last, by simp [joined]⟩

end Terminated

namespace Line

open Terminated

/-- A line with carriage returns in what is behind it and ahead of it. -/
def withReturns (l : Line) : Line :=
  ⟨l.number, (Text.withReturns l.behind.reverse).reverse, l.content, Text.withReturns l.ahead⟩

/-- The lines of the replaced text are the lines of the text, replaced one by one. -/
theorem laid_withReturn {pairs : List Terminated} {last : List Char}
    (hpairs : ∀ e ∈ pairs, e.Proper ∧ e.terminator = .lineFeed) (hlast : '\n' ∉ last) (number : Nat)
    (behind : List Char) :
    laid number (Text.withReturns behind.reverse).reverse (pairs.map withReturn) last =
      (laid number behind pairs last).map withReturns := by
  induction pairs generalizing number behind with
  | nil => rfl
  | cons e pairs ih =>
    have hjoined := withReturns_joined (List.forall_mem_cons.1 hpairs).2 hlast
    rw [List.forall_mem_cons] at hpairs
    obtain ⟨⟨hproper, hterm⟩, hpairs⟩ := hpairs
    have hbehind : e.withReturn.chars.reverse ++ (Text.withReturns behind.reverse).reverse =
        (Text.withReturns (e.chars.reverse ++ behind).reverse).reverse := by
      simp [withReturns_chars hproper hterm]
    rw [List.map_cons, laid, laid, List.map_cons, hbehind, ih hpairs, ← hjoined, hterm]
    rfl

/-- **Carriage returns before line feeds keep the lines.** -/
theorem ofText_withReturns {s : List Char} (h : Text.HasBareFeeds s) :
    ofText (Text.withReturns s) = (ofText s).map withReturns := by
  obtain ⟨pairs, last, hpairs, hlast, rfl⟩ := exists_joined s
  have hfeeds : ∀ e ∈ pairs, e.Proper ∧ e.terminator = .lineFeed :=
    fun e he => ⟨hpairs e he, terminator_of_hasBareFeeds h he⟩
  have hreturns : ∀ e ∈ pairs.map withReturn, e.Proper := by
    intro e' he'
    obtain ⟨e, he, rfl⟩ := List.mem_map.1 he'
    exact (hpairs e he).withReturn
  rw [withReturns_joined hfeeds hlast, ofText_joined hreturns hlast, ofText_joined hpairs hlast]
  exact laid_withReturn hfeeds hlast 1 []

/-- The break after a line, if there is one, is a bare line feed, and so are all
breaks behind the line. -/
structure HasBareFeeds (l : Line) : Prop where
  behind : Text.HasBareFeeds l.behind.reverse
  ahead : l.ahead = [] ∨ ∃ rest, l.ahead = '\n' :: rest

/-- After the content of a line comes the terminator of its pair, or the end. -/
theorem ahead_of_mem_laid {number : Nat} {behind : List Char} {pairs : List Terminated}
    {last : List Char} {l : Line} (h : l ∈ laid number behind pairs last) :
    l.ahead = [] ∨ ∃ e ∈ pairs, ∃ rest, l.ahead = e.terminator.chars ++ rest := by
  induction pairs generalizing number behind with
  | nil =>
    obtain rfl := List.mem_singleton.1 h
    exact Or.inl rfl
  | cons e pairs ih =>
    rcases List.mem_cons.1 h with rfl | h
    · exact Or.inr ⟨e, List.mem_cons_self .., _, rfl⟩
    · rcases ih h with hnil | ⟨e', he', hrest⟩
      · exact Or.inl hnil
      · exact Or.inr ⟨e', List.mem_cons_of_mem _ he', hrest⟩

/-- In a text with bare line feeds each line ends with one or not at all. -/
theorem hasBareFeeds_of_mem {s : List Char} (h : Text.HasBareFeeds s) {l : Line}
    (hl : l ∈ ofText s) : l.HasBareFeeds := by
  obtain ⟨pairs, last, hpairs, hlast, rfl⟩ := exists_joined s
  rw [ofText_joined hpairs hlast] at hl
  refine ⟨fun hbehind => h ?_, ?_⟩
  · refine hbehind.trans ⟨[], l.content ++ l.ahead, ?_⟩
    rw [List.nil_append, ← List.append_assoc]
    exact append_of_mem_laid 1 [] pairs last hl
  · refine (ahead_of_mem_laid hl).imp_right ?_
    rintro ⟨e, he, rest, hahead⟩
    rw [terminator_of_hasBareFeeds h he] at hahead
    exact ⟨rest, hahead⟩

/-- The line keeps its number. -/
@[simp] theorem number_withReturns (l : Line) : l.withReturns.number = l.number := rfl

/-- An empty line stays empty, and no other line becomes so. -/
@[simp] theorem isEmpty_withReturns (l : Line) : l.withReturns.isEmpty = l.isEmpty := rfl

/-- The line keeps its length. -/
@[simp] theorem charLength_withReturns (l : Line) : l.withReturns.charLength = l.charLength := rfl

/-- The last line stays the last. -/
@[simp] theorem isLast_withReturns (l : Line) : l.withReturns.isLast = l.isLast := by
  rw [Bool.eq_iff_iff, isLast, isLast, List.isEmpty_iff, List.isEmpty_iff, withReturns,
    Text.withReturns_eq_nil_iff]

/-- Blank lines stay blank. -/
@[simp] theorem isBlank_withReturns (l : Line) : l.withReturns.isBlank = l.isBlank := by
  rw [isBlank, isEmpty_withReturns, isLast_withReturns, isBlank]

/-- A terminated line is followed by a line feed. -/
theorem HasBareFeeds.startsWith_ahead {l : Line} (h : l.HasBareFeeds) (t : Terminator) :
    Text.startsWith l.ahead t.chars = (!l.isLast && t = .lineFeed) := by
  rcases h.ahead with hahead | ⟨rest, hahead⟩ <;>
    cases t <;> simp [hahead, isLast, Terminator.chars, Text.startsWith]

/-- With carriage returns, a terminated line is followed by both characters. -/
theorem HasBareFeeds.startsWith_withReturns {l : Line} (h : l.HasBareFeeds) (t : Terminator) :
    Text.startsWith l.withReturns.ahead t.chars =
      (!l.isLast && t = .carriageReturnLineFeed) := by
  rcases h.ahead with hahead | ⟨rest, hahead⟩ <;>
    cases t <;> simp [hahead, isLast, withReturns, Terminator.chars, Text.startsWith]

end Line

/-! ### Blank lines -/

namespace EmptyLines

/-- Where no pair of characters is a break, all breaks are counted one by one. -/
theorem countBreaks_of_hasBareFeeds {behind : List Char} (h : Text.HasBareFeeds behind.reverse)
    (count : Nat) : countBreaks count behind = countFeeds count behind := by
  rw [countBreaks]
  rintro rest rfl
  exact h ⟨rest.reverse, [], by simp⟩

/-- **Both ways of counting agree:** pair by pair where every line feed has a
carriage return, and one by one where none has. -/
theorem countBreaks_withReturns (count : Nat) (behind : List Char) :
    countBreaks count (Text.withReturns behind.reverse).reverse =
      ((countFeeds count behind).1,
        (Text.withReturns (countFeeds count behind).2.reverse).reverse) := by
  induction behind generalizing count with
  | nil => rfl
  | cons c behind ih =>
    by_cases hc : c = '\n'
    · subst hc
      have hcons : (Text.withReturns ('\n' :: behind).reverse).reverse =
          '\n' :: '\r' :: (Text.withReturns behind.reverse).reverse := by simp
      rw [hcons, countBreaks, ih]
      rfl
    · have hcons : (Text.withReturns (c :: behind).reverse).reverse =
          c :: (Text.withReturns behind.reverse).reverse := by
        rw [List.reverse_cons, Text.withReturns_append, Text.withReturns_cons hc]
        simp
      have hstop : ∀ near, countFeeds count (c :: near) = (count, c :: near) := by
        intro near
        rw [countFeeds]
        rintro rest hcons
        exact hc (List.cons.inj hcons).1
      rw [hcons, hstop, countBreaks, hstop, hcons]
      rintro rest hcons
      exact hc (List.cons.inj hcons).1

variable {l : Line} (h : l.HasBareFeeds)
include h

/-- A run goes on after the line if it did. -/
theorem continues_withReturns : continues l.withReturns = continues l := by
  unfold continues
  rcases h.ahead with hahead | ⟨rest, hahead⟩
  · simp [Line.withReturns, hahead, Text.startsWith]
  · simpa [Line.withReturns, hahead, Text.startsWith] using Text.startsWith_withReturns rest

/-- The text ends with the line if it did. -/
theorem endsText_withReturns : endsText l.withReturns = endsText l := by
  unfold endsText
  rcases h.ahead with hahead | ⟨rest, hahead⟩
  · simp [Line.withReturns, hahead]
  · simp [Line.withReturns, hahead]

/-- The run up to the line is as long as it was, and the same limit holds for it. -/
theorem countUpTo_withReturns (o : Options) : countUpTo o l.withReturns = countUpTo o l := by
  unfold countUpTo
  have hcount : countBreaks 0 l.withReturns.behind = _ := countBreaks_withReturns 0 l.behind
  rw [hcount, countBreaks_of_hasBareFeeds h.behind]
  obtain ⟨count, rest⟩ := countFeeds 0 l.behind
  cases rest with
  | nil => rfl
  | cons c rest =>
    have hne : (Text.withReturns (c :: rest).reverse).reverse ≠ [] := by simp
    cases hrest : (Text.withReturns (c :: rest).reverse).reverse with
    | nil => exact absurd hrest hne
    | cons d rest' => rfl

/-- The rule on blank lines reports the same. -/
theorem check_withReturns (o : Options) : check o l.withReturns = check o l := by
  have hbehind : l.withReturns.behind.isEmpty = l.behind.isEmpty := by
    rw [Bool.eq_iff_iff, List.isEmpty_iff, List.isEmpty_iff]
    simp [Line.withReturns]
  unfold check
  rw [Line.isBlank_withReturns, continues_withReturns h, countUpTo_withReturns h,
    endsText_withReturns h, hbehind]
  rfl

end EmptyLines

/-! ### The kind of line breaks -/

namespace NewLines

/-- The places that the rule flags in a text under a convention. -/
def flagged (c : Convention) (s : List Char) : List (Nat × Nat) :=
  ((Line.ofText s).flatMap (check ⟨c⟩)).map fun f => (f.line, f.column)

/-- The places right after the contents of the terminated lines of a text. -/
def breaks (s : List Char) : List (Nat × Nat) :=
  ((Line.ofText s).filter (!·.isLast)).map fun l => (l.number, l.charLength + 1)

/-- Where all terminators are of one kind, a convention of that kind flags nothing
and one of the other kind flags every break. -/
theorem flagged_eq {c : Convention} {s : List Char} {own : Terminator}
    (h : ∀ l ∈ Line.ofText s,
      Text.startsWith l.ahead c.terminator.chars = (!l.isLast && c.terminator = own)) :
    flagged c s = if c.terminator = own then [] else breaks s := by
  unfold flagged breaks
  generalize Line.ofText s = lines at h
  induction lines with
  | nil => simp
  | cons l lines ih =>
    rw [List.forall_mem_cons] at h
    rw [List.flatMap_cons, List.map_append, ih h.2, List.filter_cons]
    have hcheck : check ⟨c⟩ l = if l.isLast || c.terminator = own then []
        else [⟨l.number, l.charLength + 1, .wrongTerminator c.terminator⟩] := by
      rw [check, h.1]
      cases l.isLast <;> rfl
    rw [hcheck]
    by_cases hown : c.terminator = own <;> cases l.isLast <;> simp [hown]

/-- A text with carriage returns has its breaks at the same places. -/
theorem breaks_withReturns {s : List Char} (h : Text.HasBareFeeds s) :
    breaks (Text.withReturns s) = breaks s := by
  rw [breaks, Line.ofText_withReturns h, List.filter_map, List.map_map]
  simp [breaks, Function.comp_def]

/-- Where all breaks are bare line feeds, all of them are flagged or none. -/
theorem flagged_of_hasBareFeeds {s : List Char} (h : Text.HasBareFeeds s) (c : Convention) :
    flagged c s = if c.terminator = .lineFeed then [] else breaks s :=
  flagged_eq fun _ hl => (Line.hasBareFeeds_of_mem h hl).startsWith_ahead _

/-- With carriage returns before them, all breaks are flagged or none, by the other
convention. -/
theorem flagged_withReturns {s : List Char} (h : Text.HasBareFeeds s) (c : Convention) :
    flagged c (Text.withReturns s) =
      if c.terminator = .carriageReturnLineFeed then [] else breaks s := by
  rw [← breaks_withReturns h]
  refine flagged_eq fun l' hl' => ?_
  rw [Line.ofText_withReturns h] at hl'
  obtain ⟨l, hl, rfl⟩ := List.mem_map.1 hl'
  rw [Line.isLast_withReturns]
  exact (Line.hasBareFeeds_of_mem h hl).startsWith_withReturns _

end NewLines

namespace LineRule

/-- A rule that does not ask for a kind of line break finds the same in a line with
carriage returns. -/
theorem check_withReturns {r : LineRule} (hr : r ≠ .newLines) (o : r.Options) {l : Line}
    (h : l.HasBareFeeds) : r.check o l.withReturns = r.check o l := by
  cases r with
  | emptyLines => exact EmptyLines.check_withReturns h o
  | lineLength => rfl
  | newLineAtEndOfFile => simp [check, FinalNewLine.check]
  | newLines => exact absurd rfl hr
  | trailingSpaces => rfl

/-- **The findings do not depend on the kind of line breaks.**  A text whose line
feeds stand alone keeps the numbers and contents of its lines when each line feed
gets a carriage return, and every rule on lines but the one that asks for a kind of
line break finds the same in every line.  That rule accepts the text under the
convention it is written in, and under the other one flags every terminated line,
at the same places in both texts. -/
theorem findings_withReturns (s : List Char) (h : Text.HasBareFeeds s) :
    let t := Text.withReturns s
    (Line.ofText t).map (fun l => (l.number, l.content)) =
        (Line.ofText s).map (fun l => (l.number, l.content)) ∧
      (∀ r : LineRule, r ≠ .newLines → ∀ o : r.Options,
        (Line.ofText t).map (r.check o) = (Line.ofText s).map (r.check o)) ∧
      NewLines.flagged .dos s = NewLines.breaks s ∧ NewLines.flagged .unix t = NewLines.breaks s ∧
      NewLines.flagged .unix s = [] ∧ NewLines.flagged .dos t = [] := by
  intro t
  have hlines : Line.ofText t = (Line.ofText s).map Line.withReturns := Line.ofText_withReturns h
  refine ⟨?_, fun r hr o => ?_, NewLines.flagged_of_hasBareFeeds h .dos,
    NewLines.flagged_withReturns h .unix, NewLines.flagged_of_hasBareFeeds h .unix,
    NewLines.flagged_withReturns h .dos⟩
  · rw [hlines, List.map_map]
    rfl
  · rw [hlines, List.map_map]
    exact List.map_congr_left fun l hl => check_withReturns hr o (Line.hasBareFeeds_of_mem h hl)

/-- Three blank lines stand inside the text, a carriage return stands in a content
and one before the end, and the last line has no terminator. -/
theorem findings_withReturns_blank :
    let s := "a\rb \n\n\n\né\n \r".toList
    let t := "a\rb \r\n\r\n\r\n\r\né\r\n \r".toList
    Text.HasBareFeeds s ∧ Text.withReturns s = t ∧
      (Line.ofText t).map (fun l => (l.number, l.content)) =
        (Line.ofText s).map (fun l => (l.number, l.content)) ∧
      (Line.ofText s).flatMap (LineRule.check .emptyLines {}) =
        [⟨4, 1, .tooManyBlankLines 3 2⟩] ∧
      (Line.ofText t).map (LineRule.check .emptyLines {}) =
        (Line.ofText s).map (LineRule.check .emptyLines {}) ∧
      (Line.ofText t).map (LineRule.check .newLineAtEndOfFile {}) =
        (Line.ofText s).map (LineRule.check .newLineAtEndOfFile {}) ∧
      NewLines.flagged .dos s = [(1, 5), (2, 1), (3, 1), (4, 1), (5, 2)] ∧
      NewLines.flagged .unix t = [(1, 5), (2, 1), (3, 1), (4, 1), (5, 2)] ∧
      NewLines.flagged .unix s = [] ∧ NewLines.flagged .dos t = [] := by
  intro s t
  have hs : Text.HasBareFeeds s := by decide +kernel
  have ht : Text.withReturns s = t := by decide +kernel
  have hbreaks : NewLines.breaks s = [(1, 5), (2, 1), (3, 1), (4, 1), (5, 2)] := by decide +kernel
  obtain ⟨hlines, hrules, hdos, hunix, hown, hown'⟩ := findings_withReturns s hs
  rw [ht] at hlines hrules hunix hown'
  exact ⟨hs, ht, hlines, by decide +kernel, hrules .emptyLines (by decide) {},
    hrules .newLineAtEndOfFile (by decide) {}, hdos.trans hbreaks, hunix.trans hbreaks, hown, hown'⟩

end LineRule

end YamlStyle
