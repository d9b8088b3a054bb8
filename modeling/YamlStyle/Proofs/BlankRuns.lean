/-
# Runs of blank lines

A line is blank if it is empty and terminated.  Blank lines that follow each other
make up a run, and a run is taken as long as it can be (`BlankRun`), so every blank
line belongs to one (`BlankRun.exists_mem`).  Lines are counted by how many stand
before them, which is one less than their number.

In a text that is joined from contents and terminators, a run is a list of
terminators with no content before each, between a content that is not empty, or the
beginning, and another one, or the end (`BlankRun.LaidOut`).  There every line of the
run can be written down as a cut of the text (`BlankRun.LaidOut.getElem?`).  What is
said about runs in the modules that build on this one is read off these cuts.

If all line feeds of a text are bare, or all have a carriage return before them, the
terminators of a run are alike (`BlankRun.alike_of_uniform`).  In other texts they need
not be.
-/

import Mathlib.Data.List.Chain
import Mathlib.Data.Nat.Find
import YamlStyle.Proofs.Conventions
import YamlStyle.Proofs.Pointing

namespace YamlStyle

open Terminated

/-! ### Texts with one kind of terminator -/

/-- Every line feed of the text has a carriage return right before it. -/
structure Text.HasPairedFeeds (s : List Char) : Prop where
  head : s.head? ≠ some '\n'
  chain : s.IsChain fun c d => d = '\n' → c = '\r'

instance (s : List Char) : Decidable (Text.HasPairedFeeds s) :=
  decidable_of_iff (s.head? ≠ some '\n' ∧ s.IsChain fun c d => d = '\n' → c = '\r')
    ⟨fun h => ⟨h.1, h.2⟩, fun h => ⟨h.head, h.chain⟩⟩

namespace Terminated

/-- Pairs have no characters only if there are none, since each has its terminator. -/
theorem flatMap_chars_eq_nil_iff {pairs : List Terminated} :
    pairs.flatMap chars = [] ↔ pairs = [] := by
  refine ⟨fun h => ?_, fun h => by rw [h]; rfl⟩
  cases pairs with
  | nil => rfl
  | cons e pairs => cases hterm : e.terminator <;> simp [chars, hterm, Terminator.chars] at h

/-- Contents with terminators end in a line feed. -/
theorem eq_of_getLast?_flatMap_chars {pairs : List Terminated} {c : Char}
    (h : (pairs.flatMap chars).getLast? = some c) : c = '\n' := by
  induction pairs using List.reverseRecOn with
  | nil => cases h
  | append_singleton pairs e =>
    have hlast : e.terminator.chars.getLast? = some '\n' := by cases e.terminator <;> rfl
    rw [List.flatMap_append, List.flatMap_singleton, List.getLast?_append, chars,
      List.getLast?_append, hlast] at h
    exact (Option.some.inj h).symm

/-- Where every line feed has a carriage return, so has every terminator. -/
theorem terminator_of_hasPairedFeeds {pairs : List Terminated} {last : List Char}
    (hpairs : ∀ e ∈ pairs, e.Proper) (h : Text.HasPairedFeeds (joined pairs last))
    {e : Terminated} (he : e ∈ pairs) : e.terminator = .carriageReturnLineFeed := by
  cases hterm : e.terminator with
  | carriageReturnLineFeed => rfl
  | lineFeed =>
    have hproper := (hpairs e he).not_return hterm
    obtain ⟨front, back, rfl⟩ := List.append_of_mem he
    have hsplit : joined (front ++ e :: back) last =
        (front.flatMap chars ++ e.content) ++ '\n' :: joined back last := by
      simp [joined, chars, hterm, Terminator.chars]
    rw [hsplit] at h
    -- a carriage return before the line feed would end the content or a line before
    cases hbefore : (front.flatMap chars ++ e.content).getLast? with
    | none =>
      rw [List.getLast?_eq_none_iff] at hbefore
      rw [hbefore] at h
      exact absurd rfl h.head
    | some c =>
      obtain rfl : c = '\r' := (List.isChain_append.1 h.chain).2.2 c hbefore '\n' rfl rfl
      rw [List.getLast?_append, Option.or_eq_some_iff] at hbefore
      rcases hbefore with hreturn | ⟨-, hreturn⟩
      · exact absurd hreturn hproper
      · exact absurd (eq_of_getLast?_flatMap_chars hreturn) (by decide)

/-- A terminator after nothing. -/
def blank (t : Terminator) : Terminated := ⟨[], t⟩

end Terminated

/-! ### Lines by position -/

namespace Line

/-- The layout goes on in the same way after any of its contents. -/
theorem drop_laid (number : Nat) (behind : List Char) (front back : List Terminated)
    (last : List Char) :
    (laid number behind (front ++ back) last).drop front.length =
      laid (number + front.length) ((front.flatMap chars).reverse ++ behind) back last := by
  induction front generalizing number behind with
  | nil => rfl
  | cons e front ih =>
    have hnumber : number + 1 + front.length = number + (e :: front).length := by
      rw [List.length_cons]
      omega
    rw [List.cons_append, laid, List.length_cons, List.drop_succ_cons, ih, hnumber]
    simp

/-- The line after some contents. -/
theorem getElem?_ofText_joined {front back : List Terminated} {last : List Char}
    (hpairs : ∀ e ∈ front ++ back, e.Proper) (hlast : '\n' ∉ last) :
    (ofText (joined (front ++ back) last))[front.length]? =
      (laid (front.length + 1) (front.flatMap chars).reverse back last).head? := by
  rw [ofText_joined hpairs hlast, ← List.head?_drop, drop_laid, List.append_nil, Nat.add_comm]

/-- Whether the line after so many others is blank. -/
def blankAt (s : List Char) (i : Nat) : Bool := (ofText s)[i]?.any (·.isBlank)

/-- In a joined text the blank lines are the pairs that are blank. -/
theorem blankAt_joined {pairs : List Terminated} {last : List Char}
    (hpairs : ∀ e ∈ pairs, e.Proper) (hlast : '\n' ∉ last) {i : Nat} :
    blankAt (joined pairs last) i = true ↔ ∃ t, pairs[i]? = some (blank t) := by
  by_cases hi : i < pairs.length
  · have hsplit : pairs = pairs.take i ++ pairs[i] :: pairs.drop (i + 1) := by
      rw [← List.drop_eq_getElem_cons hi, List.take_append_drop]
    have hline := getElem?_ofText_joined (hsplit ▸ hpairs) hlast
    rw [← hsplit, List.length_take_of_le hi.le, laid, List.head?_cons] at hline
    rw [blankAt, hline, List.getElem?_eq_getElem hi]
    obtain ⟨content, t⟩ := pairs[i]
    cases content <;> cases t <;> simp [isBlank, isEmpty, isLast, blank, Terminator.chars]
  · have hnone : pairs[i]? = none := List.getElem?_eq_none (by omega)
    rw [blankAt, ofText_joined hpairs hlast, hnone]
    -- the line after all terminators is not terminated itself
    cases hline : (laid 1 [] pairs last)[i]? with
    | none => simp
    | some l =>
      have hlength := (List.getElem?_eq_some_iff.1 hline).1
      rw [length_laid] at hlength
      have hislast := (isLast_getElem?_laid 1 [] pairs last hline).2 (by omega)
      simp [isBlank, hislast]

end Line

/-! ### Runs -/

/-- A run of blank lines that goes on at neither side. -/
structure BlankRun (s : List Char) where
  /-- How many lines stand before the run. -/
  before : Nat
  length : Nat
  length_pos : 0 < length
  blank : ∀ i, before ≤ i → i < before + length → Line.blankAt s i = true
  start : before = 0 ∨ Line.blankAt s (before - 1) = false
  stop : Line.blankAt s (before + length) = false

namespace BlankRun

variable {s : List Char}

/-- The number of the last line of the run. -/
def last (r : BlankRun s) : Nat := r.before + r.length

/-- The terminator of a line of the run. -/
def terminator? (r : BlankRun s) (i : Nat) : Option Terminator :=
  (Line.ofText s)[r.before + i]?.bind (·.terminator?)

/-- All lines of the run have the same terminator. -/
def Alike (r : BlankRun s) : Prop := ∃ t, ∀ i < r.length, r.terminator? i = some t

/-- Whether the last terminator of the run ends the text: the line after the run starts
there. -/
def endsText (r : BlankRun s) : Bool :=
  (Line.ofText s)[r.before + r.length]?.any (·.start = Text.byteLength s)

/-- After finitely many lines comes one that is not blank. -/
theorem exists_stop (s : List Char) (i : Nat) : ∃ n, Line.blankAt s (i + n) = false := by
  refine ⟨(Line.ofText s).length, ?_⟩
  rw [Line.blankAt, List.getElem?_eq_none (by omega)]
  rfl

/-- The run that begins with a blank line after one that is not. -/
def startingAt (s : List Char) (i : Nat) (hblank : Line.blankAt s i = true)
    (hstart : i = 0 ∨ Line.blankAt s (i - 1) = false) : BlankRun s where
  before := i
  length := Nat.find (exists_stop s i)
  length_pos := by simp [hblank]
  blank j hle hlt := by
    have hmin := Nat.find_min (exists_stop s i) (m := j - i) (by omega)
    rw [Nat.add_sub_cancel' hle] at hmin
    simpa using hmin
  start := hstart
  stop := Nat.find_spec (exists_stop s i)

/-- The runs of a text, from the first to the last. -/
def all (s : List Char) : List (BlankRun s) :=
  (List.range (Line.ofText s).length).filterMap fun i =>
    if h : Line.blankAt s i = true ∧ (i = 0 ∨ Line.blankAt s (i - 1) = false) then
      some (startingAt s i h.1 h.2)
    else none

/-- The run that starts at a line has this line in it. -/
theorem mem_startingAt {i : Nat} (hblank : Line.blankAt s i = true)
    (hstart : i = 0 ∨ Line.blankAt s (i - 1) = false) :
    (startingAt s i hblank hstart).before ≤ i ∧
      i < (startingAt s i hblank hstart).before + (startingAt s i hblank hstart).length :=
  ⟨le_rfl, Nat.lt_add_of_pos_right (startingAt s i hblank hstart).length_pos⟩

/-- **Every blank line is in a run.** -/
theorem exists_mem {i : Nat} (h : Line.blankAt s i = true) :
    ∃ r : BlankRun s, r.before ≤ i ∧ i < r.before + r.length := by
  induction i with
  | zero => exact ⟨_, mem_startingAt h (Or.inl rfl)⟩
  | succ i ih =>
    cases hbefore : Line.blankAt s i with
    | false => exact ⟨_, mem_startingAt h (Or.inr hbefore)⟩
    | true =>
      obtain ⟨r, hle, hlt⟩ := ih hbefore
      refine ⟨r, by omega, ?_⟩
      -- the run of the line before does not stop at a blank line
      have hne : i + 1 ≠ r.before + r.length := by
        intro heq
        have hstop := r.stop
        rw [← heq, h] at hstop
        cases hstop
      omega

/-- A run stops before the next one starts. -/
theorem last_lt_before {q r : BlankRun s} (h : q.before < r.before) : q.last < r.before := by
  have hpos := r.length_pos
  have hblank := r.blank r.before le_rfl (by omega)
  rw [last]
  by_contra hle
  rcases Nat.lt_or_ge r.before (q.before + q.length) with hlt | hge
  · -- the line before the second run is in the first one
    have hstart := r.start.resolve_left (by omega)
    rw [q.blank (r.before - 1) (by omega) (by omega)] at hstart
    cases hstart
  · have hstop := q.stop
    rw [show q.before + q.length = r.before by omega, hblank] at hstop
    cases hstop

/-- Where a run starts, it stops at the first line that is not blank. -/
theorem eq_of_before_eq {q r : BlankRun s} (h : q.before = r.before) : q = r := by
  have hle : ∀ {q r : BlankRun s}, q.before = r.before → r.length ≤ q.length := by
    intro q r h
    by_contra hlt
    have hblank := r.blank (q.before + q.length) (by omega) (by omega)
    rw [q.stop] at hblank
    cases hblank
  have hlength : q.length = r.length := Nat.le_antisymm (hle h.symm) (hle h)
  cases q
  cases r
  simp only at h hlength
  subst h hlength
  rfl

/-- All runs of a text are listed. -/
theorem mem_all (r : BlankRun s) : r ∈ all s := by
  have hpos := r.length_pos
  have hblank := r.blank r.before le_rfl (by omega)
  have hlt : r.before < (Line.ofText s).length := by
    by_contra hge
    rw [Line.blankAt, List.getElem?_eq_none (by omega)] at hblank
    cases hblank
  refine List.mem_filterMap.2 ⟨r.before, List.mem_range.2 hlt, ?_⟩
  rw [dif_pos ⟨hblank, r.start⟩]
  exact congrArg some (eq_of_before_eq rfl)

/-- Runs are listed from the first to the last, and do not meet. -/
theorem pairwise_all (s : List Char) : (all s).Pairwise fun q r => q.last < r.before := by
  refine List.Pairwise.filterMap _ (fun i j hlt q hq r hr => last_lt_before ?_)
    List.pairwise_lt_range
  split_ifs at hq hr
  rwa [← Option.some.inj hq, ← Option.some.inj hr]

/-! ### Runs in a layout -/

/-- A run as a list of terminators in a text that is joined from contents and
terminators. -/
structure LaidOut (r : BlankRun s) (front : List Terminated) (ts : List Terminator)
    (back : List Terminated) (last : List Char) : Prop where
  proper : ∀ e ∈ front ++ (ts.map Terminated.blank ++ back), e.Proper
  feed_not_mem : '\n' ∉ last
  text : joined (front ++ (ts.map Terminated.blank ++ back)) last = s
  before : front.length = r.before
  length : ts.length = r.length
  start : ∀ e, front.getLast? = some e → e.content ≠ []
  stop : ∀ e, back.head? = some e → e.content ≠ []

/-- Every run lies somewhere in the layout of its text. -/
theorem exists_laidOut (r : BlankRun s) : ∃ front ts back last, r.LaidOut front ts back last := by
  obtain ⟨pairs, last, hpairs, hlast, rfl⟩ := exists_joined s
  have hblank : ∀ i < r.length, ∃ t, pairs[r.before + i]? = some (Terminated.blank t) :=
    fun i hi => (Line.blankAt_joined hpairs hlast).1 (r.blank _ (by omega) (by omega))
  have hlength : r.before + r.length ≤ pairs.length := by
    obtain ⟨t, ht⟩ := hblank (r.length - 1) (by have := r.length_pos; omega)
    have := (List.getElem?_eq_some_iff.1 ht).1
    omega
  have hself : ∀ e ∈ (pairs.drop r.before).take r.length, Terminated.blank e.terminator = e := by
    intro e he
    obtain ⟨i, hi⟩ := List.mem_iff_getElem?.1 he
    rw [List.getElem?_take] at hi
    split_ifs at hi with hlt
    obtain ⟨t, ht⟩ := hblank i hlt
    rw [List.getElem?_drop, ht] at hi
    rw [← Option.some.inj hi]
    rfl
  have hts : (((pairs.drop r.before).take r.length).map (·.terminator)).map Terminated.blank =
      (pairs.drop r.before).take r.length := by
    rw [List.map_map]
    exact (List.map_congr_left hself).trans (List.map_id _)
  have hpieces : pairs.take r.before ++ ((pairs.drop r.before).take r.length ++
      pairs.drop (r.before + r.length)) = pairs := by
    rw [← List.drop_drop, List.take_append_drop, List.take_append_drop]
  -- a line beside the run is not blank, so its content is not empty
  have hcontent : ∀ {i e}, Line.blankAt (joined pairs last) i = false → pairs[i]? = some e →
      e.content ≠ [] := by
    rintro i ⟨_, t⟩ hi he rfl
    rw [(Line.blankAt_joined hpairs hlast).2 ⟨t, he⟩] at hi
    cases hi
  refine ⟨pairs.take r.before, ((pairs.drop r.before).take r.length).map (·.terminator),
    pairs.drop (r.before + r.length), last, ?_, hlast, ?_, ?_, ?_, fun e he => ?_, fun e he => ?_⟩
  · rwa [hts, hpieces]
  · rw [hts, hpieces]
  · exact List.length_take_of_le (by omega)
  · rw [List.length_map, List.length_take, List.length_drop]
    omega
  · rw [List.getLast?_take] at he
    split_ifs at he with hzero
    have hlt : r.before - 1 < pairs.length := by omega
    rw [List.getElem?_eq_getElem hlt, Option.some_or, ← List.getElem?_eq_getElem hlt] at he
    exact hcontent (r.start.resolve_left hzero) he
  · rw [List.head?_drop] at he
    exact hcontent r.stop he

namespace LaidOut

variable {r : BlankRun s} {front back : List Terminated} {ts us vs : List Terminator}
  {t : Terminator} {last : List Char}

/-- A line of the run as a cut of the text. -/
theorem getElem? (h : r.LaidOut front (us ++ t :: vs) back last) :
    (Line.ofText s)[r.before + us.length]? =
      some ⟨r.before + us.length + 1, ((front ++ us.map Terminated.blank).flatMap chars).reverse,
        [], t.chars ++ joined (vs.map Terminated.blank ++ back) last⟩ := by
  have hsplit : front ++ ((us ++ t :: vs).map Terminated.blank ++ back) =
      (front ++ us.map Terminated.blank) ++
        Terminated.blank t :: (vs.map Terminated.blank ++ back) := by simp
  have hline := Line.getElem?_ofText_joined (hsplit ▸ h.proper) h.feed_not_mem
  rw [← hsplit, h.text, List.length_append, List.length_map, h.before] at hline
  exact hline

/-- A line of the run, as the layout has it. -/
theorem cut (h : r.LaidOut front (us ++ t :: vs) back last) {l : Line}
    (hl : (Line.ofText s)[r.before + us.length]? = some l) :
    l.isBlank = true ∧ l.number = r.before + us.length + 1 ∧
      l.behind = ((front ++ us.map Terminated.blank).flatMap chars).reverse ∧
      l.ahead = t.chars ++ joined (vs.map Terminated.blank ++ back) last := by
  rw [h.getElem?] at hl
  obtain rfl := Option.some.inj hl
  refine ⟨?_, rfl, rfl, rfl⟩
  cases t <;> rfl

/-- The terminators of a run are those of its layout. -/
theorem terminator? (h : r.LaidOut front ts back last) (i : Nat) (hi : i < r.length) :
    r.terminator? i = ts[i]? := by
  have hlt : i < ts.length := h.length ▸ hi
  have hsplit : ts = ts.take i ++ ts[i] :: ts.drop (i + 1) := by
    rw [← List.drop_eq_getElem_cons hlt, List.take_append_drop]
  have hline := getElem? (hsplit ▸ h)
  rw [List.length_take_of_le hlt.le] at hline
  rw [BlankRun.terminator?, hline, List.getElem?_eq_getElem hlt]
  exact Terminator.read?_chars_append _ _

/-- The terminators of a run are alike if they are copies of one. -/
theorem alike_iff (h : r.LaidOut front ts back last) :
    r.Alike ↔ ∃ t, ts = List.replicate r.length t := by
  have hmem : ∀ t, (∀ i < r.length, r.terminator? i = some t) ↔ ∀ u ∈ ts, u = t := by
    intro t
    constructor
    · intro halike u hu
      obtain ⟨i, hi⟩ := List.mem_iff_getElem?.1 hu
      have hlt : i < r.length := h.length ▸ (List.getElem?_eq_some_iff.1 hi).1
      have ht := halike i hlt
      rw [h.terminator? i hlt, hi] at ht
      exact Option.some.inj ht
    · intro halike i hi
      have hlt : i < ts.length := h.length ▸ hi
      rw [h.terminator? i hi, List.getElem?_eq_getElem hlt, halike _ (List.getElem_mem hlt)]
  simp only [Alike, hmem, List.eq_replicate_iff, h.length, true_and]

/-- The run ends the text if nothing stands after it. -/
theorem endsText_iff (h : r.LaidOut front ts back last) :
    r.endsText = true ↔ joined back last = [] := by
  have hsplit : front ++ (ts.map Terminated.blank ++ back) =
      (front ++ ts.map Terminated.blank) ++ back := (List.append_assoc ..).symm
  have hline := Line.getElem?_ofText_joined (hsplit ▸ h.proper) h.feed_not_mem
  rw [← hsplit, h.text, List.length_append, List.length_map, h.before, h.length] at hline
  have hbytes : Text.byteLength s =
      Text.byteLength ((front ++ ts.map Terminated.blank).flatMap chars).reverse +
        Text.byteLength (joined back last) := by
    rw [← h.text, hsplit, Text.byteLength_reverse, ← Text.byteLength_append]
    simp [joined]
  have hstart : r.endsText = decide (Text.byteLength
      ((front ++ ts.map Terminated.blank).flatMap chars).reverse = Text.byteLength s) := by
    rw [endsText, hline]
    cases back <;> rfl
  rw [hstart, decide_eq_true_iff, ← Text.byteLength_eq_zero_iff, hbytes]
  omega

end LaidOut

/-- In a text with one kind of terminator, those of a run are alike. -/
theorem alike_of_uniform (h : Text.HasBareFeeds s ∨ Text.HasPairedFeeds s) (r : BlankRun s) :
    r.Alike := by
  obtain ⟨front, ts, back, last, hlaid⟩ := r.exists_laidOut
  have hterm : ∃ t, ∀ e ∈ front ++ (ts.map Terminated.blank ++ back), e.terminator = t := by
    rw [← hlaid.text] at h
    rcases h with h | h
    · exact ⟨_, fun e he => terminator_of_hasBareFeeds h he⟩
    · exact ⟨_, fun e he => terminator_of_hasPairedFeeds hlaid.proper h he⟩
  obtain ⟨t, ht⟩ := hterm
  refine hlaid.alike_iff.2 ⟨t, List.eq_replicate_iff.2 ⟨hlaid.length, fun u hu => ?_⟩⟩
  exact ht (Terminated.blank u)
    (List.mem_append_right _ (List.mem_append_left _ (List.mem_map_of_mem hu)))

end BlankRun
end YamlStyle
