/-
# Reports of blank runs

The rule on blank lines looks at one line at a time: ahead, whether the same terminator
follows once more, and behind, how many terminators it can step back over.  Where the
terminators of a run are alike, both agree with the run.  All lines of the run but the
last one are followed by the same terminator once more (`EmptyLines.continues_iff`).
Behind the last one, stepping back counts the other lines of the run, and one more: the
line before the run, whose terminator is counted too whatever its kind, or the first
line, if the run reaches back to it (`EmptyLines.countUpTo_copies`).  So in a text with
one kind of terminator every run that is too long is reported, on its last line and with
its length (`EmptyLines.run_eq_runs`).

Where two terminators of a run differ, the line of the first is taken for the last line of
the run.  If no blank line is allowed, it is reported, and so is the true last line.  So a
run is reported once whatever the limits if and only if its terminators are alike
(`BlankRun.reportedOnce_iff_alike`).
-/

import YamlStyle.Proofs.BlankRuns
import YamlStyle.Proofs.LineFaults

namespace YamlStyle

open Terminated

/-! ### Looking ahead -/

/-- A text starts with a part if it is that part and a rest. -/
theorem Text.startsWith_iff {s p : List Char} : startsWith s p = true ↔ ∃ rest, s = p ++ rest := by
  induction p generalizing s with
  | nil => simp [startsWith]
  | cons c p ih =>
    cases s with
    | nil => simp [startsWith]
    | cons d s => simp [startsWith, ih]

/-- A text begins with a terminator if its first content is empty. -/
theorem Terminated.joined_eq_append_iff {pairs : List Terminated} {last : List Char}
    (hpairs : ∀ e ∈ pairs, e.Proper) (hlast : '\n' ∉ last) {t : Terminator} :
    (∃ rest, joined pairs last = t.chars ++ rest) ↔ ∃ back, pairs = blank t :: back := by
  constructor
  · rintro ⟨rest, h⟩
    cases pairs with
    | nil =>
      have hmem : '\n' ∈ joined [] last := by
        rw [h]
        cases t <;> simp [Terminator.chars]
      exact absurd hmem hlast
    | cons e pairs =>
      obtain ⟨hfeed, hreturn⟩ := hpairs e (List.mem_cons_self ..)
      obtain ⟨content, u⟩ := e
      rw [joined_cons] at h
      cases content with
      | nil => cases u <;> cases t <;> simp [blank, Terminator.chars] at h ⊢
      | cons c content =>
        -- a carriage return can begin a content, but no line feed comes right after it
        cases t with
        | lineFeed => simp_all [Terminator.chars]
        | carriageReturnLineFeed =>
          cases content with
          | nil => cases u <;> simp_all [Terminator.chars]
          | cons d content => simp_all [Terminator.chars]
  · rintro ⟨back, rfl⟩
    exact ⟨joined back last, joined_cons (blank t) back last⟩

namespace EmptyLines

/-- A line is not taken for the last of its run if a blank line with the same terminator
follows. -/
theorem continues_iff {pairs : List Terminated} {last : List Char}
    (hpairs : ∀ e ∈ pairs, e.Proper) (hlast : '\n' ∉ last) {l : Line} {t : Terminator}
    (hahead : l.ahead = t.chars ++ joined pairs last) :
    continues l = true ↔ ∃ rest, pairs = blank t :: rest := by
  have hcontinues : continues l = Text.startsWith (joined pairs last) t.chars := by
    rw [continues, hahead]
    cases t <;> simp [Text.startsWith, Terminator.chars]
  rw [hcontinues, Text.startsWith_iff, joined_eq_append_iff hpairs hlast]

/-- A terminator ends the text if nothing follows it. -/
theorem endsText_iff {l : Line} {t : Terminator} {rest : List Char}
    (hahead : l.ahead = t.chars ++ rest) : endsText l = true ↔ rest = [] := by
  rw [endsText, hahead]
  cases t <;> simp [Terminator.chars]

/-! ### Looking behind -/

/-- The text behind a line that copies of a terminator stand before, nearest character
first. -/
def behindCopies (front : List Terminated) (t : Terminator) (k : Nat) : List Char :=
  ((front ++ (List.replicate k t).map blank).flatMap chars).reverse

/-- Without copies only the front is behind. -/
theorem behindCopies_zero (front : List Terminated) (t : Terminator) :
    behindCopies front t 0 = (front.flatMap chars).reverse := by
  simp [behindCopies]

/-- One more copy is the nearest. -/
theorem behindCopies_succ (front : List Terminated) (t : Terminator) (k : Nat) :
    behindCopies front t (k + 1) = t.chars.reverse ++ behindCopies front t k := by
  simp [behindCopies, List.replicate_succ', blank, chars]

/-- Nothing is behind only without a front and without copies. -/
theorem behindCopies_eq_nil_iff {front : List Terminated} {t : Terminator} {k : Nat} :
    behindCopies front t k = [] ↔ front = [] ∧ k = 0 := by
  rw [behindCopies, List.reverse_eq_nil_iff, flatMap_chars_eq_nil_iff, List.append_eq_nil_iff,
    List.map_eq_nil_iff, List.replicate_eq_nil_iff]

/-- What counts a terminator and steps back over it counts all copies of it. -/
theorem count_behindCopies {count : Nat → List Char → Nat × List Char} {t : Terminator}
    (hstep : ∀ n near, count n (t.chars.reverse ++ near) = count (n + 1) near)
    (front : List Terminated) (k n : Nat) :
    count n (behindCopies front t k) = count (n + k) (front.flatMap chars).reverse := by
  induction k generalizing n with
  | zero => rw [behindCopies_zero, Nat.add_zero]
  | succ k ih => rw [behindCopies_succ, hstep, ih, Nat.add_right_comm, Nat.add_assoc]

/-- Line feeds are counted over copies of a line feed. -/
theorem countFeeds_behindCopies (front : List Terminated) (k n : Nat) :
    countFeeds n (behindCopies front .lineFeed k) =
      countFeeds (n + k) (front.flatMap chars).reverse :=
  count_behindCopies (fun _ _ => rfl) front k n

/-- Breaks are counted over copies of the longer terminator. -/
theorem countBreaks_behindCopies (front : List Terminated) (k n : Nat) :
    countBreaks n (behindCopies front .carriageReturnLineFeed k) =
      countBreaks (n + k) (front.flatMap chars).reverse :=
  count_behindCopies (fun _ _ => rfl) front k n

/-- Counting line feeds stops at any other character. -/
theorem countFeeds_stop {c : Char} (hc : c ≠ '\n') (count : Nat) (near : List Char) :
    countFeeds count (c :: near) = (count, c :: near) := by
  simp [Checked.countFeeds_eq, hc]

/-- Without a longer terminator right behind, breaks are line feeds. -/
theorem countBreaks_eq_countFeeds {near : List Char} (h : ∀ rest, near ≠ '\n' :: '\r' :: rest)
    (count : Nat) : countBreaks count near = countFeeds count near := by
  rw [countBreaks]
  exact h

section Front

variable {front : List Terminated} (hproper : ∀ e ∈ front, e.Proper)
  (hstart : ∀ e, front.getLast? = some e → e.content ≠ [])

/-- What stepping back gives after it has counted a run: the terminator of a line before
the run is counted too, and nothing is left if and only if there is none. -/
def Passes (front : List Terminated) (count : Nat) (result : Nat × List Char) : Prop :=
  result.1 = count + (if front = [] then 0 else 1) ∧ (result.2 = [] ↔ front = [])

include hproper hstart

/-- Behind a run stands a terminator after a content. -/
theorem exists_behind_eq (hne : front ≠ []) : ∃ (t : Terminator) (c : Char) (near : List Char),
    (front.flatMap chars).reverse = t.chars.reverse ++ c :: near ∧ c ≠ '\n' ∧
      (t = .lineFeed → c ≠ '\r') := by
  obtain ⟨rest, e, rfl⟩ := (List.eq_nil_or_concat' front).resolve_left hne
  obtain ⟨hfeed, hreturn⟩ := hproper e (by simp)
  obtain ⟨content, c, hcontent⟩ :=
    (List.eq_nil_or_concat' e.content).resolve_left (hstart e List.getLast?_concat)
  refine ⟨e.terminator, c, content.reverse ++ (rest.flatMap chars).reverse, ?_, ?_, fun ht => ?_⟩
  · simp [chars, hcontent]
  · rintro rfl
    exact hfeed (by simp [hcontent])
  · rintro rfl
    exact hreturn ht (by simp [hcontent])

/-- Counting line feeds passes a run. -/
theorem passes_countFeeds (count : Nat) :
    Passes front count (countFeeds count (front.flatMap chars).reverse) := by
  by_cases hne : front = []
  · simp [hne, Passes, countFeeds]
  · obtain ⟨t, c, near, hbehind, hc, -⟩ := exists_behind_eq hproper hstart hne
    rw [hbehind]
    cases t <;> simp [Terminator.chars, Passes, countFeeds, countFeeds_stop hc, hne]

/-- Counting breaks passes a run. -/
theorem passes_countBreaks (count : Nat) :
    Passes front count (countBreaks count (front.flatMap chars).reverse) := by
  by_cases hne : front = []
  · simp [hne, Passes, countBreaks, countFeeds]
  · obtain ⟨t, c, near, hbehind, hc, hreturn⟩ := exists_behind_eq hproper hstart hne
    cases t with
    | lineFeed =>
      rw [countBreaks_eq_countFeeds]
      · exact passes_countFeeds hproper hstart count
      · rw [hbehind]
        simp_all [Terminator.chars]
    | carriageReturnLineFeed =>
      have hstop : countBreaks (count + 1) (c :: near) = (count + 1, c :: near) := by
        rw [countBreaks_eq_countFeeds (by simp_all), countFeeds_stop hc]
      rw [hbehind]
      simp [Terminator.chars, Passes, countBreaks, hstop, hne]

/-- **Stepping back over copies of a terminator counts them,** whatever the kind of the
terminator before them. -/
theorem passes_copies (t : Terminator) (k : Nat) :
    Passes front k (countBreaks 0 (behindCopies front t k)) := by
  cases t with
  | lineFeed =>
    cases k with
    | zero =>
      rw [behindCopies_zero]
      exact passes_countBreaks hproper hstart 0
    | succ k =>
      rw [countBreaks_eq_countFeeds, countFeeds_behindCopies, Nat.zero_add]
      · exact passes_countFeeds hproper hstart (k + 1)
      · -- behind the nearest line feed stands another one or nothing
        intro rest heq
        rw [behindCopies_succ] at heq
        have hnear : behindCopies front .lineFeed k = '\r' :: rest := (List.cons.inj heq).2
        have hhead := congrArg List.head? hnear
        rw [behindCopies, List.head?_reverse] at hhead
        exact absurd (eq_of_getLast?_flatMap_chars hhead) (by decide)
  | carriageReturnLineFeed =>
    rw [countBreaks_behindCopies, Nat.zero_add]
    exact passes_countBreaks hproper hstart k

/-- Behind copies of one terminator the run is counted in full. -/
theorem countUpTo_copies {l : Line} {t : Terminator} {k : Nat}
    (hbehind : l.behind = behindCopies front t k) (o : Options) :
    countUpTo o l = (k + 1, if front = [] then o.maxStart else o.max) := by
  obtain ⟨hcount, hnear⟩ := passes_copies hproper hstart t k
  rw [countUpTo, hbehind]
  generalize countBreaks 0 (behindCopies front t k) = result at hcount hnear
  obtain ⟨count, near⟩ := result
  simp only at hcount hnear
  subst hcount
  by_cases hne : front = []
  · simp [hne, hnear.2 hne]
  · obtain ⟨c, near, rfl⟩ := List.exists_cons_of_ne_nil (mt hnear.1 hne)
    simp [hne]

end Front

/-- Counting line feeds does not lower the count. -/
theorem le_countFeeds (count : Nat) (near : List Char) : count ≤ (countFeeds count near).1 := by
  rw [Checked.countFeeds_eq]
  exact Nat.le_add_right _ _

/-- Counting breaks does not lower the count. -/
theorem le_countBreaks (count : Nat) (near : List Char) : count ≤ (countBreaks count near).1 := by
  fun_induction countBreaks count near with
  | case1 => omega
  | case2 => exact le_countFeeds _ _

/-- A blank line is counted itself, or the terminator right behind it is. -/
theorem countUpTo_pos {l : Line} {pairs : List Terminated}
    (hbehind : l.behind = (pairs.flatMap chars).reverse) (o : Options) :
    0 < (countUpTo o l).1 := by
  cases hnear : l.behind with
  | nil => simp [countUpTo, hnear, countBreaks, countFeeds]
  | cons c near =>
    have hlast : (pairs.flatMap chars).getLast? = some c := by
      rw [← List.head?_reverse, ← hbehind, hnear]
      rfl
    obtain rfl := eq_of_getLast?_flatMap_chars hlast
    have hpos : 0 < (countBreaks 0 ('\n' :: near)).1 := by
      by_cases hreturn : ∃ rest, near = '\r' :: rest
      · obtain ⟨rest, rfl⟩ := hreturn
        exact le_countBreaks 1 rest
      · rw [countBreaks_eq_countFeeds fun rest heq => hreturn ⟨rest, (List.cons.inj heq).2⟩]
        exact le_countFeeds 1 near
    rw [countUpTo, hnear]
    split <;> simp_all

/-! ### One line -/

/-- The limit for a run that ends with a line. -/
def limitAt (o : Options) (l : Line) : UInt64 :=
  if endsText l then o.maxEnd else (countUpTo o l).2

/-- If no blank line is allowed, the limit is zero everywhere. -/
theorem limitAt_zero (l : Line) : limitAt ⟨0, 0, 0⟩ l = 0 := by
  rw [limitAt, countUpTo]
  split_ifs
  · rfl
  · split <;> rfl

/-- A line is reported if it ends a run that is longer than its limit. -/
theorem check_eq (o : Options) (l : Line) :
    check o l =
      if l.isBlank = true ∧ continues l = false ∧ ¬ (endsText l = true ∧ l.behind = []) ∧
        (limitAt o l).toNat < (countUpTo o l).1
      then [⟨l.number, 1, .tooManyBlankLines (countUpTo o l).1 (limitAt o l).toNat⟩] else [] := by
  rw [check]
  cases l.isBlank <;> cases continues l <;> cases hends : endsText l <;>
    cases l.behind <;> simp [limitAt, hends]

/-- What is found in a line is the one finding at the end of a run. -/
theorem mem_check_iff {o : Options} {l : Line} {f : Finding} :
    f ∈ check o l ↔
      (l.isBlank = true ∧ continues l = false ∧ ¬ (endsText l = true ∧ l.behind = []) ∧
        (limitAt o l).toNat < (countUpTo o l).1) ∧
      f = ⟨l.number, 1, .tooManyBlankLines (countUpTo o l).1 (limitAt o l).toNat⟩ := by
  rw [check_eq]
  split_ifs with h
  · rw [List.mem_singleton]
    exact ⟨fun hf => ⟨h, hf⟩, And.right⟩
  · exact ⟨fun hf => (nomatch hf), fun hf => absurd hf.1 h⟩

end EmptyLines

/-! ### The lines of a run -/

namespace BlankRun

open EmptyLines (Options check continues behindCopies behindCopies_eq_nil_iff countUpTo_copies
  limitAt mem_check_iff)

variable {s : List Char}

/-- The limit for a run: at the end of the text, at its beginning, or inside it. -/
def limit (r : BlankRun s) (o : Options) : UInt64 :=
  if r.endsText then o.maxEnd else if r.before = 0 then o.maxStart else o.max

/-- The report of a run that is too long. -/
def finding (r : BlankRun s) (o : Options) : Finding :=
  ⟨r.last, 1, .tooManyBlankLines r.length (r.limit o).toNat⟩

/-- The run is longer than its limit, and it is not one terminator that is the whole
text. -/
def TooLong (r : BlankRun s) (o : Options) : Prop :=
  (∀ t : Terminator, s ≠ t.chars) ∧ (r.limit o).toNat < r.length

namespace LaidOut

variable {r : BlankRun s} {front back : List Terminated} {ts us vs : List Terminator}
  {t : Terminator} {last : List Char}

/-- One terminator is the whole text if it is a run of its own with nothing beside it. -/
theorem exists_eq_chars_iff (h : r.LaidOut front ts back last) :
    (∃ t : Terminator, s = t.chars) ↔ front = [] ∧ r.length = 1 ∧ joined back last = [] := by
  have hpos := r.length_pos
  have hlength := h.length
  constructor
  · rintro ⟨u, hu⟩
    have hcount : s.count '\n' = front.length + (ts.length + back.length) := by
      rw [← h.text, count_joined h.proper h.feed_not_mem]
      simp
    have hone : s.count '\n' = 1 := by
      rw [hu]
      cases u <;> rfl
    obtain rfl : front = [] := List.eq_nil_of_length_eq_zero (by omega)
    obtain rfl : back = [] := List.eq_nil_of_length_eq_zero (by omega)
    obtain ⟨t, rfl⟩ : ∃ t, ts = [t] := List.length_eq_one_iff.1 (by omega)
    have htext : t.chars ++ joined [] last = u.chars :=
      (joined_cons (Terminated.blank t) [] last).symm.trans (h.text.trans hu)
    refine ⟨rfl, by omega, ?_⟩
    cases t <;> cases u <;> simp_all [Terminator.chars]
  · rintro ⟨rfl, hone, hnil⟩
    obtain ⟨t, rfl⟩ : ∃ t, ts = [t] := List.length_eq_one_iff.1 (by omega)
    have htext : t.chars ++ joined back last = s :=
      (joined_cons (Terminated.blank t) back last).symm.trans h.text
    exact ⟨t, by rw [← htext, hnil, List.append_nil]⟩

/-- A line of a run is not taken for the last one if the next terminator of the run is the
same. -/
theorem continues_iff (h : r.LaidOut front (us ++ t :: vs) back last) {l : Line}
    (hl : (Line.ofText s)[r.before + us.length]? = some l) :
    continues l = true ↔ ∃ ws, vs = t :: ws := by
  obtain ⟨-, -, -, hahead⟩ := h.cut hl
  have hproper : ∀ e ∈ vs.map Terminated.blank ++ back, e.Proper := by
    intro e he
    refine h.proper e ?_
    simp only [List.map_append, List.map_cons, List.mem_append, List.mem_cons] at he ⊢
    tauto
  rw [EmptyLines.continues_iff hproper h.feed_not_mem hahead]
  cases vs with
  | nil =>
    refine ⟨?_, fun ⟨_, hws⟩ => nomatch hws⟩
    rintro ⟨rest, rfl : back = _⟩
    exact absurd rfl (h.stop (Terminated.blank t) rfl)
  | cons u vs => simp [Terminated.blank]

/-- The last line of a run whose terminators are alike is reported if the run is too
long. -/
theorem mem_check_last {k : Nat} (h : r.LaidOut front (List.replicate k t ++ [t]) back last)
    {l : Line} (hl : (Line.ofText s)[r.before + k]? = some l) {o : Options} {f : Finding} :
    f ∈ check o l ↔ r.TooLong o ∧ f = r.finding o := by
  have hlength : r.length = k + 1 := by simpa using h.length.symm
  have hk : (Line.ofText s)[r.before + (List.replicate k t).length]? = some l := by
    rwa [List.length_replicate]
  have hcontinues : continues l = false := by
    rw [Bool.eq_false_iff, ne_eq, h.continues_iff hk]
    exact fun ⟨_, hws⟩ => nomatch hws
  obtain ⟨hblank, hnumber, hbehind, hahead⟩ := h.cut hk
  rw [List.length_replicate, Nat.add_assoc, ← hlength] at hnumber
  rw [← behindCopies] at hbehind
  rw [List.map_nil, List.nil_append] at hahead
  have hfront : ∀ e ∈ front, e.Proper := fun e he => h.proper e (List.mem_append_left _ he)
  have hends : EmptyLines.endsText l = r.endsText := by
    rw [Bool.eq_iff_iff, EmptyLines.endsText_iff hahead, h.endsText_iff]
  have hcount := countUpTo_copies hfront h.start hbehind o
  have hlimit : limitAt o l = r.limit o := by
    have hfirst : front = [] ↔ r.before = 0 := by rw [← h.before, List.length_eq_zero_iff]
    rw [limitAt, hends, hcount, limit]
    simp only [hfirst]
  have hwhole : EmptyLines.endsText l = true ∧ l.behind = [] ↔ ∃ u : Terminator, s = u.chars := by
    rw [h.exists_eq_chars_iff, EmptyLines.endsText_iff hahead, hbehind, behindCopies_eq_nil_iff,
      hlength, Nat.add_eq_right]
    tauto
  rw [mem_check_iff, hwhole, hlimit, hcount, hnumber, TooLong, finding, BlankRun.last, hlength,
    not_exists]
  simp only [hblank, hcontinues, true_and]

end LaidOut

/-- **A run whose terminators are alike is reported on its last line,** if it is too long,
and on no other. -/
theorem mem_check_iff_of_alike {r : BlankRun s} (h : r.Alike) {j : Nat} (hj : j < r.length)
    {l : Line} (hl : (Line.ofText s)[r.before + j]? = some l) {o : Options} {f : Finding} :
    f ∈ check o l ↔ j + 1 = r.length ∧ r.TooLong o ∧ f = r.finding o := by
  obtain ⟨front, ts, back, last, hlaid⟩ := r.exists_laidOut
  obtain ⟨t, rfl⟩ := hlaid.alike_iff.1 h
  by_cases hlast : j + 1 = r.length
  · rw [← hlast, List.replicate_succ'] at hlaid
    rw [hlaid.mem_check_last hl]
    simp [hlast]
  · have hsplit : List.replicate r.length t =
        List.replicate j t ++ t :: t :: List.replicate (r.length - j - 2) t := by
      rw [← List.replicate_succ, ← List.replicate_succ, List.replicate_append_replicate]
      congr 1
      omega
    rw [hsplit] at hlaid
    have hcontinues := (hlaid.continues_iff (by rwa [List.length_replicate])).2 ⟨_, rfl⟩
    rw [mem_check_iff, hcontinues]
    simp [hlast]

end BlankRun

/-! ### Reports -/

namespace EmptyLines

/-- What the rule finds in a text. -/
def findings (o : Options) (s : List Char) : List Finding := (Line.ofText s).flatMap (check o)

/-- Findings come in the order of lines. -/
theorem pairwise_findings (o : Options) (s : List Char) :
    (findings o s).Pairwise fun f g => f.line < g.line := by
  have hlines : (Line.ofText s).Pairwise fun l m => l.number < m.number := by
    rw [← List.pairwise_map, (Line.decomposition_ofText s).numbers]
    exact List.pairwise_lt_range' 1
  refine List.pairwise_flatMap.2 ⟨fun l _ => ?_, hlines.imp fun hlt f hf g hg => ?_⟩
  · rw [check_eq]
    split_ifs
    · exact List.pairwise_singleton _ _
    · exact .nil
  · rwa [(on_of_mem hf).line, (on_of_mem hg).line]

/-- Where the terminators of every run are alike, the runs that are too long are
reported. -/
theorem mem_findings_iff {o : Options} {s : List Char} (h : ∀ r : BlankRun s, r.Alike)
    {f : Finding} : f ∈ findings o s ↔ ∃ r : BlankRun s, r.TooLong o ∧ f = r.finding o := by
  constructor
  · intro hf
    obtain ⟨l, hl, hf⟩ := List.mem_flatMap.1 hf
    obtain ⟨i, hi⟩ := List.mem_iff_getElem?.1 hl
    have hblank : Line.blankAt s i = true := by
      rw [Line.blankAt, hi]
      exact (mem_check_iff.1 hf).1.1
    obtain ⟨r, hle, hlt⟩ := BlankRun.exists_mem hblank
    have hi' : (Line.ofText s)[r.before + (i - r.before)]? = some l := by
      rwa [Nat.add_sub_cancel' hle]
    obtain ⟨-, hlong, hf⟩ := (BlankRun.mem_check_iff_of_alike (h r) (by omega) hi').1 hf
    exact ⟨r, hlong, hf⟩
  · rintro ⟨r, hlong, rfl⟩
    have hpos := r.length_pos
    obtain ⟨l, hl⟩ : ∃ l, (Line.ofText s)[r.before + (r.length - 1)]? = some l := by
      have hblank := r.blank (r.before + (r.length - 1)) (by omega) (by omega)
      rw [Line.blankAt, Option.any_eq_true] at hblank
      obtain ⟨l, hl, -⟩ := hblank
      exact ⟨l, hl⟩
    refine List.mem_flatMap.2 ⟨l, List.mem_of_getElem? hl, ?_⟩
    exact (BlankRun.mem_check_iff_of_alike (h r) (by omega) hl).2 ⟨by omega, hlong, rfl⟩

/-- The findings stand in the order of the runs. -/
theorem findings_eq_map {o : Options} {s : List Char} (h : ∀ r : BlankRun s, r.Alike)
    (hne : ∀ t : Terminator, s ≠ t.chars) :
    findings o s = ((BlankRun.all s).filter fun r => (r.limit o).toNat < r.length).map
      (·.finding o) := by
  have : Std.Antisymm fun f g : Finding => f.line < g.line := ⟨fun f g hfg hgf => by omega⟩
  have : Std.Irrefl fun f g : Finding => f.line < g.line := ⟨fun f => Nat.lt_irrefl _⟩
  have hpairwise : (((BlankRun.all s).filter fun r => (r.limit o).toNat < r.length).map
      (·.finding o)).Pairwise fun f g => f.line < g.line := by
    refine List.pairwise_map.2 (((BlankRun.pairwise_all s).filter _).imp fun {q r} hlt => ?_)
    exact hlt.trans_le (Nat.le_add_right _ _)
  refine (pairwise_findings o s).eq_of_mem_iff hpairwise fun f => ?_
  rw [mem_findings_iff h, List.mem_map]
  constructor
  · rintro ⟨r, ⟨-, hlt⟩, rfl⟩
    exact ⟨r, List.mem_filter.2 ⟨r.mem_all, decide_eq_true hlt⟩, rfl⟩
  · rintro ⟨r, hr, rfl⟩
    exact ⟨r, ⟨hne, of_decide_eq_true (List.mem_filter.1 hr).2⟩, rfl⟩

/-- The rule reports what it finds in the text. -/
theorem run_eq (o : Options) (d : Document) :
    (Rule.line .emptyLines).run o d = (findings o d.text).map (·.report "empty-lines" .error) :=
  Rule.run_line .emptyLines o d

end EmptyLines

/-- The diagnostic of a run that is too long. -/
def BlankRun.diagnostic {s : List Char} (r : BlankRun s) (o : EmptyLines.Options) : Diagnostic :=
  let limit := (r.limit o).toNat
  ⟨r.last, 1, .error, "empty-lines", s!"too many blank lines ({r.length} > {limit})"⟩

namespace EmptyLines

/-- **In a text with one kind of terminator, every run that is too long is reported.**
The runs are listed from the first to the last, each one ending before the next begins,
and all of them are there.  The diagnostics are those of the runs that are longer than
their limit, in the same order: the limit is the one for the end of the text, if the run
ends it, or else the one for the beginning, if the run begins it.  A text that is one
terminator and no more has a run, but no diagnostic. -/
theorem run_eq_runs (o : Options) (d : Document)
    (h : Text.HasBareFeeds d.text ∨ Text.HasPairedFeeds d.text) :
    (∀ r : BlankRun d.text, r ∈ BlankRun.all d.text) ∧
      (BlankRun.all d.text).Pairwise (fun q r => q.last < r.before) ∧
      ((∀ t : Terminator, d.text ≠ t.chars) →
        (Rule.line .emptyLines).run o d =
          ((BlankRun.all d.text).filter fun r => (r.limit o).toNat < r.length).map
            (·.diagnostic o)) ∧
      ∀ t : Terminator, d.text = t.chars → (Rule.line .emptyLines).run o d = [] := by
  have halike : ∀ r : BlankRun d.text, r.Alike := BlankRun.alike_of_uniform h
  refine ⟨BlankRun.mem_all, BlankRun.pairwise_all d.text, fun hne => ?_, fun t ht => ?_⟩
  · rw [run_eq, findings_eq_map halike hne, List.map_map]
    rfl
  · rw [run_eq, List.map_eq_nil_iff, List.eq_nil_iff_forall_not_mem]
    intro f hf
    obtain ⟨r, ⟨hne, -⟩, -⟩ := (mem_findings_iff halike).1 hf
    exact hne t ht

/-- Runs at the beginning, inside and at the end of a text, and a content that ends in a
carriage return. -/
theorem run_eq_runs_returns :
    let d : Document := ⟨"\r\n\r\na\r\r\n\r\n\r\n\r\nb\r\n\r\n".toList, []⟩
    let report : Nat → String → Diagnostic := fun line message =>
      ⟨line, 1, .error, "empty-lines", message⟩
    Text.HasPairedFeeds d.text ∧ (∀ t : Terminator, d.text ≠ t.chars) ∧
      (BlankRun.all d.text).map (fun r => (r.before, r.length)) = [(0, 2), (3, 3), (7, 1)] ∧
      (Rule.line .emptyLines).run { maxStart := 1 } d =
        [report 2 "too many blank lines (2 > 1)", report 6 "too many blank lines (3 > 2)",
          report 8 "too many blank lines (1 > 0)"] := by
  intro d report
  have hpaired : Text.HasPairedFeeds d.text := by decide +kernel
  have hne : ∀ t : Terminator, d.text ≠ t.chars := by
    intro t
    cases t <;> decide +kernel
  obtain ⟨-, -, hrun, -⟩ := run_eq_runs { maxStart := 1 } d (Or.inr hpaired)
  refine ⟨hpaired, hne, by decide +kernel, ?_⟩
  rw [hrun hne]
  decide +kernel

end EmptyLines

/-! ### Runs with different terminators -/

namespace BlankRun

open EmptyLines (Options check)

/-- What is reported on the lines of a run. -/
def reported {d : Document} (r : BlankRun d.text) (o : Options) : List Diagnostic :=
  ((Rule.line .emptyLines).run o d).filter fun x => r.before < x.line ∧ x.line ≤ r.last

/-- At most one thing is reported on a run, on its last line and with its length. -/
structure ReportedOnce {d : Document} (r : BlankRun d.text) (o : Options) : Prop where
  length_le : (r.reported o).length ≤ 1
  line_eq : ∀ x ∈ r.reported o, x.line = r.last
  count_eq : ∀ x ∈ r.reported o,
    ∃ limit : Nat, x.message = s!"too many blank lines ({r.length} > {limit})"

variable {d : Document} {r : BlankRun d.text} {o : Options}

/-- On a run is reported what is found in its lines. -/
theorem mem_reported_iff {x : Diagnostic} :
    x ∈ r.reported o ↔ ∃ j < r.length, ∃ l, (Line.ofText d.text)[r.before + j]? = some l ∧
      ∃ f ∈ check o l, f.report "empty-lines" .error = x := by
  rw [reported, EmptyLines.run_eq, List.mem_filter, decide_eq_true_eq, List.mem_map]
  constructor
  · rintro ⟨⟨f, hf, rfl⟩, hbefore, hlast⟩
    obtain ⟨l, hl, hf⟩ := List.mem_flatMap.1 hf
    obtain ⟨i, hi⟩ := List.mem_iff_getElem?.1 hl
    have hline : f.line = i + 1 := (EmptyLines.on_of_mem hf).line.trans (Line.number_of_getElem? hi)
    have hlt : r.before < f.line := hbefore
    have hle : f.line ≤ r.before + r.length := hlast
    refine ⟨i - r.before, by omega, l, ?_, f, hf, rfl⟩
    rwa [Nat.add_sub_cancel' (by omega)]
  · rintro ⟨j, hj, l, hl, f, hf, rfl⟩
    have hline : f.line = r.before + j + 1 :=
      (EmptyLines.on_of_mem hf).line.trans (Line.number_of_getElem? hl)
    have hbefore : r.before < f.line := by omega
    have hlast : f.line ≤ r.before + r.length := by omega
    exact ⟨⟨f, List.mem_flatMap.2 ⟨l, List.mem_of_getElem? hl, hf⟩, rfl⟩, hbefore, hlast⟩

/-- What is reported on a run comes in the order of lines. -/
theorem pairwise_reported (r : BlankRun d.text) (o : Options) :
    (r.reported o).Pairwise fun x y => x.line < y.line := by
  rw [reported, EmptyLines.run_eq]
  refine List.Pairwise.filter _ (List.pairwise_map.2 ?_)
  exact EmptyLines.pairwise_findings o d.text

/-- A run with one kind of terminator is reported at most once. -/
theorem reportedOnce_of_alike (h : r.Alike) (o : Options) : r.ReportedOnce o := by
  have hmem : ∀ x ∈ r.reported o, (r.finding o).report "empty-lines" .error = x := by
    intro x hx
    obtain ⟨j, hj, l, hl, f, hf, rfl⟩ := mem_reported_iff.1 hx
    obtain ⟨-, -, rfl⟩ := (mem_check_iff_of_alike h hj hl).1 hf
    rfl
  have hpairwise := r.pairwise_reported o
  refine ⟨?_, fun x hx => ?_, fun x hx => ?_⟩
  · match hlist : r.reported o with
    | [] => exact Nat.zero_le 1
    | [x] => exact le_rfl
    | x :: y :: rest =>
      rw [hlist] at hmem hpairwise
      have hlt := List.rel_of_pairwise_cons hpairwise (List.mem_cons_self ..)
      rw [← hmem x (by simp), ← hmem y (by simp)] at hlt
      exact absurd hlt (Nat.lt_irrefl _)
  · rw [← hmem x hx]
    rfl
  · exact ⟨(r.limit o).toNat, by rw [← hmem x hx]; rfl⟩

/-- If no blank line is allowed, a line of a run is reported unless the next terminator of
the run is the same. -/
theorem exists_reported_of_stop {front back : List Terminated} {us vs : List Terminator}
    {t : Terminator} {last : List Char} (h : r.LaidOut front (us ++ t :: vs) back last)
    (hstop : ∀ ws, vs ≠ t :: ws) (hlong : 1 < r.length) :
    ∃ x ∈ r.reported ⟨0, 0, 0⟩, x.line = r.before + us.length + 1 := by
  have hlength : us.length + vs.length + 1 = r.length := by
    rw [← h.length, List.length_append, List.length_cons]
    omega
  obtain ⟨l, hl⟩ : ∃ l, (Line.ofText d.text)[r.before + us.length]? = some l := ⟨_, h.getElem?⟩
  have hcontinues : EmptyLines.continues l = false := by
    rw [Bool.eq_false_iff, ne_eq, h.continues_iff hl]
    exact fun ⟨ws, hws⟩ => hstop ws hws
  obtain ⟨hblank, hnumber, hbehind, hahead⟩ := h.cut hl
  have hwhole : ¬ (EmptyLines.endsText l = true ∧ l.behind = []) := by
    rw [EmptyLines.endsText_iff hahead, hbehind, List.reverse_eq_nil_iff, flatMap_chars_eq_nil_iff,
      joined, List.append_eq_nil_iff, flatMap_chars_eq_nil_iff]
    rintro ⟨⟨hvs, -⟩, hus⟩
    simp only [List.append_eq_nil_iff, List.map_eq_nil_iff] at hvs hus
    rw [hvs.1, hus.2] at hlength
    simp only [List.length_nil] at hlength
    omega
  have hcount : (EmptyLines.limitAt ⟨0, 0, 0⟩ l).toNat < (EmptyLines.countUpTo ⟨0, 0, 0⟩ l).1 := by
    rw [EmptyLines.limitAt_zero]
    exact EmptyLines.countUpTo_pos hbehind _
  have hfound := EmptyLines.mem_check_iff.2 ⟨⟨hblank, hcontinues, hwhole, hcount⟩, rfl⟩
  exact ⟨_, mem_reported_iff.2 ⟨us.length, by omega, l, hl, _, hfound, rfl⟩, hnumber⟩

/-- If a run is reported at most once when no blank line is allowed, its terminators are
alike: a line before a different terminator is reported, and so is the last one. -/
theorem alike_of_length_le (h : (r.reported ⟨0, 0, 0⟩).length ≤ 1) : r.Alike := by
  obtain ⟨front, ts, back, last, hlaid⟩ := r.exists_laidOut
  have hlength := hlaid.length
  have hchain : ts.IsChain (· = ·) := by
    refine List.isChain_iff_getElem.2 fun i hi => ?_
    by_contra hne
    have hsplit : ts = ts.take i ++ ts[i] :: ts[i + 1] :: ts.drop (i + 2) := by
      rw [← List.drop_eq_getElem_cons, ← List.drop_eq_getElem_cons, List.take_append_drop]
    have hend : ts = ts.dropLast ++ [ts.getLast (List.ne_nil_of_length_pos (by omega))] :=
      (List.dropLast_concat_getLast _).symm
    obtain ⟨x, hx, hxline⟩ := exists_reported_of_stop (hsplit ▸ hlaid)
      (fun ws hws => hne (List.cons.inj hws).1.symm) (by omega)
    obtain ⟨y, hy, hyline⟩ := exists_reported_of_stop (hend ▸ hlaid)
      (fun ws => (List.cons_ne_nil _ ws).symm) (by omega)
    have hxy : x = y := by
      obtain ⟨j, hj, rfl⟩ := List.getElem_of_mem hx
      obtain ⟨k, hk, rfl⟩ := List.getElem_of_mem hy
      obtain rfl : j = k := by omega
      rfl
    rw [hxy, hyline, List.length_take_of_le (by omega), List.length_dropLast] at hxline
    omega
  obtain ⟨t, ts, rfl⟩ := List.exists_cons_of_length_pos (hlength ▸ r.length_pos)
  refine hlaid.alike_iff.2 ⟨t, ?_⟩
  rw [← hlength]
  exact List.isChain_eq_iff_eq_replicate.1 hchain t rfl

/-- **A run is reported once whatever the limits if and only if its terminators are
alike.**  Then it is reported on its last line and with its length.  Where two of its
terminators differ, the line of the first one is taken for the last line of the run, and
some limits make the rule report both. -/
theorem reportedOnce_iff_alike (d : Document) (r : BlankRun d.text) :
    ((∀ o, r.ReportedOnce o) ↔ r.Alike) ∧ ((∀ o, (r.reported o).length ≤ 1) ↔ r.Alike) := by
  exact ⟨⟨fun h => alike_of_length_le (h _).length_le, fun h o => reportedOnce_of_alike h o⟩,
    fun h => alike_of_length_le (h _), fun h o => (reportedOnce_of_alike h o).length_le⟩

/-- Three bare line feeds and one with a carriage return follow each other: the run of four
is reported twice, and once with the wrong length. -/
theorem reported_twice_mixed :
    let d : Document := ⟨"a\n\n\n\n\r\nb\n".toList, []⟩
    let report : Nat → String → Diagnostic := fun line message =>
      ⟨line, 1, .error, "empty-lines", message⟩
    ∃ r : BlankRun d.text, r.before = 1 ∧ r.length = 4 ∧ ¬ r.ReportedOnce {} ∧
      r.reported {} = [report 4 "too many blank lines (3 > 2)",
        report 5 "too many blank lines (4 > 2)"] := by
  intro d report
  have hreported : (startingAt d.text 1 (by decide +kernel) (by decide +kernel)).reported {} =
      [report 4 "too many blank lines (3 > 2)", report 5 "too many blank lines (4 > 2)"] := by
    decide +kernel
  refine ⟨_, rfl, by decide +kernel, fun honce => ?_, hreported⟩
  have hle := honce.length_le
  rw [hreported] at hle
  exact absurd hle (by decide)

end BlankRun
end YamlStyle
