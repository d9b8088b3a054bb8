/-
# Gaps as the text has them

The rules on spaces compare lines and offsets of marks that were computed one by one.  In a
document over ranges of its own text this measures the text: the gap between two neighbours
is measured if no line feed lies between them, and it is as wide as the bytes from the end
of the first to the start of the second (`Window.Over.spacesAfter_iff`,
`Window.Over.spacesBefore_iff`).  Ranges that overlap or are reversed have no bytes in their
gap, but a line feed where they overlap still counts as one between them.  Limits count a
gap up to the greatest signed integer of 64 bits, which is the gap itself in every text
that is not longer (`Mark.gapTo_eq`).

A comma on a later line than the token before it has no such gap, and is reported all the
same if there is a limit (`Commas.checkBefore_iff`).
-/

import YamlStyle.Proofs.LineBreaks

namespace YamlStyle

/-! ### Limits -/

namespace SpaceLimits

/-- A number of spaces passes the upper limit. -/
def Above (l : SpaceLimits) (spaces : Nat) : Prop := 0 ≤ l.most ∧ l.most < spaces

/-- A number of spaces falls short of the lower limit. -/
def Below (l : SpaceLimits) (spaces : Nat) : Prop := 0 ≤ l.least ∧ spaces < l.least

instance (l : SpaceLimits) (spaces : Nat) : Decidable (l.Above spaces) :=
  inferInstanceAs (Decidable (_ ∧ _))

instance (l : SpaceLimits) (spaces : Nat) : Decidable (l.Below spaces) :=
  inferInstanceAs (Decidable (_ ∧ _))

/-- How a number of spaces that breaks a limit is reported: as too many whenever it passes
the upper limit, also if it falls short of the lower one. -/
def excessOf (l : SpaceLimits) (spaces : Nat) : Excess :=
  if l.Above spaces then .tooMany else .tooFew

/-- Limits are asked about the number of spaces that they count. -/
theorem excess?_eq_some_iff {l : SpaceLimits} {spaces : Nat} {excess : Excess} :
    l.excess? spaces = some excess ↔
      (l.Above (counted spaces) ∨ l.Below (counted spaces)) ∧
        excess = l.excessOf (counted spaces) := by
  by_cases habove : l.Above (counted spaces)
  · have hexcess : l.excess? spaces = some .tooMany := if_pos habove
    rw [hexcess, excessOf, if_pos habove, Option.some.injEq, eq_comm]
    exact ⟨fun h => ⟨Or.inl habove, h⟩, fun h => h.2⟩
  · by_cases hbelow : l.Below (counted spaces)
    · have hexcess : l.excess? spaces = some .tooFew := (if_neg habove).trans (if_pos hbelow)
      rw [hexcess, excessOf, if_neg habove, Option.some.injEq, eq_comm]
      exact ⟨fun h => ⟨Or.inr hbelow, h⟩, fun h => h.2⟩
    · have hexcess : l.excess? spaces = none := (if_neg habove).trans (if_neg hbelow)
      rw [hexcess]
      exact ⟨fun h => (nomatch h), fun h => (h.1.elim habove hbelow).elim⟩

end SpaceLimits

namespace Mark

/-- The bytes from one mark to another, as limits count them. -/
def gapTo (a b : Mark) : Nat := SpaceLimits.counted (b.pointer - a.pointer)

/-- Nothing is lost in a gap up to a mark that is not too far in the text. -/
theorem gapTo_eq (a : Mark) {b : Mark} (h : b.pointer ≤ 0x7FFFFFFFFFFFFFFF) :
    a.gapTo b = b.pointer - a.pointer :=
  Nat.min_eq_left (Nat.le_trans (Nat.sub_le ..) h)

/-- A gap counts as one if it is not empty. -/
theorem gapTo_pos_iff {a b : Mark} : 0 < a.gapTo b ↔ a.pointer < b.pointer := by
  unfold gapTo SpaceLimits.counted
  omega

end Mark

/-- The gap from one mark of a text to another one breaks limits: no line feed lies between
them, in whichever order they stand, and the bytes from the first to the second break one. -/
structure SpaceLimits.BrokenBy (l : SpaceLimits) (s : List Char) (a b : Mark) : Prop where
  oneLine : '\n'.toUInt8 ∉ Text.bytesBetween s a.pointer b.pointer
  broken : l.Above (a.gapTo b) ∨ l.Below (a.gapTo b)

/-- A gap is reported if what limits count of it breaks one. -/
theorem Gap.finding?_eq_some_iff {g : Gap} {l : SpaceLimits} {side : Side} {delimiter : Delimiter}
    {f : Finding} :
    g.finding? l side delimiter = some f ↔
      (l.Above (SpaceLimits.counted g.spaces) ∨ l.Below (SpaceLimits.counted g.spaces)) ∧
        f = ⟨g.line, g.column,
          .spacing (l.excessOf (SpaceLimits.counted g.spaces)) side delimiter⟩ := by
  rw [finding?, Option.map_eq_some_iff]
  constructor
  · rintro ⟨excess, hexcess, rfl⟩
    obtain ⟨hbroken, rfl⟩ := SpaceLimits.excess?_eq_some_iff.1 hexcess
    exact ⟨hbroken, rfl⟩
  · rintro ⟨hbroken, rfl⟩
    exact ⟨_, SpaceLimits.excess?_eq_some_iff.2 ⟨hbroken, rfl⟩, rfl⟩

/-! ### Both sides of a token -/

namespace Window

/-- The gap after the token breaks limits, and is reported where the token starts. -/
def BrokenAfter (s : List Char) (w : Window) (l : SpaceLimits) (delimiter : Delimiter)
    (f : Finding) : Prop :=
  ∃ next, w.next = some next ∧ l.BrokenBy s w.token.stop next.start ∧
    f = ⟨w.token.start.line + 1, w.token.start.column + 1,
      .spacing (l.excessOf (w.token.stop.gapTo next.start)) .after delimiter⟩

/-- The gap before the token breaks limits, and is reported where the token before it stops.
That token does not end with a line feed. -/
def BrokenBefore (s : List Char) (w : Window) (l : SpaceLimits) (delimiter : Delimiter)
    (f : Finding) : Prop :=
  ∃ previous, w.previous = some previous ∧ l.BrokenBy s previous.stop w.token.start ∧
    ¬ Text.AfterLineFeed s previous.stop.pointer ∧
    f = ⟨previous.stop.line + 1, previous.stop.column + 1,
      .spacing (l.excessOf (previous.stop.gapTo w.token.start)) .before delimiter⟩

/-- The token before stops earlier, and a line feed lies in between. -/
def OnLaterLine (s : List Char) (w : Window) : Prop :=
  ∃ previous, w.previous = some previous ∧ previous.stop.pointer < w.token.start.pointer ∧
    '\n'.toUInt8 ∈ Text.bytesBetween s previous.stop.pointer w.token.start.pointer

variable {s : List Char} {w : Window} (h : w.Over s)
include h

/-- There is a gap after a token if the next one is on its line. -/
theorem Over.gapAfter?_eq_some_iff {g : Gap} :
    w.gapAfter? = some g ↔ ∃ next, w.next = some next ∧
      '\n'.toUInt8 ∉ Text.bytesBetween s w.token.stop.pointer next.start.pointer ∧
      g = ⟨w.token.start.line + 1, w.token.start.column + 1,
        next.start.pointer - w.token.stop.pointer⟩ := by
  rw [gapAfter?, Option.bind_eq_some_iff]
  refine exists_congr fun next => and_congr_right fun hnext => ?_
  rw [Option.ite_none_right_eq_some, h.token.stop.line_eq_iff (h.next next hnext).start,
    Option.some.injEq, eq_comm (a := g)]

/-- There is a gap before a token if the one before ends on its line, and not with a line
feed. -/
theorem Over.gapBefore?_eq_some_iff {g : Gap} :
    w.gapBefore? = some g ↔ ∃ previous, w.previous = some previous ∧
      '\n'.toUInt8 ∉ Text.bytesBetween s previous.stop.pointer w.token.start.pointer ∧
      ¬ Text.AfterLineFeed s previous.stop.pointer ∧
      g = ⟨previous.stop.line + 1, previous.stop.column + 1,
        w.token.start.pointer - previous.stop.pointer⟩ := by
  rw [gapBefore?, Option.bind_eq_some_iff]
  refine exists_congr fun previous => and_congr_right fun hprevious => ?_
  have hline := (h.previous previous hprevious).stop.line_eq_iff h.token.start
  rw [Option.ite_none_right_eq_some, ← hline, and_assoc, Bool.not_eq_true', ← Bool.not_eq_true,
    h.endsWithLineFeed_iff, Option.some.injEq, eq_comm (a := g)]
  -- both marks are on one line, so it does not matter which of them gives its number
  refine and_congr_right fun heq => ?_
  rw [heq]

/-- **The gap after a token is the text up to the next one.** -/
theorem Over.spacesAfter_iff {l : SpaceLimits} {delimiter : Delimiter} {f : Finding} :
    w.spacesAfter l delimiter = some f ↔ w.BrokenAfter s l delimiter f := by
  rw [spacesAfter_eq, Option.bind_eq_some_iff]
  constructor
  · rintro ⟨g, hgap, hfound⟩
    obtain ⟨next, hnext, hline, rfl⟩ := h.gapAfter?_eq_some_iff.1 hgap
    obtain ⟨hbroken, rfl⟩ := Gap.finding?_eq_some_iff.1 hfound
    exact ⟨next, hnext, ⟨hline, hbroken⟩, rfl⟩
  · rintro ⟨next, hnext, hbroken, rfl⟩
    exact ⟨_, h.gapAfter?_eq_some_iff.2 ⟨next, hnext, hbroken.oneLine, rfl⟩,
      Gap.finding?_eq_some_iff.2 ⟨hbroken.broken, rfl⟩⟩

/-- **The gap before a token is the text from the one before.** -/
theorem Over.spacesBefore_iff {l : SpaceLimits} {delimiter : Delimiter} {f : Finding} :
    w.spacesBefore l delimiter = some f ↔ w.BrokenBefore s l delimiter f := by
  rw [spacesBefore_eq, Option.bind_eq_some_iff]
  constructor
  · rintro ⟨g, hgap, hfound⟩
    obtain ⟨previous, hprevious, hline, hfeed, rfl⟩ := h.gapBefore?_eq_some_iff.1 hgap
    obtain ⟨hbroken, rfl⟩ := Gap.finding?_eq_some_iff.1 hfound
    exact ⟨previous, hprevious, ⟨hline, hbroken⟩, hfeed, rfl⟩
  · rintro ⟨previous, hprevious, hbroken, hfeed, rfl⟩
    exact ⟨_, h.gapBefore?_eq_some_iff.2 ⟨previous, hprevious, hbroken.oneLine, hfeed, rfl⟩,
      Gap.finding?_eq_some_iff.2 ⟨hbroken.broken, rfl⟩⟩

/-- A token begins a line if a line feed lies before it. -/
theorem Over.startsLine_iff : w.startsLine = true ↔ w.OnLaterLine s := by
  unfold startsLine OnLaterLine
  cases hprevious : w.previous with
  | none => simp
  | some previous =>
    have hline := (h.previous previous hprevious).stop.line_lt_iff h.token.start
    simp [hline]

end Window

/-! ### Commas and hyphens -/

section

variable {s : List Char} {w : Window} (h : w.Over s)
include h

/-- What is found at a hyphen. -/
theorem Hyphens.mem_check_iff {o : Options} {f : Finding} :
    f ∈ check o w ↔
      w.kind = .blockEntry ∧ w.BrokenAfter s (.atMost o.maxAfter) .hyphen f := by
  rw [check, ← h.spacesAfter_iff]
  split
  · rename_i hkind
    rw [Option.mem_toList, and_iff_right hkind]
  · rename_i hkind
    exact ⟨fun hmem => (nomatch hmem), fun hmem => absurd hmem.1 hkind⟩

/-- What is found before a comma: on a later line always the same, and elsewhere a gap. -/
theorem Commas.checkBefore_iff {o : Options} {f : Finding} :
    checkBefore o w = some f ↔
      w.OnLaterLine s ∧ 0 ≤ o.maxBefore.toInt ∧
          f = ⟨w.token.start.line + 1, max w.token.start.column 1,
            .spacing .tooMany .before .comma⟩ ∨
        ¬ w.OnLaterLine s ∧ w.BrokenBefore s (.atMost o.maxBefore) .comma f := by
  rw [checkBefore, ← h.spacesBefore_iff]
  by_cases hlater : w.OnLaterLine s
  · rw [if_pos (h.startsLine_iff.2 hlater), Option.ite_none_right_eq_some, Option.some.injEq,
      eq_comm (a := f)]
    simp only [hlater, true_and, not_true_eq_false, false_and, or_false]
  · rw [if_neg (h.startsLine_iff.not.2 hlater)]
    simp only [hlater, false_and, false_or, not_false_eq_true, true_and]

end

/-- **Spaces around delimiters are measured in the text.**  For every text and every list of
tokens over ranges of it, the gap after a token that has a next one is reported if and only
if no line feed lies between the two, in whichever order they stand, and the bytes from the
end of the token to the start of the next break a limit: at the start of the token, and as
too many whenever the upper limit is passed.  The gap before a token is reported in the same
way at the mark where the token before it stops, unless that mark comes right after a line
feed.  Limits count every byte of a gap, as long as the number of bytes of the text is a
signed integer of 64 bits.  So the rule on hyphens reports what is found after the hyphen of
an entry, and the rule on commas at most one thing before and one after a comma; before a
comma on a later line than the end of the token before, too many spaces always, unless there
is no limit. -/
theorem spaces_between_tokens (s : List Char) (ranges : List (TokenKind × Nat × Nat)) (w : Window)
    (hw : w ∈ (Document.ofRanges s ranges).windows) :
    (∀ l delimiter f, w.spacesAfter l delimiter = some f ↔ w.BrokenAfter s l delimiter f) ∧
    (∀ l delimiter f, w.spacesBefore l delimiter = some f ↔ w.BrokenBefore s l delimiter f) ∧
    (Text.byteLength s ≤ 0x7FFFFFFFFFFFFFFF →
      (∀ next, w.next = some next →
        w.token.stop.gapTo next.start = next.start.pointer - w.token.stop.pointer) ∧
      ∀ previous, w.previous = some previous →
        previous.stop.gapTo w.token.start = w.token.start.pointer - previous.stop.pointer) ∧
    (∀ o, (Hyphens.check o w).length ≤ 1 ∧ ∀ f, f ∈ Hyphens.check o w ↔
      w.kind = .blockEntry ∧ w.BrokenAfter s (.atMost o.maxAfter) .hyphen f) ∧
    (∀ o, w.kind ≠ .flowEntry → Commas.check o w = []) ∧
    ∀ o, w.kind = .flowEntry → ∃ before after : Option Finding,
      Commas.check o w = before.toList ++ after.toList ∧
      (∀ f, after = some f ↔
        w.BrokenAfter s ⟨o.minAfter.toInt, o.maxAfter.toInt⟩ .comma f) ∧
      (¬ w.OnLaterLine s →
        ∀ f, before = some f ↔ w.BrokenBefore s (.atMost o.maxBefore) .comma f) ∧
      (w.OnLaterLine s → 0 ≤ o.maxBefore.toInt → ∃ f, before = some f ∧
        f.line = w.token.start.line + 1 ∧ f.column = max w.token.start.column 1 ∧
        f.problem.message = "too many spaces before comma") ∧
      (w.OnLaterLine s → o.maxBefore.toInt < 0 → before = none) := by
  have h := Document.over_of_mem_windows hw
  have hmessage :
      (Problem.spacing .tooMany .before .comma).message = "too many spaces before comma" := by
    decide +kernel
  refine ⟨fun l delimiter f => h.spacesAfter_iff, fun l delimiter f => h.spacesBefore_iff,
    fun hlength => ⟨fun next hnext => Mark.gapTo_eq _ ?_, fun _ _ => Mark.gapTo_eq _ ?_⟩,
    fun o => ⟨?_, fun f => Hyphens.mem_check_iff h⟩, fun o hkind => if_neg hkind,
    fun o hkind => ⟨Commas.checkBefore o w, w.spacesAfter ⟨o.minAfter.toInt, o.maxAfter.toInt⟩ .comma,
      if_pos hkind, fun f => h.spacesAfter_iff, fun hlater f => ?_, fun hlater hlimit => ?_,
      fun hlater hlimit => ?_⟩⟩
  · exact (h.next next hnext).start.pointer_le.trans hlength
  · exact h.token.start.pointer_le.trans hlength
  · rw [Hyphens.check]
    split
    · exact Option.length_toList_le
    · exact Nat.zero_le 1
  · rw [Commas.checkBefore_iff h]
    simp only [hlater, false_and, false_or, not_false_eq_true, true_and]
  · exact ⟨_, (Commas.checkBefore_iff h).2 (Or.inl ⟨hlater, hlimit, rfl⟩), rfl, rfl, hmessage⟩
  · refine Option.eq_none_iff_forall_ne_some.2 fun f hf => ?_
    rcases (Commas.checkBefore_iff h).1 hf with ⟨-, hle, -⟩ | ⟨hnot, -⟩
    · omega
    · exact hnot hlater

/-- Spaces stand before a comma and none after it, behind a character of two bytes.  Another
comma begins a line.  A hyphen comes with a next token that starts before it on an earlier
line, so nothing is measured. -/
theorem spaces_between_tokens_commas :
    let s := "[é   ,b\n, c]\n".toList
    let ranges := [(.streamStart, 0, 0), (.flowSequenceStart, 0, 1), (.scalar "é" .plain, 1, 3),
      (.flowEntry, 6, 7), (.scalar "b" .plain, 7, 8), (.flowEntry, 9, 10),
      (.blockEntry, 11, 99), (.scalar "b" .plain, 7, 8)]
    let ws := (Document.ofRanges s ranges).windows
    let spaced := ws.get ⟨3, by decide +kernel⟩
    let leading := ws.get ⟨5, by decide +kernel⟩
    let crossed := ws.get ⟨6, by decide +kernel⟩
    spaced.BrokenBefore s (.atMost 0) .comma ⟨1, 3, .spacing .tooMany .before .comma⟩ ∧
      spaced.BrokenAfter s ⟨1, 1⟩ .comma ⟨1, 6, .spacing .tooFew .after .comma⟩ ∧
      leading.OnLaterLine s ∧
      (∃ f ∈ Commas.check {} leading, f.line = 2 ∧ f.column = 1 ∧
        f.problem.message = "too many spaces before comma") ∧
      ∀ l f, ¬ crossed.BrokenAfter s l .hyphen f := by
  intro s ranges ws spaced leading crossed
  have hspaced := spaces_between_tokens s ranges spaced (List.get_mem ws _)
  obtain ⟨-, -, -, -, -, hcommas⟩ := spaces_between_tokens s ranges leading (List.get_mem ws _)
  have hcrossed := spaces_between_tokens s ranges crossed (List.get_mem ws _)
  have hlater : leading.OnLaterLine s :=
    ⟨Token.ofRange s (.scalar "b" .plain) 7 8, by decide +kernel, by decide +kernel,
      by decide +kernel⟩
  obtain ⟨before, after, hcheck, -, -, hbefore, -⟩ := hcommas {} (by decide +kernel)
  obtain ⟨f, rfl, hline, hcolumn, hmessage⟩ := hbefore hlater (by decide)
  refine ⟨(hspaced.2.1 _ _ _).1 (by decide +kernel), (hspaced.1 _ _ _).1 (by decide +kernel), hlater,
    ⟨f, ?_, hline, hcolumn, hmessage⟩, fun l f hbroken => ?_⟩
  · rw [hcheck]
    exact List.mem_append_left _ (List.mem_singleton_self f)
  · have hnone : crossed.gapAfter? = none := by decide +kernel
    have hfound := (hcrossed.1 l .hyphen f).2 hbroken
    rw [Window.spacesAfter_eq, hnone] at hfound
    cases hfound

end YamlStyle
