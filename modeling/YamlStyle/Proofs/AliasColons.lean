/-
# Colons after aliases

A colon one space after an alias is not measured, since without the space it would belong
to the name of the alias.  The rule does not look at the text there but at offsets, so what
it leaves out is a colon one byte after an alias, whatever the byte is
(`Window.Over.followsAlias_iff`).  Where the byte is not a space this matters as soon as
there is something to measure: the byte itself before the colon, unless it ends a line, or
a gap after the colon (`Colons.exempt_oneByte`).  A colon on the line after an alias is the
plainest case (`Colons.exempt_nextLine`).
-/

import YamlStyle.Proofs.MeasuredGaps

namespace YamlStyle

/-! ### Upper limits -/

namespace SpaceLimits

/-- What breaks an upper limit is not empty. -/
theorem pos_of_broken_atMost {most : Int64} {spaces : Nat}
    (h : (atMost most).Above spaces ∨ (atMost most).Below spaces) : 0 < spaces := by
  rcases h with ⟨hmost, hlt⟩ | ⟨hleast, -⟩
  · omega
  · exact absurd (show (0 : Int) ≤ -1 from hleast) (by decide)

/-- What is not empty breaks a limit of zero. -/
theorem above_atMost_zero {spaces : Nat} (h : 0 < spaces) : (atMost 0).Above spaces :=
  ⟨le_refl _, Int.natCast_pos.2 h⟩

end SpaceLimits

/-! ### Gaps around a token -/

namespace Window

/-- An alias stands before the token, with the given bytes between the two. -/
def AfterAlias (s : List Char) (w : Window) (bytes : List UInt8) : Prop :=
  ∃ previous, w.previous = some previous ∧ previous.kind = .aliasNode ∧
    previous.stop.pointer ≤ w.token.start.pointer ∧
    Text.bytesBetween s previous.stop.pointer w.token.start.pointer = bytes

/-- The gap before the token is not empty and no line breaks there. -/
def GapBefore (s : List Char) (w : Window) : Prop :=
  ∃ previous, w.previous = some previous ∧ previous.stop.pointer < w.token.start.pointer ∧
    '\n'.toUInt8 ∉ Text.bytesBetween s previous.stop.pointer w.token.start.pointer ∧
    ¬ Text.AfterLineFeed s previous.stop.pointer

/-- The gap after the token is not empty and no line breaks there. -/
def GapAfter (s : List Char) (w : Window) : Prop :=
  ∃ next, w.next = some next ∧ w.token.stop.pointer < next.start.pointer ∧
    '\n'.toUInt8 ∉ Text.bytesBetween s w.token.stop.pointer next.start.pointer

/-- A token has one gap to the alias before it. -/
theorem AfterAlias.unique {s : List Char} {w : Window} {bs cs : List UInt8}
    (hb : w.AfterAlias s bs) (hc : w.AfterAlias s cs) : bs = cs := by
  obtain ⟨t, ht, -, -, rfl⟩ := hb
  obtain ⟨u, hu, -, -, rfl⟩ := hc
  rw [ht] at hu
  rw [Option.some.inj hu]

variable {s : List Char} {w : Window} (h : w.Over s)
include h

/-- **A token follows an alias if one byte lies between the two.** -/
theorem Over.followsAlias_iff : w.followsAlias = true ↔ ∃ b, w.AfterAlias s [b] := by
  unfold followsAlias AfterAlias
  cases hprevious : w.previous with
  | none => simp
  | some previous =>
    have hlength := Text.length_bytesBetween (h.previous previous hprevious).stop.pointer_le
      h.token.start.pointer_le
    simp only [Bool.and_eq_true, decide_eq_true_eq, Option.some.injEq, exists_eq_left',
      exists_and_left]
    refine and_congr_right fun _ => ?_
    rw [← List.length_eq_one_iff, hlength]
    omega

/-- Some upper limit makes the gap before the token reported if the gap is not empty. -/
theorem Over.exists_spacesBefore_iff {delimiter : Delimiter} :
    (∃ most f, w.spacesBefore (.atMost most) delimiter = some f) ↔ w.GapBefore s := by
  simp only [h.spacesBefore_iff]
  constructor
  · rintro ⟨most, f, previous, hprevious, ⟨hline, hbroken⟩, hfeed, -⟩
    have hlt := Mark.gapTo_pos_iff.1 (SpaceLimits.pos_of_broken_atMost hbroken)
    exact ⟨previous, hprevious, hlt, hline, hfeed⟩
  · rintro ⟨previous, hprevious, hlt, hline, hfeed⟩
    have habove := SpaceLimits.above_atMost_zero (Mark.gapTo_pos_iff.2 hlt)
    exact ⟨0, _, previous, hprevious, ⟨hline, Or.inl habove⟩, hfeed, rfl⟩

/-- Some upper limit makes the gap after the token reported if the gap is not empty. -/
theorem Over.exists_spacesAfter_iff {delimiter : Delimiter} :
    (∃ most f, w.spacesAfter (.atMost most) delimiter = some f) ↔ w.GapAfter s := by
  simp only [h.spacesAfter_iff]
  constructor
  · rintro ⟨most, f, next, hnext, ⟨hline, hbroken⟩, -⟩
    have hlt := Mark.gapTo_pos_iff.1 (SpaceLimits.pos_of_broken_atMost hbroken)
    exact ⟨next, hnext, hlt, hline⟩
  · rintro ⟨next, hnext, hlt, hline⟩
    have habove := SpaceLimits.above_atMost_zero (Mark.gapTo_pos_iff.2 hlt)
    exact ⟨0, _, next, hnext, ⟨hline, Or.inl habove⟩, rfl⟩

end Window

namespace Colons

/-- What is measured around a colon. -/
def measured (o : Options) (w : Window) : List Finding :=
  (w.spacesBefore (.atMost o.maxBefore) .colon).toList ++
    (w.spacesAfter (.atMost o.maxAfter) .colon).toList

/-- At a colon everything is measured or nothing. -/
theorem check_of_value {w : Window} (hkind : w.kind = .value) (o : Options) :
    check o w = if w.followsAlias then [] else measured o w := by
  rw [check, hkind]
  rfl

/-- Something is measured under some limits if one of the gaps is not empty. -/
theorem exists_measured_iff {s : List Char} {w : Window} (h : w.Over s) :
    (∃ o, measured o w ≠ []) ↔ w.GapBefore s ∨ w.GapAfter s := by
  constructor
  · rintro ⟨o, hne⟩
    obtain ⟨f, hf⟩ := List.exists_mem_of_ne_nil _ hne
    rcases List.mem_append.1 hf with hbefore | hafter
    · exact Or.inl (h.exists_spacesBefore_iff.1 ⟨_, f, Option.mem_toList.1 hbefore⟩)
    · exact Or.inr (h.exists_spacesAfter_iff.1 ⟨_, f, Option.mem_toList.1 hafter⟩)
  · rintro (hgap | hgap)
    · obtain ⟨most, f, hf⟩ : ∃ most f, w.spacesBefore (.atMost most) .colon = some f :=
        h.exists_spacesBefore_iff.2 hgap
      exact ⟨{ maxBefore := most }, by simp [measured, hf]⟩
    · obtain ⟨most, f, hf⟩ : ∃ most f, w.spacesAfter (.atMost most) .colon = some f :=
        h.exists_spacesAfter_iff.2 hgap
      exact ⟨{ maxAfter := most }, by simp [measured, hf]⟩

/-- **A colon is left out one byte after an alias, whatever the byte.**  For every text and
every list of tokens over ranges of it, nothing is reported at a colon that stands one byte
after an alias, and at any other colon what is measured around it.  So the rule leaves out
only colons one space after an alias if and only if, wherever the byte is not a space, the
gaps on both sides of the colon are empty or hold a line break. -/
theorem exempt_oneByte (s : List Char) (ranges : List (TokenKind × Nat × Nat)) (w : Window)
    (hw : w ∈ (Document.ofRanges s ranges).windows) (hkind : w.kind = .value) :
    (∀ b, w.AfterAlias s [b] → ∀ o, check o w = []) ∧
    ((∀ b, ¬ w.AfterAlias s [b]) → ∀ o, check o w = measured o w) ∧
    ((¬ w.AfterAlias s [' '.toUInt8] → ∀ o, check o w = measured o w) ↔
      ∀ b, w.AfterAlias s [b] → b = ' '.toUInt8 ∨ ¬ w.GapBefore s ∧ ¬ w.GapAfter s) := by
  have h := Document.over_of_mem_windows hw
  have hexempt : ∀ b, w.AfterAlias s [b] → ∀ o, check o w = [] := by
    intro b hb o
    rw [check_of_value hkind, if_pos (h.followsAlias_iff.2 ⟨b, hb⟩)]
  have hmeasured : (∀ b, ¬ w.AfterAlias s [b]) → ∀ o, check o w = measured o w := by
    intro hnone o
    rw [check_of_value hkind, if_neg (h.followsAlias_iff.not.2 (not_exists.2 hnone))]
  refine ⟨hexempt, hmeasured, fun hlaw b hb => ?_, fun hgaps hspace o => ?_⟩
  · by_cases hbyte : b = ' '.toUInt8
    · exact Or.inl hbyte
    · have hspace : ¬ w.AfterAlias s [' '.toUInt8] := fun hspace =>
        hbyte (List.singleton_inj.1 (hb.unique hspace))
      have hempty : ¬ ∃ o, measured o w ≠ [] := by
        rintro ⟨o, hne⟩
        exact hne ((hlaw hspace o).symm.trans (hexempt b hb o))
      exact Or.inr (not_or.1 ((exists_measured_iff h).not.1 hempty))
  · by_cases halias : ∃ b, w.AfterAlias s [b]
    · obtain ⟨b, hb⟩ := halias
      rcases hgaps b hb with rfl | hempty
      · exact absurd hb hspace
      · have hnone := (exists_measured_iff h).not.2 (not_or.2 hempty)
        rw [hexempt b hb, not_not.1 (not_exists.1 hnone o)]
    · exact hmeasured (not_exists.1 halias) o

/-- One colon stands a space after an alias, and another one a tab. -/
theorem exempt_oneByte_tab :
    let s := "*a :   b\n*a\t:   b\n".toList
    let ranges := [(.aliasNode, 0, 2), (.value, 3, 4), (.scalar "b" .plain, 7, 8),
      (.aliasNode, 9, 11), (.value, 12, 13), (.scalar "b" .plain, 16, 17)]
    let ws := (Document.ofRanges s ranges).windows
    let spaced := ws.get ⟨1, by decide +kernel⟩
    let tabbed := ws.get ⟨4, by decide +kernel⟩
    spaced.AfterAlias s [' '.toUInt8] ∧ (∀ o, check o spaced = []) ∧
      tabbed.AfterAlias s ['\t'.toUInt8] ∧
      ¬ (¬ tabbed.AfterAlias s [' '.toUInt8] → ∀ o, check o tabbed = measured o tabbed) := by
  intro s ranges ws spaced tabbed
  have hspaced : spaced.AfterAlias s [' '.toUInt8] :=
    ⟨Token.ofRange s .aliasNode 0 2, by decide +kernel, rfl, by decide +kernel, by decide +kernel⟩
  have htabbed : tabbed.AfterAlias s ['\t'.toUInt8] :=
    ⟨Token.ofRange s .aliasNode 9 11, by decide +kernel, rfl, by decide +kernel, by decide +kernel⟩
  have hgap : tabbed.GapAfter s :=
    ⟨Token.ofRange s (.scalar "b" .plain) 16 17, by decide +kernel, by decide +kernel,
      by decide +kernel⟩
  obtain ⟨hexempt, -, -⟩ := exempt_oneByte s ranges spaced (List.get_mem ws _) (by decide +kernel)
  obtain ⟨-, -, hlaw⟩ := exempt_oneByte s ranges tabbed (List.get_mem ws _) (by decide +kernel)
  refine ⟨hspaced, hexempt _ hspaced, htabbed, fun h => ?_⟩
  rcases hlaw.1 h _ htabbed with hbyte | hgaps
  · exact absurd hbyte (by decide)
  · exact hgaps.2 hgap

/-- A colon on the line after an alias is not measured, although three spaces follow it. -/
theorem exempt_nextLine :
    let s := "? *a\n:   b\n".toList
    let ranges := [(.streamStart, 0, 0), (.blockMappingStart, 0, 0), (.key, 0, 1),
      (.aliasNode, 2, 4), (.value, 5, 6), (.scalar "b" .plain, 9, 10), (.blockEnd, 11, 11),
      (.streamEnd, 11, 11)]
    let ws := (Document.ofRanges s ranges).windows
    let colon := ws.get ⟨4, by decide +kernel⟩
    colon.kind = .value ∧ ¬ colon.AfterAlias s [' '.toUInt8] ∧ colon.OnLaterLine s ∧
      check {} colon = [] ∧ measured {} colon = [⟨2, 1, .spacing .tooMany .after .colon⟩] := by
  intro s ranges ws colon
  have hprevious : colon.previous = some (Token.ofRange s .aliasNode 2 4) := by decide +kernel
  have hfeed : colon.AfterAlias s ['\n'.toUInt8] :=
    ⟨_, hprevious, rfl, by decide +kernel, by decide +kernel⟩
  refine ⟨by decide +kernel, fun hspace => ?_, ?_, by decide +kernel, by decide +kernel⟩
  · exact absurd (hfeed.unique hspace) (by decide)
  · exact ⟨_, hprevious, by decide +kernel, by decide +kernel⟩

end Colons
end YamlStyle
