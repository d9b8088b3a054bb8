/-
# Gaps between tokens

The rules on spaces measure gaps between a token and its neighbours.  Which gap is
measured and where it is reported depends on the tokens alone, and what is found
in it on the limits alone, so the two are said apart: a gap with its place
(`Window.gapAfter?`, `Window.gapBefore?`), and what limits find in a gap
(`Gap.finding?`).
-/

import YamlStyle.Rule.Spacing

namespace YamlStyle

/-- A gap between two tokens: the place where it is reported, and its bytes. -/
structure Gap where
  line : Nat
  column : Nat
  spaces : Nat

/-- What limits find in a gap. -/
def Gap.finding? (g : Gap) (limits : SpaceLimits) (side : Side) (delimiter : Delimiter) :
    Option Finding :=
  (limits.excess? g.spaces).map fun excess => ⟨g.line, g.column, .spacing excess side delimiter⟩

namespace Window

/-- The gap after the token, if it is measured. -/
def gapAfter? (w : Window) : Option Gap :=
  w.next.bind fun next =>
    if w.token.stop.line = next.start.line then
      some ⟨w.token.start.line + 1, w.token.start.column + 1,
        next.start.pointer - w.token.stop.pointer⟩
    else none

/-- The gap before the token, if it is measured. -/
def gapBefore? (w : Window) : Option Gap :=
  w.previous.bind fun previous =>
    if previous.stop.line = w.token.start.line ∧ !w.endsWithLineFeed previous then
      some ⟨w.token.start.line + 1, previous.stop.column + 1,
        w.token.start.pointer - previous.stop.pointer⟩
    else none

/-- What is found after a token is found in the gap there. -/
theorem spacesAfter_eq (w : Window) (limits : SpaceLimits) (delimiter : Delimiter) :
    w.spacesAfter limits delimiter = w.gapAfter?.bind (·.finding? limits .after delimiter) := by
  unfold spacesAfter gapAfter?
  cases w.next with
  | none => rfl
  | some next =>
    by_cases hline : w.token.stop.line = next.start.line
    · simp only [Option.bind_eq_bind, Option.bind_some, if_pos hline, Gap.finding?]
      cases limits.excess? (next.start.pointer - w.token.stop.pointer) <;> rfl
    · simp only [Option.bind_eq_bind, Option.bind_some, if_neg hline, Option.bind_none]

/-- What is found before a token is found in the gap there. -/
theorem spacesBefore_eq (w : Window) (limits : SpaceLimits) (delimiter : Delimiter) :
    w.spacesBefore limits delimiter = w.gapBefore?.bind (·.finding? limits .before delimiter) := by
  unfold spacesBefore gapBefore?
  cases w.previous with
  | none => rfl
  | some previous =>
    by_cases hline : previous.stop.line = w.token.start.line ∧ !w.endsWithLineFeed previous
    · simp only [Option.bind_eq_bind, Option.bind_some, if_pos hline, Gap.finding?]
      cases limits.excess? (w.token.start.pointer - previous.stop.pointer) <;> rfl
    · simp only [Option.bind_eq_bind, Option.bind_some, if_neg hline, Option.bind_none]

end Window

/-- What is found in a gap is at the place of the gap. -/
theorem Gap.of_mem_finding? {gap? : Option Gap} {limits : SpaceLimits} {side : Side}
    {delimiter : Delimiter} {f : Finding} (h : f ∈ gap?.bind (·.finding? limits side delimiter)) :
    ∃ g, gap? = some g ∧ f.line = g.line ∧ f.column = g.column := by
  obtain ⟨g, hgap, hfound⟩ := Option.bind_eq_some_iff.1 h
  obtain ⟨excess, -, rfl⟩ := Option.map_eq_some_iff.1 hfound
  exact ⟨g, hgap, rfl, rfl⟩

namespace Window

variable {w : Window} {limits : SpaceLimits} {delimiter : Delimiter} {f : Finding}

/-- The gap after a token is reported where the token starts. -/
theorem of_mem_spacesAfter (h : f ∈ w.spacesAfter limits delimiter) :
    f.line = w.token.start.line + 1 ∧ f.column = w.token.start.column + 1 := by
  rw [spacesAfter_eq] at h
  obtain ⟨g, hgap, hline, hcolumn⟩ := Gap.of_mem_finding? h
  obtain ⟨next, -, hgap⟩ := Option.bind_eq_some_iff.1 hgap
  split at hgap
  · obtain rfl := Option.some.inj hgap
    exact ⟨hline, hcolumn⟩
  · cases hgap

/-- The gap before a token is reported on the line where the token starts, right
after the token before it. -/
theorem of_mem_spacesBefore (h : f ∈ w.spacesBefore limits delimiter) :
    ∃ previous, w.previous = some previous ∧ f.line = w.token.start.line + 1 ∧
      f.column = previous.stop.column + 1 := by
  rw [spacesBefore_eq] at h
  obtain ⟨g, hgap, hline, hcolumn⟩ := Gap.of_mem_finding? h
  obtain ⟨previous, hprevious, hgap⟩ := Option.bind_eq_some_iff.1 hgap
  split at hgap
  · obtain rfl := Option.some.inj hgap
    exact ⟨previous, hprevious, hline, hcolumn⟩
  · cases hgap

end Window
end YamlStyle
