/-
# Diagnostics point into the text

A diagnostic names a line and a column, both counted from one.  If the tokens of a
document are made over ranges of its own text (`Document.ofRanges`), then the line
of every diagnostic is one that the text has, and a rule on lines does not point
further than right after the content of that line (`lint_pointsInto`).

Lines are counted in two ways: the marks of tokens count the line breaks before an
offset, and the text is cut into lines.  That a mark lies on a line of the text is
`Mark.line_atOffset_lt`.  Rules on tokens find something on the line where a token
starts, or on the line before, if there is one, or where the next token starts; so
it is enough to bound the starts of the tokens in a window (`Window.Within`).
-/

import YamlStyle.Pattern.Standard
import YamlStyle.Proofs.Gaps
import YamlStyle.Proofs.Marks
import YamlStyle.Proofs.SwitchOff
import YamlStyle.Proofs.TokenFaults

namespace YamlStyle

/-! ### Lines by number -/

/-- The lines of a text take it apart. -/
theorem Line.decomposition_ofText (s : List Char) : Decomposition s (ofText s) := by
  obtain ⟨pairs, last, hpairs, hlast, rfl⟩ := Terminated.exists_joined s
  rw [ofText_joined hpairs hlast]
  exact decomposition_laid hpairs hlast

/-- Lines are numbered from one. -/
theorem Line.number_of_getElem? {s : List Char} {i : Nat} {l : Line}
    (h : (ofText s)[i]? = some l) : l.number = i + 1 := by
  have hi : i < (ofText s).length := (List.getElem?_eq_some_iff.1 h).1
  have hnumbers := congrArg (·[i]?) (decomposition_ofText s).numbers
  simp only [List.getElem?_map, h, Option.map_some] at hnumbers
  rw [List.getElem?_range' hi] at hnumbers
  have := Option.some.inj hnumbers
  omega

/-- A line is found by its number, counted from one. -/
theorem Line.getElem?_number {s : List Char} {l : Line} (h : l ∈ ofText s) :
    1 ≤ l.number ∧ l.number ≤ (ofText s).length ∧ (ofText s)[l.number - 1]? = some l := by
  obtain ⟨i, hi⟩ := List.mem_iff_getElem?.1 h
  have hlt : i < (ofText s).length := (List.getElem?_eq_some_iff.1 hi).1
  have hnumber := number_of_getElem? hi
  refine ⟨by omega, by omega, ?_⟩
  rw [hnumber, Nat.add_sub_cancel, hi]

/-- The mark of an offset lies on a line of the text. -/
theorem Mark.line_atOffset_lt (s : List Char) (offset : Nat) :
    (atOffset s offset).line < (Line.ofText s).length := by
  obtain ⟨l, hat, hline, -⟩ := exists_line_atOffset s (p := offset)
  have hmem : l ∈ Line.ofText s := List.mem_of_mem_filter (List.mem_of_getLast? hat)
  obtain ⟨-, hle, -⟩ := Line.getElem?_number hmem
  omega

/-! ### Documents over their own text -/

/-- A text with tokens over ranges of its byte offsets. -/
def Document.ofRanges (s : List Char) (ranges : List (TokenKind × Nat × Nat)) : Document :=
  ⟨s, ranges.map fun (kind, start, stop) => Token.ofRange s kind start stop⟩

/-- The token of a window and the next one start before a line. -/
structure Window.Within (count : Nat) (w : Window) : Prop where
  token : w.token.start.line < count
  next : ∀ t, w.next = some t → t.start.line < count

/-- The windows of a document over ranges lie inside its text. -/
theorem Document.within_of_mem_windows {s : List Char} {ranges : List (TokenKind × Nat × Nat)}
    {w : Window} (h : w ∈ (ofRanges s ranges).windows) : w.Within (Line.ofText s).length := by
  have hstart : ∀ t ∈ (ofRanges s ranges).tokens, t.start.line < (Line.ofText s).length := by
    intro t ht
    obtain ⟨⟨kind, start, stop⟩, -, rfl⟩ := List.mem_map.1 ht
    exact Mark.line_atOffset_lt s start
  obtain ⟨i, hi⟩ := List.mem_iff_getElem?.1 h
  have hat := window_at hi
  refine ⟨hstart _ (List.mem_of_getElem? hat.token), fun t ht => hstart t ?_⟩
  rw [hat.next] at ht
  exact List.mem_of_getElem? ht

/-! ### Rules on tokens -/

/-- A finding in one of the first lines. -/
structure Finding.Within (count : Nat) (f : Finding) : Prop where
  one_le_line : 1 ≤ f.line
  line_le : f.line ≤ count
  one_le_column : 1 ≤ f.column

section Tokens

variable {count : Nat} {w : Window} (h : w.Within count) {f : Finding}
include h

/-- A finding on the line where the token starts. -/
theorem Window.Within.of_line (hline : f.line = w.token.start.line + 1) (hcolumn : 1 ≤ f.column) :
    f.Within count := by
  have htoken := h.token
  exact ⟨by omega, by omega, hcolumn⟩

/-- What is found after a token points into the text. -/
theorem Window.Within.spacesAfter {limits : SpaceLimits} {delimiter : Delimiter}
    (hf : f ∈ (w.spacesAfter limits delimiter).toList) : f.Within count := by
  obtain ⟨hline, hcolumn⟩ := of_mem_spacesAfter (Option.mem_toList.1 hf)
  exact h.of_line hline (by omega)

/-- What is found before a token points into the text. -/
theorem Window.Within.spacesBefore {limits : SpaceLimits} {delimiter : Delimiter}
    (hf : f ∈ (w.spacesBefore limits delimiter).toList) : f.Within count := by
  obtain ⟨previous, -, hline, hcolumn⟩ := of_mem_spacesBefore (Option.mem_toList.1 hf)
  exact h.of_line hline (by omega)

/-- The rule on colons points into the text. -/
theorem Colons.within_of_mem {o : Options} (hf : f ∈ check o w) : f.Within count := by
  unfold check at hf
  split at hf
  · split at hf
    · cases hf
    · rcases List.mem_append.1 hf with hbefore | hafter
      · exact h.spacesBefore hbefore
      · exact h.spacesAfter hafter
  · split at hf
    · exact h.spacesAfter hf
    · cases hf
  · cases hf

/-- The rule on commas points into the text. -/
theorem Commas.within_of_mem {o : Options} (hf : f ∈ check o w) : f.Within count := by
  unfold check at hf
  split at hf
  · rcases List.mem_append.1 hf with hbefore | hafter
    · unfold checkBefore at hbefore
      split at hbefore
      · split at hbefore
        · -- the column of a comma that begins a line is moved to the first one
          obtain rfl := List.mem_singleton.1 hbefore
          exact h.of_line rfl (Nat.le_max_right _ _)
        · cases hbefore
      · exact h.spacesBefore hbefore
    · exact h.spacesAfter hafter
  · cases hf

/-- The rule on hyphens points into the text. -/
theorem Hyphens.within_of_mem {o : Options} (hf : f ∈ check o w) : f.Within count := by
  unfold check at hf
  split at hf
  · exact h.spacesAfter hf
  · cases hf

/-- The rule on starts of documents points into the text. -/
theorem Markers.within_of_mem_start {o : Options} (hf : f ∈ checkStart o w) : f.Within count := by
  unfold checkStart at hf
  split at hf
  · split at hf
    iterate 3 cases hf
    split at hf
    · obtain rfl := List.mem_singleton.1 hf
      exact h.of_line rfl (Nat.le_refl 1)
    · cases hf
  · split at hf
    · obtain rfl := List.mem_singleton.1 hf
      exact h.of_line rfl (Nat.le_add_left 1 _)
    · cases hf

/-- The line before the end of the stream is the first one at least. -/
theorem Markers.within_of_mem_end {o : Options} (hf : f ∈ checkEnd o w) : f.Within count := by
  have htoken := h.token
  unfold checkEnd at hf
  split at hf
  · split at hf
    iterate 2 cases hf
    · obtain rfl := List.mem_singleton.1 hf
      exact ⟨Nat.le_max_right _ _, Nat.max_le.2 ⟨by omega, by omega⟩, Nat.le_refl 1⟩
    iterate 3 cases hf
    · obtain rfl := List.mem_singleton.1 hf
      exact h.of_line rfl (Nat.le_refl 1)
    · cases hf
  · split at hf
    · obtain rfl := List.mem_singleton.1 hf
      exact h.of_line rfl (Nat.le_add_left 1 _)
    · cases hf

/-- The rule on empty values points into the text. -/
theorem EmptyValues.within_of_mem {o : Options} (hf : f ∈ check o w) : f.Within count := by
  unfold check at hf
  split at hf
  · split at hf
    · obtain rfl := List.mem_singleton.1 hf
      exact h.of_line rfl (Nat.le_add_left 1 _)
    · cases hf
  · cases hf

/-- The rule on octal values points into the text. -/
theorem OctalValues.within_of_mem {o : Options} (hf : f ∈ check o w) : f.Within count := by
  unfold check at hf
  split at hf
  · cases hf
  · split at hf
    · obtain rfl := List.mem_singleton.1 hf
      exact h.of_line rfl (Nat.le_add_left 1 _)
    · cases hf
  · cases hf

/-- A key is reported where its scalar starts, which is the next token. -/
theorem KeyVisit.within_finding {n : Nesting} {v : KeyVisit} (hv : n.visit? w = some v)
    (problem : Problem) : (v.finding problem).Within count := by
  have hnext := h.next v.scalar (Checked.next_of_visit? hv)
  exact ⟨Nat.le_add_left 1 _, hnext, Nat.le_add_left 1 _⟩

/-- A walk that visits keys finds something at a key only. -/
theorem Nesting.within_of_checkWith {visit : Nesting → KeyVisit → Nesting × List Finding}
    (hvisit : ∀ m v, ∀ f ∈ (visit m v).2, ∃ problem, f = v.finding problem) {n next : Nesting}
    {found : List Finding} (hcheck : n.checkWith visit w = .ok (next, found)) (hf : f ∈ found) :
    f.Within count := by
  unfold checkWith at hcheck
  cases hadvance : n.advance w.token with
  | error cause => simp [hadvance, bind, Except.bind] at hcheck
  | ok m =>
    cases hv : m.visit? w with
    | none =>
      simp only [hadvance, hv, bind, Except.bind, pure, Except.pure, Except.ok.injEq] at hcheck
      obtain ⟨-, rfl⟩ := Prod.mk.inj hcheck
      cases hf
    | some v =>
      simp only [hadvance, hv, bind, Except.bind, pure, Except.pure, Except.ok.injEq] at hcheck
      obtain ⟨problem, rfl⟩ := hvisit m v f (by rw [hcheck]; exact hf)
      exact KeyVisit.within_finding h hv problem

/-- **Rules on tokens point into the first lines,** if the tokens of the window
start there. -/
theorem TokenRule.within_of_check {r : TokenRule} {o : r.Options} {n next : Nesting}
    {found : List Finding} (hcheck : r.check o n w = .ok (next, found)) (hf : f ∈ found) :
    f.Within count := by
  cases r with
  | colons => cases hcheck; exact Colons.within_of_mem h hf
  | commas => cases hcheck; exact Commas.within_of_mem h hf
  | documentEnd => cases hcheck; exact Markers.within_of_mem_end h hf
  | documentStart => cases hcheck; exact Markers.within_of_mem_start h hf
  | emptyValues => cases hcheck; exact EmptyValues.within_of_mem h hf
  | hyphens => cases hcheck; exact Hyphens.within_of_mem h hf
  | octalValues => cases hcheck; exact OctalValues.within_of_mem h hf
  | keyDuplicates =>
    refine Nesting.within_of_checkWith h (fun m v f hf => ?_) hcheck hf
    unfold KeyDuplicates.visit at hf
    split at hf
    · exact ⟨_, List.mem_singleton.1 hf⟩
    · cases hf
  | keyOrdering =>
    refine Nesting.within_of_checkWith h (fun m v f hf => ?_) hcheck hf
    unfold KeyOrdering.visit at hf
    split at hf
    · cases hf
    · split at hf
      · exact ⟨_, List.mem_singleton.1 hf⟩
      · cases hf

end Tokens

/-! ### Rules on lines -/

/-- A finding on a line of a text, not further than right after its content. -/
structure Finding.On (l : Line) (f : Finding) : Prop where
  line : f.line = l.number
  one_le_column : 1 ≤ f.column
  column_le : f.column ≤ l.content.length + 1

section Lines

variable {l : Line} {f : Finding}

/-- The rule on blank lines points at its line. -/
theorem EmptyLines.on_of_mem {o : Options} (hf : f ∈ check o l) : f.On l := by
  unfold check at hf
  split at hf
  · cases hf
  · dsimp only at hf
    split at hf
    · cases hf
    · generalize (if endsText l then o.maxEnd else (countUpTo o l).2) = limit at hf
      split at hf
      · obtain rfl := List.mem_singleton.1 hf
        exact ⟨rfl, Nat.le_refl 1, Nat.le_add_left 1 _⟩
      · cases hf

/-- A line is reported as too long where it passes the limit, so the limit is
inside it. -/
theorem LineLength.on_of_mem {o : Options} (hf : f ∈ check o l) : f.On l := by
  unfold check at hf
  split at hf
  · cases hf
  · rename_i hlong
    obtain rfl := List.mem_singleton.1 hf
    rw [Bool.or_eq_true, not_or, decide_eq_true_eq, Line.charLength] at hlong
    have hlt : o.max.toNat < l.content.length := by omega
    exact ⟨rfl, Nat.le_add_left 1 _, Nat.succ_le_succ hlt.le⟩

/-- The rule on the end of the text points at its line. -/
theorem FinalNewLine.on_of_mem (hf : f ∈ check l) : f.On l := by
  unfold check at hf
  split at hf
  · obtain rfl := List.mem_singleton.1 hf
    exact ⟨rfl, Nat.le_add_left 1 _, Nat.le_refl _⟩
  · cases hf

/-- The rule on line breaks points at its line. -/
theorem NewLines.on_of_mem {o : Options} (hf : f ∈ check o l) : f.On l := by
  unfold check at hf
  dsimp only at hf
  split at hf
  · cases hf
  · obtain rfl := List.mem_singleton.1 hf
    exact ⟨rfl, Nat.le_add_left 1 _, Nat.le_refl _⟩

/-- The rule on trailing spaces points at its line. -/
theorem TrailingSpaces.on_of_mem (hf : f ∈ check l) : f.On l := by
  have hcolumn : l.content.length - (trailing l.content).length + 1 ≤ l.content.length + 1 := by
    omega
  unfold check at hf
  dsimp only at hf
  split at hf
  · obtain rfl := List.mem_singleton.1 hf
    exact ⟨rfl, Nat.le_add_left 1 _, hcolumn⟩
  · obtain rfl := List.mem_singleton.1 hf
    exact ⟨rfl, Nat.le_add_left 1 _, hcolumn⟩
  · cases hf

/-- **Rules on lines point at the line they look at,** and not further than right
after its content. -/
theorem LineRule.on_of_mem {r : LineRule} {o : r.Options} (hf : f ∈ r.check o l) : f.On l := by
  cases r with
  | emptyLines => exact EmptyLines.on_of_mem hf
  | lineLength => exact LineLength.on_of_mem hf
  | newLineAtEndOfFile => exact FinalNewLine.on_of_mem hf
  | newLines => exact NewLines.on_of_mem hf
  | trailingSpaces => exact TrailingSpaces.on_of_mem hf

end Lines

/-! ### Reports -/

/-- A diagnostic at a place of a text. -/
structure Diagnostic.PointsInto (s : List Char) (x : Diagnostic) : Prop where
  one_le_line : 1 ≤ x.line
  line_le : x.line ≤ (Line.ofText s).length
  one_le_column : 1 ≤ x.column
  /-- A rule on lines points into its line or right after it. -/
  column_le : ∀ r : LineRule, x.rule = r.name →
    ∃ l, (Line.ofText s)[x.line - 1]? = some l ∧ x.column ≤ l.content.length + 1

/-- No rule on tokens has the name of a rule on lines. -/
theorem TokenRule.name_ne (r : TokenRule) (r' : LineRule) : r.name ≠ r'.name := by
  cases r <;> cases r' <;> decide

namespace Linter

/-- What is reported in a sweep over windows was found at a window. -/
theorem of_mem_emitted {passes : List Pass} {ws : List Window} {x : Ranked}
    (h : x ∈ emitted passes ws) :
    ∃ w ∈ ws, ∃ (a : ActiveTokenRule) (n next : Nesting) (found : List Finding),
      a.rule.check a.options n w = .ok (next, found) ∧
        ∃ f ∈ found, x.diagnostic = f.report a.rule.name a.severity := by
  induction ws generalizing passes with
  | nil => cases h
  | cons w ws ih =>
    rcases List.mem_append.1 h with hhere | hlater
    · obtain ⟨⟨a, n⟩, -, hreport⟩ := List.mem_flatMap.1 hhere
      obtain ⟨f, hf, rfl⟩ := List.mem_map.1 hreport
      unfold Pass.outcome at hf
      cases hcheck : a.rule.check a.options n w with
      | error cause => simp [hcheck, findingsOf] at hf
      | ok step =>
        obtain ⟨next, found⟩ := step
        simp only [hcheck, findingsOf] at hf
        exact ⟨w, List.mem_cons_self .., a, n, next, found, hcheck, f, hf, rfl⟩
    · obtain ⟨w', hw', hfound⟩ := ih hlater
      exact ⟨w', List.mem_cons_of_mem _ hw', hfound⟩

/-- What is reported about lines was found in a line. -/
theorem of_mem_runLines {rules : List ActiveLineRule} {lines : List Line} {x : Ranked}
    (h : x ∈ runLines rules lines) :
    ∃ l ∈ lines, ∃ a : ActiveLineRule, ∃ f ∈ a.rule.check a.options l,
      x.diagnostic = f.report a.rule.name a.severity := by
  obtain ⟨l, hl, hx⟩ := List.mem_flatMap.1 h
  obtain ⟨a, -, hx⟩ := List.mem_flatMap.1 hx
  obtain ⟨f, hf, rfl⟩ := List.mem_map.1 hx
  exact ⟨l, hl, a, f, hf, rfl⟩

/-- A diagnostic of a linter comes from one of the two sweeps. -/
theorem exists_ranked_of_mem_lint {l : Linter} {d : Document} {ds : List Diagnostic}
    (h : l.lint d = .ok ds) {x : Diagnostic} (hx : x ∈ ds) :
    ∃ ranked : Ranked, ranked.diagnostic = x ∧
      (ranked ∈ emitted (l.tokenRules.map fun a => (a, Nesting.empty)) d.windows ∨
        ranked ∈ runLines l.lineRules d.lines) := by
  unfold lint at h
  cases hrun : runTokens (l.tokenRules.map fun a => (a, Nesting.empty)) d.windows with
  | error cause => simp [hrun, bind, Except.bind] at h
  | ok found =>
    obtain ⟨-, rfl⟩ := eq_emitted_of_runTokens hrun
    simp only [hrun, bind, Except.bind, pure, Except.pure, Except.ok.injEq] at h
    rw [← h] at hx
    obtain ⟨ranked, hranked, rfl⟩ := List.mem_map.1 hx
    exact ⟨ranked, rfl, List.mem_append.1 (List.mem_mergeSort.1 hranked)⟩

/-- Whatever rules are on, and under whatever options, diagnostics point into the
text. -/
theorem pointsInto_of_mem {l : Linter} {s : List Char} {ranges : List (TokenKind × Nat × Nat)}
    {ds : List Diagnostic} (h : l.lint (.ofRanges s ranges) = .ok ds) {x : Diagnostic}
    (hx : x ∈ ds) : x.PointsInto s := by
  obtain ⟨ranked, rfl, htokens | hlines⟩ := exists_ranked_of_mem_lint h hx
  · obtain ⟨w, hw, a, n, next, found, hcheck, f, hf, hreport⟩ := of_mem_emitted htokens
    have hwithin := TokenRule.within_of_check (Document.within_of_mem_windows hw) hcheck hf
    rw [hreport]
    exact ⟨hwithin.one_le_line, hwithin.line_le, hwithin.one_le_column,
      fun r hr => absurd hr (a.rule.name_ne r)⟩
  · obtain ⟨line, hline, a, f, hf, hreport⟩ := of_mem_runLines hlines
    have hline : line ∈ Line.ofText s := hline
    obtain ⟨hpos, hle, hget⟩ := Line.getElem?_number hline
    have hon := LineRule.on_of_mem hf
    have hplace : ranked.diagnostic.line = line.number := by rw [hreport]; exact hon.line
    refine ⟨by omega, by omega, ?_, fun _ _ => ⟨line, ?_, ?_⟩⟩
    · rw [hreport]
      exact hon.one_le_column
    · rw [hplace]
      exact hget
    · rw [hreport]
      exact hon.column_le

end Linter

/-- **Every diagnostic points into the text.**  For every text, every list of tokens
over ranges of it and every configuration that is accepted, a diagnostic has a
line that the text has and a column that is at least one; if its rule is one on
lines, the column is at most one past the content of that line. -/
theorem lint_pointsInto [Pattern.Engine] (s : List Char) (ranges : List (TokenKind × Nat × Nat))
    (c : Config) (ds : List Diagnostic) (h : lint (.ofRanges s ranges) c = .ok ds) :
    ∀ x ∈ ds, x.PointsInto s := by
  intro x hx
  unfold lint at h
  cases hbuild : Linter.build .builtin c with
  | error cause => simp [hbuild] at h
  | ok l =>
    rw [hbuild] at h
    exact Linter.pointsInto_of_mem h hx

open Pattern.Standard in
/-- A comma begins a line, a range goes past the end of the text and another one
stops inside a character.  The end of the stream lies after the last line break,
so the line before it is reported. -/
theorem lint_pointsInto_comma :
    let s := "[é \r\n,b]\n".toList
    let ranges := [(.streamStart, 0, 0), (.flowSequenceStart, 0, 1), (.scalar "é" .plain, 1, 2),
      (.flowEntry, 6, 7), (.scalar "b" .plain, 7, 8), (.flowSequenceEnd, 8, 99),
      (.streamEnd, 99, 99)]
    ∃ ds, lint (.ofRanges s ranges) (.preset "all") = .ok ds ∧ ds.length = 6 ∧
      (∃ x ∈ ds, x.rule = "document-end" ∧ x.line = 2) ∧ ∀ x ∈ ds, x.PointsInto s := by
  intro s ranges
  have hd : ∀ e ∈ Registry.builtin.enabled (.preset "all"), e.Completes (.ofRanges s ranges) := by
    decide +kernel
  have hok : (Linter.build .builtin (.preset "all")).isOk = true := by decide +kernel
  cases hl : Linter.build .builtin (.preset "all") with
  | error cause => rw [hl] at hok; cases hok
  | ok l =>
    obtain ⟨ds, hlint, hsort⟩ := Linter.isStableSort_lint hl hd
    have hds : lint (.ofRanges s ranges) (.preset "all") = .ok ds := by
      rw [lint, hl]
      exact hlint
    refine ⟨ds, hds, hsort.perm.length_eq.trans (by decide +kernel), ?_,
      lint_pointsInto s ranges _ ds hds⟩
    have hreport : ∃ x ∈ (Registry.builtin.enabled (.preset "all")).flatMap
        (·.report (.ofRanges s ranges)), x.rule = "document-end" ∧ x.line = 2 := by
      decide +kernel
    obtain ⟨x, hx, hrule⟩ := hreport
    exact ⟨x, hsort.perm.mem_iff.2 hx, hrule⟩

end YamlStyle
