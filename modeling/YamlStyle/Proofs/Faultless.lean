/-
# Linting without faults

Linting in checked form scans the text for its lines, makes a window for every
position of the stream, and runs the checked forms of the rules.  If the text and the
stream are not as long as a word can count, and no mark is at the end of the range of
a word, linting never faults and gives what linting gives: diagnostics or an error
(`Checked.lintWith_eq_ok`).  Nothing else is asked of the marks.
-/

import YamlStyle.Pattern.Standard
import YamlStyle.Proofs.LineFaults
import YamlStyle.Proofs.TokenFaults

namespace YamlStyle

/-- A document that can be counted in words.  Its marks need not belong to its text,
be in order or lie inside it. -/
structure Document.Fits (d : Document) : Prop where
  text : Text.byteLength d.text + 1 < Checked.wordSize
  tokens : d.tokens.length + 1 < Checked.wordSize
  marks : ∀ t ∈ d.tokens, t.Fits

namespace Checked

/-! ### Linting -/

/-- The window at a position. -/
def window (d : Document) (i : Nat) : Checked Window := do
  let token ← item d.tokens i
  let next ← add i 1
  let afterNext ← add i 2
  return ⟨d.text, if i = 0 then none else d.tokens[i - 1]?, token, d.tokens[next]?,
    d.tokens[afterNext]?⟩

/-- Runs every pass over one window, in order, up to the first error. -/
def stepAll (w : Window) :
    List Linter.Pass → Checked (Except LintError (List Linter.Pass × List Ranked))
  | [] => return .ok ([], [])
  | (a, n) :: rest => do
    let outcome ← tokenCheck a.rule a.options n w
    match outcome with
    | .error cause => return .error (.malformedStream a.rule cause)
    | .ok (next, found) =>
      let others ← stepAll w rest
      return others.map fun x => ((a, next) :: x.1, a.report found ++ x.2)

/-- Runs passes over the windows at positions. -/
def runTokens (d : Document) (passes : List Linter.Pass) :
    List Nat → Checked (Except LintError (List Ranked))
  | [] => return .ok []
  | i :: rest => do
    let w ← window d i
    let outcome ← stepAll w passes
    match outcome with
    | .error cause => return .error cause
    | .ok (passes, found) =>
      let others ← runTokens d passes rest
      return others.map (found ++ ·)

/-- What all elements of a list give, one after the other. -/
def collect {α β : Type} (f : α → Checked (List β)) : List α → Checked (List β)
  | [] => return []
  | a :: rest => do
    let found ← f a
    let others ← collect f rest
    return found ++ others

/-- What a rule reports about a line. -/
def report (s : List Char) (p : Span) (a : ActiveLineRule) : Checked (List Ranked) := do
  let found ← lineCheck a.rule a.options s p
  return found.map fun f => ⟨a.rank, f.report a.rule.name a.severity⟩

/-- The diagnostics of a document. -/
def lintWith (l : Linter) (d : Document) : Checked (Except LintError (List Diagnostic)) := do
  let spans ← scanLines d.text 0 0
  let outcome ← runTokens d (l.tokenRules.map fun a => (a, Nesting.empty)) (List.range d.tokens.length)
  match outcome with
  | .error cause => return .error cause
  | .ok onTokens =>
    let onLines ← collect (fun p => collect (report d.text p) l.lineRules) spans
    return .ok (((onTokens ++ onLines).mergeSort Ranked.le).map (·.diagnostic))

/-- Lints a text and its tokens with every rule there is. -/
def lint [Pattern.Engine] (d : Document) (c : Config) :
    Checked (Except LintError (List Diagnostic)) :=
  match Linter.build .builtin c with
  | .ok linter => lintWith linter d
  | .error cause => return .error (.config cause)

/-! ### Windows and passes -/

/-- Every window of a document is made without a fault, and fits. -/
theorem window_eq_ok {d : Document} (h : d.Fits) {i : Nat} {w : Window}
    (hw : d.windows[i]? = some w) : window d i = .ok w ∧ w.Fits := by
  rw [Document.getElem?_windows] at hw
  obtain ⟨t, ht, rfl⟩ := Option.map_eq_some_iff.1 hw
  have hi : i < d.tokens.length := (List.getElem?_eq_some_iff.1 ht).1
  have hlen := h.tokens
  refine ⟨?_, h.marks t (List.mem_of_getElem? ht), fun u hu => ?_, fun u hu => ?_⟩
  · rw [window, item_eq_ok ht, ok_bind, add_eq_ok (by omega), ok_bind, add_eq_ok (by omega), ok_bind]
    rfl
  · dsimp only at hu
    split_ifs at hu
    exact h.marks u (List.mem_of_getElem? hu)
  · exact h.marks u (List.mem_of_getElem? hu)

/-- One window faults in no pass. -/
theorem stepAll_eq_ok {w : Window} (h : w.Fits) (passes : List Linter.Pass) :
    stepAll w passes = .ok (Linter.stepAll w passes) := by
  induction passes with
  | nil => rfl
  | cons p rest ih =>
    obtain ⟨a, n⟩ := p
    rw [stepAll, tokenCheck_eq_ok h, ok_bind, Linter.stepAll]
    cases a.rule.check a.options n w with
    | error cause => rfl
    | ok x =>
      dsimp only
      rw [ih, ok_bind]
      cases Linter.stepAll w rest <;> rfl

/-- Passes run over windows at consecutive positions without a fault. -/
theorem runTokens_eq_ok {d : Document} {ws : List Window} {i : Nat}
    (h : ∀ k w, ws[k]? = some w → window d (i + k) = .ok w ∧ w.Fits) (passes : List Linter.Pass) :
    runTokens d passes (List.range' i ws.length) = .ok (Linter.runTokens passes ws) := by
  induction ws generalizing i passes with
  | nil => rfl
  | cons w ws ih =>
    obtain ⟨hwindow, hfits⟩ : window d i = .ok w ∧ w.Fits := h 0 w rfl
    have hrest : ∀ k w', ws[k]? = some w' → window d (i + 1 + k) = .ok w' ∧ w'.Fits := by
      intro k w' hk
      rw [Nat.add_assoc, Nat.add_comm 1]
      exact h (k + 1) w' hk
    rw [List.length_cons, List.range'_succ, runTokens, hwindow, ok_bind, stepAll_eq_ok hfits, ok_bind,
      Linter.runTokens]
    cases Linter.stepAll w passes with
    | error cause => rfl
    | ok x =>
      dsimp only
      rw [ih hrest, ok_bind]
      simp only [bind, Except.bind]
      cases Linter.runTokens x.1 ws <;> rfl

/-! ### Lines -/

/-- If no item faults, what they give is put together. -/
theorem collect_eq_ok {α β : Type} {f : α → Checked (List β)} {g : α → List β} {l : List α}
    (h : ∀ a ∈ l, f a = .ok (g a)) : collect f l = .ok (l.flatMap g) := by
  induction l with
  | nil => rfl
  | cons a rest ih =>
    rw [List.forall_mem_cons] at h
    rw [collect, h.1, ok_bind, ih h.2]
    rfl

/-- Items can be mapped before they are looked at. -/
theorem collect_map {α β γ : Type} (f : α → Checked (List β)) (k : γ → α) (l : List γ) :
    collect f (l.map k) = collect (fun c => f (k c)) l := by
  induction l with
  | nil => rfl
  | cons c rest ih => rw [List.map_cons, collect, collect, ih]

/-- Rules run over the lines of a text without a fault. -/
theorem runLines_eq_ok {s : List Char} (h : Text.byteLength s + 1 < wordSize)
    (rules : List ActiveLineRule) :
    collect (fun p => collect (report s p) rules) ((Line.ofText s).map Line.span) =
      .ok (Linter.runLines rules (Line.ofText s)) := by
  rw [collect_map]
  refine collect_eq_ok fun l hl => collect_eq_ok fun a _ => ?_
  rw [report, lineCheck_eq_ok (cuts_of_mem_ofText hl) h]
  rfl

/-- A linter never faults. -/
theorem lintWith_eq_ok {d : Document} (h : d.Fits) (l : Linter) : lintWith l d = .ok (l.lint d) := by
  have hwindows : ∀ k w, d.windows[k]? = some w → window d (0 + k) = .ok w ∧ w.Fits := by
    intro k w hw
    rw [Nat.zero_add]
    exact window_eq_ok h hw
  have hrun := runTokens_eq_ok hwindows (l.tokenRules.map fun a => (a, Nesting.empty))
  rw [Document.length_windows, ← List.range_eq_range'] at hrun
  rw [lintWith, scanLines_eq_ok h.text, ok_bind, hrun, ok_bind, runLines_eq_ok h.text, Linter.lint]
  cases Linter.runTokens (l.tokenRules.map fun a => (a, Nesting.empty)) d.windows <;> rfl

/-- **Linting never faults, whatever the marks are.**  On every text and stream of
tokens that can be counted in words, a linter with any rules and any options runs
through every sum, difference, index and cut of its rules and gives what linting
gives, and so does linting with any configuration: diagnostics, or an error that
says what is wrong. -/
theorem lint_faultless [Pattern.Engine] (d : Document) (h : d.Fits) :
    (∀ l : Linter, lintWith l d = .ok (l.lint d)) ∧ ∀ c, lint d c = .ok (YamlStyle.lint d c) := by
  refine ⟨lintWith_eq_ok h, fun c => ?_⟩
  unfold lint YamlStyle.lint
  cases Linter.build .builtin c with
  | error cause => rfl
  | ok linter => exact lintWith_eq_ok h linter

open Pattern.Standard in
/-- Marks lie past the end of the text and inside a character, and stop before they
start.  The text has characters of two and three bytes, and a carriage return that
belongs to a content before one that belongs to a terminator.  One limit is passed,
and another one is the greatest word. -/
theorem lint_faultless_marks :
    let d : Document := ⟨"é: –\r\r\n\n\n \t\r".toList,
      [⟨.value, ⟨7, 0, 1⟩, ⟨3, 9, 0⟩⟩, ⟨.flowEntry, ⟨3, 2, 100⟩, ⟨0, 0, 2⟩⟩,
        ⟨.key, ⟨0, 5, 4⟩, ⟨0, 1, 900⟩⟩, ⟨.scalar "010" .plain, ⟨0, 0, 3⟩, ⟨1, 1, 1⟩⟩]⟩
    let l : Linter := ⟨[⟨0, .error, .colons, {}⟩, ⟨1, .warning, .commas, {}⟩, ⟨2, .error, .octalValues, {}⟩],
      [⟨3, .error, .lineLength, ⟨18446744073709551615, true⟩⟩, ⟨4, .error, .lineLength, ⟨1, false⟩⟩,
        ⟨5, .error, .emptyLines, {}⟩, ⟨6, .error, .trailingSpaces, {}⟩]⟩
    d.Fits ∧ (l.lint d).isOk = true ∧ lintWith l d = .ok (l.lint d) ∧
      lint d (.preset "all") = .ok (YamlStyle.lint d (.preset "all")) := by
  intro d l
  have hd : d.Fits := ⟨by decide, by decide, by decide⟩
  exact ⟨hd, by decide +kernel, (lint_faultless d hd).1 l, (lint_faultless d hd).2 _⟩

end Checked
end YamlStyle
