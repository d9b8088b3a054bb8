/-
# Passes that walk with the open collections

Of the rules on tokens two walk with the open collections, and only these can
fail.  What they do at a key differs, but to the open collections it is a matter
of recording the key or not, so both are walks that record keys
(`TokenRule.check_eq`).  The frames of such a pass therefore agree with the
unmatched openers of the stream at every position (`Pass.AgreesAt`), and it fails
where the stream is at fault (`Pass.AgreesAt.outcome_eq_error`); all other passes
go on everywhere (`Pass.AgreesAt.exists_outcome`).
-/

import YamlStyle.Proofs.Frames
import YamlStyle.Proofs.Passes

namespace YamlStyle

/-! ### The rules that walk with the open collections -/

/-- One token of a walk that does something at every key it visits. -/
def Nesting.checkWith (visit : Nesting → KeyVisit → Nesting × List Finding) (n : Nesting)
    (w : Window) : StepResult := do
  let n ← n.advance w.token
  match n.visit? w with
  | some v => return visit n v
  | none => return (n, [])

/-- If all that is done at a key is to record it, or not, and to report a problem, or
not, a token fails where it cannot be opened or closed, and the open collections
change as in a walk that records keys. -/
theorem Nesting.checkWith_eq {visit : Nesting → KeyVisit → Nesting × List Finding}
    {admits : Admits} {problem? : KeyVisit → Option Problem}
    (h : ∀ n v, visit n v = (if admits v.earlier v.key then n.record v.key else n,
      ((problem? v).map v.finding).toList)) (n : Nesting) (w : Window) :
    n.checkWith visit w = (n.advance w.token).map fun m =>
      (m.recordIf admits w, ((m.visit? w).bind fun v => (problem? v).map v.finding).toList) := by
  unfold checkWith
  cases n.advance w.token with
  | error cause => rfl
  | ok m =>
    cases hvisit : m.visit? w with
    | none => simp [bind, Except.bind, pure, Except.pure, Except.map, recordIf, hvisit]
    | some v => simp [bind, Except.bind, pure, Except.pure, Except.map, recordIf, hvisit, h]

namespace TokenRule

/-- Whether a rule walks with the open collections. -/
def tracksKeys : TokenRule → Bool
  | keyDuplicates | keyOrdering => true
  | _ => false

/-- The keys that a rule records, if it walks with the open collections. -/
def admits? : (r : TokenRule) → r.Options → Option Admits
  | keyDuplicates, _ => some fun earlier key => !earlier.contains key
  | keyOrdering, o => some fun earlier key =>
      !o.ignores key && !earlier.any fun seen => Text.precedes key.toList seen.toList
  | _, _ => none

/-- The rules on keys are those that record any. -/
theorem isSome_admits? (r : TokenRule) (o : r.Options) : (r.admits? o).isSome = r.tracksKeys := by
  cases r <;> rfl

/-- What a rule on keys has to say about a key that it visits. -/
def problem? : (r : TokenRule) → r.Options → KeyVisit → Option Problem
  | keyDuplicates, _, v => if v.earlier.contains v.key then some (.duplicateKey v.key) else none
  | keyOrdering, o, v =>
    if !o.ignores v.key && v.earlier.any fun seen => Text.precedes v.key.toList seen.toList then
      some (.misorderedKey v.key)
    else none
  | _, _, _ => none

/-- The two rules on keys fail alike, and differ in what they record and report. -/
theorem check_eq {r : TokenRule} {o : r.Options} {admits : Admits} (h : r.admits? o = some admits)
    (n : Nesting) (w : Window) :
    r.check o n w = (n.advance w.token).map fun m =>
      (m.recordIf admits w, ((m.visit? w).bind fun v => (r.problem? o v).map v.finding).toList) := by
  cases r with
  | keyDuplicates =>
    obtain rfl := Option.some.inj h
    refine Nesting.checkWith_eq (fun n v => ?_) n w
    by_cases hseen : v.key ∈ v.earlier <;> simp [KeyDuplicates.visit, problem?, hseen]
  | keyOrdering =>
    obtain rfl := Option.some.inj h
    refine Nesting.checkWith_eq (fun n v => ?_) n w
    simp only [KeyOrdering.visit, problem?]
    generalize KeyOrdering.Options.ignores o v.key = ignored
    generalize (v.earlier.any fun seen => Text.precedes v.key.toList seen.toList) = before
    cases ignored <;> cases before <;> rfl
  | colons | commas | documentEnd | documentStart | emptyValues | hyphens | octalValues => cases h

/-- A rule on keys fails where the open collections do. -/
theorem check_cases {r : TokenRule} {o : r.Options} {admits : Admits}
    (h : r.admits? o = some admits) (n : Nesting) (w : Window) :
    (∃ cause, n.advance w.token = .error cause ∧ r.check o n w = .error cause) ∨
      ∃ m found, n.advance w.token = .ok m ∧
        r.check o n w = .ok (m.recordIf admits w, found) := by
  rw [check_eq h]
  cases n.advance w.token with
  | error cause => exact Or.inl ⟨cause, rfl, rfl⟩
  | ok m => exact Or.inr ⟨m, _, rfl, rfl⟩

/-- The other rules neither fail nor open or close anything. -/
theorem check_of_admits?_none {r : TokenRule} {o : r.Options} (h : r.admits? o = none)
    (n : Nesting) (w : Window) : ∃ found, r.check o n w = .ok (n, found) := by
  cases r with
  | keyDuplicates | keyOrdering => cases h
  | colons | commas | documentEnd | documentStart | emptyValues | hyphens | octalValues =>
    exact ⟨_, rfl⟩

end TokenRule

namespace Linter

open Brackets

/-! ### One pass -/

section Tracking

variable {p : Pass} {admits : Admits} (h : p.1.rule.admits? p.1.options = some admits) (w : Window)
include h

/-- A pass on keys goes on with the collections that are open after the token. -/
theorem Pass.after_snd : (p.after w).2 = p.2.after admits w := by
  unfold Pass.after Nesting.after
  rcases TokenRule.check_cases h p.2 w with ⟨cause, hadvance, hcheck⟩ | ⟨m, found, hadvance, hcheck⟩
  · rw [hcheck, hadvance]
  · rw [hcheck, hadvance]

/-- A pass on keys fails where the open collections cannot be kept. -/
theorem Pass.outcome_eq_error_iff (cause : StreamError) :
    p.outcome w = .error cause ↔ p.2.advance w.token = .error cause := by
  unfold Pass.outcome
  rcases TokenRule.check_cases h p.2 w with ⟨e, hadvance, hcheck⟩ | ⟨m, found, hadvance, hcheck⟩
  · rw [hcheck, hadvance]
    simp
  · rw [hcheck, hadvance]
    simp

end Tracking

/-- A pass that walks with the open collections has those that the stream has
open before a position. -/
def Pass.AgreesAt (ts : List Token) (i : Nat) (p : Pass) : Prop :=
  ∀ admits, p.1.rule.admits? p.1.options = some admits → Agree admits ts i p.2

section

variable {ts : List Token} {i : Nat} {w : Window} {p : Pass} {cause : StreamError}

/-- A pass that goes on has what is open before the next position. -/
theorem Pass.AgreesAt.after (h : p.AgreesAt ts i) (hw : w.At ts i) :
    (p.after w).AgreesAt ts (i + 1) := by
  intro admits hadmits
  rw [Pass.after_fst] at hadmits
  rw [Pass.after_snd hadmits]
  exact (h admits hadmits).after hw

/-- A pass fails where the stream is at fault, if it walks with the open
collections. -/
theorem Pass.AgreesAt.outcome_eq_error (h : p.AgreesAt ts i) (hw : w.At ts i)
    (hp : p.1.rule.tracksKeys = true) (hfault : fault? ts i = some cause) :
    p.outcome w = .error cause := by
  rw [← TokenRule.isSome_admits? _ p.1.options, Option.isSome_iff_exists] at hp
  obtain ⟨admits, hadmits⟩ := hp
  rw [Pass.outcome_eq_error_iff hadmits]
  exact ((h admits hadmits).advance_eq_error_iff hw cause).2 hfault

/-- Elsewhere it goes on, and other passes go on everywhere. -/
theorem Pass.AgreesAt.exists_outcome (h : p.AgreesAt ts i) (hw : w.At ts i)
    (hp : p.1.rule.tracksKeys = false ∨ fault? ts i = none) :
    ∃ found, p.outcome w = .ok found := by
  cases hadmits : p.1.rule.admits? p.1.options with
  | none =>
    obtain ⟨found, hcheck⟩ := TokenRule.check_of_admits?_none hadmits p.2 w
    exact ⟨found, by rw [Pass.outcome, hcheck]⟩
  | some admits =>
    have hnone : fault? ts i = none := by
      refine hp.resolve_left fun hnot => ?_
      rw [← TokenRule.isSome_admits? _ p.1.options, hadmits] at hnot
      cases hnot
    cases houtcome : p.outcome w with
    | ok found => exact ⟨found, rfl⟩
    | error e =>
      rw [Pass.outcome_eq_error_iff hadmits, (h admits hadmits).advance_eq_error_iff hw,
        hnone] at houtcome
      cases houtcome

end

end Linter
end YamlStyle
