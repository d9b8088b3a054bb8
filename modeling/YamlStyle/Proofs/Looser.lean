/-
# Looser options find less

Options can be loosened field by field: limits raised or lifted, prohibitions
dropped, exceptions added (`Rule.Looser`).  A rule with looser options finds
nothing at a place where it found nothing before, and it fails at the same tokens
(`Rule.steps_looser`).  What is wrong at a place may change: where a comma has one
space too many for a limit, it may have too few for another once that limit is
lifted.

Most rules look at each token or line by itself, so it is enough to compare what
they find there.  The rule on the order of keys remembers keys, and with more
exceptions it remembers others: a key that is excused is no longer recorded, and
so a later key that had been reported against it may now be recorded itself.  What
carries the argument is that every key recorded by the walk with looser options is
equal to one recorded by the other walk or comes before one (`Frame.Covers`).
-/

import Mathlib.Data.List.Forall2
import YamlStyle.Pattern.Standard
import YamlStyle.Proofs.Dispatch
import YamlStyle.Proofs.Gaps

namespace YamlStyle

/-! ### Looser options -/

/-- An upper limit that is raised or lifted; a negative one is no limit. -/
def LooserMost (most most' : Int) : Prop := most' < 0 ∨ 0 ≤ most ∧ most ≤ most'

/-- A lower limit that is lowered or lifted; a negative one is no limit. -/
def LooserLeast (least least' : Int) : Prop := least' < 0 ∨ 0 ≤ least' ∧ least' ≤ least

/-- The second options of a rule are at most as strict as the first ones, field by
field. -/
inductive Rule.Looser : (r : Rule) → r.Options → r.Options → Prop where
  | colons {o o' : Colons.Options} (before : LooserMost o.maxBefore.toInt o'.maxBefore.toInt)
      (after : LooserMost o.maxAfter.toInt o'.maxAfter.toInt) : Looser (.token .colons) o o'
  | commas {o o' : Commas.Options} (before : LooserMost o.maxBefore.toInt o'.maxBefore.toInt)
      (least : LooserLeast o.minAfter.toInt o'.minAfter.toInt)
      (after : LooserMost o.maxAfter.toInt o'.maxAfter.toInt) : Looser (.token .commas) o o'
  | hyphens {o o' : Hyphens.Options} (after : LooserMost o.maxAfter.toInt o'.maxAfter.toInt) :
      Looser (.token .hyphens) o o'
  | emptyLines {o o' : EmptyLines.Options} (inner : o.max ≤ o'.max)
      (start : o.maxStart ≤ o'.maxStart) (stop : o.maxEnd ≤ o'.maxEnd) :
      Looser (.line .emptyLines) o o'
  | lineLength {o o' : LineLength.Options} (most : o.max ≤ o'.max)
      (words : o.allowLongWords → o'.allowLongWords) : Looser (.line .lineLength) o o'
  | emptyValues {o o' : EmptyValues.Options} (block : o'.blockMappings → o.blockMappings)
      (flow : o'.flowMappings → o.flowMappings)
      (entries : o'.blockSequences → o.blockSequences) : Looser (.token .emptyValues) o o'
  | octalValues {o o' : OctalValues.Options} (implicit : o'.forbidImplicit → o.forbidImplicit)
      (explicit : o'.forbidExplicit → o.forbidExplicit) : Looser (.token .octalValues) o o'
  | keyOrdering {o o' : KeyOrdering.Options} (ignored : o.ignored ⊆ o'.ignored) :
      Looser (.token .keyOrdering) o o'

/-- The place of a finding.  A line that is too long is reported at the limit, so
only its line is a place. -/
def Rule.placeOf : Rule → Finding → Nat × Option Nat
  | .line .lineLength, f => (f.line, none)
  | _, f => (f.line, some f.column)

/-- The second findings are at places of the first ones, in the same order. -/
def Rule.Fewer (r : Rule) (found found' : List Finding) : Prop :=
  (found'.map r.placeOf).Sublist (found.map r.placeOf)

/-- Two steps go together: both fail for the same cause, or both give results that
are related. -/
inductive InStep {α : Type} (R : α → α → Prop) : Except StreamError α → Except StreamError α → Prop
  | ok {a b : α} (h : R a b) : InStep R (.ok a) (.ok b)
  | error (cause : StreamError) : InStep R (.error cause) (.error cause)

/-- Nothing is fewer than anything. -/
theorem Rule.Fewer.nil (r : Rule) (found : List Finding) : r.Fewer found [] :=
  List.nil_sublist _

/-- Fewer findings in both parts are fewer together. -/
theorem Rule.Fewer.append {r : Rule} {a a' b b' : List Finding} (ha : r.Fewer a a')
    (hb : r.Fewer b b') : r.Fewer (a ++ b) (a' ++ b') := by
  unfold Fewer
  rw [List.map_append, List.map_append]
  exact List.Sublist.append ha hb

/-- A finding at the same place. -/
theorem Rule.Fewer.single {r : Rule} {f f' : Finding} (h : r.placeOf f' = r.placeOf f) :
    r.Fewer [f] [f'] := by
  rw [Fewer, List.map_singleton, List.map_singleton, h]

/-! ### Spaces -/

/-- Limits that are looser on both sides. -/
structure SpaceLimits.Looser (l l' : SpaceLimits) : Prop where
  least : LooserLeast l.least l'.least
  most : LooserMost l.most l'.most

/-- Looser upper limits are looser limits. -/
theorem SpaceLimits.Looser.atMost {most most' : Int64} (h : LooserMost most.toInt most'.toInt) :
    Looser (SpaceLimits.atMost most) (SpaceLimits.atMost most') :=
  ⟨Or.inl (by simp [SpaceLimits.atMost]), h⟩

/-- What looser limits refuse, the stricter ones refuse too, on one side or the
other. -/
theorem SpaceLimits.Looser.exists_excess? {l l' : SpaceLimits} (h : l.Looser l') {spaces : Nat}
    {excess' : Excess} (hexcess : l'.excess? spaces = some excess') :
    ∃ excess, l.excess? spaces = some excess := by
  have hrefused : 0 ≤ l'.most ∧ l'.most < counted spaces ∨
      0 ≤ l'.least ∧ counted spaces < l'.least := by
    unfold excess? at hexcess
    split_ifs at hexcess with hmost hleast
    · exact Or.inl hmost
    · exact Or.inr hleast
  obtain ⟨hleast, hmost⟩ := h
  unfold LooserLeast at hleast
  unfold LooserMost at hmost
  unfold excess?
  split_ifs with h₁ h₂
  · exact ⟨_, rfl⟩
  · exact ⟨_, rfl⟩
  · omega

/-- A gap is reported at a place that the limits do not change. -/
theorem SpaceLimits.Looser.fewer {l l' : SpaceLimits} (h : l.Looser l') (r : TokenRule)
    (gap? : Option Gap) (side : Side) (delimiter : Delimiter) :
    (Rule.token r).Fewer (gap?.bind (·.finding? l side delimiter)).toList
      (gap?.bind (·.finding? l' side delimiter)).toList := by
  cases gap? with
  | none => exact .nil _ _
  | some gap =>
    cases hexcess' : l'.excess? gap.spaces with
    | none =>
      rw [Option.bind_some, Option.bind_some, Gap.finding?, Gap.finding?, hexcess']
      exact .nil _ _
    | some excess' =>
      obtain ⟨excess, hexcess⟩ := h.exists_excess? hexcess'
      rw [Option.bind_some, Option.bind_some, Gap.finding?, Gap.finding?, hexcess, hexcess']
      exact .single rfl

/-- Looser limits around colons find less. -/
theorem Colons.check_looser {o o' : Options}
    (before : LooserMost o.maxBefore.toInt o'.maxBefore.toInt)
    (after : LooserMost o.maxAfter.toInt o'.maxAfter.toInt) (w : Window) :
    (Rule.token .colons).Fewer (check o w) (check o' w) := by
  unfold check
  simp only [Window.spacesBefore_eq, Window.spacesAfter_eq]
  split
  · split
    · exact .nil _ _
    · exact .append ((SpaceLimits.Looser.atMost before).fewer _ _ _ _)
        ((SpaceLimits.Looser.atMost after).fewer _ _ _ _)
  · split
    · exact (SpaceLimits.Looser.atMost after).fewer _ _ _ _
    · exact .nil _ _
  · exact .nil _ _

/-- A looser limit before commas finds less. -/
theorem Commas.checkBefore_looser {o o' : Options}
    (before : LooserMost o.maxBefore.toInt o'.maxBefore.toInt) (w : Window) :
    (Rule.token .commas).Fewer (checkBefore o w).toList (checkBefore o' w).toList := by
  unfold checkBefore
  rw [Window.spacesBefore_eq, Window.spacesBefore_eq]
  split
  · -- a comma that begins a line is reported under every limit
    by_cases hlimit' : 0 ≤ o'.maxBefore.toInt
    · have hlimit : 0 ≤ o.maxBefore.toInt := by
        rcases before with hlifted | ⟨hlimit, -⟩
        · omega
        · exact hlimit
      rw [if_pos hlimit, if_pos hlimit']
      exact .single rfl
    · rw [if_neg hlimit']
      exact .nil _ _
  · exact (SpaceLimits.Looser.atMost before).fewer _ _ _ _

/-- Looser limits around commas find less. -/
theorem Commas.check_looser {o o' : Options}
    (before : LooserMost o.maxBefore.toInt o'.maxBefore.toInt)
    (least : LooserLeast o.minAfter.toInt o'.minAfter.toInt)
    (after : LooserMost o.maxAfter.toInt o'.maxAfter.toInt) (w : Window) :
    (Rule.token .commas).Fewer (check o w) (check o' w) := by
  unfold check
  rw [Window.spacesAfter_eq, Window.spacesAfter_eq]
  split
  · exact .append (checkBefore_looser before w) (SpaceLimits.Looser.fewer ⟨least, after⟩ _ _ _ _)
  · exact .nil _ _

/-- A looser limit after hyphens finds less. -/
theorem Hyphens.check_looser {o o' : Options}
    (after : LooserMost o.maxAfter.toInt o'.maxAfter.toInt) (w : Window) :
    (Rule.token .hyphens).Fewer (check o w) (check o' w) := by
  unfold check
  rw [Window.spacesAfter_eq, Window.spacesAfter_eq]
  split
  · exact (SpaceLimits.Looser.atMost after).fewer _ _ _ _
  · exact .nil _ _

/-! ### Values -/

/-- Empty values are found in fewer collections. -/
theorem EmptyValues.check_looser {o o' : Options} (block : o'.blockMappings → o.blockMappings)
    (flow : o'.flowMappings → o.flowMappings) (entries : o'.blockSequences → o.blockSequences)
    (w : Window) : (Rule.token .emptyValues).Fewer (check o w) (check o' w) := by
  have hforbids : ∀ place, o'.forbids place → o.forbids place := by
    intro place
    cases place with
    | blockMapping => exact block
    | flowMapping => exact flow
    | blockSequence => exact entries
  unfold check
  split
  · rename_i place _
    cases hforbids' : o'.forbids place with
    | false => exact .nil _ _
    | true =>
      rw [hforbids place hforbids']
      exact .single rfl
  · exact .nil _ _

/-- A text that is refused under looser options is refused under stricter ones,
perhaps as an octal number of the other form. -/
theorem OctalValues.exists_form? {o o' : Options} (implicit : o'.forbidImplicit → o.forbidImplicit)
    (explicit : o'.forbidExplicit → o.forbidExplicit) {text : List Char} {form' : OctalForm}
    (h : form? o' text = some form') : ∃ form, form? o text = some form := by
  unfold form? at h ⊢
  split at h
  · rename_i himplicit
    rw [Bool.and_eq_true] at himplicit
    exact ⟨.implicit, if_pos (by rw [implicit himplicit.1, himplicit.2]; rfl)⟩
  · split at h
    · rename_i hexplicit
      rw [Bool.and_eq_true] at hexplicit
      rw [explicit hexplicit.1, hexplicit.2]
      split
      · exact ⟨.implicit, rfl⟩
      · exact ⟨.explicit, rfl⟩
    · cases h

/-- Fewer kinds of octal values are found. -/
theorem OctalValues.check_looser {o o' : Options}
    (implicit : o'.forbidImplicit → o.forbidImplicit)
    (explicit : o'.forbidExplicit → o.forbidExplicit) (w : Window) :
    (Rule.token .octalValues).Fewer (check o w) (check o' w) := by
  unfold check
  split
  · exact .nil _ _
  · rename_i text _ _
    cases hform' : form? o' text.toList with
    | none => exact .nil _ _
    | some form' =>
      obtain ⟨form, hform⟩ := exists_form? implicit explicit hform'
      rw [hform]
      exact .single rfl
  · exact .nil _ _

/-! ### Lines -/

/-- The blank lines up to a line are the same under all options, and looser ones
allow more of them. -/
theorem EmptyLines.countUpTo_looser {o o' : Options} (inner : o.max ≤ o'.max)
    (start : o.maxStart ≤ o'.maxStart) (l : Line) :
    (countUpTo o' l).1 = (countUpTo o l).1 ∧
      (countUpTo o l).2.toNat ≤ (countUpTo o' l).2.toNat := by
  rw [UInt64.le_iff_toNat_le] at inner start
  unfold countUpTo
  split
  · exact ⟨rfl, start⟩
  · exact ⟨rfl, inner⟩

/-- Higher limits find fewer runs of blank lines. -/
theorem EmptyLines.check_looser {o o' : Options} (inner : o.max ≤ o'.max)
    (start : o.maxStart ≤ o'.maxStart) (stop : o.maxEnd ≤ o'.maxEnd) (l : Line) :
    (Rule.line .emptyLines).Fewer (check o l) (check o' l) := by
  obtain ⟨hcount, hinner⟩ := countUpTo_looser inner start l
  rw [UInt64.le_iff_toNat_le] at stop
  unfold check
  simp only [hcount]
  split
  · exact .nil _ _
  · split
    · exact .nil _ _
    · have hlimit : (if endsText l then o.maxEnd else (countUpTo o l).2).toNat ≤
          (if endsText l then o'.maxEnd else (countUpTo o' l).2).toNat := by
        split
        · exact stop
        · exact hinner
      by_cases hmany' : (if endsText l then o'.maxEnd else (countUpTo o' l).2).toNat <
          (countUpTo o l).1
      · rw [if_pos hmany', if_pos (by omega)]
        exact .single rfl
      · rw [if_neg hmany']
        exact .nil _ _

/-- A higher limit, or one more excuse, finds fewer lines. -/
theorem LineLength.check_looser {o o' : Options} (most : o.max ≤ o'.max)
    (words : o.allowLongWords → o'.allowLongWords) (l : Line) :
    (Rule.line .lineLength).Fewer (check o l) (check o' l) := by
  rw [UInt64.le_iff_toNat_le] at most
  have hexcused : (l.charLength ≤ o.max.toNat || (o.allowLongWords && isSingleWord l.content)) →
      (l.charLength ≤ o'.max.toNat || (o'.allowLongWords && isSingleWord l.content)) := by
    simp only [Bool.or_eq_true, Bool.and_eq_true, decide_eq_true_eq]
    rintro (hlength | ⟨hwords, hsingle⟩)
    · exact Or.inl (by omega)
    · exact Or.inr ⟨words hwords, hsingle⟩
  unfold check
  split
  · rename_i hexcused₁
    rw [if_pos (hexcused hexcused₁)]
    exact .nil _ _
  · split
    · exact .nil _ _
    · exact .single rfl

/-! ### Walks -/

/-- Two steps that lead to related collections, the second with fewer findings. -/
def TokenRule.StepFewer (r : TokenRule) (R : Nesting → Nesting → Prop)
    (x x' : Nesting × List Finding) : Prop :=
  R x.1 x'.1 ∧ (Rule.token r).Fewer x.2 x'.2

/-- Two walks that step together from related collections go together. -/
theorem TokenRule.walk_inStep {r : TokenRule} {o o' : r.Options} {R : Nesting → Nesting → Prop}
    (hstep : ∀ n n' w, R n n' → InStep (r.StepFewer R) (r.check o n w) (r.check o' n' w))
    {n n' : Nesting} (h : R n n') (ws : List Window) :
    List.Forall₂ (InStep (Rule.token r).Fewer) (r.walk o n ws) (r.walk o' n' ws) := by
  induction ws generalizing n n' with
  | nil => exact .nil
  | cons w ws ih =>
    have hboth := hstep n n' w h
    unfold walk
    generalize r.check o n w = step at hboth ⊢
    generalize r.check o' n' w = step' at hboth ⊢
    cases hboth with
    | ok hboth => exact .cons (.ok hboth.2) (ih hboth.1)
    | error cause => exact .cons (.error cause) (ih h)

/-- A rule that looks at each window by itself needs no relation between the open
collections. -/
theorem TokenRule.walk_inStep_of_windows {r : TokenRule} {o o' : r.Options}
    {found found' : Window → List Finding} (hcheck : ∀ n w, r.check o n w = .ok (n, found w))
    (hcheck' : ∀ n w, r.check o' n w = .ok (n, found' w))
    (h : ∀ w, (Rule.token r).Fewer (found w) (found' w)) (ws : List Window) :
    List.Forall₂ (InStep (Rule.token r).Fewer) (r.walk o .empty ws) (r.walk o' .empty ws) := by
  refine walk_inStep (R := fun _ _ => True) (fun n n' w _ => ?_) trivial ws
  rw [hcheck, hcheck']
  exact .ok ⟨trivial, h w⟩

/-! ### The order of keys -/

/-- A key of a frame is at or after the given one. -/
def Frame.Reaches (f : Frame) (key : String) : Prop :=
  ∃ later ∈ f.keys, key = later ∨ Text.precedes key.toList later.toList

/-- Two frames of one kind, where the first reaches every key of the second. -/
structure Frame.Covers (f f' : Frame) : Prop where
  kind : f.kind = f'.kind
  reaches : ∀ key ∈ f'.keys, f.Reaches key

namespace Frame

/-- A key that is reached stays so. -/
theorem Reaches.record {f : Frame} {key : String} (h : f.Reaches key) (other : String) :
    Reaches { f with keys := f.keys ++ [other] } key := by
  obtain ⟨later, hlater, hkey⟩ := h
  exact ⟨later, List.mem_append_left _ hlater, hkey⟩

/-- A key that is recorded is reached. -/
theorem reaches_record (f : Frame) (key : String) :
    Reaches { f with keys := f.keys ++ [key] } key :=
  ⟨key, by simp, Or.inl rfl⟩

variable {f f' : Frame}

/-- Frames without keys cover each other. -/
theorem Covers.nil (kind : CollectionKind) : Covers ⟨kind, []⟩ ⟨kind, []⟩ :=
  ⟨rfl, fun _ h => by cases h⟩

/-- Recording a key in the frame that covers keeps it covering. -/
theorem Covers.record_left (h : f.Covers f') (key : String) :
    Covers { f with keys := f.keys ++ [key] } f' :=
  ⟨h.kind, fun key' hkey' => (h.reaches key' hkey').record key⟩

/-- A key that is reached can be recorded in the frame that is covered. -/
theorem Covers.record_right (h : f.Covers f') {key : String} (hkey : f.Reaches key) :
    Covers f { f' with keys := f'.keys ++ [key] } := by
  refine ⟨h.kind, fun key' hkey' => ?_⟩
  rcases List.mem_append.1 hkey' with hold | hnew
  · exact h.reaches key' hold
  · rw [List.mem_singleton.1 hnew]
    exact hkey

/-- A key that comes before one of the second frame comes before one of the first. -/
theorem Covers.exists_precedes (h : f.Covers f') {key : String}
    (hbefore : ∃ seen ∈ f'.keys, Text.precedes key.toList seen.toList) :
    ∃ seen ∈ f.keys, Text.precedes key.toList seen.toList := by
  obtain ⟨seen, hseen, hbefore⟩ := hbefore
  obtain ⟨later, hlater, rfl | hafter⟩ := h.reaches seen hseen
  · exact ⟨seen, hlater, hbefore⟩
  · exact ⟨later, hlater, Text.precedes_trans hbefore hafter⟩

end Frame

/-- The same collections are open in both, and the first cover the second. -/
def Nesting.Covers (n n' : Nesting) : Prop := List.Forall₂ Frame.Covers n.frames n'.frames

/-- Opening and closing collections fails in both or in neither. -/
theorem Nesting.Covers.advance {n n' : Nesting} (h : n.Covers n') (t : Token) :
    InStep Covers (n.advance t) (n'.advance t) := by
  have hdepth : n.depth = n'.depth := h.length_eq
  obtain ⟨frames⟩ := n
  obtain ⟨frames'⟩ := n'
  unfold Nesting.advance
  cases t.kind.opens? with
  | some kind => exact .ok (.cons (.nil kind) h)
  | none =>
    cases t.kind.endsCollection with
    | true =>
      cases h with
      | nil => exact .error _
      | cons _ houter => exact .ok houter
    | false =>
      cases h with
      | nil => simpa using InStep.ok .nil
      | cons hframe houter =>
        by_cases hend : t.kind = .streamEnd
        · simp only [hend, hdepth]
          exact .error _
        · simp only [hend]
          exact .ok (.cons hframe houter)

namespace KeyOrdering

variable {o o' : Options} (ignored : o.ignored ⊆ o'.ignored)
include ignored

/-- With more patterns more keys are ignored. -/
theorem ignores_looser {key : String} (h : o.ignores key = true) : o'.ignores key = true := by
  obtain ⟨pattern, hpattern, hpicks⟩ := List.any_eq_true.1 h
  exact List.any_eq_true.2 ⟨pattern, ignored hpattern, hpicks⟩

/-- At a key, what the looser options record is covered by what the stricter ones
record, and what they report is reported. -/
theorem visit_looser {f f' : Frame} (hframe : f.Covers f') {outer outer' : List Frame}
    (houter : List.Forall₂ Frame.Covers outer outer') (key : String) (scalar : Token) :
    TokenRule.keyOrdering.StepFewer Nesting.Covers
      (visit o ⟨f :: outer⟩ ⟨key, scalar, f.keys⟩)
      (visit o' ⟨f' :: outer'⟩ ⟨key, scalar, f'.keys⟩) := by
  have hany : ∀ g : Frame, g.keys.any (fun seen => Text.precedes key.toList seen.toList) = true ↔
      ∃ seen ∈ g.keys, Text.precedes key.toList seen.toList := fun g => List.any_eq_true
  unfold visit Nesting.record
  cases hignored' : o'.ignores key with
  | true =>
    -- the looser walk passes over the key, whatever the other does with it
    refine ⟨?_, .nil _ _⟩
    simp only [if_true]
    split_ifs
    · exact .cons hframe houter
    · exact .cons hframe houter
    · exact .cons (hframe.record_left key) houter
  | false =>
    have hignored : o.ignores key = false := by
      rw [← Bool.not_eq_true] at hignored' ⊢
      exact fun h => hignored' (ignores_looser ignored h)
    simp only [hignored, Bool.false_eq_true, if_false, hany]
    by_cases hbefore' : ∃ seen ∈ f'.keys, Text.precedes key.toList seen.toList
    · rw [if_pos hbefore', if_pos (hframe.exists_precedes hbefore')]
      exact ⟨.cons hframe houter, .single rfl⟩
    · rw [if_neg hbefore']
      refine ⟨?_, .nil _ _⟩
      split_ifs with hbefore
      · -- reported by the stricter walk, so one of its keys comes after
        obtain ⟨seen, hseen, hbefore⟩ := hbefore
        exact .cons (hframe.record_right ⟨seen, hseen, Or.inr hbefore⟩) houter
      · exact .cons ((hframe.record_left key).record_right (f.reaches_record key)) houter

/-- Looser options on the order of keys find less at every token, and cover what is
open. -/
theorem check_looser {n n' : Nesting} (h : n.Covers n') (w : Window) :
    InStep (TokenRule.keyOrdering.StepFewer Nesting.Covers) (check o n w) (check o' n' w) := by
  have hadvance := h.advance w.token
  unfold check
  generalize n.advance w.token = step at hadvance ⊢
  generalize n'.advance w.token = step' at hadvance ⊢
  cases hadvance with
  | error cause => exact .error cause
  | @ok m m' hcovers =>
    obtain ⟨frames⟩ := m
    obtain ⟨frames'⟩ := m'
    simp only [bind, Except.bind, pure, Except.pure, Nesting.visit?]
    cases hcovers with
    | nil => exact .ok ⟨.nil, .nil _ _⟩
    | @cons f f' outer outer' hframe houter =>
      obtain ⟨kind, keys⟩ := f
      obtain ⟨kind', keys'⟩ := f'
      obtain rfl : kind = kind' := hframe.kind
      cases kind with
      | sequence => exact .ok ⟨.cons hframe houter, .nil _ _⟩
      | mapping =>
        cases w.key? with
        | none => exact .ok ⟨.cons hframe houter, .nil _ _⟩
        | some found =>
          obtain ⟨key, scalar⟩ := found
          exact .ok (visit_looser ignored hframe houter key scalar)

end KeyOrdering

/-! ### All rules -/

/-- A rule that looks at each line by itself. -/
theorem LineRule.steps_inStep {r : LineRule} {o o' : r.Options}
    (h : ∀ l, (Rule.line r).Fewer (r.check o l) (r.check o' l)) (d : Document) :
    List.Forall₂ (InStep (Rule.line r).Fewer) ((Rule.line r).steps o d)
      ((Rule.line r).steps o' d) := by
  unfold Rule.steps
  rw [List.forall₂_map_left_iff, List.forall₂_map_right_iff, List.forall₂_same]
  exact fun line _ => .ok (h line)

/-- **Looser options find less.**  For every document, the two runs of a rule with
options and with looser ones go together step by step: at every token or line
both fail, for the same cause, or the places reported under the looser options
are a sublist of those reported under the others.  The patterns of ignored keys can
be of any engine: nothing is asked of what they find. -/
theorem Rule.steps_looser {r : Rule} {o o' : r.Options} (h : r.Looser o o') (d : Document) :
    List.Forall₂ (InStep r.Fewer) (r.steps o d) (r.steps o' d) := by
  cases h with
  | colons before after =>
    exact TokenRule.walk_inStep_of_windows (fun _ _ => rfl) (fun _ _ => rfl)
      (Colons.check_looser before after) d.windows
  | commas before least after =>
    exact TokenRule.walk_inStep_of_windows (fun _ _ => rfl) (fun _ _ => rfl)
      (Commas.check_looser before least after) d.windows
  | hyphens after =>
    exact TokenRule.walk_inStep_of_windows (fun _ _ => rfl) (fun _ _ => rfl)
      (Hyphens.check_looser after) d.windows
  | emptyLines inner start stop =>
    exact LineRule.steps_inStep (EmptyLines.check_looser inner start stop) d
  | lineLength most words => exact LineRule.steps_inStep (LineLength.check_looser most words) d
  | emptyValues block flow entries =>
    exact TokenRule.walk_inStep_of_windows (fun _ _ => rfl) (fun _ _ => rfl)
      (EmptyValues.check_looser block flow entries) d.windows
  | octalValues implicit explicit =>
    exact TokenRule.walk_inStep_of_windows (fun _ _ => rfl) (fun _ _ => rfl)
      (OctalValues.check_looser implicit explicit) d.windows
  | keyOrdering ignored =>
    exact TokenRule.walk_inStep (r := .keyOrdering)
      (fun n n' w hcovers => KeyOrdering.check_looser ignored hcovers w)
      (R := Nesting.Covers) .nil d.windows

open Pattern.Standard in
/-- Under both options the last key is reported, but against different keys: once
`c` is excused, `a` and `b` are recorded. -/
theorem Rule.steps_looser_keys :
    let r : Rule := .token .keyOrdering
    let o : r.Options := KeyOrdering.Options.mk []
    let o' : r.Options := KeyOrdering.Options.mk (Pattern.Engine.compile "c").toOption.toList
    let d : Document := ⟨"c:\na:\nb:\na:".toList,
      [⟨.blockMappingStart, ⟨0, 0, 0⟩, ⟨0, 0, 0⟩⟩,
        ⟨.key, ⟨0, 0, 0⟩, ⟨0, 0, 0⟩⟩, ⟨.scalar "c" .plain, ⟨0, 0, 0⟩, ⟨0, 1, 1⟩⟩,
        ⟨.key, ⟨1, 0, 3⟩, ⟨1, 0, 3⟩⟩, ⟨.scalar "a" .plain, ⟨1, 0, 3⟩, ⟨1, 1, 4⟩⟩,
        ⟨.key, ⟨2, 0, 6⟩, ⟨2, 0, 6⟩⟩, ⟨.scalar "b" .plain, ⟨2, 0, 6⟩, ⟨2, 1, 7⟩⟩,
        ⟨.key, ⟨3, 0, 9⟩, ⟨3, 0, 9⟩⟩, ⟨.scalar "a" .plain, ⟨3, 0, 9⟩, ⟨3, 1, 10⟩⟩]⟩
    r.Looser o o' ∧
      ((r.steps o d).flatMap findingsOf).map r.placeOf = [(2, some 1), (3, some 1), (4, some 1)] ∧
      ((r.steps o' d).flatMap findingsOf).map r.placeOf = [(4, some 1)] ∧
      List.Forall₂ (InStep r.Fewer) (r.steps o d) (r.steps o' d) := by
  intro r o o' d
  have h : r.Looser o o' := .keyOrdering (List.nil_subset _)
  exact ⟨h, by decide +kernel, by decide +kernel, Rule.steps_looser h d⟩

end YamlStyle
