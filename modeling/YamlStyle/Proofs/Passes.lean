/-
# Passes side by side

A linter walks all its rules on tokens over the stream in one sweep.  A pass is
a rule with the open collections of its own walk.  At one window every pass
takes a step in turn, and the first one that fails ends the sweep
(`stepAll_eq_ok`, `stepAll_eq_error`).  A pass carries its own open collections
only, so its walk does not depend on the other passes: if none of them fails by
itself, the sweep runs through (`runTokens_eq_ok`), and what it reports under
the rank of a pass is what that pass reports by itself, in the same order
(`filter_rank_emitted`).
-/

import YamlStyle.Linter

namespace YamlStyle

/-- What a step of a walk found; a step that failed found nothing. -/
def findingsOf : Except StreamError (List Finding) → List Finding
  | .ok found => found
  | .error _ => []

namespace Linter

/-! ### One pass -/

/-- What a pass gives at a window. -/
def Pass.outcome (p : Pass) (w : Window) : Except StreamError (List Finding) :=
  match p.1.rule.check p.1.options p.2 w with
  | .ok (_, found) => .ok found
  | .error cause => .error cause

/-- The pass after a window. -/
def Pass.after (p : Pass) (w : Window) : Pass :=
  match p.1.rule.check p.1.options p.2 w with
  | .ok (next, _) => (p.1, next)
  | .error _ => p

/-- The walk of a pass by itself. -/
def Pass.walk (p : Pass) (ws : List Window) : List (Except StreamError (List Finding)) :=
  p.1.rule.walk p.1.options p.2 ws

/-- A walk takes one step for each window. -/
theorem Pass.walk_cons (p : Pass) (w : Window) (ws : List Window) :
    p.walk (w :: ws) = p.outcome w :: (p.after w).walk ws := by
  obtain ⟨a, n⟩ := p
  cases h : a.rule.check a.options n w with
  | error cause =>
    have hafter : after (a, n) w = (a, n) := by simp [after, h]
    rw [hafter]
    simp [walk, outcome, TokenRule.walk, h]
  | ok x =>
    have hafter : after (a, n) w = (a, x.1) := by simp [after, h]
    rw [hafter]
    simp [walk, outcome, TokenRule.walk, h]

/-- A pass keeps its rule, with its rank, severity and options. -/
@[simp] theorem Pass.after_fst (p : Pass) (w : Window) : (p.after w).1 = p.1 := by
  unfold after
  split <;> rfl

/-- What a pass reports about a window. -/
def Pass.reportAt (w : Window) (p : Pass) : List Ranked := p.1.report (findingsOf (p.outcome w))

/-- What a pass reports on its walk. -/
def Pass.reportAll (ws : List Window) (p : Pass) : List Ranked :=
  p.1.report ((p.walk ws).flatMap findingsOf)

/-- A pass reports window by window. -/
theorem Pass.reportAll_cons (w : Window) (ws : List Window) (p : Pass) :
    p.reportAll (w :: ws) = p.reportAt w ++ (p.after w).reportAll ws := by
  simp [reportAll, reportAt, walk_cons, ActiveTokenRule.report]

/-! ### All passes at one window -/

/-- The pass in front gives its report first. -/
theorem stepAll_cons_ok {w : Window} {p : Pass} {found : List Finding}
    (h : p.outcome w = .ok found) (rest : List Pass) :
    stepAll w (p :: rest) =
      (stepAll w rest).map fun x => (p.after w :: x.1, p.reportAt w ++ x.2) := by
  obtain ⟨a, n⟩ := p
  unfold Pass.outcome at h
  cases hcheck : a.rule.check a.options n w with
  | error cause => simp [hcheck] at h
  | ok x =>
    obtain ⟨next, found⟩ := x
    cases hrest : stepAll w rest <;>
      simp [stepAll, hcheck, hrest, Pass.after, Pass.reportAt, Pass.outcome, findingsOf, bind,
        Except.bind, pure, Except.pure, Except.map]

/-- If no pass fails at a window, all of them go on, and their reports stand in
the order of the passes. -/
theorem stepAll_eq_ok {w : Window} {passes : List Pass}
    (h : ∀ p ∈ passes, ∃ found, p.outcome w = .ok found) :
    stepAll w passes = .ok (passes.map (·.after w), passes.flatMap (·.reportAt w)) := by
  induction passes with
  | nil => rfl
  | cons p rest ih =>
    obtain ⟨found, hp⟩ := h p (List.mem_cons_self ..)
    rw [stepAll_cons_ok hp, ih fun q hq => h q (List.mem_cons_of_mem _ hq)]
    rfl

/-- The first pass that fails at a window decides the error. -/
theorem stepAll_eq_error {w : Window} {front : List Pass} {p : Pass} {cause : StreamError}
    (h : ∀ q ∈ front, ∃ found, q.outcome w = .ok found) (hp : p.outcome w = .error cause)
    (back : List Pass) :
    stepAll w (front ++ p :: back) = .error (.malformedStream p.1.rule cause) := by
  induction front with
  | nil =>
    obtain ⟨a, n⟩ := p
    unfold Pass.outcome at hp
    cases hcheck : a.rule.check a.options n w with
    | error e =>
      simp only [hcheck, Except.error.injEq] at hp
      simp [stepAll, hcheck, hp]
    | ok x => simp [hcheck] at hp
  | cons q front ih =>
    obtain ⟨found, hq⟩ := h q (List.mem_cons_self ..)
    rw [List.cons_append, stepAll_cons_ok hq, ih fun r hr => h r (List.mem_cons_of_mem _ hr)]
    rfl

/-! ### All passes over the stream -/

/-- What passes report window by window, if none of them fails. -/
def emitted (passes : List Pass) : List Window → List Ranked
  | [] => []
  | w :: ws => passes.flatMap (·.reportAt w) ++ emitted (passes.map (·.after w)) ws

/-- If no pass fails on its own walk, all of them run through side by side. -/
theorem runTokens_eq_ok {passes : List Pass} {ws : List Window}
    (h : ∀ p ∈ passes, ∀ step ∈ p.walk ws, ∃ found, step = .ok found) :
    runTokens passes ws = .ok (emitted passes ws) := by
  induction ws generalizing passes with
  | nil => rfl
  | cons w ws ih =>
    have hfirst : ∀ p ∈ passes, ∃ found, p.outcome w = .ok found := fun p hp =>
      h p hp (p.outcome w) (by rw [Pass.walk_cons]; exact List.mem_cons_self ..)
    have hrest : ∀ p ∈ passes.map (·.after w), ∀ step ∈ p.walk ws, ∃ found, step = .ok found := by
      intro p hp step hstep
      obtain ⟨q, hq, rfl⟩ := List.mem_map.1 hp
      exact h q hq step (by rw [Pass.walk_cons]; exact List.mem_cons_of_mem _ hstep)
    simp [runTokens, stepAll_eq_ok hfirst, ih hrest, emitted, bind, Except.bind, pure, Except.pure]

/-- Of reports under their own ranks, one rank keeps those of the sources with
that rank. -/
theorem filter_rank_flatMap {σ : Type} (rank : σ → Nat) (emit : σ → List Ranked)
    (h : ∀ s, ∀ x ∈ emit s, x.rank = rank s) (sources : List σ) (k : Nat) :
    (sources.flatMap emit).filter (·.rank == k) =
      (sources.filter (rank · == k)).flatMap emit := by
  induction sources with
  | nil => rfl
  | cons s rest ih =>
    rw [List.flatMap_cons, List.filter_append, ih]
    by_cases hs : rank s = k
    · rw [List.filter_eq_self.2 fun x hx => by simp [h s x hx, hs],
        List.filter_cons_of_pos (by simp [hs]), List.flatMap_cons]
    · rw [List.filter_eq_nil_iff.2 fun x hx => by simp [h s x hx, hs],
        List.filter_cons_of_neg (by simp [hs]), List.nil_append]

/-- Where ranks ascend strictly, at most one source has a given rank. -/
theorem length_filter_rank_le_one {σ : Type} (rank : σ → Nat) {sources : List σ}
    (h : sources.Pairwise fun s t => rank s < rank t) (k : Nat) :
    (sources.filter (rank · == k)).length ≤ 1 := by
  have hpair := h.filter (rank · == k)
  cases hf : sources.filter (rank · == k) with
  | nil => simp
  | cons s rest =>
    cases rest with
    | nil => simp
    | cons t rest =>
      have hmem : ∀ x ∈ sources.filter (rank · == k), rank x = k := fun x hx => by
        simpa using (List.mem_filter.1 hx).2
      rw [hf] at hpair hmem
      have hlt := List.rel_of_pairwise_cons hpair (List.mem_cons_self ..)
      have hs := hmem s (by simp)
      have ht := hmem t (by simp)
      omega

/-- What at most one source gives twice, it gives in a row. -/
theorem flatMap_append_of_length_le_one {σ β : Type} {sources : List σ}
    (h : sources.length ≤ 1) (f f' : σ → List β) :
    sources.flatMap (fun s => f s ++ f' s) = sources.flatMap f ++ sources.flatMap f' := by
  match sources, h with
  | [], _ => rfl
  | [s], _ => simp

/-- **Side by side, each pass reports what it reports by itself.** -/
theorem filter_rank_emitted {passes : List Pass}
    (h : passes.Pairwise fun p q => p.1.rank < q.1.rank) (ws : List Window) (k : Nat) :
    (emitted passes ws).filter (·.rank == k) =
      (passes.filter (·.1.rank == k)).flatMap (·.reportAll ws) := by
  induction ws generalizing passes with
  | nil => simp [emitted, Pass.reportAll, Pass.walk, TokenRule.walk, ActiveTokenRule.report]
  | cons w ws ih =>
    have hnext : (passes.map (·.after w)).Pairwise fun p q => p.1.rank < q.1.rank :=
      List.pairwise_map.2 (by simpa using h)
    have hone := length_filter_rank_le_one (fun p : Pass => p.1.rank) h k
    have hcons : ∀ p : Pass, p.reportAll (w :: ws) = p.reportAt w ++ (p.after w).reportAll ws :=
      Pass.reportAll_cons w ws
    calc (emitted passes (w :: ws)).filter (·.rank == k)
        = (passes.flatMap (·.reportAt w)).filter (·.rank == k) ++
            (emitted (passes.map (·.after w)) ws).filter (·.rank == k) := List.filter_append ..
      _ = (passes.filter (·.1.rank == k)).flatMap (·.reportAt w) ++
            ((passes.map (·.after w)).filter (·.1.rank == k)).flatMap (·.reportAll ws) := by
          rw [ih hnext, filter_rank_flatMap (fun p : Pass => p.1.rank)]
          intro p x hx
          obtain ⟨f, -, rfl⟩ := List.mem_map.1 hx
          rfl
      _ = (passes.filter (·.1.rank == k)).flatMap (·.reportAt w) ++
            (passes.filter (·.1.rank == k)).flatMap (fun p => (p.after w).reportAll ws) := by
          rw [List.filter_map, List.flatMap_map]
          simp [Function.comp_def]
      _ = (passes.filter (·.1.rank == k)).flatMap (·.reportAll (w :: ws)) := by
          rw [← flatMap_append_of_length_le_one hone]
          simp [hcons]

end Linter
end YamlStyle
