/-
# Walks that record keys

A walk goes over the windows of a stream with the open collections in its hand.
At each token it first opens or closes a collection, which can fail, and then
records the key that the token announces, if it records such keys.  What a token
does to the open collections is said once (`Nesting.Advance`); everything else
about walks follows from it.

Which keys are recorded is a parameter (`Admits`), so that a rule that records
keys and a walk with one of the named policies are the same walk.  The open
collections after the first tokens are a fold of one step (`Nesting.after`), and
a step that fails leaves them alone (`getElem?_trackAll`).
-/

import Mathlib.Data.List.Induction
import YamlStyle.Nesting

namespace YamlStyle

/-! ### One step -/

/-- What a token does to the open collections. -/
inductive Nesting.Advance (n : Nesting) (t : Token) : Except StreamError Nesting → Prop
  | opened {kind : CollectionKind} (hopen : t.kind.opens? = some kind) :
      Advance n t (.ok ⟨⟨kind, []⟩ :: n.frames⟩)
  | unmatched (hopen : t.kind.opens? = none) (hends : t.kind.endsCollection = true)
      (hframes : n.frames = []) : Advance n t (.error (.unmatchedEnd t.kind t.start))
  | closed {frame : Frame} {outer : List Frame} (hopen : t.kind.opens? = none)
      (hends : t.kind.endsCollection = true) (hframes : n.frames = frame :: outer) :
      Advance n t (.ok ⟨outer⟩)
  | unclosed (hopen : t.kind.opens? = none) (hends : t.kind.endsCollection = false)
      (hstream : t.kind = .streamEnd) (hframes : n.frames ≠ []) :
      Advance n t (.error (.unclosedCollections n.depth t.start))
  | kept (hopen : t.kind.opens? = none) (hends : t.kind.endsCollection = false)
      (hstream : t.kind = .streamEnd → n.frames = []) : Advance n t (.ok n)

/-- A token opens a collection, ends one, or leaves them, or is at fault. -/
theorem Nesting.advance_spec (n : Nesting) (t : Token) : Advance n t (n.advance t) := by
  unfold advance
  cases hopen : t.kind.opens? with
  | some kind => exact .opened hopen
  | none =>
    cases hends : t.kind.endsCollection with
    | true =>
      cases hframes : n.frames with
      | nil => exact .unmatched hopen hends hframes
      | cons frame outer => exact .closed hopen hends hframes
    | false =>
      by_cases h : t.kind = .streamEnd ∧ n.frames ≠ []
      · simp only [h, Bool.false_eq_true, if_false, if_true, and_self, ne_eq, not_false_eq_true]
        exact .unclosed hopen hends h.1 h.2
      · simp only [h, Bool.false_eq_true, if_false]
        exact .kept hopen hends fun hs => by simpa [hs] using h

/-- Which keys a walk records: by the keys that the mapping has and the key. -/
abbrev Admits := List String → String → Bool

/-- Records a key in a frame, if it is that of a mapping and the key is admitted. -/
def Frame.recordIf (admits : Admits) (key : String) (f : Frame) : Frame :=
  match f.kind with
  | .mapping => if admits f.keys key then { f with keys := f.keys ++ [key] } else f
  | .sequence => f

namespace Nesting

/-- Records the key at a window, if it is admitted. -/
def recordIf (admits : Admits) (n : Nesting) (w : Window) : Nesting :=
  match n.visit? w with
  | none => n
  | some v => if admits v.earlier v.key then n.record v.key else n

/-- The open collections after a step of a walk, also after one that fails. -/
def after (admits : Admits) (n : Nesting) (w : Window) : Nesting :=
  match n.advance w.token with
  | .ok next => next.recordIf admits w
  | .error _ => n

/-- Without a key at the window nothing is recorded. -/
theorem recordIf_of_key?_none {admits : Admits} {w : Window} (h : w.key? = none) (n : Nesting) :
    n.recordIf admits w = n := by
  have hvisit : n.visit? w = none := by
    unfold visit?
    rw [h]
    split
    · rename_i hkey
      cases hkey
    · rfl
  rw [recordIf, hvisit]

/-- A key is recorded in the innermost frame or nowhere. -/
theorem recordIf_of_key?_some {admits : Admits} {w : Window} {key : String} {scalar : Token}
    (h : w.key? = some (key, scalar)) {n : Nesting} {frame : Frame} {outer : List Frame}
    (hframes : n.frames = frame :: outer) :
    n.recordIf admits w = ⟨frame.recordIf admits key :: outer⟩ := by
  obtain ⟨frames⟩ := n
  obtain ⟨kind, keys⟩ := frame
  obtain rfl : frames = ⟨kind, keys⟩ :: outer := hframes
  cases kind with
  | sequence => simp [recordIf, visit?, Frame.recordIf]
  | mapping =>
    by_cases hadmits : admits keys key = true
    · simp [recordIf, visit?, h, Frame.recordIf, hadmits, record]
    · simp [recordIf, visit?, h, Frame.recordIf, hadmits]

end Nesting

/-- The keys that a walk keeps of those it visits. -/
def Admits.keep (admits : Admits) (keys : List String) : List String :=
  keys.foldl (fun kept key => if admits kept key then kept ++ [key] else kept) []

/-- A walk keeps one more key if it is admitted. -/
theorem Admits.keep_concat (admits : Admits) (keys : List String) (key : String) :
    admits.keep (keys ++ [key]) =
      if admits (admits.keep keys) key then admits.keep keys ++ [key] else admits.keep keys := by
  rw [keep, List.foldl_append]
  rfl

/-! ### Policies -/

namespace Recording

/-- A policy as a test on the keys that the mapping has and the key. -/
def admits : Recording → Admits
  | always => fun _ _ => true
  | unseen => fun kept key => !kept.contains key
  | never => fun _ _ => false

/-- A policy records what it admits. -/
theorem records_eq (policy : Recording) (v : KeyVisit) :
    policy.records v = policy.admits v.earlier v.key := by
  cases policy <;> rfl

/-- The keys that a policy keeps of those that are visited: all of them, the
first of each, or none. -/
def kept : Recording → List String → List String
  | always, keys => keys
  | unseen, keys => keys.eraseDups
  | never, _ => []

/-- A policy keeps one more key if it admits it. -/
theorem kept_concat (policy : Recording) (keys : List String) (key : String) :
    policy.kept (keys ++ [key]) =
      if policy.admits (policy.kept keys) key then policy.kept keys ++ [key]
      else policy.kept keys := by
  cases policy with
  | always => rfl
  | never => rfl
  | unseen =>
    by_cases hmem : key ∈ keys
    · simp [kept, admits, List.eraseDups_append, List.removeAll, hmem]
    · simp [kept, admits, List.eraseDups_append, List.removeAll, hmem, List.eraseDups_cons]

/-- Recording key by key keeps what the policy keeps. -/
theorem keep_admits (policy : Recording) (keys : List String) :
    policy.admits.keep keys = policy.kept keys := by
  induction keys using List.reverseRecOn with
  | nil => cases policy <;> rfl
  | append_singleton keys key ih => rw [Admits.keep_concat, kept_concat, ih]

end Recording

/-! ### Whole walks -/

namespace Nesting

/-- Tracking advances, and then records the key at the window. -/
theorem track_eq (policy : Recording) (n : Nesting) (w : Window) :
    n.track policy w =
      (n.advance w.token).map fun m => (m.recordIf policy.admits w, m.visit? w) := by
  unfold track
  cases n.advance w.token with
  | error e => rfl
  | ok m =>
    cases hvisit : m.visit? w with
    | none => simp [bind, Except.bind, Except.map, recordIf, hvisit, pure, Except.pure]
    | some v =>
      simp [bind, Except.bind, Except.map, recordIf, hvisit, pure, Except.pure,
        Recording.records_eq]

/-- A walk takes a step, and goes on from the open collections after it. -/
theorem trackAll_cons (policy : Recording) (n : Nesting) (w : Window) (ws : List Window) :
    trackAll policy n (w :: ws) =
      (n.after policy.admits w, (n.advance w.token).map (·.visit? w)) ::
        trackAll policy (n.after policy.admits w) ws := by
  rw [trackAll, track_eq, after]
  cases n.advance w.token <;> rfl

/-- The open collections after the first windows of a walk. -/
def afterAll (admits : Admits) (n : Nesting) (ws : List Window) : Nesting :=
  ws.foldl (after admits) n

/-- The last window is stepped over last. -/
theorem afterAll_concat (admits : Admits) (n : Nesting) (ws : List Window) (w : Window) :
    n.afterAll admits (ws ++ [w]) = (n.afterAll admits ws).after admits w := by
  rw [afterAll, List.foldl_append]
  rfl

/-- **Every step of a walk starts from the open collections after the windows
before it**, whether or not steps before it failed. -/
theorem getElem?_trackAll (policy : Recording) (n : Nesting) (ws : List Window) (i : Nat) :
    (trackAll policy n ws)[i]? = ws[i]?.map fun w =>
      (n.afterAll policy.admits (ws.take i ++ [w]),
        ((n.afterAll policy.admits (ws.take i)).advance w.token).map (·.visit? w)) := by
  induction ws generalizing n i with
  | nil => rfl
  | cons w ws ih =>
    rw [trackAll_cons]
    cases i with
    | zero => rfl
    | succ i => rw [List.getElem?_cons_succ, List.getElem?_cons_succ, ih]; rfl

/-- Tracking takes one step for each window. -/
theorem length_trackAll (policy : Recording) (n : Nesting) (ws : List Window) :
    (trackAll policy n ws).length = ws.length := by
  induction ws generalizing n with
  | nil => rfl
  | cons w ws ih => rw [trackAll_cons, List.length_cons, List.length_cons, ih]

/-- The open collections before a walk and after each of its steps. -/
def states (policy : Recording) (n : Nesting) (ws : List Window) : List Nesting :=
  n :: (trackAll policy n ws).map (·.1)

/-- The state at a position is the one after the windows before it. -/
theorem getElem?_states (policy : Recording) (n : Nesting) (ws : List Window) {i : Nat}
    (h : i ≤ ws.length) :
    (states policy n ws)[i]? = some (n.afterAll policy.admits (ws.take i)) := by
  cases i with
  | zero => rfl
  | succ i =>
    have hget : ws[i]? = some ws[i] := List.getElem?_eq_getElem h
    rw [states, List.getElem?_cons_succ, List.getElem?_map, getElem?_trackAll, List.take_add_one,
      hget]
    rfl

end Nesting
end YamlStyle
