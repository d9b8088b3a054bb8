/-
# Open collections are unmatched openers

A walk keeps the open collections on a stack and never looks back at the stream.
Its stack is nevertheless determined by the stream alone: after every token the
frames, outermost first, are those of the openers that are unmatched there, each
with the kind of its opener and with the keys recorded where that opener was the
innermost one (`Agree`).  A step that fails leaves the stack, and the openers, as
they were, so this holds past errors too.

One step lemma (`Agree.after`) covers all walks, whatever keys they record; it
has one lemma under it for each thing that a token can do.  The whole walk
follows by induction on the number of steps (`agree_afterAll`).
-/

import YamlStyle.Proofs.Positions
import YamlStyle.Proofs.Walks

namespace YamlStyle
namespace Brackets

/-! ### Agreement -/

/-- The frames are those of the openers that are unmatched before a position. -/
def Agree (admits : Admits) (ts : List Token) (i : Nat) (n : Nesting) : Prop :=
  n.frames.reverse.map some = (unmatchedBefore ts i).map (frame? admits.keep ts i)

variable {admits : Admits} {ts : List Token} {i : Nat} {n : Nesting} {w : Window}

/-- Before the first token nothing is open. -/
theorem agree_empty (admits : Admits) (ts : List Token) : Agree admits ts 0 .empty := rfl

/-- No frame is left if nothing is open. -/
theorem Agree.frames_eq_nil_iff (h : Agree admits ts i n) :
    n.frames = [] ↔ unmatchedBefore ts i = [] := by
  have hlen := congrArg List.length h
  simp only [List.length_map, List.length_reverse] at hlen
  rw [← List.length_eq_zero_iff, ← List.length_eq_zero_iff, hlen]

/-- There are as many frames as collections that are open. -/
theorem Agree.depth_eq (h : Agree admits ts i n) : n.depth = (unmatchedBefore ts i).length := by
  have hlen := congrArg List.length h
  simpa [Nesting.depth] using hlen

/-- The top of the stack belongs to the innermost opener. -/
theorem Agree.cons {frame : Frame} {outer : List Frame} (h : Agree admits ts i n)
    (hframes : n.frames = frame :: outer) :
    ∃ front last, unmatchedBefore ts i = front ++ [last] ∧
      frame? admits.keep ts i last = some frame ∧
      outer.reverse.map some = front.map (frame? admits.keep ts i) := by
  unfold Agree at h
  rw [hframes, List.reverse_cons, List.map_append] at h
  obtain ⟨front, back, hsplit, hfront, hback⟩ := List.map_eq_append_iff.1 h.symm
  obtain ⟨last, rfl, hlast⟩ := List.map_eq_singleton_iff.1 hback
  exact ⟨front, last, hsplit, hlast, hfront.symm⟩

/-! ### One step -/

/-- Where no key is met, the frames of openers stay the same. -/
theorem map_frame?_succ (keep : List String → List String) (hkey : keyAt? ts i = none)
    (positions : List Nat) :
    positions.map (frame? keep ts (i + 1)) = positions.map (frame? keep ts i) :=
  List.map_congr_left fun o _ => frame?_congr (keysOf_succ_of_none hkey o)

/-- Where a key is met, the innermost opener gets it and no other. -/
theorem map_frame?_succ_of_key {key : String} {front : List Nat} {last : Nat} {frame : Frame}
    (hkey : keyAt? ts i = some key) (hsplit : unmatchedBefore ts i = front ++ [last])
    (hlast : frame? admits.keep ts i last = some frame) :
    (front ++ [last]).map (frame? admits.keep ts (i + 1)) =
      front.map (frame? admits.keep ts i) ++ [some (frame.recordIf admits key)] := by
  have hin : ∀ o, Innermost ts i o ↔ o = last := fun o => innermost_iff_of_eq_append hsplit
  have hpair := pairwise_unmatchedBefore ts i
  rw [hsplit, List.pairwise_append] at hpair
  have hfront : front.map (frame? admits.keep ts (i + 1)) = front.map (frame? admits.keep ts i) := by
    refine List.map_congr_left fun o ho => frame?_congr ?_
    have hlt := hpair.2.2 o ho last (List.mem_singleton_self _)
    have hnot : ¬ Innermost ts i o := fun h => by
      have := (hin o).1 h
      omega
    simp [keysOf_succ, hnot]
  have hkeys : keysOf ts (i + 1) last = keysOf ts i last ++ [key] := by
    simp [keysOf_succ, (hin last).2 rfl, hkey]
  have hnew : frame? admits.keep ts (i + 1) last = some (frame.recordIf admits key) := by
    unfold frame? at hlast ⊢
    obtain ⟨kind, hkind, rfl⟩ := Option.map_eq_some_iff.1 hlast
    rw [hkind, hkeys, Option.map_some]
    cases kind with
    | mapping =>
      simp only [Frame.recordIf, Admits.keep_concat, Option.some.injEq]
      split <;> rfl
    | sequence => rfl
  rw [List.map_append, hfront, List.map_singleton, hnew]

/-- An opener is put on top, without keys. -/
theorem Agree.opened {kind : CollectionKind} (h : Agree admits ts i n)
    (hopen : openedAt? ts i = some kind) (hkey : keyAt? ts i = none) :
    Agree admits ts (i + 1) ⟨⟨kind, []⟩ :: n.frames⟩ := by
  have hnew : frame? admits.keep ts (i + 1) i = some ⟨kind, []⟩ := by
    rw [frame?, hopen, keysOf_succ_of_none hkey, keysOf_self]
    cases kind <;> rfl
  unfold Agree at h ⊢
  rw [unmatchedBefore_succ_of_opened hopen, List.reverse_cons, List.map_append, List.map_append, h,
    List.map_singleton, List.map_singleton, hnew, map_frame?_succ _ hkey]

/-- An end uncovers the frame below, with the keys it had. -/
theorem Agree.closed {frame : Frame} {outer : List Frame} (h : Agree admits ts i n)
    (hframes : n.frames = frame :: outer) (hends : endsAt ts i = true)
    (hopen : openedAt? ts i = none) (hkey : keyAt? ts i = none) :
    Agree admits ts (i + 1) ⟨outer⟩ := by
  obtain ⟨front, last, hsplit, -, hfront⟩ := h.cons hframes
  unfold Agree
  rw [unmatchedBefore_succ_of_ends hends hopen, hsplit, List.dropLast_concat,
    map_frame?_succ _ hkey, hfront]

/-- An end with nothing to close is ignored. -/
theorem Agree.unmatched (h : Agree admits ts i n) (hframes : n.frames = [])
    (hends : endsAt ts i = true) (hopen : openedAt? ts i = none) :
    Agree admits ts (i + 1) n := by
  have hnil := h.frames_eq_nil_iff.1 hframes
  unfold Agree
  rw [unmatchedBefore_succ_of_ends hends hopen, hnil, hframes]
  rfl

/-- Other tokens that announce no key change nothing. -/
theorem Agree.kept (h : Agree admits ts i n) (hends : endsAt ts i = false)
    (hopen : openedAt? ts i = none) (hkey : keyAt? ts i = none) :
    Agree admits ts (i + 1) n := by
  unfold Agree at h ⊢
  rw [unmatchedBefore_succ_of_neither hends hopen, map_frame?_succ _ hkey, h]

/-- A key is recorded where its opener is innermost. -/
theorem Agree.recordIf (h : Agree admits ts i n) (hw : w.At ts i) (hends : endsAt ts i = false)
    (hopen : openedAt? ts i = none) : Agree admits ts (i + 1) (n.recordIf admits w) := by
  have hat := hw.key?_fst
  cases hkey : w.key? with
  | none =>
    rw [Nesting.recordIf_of_key?_none hkey]
    exact h.kept hends hopen (by rw [← hat, hkey]; rfl)
  | some x =>
    obtain ⟨key, scalar⟩ := x
    rw [hkey] at hat
    cases hframes : n.frames with
    | nil =>
      have hvisit : n.visit? w = none := by simp [Nesting.visit?, hframes]
      have hnil := h.frames_eq_nil_iff.1 hframes
      unfold Agree
      rw [unmatchedBefore_succ_of_neither hends hopen, hnil, Nesting.recordIf, hvisit, hframes]
      rfl
    | cons frame outer =>
      obtain ⟨front, last, hsplit, hlast, hfront⟩ := h.cons hframes
      unfold Agree
      rw [Nesting.recordIf_of_key?_some hkey hframes, unmatchedBefore_succ_of_neither hends hopen,
        hsplit, map_frame?_succ_of_key hat.symm hsplit hlast, List.reverse_cons, List.map_append,
        hfront]
      rfl

/-- **One step keeps the frames in agreement with the openers**, also a step that
fails. -/
theorem Agree.after (h : Agree admits ts i n) (hw : w.At ts i) :
    Agree admits ts (i + 1) (n.after admits w) := by
  have hkeyAt : w.key? = none → keyAt? ts i = none := fun hk => by rw [← hw.key?_fst, hk]; rfl
  have hspec := n.advance_spec w.token
  unfold Nesting.after
  generalize n.advance w.token = result at hspec
  cases hspec with
  | opened hopen =>
    -- a token that opens or closes a collection is no key token, so nothing is recorded
    have hkey : w.key? = none := Window.key?_eq_none fun hk => by simp [hk, TokenKind.opens?] at hopen
    simp only [Nesting.recordIf_of_key?_none hkey]
    exact h.opened (hw.openedAt?_eq.trans hopen) (hkeyAt hkey)
  | unmatched hopen hends hframes =>
    exact h.unmatched hframes (hw.endsAt_eq.trans hends) (hw.openedAt?_eq.trans hopen)
  | closed hopen hends hframes =>
    have hkey : w.key? = none :=
      Window.key?_eq_none fun hk => by simp [hk, TokenKind.endsCollection] at hends
    simp only [Nesting.recordIf_of_key?_none hkey]
    exact h.closed hframes (hw.endsAt_eq.trans hends) (hw.openedAt?_eq.trans hopen) (hkeyAt hkey)
  | unclosed hopen hends hstream _ =>
    have hkey : w.key? = none := Window.key?_eq_none fun hk => by simp [hk] at hstream
    exact h.kept (hw.endsAt_eq.trans hends) (hw.openedAt?_eq.trans hopen) (hkeyAt hkey)
  | kept hopen hends _ =>
    exact h.recordIf hw (hw.endsAt_eq.trans hends) (hw.openedAt?_eq.trans hopen)

/-- A step fails where the stream is at fault. -/
theorem Agree.advance_eq_error_iff (h : Agree admits ts i n) (hw : w.At ts i)
    (cause : StreamError) : n.advance w.token = .error cause ↔ fault? ts i = some cause := by
  have hnil := h.frames_eq_nil_iff
  have hdepth := h.depth_eq
  have hspec := n.advance_spec w.token
  rw [fault?, hw.token, Option.bind_some]
  generalize n.advance w.token = result at hspec
  cases hspec with
  | opened hopen =>
    have hends : w.token.kind.endsCollection = false :=
      hw.endsAt_eq.symm.trans (endsAt_eq_false_of_openedAt? (hw.openedAt?_eq.trans hopen))
    have hstream : w.token.kind ≠ .streamEnd := fun hk => by simp [hk, TokenKind.opens?] at hopen
    simp [hends, hstream]
  | unmatched _ hends hframes => simp [hends, hnil.1 hframes]
  | closed _ hends hframes =>
    have hne : unmatchedBefore ts i ≠ [] := fun hP => by simp [hnil.2 hP] at hframes
    have hstream : w.token.kind ≠ .streamEnd := fun hk => by
      simp [hk, TokenKind.endsCollection] at hends
    simp [hne, hstream]
  | unclosed _ _ hstream hframes =>
    have hne : unmatchedBefore ts i ≠ [] := fun hP => hframes (hnil.2 hP)
    simp [hstream, hne, hdepth]
  | kept _ hends hstream =>
    have hnone : ¬ (w.token.kind = .streamEnd ∧ unmatchedBefore ts i ≠ []) :=
      fun hk => hk.2 (hnil.1 (hstream hk.1))
    simp [hends, hnone]

/-! ### Whole walks -/

/-- **After any number of steps the frames agree with the openers.** -/
theorem agree_afterAll (admits : Admits) (d : Document) {i : Nat} (h : i ≤ d.windows.length) :
    Agree admits d.tokens i (Nesting.empty.afterAll admits (d.windows.take i)) := by
  induction i with
  | zero => exact agree_empty admits d.tokens
  | succ i ih =>
    have hget : d.windows[i]? = some d.windows[i] := List.getElem?_eq_getElem h
    rw [List.take_add_one, hget, Option.toList_some, Nesting.afterAll_concat]
    exact (ih (by omega)).after (Document.window_at hget)

end Brackets

open Brackets in
/-- **The open collections of a walk are the unmatched openers, also past
errors.**  A walk takes one step per token.  Before every step and after the last
one the frames, outermost first, are those of the openers unmatched there, each
with the kind of its opener and the keys that the policy keeps of those met where
that opener was innermost.  A step fails exactly where the stream is at fault, and
then changes nothing. -/
theorem Nesting.trackAll_frames_eq_unmatched (policy : Recording) (d : Document) :
    (trackAll policy .empty d.windows).length = d.tokens.length ∧
    (∀ i n, (states policy .empty d.windows)[i]? = some n →
      n.frames.reverse.map some =
        (unmatchedBefore d.tokens i).map (frame? policy.kept d.tokens i)) ∧
    ∀ i step, (trackAll policy .empty d.windows)[i]? = some step →
      (∀ cause, step.2 = .error cause ↔ fault? d.tokens i = some cause) ∧
      ∀ cause, step.2 = .error cause → (states policy .empty d.windows)[i]? = some step.1 := by
  have hkeep : policy.admits.keep = policy.kept := funext policy.keep_admits
  refine ⟨by rw [length_trackAll, d.length_windows], fun i n hn => ?_, fun i step hstep => ?_⟩
  · have hi : i ≤ d.windows.length := by
      have hlt := (List.getElem?_eq_some_iff.1 hn).1
      simp only [states, List.length_cons, List.length_map, length_trackAll] at hlt
      omega
    rw [getElem?_states policy .empty d.windows hi] at hn
    obtain rfl := Option.some.inj hn
    rw [← hkeep]
    exact agree_afterAll policy.admits d hi
  · rw [getElem?_trackAll] at hstep
    obtain ⟨w, hw, rfl⟩ := Option.map_eq_some_iff.1 hstep
    have hi : i < d.windows.length := (List.getElem?_eq_some_iff.1 hw).1
    have hagree := agree_afterAll policy.admits d (Nat.le_of_lt hi)
    have hfault := hagree.advance_eq_error_iff (Document.window_at hw)
    rw [getElem?_states policy .empty d.windows (Nat.le_of_lt hi), afterAll_concat, after]
    generalize Nesting.empty.afterAll policy.admits (d.windows.take i) = n at hfault
    cases hadvance : n.advance w.token with
    | error e =>
      rw [hadvance] at hfault
      exact ⟨fun cause => by rw [← hfault]; simp [Except.map], fun _ _ => rfl⟩
    | ok m =>
      rw [hadvance] at hfault
      exact ⟨fun cause => by rw [← hfault]; simp [Except.map], fun _ h => by simp [Except.map] at h⟩

open Brackets in
/-- The stream starts with an end that matches nothing and stops inside a sequence
inside a mapping, which has met a key twice around an inner mapping. -/
theorem Nesting.trackAll_frames_eq_unmatched_unseen :
    let mark := Mark.origin
    let key : List Token := [⟨.key, mark, mark⟩, ⟨.scalar "a" .plain, mark, mark⟩]
    let d : Document := ⟨[], [⟨.blockEnd, mark, mark⟩, ⟨.blockMappingStart, mark, mark⟩] ++ key ++
      [⟨.flowMappingStart, mark, mark⟩] ++ key ++ [⟨.flowSequenceEnd, mark, mark⟩] ++ key ++
      [⟨.blockSequenceStart, mark, mark⟩, ⟨.streamEnd, mark, mark⟩]⟩
    let opened : Nesting := ⟨[⟨.sequence, []⟩, ⟨.mapping, ["a"]⟩]⟩
    let last : Nesting × Except StreamError (Option KeyVisit) :=
      (opened, .error (.unclosedCollections 2 mark))
    (states .unseen .empty d.windows)[11]? = some opened ∧
      (trackAll .unseen .empty d.windows)[11]? = some last ∧
      unmatchedBefore d.tokens 11 = [1, 10] ∧
      opened.frames.reverse.map some =
        [1, 10].map (frame? Recording.unseen.kept d.tokens 11) ∧
      fault? d.tokens 11 = some (.unclosedCollections 2 mark) := by
  intro mark key d opened last
  have hstate : (states .unseen .empty d.windows)[11]? = some opened := by decide +kernel
  have hlast : (trackAll .unseen .empty d.windows)[11]? = some last := by decide +kernel
  have hopeners : unmatchedBefore d.tokens 11 = [1, 10] := by decide +kernel
  have hmain := trackAll_frames_eq_unmatched .unseen d
  refine ⟨hstate, hlast, hopeners, ?_, ((hmain.2.2 11 last hlast).1 _).1 rfl⟩
  rw [← hopeners]
  exact hmain.2.1 11 opened hstate

end YamlStyle
