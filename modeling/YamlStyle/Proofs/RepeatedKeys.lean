/-
# Repeated keys

A key is repeated if it stands before in the same mapping.  The rule does not record
a key that it reports, but that one is equal to one that is recorded, so nothing is
lost (`KeyDuplicates.mem_kept_iff`).  The rule therefore reports all positions of a
key in a mapping but the first (`KeyDuplicates.foundAt_keyPositions`).
-/

import YamlStyle.Proofs.SiblingKeys

namespace YamlStyle

/-! ### Positions of a key -/

/-- What is found at a position. -/
def foundAt (steps : List (Except StreamError (List Finding))) (i : Nat) : List Finding :=
  (steps[i]?.map findingsOf).getD []

namespace Brackets

/-- The positions of a key in the mapping opened at `o`. -/
def keyPositions (ts : List Token) (o : Nat) (key : String) : List Nat :=
  (List.range ts.length).filter fun i => KeyOf ts o i key

section

variable {ts : List Token} {o i : Nat} {key : String}

/-- A key is at a token. -/
theorem KeyOf.lt_length (h : KeyOf ts o i key) : i < ts.length := by
  obtain ⟨hkind, -⟩ := keyAt?_eq_some_iff.1 h.announced
  obtain ⟨t, ht, -⟩ := Option.map_eq_some_iff.1 hkind
  exact (List.getElem?_eq_some_iff.1 ht).1

/-- A stream is not at fault at a key. -/
theorem KeyOf.fault?_eq_none (h : KeyOf ts o i key) : fault? ts i = none := by
  obtain ⟨hkind, -⟩ := keyAt?_eq_some_iff.1 h.announced
  obtain ⟨t, ht, hkey⟩ := Option.map_eq_some_iff.1 hkind
  simp [fault?, ht, hkey, TokenKind.endsCollection]

/-- A key can be reported. -/
theorem KeyOf.exists_findingAt? (h : KeyOf ts o i key) (problem : Problem) :
    ∃ f, findingAt? ts i problem = some f := by
  obtain ⟨-, -, style, start, stop, hnext⟩ := keyAt?_eq_some_iff.1 h.announced
  exact ⟨_, by rw [findingAt?, hnext]; rfl⟩

/-- The list has the positions of the key. -/
theorem mem_keyPositions : i ∈ keyPositions ts o key ↔ KeyOf ts o i key := by
  simp only [keyPositions, List.mem_filter, List.mem_range, decide_eq_true_eq]
  exact ⟨fun h => h.2, fun h => ⟨h.lt_length, h⟩⟩

/-- The positions of a key ascend. -/
theorem pairwise_keyPositions (ts : List Token) (o : Nat) (key : String) :
    (keyPositions ts o key).Pairwise (· < ·) :=
  List.pairwise_lt_range.filter _

end

end Brackets

/-! ### Reports -/

namespace KeyDuplicates

open Brackets

/-- The key at a position stands in the same mapping before it. -/
def Repeated (ts : List Token) (i : Nat) (key : String) : Prop :=
  ∃ o, KeyOf ts o i key ∧ ∃ j < i, KeyOf ts o j key

/-- The steps of the rule's run by itself. -/
def steps (d : Document) : List (Except StreamError (List Finding)) :=
  (Rule.token .keyDuplicates).steps {} d

/-- A key is recorded once, so what is recorded tells whether it is repeated. -/
theorem mem_kept_iff {keys : List String} {key : String} :
    key ∈ Recording.unseen.admits.keep keys ↔ key ∈ keys := by
  rw [Recording.keep_admits]
  exact List.mem_eraseDups

/-- What one step of the rule reports. -/
theorem steps_spec {d : Document} {i : Nat} {step : Except StreamError (List Finding)}
    (hstep : (steps d)[i]? = some step) :
    (∀ cause, step = .error cause ↔ fault? d.tokens i = some cause) ∧
      ∀ found, step = .ok found → found.length ≤ 1 ∧ ∀ f, f ∈ found ↔
        ∃ key, Repeated d.tokens i key ∧ findingAt? d.tokens i (.duplicateKey key) = some f := by
  have hadmits : TokenRule.keyDuplicates.admits? {} = some Recording.unseen.admits := rfl
  refine TokenRule.walk_keys hadmits d (fun opener i key => ∃ j < i, KeyOf d.tokens opener j key)
    .duplicateKey (fun scalar found hof => ?_) hstep
  rw [← mem_keysOf_iff hof.mapping]
  simp [TokenRule.problem?, mem_kept_iff, eq_comm]

/-- At a position of a key, one thing is found if the key is repeated there. -/
theorem foundAt_steps {d : Document} {o i : Nat} {key : String} (h : KeyOf d.tokens o i key) :
    (foundAt (steps d) i).map some =
      if ∃ j < i, KeyOf d.tokens o j key then [findingAt? d.tokens i (.duplicateKey key)]
      else [] := by
  have hlt : i < (steps d).length := h.lt_length.trans_eq (TokenRule.length_steps _ _ d).symm
  have hstep : (steps d)[i]? = some (steps d)[i] := List.getElem?_eq_getElem hlt
  obtain ⟨herror, hok⟩ := steps_spec hstep
  obtain ⟨f, hf⟩ := h.exists_findingAt? (.duplicateKey key)
  rw [foundAt, hstep]
  generalize (steps d)[i] = step at herror hok ⊢
  cases step with
  | error cause =>
    have hfault := (herror cause).1 rfl
    rw [h.fault?_eq_none] at hfault
    cases hfault
  | ok found =>
    obtain ⟨hlength, hmem⟩ := hok found rfl
    split_ifs with hearlier
    · have hfound : f ∈ found := (hmem f).2 ⟨key, ⟨o, h, hearlier⟩, hf⟩
      obtain ⟨g, rfl⟩ := List.length_eq_one_iff.1
        (Nat.le_antisymm hlength (List.length_pos_of_mem hfound))
      rw [List.mem_singleton.1 hfound] at hf
      simp [findingsOf, hf]
    · have hnil : found = [] := by
        refine List.eq_nil_iff_forall_not_mem.2 fun g hg => ?_
        obtain ⟨key', ⟨o', hof, hbefore⟩, -⟩ := (hmem g).1 hg
        obtain ⟨rfl, rfl⟩ := h.unique hof
        exact hearlier hbefore
      simp [findingsOf, hnil]

/-- All positions of a key in a mapping but the first are reported. -/
theorem foundAt_keyPositions (d : Document) (o : Nat) (key : String) :
    ((keyPositions d.tokens o key).flatMap (foundAt (steps d))).map some =
      (keyPositions d.tokens o key).tail.map fun i =>
        findingAt? d.tokens i (.duplicateKey key) := by
  have hpair := pairwise_keyPositions d.tokens o key
  have hmem : ∀ i, i ∈ keyPositions d.tokens o key ↔ KeyOf d.tokens o i key :=
    fun i => mem_keyPositions
  generalize keyPositions d.tokens o key = positions at hpair hmem ⊢
  cases positions with
  | nil => rfl
  | cons first rest =>
    have hlt : ∀ i ∈ rest, first < i := fun i hi => List.rel_of_pairwise_cons hpair hi
    have hfirst : KeyOf d.tokens o first key := (hmem first).1 (List.mem_cons_self ..)
    have hhead : foundAt (steps d) first = [] := by
      have hnone : ¬ ∃ j < first, KeyOf d.tokens o j key := by
        rintro ⟨j, hj, hof⟩
        rcases List.mem_cons.1 ((hmem j).2 hof) with rfl | hrest
        · omega
        · have := hlt j hrest
          omega
      have hfound := foundAt_steps hfirst
      rw [if_neg hnone] at hfound
      exact List.map_eq_nil_iff.1 hfound
    have htail : ∀ i ∈ rest, (foundAt (steps d) i).map some =
        [findingAt? d.tokens i (.duplicateKey key)] := by
      intro i hi
      rw [foundAt_steps ((hmem i).1 (List.mem_cons_of_mem _ hi)), if_pos ⟨first, hlt i hi, hfirst⟩]
    rw [List.flatMap_cons, hhead, List.nil_append, List.map_flatMap, List.tail_cons,
      List.flatMap_congr htail]
    exact List.map_eq_flatMap.symm

/-- **Repeated keys are reported, and no others.**  The rule takes a step for every
token and fails where the stream is at fault.  Elsewhere it reports a key if and only
if the same key stands before it directly inside the same mapping, once and at the
place of its scalar.  So of the positions of a key in one mapping all are reported
but the first, whatever lies between them, and whatever other mappings hold. -/
theorem steps_iff_repeated (d : Document) :
    (steps d).length = d.tokens.length ∧
    (∀ i step, (steps d)[i]? = some step →
      (∀ cause, step = .error cause ↔ fault? d.tokens i = some cause) ∧
      ∀ found, step = .ok found → found.length ≤ 1 ∧ ∀ f, f ∈ found ↔
        ∃ key, Repeated d.tokens i key ∧ findingAt? d.tokens i (.duplicateKey key) = some f) ∧
    ∀ o key,
      ((keyPositions d.tokens o key).flatMap (foundAt (steps d))).length =
        (keyPositions d.tokens o key).length - 1 ∧
      ((keyPositions d.tokens o key).flatMap (foundAt (steps d))).map some =
        (keyPositions d.tokens o key).tail.map fun i =>
          findingAt? d.tokens i (.duplicateKey key) := by
  refine ⟨TokenRule.length_steps _ _ d, fun i step hstep => steps_spec hstep, fun o key => ⟨?_, ?_⟩⟩
  · have hlength := congrArg List.length (foundAt_keyPositions d o key)
    rwa [List.length_map, List.length_map, List.length_tail] at hlength
  · exact foundAt_keyPositions d o key

/-- A key stands three times in a mapping, in three styles, and once each in a mapping
inside it and in one after it. -/
theorem steps_iff_repeated_styles :
    let mark : Nat → Mark := fun line => ⟨line, 2, 0⟩
    let token : TokenKind → Nat → Token := fun kind line => ⟨kind, mark line, mark line⟩
    let key : ScalarStyle → Nat → List Token := fun style line =>
      [token .key line, token (.scalar "a" style) line, token .value line]
    let d : Document := ⟨[], [token .blockMappingStart 0] ++ key .plain 0 ++
      [token .flowMappingStart 0] ++ key .plain 0 ++ [token .flowMappingEnd 0] ++ key .double 1 ++
      key .literal 2 ++ [token .blockEnd 3, token .blockMappingStart 4] ++ key .plain 4 ++
      [token .blockEnd 5, token .streamEnd 5]⟩
    keyPositions d.tokens 0 "a" = [1, 9, 12] ∧
      (steps d)[9]? = some (.ok [⟨2, 3, .duplicateKey "a"⟩]) ∧
      (∃ key, Repeated d.tokens 9 key ∧
        findingAt? d.tokens 9 (.duplicateKey key) = some ⟨2, 3, .duplicateKey "a"⟩) ∧
      ((keyPositions d.tokens 0 "a").flatMap (foundAt (steps d))).length = 2 := by
  intro mark token key d
  have hpositions : keyPositions d.tokens 0 "a" = [1, 9, 12] := by decide +kernel
  have hstep : (steps d)[9]? = some (.ok [⟨2, 3, .duplicateKey "a"⟩]) := by decide +kernel
  obtain ⟨-, hsteps, hcount⟩ := steps_iff_repeated d
  refine ⟨hpositions, hstep, ?_, ?_⟩
  · exact (((hsteps 9 _ hstep).2 _ rfl).2 _).1 (List.mem_singleton_self _)
  · rw [(hcount 0 "a").1, hpositions]
    rfl

end KeyDuplicates
end YamlStyle
