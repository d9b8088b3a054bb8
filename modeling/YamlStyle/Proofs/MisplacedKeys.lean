/-
# Keys out of order

A key is out of order if any key above it in the same mapping comes after it.  The
rule forgets keys: those that are ignored, and those that it reports.  A key that is
reported comes before one that is recorded, and whatever comes before the former
comes before the latter, so the keys that are recorded are enough
(`KeyOrdering.exists_kept_iff`).

Keys are compared by code points, which is the order of their UTF-8 bytes
(`Text.bytes_lt_bytes_iff`).
-/

import YamlStyle.Pattern.Standard
import YamlStyle.Proofs.ByteOrder
import YamlStyle.Proofs.SiblingKeys

namespace YamlStyle
namespace KeyOrdering

open Brackets

/-- The key at a position is not ignored and comes before one that stands above it in
the same mapping and is not ignored either.  Keys are in the order of their code
points. -/
def Misplaced (o : Options) (ts : List Token) (i : Nat) (key : String) : Prop :=
  ∃ opener, KeyOf ts opener i key ∧ o.ignores key = false ∧
    ∃ j < i, ∃ above, KeyOf ts opener j above ∧ o.ignores above = false ∧ key < above

/-- The keys that the rule records. -/
def admits (o : Options) : Admits := fun earlier key =>
  !o.ignores key && !earlier.any fun seen => Text.precedes key.toList seen.toList

section

variable {o : Options} {keys : List String} {key : String}

/-- The rule compares keys in their order. -/
theorem any_precedes_iff :
    (keys.any fun seen => Text.precedes key.toList seen.toList) = true ↔
      ∃ seen ∈ keys, key < seen := by
  simp only [List.any_eq_true, Text.precedes_iff_lt]

/-- A key is recorded if it is not ignored and comes before no recorded one. -/
theorem admits_iff :
    admits o keys key = true ↔ o.ignores key = false ∧ ¬ ∃ seen ∈ keys, key < seen := by
  rw [admits, Bool.and_eq_true, Bool.not_eq_true', Bool.not_eq_true', ← Bool.not_eq_true,
    ← Bool.not_eq_true, any_precedes_iff]

/-- What is recorded has been met and is not ignored. -/
theorem of_mem_kept (h : key ∈ (admits o).keep keys) : key ∈ keys ∧ o.ignores key = false := by
  induction keys using List.reverseRecOn with
  | nil => cases h
  | append_singleton keys last ih =>
    rw [Admits.keep_concat] at h
    split_ifs at h with hlast
    · rcases List.mem_append.1 h with hold | hnew
      · exact ⟨List.mem_append_left _ (ih hold).1, (ih hold).2⟩
      · rw [List.mem_singleton.1 hnew]
        exact ⟨by simp, (admits_iff.1 hlast).1⟩
    · exact ⟨List.mem_append_left _ (ih h).1, (ih h).2⟩

/-- **Recorded keys stand for those that are forgotten**: each key that is not ignored
is recorded or comes before one that is. -/
theorem exists_kept_ge (hkey : key ∈ keys) (hignored : o.ignores key = false) :
    ∃ seen ∈ (admits o).keep keys, key ≤ seen := by
  induction keys using List.reverseRecOn with
  | nil => cases hkey
  | append_singleton keys last ih =>
    rw [Admits.keep_concat]
    rcases List.mem_append.1 hkey with hold | hnew
    · obtain ⟨seen, hseen, hle⟩ := ih hold
      refine ⟨seen, ?_, hle⟩
      split_ifs
      · exact List.mem_append_left _ hseen
      · exact hseen
    · obtain rfl := List.mem_singleton.1 hnew
      split_ifs with hadmits
      · exact ⟨key, by simp, le_refl key⟩
      · -- not recorded although it is not ignored, so a recorded key comes after it
        rw [admits_iff, not_and, not_not] at hadmits
        obtain ⟨seen, hseen, hlt⟩ := hadmits hignored
        exact ⟨seen, hseen, le_of_lt hlt⟩

/-- A key comes before a recorded one if it comes before any that is not ignored. -/
theorem exists_kept_iff :
    (∃ seen ∈ (admits o).keep keys, key < seen) ↔
      ∃ above ∈ keys, o.ignores above = false ∧ key < above := by
  constructor
  · rintro ⟨seen, hseen, hlt⟩
    exact ⟨seen, (of_mem_kept hseen).1, (of_mem_kept hseen).2, hlt⟩
  · rintro ⟨above, habove, hignored, hlt⟩
    obtain ⟨seen, hseen, hle⟩ := exists_kept_ge habove hignored
    exact ⟨seen, hseen, lt_of_lt_of_le hlt hle⟩

/-- A key is a problem if it comes before some key above it, ignored ones apart. -/
theorem problem?_eq_some_iff {scalar : Token} {problem : Problem} :
    TokenRule.keyOrdering.problem? o ⟨key, scalar, (admits o).keep keys⟩ = some problem ↔
      (o.ignores key = false ∧ ∃ above ∈ keys, o.ignores above = false ∧ key < above) ∧
        problem = .misorderedKey key := by
  rw [← exists_kept_iff, ← any_precedes_iff]
  simp only [TokenRule.problem?]
  cases o.ignores key <;>
    cases ((admits o).keep keys).any fun seen => Text.precedes key.toList seen.toList <;>
    simp [eq_comm]

end

/-- **A key is reported if it comes before any key above it, and only then.**  The rule
takes a step for every token and fails where the stream is at fault.  Elsewhere it
reports a key if and only if some key above it in the same mapping comes after it,
ignored keys apart, whether or not that key was reported itself; it does so once and
at the place of the key's scalar.  Which keys are ignored is up to the patterns, and
these can be of any engine.  The order is that of code points, which is also that of
UTF-8 bytes. -/
theorem steps_iff_misplaced (o : Options) (d : Document) :
    ((Rule.token .keyOrdering).steps o d).length = d.tokens.length ∧
    (∀ i step, ((Rule.token .keyOrdering).steps o d)[i]? = some step →
      (∀ cause, step = .error cause ↔ fault? d.tokens i = some cause) ∧
      ∀ found, step = .ok found → found.length ≤ 1 ∧ ∀ f, f ∈ found ↔
        ∃ key, Misplaced o d.tokens i key ∧
          findingAt? d.tokens i (.misorderedKey key) = some f) ∧
    ∀ a b : String, a < b ↔ Text.bytes a.toList < Text.bytes b.toList := by
  refine ⟨TokenRule.length_steps _ _ d, fun i step hstep => ?_,
    fun a b => Text.bytes_lt_bytes_iff.symm⟩
  have hadmits : TokenRule.keyOrdering.admits? o = some (admits o) := rfl
  refine TokenRule.walk_keys hadmits d (fun opener i key => o.ignores key = false ∧
    ∃ j < i, ∃ above, KeyOf d.tokens opener j above ∧ o.ignores above = false ∧ key < above)
    .misorderedKey (fun scalar found hof => ?_) hstep
  rw [problem?_eq_some_iff]
  simp only [mem_keysOf_iff hof.mapping]
  refine and_congr_left fun _ => and_congr_right fun _ => ?_
  constructor
  · rintro ⟨above, ⟨j, hj, habove⟩, h⟩
    exact ⟨j, hj, above, habove, h⟩
  · rintro ⟨j, hj, above, habove, h⟩
    exact ⟨above, ⟨j, hj, habove⟩, h⟩

open Pattern.Standard in
/-- The greatest key is ignored.  A key is reported and forgotten, and the last key is
reported too, which comes before it.  A key that is less than all of these is not
reported, for it stands in a mapping of its own. -/
theorem steps_iff_misplaced_forgotten :
    let o : Options := ⟨(Pattern.Engine.compile "z").toOption.toList⟩
    let token : TokenKind → Nat → Token := fun kind line => ⟨kind, ⟨line, 2, 0⟩, ⟨line, 2, 0⟩⟩
    let key : String → Nat → List Token := fun name line =>
      [token .key line, token (.scalar name .plain) line, token .value line]
    let d : Document := ⟨[], [token .blockMappingStart 0] ++ key "z" 0 ++ key "é" 1 ++ key "e" 2 ++
      [token .flowMappingStart 2] ++ key "a" 2 ++ [token .flowMappingEnd 2] ++ key "d" 3 ++
      [token .blockEnd 4, token .streamEnd 4]⟩
    o.ignores "z" = true ∧
      ((Rule.token .keyOrdering).steps o d)[15]? = some (.ok [⟨4, 3, .misorderedKey "d"⟩]) ∧
      (∃ key, Misplaced o d.tokens 15 key ∧
        findingAt? d.tokens 15 (.misorderedKey key) = some ⟨4, 3, .misorderedKey "d"⟩) ∧
      ((Rule.token .keyOrdering).steps o d)[11]? = some (.ok []) ∧
      ∀ f, ¬ ∃ key, Misplaced o d.tokens 11 key ∧
        findingAt? d.tokens 11 (.misorderedKey key) = some f := by
  intro o token key d
  have hignored : o.ignores "z" = true := by decide +kernel
  have hlast : ((Rule.token .keyOrdering).steps o d)[15]? =
      some (.ok [⟨4, 3, .misorderedKey "d"⟩]) := by decide +kernel
  have hinner : ((Rule.token .keyOrdering).steps o d)[11]? = some (.ok []) := by decide +kernel
  obtain ⟨-, hsteps, -⟩ := steps_iff_misplaced o d
  refine ⟨hignored, hlast, ?_, hinner, fun f hf => ?_⟩
  · exact (((hsteps 15 _ hlast).2 _ rfl).2 _).1 (List.mem_singleton_self _)
  · exact List.not_mem_nil ((((hsteps 11 _ hinner).2 _ rfl).2 f).2 hf)

end KeyOrdering
end YamlStyle
