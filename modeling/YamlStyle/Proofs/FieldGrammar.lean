/-
# How fields of options are written

The options of rules hold truth values, integers, a convention for line breaks and
lists of patterns.  The grammar of these values stands here apart from the way they
are read: integers have to be in range, a convention is named by a text or by the
only key of an object, and every pattern has to be one that the engine compiles,
whichever engine it is.  Reading accepts exactly what the grammar allows
(`FieldType.decode_eq_ok_iff`).
-/

import YamlStyle.Proofs.ConfigGrammar
import YamlStyle.Rule.Basic

namespace YamlStyle

/-! ### The grammar -/

/-- What a field of a record of options holds. -/
inductive FieldType where
  | truth
  | signed
  | unsigned
  | convention
  | patterns
  deriving DecidableEq, Repr

namespace FieldType

/-- The values of a field. -/
@[reducible] def Value : FieldType → Type
  | truth => Bool
  | signed => Int64
  | unsigned => UInt64
  | convention => NewLines.Convention
  | patterns => List KeyPattern

/-- How a value of a field is written. -/
inductive Spelled [Pattern.Engine] : (t : FieldType) → Json → t.Value → Prop
  | truth (b : Bool) : Spelled truth (.bool b) b
  /-- An integer of 64 bits with a sign. -/
  | signed (n : Int64) : Spelled signed (.int n.toInt) n
  /-- An integer of 64 bits without a sign. -/
  | unsigned (n : UInt64) : Spelled unsigned (.int n.toNat) n
  /-- The name of a convention. -/
  | named (c : NewLines.Convention) : Spelled convention (.str c.name) c
  /-- The name of a convention as a key with nothing under it. -/
  | keyed (c : NewLines.Convention) : Spelled convention (.obj [(c.name, .null)]) c
  /-- The sources of patterns, each of which compiles to one. -/
  | patterns {sources : List String} {ps : List KeyPattern}
      (h : List.Forall₂ (fun source p => Pattern.Engine.compile source = .ok p) sources ps) :
      Spelled patterns (.arr (sources.map .str)) ps

/-- How a value is read and written. -/
def codec [Pattern.Engine] : (t : FieldType) → Codec t.Value
  | truth => .boolean
  | signed => .int64
  | unsigned => .uint64
  | convention => NewLines.Convention.codec
  | patterns => .patterns

end FieldType

/-! ### Reading -/

namespace Codec

/-- A choice is read from its name or from an object that holds nothing but its name. -/
theorem choice_decode_eq_ok_iff {α : Type} {options : List α} {name : α → String}
    (h : ∀ a, options.find? (name · == name a) = some a) {v : Json} {a : α} :
    (choice options name).decode v = .ok a ↔ v = .str (name a) ∨ v = .obj [(name a, .null)] := by
  have hname : ∀ {text a}, options.find? (name · == text) = some a → name a = text :=
    fun hfind => by simpa using List.find?_some hfind
  constructor
  · intro hok
    simp only [choice] at hok
    split at hok
    · rename_i text
      split at hok
      · rename_i a' hfind
        obtain rfl := Except.ok.inj hok
        rw [← hname hfind]
        exact Or.inl rfl
      · cases hok
    · rename_i key content
      obtain ⟨a', hpick, hcontent⟩ := bind_eq_ok_iff.1 hok
      split at hpick
      · rename_i a'' hfind
        obtain rfl := Except.ok.inj hpick
        cases content with
        | null =>
          obtain rfl := Except.ok.inj hcontent
          rw [← hname hfind]
          exact Or.inr rfl
        | bool | int | float | str | arr | obj => cases hcontent
      · cases hpick
    · cases hok
    · cases hok
  · rintro (rfl | rfl)
    · simp [choice, h]
    · simp [choice, h, bind, Except.bind]

section

variable [Pattern.Engine]

/-- Nothing but truth values is read as one. -/
theorem boolean_decode_eq_ok_iff {v : Json} {b : Bool} :
    boolean.decode v = .ok b ↔ FieldType.truth.Spelled v b := by
  constructor
  · intro h
    cases v with
    | bool b' =>
      obtain rfl := Except.ok.inj h
      exact .truth b'
    | null | int | float | str | arr | obj => cases h
  · intro h
    cases h
    rfl

/-- Integers are read if they have 64 bits with a sign. -/
theorem int64_decode_eq_ok_iff {v : Json} {n : Int64} :
    int64.decode v = .ok n ↔ FieldType.signed.Spelled v n := by
  constructor
  · intro h
    cases v with
    | int m =>
      simp only [int64] at h
      split_ifs at h with hm
      obtain rfl := Except.ok.inj h
      have hn : (Int64.ofInt m).toInt = m := Int64.toInt_ofInt_of_le (by omega) (by omega)
      have hspelled := FieldType.Spelled.signed (Int64.ofInt m)
      rwa [hn] at hspelled
    | null | bool | float | str | arr | obj => cases h
  · intro h
    cases h
    have hle := n.le_toInt
    have hlt := n.toInt_lt
    simp only [int64, Int64.ofInt_toInt]
    rw [if_pos (by omega)]

/-- Integers are read if they have 64 bits without a sign. -/
theorem uint64_decode_eq_ok_iff {v : Json} {n : UInt64} :
    uint64.decode v = .ok n ↔ FieldType.unsigned.Spelled v n := by
  constructor
  · intro h
    cases v with
    | int m =>
      simp only [uint64] at h
      split_ifs at h with hm
      obtain rfl := Except.ok.inj h
      have hn : ((UInt64.ofNat m.toNat).toNat : Int) = m := by
        rw [UInt64.toNat_ofNat_of_lt' (by simp only [UInt64.size]; omega)]
        omega
      have hspelled := FieldType.Spelled.unsigned (UInt64.ofNat m.toNat)
      rwa [hn] at hspelled
    | null | bool | float | str | arr | obj => cases h
  · intro h
    cases h
    have hlt := n.toNat_lt
    simp only [uint64, Int.toNat_natCast, UInt64.ofNat_toNat]
    rw [if_pos (by omega)]

/-- A convention is read by its name, alone or as a key. -/
theorem convention_decode_eq_ok_iff {v : Json} {c : NewLines.Convention} :
    NewLines.Convention.codec.decode v = .ok c ↔ FieldType.convention.Spelled v c := by
  have hfind : ∀ c : NewLines.Convention,
      NewLines.Convention.all.find? (·.name == c.name) = some c := by
    intro c
    cases c <;> rfl
  rw [NewLines.Convention.codec, choice_decode_eq_ok_iff hfind]
  constructor
  · rintro (rfl | rfl)
    · exact .named c
    · exact .keyed c
  · intro h
    cases h with
    | named => exact Or.inl rfl
    | keyed => exact Or.inr rfl

/-- Patterns are read as the engine compiles them. -/
theorem readPattern_eq_ok_iff {source : String} {p : KeyPattern} :
    readPattern source = .ok p ↔ Pattern.Engine.compile source = .ok p := by
  unfold readPattern
  cases Pattern.Engine.compile source with
  | ok q => simp only [Except.ok.injEq]
  | error cause => simp only [reduceCtorEq]

/-- An array of patterns is read if all of them compile. -/
theorem patterns_decode_eq_ok_iff {v : Json} {ps : List KeyPattern} :
    patterns.decode v = .ok ps ↔ FieldType.patterns.Spelled v ps := by
  have hdecode : patterns.decode v = .ok ps ↔
      ∃ sources, readTexts v = .ok sources ∧ sources.mapM readPattern = .ok ps := bind_eq_ok_iff
  -- all items are texts before the first of them is compiled
  simp only [hdecode, mapM_eq_ok_iff_forall₂, readPattern_eq_ok_iff]
  constructor
  · rintro ⟨sources, htexts, hpatterns⟩
    cases v with
    | arr items =>
      rw [mapM_readText_eq_ok_iff.1 htexts]
      exact .patterns hpatterns
    | null | bool | int | float | str | obj => cases htexts
  · intro h
    cases h with
    | patterns hpatterns => exact ⟨_, mapM_readText_eq_ok_iff.2 rfl, hpatterns⟩

end

end Codec

/-- **Reading a field accepts what the grammar allows**, and gives what it says. -/
theorem FieldType.decode_eq_ok_iff [Pattern.Engine] (t : FieldType) {v : Json} {x : t.Value} :
    t.codec.decode v = .ok x ↔ t.Spelled v x := by
  cases t with
  | truth => exact Codec.boolean_decode_eq_ok_iff
  | signed => exact Codec.int64_decode_eq_ok_iff
  | unsigned => exact Codec.uint64_decode_eq_ok_iff
  | convention => exact Codec.convention_decode_eq_ok_iff
  | patterns => exact Codec.patterns_decode_eq_ok_iff

end YamlStyle
