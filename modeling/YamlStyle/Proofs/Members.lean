/-
# Objects read by key

An object is read member by member, and what is read under one key does not depend
on the others.  What is asked of a key is said once (`Json.Under`): every value
under it has to spell something, the last one counts, and without any the default
holds.  A value that comes from a text has each key once; the statements here and
in the modules that build on this one hold for all lists of members.

Members are read from the first to the last, so the proofs go by what one more
member at the end changes (`Json.under_concat_self`, `Json.under_concat_of_ne`), and
the loop is dealt with once (`Json.foldlM_eq_pure_iff`).  Where each key stands once,
the order of the members does not matter (`Json.Under.of_perm`).
-/

import Mathlib.Data.List.Forall2
import Mathlib.Data.List.Induction
import YamlStyle.Json.Basic

namespace YamlStyle

/-- A chain of two gives a result if both parts do. -/
theorem bind_eq_ok_iff {ε α β : Type} {x : Except ε α} {f : α → Except ε β} {b : β} :
    x >>= f = .ok b ↔ ∃ a, x = .ok a ∧ f a = .ok b := by
  cases x with
  | error cause => exact ⟨fun h => (nomatch h), fun ⟨_, h, _⟩ => (nomatch h)⟩
  | ok a => exact ⟨fun h => ⟨a, rfl, h⟩, fun ⟨_, h, hf⟩ => by cases h; exact hf⟩

/-- A chain of two fails with its first part, or else with its second. -/
theorem bind_eq_error_iff {ε α β : Type} {x : Except ε α} {f : α → Except ε β} {e : ε} :
    x >>= f = .error e ↔ x = .error e ∨ ∃ a, x = .ok a ∧ f a = .error e := by
  cases x with
  | error cause =>
    exact ⟨fun h => Or.inl (congrArg _ (Except.error.inj h)),
      fun h => h.elim (fun h => congrArg _ (Except.error.inj h)) fun ⟨_, h, _⟩ => (nomatch h)⟩
  | ok a =>
    exact ⟨fun h => Or.inr ⟨a, rfl, h⟩,
      fun h => h.elim (fun h => (nomatch h)) fun ⟨_, h, hf⟩ => by cases h; exact hf⟩

/-- A loop fails at the first item whose step does. -/
theorem foldlM_eq_error_iff {ε σ α : Type} {step : σ → α → Except ε σ} {as : List α} {s : σ}
    {e : ε} :
    as.foldlM step s = .error e ↔ ∃ front a back q, as = front ++ a :: back ∧
      front.foldlM step s = .ok q ∧ step q a = .error e := by
  constructor
  · intro h
    induction as using List.reverseRecOn with
    | nil => cases h
    | append_singleton as a ih =>
      rw [List.foldlM_append, bind_eq_error_iff] at h
      rcases h with herror | ⟨q, hq, ha⟩
      · obtain ⟨front, b, back, q, rfl, hq, hb⟩ := ih herror
        exact ⟨front, b, back ++ [a], q, by simp, hq, hb⟩
      · simp only [List.foldlM_cons, List.foldlM_nil, bind_pure] at ha
        exact ⟨as, a, [], q, rfl, hq, ha⟩
  · rintro ⟨front, a, back, q, rfl, hq, ha⟩
    rw [List.foldlM_append, bind_eq_error_iff]
    refine Or.inr ⟨q, hq, ?_⟩
    rw [List.foldlM_cons, bind_eq_error_iff]
    exact Or.inl ha

/-- A list is read item by item. -/
theorem mapM_eq_ok_iff_forall₂ {ε α β : Type} {f : α → Except ε β} {as : List α} {bs : List β} :
    as.mapM f = .ok bs ↔ List.Forall₂ (fun a b => f a = .ok b) as bs := by
  induction as generalizing bs with
  | nil =>
    rw [List.mapM_nil, List.forall₂_nil_left_iff]
    exact ⟨fun h => (Except.ok.inj h).symm, fun h => congrArg Except.ok h.symm⟩
  | cons a as ih =>
    rw [List.mapM_cons, bind_eq_ok_iff, List.forall₂_cons_left_iff]
    simp only [bind_eq_ok_iff, ih]
    constructor
    · rintro ⟨b, hb, bs, hbs, hcons⟩
      exact ⟨b, bs, hb, hbs, (Except.ok.inj hcons).symm⟩
    · rintro ⟨b, bs, hb, hbs, rfl⟩
      exact ⟨b, hb, bs, hbs, rfl⟩

/-- If what is read spells one thing only, so does a list of it. -/
theorem mapM_eq_ok_iff {ε α β : Type} {f : α → Except ε β} {g : β → α}
    (h : ∀ a b, f a = .ok b ↔ a = g b) {as : List α} {bs : List β} :
    as.mapM f = .ok bs ↔ as = bs.map g := by
  simp only [mapM_eq_ok_iff_forall₂, h]
  rw [← List.forall₂_map_right_iff (R := Eq), List.forall₂_eq_eq_eq]

namespace Json

/-! ### The last value under a key -/

/-- The last value under a key. -/
def last? (key : String) (members : List (String × Json)) : Option Json :=
  members.reverse.lookup key

/-- The last member counts for its key. -/
theorem last?_concat_self (key : String) (v : Json) (members : List (String × Json)) :
    last? key (members ++ [(key, v)]) = some v := by
  simp [last?]

/-- A member with another key does not matter. -/
theorem last?_concat_of_ne {key k : String} (h : k ≠ key) (v : Json)
    (members : List (String × Json)) :
    last? key (members ++ [(k, v)]) = last? key members := by
  have hkey : (key == k) = false := beq_false_of_ne h.symm
  simp [last?, List.lookup_cons, hkey]

/-- The last value under a key stands under it. -/
theorem mem_of_last? {key : String} {members : List (String × Json)} {v : Json}
    (h : last? key members = some v) : (key, v) ∈ members := by
  induction members using List.reverseRecOn with
  | nil => cases h
  | append_singleton members m ih =>
    obtain ⟨k, w⟩ := m
    by_cases hkey : k = key
    · subst hkey
      rw [last?_concat_self] at h
      obtain rfl := Option.some.inj h
      simp
    · rw [last?_concat_of_ne hkey] at h
      exact List.mem_append_left _ (ih h)

/-- Where each key stands once, the value under a key is the last one. -/
theorem last?_eq_some_iff {key : String} {members : List (String × Json)} {v : Json}
    (hnodup : (members.map Prod.fst).Nodup) :
    last? key members = some v ↔ (key, v) ∈ members := by
  refine ⟨mem_of_last?, fun hmem => ?_⟩
  induction members using List.reverseRecOn with
  | nil => cases hmem
  | append_singleton members m ih =>
    obtain ⟨k, w⟩ := m
    rw [List.map_append, List.nodup_append] at hnodup
    obtain ⟨hfront, -, hapart⟩ := hnodup
    rcases List.mem_append.1 hmem with hold | hnew
    · have hne : k ≠ key :=
        (hapart key (List.mem_map_of_mem hold) k (by simp)).symm
      rw [last?_concat_of_ne hne]
      exact ih hfront hold
    · obtain ⟨rfl, rfl⟩ := Prod.mk.inj (List.mem_singleton.1 hnew)
      exact last?_concat_self ..

/-- Where each key stands once, any order has the same last values. -/
theorem last?_eq_of_perm {members members' : List (String × Json)} (hperm : members.Perm members')
    (hnodup : (members.map Prod.fst).Nodup) (key : String) :
    last? key members = last? key members' := by
  have hnodup' : (members'.map Prod.fst).Nodup := (hperm.map Prod.fst).nodup_iff.1 hnodup
  refine Option.ext fun v => ?_
  rw [last?_eq_some_iff hnodup, last?_eq_some_iff hnodup', hperm.mem_iff]

/-! ### What a key spells -/

/-- What members spell under a key, given how the values under it are written. -/
structure Under {α : Type} (key : String) (Spelled : Json → α → Prop) (default : α)
    (members : List (String × Json)) (a : α) : Prop where
  valid : ∀ v, (key, v) ∈ members → ∃ b, Spelled v b
  last : ∀ v, last? key members = some v → Spelled v a
  absent : last? key members = none → a = default

section Under

variable {α : Type} {key : String} {Spelled : Json → α → Prop} {default : α}
  {members : List (String × Json)} {a b : α}

/-- Without members the default holds. -/
theorem under_nil : Under key Spelled default [] a ↔ a = default :=
  ⟨fun h => h.absent rfl, fun h => ⟨fun _ hv => (nomatch hv), fun _ hv => (nomatch hv), fun _ => h⟩⟩

/-- A key spells something if all values under it do. -/
theorem exists_under_iff :
    (∃ a, Under key Spelled default members a) ↔ ∀ v, (key, v) ∈ members → ∃ b, Spelled v b := by
  constructor
  · rintro ⟨a, h⟩
    exact h.valid
  · intro hvalid
    cases hlast : last? key members with
    | none => exact ⟨default, hvalid, fun v hv => by simp [hlast] at hv, fun _ => rfl⟩
    | some v =>
      obtain ⟨a, ha⟩ := hvalid v (mem_of_last? hlast)
      refine ⟨a, hvalid, fun w hw => ?_, fun hnone => by simp [hlast] at hnone⟩
      rw [hlast] at hw
      rwa [← Option.some.inj hw]

/-- The last value takes the place of all before it, which still have to be valid. -/
theorem under_concat_self {v : Json} :
    Under key Spelled default (members ++ [(key, v)]) a ↔
      (∃ b, Under key Spelled default members b) ∧ Spelled v a := by
  rw [exists_under_iff]
  constructor
  · intro h
    exact ⟨fun w hw => h.valid w (List.mem_append_left _ hw),
      h.last v (last?_concat_self key v members)⟩
  · rintro ⟨hvalid, hv⟩
    refine ⟨fun w hw => ?_, fun w hw => ?_, fun hnone => ?_⟩
    · rcases List.mem_append.1 hw with hw | hw
      · exact hvalid w hw
      · obtain ⟨-, rfl⟩ := Prod.mk.inj (List.mem_singleton.1 hw)
        exact ⟨a, hv⟩
    · rw [last?_concat_self] at hw
      rwa [← Option.some.inj hw]
    · rw [last?_concat_self] at hnone
      cases hnone

/-- A value under another key changes nothing. -/
theorem under_concat_of_ne {k : String} (hkey : k ≠ key) {v : Json} :
    Under key Spelled default (members ++ [(k, v)]) a ↔ Under key Spelled default members a := by
  have hlast := last?_concat_of_ne hkey v members
  have hmem : ∀ w, (key, w) ∈ members ++ [(k, v)] ↔ (key, w) ∈ members := by
    intro w
    simp [hkey.symm]
  constructor
  · intro h
    exact ⟨fun w hw => h.valid w ((hmem w).2 hw), fun w hw => h.last w (hlast.trans hw),
      fun hnone => h.absent (hlast.trans hnone)⟩
  · intro h
    exact ⟨fun w hw => h.valid w ((hmem w).1 hw), fun w hw => h.last w (hlast.symm.trans hw),
      fun hnone => h.absent (hlast.symm.trans hnone)⟩

/-- If a value spells one thing only, so does a key. -/
theorem Under.unique (hunique : ∀ v a b, Spelled v a → Spelled v b → a = b)
    (ha : Under key Spelled default members a) (hb : Under key Spelled default members b) :
    a = b := by
  cases hlast : last? key members with
  | none => rw [ha.absent hlast, hb.absent hlast]
  | some v => exact hunique v a b (ha.last v hlast) (hb.last v hlast)

/-- Where each key stands once, the order of members does not matter. -/
theorem Under.of_perm {members' : List (String × Json)} (hperm : members.Perm members')
    (hnodup : (members.map Prod.fst).Nodup) (h : Under key Spelled default members a) :
    Under key Spelled default members' a := by
  have hlast := last?_eq_of_perm hperm hnodup key
  exact ⟨fun v hv => h.valid v (hperm.mem_iff.2 hv), fun v hv => h.last v (hlast.trans hv),
    fun hnone => h.absent (hlast.trans hnone)⟩

/-- Looking at what is spelled through a function. -/
theorem under_map_iff {β : Type} {f : α → β} {Spelled' : Json → β → Prop}
    (hspelled : ∀ v b, Spelled' v b ↔ ∃ a, Spelled v a ∧ f a = b) {b : β} :
    Under key Spelled' (f default) members b ↔
      ∃ a, Under key Spelled default members a ∧ f a = b := by
  have hvalid : (∀ v, (key, v) ∈ members → ∃ b, Spelled' v b) ↔
      ∀ v, (key, v) ∈ members → ∃ a, Spelled v a := by
    refine forall_congr' fun v => imp_congr_right fun _ => ?_
    constructor
    · rintro ⟨b, hb⟩
      obtain ⟨a, ha, -⟩ := (hspelled v b).1 hb
      exact ⟨a, ha⟩
    · rintro ⟨a, ha⟩
      exact ⟨f a, (hspelled v _).2 ⟨a, ha, rfl⟩⟩
  constructor
  · intro h
    cases hlast : last? key members with
    | none =>
      exact ⟨default, ⟨hvalid.1 h.valid, fun v hv => by simp [hlast] at hv, fun _ => rfl⟩,
        (h.absent hlast).symm⟩
    | some v =>
      obtain ⟨a, ha, hfa⟩ := (hspelled v b).1 (h.last v hlast)
      refine ⟨a, ⟨hvalid.1 h.valid, fun w hw => ?_, fun hnone => by simp [hlast] at hnone⟩, hfa⟩
      rw [hlast] at hw
      rwa [← Option.some.inj hw]
  · rintro ⟨a, h, rfl⟩
    exact ⟨hvalid.2 h.valid, fun v hv => (hspelled v _).2 ⟨a, h.last v hv, rfl⟩,
      fun hnone => by rw [h.absent hnone]⟩

end Under

/-! ### Known keys -/

/-- Every member has one of the given keys. -/
def Known (keys : List String) (members : List (String × Json)) : Prop :=
  ∀ m ∈ members, m.1 ∈ keys

/-- No members have no unknown keys. -/
theorem known_nil (keys : List String) : Known keys [] := fun _ hm => (nomatch hm)

/-- One more member has a known key. -/
theorem known_concat {keys : List String} {members : List (String × Json)} {k : String} {v : Json} :
    Known keys (members ++ [(k, v)]) ↔ Known keys members ∧ k ∈ keys := by
  constructor
  · intro h
    exact ⟨fun m hm => h m (List.mem_append_left _ hm), h (k, v) (by simp)⟩
  · rintro ⟨hmembers, hk⟩ m hm
    rcases List.mem_append.1 hm with hm | hm
    · exact hmembers m hm
    · rw [List.mem_singleton.1 hm]
      exact hk

/-! ### Making an object -/

/-- A member with a new key is added. -/
theorem insertMember_perm {key : String} {v : Json} {members : List (String × Json)}
    (hnew : key ∉ members.map Prod.fst) :
    (insertMember key v members).Perm ((key, v) :: members) := by
  induction members with
  | nil => exact .refl _
  | cons m rest ih =>
    obtain ⟨k, w⟩ := m
    rw [List.map_cons, List.mem_cons, not_or] at hnew
    rw [insertMember, if_neg hnew.1]
    split_ifs
    · exact .refl _
    · exact ((ih hnew.2).cons _).trans (.swap ..)

/-- The object of members with distinct keys holds these members. -/
theorem exists_object_eq {members : List (String × Json)} (hnodup : (members.map Prod.fst).Nodup) :
    ∃ placed, object members = .obj placed ∧ placed.Perm members := by
  refine ⟨_, rfl, ?_⟩
  induction members using List.reverseRecOn with
  | nil => exact .refl _
  | append_singleton members m ih =>
    obtain ⟨k, v⟩ := m
    rw [List.map_append, List.nodup_append] at hnodup
    obtain ⟨hfront, -, hapart⟩ := hnodup
    have hplaced := ih hfront
    rw [List.foldl_append, List.foldl_cons, List.foldl_nil]
    have hnew := fun hmem => hapart k ((hplaced.map Prod.fst).mem_iff.1 hmem) k (by simp) rfl
    exact (insertMember_perm hnew).trans
      ((hplaced.cons _).trans (List.perm_append_singleton ..).symm)

/-! ### Reading member by member -/

section Loop

variable {σ : Type} {init : σ} (Holds : List (String × Json) → σ → Prop)

/-- A loop over members gives a result if and only if a relation holds that begins
with the initial state and goes on with the steps. -/
theorem foldlM_eq_pure_iff {m : Type → Type} [Monad m] [LawfulMonad m]
    (hpure : ∀ s t : σ, (pure s : m σ) = pure t → s = t)
    (hbind : ∀ (x : m σ) (f : σ → m σ) s, x >>= f = pure s ↔ ∃ t, x = pure t ∧ f t = pure s)
    {step : σ → String × Json → m σ} (hnil : ∀ s, Holds [] s ↔ s = init)
    (hconcat : ∀ members member s,
      Holds (members ++ [member]) s ↔ ∃ t, Holds members t ∧ step t member = pure s)
    (members : List (String × Json)) (s : σ) :
    members.foldlM step init = pure s ↔ Holds members s := by
  induction members using List.reverseRecOn generalizing s with
  | nil =>
    rw [List.foldlM_nil, hnil]
    exact ⟨fun h => (hpure _ _ h).symm, fun h => by rw [h]⟩
  | append_singleton members member ih =>
    rw [List.foldlM_append, hbind, hconcat]
    simp only [ih, List.foldlM_cons, List.foldlM_nil, bind_pure]

/-- The loop for readers that say nothing about what is wrong. -/
theorem foldlM_eq_some_iff {step : σ → String × Json → Option σ}
    (hnil : ∀ s, Holds [] s ↔ s = init)
    (hconcat : ∀ members member s,
      Holds (members ++ [member]) s ↔ ∃ t, Holds members t ∧ step t member = some s)
    (members : List (String × Json)) (s : σ) :
    members.foldlM step init = some s ↔ Holds members s :=
  foldlM_eq_pure_iff Holds (fun _ _ => Option.some.inj) (fun _ _ _ => Option.bind_eq_some_iff)
    hnil hconcat members s

/-- The loop for readers that give an error. -/
theorem foldlM_eq_ok_iff {ε : Type} {step : σ → String × Json → Except ε σ}
    (hnil : ∀ s, Holds [] s ↔ s = init)
    (hconcat : ∀ members member s,
      Holds (members ++ [member]) s ↔ ∃ t, Holds members t ∧ step t member = .ok s)
    (members : List (String × Json)) (s : σ) :
    members.foldlM step init = .ok s ↔ Holds members s :=
  foldlM_eq_pure_iff Holds (fun _ _ => Except.ok.inj) (fun _ _ _ => bind_eq_ok_iff) hnil hconcat
    members s

end Loop

end Json
end YamlStyle
