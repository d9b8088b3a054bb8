/-
# Tables of options

A table says what the fields of a record of options are called, what they hold and
where, in the order of their declaration (`Table`).  A value gives members: an object
by name, an array by place, null none (`Table.Gives`).  If every member fits its field,
the record has in every field what is given for it, or else its default
(`Table.Spelled`).

A schema whose fields are those of a table reads exactly these values
(`Schema.Reads.resolve_eq_ok_iff`).  Setting one field leaves the others as they are,
so the members before one that is added spell a record too (`Table.spelled_concat`),
and that carries the loop.  What is wrong with a member depends on the member alone
(`Schema.Reads.putMember_eq_error_iff`), so the first one that does not fit decides,
which is the least where keys ascend (`Schema.Reads.foldlM_eq_error_iff_least`), and
in an object they do (`Json.pairwise_of_object_eq`).
-/

import Mathlib.Data.List.Nodup
import YamlStyle.Proofs.ByteOrder
import YamlStyle.Proofs.FieldGrammar

namespace YamlStyle

/-! ### Tables -/

/-- A field of a record of options: what it is called, what it holds, and where. -/
structure Entry (ρ : Type) where
  name : String
  type : FieldType
  value : ρ → type.Value
  set : ρ → type.Value → ρ
  value_set : ∀ r x, value (set r x) = x := by intros; rfl

/-- The field as it is read and written. -/
def Entry.field [Pattern.Engine] {ρ : Type} (e : Entry ρ) : Field ρ :=
  .of e.name e.type.codec e.value e.set

/-- The fields of a record in the order of their declaration.  They are named apart,
they do not share anything, and together they make up the record. -/
structure Table (ρ : Type) where
  entries : List (Entry ρ)
  nodup : (entries.map (·.name)).Nodup
  apart : ∀ e ∈ entries, ∀ f ∈ entries, f.name ≠ e.name → ∀ r x, f.value (e.set r x) = f.value r
  ext : ∀ r r', (∀ e ∈ entries, e.value r = e.value r') → r = r'

namespace Table

variable {ρ : Type}

/-- The names of the fields, in the order of their declaration. -/
def names (t : Table ρ) : List String := t.entries.map (·.name)

/-- The members that a value gives.  An object has them itself, an array gives the
fields their values in the order of declaration, and null gives none. -/
inductive Gives (t : Table ρ) : Json → List (String × Json) → Prop
  | null : Gives t .null []
  | object (members : List (String × Json)) : Gives t (.obj members) members
  | array (items : List Json) (h : items.length ≤ t.names.length) :
      Gives t (.arr items) (t.names.zip items)

/-- A member has the name of a field and a value for it. -/
def Fits [Pattern.Engine] (t : Table ρ) (m : String × Json) : Prop :=
  ∃ e ∈ t.entries, e.name = m.1 ∧ ∃ x, e.type.Spelled m.2 x

/-- What is wrong with a member. -/
inductive Misfit [Pattern.Engine] (t : Table ρ) (m : String × Json) : DecodeError → Prop
  /-- There is no field of this name. -/
  | undeclared (h : m.1 ∉ t.names) : Misfit t m (.unknownField m.1 t.names)
  /-- There is one, and the value is not for it. -/
  | illTyped {e : Entry ρ} {cause : DecodeError} (he : e ∈ t.entries) (hname : e.name = m.1)
      (h : e.type.codec.decode m.2 = .error cause) : Misfit t m cause

/-- What members spell as a record: every field has the value given for it, and its
default where none is given. -/
structure Spelled [Pattern.Engine] (t : Table ρ) (default : ρ) (members : List (String × Json))
    (r : ρ) : Prop where
  known : Json.Known t.names members
  fields : ∀ e ∈ t.entries,
    Json.Under e.name e.type.Spelled (e.value default) members (e.value r)

section

variable {t : Table ρ} {e f : Entry ρ} {default r : ρ} {members : List (String × Json)}
  {m : String × Json} {cause : DecodeError}

/-- A table has one field of a name. -/
theorem eq_of_name_eq (he : e ∈ t.entries) (hf : f ∈ t.entries) (h : f.name = e.name) : f = e :=
  List.inj_on_of_nodup_map t.nodup hf he h

variable [Pattern.Engine]

/-- Something is wrong with the members that do not fit, and with no others. -/
theorem not_fits_iff : ¬ t.Fits m ↔ ∃ cause, t.Misfit m cause := by
  constructor
  · intro hm
    by_cases hname : m.1 ∈ t.names
    · obtain ⟨e, he, hname⟩ := List.mem_map.1 hname
      cases hdecode : e.type.codec.decode m.2 with
      | ok x => exact absurd ⟨e, he, hname, x, (e.type.decode_eq_ok_iff).1 hdecode⟩ hm
      | error cause => exact ⟨cause, .illTyped he hname hdecode⟩
    · exact ⟨_, .undeclared hname⟩
  · rintro ⟨cause, hm⟩ ⟨e, he, hname, x, hx⟩
    cases hm with
    | undeclared h => exact h (List.mem_map.2 ⟨e, he, hname⟩)
    | illTyped hf hname' h =>
      obtain rfl := eq_of_name_eq he hf (hname'.trans hname.symm)
      rw [FieldType.decode_eq_ok_iff _ |>.2 hx] at h
      cases h

/-- No members spell the defaults. -/
theorem spelled_nil : t.Spelled default [] r ↔ r = default := by
  constructor
  · intro h
    exact t.ext r default fun e he => Json.under_nil.1 (h.fields e he)
  · rintro rfl
    exact ⟨Json.known_nil _, fun e _ => Json.under_nil.2 rfl⟩

/-- One more member sets its field. -/
theorem spelled_concat {k : String} {v : Json} :
    t.Spelled default (members ++ [(k, v)]) r ↔
      ∃ e ∈ t.entries, e.name = k ∧ ∃ q x, t.Spelled default members q ∧ e.type.Spelled v x ∧
        r = e.set q x := by
  constructor
  · rintro ⟨hknown, hfields⟩
    obtain ⟨hfront, hk⟩ := Json.known_concat.1 hknown
    obtain ⟨e, he, rfl⟩ := List.mem_map.1 hk
    obtain ⟨⟨b, hb⟩, hv⟩ := Json.under_concat_self.1 (hfields e he)
    -- the record before has the value of the members before in this field
    refine ⟨e, he, rfl, e.set r b, e.value r, ⟨hfront, fun f hf => ?_⟩, hv, ?_⟩
    · by_cases hname : f.name = e.name
      · obtain rfl := eq_of_name_eq he hf hname
        rwa [f.value_set]
      · rw [t.apart e he f hf hname]
        exact (Json.under_concat_of_ne (Ne.symm hname)).1 (hfields f hf)
    · refine t.ext _ _ fun f hf => ?_
      by_cases hname : f.name = e.name
      · obtain rfl := eq_of_name_eq he hf hname
        rw [f.value_set]
      · rw [t.apart e he f hf hname, t.apart e he f hf hname]
  · rintro ⟨e, he, rfl, q, x, hq, hx, rfl⟩
    refine ⟨Json.known_concat.2 ⟨hq.known, List.mem_map_of_mem he⟩, fun f hf => ?_⟩
    by_cases hname : f.name = e.name
    · obtain rfl := eq_of_name_eq he hf hname
      rw [f.value_set]
      exact Json.under_concat_self.2 ⟨⟨_, hq.fields f hf⟩, hx⟩
    · rw [t.apart e he f hf hname]
      exact (Json.under_concat_of_ne (Ne.symm hname)).2 (hq.fields f hf)

/-- Where each key stands once, the order of members does not matter. -/
theorem Spelled.of_perm {members' : List (String × Json)} (hperm : members.Perm members')
    (hnodup : (members.map Prod.fst).Nodup) (h : t.Spelled default members r) :
    t.Spelled default members' r :=
  ⟨fun m hm => h.known m (hperm.mem_iff.2 hm), fun e he => (h.fields e he).of_perm hperm hnodup⟩

end

end Table

/-! ### Objects in order -/

namespace Json

/-- Putting a member in brings nothing else. -/
theorem mem_insertMember {key : String} {v : Json} {members : List (String × Json)}
    {m : String × Json} (h : m ∈ insertMember key v members) : m = (key, v) ∨ m ∈ members := by
  induction members with
  | nil => exact Or.inl (List.mem_singleton.1 h)
  | cons first rest ih =>
    obtain ⟨k, w⟩ := first
    rw [insertMember] at h
    split_ifs at h with hkey hlt
    · rcases List.mem_cons.1 h with h | h
      · exact Or.inl h
      · exact Or.inr (List.mem_cons_of_mem _ h)
    · exact List.mem_cons.1 h
    · rcases List.mem_cons.1 h with h | h
      · exact Or.inr (h ▸ List.mem_cons_self ..)
      · exact (ih h).imp_right (List.mem_cons_of_mem _)

/-- Putting a member in keeps the keys ascending. -/
theorem pairwise_insertMember {members : List (String × Json)}
    (h : members.Pairwise fun m n => m.1 < n.1) (key : String) (v : Json) :
    (insertMember key v members).Pairwise fun m n => m.1 < n.1 := by
  induction members with
  | nil => exact List.pairwise_singleton _ _
  | cons first rest ih =>
    obtain ⟨k, w⟩ := first
    obtain ⟨hfirst, hrest⟩ := List.pairwise_cons.1 h
    rw [insertMember]
    split_ifs with hkey hlt
    · rw [hkey]
      exact List.pairwise_cons.2 ⟨hfirst, hrest⟩
    · rw [Text.precedes_iff_lt] at hlt
      refine List.pairwise_cons.2 ⟨fun m hm => ?_, h⟩
      rcases List.mem_cons.1 hm with rfl | hm
      · exact hlt
      · exact hlt.trans (hfirst m hm)
    · rw [Text.precedes_iff_lt] at hlt
      refine List.pairwise_cons.2 ⟨fun m hm => ?_, ih hrest⟩
      rcases mem_insertMember hm with rfl | hm
      · exact lt_of_le_of_ne (not_lt.1 hlt) (Ne.symm hkey)
      · exact hfirst m hm

/-- The members of an object ascend by their keys. -/
theorem pairwise_of_object_eq {members placed : List (String × Json)}
    (h : object members = .obj placed) : placed.Pairwise fun m n => m.1 < n.1 := by
  obtain rfl := Json.obj.inj h
  induction members using List.reverseRecOn with
  | nil => exact .nil
  | append_singleton members m ih =>
    rw [List.foldl_append]
    exact pairwise_insertMember (ih rfl) m.1 m.2

end Json

/-! ### Reading members -/

namespace Schema

/-- A schema reads the fields of a table. -/
def Reads [Pattern.Engine] {ρ : Type} (s : Schema ρ) (t : Table ρ) : Prop :=
  s.fields = t.entries.map Entry.field

section

variable [Pattern.Engine] {ρ : Type} {s : Schema ρ} {t : Table ρ} {r q : ρ}
  {members : List (String × Json)} {m : String × Json} {cause : DecodeError}

/-- The fields of the schema have the names of the table. -/
theorem Reads.names_eq (h : s.Reads t) : s.names = t.names := by
  rw [names, h, List.map_map]
  rfl

/-- A member with the name of a field is read as the field is. -/
theorem Reads.putMember_of_mem (h : s.Reads t) {e : Entry ρ} (he : e ∈ t.entries) (v : Json) :
    s.putMember q (e.name, v) = (e.type.codec.decode v).map (e.set q) := by
  have hfind : t.entries.find? (·.name == e.name) = some e := by
    cases hfind : t.entries.find? (·.name == e.name) with
    | none => exact absurd (beq_self_eq_true e.name) (List.find?_eq_none.1 hfind e he)
    | some f =>
      have hname : f.name = e.name := by simpa using List.find?_some hfind
      rw [Table.eq_of_name_eq he (List.mem_of_find?_eq_some hfind) hname]
  have hfield : s.fields.find? (·.name == e.name) = some e.field := by
    rw [h, List.find?_map]
    exact congrArg (Option.map Entry.field) hfind
  rw [putMember, hfield]
  rfl

/-- A member with no name of a field is refused. -/
theorem Reads.putMember_of_not_mem (h : s.Reads t) {key : String} (hkey : key ∉ t.names)
    (v : Json) : s.putMember q (key, v) = .error (.unknownField key t.names) := by
  have hfield : s.fields.find? (·.name == key) = none := by
    refine List.find?_eq_none.2 fun field hfield hname => hkey ?_
    rw [← h.names_eq]
    exact List.mem_map.2 ⟨field, hfield, by simpa using hname⟩
  rw [putMember, hfield, h.names_eq]

/-- A member that fits sets its field. -/
theorem Reads.putMember_eq_ok_iff (h : s.Reads t) :
    s.putMember q m = .ok r ↔
      ∃ e ∈ t.entries, e.name = m.1 ∧ ∃ x, e.type.Spelled m.2 x ∧ r = e.set q x := by
  obtain ⟨key, v⟩ := m
  constructor
  · intro hok
    by_cases hkey : key ∈ t.names
    · obtain ⟨e, he, rfl⟩ := List.mem_map.1 hkey
      rw [h.putMember_of_mem he] at hok
      cases hdecode : e.type.codec.decode v with
      | error cause =>
        rw [hdecode] at hok
        cases hok
      | ok x =>
        rw [hdecode] at hok
        exact ⟨e, he, rfl, x, e.type.decode_eq_ok_iff.1 hdecode, (Except.ok.inj hok).symm⟩
    · rw [h.putMember_of_not_mem hkey] at hok
      cases hok
  · rintro ⟨e, he, rfl, x, hx, rfl⟩
    rw [h.putMember_of_mem he, e.type.decode_eq_ok_iff.2 hx]
    rfl

/-- What is wrong with a member does not depend on the record. -/
theorem Reads.putMember_eq_error_iff (h : s.Reads t) :
    s.putMember q m = .error cause ↔ t.Misfit m cause := by
  obtain ⟨key, v⟩ := m
  constructor
  · intro herror
    by_cases hkey : key ∈ t.names
    · obtain ⟨e, he, rfl⟩ := List.mem_map.1 hkey
      rw [h.putMember_of_mem he] at herror
      cases hdecode : e.type.codec.decode v with
      | error cause' =>
        rw [hdecode] at herror
        obtain rfl := Except.error.inj herror
        exact .illTyped he rfl hdecode
      | ok x =>
        rw [hdecode] at herror
        cases herror
    · rw [h.putMember_of_not_mem hkey] at herror
      obtain rfl := Except.error.inj herror
      exact .undeclared hkey
  · intro hm
    cases hm with
    | undeclared hkey => exact h.putMember_of_not_mem hkey v
    | illTyped he hname hdecode =>
      obtain rfl := hname
      rw [h.putMember_of_mem he, hdecode]
      rfl

/-- Reading members gives the record that they spell. -/
theorem Reads.foldlM_eq_ok_iff (h : s.Reads t) :
    members.foldlM s.putMember s.default = .ok r ↔ t.Spelled s.default members r := by
  refine Json.foldlM_eq_ok_iff (t.Spelled s.default) (fun r => Table.spelled_nil) ?_ members r
  rintro front ⟨k, v⟩ r
  rw [Table.spelled_concat]
  simp only [h.putMember_eq_ok_iff]
  constructor
  · rintro ⟨e, he, hname, q, x, hq, hx, hr⟩
    exact ⟨q, hq, e, he, hname, x, hx, hr⟩
  · rintro ⟨q, hq, e, he, hname, x, hx, hr⟩
    exact ⟨e, he, hname, q, x, hq, hx, hr⟩

/-- Members can be read if all of them fit, whatever the record. -/
theorem Reads.exists_foldlM_iff (h : s.Reads t) :
    (∃ r, members.foldlM s.putMember q = .ok r) ↔ ∀ m ∈ members, t.Fits m := by
  induction members generalizing q with
  | nil => exact ⟨fun _ _ hm => (nomatch hm), fun _ => ⟨q, rfl⟩⟩
  | cons m rest ih =>
    simp only [List.foldlM_cons, bind_eq_ok_iff, List.forall_mem_cons]
    constructor
    · rintro ⟨r, p, hput, hrest⟩
      obtain ⟨e, he, hname, x, hx, -⟩ := h.putMember_eq_ok_iff.1 hput
      exact ⟨⟨e, he, hname, x, hx⟩, ih.1 ⟨r, hrest⟩⟩
    · rintro ⟨⟨e, he, hname, x, hx⟩, hrest⟩
      obtain ⟨r, hr⟩ := (ih (q := e.set q x)).2 hrest
      exact ⟨r, e.set q x, h.putMember_eq_ok_iff.2 ⟨e, he, hname, x, hx, rfl⟩, hr⟩

/-- Members spell some record if all of them fit. -/
theorem Reads.exists_spelled_iff (h : s.Reads t) :
    (∃ r, t.Spelled s.default members r) ↔ ∀ m ∈ members, t.Fits m := by
  simp only [← h.foldlM_eq_ok_iff]
  exact h.exists_foldlM_iff

/-- Members are read up to the first that does not fit. -/
theorem Reads.foldlM_eq_error_iff (h : s.Reads t) :
    members.foldlM s.putMember q = .error cause ↔
      ∃ front m back, members = front ++ m :: back ∧ (∀ f ∈ front, t.Fits f) ∧
        t.Misfit m cause := by
  rw [YamlStyle.foldlM_eq_error_iff]
  constructor
  · rintro ⟨front, m, back, p, hsplit, hp, hm⟩
    exact ⟨front, m, back, hsplit, h.exists_foldlM_iff.1 ⟨p, hp⟩, h.putMember_eq_error_iff.1 hm⟩
  · rintro ⟨front, m, back, hsplit, hfits, hm⟩
    obtain ⟨p, hp⟩ := (h.exists_foldlM_iff (q := q)).2 hfits
    exact ⟨front, m, back, p, hsplit, hp, h.putMember_eq_error_iff.2 hm⟩

/-- If members ascend by their keys, the least that does not fit is reported. -/
theorem Reads.foldlM_eq_error_iff_least (h : s.Reads t)
    (hasc : members.Pairwise fun m n => m.1 < n.1) :
    members.foldlM s.putMember q = .error cause ↔
      ∃ m ∈ members, t.Misfit m cause ∧ ∀ n ∈ members, n.1 < m.1 → t.Fits n := by
  rw [h.foldlM_eq_error_iff]
  constructor
  · rintro ⟨front, m, back, rfl, hfits, hm⟩
    obtain ⟨-, hback, -⟩ := List.pairwise_append.1 hasc
    refine ⟨m, by simp, hm, fun n hn hlt => ?_⟩
    rcases List.mem_append.1 hn with hn | hn
    · exact hfits n hn
    · rcases List.mem_cons.1 hn with rfl | hn
      · exact absurd hlt (lt_irrefl _)
      · exact absurd hlt (lt_asymm (List.rel_of_pairwise_cons hback hn))
  · rintro ⟨m, hmem, hm, hfits⟩
    obtain ⟨front, back, rfl⟩ := List.append_of_mem hmem
    refine ⟨front, m, back, rfl, fun f hf => hfits f (List.mem_append_left _ hf) ?_, hm⟩
    exact (List.pairwise_append.1 hasc).2.2 f hf m (List.mem_cons_self ..)

/-! ### Reading options -/

/-- Items are read as members with the names of the fields. -/
theorem Reads.putItems_eq (h : s.Reads t) {entries : List (Entry ρ)}
    (hentries : ∀ e ∈ entries, e ∈ t.entries) (items : List Json) (q : ρ) :
    putItems (entries.map Entry.field) items q =
      ((entries.map (·.name)).zip items).foldlM s.putMember q := by
  induction entries generalizing items q with
  | nil => rfl
  | cons e entries ih =>
    cases items with
    | nil => rfl
    | cons item items =>
      obtain ⟨he, hrest⟩ := List.forall_mem_cons.1 hentries
      have hput : e.field.put item q = s.putMember q (e.name, item) :=
        (h.putMember_of_mem he item).symm
      rw [List.map_cons, List.map_cons, List.zip_cons_cons, List.foldlM_cons, putItems, hput]
      exact bind_congr fun r => ih hrest items r

/-- **Options are read as their table says.** -/
theorem Reads.resolve_eq_ok_iff (h : s.Reads t) {v : Json} :
    s.resolve (some v) = .ok r ↔ ∃ members, t.Gives v members ∧ t.Spelled s.default members r := by
  cases v with
  | null =>
    constructor
    · intro hok
      obtain rfl := Except.ok.inj hok
      exact ⟨[], .null, Table.spelled_nil.2 rfl⟩
    · rintro ⟨members, hgives, hr⟩
      cases hgives
      rw [Table.spelled_nil.1 hr]
      rfl
  | obj members =>
    refine h.foldlM_eq_ok_iff.trans ⟨fun hr => ⟨members, .object members, hr⟩, ?_⟩
    rintro ⟨members', hgives, hr⟩
    cases hgives
    exact hr
  | arr items =>
    have hlength : s.fields.length = t.names.length := by
      rw [h, List.length_map, Table.names, List.length_map]
    have hitems : putItems s.fields items s.default =
        (t.names.zip items).foldlM s.putMember s.default := by
      rw [h]
      exact h.putItems_eq (fun _ he => he) items s.default
    have hresolve : s.resolve (some (.arr items)) = .ok r ↔
        ∃ q, (t.names.zip items).foldlM s.putMember s.default = .ok q ∧
          (if items.length ≤ t.names.length then .ok q
            else .error (DecodeError.wrongLength items.length .fewer)) = Except.ok r := by
      rw [← hitems, ← hlength]
      exact bind_eq_ok_iff
    rw [hresolve]
    constructor
    · rintro ⟨q, hq, hr⟩
      split_ifs at hr with hle
      obtain rfl := Except.ok.inj hr
      exact ⟨_, .array items hle, h.foldlM_eq_ok_iff.1 hq⟩
    · rintro ⟨members, hgives, hr⟩
      cases hgives with
      | array _ hle => exact ⟨r, h.foldlM_eq_ok_iff.2 hr, if_pos hle⟩
  | bool | int | float | str =>
    exact ⟨fun hok => (nomatch hok), fun ⟨_, hgives, _⟩ => (nomatch hgives)⟩

/-- Values are accepted if all members that they give fit. -/
theorem Reads.exists_resolve_iff (h : s.Reads t) {v : Json} :
    (∃ r, s.resolve (some v) = .ok r) ↔
      ∃ members, t.Gives v members ∧ ∀ m ∈ members, t.Fits m := by
  simp only [h.resolve_eq_ok_iff, ← h.exists_spelled_iff]
  constructor
  · rintro ⟨r, members, hgives, hr⟩
    exact ⟨members, hgives, r, hr⟩
  · rintro ⟨members, hgives, r, hr⟩
    exact ⟨r, members, hgives, hr⟩

/-- An array and the object of the same fields are accepted together, and mean the
same. -/
theorem Reads.resolve_array_iff_object (h : s.Reads t) {items : List Json}
    (hlength : items.length ≤ t.names.length) :
    s.resolve (some (.arr items)) = .ok r ↔
      s.resolve (some (.object (t.names.zip items))) = .ok r := by
  have hnodup : ((t.names.zip items).map Prod.fst).Nodup := by
    rw [List.zip_eq_zip_take_min, List.map_fst_zip (by simp)]
    exact t.nodup.sublist (List.take_sublist ..)
  obtain ⟨placed, hobject, hperm⟩ := Json.exists_object_eq hnodup
  have hplaced : (placed.map Prod.fst).Nodup := (hperm.map Prod.fst).nodup_iff.2 hnodup
  rw [hobject, h.resolve_eq_ok_iff, h.resolve_eq_ok_iff]
  constructor
  · rintro ⟨members, hgives, hr⟩
    cases hgives
    exact ⟨placed, .object placed, hr.of_perm hperm.symm hnodup⟩
  · rintro ⟨members, hgives, hr⟩
    cases hgives
    exact ⟨_, .array items hlength, hr.of_perm hperm hplaced⟩

end

end Schema
end YamlStyle
