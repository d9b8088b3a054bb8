/-
# Schemas of options

The options of a rule are a record of named fields, each with a default.  They
can be given as an object, whose keys name the fields, or as an array, whose
items fill the fields in the order in which they are declared.  What is not
given keeps its default.  Members of an object are read in the order of their
keys, and the first thing that is wrong is reported.
-/

import YamlStyle.Decode.Codec

namespace YamlStyle

/-- A field of a record: its name, how a value for it is put into the record and
how the value in the record is written. -/
structure Field (ρ : Type) where
  name : String
  put : Json → ρ → Except DecodeError ρ
  get : ρ → Json

/-- A field from a codec for its values and access to the record. -/
def Field.of {ρ α : Type} (name : String) (codec : Codec α) (get : ρ → α)
    (set : ρ → α → ρ) : Field ρ where
  name := name
  put v r := do return set r (← codec.decode v)
  get r := codec.encode (get r)

/-- How a record of options is read and written. -/
structure Schema (ρ : Type) where
  /-- The name of the record in messages. -/
  record : String
  fields : List (Field ρ)
  default : ρ

namespace Schema

variable {ρ : Type}

/-- The names of the fields, in the order of their declaration. -/
def names (s : Schema ρ) : List String := s.fields.map (·.name)

/-- Puts the value of a member into the record. -/
def putMember (s : Schema ρ) (r : ρ) (member : String × Json) : Except DecodeError ρ :=
  match s.fields.find? (·.name == member.1) with
  | some field => field.put member.2 r
  | none => .error (.unknownField member.1 s.names)

/-- Puts items into fields, one after the other. -/
def putItems : List (Field ρ) → List Json → ρ → Except DecodeError ρ
  | field :: fields, item :: items, r => do putItems fields items (← field.put item r)
  | _, _, r => .ok r

/-- Reads a record. -/
def decode (s : Schema ρ) : Json → Except DecodeError ρ
  | .obj members => members.foldlM s.putMember s.default
  | .arr items => do
    let r ← putItems s.fields items s.default
    if items.length ≤ s.fields.length then .ok r
    else .error (.wrongLength items.length .fewer)
  | v => .error (.wrongType v (.options s.record))

/-- Reads the options of a configuration, where nothing and null both mean the
defaults. -/
def resolve (s : Schema ρ) : Option Json → Except DecodeError ρ
  | none | some .null => .ok s.default
  | some v => s.decode v

/-- Writes a record as an object. -/
def encode (s : Schema ρ) (r : ρ) : Json :=
  Json.object (s.fields.map fun field => (field.name, field.get r))

end Schema
end YamlStyle
