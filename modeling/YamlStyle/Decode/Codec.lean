/-
# Codecs

A codec reads a value of some type from JSON and writes it back.  These are the
codecs of the types that options are made of.
-/

import YamlStyle.Decode.Error
import YamlStyle.KeyPattern

namespace YamlStyle

/-- A way to read and write the values of a type. -/
structure Codec (α : Type) where
  decode : Json → Except DecodeError α
  encode : α → Json

namespace Codec

/-- Reads a text. -/
def readText : Json → Except DecodeError String
  | .str s => .ok s
  | v => .error (.wrongType v .text)

/-- Truth values. -/
def boolean : Codec Bool where
  decode
    | .bool b => .ok b
    | v => .error (.wrongType v .boolean)
  encode := .bool

/-- Signed integers of 64 bits. -/
def int64 : Codec Int64 where
  decode
    | .int n =>
      if -0x8000000000000000 ≤ n ∧ n < 0x8000000000000000 then .ok (Int64.ofInt n)
      else .error (.wrongValue (.int n) .signedInteger)
    | v => .error (.wrongType v .signedInteger)
  encode n := .int n.toInt

/-- Unsigned integers of 64 bits. -/
def uint64 : Codec UInt64 where
  decode
    | .int n =>
      if 0 ≤ n ∧ n < 0x10000000000000000 then .ok (UInt64.ofNat n.toNat)
      else .error (.wrongValue (.int n) .unsignedInteger)
    | v => .error (.wrongType v .unsignedInteger)
  encode n := .int n.toNat

/-- Lists of texts. -/
def readTexts : Json → Except DecodeError (List String)
  | .arr items => items.mapM readText
  | v => .error (.wrongType v .sequence)

/-- The pattern that the engine compiles a source to. -/
def readPattern [Pattern.Engine] (source : String) : Except DecodeError KeyPattern :=
  match Pattern.Engine.compile source with
  | .ok p => .ok p
  | .error cause => .error (.malformedPattern cause)

/-- Lists of patterns.  All sources have to be texts before one is compiled. -/
def patterns [Pattern.Engine] : Codec (List KeyPattern) where
  decode v := do (← readTexts v).mapM readPattern
  encode ps := .arr (ps.map fun p => .str p.source)

/-- One of several named values: its name, or an object with the name as its
only key and nothing under it. -/
def choice {α : Type} (options : List α) (name : α → String) : Codec α where
  decode v :=
    let pick (text : String) : Except DecodeError α :=
      match options.find? (name · == text) with
      | some a => .ok a
      | none => .error (.unknownChoice text (options.map name))
    match v with
    | .str s => pick s
    | .obj [(key, content)] => do
      let a ← pick key
      match content with
      | .null => .ok a
      | other => .error (.wrongType other .nothing)
    | .obj members => .error (.wrongValue (.obj members) .singleKey)
    | other => .error (.wrongType other .choice)
  encode a := .str (name a)

end Codec
end YamlStyle
