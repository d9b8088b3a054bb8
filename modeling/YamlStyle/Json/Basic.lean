/-
# JSON values

Configurations and options arrive as JSON values.  Integers that fit into 64
bits, signed or unsigned, are kept apart from all other numbers: `1` is an
integer and `1.0` is not.  The members of an object stand in ascending order of
their keys, each key once.
-/

import YamlStyle.Text.Order

namespace YamlStyle

/-- A JSON value. -/
inductive Json where
  | null
  | bool (b : Bool)
  | int (n : Int)
  | float (x : Float)
  | str (s : String)
  | arr (items : List Json)
  | obj (members : List (String × Json))

namespace Json

/-- Puts a member into its place; a member with the same key gives way. -/
def insertMember (key : String) (value : Json) : List (String × Json) → List (String × Json)
  | [] => [(key, value)]
  | (k, v) :: rest =>
    if key = k then (key, value) :: rest
    else if Text.precedes key.toList k.toList then (key, value) :: (k, v) :: rest
    else (k, v) :: insertMember key value rest

/-- An object of the given members in the order of their keys, where the last
of several with one key counts. -/
def object (members : List (String × Json)) : Json :=
  .obj (members.foldl (fun placed (k, v) => insertMember k v placed) [])

/-- The value of a member. -/
def member? (key : String) : Json → Option Json
  | obj members => members.lookup key
  | _ => none

end Json
end YamlStyle
