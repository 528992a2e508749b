import Transcoding.Number.Shortest

/-!
# JSON values

A value of the JSON data model. The fields of an object stand in a list: in a free value they are
in ascending order of their keys, each key once, which `insertField` keeps; in a record they stand
in the order of its declaration.
-/

namespace Transcoding.Json

open Transcoding.Number

/-- A JSON number: an integer of 64 bits, or a binary floating-point number. -/
inductive JsonNumber where
  | integer (value : Int)
  | double (negative : Bool) (magnitude : Magnitude)
  deriving DecidableEq

end Transcoding.Json

namespace Transcoding

/-- A JSON value. -/
inductive Json where
  | null
  | bool (value : Bool)
  | number (value : Json.JsonNumber)
  | string (text : String)
  | array (items : List Json)
  | object (fields : List (String × Json))

namespace Json

/-- The fields with the value of one key set; the other fields keep their order. -/
def insertField (key : String) (value : Json) : List (String × Json) → List (String × Json)
  | [] => [(key, value)]
  | (k, v) :: rest =>
    if key < k then (key, value) :: (k, v) :: rest
    else if key = k then (key, value) :: rest
    else (k, v) :: insertField key value rest

/-- The value of a key. -/
def field? (key : String) (fields : List (String × Json)) : Option Json := fields.lookup key

/-- The integer as a value. -/
def ofNat (n : Nat) : Json := .number (.integer n)

/-- The string, or null if there is none. -/
def ofOption : Option String → Json
  | none => .null
  | some s => .string s

end Json

end Transcoding
