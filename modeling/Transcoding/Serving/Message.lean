import Transcoding.Json.Record

/-!
# Input messages

The shape of an input message, and the payloads that have it.
-/

namespace Transcoding

open Transcoding.Json

/-- The shape of a value. -/
inductive Shape where
  /-- Any value. -/
  | any
  /-- A string. -/
  | text
  /-- A string or null; it may also be left out. -/
  | optionalText
  /-- A record with the given fields. -/
  | message (fields : List (String × Shape))

/-- The value of a field that is left out. -/
def Shape.absent? : Shape → Option Json
  | .optionalText => some .null
  | _ => none

mutual
/-- The value of a payload in the given shape: the fields of a message in the order of their
declaration, all of them, and no others. -/
def Shape.decode? : Shape → Json → Option Json
  | .any, value => some value
  | .text, value => match value with
    | .string s => some (.string s)
    | _ => none
  | .optionalText, value => match value with
    | .null => some .null
    | .string s => some (.string s)
    | _ => none
  | .message fields, value =>
    match value with
    | .object given => (Shape.decodeFields? fields given).map .object
    | .array items => (Shape.decodeItems? fields items).map .object
    | _ => none

/-- The fields of a message, found by name. -/
def Shape.decodeFields? :
    List (String × Shape) → List (String × Json) → Option (List (String × Json))
  | [], _ => some []
  | (name, shape) :: rest, given => do
    let value ← match field? name given with
      | some value => shape.decode? value
      | none => shape.absent?
    let values ← Shape.decodeFields? rest given
    return (name, value) :: values

/-- The fields of a message, found by position. -/
def Shape.decodeItems? : List (String × Shape) → List Json → Option (List (String × Json))
  | [], [] => some []
  | [], _ :: _ => none
  | (name, shape) :: rest, items => do
    let value ← match items.head? with
      | some value => shape.decode? value
      | none => shape.absent?
    let values ← Shape.decodeItems? rest items.tail
    return (name, value) :: values
end

end Transcoding
