import Transcoding.Json.Reader

/-!
# Records

A record is written as an object of its fields, or as an array of their values in the order of the
declaration. `Tree.record?` finds the value of each declared field; what a missing one means is
for the reader of that record to say.
-/

namespace Transcoding.Json.Tree

/-- The value of a key. Inner `none` means that no field has the key; a key that is written twice
has no value. -/
def unique? (key : String) (fields : List (Option String × Tree)) : Option (Option Tree) :=
  match fields.filter (·.1 == some key) with
  | [] => some none
  | [(_, value)] => some (some value)
  | _ => none

/-- Whether the keys of an object suit a record: each has a text and, in a closed record, is the
name of a field. -/
def keysSuit (closed : Bool) (names : List String) (fields : List (Option String × Tree)) : Bool :=
  fields.all fun (key, _) =>
    match key with
    | none => false
    | some key => !closed || names.contains key

/-- The values of the declared fields, in the order of the declaration. -/
def record? (closed : Bool) (names : List String) : Tree → Option (List (Option Tree))
  | .object fields =>
    if keysSuit closed names fields then names.mapM fun name => unique? name fields else none
  | .array items =>
    if items.length ≤ names.length then
      some (items.map some ++ List.replicate (names.length - items.length) none)
    else none
  | _ => none

/-- The text of a string. -/
def text? : Tree → Option String
  | .string text => text
  | _ => none

/-- The text of a string, or null. -/
def textOrNull? : Tree → Option (Option String)
  | .null => some none
  | .string text => text.map some
  | _ => none

/-- The truth value of a literal. -/
def bool? : Tree → Option Bool
  | .bool value => some value
  | _ => none

/-- The natural number of an integer. -/
def natural? : Tree → Option Nat
  | .number (some (.integer value)) => value.toNat?
  | _ => none

/-- The name of a case without content: a string, or an object that maps the name to null. -/
def caseName? : Tree → Option String
  | .string text => text
  | .object [(key, .null)] => key
  | _ => none

/-- The items of an array, each read in the same way. -/
def list? {α : Type} (read : Tree → Option α) : Tree → Option (List α)
  | .array items => items.mapM read
  | _ => none

/-- The value that is read for a field, or the given one if the field is left out. -/
def readOr {α : Type} (read : Tree → Option α) (default : α) : Option Tree → Option α
  | none => some default
  | some tree => read tree

mutual
/-- The tree of a value. -/
def ofValue : Json → Tree
  | .null => .null
  | .bool value => .bool value
  | .number value => .number (some value)
  | .string text => .string (some text)
  | .array items => .array (ofValues items)
  | .object fields => .object (ofFields fields)

/-- The trees of values. -/
def ofValues : List Json → List Tree
  | [] => []
  | item :: rest => ofValue item :: ofValues rest

/-- The trees of fields. -/
def ofFields : List (String × Json) → List (Option String × Tree)
  | [] => []
  | (key, value) :: rest => (some key, ofValue value) :: ofFields rest
end

end Transcoding.Json.Tree
