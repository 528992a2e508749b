import Transcoding.Model
import Transcoding.Json.Reader
import Transcoding.Template.Matching

/-!
# Payloads

The input of a method as a JSON value: the query parameters, the request body, or the request body
as one field, with the captures of the path set last, so that they win over fields of the same
name.
-/

namespace Transcoding

open Transcoding.Json Transcoding.Text

/-- Why a request gives no input. -/
inductive PayloadError where
  /-- The body is not JSON. -/
  | invalidBody (fault : Fault)
  /-- There are captures and no object to put them into. -/
  | bodyNotObject
  /-- The payload does not have the shape of the input message. -/
  | undecodable
  deriving DecidableEq

/-- What is wrong, in words. -/
def PayloadError.message : PayloadError → String
  | invalidBody _ => "request body is not valid JSON: " ++ complaint
  | bodyNotObject => "request body must be a JSON object when the path has parameters"
  | undecodable => "request does not match the input message: " ++ complaint

/-- The value of a query parameter after one more occurrence: a parameter that occurs once is a
string, one that occurs again is an array of its strings. -/
def addOccurrence (value : String) : Option Json → Json
  | none => .string value
  | some (.array values) => .array (values ++ [.string value])
  | some first => .array [first, .string value]

/-- The fields that query parameters stand for. -/
def queryFields (query : List (String × String)) : List (String × Json) :=
  query.foldl (fun fields (key, value) =>
    insertField key (addOccurrence value (field? key fields)) fields) []

/-- The fields with the captures set. -/
def setCaptures (captures : Captures) (fields : List (String × Json)) : List (String × Json) :=
  captures.foldl (fun fields (name, value) => insertField name (.string value) fields) fields

/-- An octet that a body may consist of and still count as empty: tab, line feed, form feed,
carriage return or space. -/
def isBlankOctet (octet : UInt8) : Bool :=
  octet = 0x09 || octet = 0x0A || octet = 0x0C || octet = 0x0D || octet = 0x20

/-- The value of a body, if the body is not empty. -/
def readBody (body : List UInt8) : Except PayloadError (Option Json) :=
  if body.all isBlankOctet then .ok none
  else match Json.read (decodeOctets body) with
    | .ok value => .ok (some value)
    | .error fault => .error (.invalidBody fault)

/-- The payload of a request. -/
def buildPayload (source : PayloadSource) (captures : Captures) (query : List (String × String))
    (body : List UInt8) : Except PayloadError Json :=
  match source with
  | .query => .ok (.object (setCaptures captures (queryFields query)))
  | .wholeBody => do
    match (← readBody body).getD (.object []) with
    | .object fields => .ok (.object (setCaptures captures fields))
    | other => if captures.isEmpty then .ok other else .error .bodyNotObject
  | .field name => do
    match ← readBody body with
    | some value => .ok (.object (setCaptures captures [(name, value)]))
    | none => .ok (.object (setCaptures captures []))

end Transcoding
