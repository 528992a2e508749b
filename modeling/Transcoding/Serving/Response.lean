import Transcoding.Json.Record
import Transcoding.Json.Writer
import Transcoding.Serving.Payload

/-!
# Responses

The result of a method as an HTTP response. A value is written as JSON with status 200. A failure
is written as an error body: a record with a code and a message. Failures of the server itself use
the same form.
-/

namespace Transcoding

open Transcoding.Json

/-- An HTTP response. -/
structure Response where
  status : Nat
  contentType : Option String
  body : String
  deriving DecidableEq

/-- A response that carries a JSON value. -/
def Response.json (status : Nat) (value : Json) : Response :=
  { status, contentType := some "application/json", body := value.render }

/-- A response without content. -/
def Response.bare (status : Nat) : Response := { status, contentType := none, body := "" }

/-! ## Error bodies -/

/-- What an error response carries. -/
structure ErrorBody where
  code : String
  message : String
  deriving DecidableEq

/-- An error body as a record. -/
def ErrorBody.toJson (body : ErrorBody) : Json :=
  .object [("error", .object [("code", .string body.code), ("message", .string body.message)])]

/-- Reads an error body. -/
def ErrorBody.ofTree? (tree : Tree) : Option ErrorBody := do
  match ← tree.record? false ["error"] with
  | [some details] =>
    match ← details.record? false ["code", "message"] with
    | [some code, some message] => return { code := ← code.text?, message := ← message.text? }
    | _ => none
  | _ => none

/-- Reads an error body from JSON text. -/
def ErrorBody.ofText? (text : String) : Option ErrorBody := do
  ErrorBody.ofTree? (← (readTreeOf text).toOption)

/-- An error response. -/
def Response.error (status : Nat) (code message : String) : Response :=
  .json status ({ code, message } : ErrorBody).toJson

/-! ## Failures of a method -/

/-- The codes with which a method can fail. -/
inductive RpcCode where
  | ok
  | cancelled
  | unknown
  | invalidArgument
  | deadlineExceeded
  | notFound
  | alreadyExists
  | permissionDenied
  | resourceExhausted
  | failedPrecondition
  | aborted
  | outOfRange
  | unimplemented
  | internal
  | unavailable
  | dataLoss
  | unauthenticated
  deriving DecidableEq

namespace RpcCode

/-- All codes. -/
def all : List RpcCode :=
  [ok, cancelled, unknown, invalidArgument, deadlineExceeded, notFound, alreadyExists,
   permissionDenied, resourceExhausted, failedPrecondition, aborted, outOfRange, unimplemented,
   internal, unavailable, dataLoss, unauthenticated]

/-- The name of a code. -/
def name : RpcCode → String
  | ok => "OK"
  | cancelled => "CANCELLED"
  | unknown => "UNKNOWN"
  | invalidArgument => "INVALID_ARGUMENT"
  | deadlineExceeded => "DEADLINE_EXCEEDED"
  | notFound => "NOT_FOUND"
  | alreadyExists => "ALREADY_EXISTS"
  | permissionDenied => "PERMISSION_DENIED"
  | resourceExhausted => "RESOURCE_EXHAUSTED"
  | failedPrecondition => "FAILED_PRECONDITION"
  | aborted => "ABORTED"
  | outOfRange => "OUT_OF_RANGE"
  | unimplemented => "UNIMPLEMENTED"
  | internal => "INTERNAL"
  | unavailable => "UNAVAILABLE"
  | dataLoss => "DATA_LOSS"
  | unauthenticated => "UNAUTHENTICATED"

/-- The code with the given name. -/
def ofName? (s : String) : Option RpcCode := all.find? (·.name == s)

/-- The HTTP status that a code conventionally maps to. -/
def httpStatus : RpcCode → Nat
  | ok => 200
  | invalidArgument => 400
  | outOfRange => 400
  | unauthenticated => 401
  | permissionDenied => 403
  | notFound => 404
  | cancelled => 408
  | alreadyExists => 409
  | aborted => 409
  | failedPrecondition => 412
  | resourceExhausted => 429
  | unknown => 500
  | internal => 500
  | dataLoss => 500
  | unimplemented => 501
  | unavailable => 503
  | deadlineExceeded => 504

end RpcCode

/-- A failure with a code and a message. -/
structure RpcStatus where
  code : RpcCode
  message : String
  deriving DecidableEq

/-- A failure in words. -/
def RpcStatus.describe (status : RpcStatus) : String :=
  status.code.name ++ ": " ++ status.message

/-- The response to a failure, with a mapping from codes to HTTP statuses. -/
def RpcStatus.responseWith (map : RpcCode → Nat) (status : RpcStatus) : Response :=
  .error (map status.code) status.code.name status.message

/-- The response to a failure. -/
def RpcStatus.response (status : RpcStatus) : Response := status.responseWith RpcCode.httpStatus

/-! ## Results -/

/-- What a method answers. -/
inductive Reply where
  /-- A value. -/
  | value (value : Json)
  /-- A failure with a code and a message. -/
  | failure (status : RpcStatus)
  /-- A failure with an HTTP status only. -/
  | status (status : Nat)

/-- The response to what a method answers. -/
def Reply.response : Reply → Response
  | .value v => .json 200 v
  | .failure rpc => rpc.response
  | .status code => .bare code

/-- The response to a request that no route serves. -/
def Response.notFound (method path : String) : Response :=
  .error 404 RpcCode.notFound.name ("no route for " ++ method ++ " " ++ path)

/-- The response to a request that gives no input. -/
def PayloadError.response (error : PayloadError) : Response :=
  .error 400 RpcCode.invalidArgument.name error.message

/-- The response of a server with a template that cannot be read. -/
def TemplateError.response (error : TemplateError) : Response :=
  .error 500 RpcCode.internal.name ("invalid route table: " ++ error.message)

end Transcoding
