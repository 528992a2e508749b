import Transcoding.Proofs.Json.Written
import Transcoding.Serving.Response

/-!
# What a response carries

An error response is known by what a client sees of it (`Response.Reports`): the status, the content
type, the text of the body, and the code and the message that are read from that text. This fixes
the response (`Response.reports_iff`). The answer of a method is carried by a response in the same
sense (`Reply.CarriedBy`, `Reply.carriedBy_iff`).
-/

namespace Transcoding

open Transcoding.Json

/-! ## Errors -/

/-- The text of an error body, with the code and the message between quotes. -/
def errorText (code message : String) : List Char :=
  "\x7b\"error\":\x7b\"code\":".toList ++ quoted code ++ ",\"message\":".toList ++ quoted message
    ++ "\x7d\x7d".toList

/-- The response reports an error: it has this status, and its body is JSON text from which the code
and the message are read. -/
structure Response.Reports (response : Response) (status : Nat) (code message : String) :
    Prop where
  status_eq : response.status = status
  contentType_eq : response.contentType = some "application/json"
  body_eq : response.body.toList = errorText code message
  read_eq : ErrorBody.ofText? response.body = some { code, message }

/-- An error body is read back from its record: both fields are texts, and no other field is
asked for. -/
theorem ErrorBody.ofTree?_toJson (body : ErrorBody) :
    ofTree? (.ofValue body.toJson) = some body :=
  rfl

/-- An error body is read back from its text, whatever characters its code and its message have. -/
theorem ErrorBody.ofText?_render (body : ErrorBody) : ofText? body.toJson.render = some body := by
  have hexact : body.toJson.Exact := ⟨⟨trivial, trivial, trivial⟩, trivial⟩
  rw [ofText?, readTreeOf_render hexact]
  exact ofTree?_toJson body

/-- The text of an error body has no blanks, and its fields are in the order of the record. -/
theorem ErrorBody.toList_render (body : ErrorBody) :
    body.toJson.render.toList = errorText body.code body.message := by
  have hcode : quoted "code" = "\"code\"".toList := by decide
  have herror : quoted "error" = "\"error\"".toList := by decide
  have hmessage : quoted "message" = "\"message\"".toList := by decide
  have htext : errorText body.code body.message =
      "\x7b\"error\":\x7b\"code\":".toList ++ quoted body.code ++ ",\"message\":".toList
        ++ quoted body.message ++ "\x7d\x7d".toList := rfl
  rw [htext]
  simp [render, toJson, compact, compactFields, hcode, herror, hmessage]

/-- A response reports an error if and only if it is the error response with that status, code and
message. -/
theorem Response.reports_iff {response : Response} {status : Nat} {code message : String} :
    response.Reports status code message ↔ response = .error status code message := by
  constructor
  · intro h
    have hbody : response.body = (Response.error status code message).body :=
      String.toList_inj.1 (h.body_eq.trans (ErrorBody.toList_render { code, message }).symm)
    obtain ⟨status', contentType, body⟩ := response
    obtain rfl : status' = status := h.status_eq
    obtain rfl : contentType = some "application/json" := h.contentType_eq
    obtain rfl : body = _ := hbody
    rfl
  · rintro rfl
    exact ⟨rfl, rfl, ErrorBody.toList_render _, ErrorBody.ofText?_render _⟩

/-- The error response with a status, a code and a message reports them. -/
theorem Response.reports_error (status : Nat) (code message : String) :
    (Response.error status code message).Reports status code message :=
  reports_iff.2 rfl

/-! ## Answers of a method -/

/-- The response carries the answer of a method. A value is the JSON text of a response with status
200, and it is read back from the text. A failure is reported with the status of its code. A status
alone comes without a body. -/
inductive Reply.CarriedBy : Reply → Response → Prop
  | value {value : Json} {response : Response} : response.status = 200 →
      response.contentType = some "application/json" → response.body = value.render →
      (value.Exact → readTreeOf response.body = .ok (.ofValue value)) →
      CarriedBy (.value value) response
  | failure {failure : RpcStatus} {response : Response} :
      response.Reports failure.code.httpStatus failure.code.name failure.message →
      CarriedBy (.failure failure) response
  | status {response : Response} : response.contentType = none → response.body = "" →
      CarriedBy (.status response.status) response

/-- An answer is carried by the response that it is translated into, and by no other. -/
theorem Reply.carriedBy_iff {reply : Reply} {response : Response} :
    reply.CarriedBy response ↔ response = reply.response := by
  constructor
  · intro h
    obtain ⟨status, contentType, body⟩ := response
    cases h with
    | value hstatus htype hbody _ =>
      cases hstatus
      cases htype
      cases hbody
      rfl
    | failure hreports => exact Response.reports_iff.1 hreports
    | status htype hbody =>
      cases htype
      cases hbody
      rfl
  · rintro rfl
    cases reply with
    | value value => exact .value rfl rfl rfl readTreeOf_render
    | failure failure => exact .failure (Response.reports_error _ _ _)
    | status status =>
      have hbare : CarriedBy (.status (Response.bare status).status) (.bare status) :=
        .status rfl rfl
      exact hbare

end Transcoding
