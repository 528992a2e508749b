import Transcoding.Serving.Request
import Transcoding.Serving.Response
import Transcoding.Serving.Route

/-!
# Dispatch

The way of a request through a server: a route is found, the payload is built and decoded, and the
handler of the route is called. `Outcome` says how far the request came.
-/

namespace Transcoding

/-- How far a request came. `β` is what handlers answer. -/
inductive Outcome (β : Type) where
  /-- A template of the table cannot be read. -/
  | invalidTable (error : TemplateError)
  /-- No route serves the request. -/
  | notFound (request : Request)
  /-- A route serves the request, and the request gives no input. -/
  | rejected (index : Nat) (captures : Captures) (error : PayloadError)
  /-- The handler of a route answered. -/
  | handled (index : Nat) (captures : Captures) (answer : β)

/-- The route that served a request, and its captures. -/
def Outcome.matched? {β : Type} : Outcome β → Option (Nat × Captures)
  | invalidTable _ => none
  | notFound _ => none
  | rejected index captures _ => some (index, captures)
  | handled index captures _ => some (index, captures)

/-- The response to an outcome. -/
def Outcome.response {β : Type} (respond : β → Response) : Outcome β → Response
  | invalidTable error => error.response
  | notFound request => .notFound request.method request.path
  | rejected _ _ error => error.response
  | handled _ _ answer => respond answer

/-- The input of a route, decoded from the payload of a request. -/
def Request.input {α : Type} (request : Request) (decode : Json → Option α) (route : Route)
    (captures : Captures) : Except PayloadError α := do
  let payload ← buildPayload route.source captures request.query request.body
  match decode payload with
  | some input => .ok input
  | none => .error .undecodable

/-- Finds the route of a request and its input. Each route has an input message of its own, which
`decode` reads, and a handler: `handle i` is called with the input of the route at `i`, the first
one that has the verb and matches the path. -/
def RouteTable.dispatch {α : Nat → Type} {β : Type} (table : RouteTable)
    (decode : (index : Nat) → Json → Option (α index)) (handle : (index : Nat) → α index → β)
    (request : Request) : Outcome β :=
  match table.route request.verb request.path with
  | .error error => .invalidTable error
  | .ok none => .notFound request
  | .ok (some (index, captures)) =>
    match table[index]? with
    | none => .notFound request
    | some route =>
      match request.input (decode index) route captures with
      | .error error => .rejected index captures error
      | .ok input => .handled index captures (handle index input)

/-- Runs the handler that was called, if there is one, and takes its answer. -/
def Outcome.perform {m : Type → Type} [Monad m] {β : Type} : Outcome (m β) → m (Outcome β)
  | invalidTable error => pure (.invalidTable error)
  | notFound request => pure (.notFound request)
  | rejected index captures error => pure (.rejected index captures error)
  | handled index captures action => do return .handled index captures (← action)

/-- Serves a request by handlers that act. -/
def RouteTable.serve {α : Nat → Type} {m : Type → Type} [Monad m] {β : Type} (table : RouteTable)
    (decode : (index : Nat) → Json → Option (α index)) (handle : (index : Nat) → α index → m β)
    (respond : β → Response) (request : Request) : m Response := do
  return (← (table.dispatch decode handle request).perform).response respond

end Transcoding
