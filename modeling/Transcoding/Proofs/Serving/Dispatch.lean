import Transcoding.Serving.Dispatch
import Transcoding.Proofs.Serving.Response
import Transcoding.Proofs.Serving.Route

/-!
# How a request is answered

There are four ways in which a request can end (`Answered`), and each has its own condition: some
template of the table cannot be read, no route serves the request, the first route that serves it
gets no input from it, or that route gets its input and its handler is run. The conditions exclude
each other and one of them always holds, so that they say of every request which one it is
(`RouteTable.dispatch_classified`). Handlers may act, in any monad; one handler is run, once, if the
request comes that far, and none otherwise. A request that does not come that far is answered with
an error response, which is stated by what a client reads from it (`Response.Reports`).
-/

namespace Transcoding

/-! ## The input of a route -/

/-- What a request gives to the route at an index: there is no payload, the payload is not of the
form of the input message, or the payload is decoded into the input. -/
inductive RouteTable.Gives {α : Type} (table : RouteTable) (decode : Json → Option α)
    (request : Request) (index : Nat) (captures : Captures) : Except PayloadError α → Prop
  | noPayload {route : Route} {error : PayloadError} : table[index]? = some route →
      buildPayload route.source captures request.query request.body = .error error →
      Gives table decode request index captures (.error error)
  | notDecoded {route : Route} {payload : Json} : table[index]? = some route →
      buildPayload route.source captures request.query request.body = .ok payload →
      decode payload = none → Gives table decode request index captures (.error .undecodable)
  | decoded {route : Route} {payload : Json} {input : α} : table[index]? = some route →
      buildPayload route.source captures request.query request.body = .ok payload →
      decode payload = some input → Gives table decode request index captures (.ok input)

/-- What a route gives for a request is the input that the request has for it. -/
theorem RouteTable.gives_iff {α : Type} {table : RouteTable} {decode : Json → Option α}
    {request : Request} {index : Nat} {captures : Captures} {route : Route}
    {result : Except PayloadError α} (hroute : table[index]? = some route) :
    table.Gives decode request index captures result ↔
      request.input decode route captures = result := by
  unfold Request.input
  constructor
  · intro h
    cases h with
    | noPayload hroute' hbuild =>
      cases hroute.symm.trans hroute'
      rw [hbuild]
      rfl
    | notDecoded hroute' hbuild hdecode =>
      cases hroute.symm.trans hroute'
      simp [hbuild, hdecode, bind, Except.bind]
    | decoded hroute' hbuild hdecode =>
      cases hroute.symm.trans hroute'
      simp [hbuild, hdecode, bind, Except.bind]
  · rintro rfl
    cases hbuild : buildPayload route.source captures request.query request.body with
    | error error => exact .noPayload hroute hbuild
    | ok payload =>
      cases hdecode : decode payload with
      | none => simpa [bind, Except.bind, hdecode] using .notDecoded hroute hbuild hdecode
      | some input => simpa [bind, Except.bind, hdecode] using .decoded hroute hbuild hdecode

/-- The route that a lookup finds is there, and dispatch goes on with the input that it gets. -/
theorem RouteTable.ServesFirst.dispatch_eq {α : Nat → Type} {β : Type} {table : RouteTable}
    {decode : (index : Nat) → Json → Option (α index)} {request : Request} {index : Nat}
    {captures : Captures}
    (hfirst : table.ServesFirst request.verb request.path index captures)
    (hreadable : table.Readable) (handle : (index : Nat) → α index → β) :
    (∀ {error}, table.Gives (decode index) request index captures (.error error) →
        table.dispatch decode handle request = .rejected index captures error) ∧
      ∀ {input}, table.Gives (decode index) request index captures (.ok input) →
        table.dispatch decode handle request = .handled index captures (handle index input) := by
  have hfound := route_eq_ok_some_iff.2 ⟨hreadable, hfirst⟩
  obtain ⟨route, -, hroute, -⟩ := hfirst.serves
  simp only [gives_iff hroute]
  refine ⟨fun hinput => ?_, fun hinput => ?_⟩
  · simp only [dispatch, hfound, hroute, hinput]
  · simp only [dispatch, hfound, hroute, hinput]

/-! ## Answers -/

section
variable {α : Nat → Type} {m : Type → Type} [Monad m] {β : Type}

/-- The four ways in which a request can end: how far it comes, and how it is answered. -/
inductive Answered (table : RouteTable) (decode : (index : Nat) → Json → Option (α index))
    (handle : (index : Nat) → α index → m β) (respond : β → Response) (request : Request) :
    Outcome (m β) → m Response → Prop
  | invalidTable {error : TemplateError} {response : Response} : table.FirstFault error →
      response.Reports 500 "INTERNAL" ("invalid route table: " ++ error.message) →
      Answered table decode handle respond request (.invalidTable error) (pure response)
  | notFound {response : Response} : table.Readable →
      (∀ index captures, ¬ table.Serves request.verb request.path index captures) →
      response.Reports 404 "NOT_FOUND"
        ("no route for " ++ request.method ++ " " ++ request.path) →
      Answered table decode handle respond request (.notFound request) (pure response)
  | rejected {index : Nat} {captures : Captures} {error : PayloadError} {response : Response} :
      table.Readable → table.ServesFirst request.verb request.path index captures →
      table.Gives (decode index) request index captures (.error error) →
      response.Reports 400 "INVALID_ARGUMENT" error.message →
      Answered table decode handle respond request (.rejected index captures error)
        (pure response)
  | handled {index : Nat} {captures : Captures} {input : α index} : table.Readable →
      table.ServesFirst request.verb request.path index captures →
      table.Gives (decode index) request index captures (.ok input) →
      Answered table decode handle respond request (.handled index captures (handle index input))
        (do return respond (← handle index input))

variable {table : RouteTable} {decode : (index : Nat) → Json → Option (α index)}
  {handle : (index : Nat) → α index → m β} {respond : β → Response} {request : Request}

/-- Each of the four conditions leads to its own answer. -/
theorem Answered.serve_eq [LawfulMonad m] {outcome : Outcome (m β)} {answer : m Response}
    (h : Answered table decode handle respond request outcome answer) :
    table.dispatch decode handle request = outcome ∧
      table.serve decode handle respond request = answer := by
  have hserve : ∀ {outcome : Outcome (m β)}, table.dispatch decode handle request = outcome →
      table.serve decode handle respond request =
        (do return (← outcome.perform).response respond) := by
    rintro _ rfl
    rfl
  cases h with
  | @invalidTable error _ hfault hreports =>
    have hdispatch : table.dispatch decode handle request = .invalidTable error := by
      simp only [RouteTable.dispatch, RouteTable.route_eq_error_iff.2 hfault]
    rw [Response.reports_iff.1 hreports]
    exact ⟨hdispatch, (hserve hdispatch).trans (pure_bind _ _)⟩
  | notFound hreadable hnone hreports =>
    have hdispatch : table.dispatch decode handle request = .notFound request := by
      simp only [RouteTable.dispatch, RouteTable.route_eq_ok_none_iff.2 ⟨hreadable, hnone⟩]
    rw [Response.reports_iff.1 hreports]
    exact ⟨hdispatch, (hserve hdispatch).trans (pure_bind _ _)⟩
  | rejected hreadable hfirst hgives hreports =>
    have hdispatch := (hfirst.dispatch_eq hreadable handle).1 hgives
    rw [Response.reports_iff.1 hreports]
    exact ⟨hdispatch, (hserve hdispatch).trans (pure_bind _ _)⟩
  | handled hreadable hfirst hgives =>
    have hdispatch := (hfirst.dispatch_eq hreadable handle).2 hgives
    refine ⟨hdispatch, (hserve hdispatch).trans ?_⟩
    simp [Outcome.perform, Outcome.response]

/-- One of the four conditions holds. -/
theorem exists_answered (table : RouteTable)
    (decode : (index : Nat) → Json → Option (α index)) (handle : (index : Nat) → α index → m β)
    (respond : β → Response) (request : Request) :
    ∃ outcome answer, Answered table decode handle respond request outcome answer := by
  cases hlookup : table.route request.verb request.path with
  | error error =>
    exact ⟨_, _, .invalidTable (RouteTable.route_eq_error_iff.1 hlookup)
      (Response.reports_error _ _ _)⟩
  | ok found =>
    cases found with
    | none =>
      obtain ⟨hreadable, hnone⟩ := RouteTable.route_eq_ok_none_iff.1 hlookup
      exact ⟨_, _, .notFound hreadable hnone (Response.reports_error _ _ _)⟩
    | some found =>
      obtain ⟨index, captures⟩ := found
      obtain ⟨hreadable, hfirst⟩ := RouteTable.route_eq_ok_some_iff.1 hlookup
      obtain ⟨route, -, hroute, -⟩ := hfirst.serves
      cases hinput : request.input (decode index) route captures with
      | error error =>
        exact ⟨_, _, .rejected hreadable hfirst ((RouteTable.gives_iff hroute).2 hinput)
          (Response.reports_error _ _ _)⟩
      | ok input =>
        exact ⟨_, _, .handled hreadable hfirst ((RouteTable.gives_iff hroute).2 hinput)⟩

/-! ## More routes -/

/-- A route keeps its index in a longer table. -/
theorem RouteTable.getElem?_append {index : Nat} {route : Route} (h : table[index]? = some route)
    (more : RouteTable) : (table ++ more)[index]? = some route := by
  obtain ⟨hindex, -⟩ := List.getElem?_eq_some_iff.1 h
  rw [List.getElem?_append_left hindex, h]

/-- A route of a table serves the same requests in a longer table. -/
theorem RouteTable.serves_append_iff {verb path : String} {index : Nat} {captures : Captures}
    (h : index < table.length) (more : RouteTable) :
    RouteTable.Serves (table ++ more) verb path index captures ↔
      table.Serves verb path index captures := by
  simp only [Serves, List.getElem?_append_left h]

/-- The first route that serves a request is the first one in a longer table. -/
theorem RouteTable.ServesFirst.append {verb path : String} {index : Nat} {captures : Captures}
    (h : table.ServesFirst verb path index captures) (more : RouteTable) :
    RouteTable.ServesFirst (table ++ more) verb path index captures := by
  obtain ⟨route, -, hroute, -⟩ := h.serves
  obtain ⟨hindex, -⟩ := List.getElem?_eq_some_iff.1 hroute
  refine ⟨(serves_append_iff hindex more).2 h.serves, fun j hj found => ?_⟩
  rw [serves_append_iff (Nat.lt_trans hj hindex)]
  exact h.first j hj found

/-- A route gives the same in a longer table. -/
theorem RouteTable.Gives.append {γ : Type} {decode : Json → Option γ} {index : Nat}
    {captures : Captures} {result : Except PayloadError γ}
    (h : table.Gives decode request index captures result) (more : RouteTable) :
    RouteTable.Gives (table ++ more) decode request index captures result := by
  cases h with
  | noPayload hroute hbuild => exact .noPayload (getElem?_append hroute more) hbuild
  | notDecoded hroute hbuild hdecode =>
    exact .notDecoded (getElem?_append hroute more) hbuild hdecode
  | decoded hroute hbuild hdecode => exact .decoded (getElem?_append hroute more) hbuild hdecode

/-- Routes at the end of a table do not change how a request ends that an earlier route serves. -/
theorem Answered.append {outcome : Outcome (m β)} {answer : m Response}
    (h : Answered table decode handle respond request outcome answer) {more : RouteTable}
    (hreadable : RouteTable.Readable (table ++ more))
    (hserved : ∃ index captures, table.Serves request.verb request.path index captures) :
    Answered (table ++ more) decode handle respond request outcome answer := by
  cases h with
  | invalidTable hfault _ =>
    obtain ⟨route, before, after, rfl, -, herror⟩ := hfault
    obtain ⟨template, hparse⟩ := hreadable route (by simp)
    cases herror.symm.trans hparse
  | notFound _ hnone _ =>
    obtain ⟨index, captures, hserves⟩ := hserved
    exact absurd hserves (hnone index captures)
  | rejected _ hfirst hgives hreports =>
    exact .rejected hreadable (hfirst.append more) (hgives.append more) hreports
  | handled _ hfirst hgives =>
    exact .handled hreadable (hfirst.append more) (hgives.append more)

/-- **Every request is classified.** How far a request comes and how it is answered is what the one
of the four conditions says that holds of it. The table is at fault for every request if some
template cannot be read. A route serves a request if its verb is the method, the case of ASCII
letters apart and with GET for HEAD, and its template matches the path. If all templates can be
read, routes at the end of a table change nothing for a request that an earlier route serves. The
answer of a method is carried by its response. -/
theorem RouteTable.dispatch_classified [LawfulMonad m] (table : RouteTable)
    (decode : (index : Nat) → Json → Option (α index)) (handle : (index : Nat) → α index → m β)
    (respond : β → Response) (request : Request) :
    (∀ outcome answer, Answered table decode handle respond request outcome answer ↔
      table.dispatch decode handle request = outcome ∧
        table.serve decode handle respond request = answer) ∧
    ((∃ error, table.FirstFault error) ↔
      ∃ route ∈ table, ∃ error, PathTemplate.parse route.template = .error error) ∧
    (∀ index captures, table.Serves request.verb request.path index captures ↔
      ∃ route template, table[index]? = some route ∧
        route.verb.toList.map Char.toUpper =
          (if request.method = "HEAD" then "GET" else request.method).toList.map Char.toUpper ∧
        PathTemplate.parse route.template = .ok template ∧
        template.match? request.path = some captures) ∧
    (∀ more : RouteTable, RouteTable.Readable (table ++ more) →
      (∃ index captures, table.Serves request.verb request.path index captures) →
      RouteTable.dispatch (table ++ more) decode handle request =
          table.dispatch decode handle request ∧
        RouteTable.serve (table ++ more) decode handle respond request =
          table.serve decode handle respond request) ∧
    ∀ (reply : Reply) (response : Response),
      reply.CarriedBy response ↔ response = reply.response := by
  obtain ⟨outcome, answer, hanswered⟩ := exists_answered table decode handle respond request
  obtain ⟨hdispatch, hserve⟩ := hanswered.serve_eq
  refine ⟨fun outcome' answer' => ⟨fun h => h.serve_eq, ?_⟩, ?_, fun index captures => ?_,
    fun more hreadable hserved => ?_, fun reply response => Reply.carriedBy_iff⟩
  · rintro ⟨rfl, rfl⟩
    rwa [hdispatch, hserve]
  · rw [← exists_firstFailure_iff]
    exact exists_comm
  · simp only [Serves, sameVerb, upperAscii, beq_iff_eq, Request.verb]
  · rw [hdispatch, hserve]
    exact (hanswered.append hreadable hserved).serve_eq

end

/-- A table with three routes for users, the last of which takes the body of a request. -/
def RouteTable.users : RouteTable :=
  [{ method := "ListUsers", verb := "GET", template := "/v1/users", source := .query },
   { method := "GetUser", verb := "get", template := "/v1/users/\x7bid\x7d", source := .query },
   { method := "PutUser", verb := "PUT", template := "/v1/users/\x7bid\x7d", source := .wholeBody }]

/-- A route that matches every path. -/
def Route.anything : Route :=
  { method := "Get", verb := "GET", template := "/\x7bname=**\x7d", source := .query }

/-- A route whose template cannot be read. -/
def Route.unreadable : Route :=
  { method := "Get", verb := "GET", template := "v1", source := .query }

/-- A handler that notes each call and answers with its input. -/
def noteCall (index : Nat) (input : Json) : StateM (List (Nat × Json)) Reply := do
  modify (· ++ [(index, input)])
  return .value input

/-- A handler that refuses every input. -/
def refuse (_ : Nat) (_ : Json) : StateM (List (Nat × Json)) Reply :=
  return .failure { code := .permissionDenied, message := "not yours" }

/-- The error response with a code and a message that need no escapes. -/
def plainError (status : Nat) (code message : String) : Response where
  status := status
  contentType := some "application/json"
  body := "\x7b\"error\":\x7b\"code\":\"" ++ code ++ "\",\"message\":\"" ++ message ++ "\"\x7d\x7d"

/-- One request for each end. `HEAD /v1/users/7?view=full` is served by the second route, whose
handler is called once with the input that the path and the query make up, and a route for all paths
at the end of the table changes nothing. A handler that fails is answered with the status of its
code. No handler is called for a path without a route, for a body that cannot take the captures of
the path, for an input that is not decoded, or after a route whose template cannot be read. -/
theorem RouteTable.dispatch_classified_users :
    let input : Json := .object [("id", .string "7"), ("view", .string "full")]
    let request : Request :=
      { method := "HEAD", path := "/v1/users/7", query := [("view", "full")], body := [] }
    let missing : Request := { method := "GET", path := "/v2", query := [], body := [] }
    let update : Request :=
      { method := "PUT", path := "/v1/users/7", query := [], body := [0x5B, 0x5D] }
    users.serve (fun _ => some) noteCall Reply.response request [] =
        ({ status := 200, contentType := some "application/json"
           body := "\x7b\"id\":\"7\",\"view\":\"full\"\x7d" }, [(1, input)]) ∧
      RouteTable.serve (users ++ [.anything]) (fun _ => some) noteCall Reply.response request =
        users.serve (fun _ => some) noteCall Reply.response request ∧
      users.serve (fun _ => some) refuse Reply.response request [] =
        (plainError 403 "PERMISSION_DENIED" "not yours", []) ∧
      users.serve (fun _ => some) noteCall Reply.response missing [] =
        (plainError 404 "NOT_FOUND" "no route for GET /v2", []) ∧
      users.serve (fun _ => some) noteCall Reply.response update [] =
        (plainError 400 "INVALID_ARGUMENT"
          "request body must be a JSON object when the path has parameters", []) ∧
      users.serve (fun _ _ => none) noteCall Reply.response request [] =
        (plainError 400 "INVALID_ARGUMENT"
          "request does not match the input message: <detail>", []) ∧
      RouteTable.serve (users ++ [.unreadable]) (fun _ => some) noteCall Reply.response request [] =
        (plainError 500 "INTERNAL"
          "invalid route table: template \x27v1\x27 must start with \x27/\x27", []) := by
  intro input request missing update
  have hlookup : users.route "GET" "/v1/users/7" = .ok (some (1, [("id", "7")])) := by
    decide +kernel
  have hmissing : users.route "GET" "/v2" = .ok none := by decide +kernel
  have hupdate : users.route "PUT" "/v1/users/7" = .ok (some (2, [("id", "7")])) := by
    decide +kernel
  have hfault : RouteTable.route (users ++ [.unreadable]) "GET" "/v1/users/7" =
      .error (.missingLeadingSlash "v1") := by
    decide +kernel
  have hparse : PathTemplate.parse Route.anything.template = .ok
      { lead := "/"
        placeholders :=
          [{ name := "name"
             pattern := { leading := [], last := .rest }
             following := "" }] } := by
    decide +kernel
  obtain ⟨hreadable, hfirst⟩ := route_eq_ok_some_iff.1 hlookup
  have hmore := (dispatch_classified users (fun _ => some) noteCall Reply.response request).2.2.2.1
  have hanswered := (dispatch_classified users (fun _ => some) noteCall Reply.response request).1
  have hserved := (dispatch_classified users (fun _ => some) refuse Reply.response request).1
  have hmissed := (dispatch_classified users (fun _ => some) noteCall Reply.response missing).1
  have hrefused := (dispatch_classified users (fun _ => some) noteCall Reply.response update).1
  have hundecoded := (dispatch_classified users (fun _ (_ : Json) => (none : Option Json)) noteCall
    Reply.response request).1
  have hfailed := (dispatch_classified (users ++ [.unreadable]) (fun _ => some) noteCall
    Reply.response request).1
  have hgives : users.Gives some request 1 [("id", "7")] (.ok input) := .decoded rfl rfl rfl
  refine ⟨?_, (hmore [.anything] ?_ ⟨_, _, hfirst.serves⟩).2, ?_, ?_, ?_, ?_, ?_⟩
  · rw [((hanswered _ _).1 (.handled hreadable hfirst hgives)).2]
    exact Prod.ext (by decide +kernel) rfl
  · exact List.forall_mem_append.2 ⟨hreadable, List.forall_mem_singleton.2 ⟨_, hparse⟩⟩
  · rw [((hserved _ _).1 (.handled hreadable hfirst hgives)).2]
    exact Prod.ext (by decide +kernel) rfl
  · have hnone := (route_eq_ok_none_iff.1 hmissing).2
    rw [((hmissed _ _).1 (.notFound hreadable hnone (Response.reports_error _ _ _))).2]
    exact Prod.ext (by decide +kernel) rfl
  · have hupdated := (route_eq_ok_some_iff.1 hupdate).2
    have hgives : users.Gives some update 2 [("id", "7")] (.error .bodyNotObject) :=
      .noPayload rfl rfl
    rw [((hrefused _ _).1 (.rejected hreadable hupdated hgives (Response.reports_error _ _ _))).2]
    exact Prod.ext (by decide +kernel) rfl
  · have hgives : users.Gives (fun _ : Json => (none : Option Json)) request 1 [("id", "7")]
        (.error .undecodable) :=
      .notDecoded rfl rfl rfl
    rw [((hundecoded _ _).1 (.rejected hreadable hfirst hgives (Response.reports_error _ _ _))).2]
    exact Prod.ext (by decide +kernel) rfl
  · have hfirstFault := route_eq_error_iff.1 hfault
    rw [((hfailed _ _).1 (.invalidTable hfirstFault (Response.reports_error _ _ _))).2]
    exact Prod.ext (by decide +kernel) rfl

end Transcoding
