/-!
# The service model

What an annotated interface definition says about REST: services, their methods, and for each
method the HTTP verb, the path template and the place its input comes from. Methods without a
binding and services without a bound method are not part of a model.
-/

namespace Transcoding

/-- The verb of a binding. -/
inductive HttpVerb where
  | get
  | post
  | put
  | patch
  | delete
  deriving DecidableEq

namespace HttpVerb

/-- The verbs in the order in which an annotation is searched for them. -/
def all : List HttpVerb := [get, post, put, patch, delete]

/-- The upper-case name of the verb. -/
def name : HttpVerb → String
  | get => "GET"
  | post => "POST"
  | put => "PUT"
  | patch => "PATCH"
  | delete => "DELETE"

/-- The word that introduces the verb in an annotation. -/
def keyword : HttpVerb → String
  | get => "get"
  | post => "post"
  | put => "put"
  | patch => "patch"
  | delete => "delete"

/-- The verb with the given upper-case name. -/
def ofName? (s : String) : Option HttpVerb := all.find? (·.name == s)

end HttpVerb

/-- Where the input of a method comes from. -/
inductive PayloadSource where
  /-- The query parameters. -/
  | query
  /-- The whole request body. -/
  | wholeBody
  /-- The request body, as the value of one field. -/
  | field (name : String)
  deriving DecidableEq

/-- The source that a body selector names: none is the query, a star is the whole body. -/
def PayloadSource.ofSelector : Option String → PayloadSource
  | none => .query
  | some selector => if selector = "*" then .wholeBody else .field selector

/-- The HTTP side of a method. -/
structure HttpBinding where
  verb : HttpVerb
  /-- A path with placeholders in braces. -/
  pathTemplate : String
  /-- Absent, a star, or the name of a field. -/
  bodySelector : Option String := none
  deriving DecidableEq

/-- Where the input of a bound method comes from. -/
def HttpBinding.payloadSource (binding : HttpBinding) : PayloadSource :=
  .ofSelector binding.bodySelector

/-- A method with an HTTP binding. -/
structure Method where
  name : String
  inputType : String
  outputType : String
  binding : HttpBinding
  deriving DecidableEq

/-- A service and its bound methods in the order of their declarations. -/
structure Service where
  /-- Empty if the text declares no package. -/
  packageName : String
  serviceName : String
  fullName : String
  methods : List Method
  deriving DecidableEq

/-- The name of a service within its package. -/
def qualifiedName (packageName serviceName : String) : String :=
  if packageName = "" then serviceName else packageName ++ "." ++ serviceName

/-- A service named by its package and its own name. -/
def Service.declared (packageName serviceName : String) (methods : List Method) : Service :=
  { packageName, serviceName, fullName := qualifiedName packageName serviceName, methods }

/-- The names and the size of a model. -/
structure ModelSummary where
  services : List String
  methodCount : Nat
  deriving DecidableEq

/-- The summary of a list of services. -/
def ModelSummary.ofServices (services : List Service) : ModelSummary :=
  { services := services.map (·.fullName)
    methodCount := services.foldr (fun service count => service.methods.length + count) 0 }

/-- A model with no service. -/
def ModelSummary.isEmpty (summary : ModelSummary) : Bool := summary.services.isEmpty

end Transcoding
