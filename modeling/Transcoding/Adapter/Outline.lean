import Transcoding.Adapter.Identifier
import Transcoding.Adapter.Settings
import Transcoding.Serving.Route
import Transcoding.Template.RouterPath
import Transcoding.Text.Casing
import Transcoding.Text.Decimal

/-!
# The outline of an adapter

What an adapter document holds, before it is laid out: a module for each service, with an operation
for each method and an entry for each path that the router has to know. A model has an outline if
all of its templates can be read.
-/

namespace Transcoding

open Transcoding.Text

/-- What a document holds for a method. -/
structure Operation where
  route : Route
  functionName : String
  /-- The variables of the template. -/
  variableNames : List String
  /-- The path of the input type. -/
  inputType : String
  /-- The path of the output type. -/
  outputType : String
  routerPath : RouterPath
  deriving DecidableEq

/-- A path that the router has to know, and the verbs it is served with. -/
structure RouterEntry where
  path : RouterPath
  verbs : List String
  deriving DecidableEq

/-- What a document holds for a service. -/
structure ServiceModule where
  moduleName : String
  serviceName : String
  fullName : String
  operations : List Operation
  entries : List RouterEntry
  deriving DecidableEq

/-- A method whose template cannot be read. -/
structure OutlineError where
  service : String
  method : String
  error : TemplateError
  deriving DecidableEq

/-- What is wrong, in words. -/
def OutlineError.message (e : OutlineError) : String :=
  "Invalid path template for " ++ e.service ++ "." ++ e.method ++ ": " ++ e.error.message

/-- The operation of a method. -/
def Method.operation (settings : Settings) (service : String) (method : Method) :
    Except OutlineError Operation :=
  match PathTemplate.parse method.binding.pathTemplate with
  | .error error => .error { service, method := method.name, error }
  | .ok template => .ok {
      route := method.route
      functionName := rustIdentifier (snakeCase method.name)
      variableNames := template.variableNames
      inputType := rustPath settings.typesPath method.inputType
      outputType := rustPath settings.typesPath method.outputType
      routerPath := template.routerPath }

/-- The entries with one more verb on a path. A router takes each verb of a path once. -/
def addVerb (path : RouterPath) (verb : String) : List RouterEntry → List RouterEntry
  | [] => [{ path, verbs := [verb] }]
  | entry :: rest =>
    if entry.path = path then
      if entry.verbs.contains verb then entry :: rest
      else { entry with verbs := entry.verbs ++ [verb] } :: rest
    else entry :: addVerb path verb rest

/-- The entries that serve the operations, in the order in which their paths first occur. -/
def routerEntries (operations : List Operation) : List RouterEntry :=
  operations.foldl (fun entries op => addVerb op.routerPath op.route.verb entries) []

/-- The name of a module: services whose names give the same one are numbered. `earlier` holds the
names given by the services before. -/
def moduleName (earlier : List String) (base : String) : String :=
  match earlier.count base with
  | 0 => rustIdentifier base
  | n + 1 => rustIdentifier (base ++ "_" ++ decimal (n + 2))

/-- The modules of services, given the names before them. -/
def serviceModules (settings : Settings) :
    List String → List Service → Except OutlineError (List ServiceModule)
  | _, [] => .ok []
  | earlier, service :: rest => do
    let base := snakeCase service.fullName
    let operations ← service.methods.mapM (Method.operation settings service.fullName)
    let modules ← serviceModules settings (base :: earlier) rest
    return {
      moduleName := moduleName earlier base
      serviceName := service.serviceName
      fullName := service.fullName
      operations
      entries := routerEntries operations } :: modules

/-- The outline of a model. -/
def outline (settings : Settings) (services : List Service) :
    Except OutlineError (List ServiceModule) :=
  serviceModules settings [] services

end Transcoding
