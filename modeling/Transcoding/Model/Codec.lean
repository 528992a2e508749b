import Transcoding.Model
import Transcoding.Json.Record

/-!
# The service model as JSON

Each structure of the model is a record with the fields of its declaration. A binding without a
body selector is written without that field.
-/

namespace Transcoding

open Transcoding.Json

/-! ## Writing -/

/-- The fields of a binding. -/
def HttpBinding.fields (binding : HttpBinding) : List (String × Json) :=
  [("verb", .string binding.verb.name), ("path_template", .string binding.pathTemplate)] ++
    match binding.bodySelector with
    | none => []
    | some selector => [("body_selector", .string selector)]

/-- A method as a record. -/
def Method.toJson (method : Method) : Json :=
  .object
    [("name", .string method.name), ("input_type", .string method.inputType),
     ("output_type", .string method.outputType), ("binding", .object method.binding.fields)]

/-- A service as a record. -/
def Service.toJson (service : Service) : Json :=
  .object
    [("package_name", .string service.packageName), ("service_name", .string service.serviceName),
     ("full_name", .string service.fullName),
     ("methods", .array (service.methods.map Method.toJson))]

/-- A list of services as JSON. -/
def servicesToJson (services : List Service) : Json := .array (services.map Service.toJson)

/-! ## Reading -/

/-- Reads a verb. -/
def HttpVerb.ofTree? (tree : Tree) : Option HttpVerb := do HttpVerb.ofName? (← tree.caseName?)

/-- Reads a binding. -/
def HttpBinding.ofTree? (tree : Tree) : Option HttpBinding := do
  match ← tree.record? false ["verb", "path_template", "body_selector"] with
  | [some verb, some path, selector] =>
    let bodySelector ← match selector with
      | none => some none
      | some selector => selector.textOrNull?
    return { verb := ← HttpVerb.ofTree? verb, pathTemplate := ← path.text?, bodySelector }
  | _ => none

/-- Reads a method. -/
def Method.ofTree? (tree : Tree) : Option Method := do
  match ← tree.record? false ["name", "input_type", "output_type", "binding"] with
  | [some name, some input, some output, some binding] =>
    return {
      name := ← name.text?
      inputType := ← input.text?
      outputType := ← output.text?
      binding := ← HttpBinding.ofTree? binding }
  | _ => none

/-- Reads a service. -/
def Service.ofTree? (tree : Tree) : Option Service := do
  match ← tree.record? false ["package_name", "service_name", "full_name", "methods"] with
  | [some package, some name, some fullName, some methods] =>
    return {
      packageName := ← package.text?
      serviceName := ← name.text?
      fullName := ← fullName.text?
      methods := ← methods.list? Method.ofTree? }
  | _ => none

/-- Reads a list of services. -/
def servicesOfTree? (tree : Tree) : Option (List Service) := tree.list? Service.ofTree?

/-- Reads a list of services from JSON text. -/
def servicesOfText? (text : String) : Option (List Service) := do
  servicesOfTree? (← (readTreeOf text).toOption)

end Transcoding
