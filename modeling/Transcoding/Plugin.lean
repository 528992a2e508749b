import Transcoding.Adapter.Document
import Transcoding.Adapter.Error
import Transcoding.Declaration.Document
import Transcoding.Json.Writer

/-!
# Plugin exchanges

A plugin reads one request and writes one response, both as JSON. A request holds definition files
and a parameter text; a response holds the document, the names of its services and the number of
their methods, or an error and nothing else. A model without services is no error: its response
holds no file.
-/

namespace Transcoding

open Transcoding.Json

/-- A file in a request or a response. -/
structure PluginFile where
  name : String
  content : String
  deriving DecidableEq

/-- What a plugin is asked. -/
structure PluginRequest where
  files : List PluginFile := []
  parameter : Option String := none
  deriving DecidableEq

/-- What a plugin answers. -/
structure PluginResponse where
  files : List PluginFile := []
  services : List String := []
  methodCount : Nat := 0
  error : Option String := none
  deriving DecidableEq

/-! ## Reading and writing -/

/-- Reads a file of a request or a response. -/
def PluginFile.ofTree? (tree : Tree) : Option PluginFile := do
  match ← tree.record? false ["name", "content"] with
  | [some name, some content] => return { name := ← name.text?, content := ← content.text? }
  | _ => none

/-- Reads a request. -/
def PluginRequest.ofTree? (tree : Tree) : Option PluginRequest := do
  match ← tree.record? false ["files", "parameter"] with
  | [files, parameter] =>
    return {
      files := ← Tree.readOr (Tree.list? PluginFile.ofTree?) [] files
      parameter := ← Tree.readOr Tree.textOrNull? none parameter }
  | _ => none

/-- Reads a request from JSON text. -/
def PluginRequest.ofText? (text : String) : Option PluginRequest := do
  PluginRequest.ofTree? (← (readTreeOf text).toOption)

/-- Reads a response. -/
def PluginResponse.ofTree? (tree : Tree) : Option PluginResponse := do
  match ← tree.record? false ["files", "services", "method_count", "error"] with
  | [some files, some services, some methodCount, error] =>
    return {
      files := ← files.list? PluginFile.ofTree?
      services := ← services.list? Tree.text?
      methodCount := ← methodCount.natural?
      error := ← Tree.readOr Tree.textOrNull? none error }
  | _ => none

/-- Reads a response from JSON text. -/
def PluginResponse.ofText? (text : String) : Option PluginResponse := do
  PluginResponse.ofTree? (← (readTreeOf text).toOption)

/-- A file as a record. -/
def PluginFile.toJson (file : PluginFile) : Json :=
  .object [("name", .string file.name), ("content", .string file.content)]

/-- A response as a record. The error is left out if there is none. -/
def PluginResponse.toJson (response : PluginResponse) : Json :=
  .object <|
    [("files", .array (response.files.map PluginFile.toJson)),
     ("services", .array (response.services.map .string)),
     ("method_count", .ofNat response.methodCount)] ++
    match response.error with
    | none => []
    | some error => [("error", .string error)]

/-! ## Answering -/

/-- The settings of a request. -/
def PluginRequest.settings (request : PluginRequest) : Except GeneratorError Settings :=
  match request.parameter with
  | none => .ok {}
  | some parameter =>
    match ({} : Settings).apply parameter with
    | (settings, none) => .ok settings
    | (_, some error) => .error (.wrongParameter error)

/-- The services that the files of a request declare. -/
def PluginRequest.services (request : PluginRequest) : List Service :=
  Declaration.servicesOfAll (request.files.map (·.content))

/-- The adapter that a request asks for. -/
def PluginRequest.adapter (request : PluginRequest) : Except GeneratorError Adapter := do
  let settings ← request.settings
  (generate settings request.services).mapError .invalidTemplate

/-- The response with an error. -/
def PluginResponse.failed (error : String) : PluginResponse := { error := some error }

/-- The response to a request. -/
def PluginRequest.respond (request : PluginRequest) : PluginResponse :=
  match request.adapter with
  | .error error => .failed error.message
  | .ok adapter => {
      files :=
        if adapter.summary.isEmpty then []
        else [{ name := adapter.fileName, content := adapter.content }]
      services := adapter.summary.services
      methodCount := adapter.summary.methodCount }

/-- The response to a text that may be a request. -/
def respondTo (text : String) : PluginResponse :=
  match PluginRequest.ofText? text with
  | some request => request.respond
  | none => .failed ("Invalid plugin request: " ++ complaint)

end Transcoding
