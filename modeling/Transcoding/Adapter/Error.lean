import Transcoding.Adapter.Outline
import Transcoding.Disk.FileError
import Transcoding.Text.Quoted

/-!
# Errors

Why an adapter is not generated: definitions or settings cannot be read, the model has no outline
or no service, or the document cannot be written.
-/

namespace Transcoding

open Transcoding.Text

/-- Why an adapter is not generated. -/
inductive GeneratorError where
  | unreadableSource (path : String) (error : FileError)
  | unreadableSettings (path : String) (error : FileError)
  | malformedSettings (path : String)
  | wrongParameter (error : AssignmentError)
  | invalidTemplate (error : OutlineError)
  | noServices
  | directoryNotMade (error : FileError)
  | documentNotWritten (path : String) (error : FileError)
  deriving DecidableEq

/-- The part of the work in which an error arises. -/
inductive ErrorKind where
  | parsing
  | configuration
  | generation
  | emptyModel
  deriving DecidableEq

namespace GeneratorError

/-- The part of the work in which an error arises. -/
def kind : GeneratorError → ErrorKind
  | unreadableSource _ _ => .parsing
  | unreadableSettings _ _ => .configuration
  | malformedSettings _ => .configuration
  | wrongParameter _ => .configuration
  | invalidTemplate _ => .generation
  | noServices => .emptyModel
  | directoryNotMade _ => .generation
  | documentNotWritten _ _ => .generation

/-- What went wrong, without the part of the work. -/
def reason : GeneratorError → String
  | unreadableSource path error =>
    "Failed to read proto file " ++ path ++ ": " ++ error.message
  | unreadableSettings path error =>
    "Failed to read config file " ++ quote path ++ ": " ++ error.message
  | malformedSettings path =>
    "Failed to parse config YAML from " ++ quote path ++ ": " ++ Json.complaint
  | wrongParameter error => error.message
  | invalidTemplate error => error.message
  | noServices => "No services with HTTP bindings were found"
  | directoryNotMade error => "Failed to create output directory: " ++ error.message
  | documentNotWritten path error => "Failed to write " ++ path ++ ": " ++ error.message

/-- What went wrong, in words. -/
def message (error : GeneratorError) : String :=
  match error.kind with
  | .parsing => "Parse error: " ++ error.reason
  | .configuration => "Configuration error: " ++ error.reason
  | .generation => "Generation error: " ++ error.reason
  | .emptyModel => error.reason

end GeneratorError

end Transcoding
