import Transcoding.Json.Record
import Transcoding.Text.Blank
import Transcoding.Text.Cut

/-!
# Settings

What shapes an adapter document: the name of the runtime crate, the module of the message types,
the name of the document, and whether it starts with a summary. Settings are changed by a parameter
text, a list of assignments between commas, which act from left to right up to the first one that
is wrong. They can also be given as a record, in which every field may be left out.
-/

namespace Transcoding

open Transcoding.Text Transcoding.Json

/-- The settings of an adapter document. -/
structure Settings where
  runtimeCrate : String := "rest_adapter_runtime"
  /-- The module of the message types; without it they are in scope by their own names. -/
  typesPath : Option String := none
  outputFile : String := "rest_adapter.rs"
  summaryHeader : Bool := true
  deriving DecidableEq

/-- Why an assignment does not act. -/
inductive AssignmentError where
  | noEqualsSign (assignment : String)
  | unknownKey (key : String)
  | notTruthValue (value : String)
  deriving DecidableEq

/-- What is wrong, in words. -/
def AssignmentError.message : AssignmentError → String
  | noEqualsSign assignment => "Expected key=value, got '" ++ assignment ++ "'"
  | unknownKey key => "Unknown parameter '" ++ key ++ "'"
  | notTruthValue value => "include_summary_header expects true or false, got '" ++ value ++ "'"

/-- The settings with one of them set to a value. -/
def Settings.set (settings : Settings) (key value : String) : Except AssignmentError Settings :=
  if key = "runtime_crate" then .ok { settings with runtimeCrate := value }
  else if key = "types_path" then
    .ok { settings with typesPath := if value = "" then none else some value }
  else if key = "output_file" then .ok { settings with outputFile := value }
  else if key = "include_summary_header" then
    if value = "true" then .ok { settings with summaryHeader := true }
    else if value = "false" then .ok { settings with summaryHeader := false }
    else .error (.notTruthValue value)
  else .error (.unknownKey key)

/-- The settings after an assignment. -/
def Settings.assign (settings : Settings) (assignment : List Char) :
    Except AssignmentError Settings :=
  match cutAt '=' assignment with
  | none => .error (.noEqualsSign (String.ofList assignment))
  | some (key, value) =>
    settings.set (String.ofList (trimBlanks key)) (String.ofList (trimBlanks value))

/-- The settings after the assignments before the first wrong one, and what is wrong with that
one. -/
def Settings.assignAll (settings : Settings) : List (List Char) → Settings × Option AssignmentError
  | [] => (settings, none)
  | assignment :: rest =>
    match settings.assign assignment with
    | .ok next => next.assignAll rest
    | .error error => (settings, some error)

/-- The assignments of a parameter text. -/
def assignments (parameter : String) : List (List Char) :=
  ((fields ',' parameter.toList).map trimBlanks).filter (!·.isEmpty)

/-- The settings after a parameter text, and what is wrong with it. -/
def Settings.apply (settings : Settings) (parameter : String) :
    Settings × Option AssignmentError :=
  settings.assignAll (assignments parameter)

/-! ## Records -/

/-- The names of the settings. -/
def Settings.keys : List String :=
  ["runtime_crate", "types_path", "output_file", "include_summary_header"]

/-- Reads settings from a record. -/
def Settings.ofTree? (tree : Tree) : Option Settings := do
  let defaults : Settings := {}
  match ← tree.record? true Settings.keys with
  | [crate, types, file, header] =>
    return {
      runtimeCrate := ← Tree.readOr Tree.text? defaults.runtimeCrate crate
      typesPath := ← Tree.readOr Tree.textOrNull? defaults.typesPath types
      outputFile := ← Tree.readOr Tree.text? defaults.outputFile file
      summaryHeader := ← Tree.readOr Tree.bool? defaults.summaryHeader header }
  | _ => none

end Transcoding
