import Transcoding.Adapter.Output
import Transcoding.CommandLine.Arguments
import Transcoding.CommandLine.Discovery
import Transcoding.Model.Codec
import Transcoding.Plugin

/-!
# The program

The three commands, on any disk. Progress goes to the output, unless the output carries a document
for another program; then it goes to the diagnostics.
-/

namespace Transcoding.CommandLine

open Transcoding.Disk Transcoding.Text

variable {m : Type → Type} [Monad m]

/-- Reads definition files and collects their services. -/
def loadServices (disk : DiskAccess m) (console : Console) :
    List String → Session m (List Service)
  | [] => return []
  | path :: paths => do
    let file ← attempt (.sourceNotLoaded path) (readSource disk path)
    console.detail (file.origin ++ ": " ++ decimal file.services.length ++ " services")
    let services ← loadServices disk console paths
    return file.services ++ services

/-- Says first that details are shown. -/
def announce (console : Console) : Session m Unit :=
  if console.verbose then console.step "Verbose mode enabled" else pure ()

/-! ## Parsing -/

/-- The lines that show a method. -/
def methodLines (verbose : Bool) (method : Method) : List String :=
  let binding := method.binding
  let details :=
    ["    Input: " ++ method.inputType, "    Output: " ++ method.outputType] ++
      match binding.bodySelector with
      | none => []
      | some selector => ["    Body: " ++ selector]
  ("  • " ++ method.name ++ " " ++ binding.verb.name ++ " " ++ binding.pathTemplate)
    :: if verbose then details else []

/-- The lines that show a service. -/
def serviceLines (verbose : Bool) (service : Service) : List String :=
  "" :: service.fullName :: service.methods.flatMap (methodLines verbose)

/-- The lines that show a model. -/
def modelLines (verbose : Bool) (services : List Service) : List String :=
  let summary := ModelSummary.ofServices services
  ["",
   "✓ Parse successful!",
   "  Services: " ++ decimal summary.services.length,
   "  Methods: " ++ decimal summary.methodCount]
  ++ services.flatMap (serviceLines verbose)

/-- Shows the model of a file, or of the definition files below a directory. -/
def runParse (disk : DiskAccess m) (path : String) (json verbose : Bool) : Session m Unit := do
  let console : Console := { stream := if json then .diagnostics else .output, verbose }
  announce console
  let isDirectory := (← (disk.walk? path : m (Option Walk))).isSome
  let paths ← if isDirectory then discover disk console path else pure [path]
  let services ← loadServices disk console paths
  if json then writeLine .output (servicesToJson services).renderPretty
  else (modelLines verbose services).forM (writeLine .output)

/-! ## Generating -/

/-- The settings of a generation: those of the settings file, with what the options override. -/
def chosenSettings (disk : DiskAccess m) (options : GenerateOptions) : Session m Settings := do
  let settings ← match options.settingsPath with
    | some path => attempt .settingsNotLoaded (readSettings disk path)
    | none => pure {}
  return { settings with
    typesPath := options.typesPath.or settings.typesPath
    runtimeCrate := options.runtimeCrate.getD settings.runtimeCrate }

/-- The definition files of a generation. -/
def chosenSources (disk : DiskAccess m) (console : Console) :
    SourceChoice → Session m (List String)
  | .files paths => return paths
  | .directory path => do
    console.step ("Scanning directory: " ++ path)
    discover disk console path
  | .none => throw .noSource

/-- The lines that show what was generated. -/
def generatedLines (adapter : Adapter) (path : String) : List String :=
  ["", "✓ Generation complete!", "", "Services:"]
  ++ adapter.summary.services.map ("  • " ++ ·)
  ++ ["  Methods: " ++ decimal adapter.summary.methodCount, "", "Generated files:", "  📄 " ++ path]

/-- Generates an adapter. -/
def runGenerate (disk : DiskAccess m) (options : GenerateOptions) (verbose : Bool) :
    Session m Unit := do
  let console : Console := { stream := .output, verbose }
  announce console
  let paths ← chosenSources disk console options.source
  if paths.isEmpty then throw .noDefinitions
  let settings ← chosenSettings disk options
  console.detail ("Runtime crate: " ++ settings.runtimeCrate)
  console.detail ("Types path: " ++ settings.typesPath.getD "(including module)")
  console.detail ("Output: " ++ options.output)
  console.step ("Parsing " ++ decimal paths.length ++ " proto files...")
  let services ← loadServices disk console paths
  match requireServices services with
  | .error error => throw (.nothingToGenerate error)
  | .ok services =>
    console.step "Generating adapter..."
    let adapter ← attempt .notGenerated (writeAdapter disk settings services options.output)
    (generatedLines adapter (settings.outputPath options.output)).forM (writeLine .output)

/-! ## Answering plugin requests -/

/-- Answers a plugin request. The output carries the response and nothing else. -/
def runPlugin (input : List UInt8) (verbose : Bool) : Session m Unit := do
  let console : Console := { stream := .diagnostics, verbose }
  match Text.ofOctets? input with
  | none => throw (.requestNotRead .notText)
  | some text =>
    match PluginRequest.ofText? text, verbose with
    | some request, true =>
      console.step ("Plugin request with " ++ decimal request.files.length ++ " files")
    | _, _ => pure ()
    let response := respondTo text
    match response.error with
    | some error => console.failure error
    | none =>
      if verbose then
        console.success (decimal response.services.length ++ " services, "
          ++ decimal response.methodCount ++ " methods")
    modify fun transcript => transcript.add response.toJson.render .output

/-! ## Running -/

/-- How the program ended, and what it wrote. -/
structure Ending where
  status : Nat
  transcript : Transcript
  deriving DecidableEq

/-- Runs a session to its end. A session that fails reports its error. -/
def ending (session : Session m Unit) : m Ending := do
  let (result, transcript) ← (session.run).run {}
  match result with
  | .ok () => return { status := 0, transcript }
  | .error error => return { status := 1, transcript := transcript.add error.report .diagnostics }

/-- Runs a command. -/
def runCommand (disk : DiskAccess m) (input : List UInt8) (invocation : Invocation) :
    Session m Unit :=
  match invocation.command with
  | .parse path json => runParse disk path json invocation.verbose
  | .generate options => runGenerate disk options invocation.verbose
  | .plugin => runPlugin input invocation.verbose

/-- What is written about the use of the program. -/
def usage : String :=
  "Usage: rest-adapter-generator [OPTIONS] <COMMAND>\n\nCommands:\n  parse\n  generate\n  plugin\n"

/-- Runs the program. -/
def run (disk : DiskAccess m) (arguments : List String) (input : List UInt8) : m Ending :=
  match readInvocation arguments with
  | .ok invocation => ending (runCommand disk input invocation)
  | .error .help => return { status := 0, transcript := { output := usage } }
  | .error .rejected => return { status := 2, transcript := { diagnostics := usage } }

end Transcoding.CommandLine
