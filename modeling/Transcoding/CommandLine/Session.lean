import Transcoding.Adapter.Error
import Transcoding.Text.Decimal

/-!
# Sessions

A command writes lines to two streams as it goes and may end in an error. What it wrote before the
error stays written.
-/

namespace Transcoding.CommandLine

/-- What a command has written to its two streams. -/
structure Transcript where
  output : String := ""
  diagnostics : String := ""
  deriving DecidableEq

/-- The two streams. -/
inductive Stream where
  | output
  | diagnostics
  deriving DecidableEq

/-- The transcript with more text on a stream. -/
def Transcript.add (transcript : Transcript) (text : String) : Stream → Transcript
  | .output => { transcript with output := transcript.output ++ text }
  | .diagnostics => { transcript with diagnostics := transcript.diagnostics ++ text }

/-- Why a command fails. -/
inductive CommandError where
  | notADirectory (path : String)
  /-- The walk through a directory ended early, at the given path. -/
  | notWalked (directory path : String) (cause : FileError)
  | noSource
  | noDefinitions
  | sourceNotLoaded (path : String) (cause : GeneratorError)
  | settingsNotLoaded (cause : GeneratorError)
  | nothingToGenerate (cause : GeneratorError)
  | notGenerated (cause : GeneratorError)
  | requestNotRead (cause : FileError)
  deriving DecidableEq

/-- What went wrong, and the causes of it if there are any, the nearest one first. -/
def CommandError.chain : CommandError → List String
  | notADirectory path => ["Not a directory: " ++ path]
  | notWalked directory path cause =>
    ["Failed to walk directory " ++ directory,
     "IO error for operation on " ++ path ++ ": " ++ cause.message, cause.message]
  | noSource => ["Either --protos or --proto-dir must be specified"]
  | noDefinitions => ["No proto files found"]
  | sourceNotLoaded path cause => ["Failed to load " ++ path, cause.message]
  | settingsNotLoaded cause => ["Failed to load config", cause.message]
  | nothingToGenerate cause => ["Nothing to generate from the given protos", cause.message]
  | notGenerated cause => ["Failed to generate adapter", cause.message]
  | requestNotRead cause => ["Failed to read plugin request", cause.message]

/-- Whether the text of an error runs to the end of its report, so that no line feed follows it. -/
def CommandError.isOpenEnded : CommandError → Bool
  | settingsNotLoaded (.malformedSettings _) => true
  | _ => false

/-- A text whose lines after the first one start in the given column. -/
def hanging (column : Nat) (text : String) : String :=
  String.ofList (text.toList.flatMap fun c =>
    if c = '\n' then c :: List.replicate column ' ' else [c])

/-- The causes of an error, below each other. They are counted if there are several. -/
def causesText : List String → String
  | [] => ""
  | [cause] => "\n\nCaused by:\n    " ++ hanging 4 cause
  | causes => "\n\nCaused by:" ++ "".intercalate (causes.zipIdx.map fun (cause, place) =>
      "\n    " ++ Text.decimal place ++ ": " ++ hanging 7 cause)

/-- The report of an error. -/
def CommandError.report (error : CommandError) : String :=
  let text := "Error: " ++ error.chain.headD "" ++ causesText error.chain.tail
  if error.isOpenEnded then text else text ++ "\n"

/-- A command that runs in `m`. -/
abbrev Session (m : Type → Type) := ExceptT CommandError (StateT Transcript m)

variable {m : Type → Type} [Monad m]

/-- Writes a line to a stream. -/
def writeLine (stream : Stream) (text : String) : Session m Unit :=
  modify fun transcript => transcript.add (text ++ "\n") stream

/-- Runs an action on the disk, and reports its error with what the command was about. -/
def attempt {α : Type} (wrap : GeneratorError → CommandError)
    (action : ExceptT GeneratorError m α) : Session m α := do
  match ← (action.run : m (Except GeneratorError α)) with
  | .ok value => return value
  | .error error => throw (wrap error)

/-- Where progress is written, and whether details are. -/
structure Console where
  stream : Stream
  verbose : Bool

namespace Console

/-- Says what is being done. -/
def step (console : Console) (text : String) : Session m Unit :=
  writeLine console.stream ("→ " ++ text)

/-- Says what has been done. -/
def success (console : Console) (text : String) : Session m Unit :=
  writeLine console.stream ("✓ " ++ text)

/-- Says what has failed. -/
def failure (console : Console) (text : String) : Session m Unit :=
  writeLine console.stream ("✗ " ++ text)

/-- Says more, if details are asked for. -/
def detail (console : Console) (text : String) : Session m Unit :=
  if console.verbose then writeLine console.stream ("  " ++ text) else pure ()

end Console

end Transcoding.CommandLine
