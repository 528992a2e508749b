import Transcoding.Adapter.Document
import Transcoding.Adapter.Error
import Transcoding.Adapter.SettingsText
import Transcoding.Declaration.Document
import Transcoding.Disk.Basic

/-!
# Reading from and writing to a disk

Definitions and settings are read from files, and the document is written into a directory, which
is created if it is not there. Nothing is written if the model has no outline.
-/

namespace Transcoding

variable {m : Type → Type} [Monad m]

/-- A definition file: its path, and its text. -/
structure SourceFile where
  origin : String
  text : String
  deriving DecidableEq

/-- The services that a definition file declares. -/
def SourceFile.services (file : SourceFile) : List Service := Declaration.servicesOf file.text

/-- Reads a definition file. -/
def readSource (disk : DiskAccess m) (path : String) : ExceptT GeneratorError m SourceFile := do
  match ← disk.readText path with
  | .ok text => return { origin := path, text }
  | .error error => throw (.unreadableSource path error)

/-- Reads a settings file. -/
def readSettings (disk : DiskAccess m) (path : String) : ExceptT GeneratorError m Settings := do
  match ← disk.readText path with
  | .error error => throw (.unreadableSettings path error)
  | .ok text =>
    match Settings.ofText? text with
    | some settings => return settings
    | none => throw (.malformedSettings path)

/-- The services of a model that has some. -/
def requireServices (services : List Service) : Except GeneratorError (List Service) :=
  if services.isEmpty then .error .noServices else .ok services

/-- The adapter of a model. -/
def generateAdapter (settings : Settings) (services : List Service) :
    Except GeneratorError Adapter :=
  (generate settings services).mapError .invalidTemplate

/-- The path of the document in a directory. -/
def Settings.outputPath (settings : Settings) (directory : String) : String :=
  Disk.joinPath directory settings.outputFile

/-- Generates the adapter of a model and writes it into a directory. -/
def writeAdapter (disk : DiskAccess m) (settings : Settings) (services : List Service)
    (directory : String) : ExceptT GeneratorError m Adapter := do
  let adapter ← liftExcept (generateAdapter settings services)
  match ← disk.makeDirectories directory with
  | .error error => throw (.directoryNotMade error)
  | .ok () =>
    let path := settings.outputPath directory
    match ← disk.writeText path adapter.content with
    | .error error => throw (.documentNotWritten path error)
    | .ok () => return adapter
where
  liftExcept {α : Type} : Except GeneratorError α → ExceptT GeneratorError m α
    | .ok value => pure value
    | .error error => throw error

end Transcoding
