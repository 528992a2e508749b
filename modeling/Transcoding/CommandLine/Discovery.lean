import Transcoding.CommandLine.Session
import Transcoding.Disk.Basic
import Transcoding.Text.Decimal

/-!
# Discovery

The definition files below a directory: the files whose extension is `proto`, at any depth, in the
order of a walk that takes the entries of each directory by name.
-/

namespace Transcoding.CommandLine

open Transcoding.Disk Transcoding.Text

/-- Whether a file with the given name is a definition file. -/
def isDefinition (name : String) : Bool := extension? name == some "proto"

/-- The paths of the definition files of a tree that stands at a path. -/
def definitionsBelow (path : String) (tree : FileTree) : List String :=
  ((tree.filesBelow path).filter fun (_, name) => isDefinition name).map (·.1)

variable {m : Type → Type} [Monad m]

/-- Finds the definition files below a directory. -/
def discover (disk : DiskAccess m) (console : Console) (directory : String) :
    Session m (List String) := do
  match ← (disk.walk? directory : m (Option Walk)) with
  | none => throw (.notADirectory directory)
  | some walk =>
    let found := definitionsBelow directory walk.tree
    for path in found do
      console.detail ("Found: " ++ path)
    match walk.fault with
    | some (path, cause) => throw (.notWalked directory path cause)
    | none =>
      console.success ("Discovered " ++ decimal found.length ++ " proto files")
      return found

end Transcoding.CommandLine
