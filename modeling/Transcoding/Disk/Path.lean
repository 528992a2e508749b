import Transcoding.Text.Cut

/-!
# Paths

A path is read as a list of steps from the root of the disk or from the working directory. What a
step means depends on the disk: each one starts in a directory.
-/

namespace Transcoding.Disk

open Transcoding.Text

/-- The greatest number of octets of a name. -/
def maxNameSize : Nat := 255

/-- The greatest number of octets of a path. -/
def maxPathSize : Nat := 4095

/-- One step of a path. -/
inductive Step where
  /-- To the parent directory. -/
  | up
  /-- To the entry with this name. -/
  | into (name : String)
  deriving DecidableEq

/-- The parts of a path between its slashes. -/
def pathParts (path : String) : List (List Char) := fields '/' path.toList

/-- The step of a part; an empty part and a dot are none. -/
def Step.ofPart? (part : List Char) : Option Step :=
  if part = [] || part = ['.'] then none
  else if part = ['.', '.'] then some .up
  else some (.into (String.ofList part))

/-- The steps of a path. -/
def steps (path : String) : List Step := (pathParts path).filterMap Step.ofPart?

/-- Whether a path starts at the root of the disk. -/
def isAbsolute (path : String) : Bool := ['/'].isPrefixOf path.toList

/-- The last part of a path. -/
def lastPart (path : String) : List Char := (pathParts path).getLast?.getD []

/-- Whether the end of a path says that it leads to a directory: a slash, a dot or two dots. -/
def namesDirectory (path : String) : Bool :=
  let part := lastPart path
  part == [] || part == ['.'] || part == ['.', '.']

/-- Whether a path ends in a dot, with slashes after it or not. -/
def endsInDot (path : String) : Bool :=
  ((pathParts path).filter (· != [])).getLast? == some ['.']

/-- The path of an entry of a directory. An absolute path stays as it is. -/
def joinPath (directory entry : String) : String :=
  if isAbsolute entry then entry
  else if directory = "" || directory.toList.getLast? == some '/' then directory ++ entry
  else directory ++ "/" ++ entry

/-- The extension of a file name: the text after its last dot, if there is text before that dot. -/
def extension? (name : String) : Option String :=
  match splitAtLast ['.'] name.toList with
  | some (_ :: _, rest) => some (String.ofList (rest.drop 1))
  | _ => none

end Transcoding.Disk
