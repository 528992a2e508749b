import Transcoding.Disk.FileError
import Transcoding.Disk.FileTree
import Transcoding.Text.Utf8

/-!
# Volumes

A volume is a file tree with a working directory. A path leads through the tree, from the root or
from the working directory: each step starts in a directory, and a path leads nowhere if a step has
no entry to go to. The parent of the root is the root.
-/

namespace Transcoding

open Transcoding.Text Transcoding.Disk

/-- A file tree and the names that lead to the working directory. -/
structure Volume where
  root : FileTree
  working : List String

namespace Volume

/-- The volume with nothing but a working directory and the directories that it lies in. -/
def emptyAt (working : List String) : Volume where
  root := working.foldr (fun name tree => .directory [(name, tree)]) .empty
  working := working

/-- The names of the directory in which a path starts. -/
def origin (volume : Volume) (path : String) : List String :=
  if isAbsolute path then [] else volume.working

/-! ## Finding -/

/-- The names under which steps end, from the directory under the names `here`. -/
def follow (root : FileTree) : List String → List Step → Except FileError (List String)
  | here, [] => .ok here
  | here, step :: rest =>
    match root.at? here with
    | none => .error .notFound
    | some (.file _) => .error .notADirectory
    | some (.directory entries) =>
      match step with
      | .up => follow root here.dropLast rest
      | .into name =>
        if maxNameSize < name.utf8ByteSize then .error .nameTooLong
        else match entries.lookup name with
          | none => .error .notFound
          | some _ => follow root (here ++ [name]) rest

/-- Why a path cannot be looked up on any volume. -/
def pathFault? (path : String) : Option FileError :=
  if path.toList.contains '\x00' then some .zeroInName
  else if maxPathSize < path.utf8ByteSize then some .nameTooLong
  else none

/-- The node at a path. -/
def find (volume : Volume) (path : String) : Except FileError FileTree :=
  match pathFault? path with
  | some error => .error error
  | none =>
    if path = "" then .error .notFound
    else do
      let names ← follow volume.root (volume.origin path) (steps path)
      match volume.root.at? names with
      | none => .error .notFound
      | some (.file content) =>
        if namesDirectory path then .error .notADirectory else .ok (.file content)
      | some (.directory entries) => .ok (.directory entries)

/-- The directory at a path. -/
def directory? (volume : Volume) (path : String) : Option FileTree :=
  match volume.find path with
  | .ok (.directory entries) => some (.directory entries)
  | _ => none

/-- The text of the file at a path. -/
def readText (volume : Volume) (path : String) : Except FileError String := do
  match ← volume.find path with
  | .directory _ => .error .isADirectory
  | .file content =>
    match ofOctets? content with
    | some text => .ok text
    | none => .error .notText

/-! ## Changing -/

/-- The tree with the directories of the steps, from the directory under the names `here`. A
directory that is not there is created, except at the end of a path that ends in a dot. A file in
the way of a path is no directory; at the end of the path, or once a directory has been made, it
is a file that exists already. -/
def makeSteps (dotted : Bool) :
    Bool → FileTree → List String → List Step → FileTree × Except FileError Unit
  | _, root, _, [] => (root, .ok ())
  | made, root, here, .up :: rest => makeSteps dotted made root here.dropLast rest
  | made, root, here, .into name :: rest =>
    if maxNameSize < name.utf8ByteSize then (root, .error .nameTooLong)
    else
      let there := here ++ [name]
      match root.at? there with
      | some (.directory _) => makeSteps dotted made root there rest
      | some (.file _) =>
        let inTheWay := if rest.isEmpty then dotted else !made
        (root, .error (if inTheWay then .notADirectory else .alreadyExists))
      | none =>
        if rest.isEmpty && dotted then (root, .error .notFound)
        else makeSteps dotted true (FileTree.setAt .empty there root) there rest

/-- The volume with a directory and its parents. -/
def makeDirectories (volume : Volume) (path : String) : Volume × Except FileError Unit :=
  match pathFault? path with
  | some error => (volume, .error error)
  | none =>
    let (root, result) :=
      makeSteps (endsInDot path) false volume.root (volume.origin path) (steps path)
    ({ volume with root }, result)

/-- The volume with a file. Its directory has to be there. -/
def writeOctets (volume : Volume) (path : String) (content : List UInt8) :
    Volume × Except FileError Unit :=
  match pathFault? path with
  | some error => (volume, .error error)
  | none =>
    if path = "" then (volume, .error .notFound)
    else
      let parent := if endsInDot path then steps path else (steps path).dropLast
      match follow volume.root (volume.origin path) parent with
      | .error error => (volume, .error error)
      | .ok names =>
        match volume.root.at? names with
        | some (.directory entries) =>
          match (steps path).getLast?, namesDirectory path with
          | some (.into name), false =>
            if maxNameSize < name.utf8ByteSize then (volume, .error .nameTooLong)
            else match entries.lookup name with
              | some (.directory _) => (volume, .error .isADirectory)
              | _ =>
                let root := FileTree.setAt (.file content) (names ++ [name]) volume.root
                ({ volume with root }, .ok ())
          | _, _ => (volume, .error .isADirectory)
        | _ => (volume, .error .notADirectory)

/-- The volume with a text file. -/
def writeText (volume : Volume) (path text : String) : Volume × Except FileError Unit :=
  volume.writeOctets path (toOctets text.toList)

end Volume

end Transcoding
