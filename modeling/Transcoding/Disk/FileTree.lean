import Transcoding.Disk.Path

/-!
# File trees

Files and directories as a tree. The entries of a directory are in ascending order of their names.
A node of a tree is found under the list of the names that lead to it. Names are texts: a tree has
no entry whose name is not UTF-8.
-/

namespace Transcoding

open Transcoding.Disk

/-- A file or a directory. -/
inductive FileTree where
  | file (content : List UInt8)
  | directory (entries : List (String × FileTree))

namespace FileTree

/-- The empty directory. -/
def empty : FileTree := .directory []

/-- The entries with one of them set. -/
def insertEntry (name : String) (node : FileTree) :
    List (String × FileTree) → List (String × FileTree)
  | [] => [(name, node)]
  | (n, t) :: rest =>
    if name < n then (name, node) :: (n, t) :: rest
    else if name = n then (name, node) :: rest
    else (n, t) :: insertEntry name node rest

/-- The node under a list of names. -/
def at? : FileTree → List String → Option FileTree
  | node, [] => some node
  | .file _, _ :: _ => none
  | .directory entries, name :: names => do at? (← entries.lookup name) names

/-- The tree with a node set under a list of names. Nothing is set below a file or below a name
that is not there. -/
def setAt (node : FileTree) : List String → FileTree → FileTree
  | [], _ => node
  | _ :: _, .file content => .file content
  | [name], .directory entries => .directory (insertEntry name node entries)
  | name :: names, .directory entries =>
    match entries.lookup name with
    | some child => .directory (insertEntry name (setAt node names child) entries)
    | none => .directory entries

/-! ## Listing -/

mutual
/-- The files of a tree at a path, each with its own name, in the order of the entries. -/
def filesAt (path name : String) : FileTree → List (String × String)
  | .file _ => [(path, name)]
  | .directory entries => filesOf path entries

/-- The files of the entries of a directory. -/
def filesOf (directory : String) : List (String × FileTree) → List (String × String)
  | [] => []
  | (name, node) :: rest =>
    filesAt (joinPath directory name) name node ++ filesOf directory rest
end

/-- The paths of the files below a directory, each with its own name. -/
def filesBelow (directory : String) : FileTree → List (String × String)
  | .file _ => []
  | .directory entries => filesOf directory entries

end FileTree

end Transcoding
