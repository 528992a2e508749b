import Transcoding.CommandLine.Program

/-!
# The command line

The program on the disk and the streams of the machine.
-/

namespace Transcoding.CommandLine

/-- The reason of a failure of the machine. A code may be given as its negative. -/
def fileErrorOf (error : IO.Error) : FileError :=
  let ofType (code : UInt32) : FileError :=
    if code = 20 || 0 - code = 20 then .notADirectory
    else if code = 21 || 0 - code = 21 then .isADirectory
    else .other (toString error)
  match error with
  | .noFileOrDirectory _ _ _ => .notFound
  | .alreadyExists _ _ _ => .alreadyExists
  | .inappropriateType _ code _ => ofType code
  | _ => .other (toString error)

/-- The result of an action, with the reason if it fails. -/
def guarded {α : Type} (action : IO α) : IO (Except FileError α) := do
  try
    return .ok (← action)
  catch error =>
    return .error (fileErrorOf error)

/-- The names in a directory and what stands there, by name. A link is not followed. -/
def listing (directory : String) : IO (List (String × IO.FS.FileType)) := do
  let mut entries := []
  for entry in ← (← IO.FS.realPath directory).readDir do
    entries := (entry.fileName, (← entry.path.symlinkMetadata).type) :: entries
  return entries.mergeSort fun a b => a.1 ≤ b.1

/-- The walk through a directory. Only directories and regular files are seen. -/
partial def walkBelow (directory : String) : IO Walk := do
  match ← guarded (listing directory) with
  | .error error => return { tree := .empty, fault := some (directory, error) }
  | .ok listed =>
    let mut entries := []
    for (name, kind) in listed do
      match kind with
      | .file => entries := FileTree.insertEntry name (.file []) entries
      | .dir =>
        let walk ← walkBelow (Disk.joinPath directory name)
        entries := FileTree.insertEntry name walk.tree entries
        if walk.fault.isSome then return { walk with tree := .directory entries }
      | .symlink | .other => pure ()
    return { tree := .directory entries }

/-- Whether a directory stands at a path. -/
def isDirectory (path : String) : IO Bool := do
  try
    (← IO.FS.realPath path).isDir
  catch _ => return false

/-- Creates a directory and, if they are missing, its parents. -/
partial def makePath (path : String) : IO (Except FileError Unit) := do
  if path = "" then return .ok ()
  let create := guarded (IO.FS.createDir path)
  match ← create with
  | .ok () => return .ok ()
  | .error .notFound =>
    let parent := Text.join "/" ((Disk.pathParts path).dropLast.map String.ofList)
    match ← makePath parent with
    | .error error => return .error error
    | .ok () =>
      let result ← create
      if ← isDirectory path then return .ok () else return result
  | .error error => if ← isDirectory path then return .ok () else return .error error

/-- The disk of the machine. -/
def machineDisk : DiskAccess IO where
  walk? path := do
    if path != "" && (← isDirectory path) then return some (← walkBelow path) else return none
  readText path := do
    match ← guarded (IO.FS.readBinFile path) with
    | .error error => return .error error
    | .ok content =>
      match Text.ofOctets? content.toList with
      | some text => return .ok text
      | none => return .error .notText
  makeDirectories path := makePath path
  writeText path text := guarded (IO.FS.writeFile path text)

/-- The input of the program, which only a plugin reads. -/
def programInput (arguments : List String) : IO ByteArray := do
  match readInvocation arguments with
  | .ok { command := .plugin, .. } => (← IO.getStdin).readBinToEnd
  | _ => return ByteArray.empty

end Transcoding.CommandLine

/-- Runs the program. -/
def main (arguments : List String) : IO UInt32 := do
  let input ← Transcoding.CommandLine.programInput arguments
  let ending ← Transcoding.CommandLine.run Transcoding.CommandLine.machineDisk arguments
    input.toList
  (← IO.getStdout).putStr ending.transcript.output
  (← IO.getStderr).putStr ending.transcript.diagnostics
  return UInt32.ofNat ending.status
