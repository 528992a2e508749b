import Transcoding.Disk.Volume

/-!
# Disks

What a command needs of a disk. A volume that a command changes as it runs is one; the disk of the
machine is another.
-/

namespace Transcoding

/-- A walk through a directory, which takes the entries of each directory by name and ends at the
first one that it cannot look into. -/
structure Walk where
  /-- What the walk has seen. Nothing is said about the content of the files. -/
  tree : FileTree
  /-- Where and why the walk ended early. -/
  fault : Option (String × FileError) := none

/-- The operations of a disk, in a monad. -/
structure DiskAccess (m : Type → Type) where
  /-- The walk through the directory at a path. -/
  walk? : String → m (Option Walk)
  /-- The text of the file at a path. -/
  readText : String → m (Except FileError String)
  /-- Creates a directory and its parents. -/
  makeDirectories : String → m (Except FileError Unit)
  /-- Writes a text to the file at a path. -/
  writeText : String → String → m (Except FileError Unit)

/-- The disk that is a volume. Each of its directories can be looked into. -/
def Volume.access : DiskAccess (StateM Volume) where
  walk? path := return ((← get).directory? path).map fun tree => { tree }
  readText path := return (← get).readText path
  makeDirectories path := do
    let (volume, result) := (← get).makeDirectories path
    set volume
    return result
  writeText path text := do
    let (volume, result) := (← get).writeText path text
    set volume
    return result

end Transcoding
