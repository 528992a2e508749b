import Transcoding.CommandLine.Discovery
import Transcoding.Proofs.CommandLine.Session
import Transcoding.Proofs.Disk.Listing

/-!
# What a discovery finds

A discovery finds the definition files below a directory, all of them and nothing else
(`mem_definitionsBelow_iff`). Their paths ascend component by component
(`pairwise_definitionsBelow`), so each is found once. On a volume a discovery ends with these paths,
or it fails where there is no directory (`discover_complete`). Files whose names are not UTF-8 are
not part of a volume, and nothing is said about them.
-/

namespace Transcoding.CommandLine

open Transcoding.Disk Transcoding.Text FileTree

/-- The name of a definition file: the extension, with a stem before it. -/
def IsDefinitionName (name : String) : Prop := ∃ stem, stem ≠ "" ∧ name = stem ++ ".proto"

/-- A definition file is known by its extension. -/
theorem isDefinition_iff {name : String} : isDefinition name = true ↔ IsDefinitionName name := by
  have hdot : ['.'] ≠ [] := List.cons_ne_nil _ _
  have hlast : ¬ ['.'] <:+: (".proto".toList).tail := by decide
  rw [isDefinition, beq_iff_eq, extension?]
  constructor
  · intro h
    split at h
    · next c before rest hsplit =>
      obtain ⟨hname, ⟨after, rfl⟩, -⟩ := (splitAtLast_eq_some_iff hdot).1 hsplit
      have hafter : after = "proto".toList := by
        simpa using congrArg String.toList (Option.some.inj h)
      refine ⟨String.ofList (c :: before), by simp, String.toList_inj.1 ?_⟩
      simp [hname, hafter]
    · cases h
  · rintro ⟨stem, hstem, rfl⟩
    have hne : stem.toList ≠ [] := by simpa using hstem
    obtain ⟨c, before, hcons⟩ := List.exists_cons_of_ne_nil hne
    have hsplit : splitAtLast ['.'] (stem ++ ".proto").toList =
        some (c :: before, ".proto".toList) :=
      (splitAtLast_eq_some_iff hdot).2 ⟨by simp [hcons], by decide, hlast⟩
    rw [hsplit]
    rfl

/-- The names lead to a definition file of the tree. -/
def IsDefinitionAt (tree : FileTree) (names : List String) : Prop :=
  ∃ parents name content, names = parents ++ [name] ∧ IsDefinitionName name ∧
    tree.at? names = some (.file content)

/-- The definition files below a directory, by the names that lead to them. -/
theorem definitionsBelow_eq (path : String) (entries : List (String × FileTree)) :
    definitionsBelow path (.directory entries) =
      ((fileNames (.directory entries)).filter fun names => isDefinition (names.getLastD "")).map
        (·.foldl joinPath path) := by
  rw [definitionsBelow, filesBelow, filesOf_eq path "", List.filter_map, List.map_map]
  rfl

section
variable {entries : List (String × FileTree)}

/-- A discovery finds the definition files of the tree and nothing else. -/
theorem mem_definitionsBelow_iff (h : (directory entries).Listed) {path found : String} :
    found ∈ definitionsBelow path (.directory entries) ↔
      ∃ names, IsDefinitionAt (.directory entries) names ∧ found = names.foldl joinPath path := by
  rw [definitionsBelow_eq, List.mem_map]
  constructor
  · rintro ⟨names, hmem, rfl⟩
    obtain ⟨hmem, hdefinition⟩ := List.mem_filter.1 hmem
    obtain ⟨content, hfile⟩ := h.mem_fileNames_iff.1 hmem
    have hne : names ≠ [] := by
      rintro rfl
      simp [at?_nil] at hfile
    have hlast : names = names.dropLast ++ [names.getLastD ""] := by
      rw [List.getLastD_eq_getLast?, List.getLast?_eq_some_getLast hne, Option.getD_some,
        List.dropLast_append_getLast]
    exact ⟨names, ⟨_, _, content, hlast, isDefinition_iff.1 hdefinition, hfile⟩, rfl⟩
  · rintro ⟨names, ⟨parents, name, content, rfl, hname, hfile⟩, rfl⟩
    refine ⟨parents ++ [name], List.mem_filter.2 ⟨h.mem_fileNames_iff.2 ⟨content, hfile⟩, ?_⟩, rfl⟩
    simpa using isDefinition_iff.2 hname

/-- A discovery finds the definition files in the order of the components of their paths. -/
theorem pairwise_definitionsBelow (h : (directory entries).Listed) (path : String) :
    (definitionsBelow path (.directory entries)).Pairwise PathBefore := by
  rw [definitionsBelow_eq, List.pairwise_map]
  refine (h.pairwise_fileNames.filter _).imp_of_mem fun hmem hmem' hlex => ?_
  exact pathBefore_of_lex (h.isEntryName _ (List.mem_of_mem_filter hmem))
    (h.isEntryName _ (List.mem_of_mem_filter hmem')) hlex

end

/-- A discovery gives what is below the directory, and it leaves the volume as it is. -/
theorem endsOn_discover (console : Console) (path : String) (volume : Volume) :
    EndsOn (discover Volume.access console path) volume
      (match volume.directory? path with
        | some tree => .ok (definitionsBelow path tree)
        | none => .error (.notADirectory path)) volume := by
  have hwalk : (Volume.access.walk? path).run volume =
      ((volume.directory? path).map fun tree => { tree }, volume) := rfl
  refine (endsOn_liftM hwalk).bind ?_
  cases volume.directory? path with
  | none => exact endsOn_throw (.notADirectory path) volume
  | some tree =>
    refine (endsOn_forIn (fun found => ?_) _).bind ?_
    · exact (endsOn_detail console _ volume).bind (endsOn_pure _ volume)
    · exact (endsOn_writeLine console.stream _ volume).bind (endsOn_pure _ volume)

/-- **A discovery is complete and in order.** Where there is no directory a discovery fails. Else it
ends with the paths of the definition files below the directory, each once, in the order of their
components. -/
theorem discover_complete (volume : Volume) (console : Console) (directory : String) :
    (volume.directory? directory = none →
      EndsOn (discover Volume.access console directory) volume (.error (.notADirectory directory))
        volume) ∧
    ∀ tree, volume.directory? directory = some tree → tree.Listed →
      ∃ found, EndsOn (discover Volume.access console directory) volume (.ok found) volume ∧
        (∀ path, path ∈ found ↔
          ∃ names, IsDefinitionAt tree names ∧ path = names.foldl joinPath directory) ∧
        found.Nodup ∧ found.Pairwise PathBefore := by
  have hends := endsOn_discover console directory volume
  constructor
  · intro hnone
    rwa [hnone] at hends
  · intro tree htree hlisted
    obtain ⟨-, entries, rfl, -⟩ := Volume.exists_of_directory?_eq_some htree
    have hsorted := pairwise_definitionsBelow hlisted directory
    rw [htree] at hends
    exact ⟨_, hends, fun path => mem_definitionsBelow_iff hlisted, hsorted.imp PathBefore.ne,
      hsorted⟩

/-- A volume with two definition files, a file without a stem and a directory with a name like
theirs. -/
def definitionVolume : Volume :=
  let volume := (Volume.emptyAt []).makeDirectories "d/a" |>.1
  let volume := volume.makeDirectories "d/x.proto" |>.1
  let volume := volume.writeText "d/a.proto" "" |>.1
  let volume := volume.writeText "d/a/b.proto" "" |>.1
  volume.writeText "d/.proto" "" |>.1

/-- The entries of the volume have names and are in order. -/
theorem listed_definitionVolume : definitionVolume.root.Listed := by
  have hempty : (Volume.emptyAt []).root.Listed := listed_empty
  have hdirectories := Volume.listed_makeDirectories
    (Volume.listed_makeDirectories hempty "d/a") "d/x.proto"
  exact Volume.listed_writeOctets (Volume.listed_writeOctets
    (Volume.listed_writeOctets hdirectories "d/a.proto" _) "d/a/b.proto" _) "d/.proto" _

/-- What is in a directory comes before the file next to it, although the text of the second path is
the lesser one: a dot comes before a slash. -/
theorem discover_complete_definitionVolume : ∃ tree found,
    definitionVolume.directory? "d" = some tree ∧ tree.Listed ∧
      EndsOn (discover Volume.access ⟨.output, true⟩ "d") definitionVolume (.ok found)
        definitionVolume ∧
      found = ["d/a/b.proto", "d/a.proto"] ∧ found.Nodup ∧ found.Pairwise PathBefore := by
  have hsome : (definitionVolume.directory? "d").isSome = true := by decide +kernel
  obtain ⟨tree, htree⟩ := Option.isSome_iff_exists.1 hsome
  have hlisted := Volume.listed_directory? listed_definitionVolume htree
  obtain ⟨found, hends, -, hnodup, hsorted⟩ :=
    (discover_complete definitionVolume ⟨.output, true⟩ "d").2 tree htree hlisted
  have hrun :
      (runOn (discover Volume.access ⟨.output, true⟩ "d") {} definitionVolume).1.1.toOption =
        some ["d/a/b.proto", "d/a.proto"] := by decide +kernel
  obtain ⟨after, hafter⟩ := hends {}
  rw [hafter] at hrun
  exact ⟨tree, found, htree, hlisted, hends, Option.some.inj hrun, hnodup, hsorted⟩

end Transcoding.CommandLine
