import Transcoding.Proofs.Disk.Change
import Transcoding.Proofs.Result
import Transcoding.Proofs.Text.Cut
import Mathlib.Data.List.Lex

/-!
# Trees in order

In a tree that is in order (`FileTree.Listed`) the names in each directory ascend by their octets.
A walk through such a tree comes to every file (`Listed.mem_fileNames_iff`), and it comes to the
files in the order of the names that lead to them (`Listed.pairwise_fileNames`). A name becomes a
component of a path of its own (`components_joinPath`), so the paths of the files ascend component
by component, which is not the order of the paths as texts.

The trees of volumes are in order: setting an entry keeps the order (`listed_setAt`), and so does
whatever is done to a volume.
-/

namespace Transcoding

open Transcoding.Disk Transcoding.Text

namespace Disk

/-! ## Names and components -/

/-- A name that an entry of a directory can have. -/
structure IsEntryName (name : String) : Prop where
  ne_empty : name ≠ ""
  slash_not_mem : '/' ∉ name.toList
  ne_dot : name ≠ "."
  ne_dots : name ≠ ".."

/-- The octets of the one name come before those of the other. -/
def NameBefore (a b : String) : Prop := toOctets a.toList < toOctets b.toList

/-- Names are ordered by their octets as they are by their characters. -/
theorem nameBefore_iff {a b : String} : NameBefore a b ↔ a < b := toOctets_lt_iff

/-- A component of a path. -/
inductive Component where
  /-- The root of the disk, at the start of an absolute path. -/
  | root
  /-- A dot at the start of a path. -/
  | current
  /-- Two dots. -/
  | parent
  | normal (name : String)
  deriving DecidableEq

namespace Component

/-- The order of the kinds of components. -/
def rank : Component → Nat
  | root => 0
  | current => 1
  | parent => 2
  | normal _ => 3

/-- Components in order: names by their octets, after all others. -/
def Before : Component → Component → Prop
  | normal a, normal b => NameBefore a b
  | a, b => a.rank < b.rank

/-- The component that a step is. -/
def ofStep : Step → Component
  | .up => parent
  | .into name => normal name

end Component

/-- Where a path starts, if it says so. -/
def startOf (path : String) : List Component :=
  if isAbsolute path then [.root]
  else if (pathParts path).head? = some ['.'] then [.current]
  else []

/-- The components of a path. Empty parts are none, nor are dots after the start. -/
def components (path : String) : List Component :=
  startOf path ++ (steps path).map Component.ofStep

/-- The components of the one path come before those of the other. -/
def PathBefore (a b : String) : Prop := List.Lex Component.Before (components a) (components b)

/-- No component comes before itself. -/
theorem Component.not_before_self (component : Component) : ¬ component.Before component := by
  cases component with
  | normal name => exact List.lt_irrefl _
  | _ => exact Nat.lt_irrefl _

/-- The order of paths is strict. -/
theorem PathBefore.ne {a b : String} (h : PathBefore a b) : a ≠ b := by
  rintro rfl
  exact List.lex_irrefl Component.not_before_self _ h

section
variable {name : String}

/-- A name is a path of one part. -/
theorem IsEntryName.pathParts_eq (h : IsEntryName name) : pathParts name = [name.toList] :=
  fields_eq_iff.2 ⟨by simp, by simp, by simpa using h.slash_not_mem⟩

/-- A name is a step into it. -/
theorem IsEntryName.ofPart?_eq (h : IsEntryName name) :
    Step.ofPart? name.toList = some (.into name) := by
  have hempty : name.toList ≠ [] := by simpa using h.ne_empty
  have hdot : name.toList ≠ ['.'] := fun heq => h.ne_dot (String.toList_inj.1 heq)
  have hdots : name.toList ≠ ['.', '.'] := fun heq => h.ne_dots (String.toList_inj.1 heq)
  simp [Step.ofPart?, hempty, hdot, hdots]

/-- A name is not an absolute path. -/
theorem IsEntryName.not_isAbsolute (h : IsEntryName name) : isAbsolute name = false := by
  rw [isAbsolute, Bool.eq_false_iff]
  intro habsolute
  obtain ⟨rest, hrest⟩ := List.isPrefixOf_iff_prefix.1 habsolute
  exact h.slash_not_mem (by simp [← hrest])

/-- The name of an entry has one component. -/
theorem IsEntryName.components_eq (h : IsEntryName name) : components name = [.normal name] := by
  have hdot : name.toList ≠ ['.'] := fun heq => h.ne_dot (String.toList_inj.1 heq)
  simp [components, startOf, steps, h.not_isAbsolute, h.pathParts_eq, h.ofPart?_eq, hdot,
    Component.ofStep]

/-- A longer path is absolute if the path is, unless that is empty. -/
theorem isAbsolute_append {path : String} (hpath : path ≠ "") (rest : String) :
    isAbsolute (path ++ rest) = isAbsolute path := by
  obtain ⟨c, cs, hcons⟩ := List.exists_cons_of_ne_nil (by simpa using hpath : path.toList ≠ [])
  simp [isAbsolute, hcons, List.isPrefixOf]

/-- One more part, in the place of an empty one or after all parts, is one more component. -/
theorem components_of_pathParts {path path' : String} {parts : List (List Char)}
    (hparts : parts ≠ []) (hpath : pathParts path = parts ∨ pathParts path = parts ++ [[]])
    (hpath' : pathParts path' = parts ++ [name.toList])
    (habsolute : isAbsolute path' = isAbsolute path) (h : IsEntryName name) :
    components path' = components path ++ [.normal name] := by
  have hhead (part : List Char) : (parts ++ [part]).head? = parts.head? :=
    List.head?_append_of_ne_nil _ hparts
  have hsteps : steps path' = steps path ++ [.into name] := by
    have hempty : Step.ofPart? [] = none := rfl
    rcases hpath with hpath | hpath <;>
      simp [steps, hpath, hpath', List.filterMap_append, h.ofPart?_eq, hempty]
  have hstart : startOf path' = startOf path := by
    rcases hpath with hpath | hpath <;> simp only [startOf, habsolute, hpath, hpath', hhead]
  rw [components, hstart, hsteps, List.map_append, ← List.append_assoc]
  rfl

/-- The path of an entry has one component more than that of its directory. -/
theorem components_joinPath (directory : String) (h : IsEntryName name) :
    components (joinPath directory name) = components directory ++ [.normal name] := by
  rw [joinPath, h.not_isAbsolute, if_neg (by simp)]
  by_cases hempty : directory = ""
  · subst hempty
    rw [if_pos (by simp), String.empty_append, h.components_eq]
    rfl
  by_cases hslash : directory.toList.getLast? = some '/'
  · rw [if_pos (by simp [hslash])]
    obtain ⟨front, hfront⟩ := List.getLast?_eq_some_iff.1 hslash
    have hdirectory : pathParts directory = fields '/' front ++ [[]] := by
      rw [pathParts, hfront]
      exact fields_append '/' front []
    have hjoined : pathParts (directory ++ name) = fields '/' front ++ [name.toList] := by
      rw [pathParts, String.toList_append, hfront, List.append_assoc, List.singleton_append,
        fields_append]
      exact congrArg _ h.pathParts_eq
    exact components_of_pathParts (fields_eq_iff.1 rfl).1 (.inr hdirectory) hjoined
      (isAbsolute_append hempty name) h
  · rw [if_neg (by simp [hempty, hslash])]
    have hjoined : pathParts (directory ++ "/" ++ name) = pathParts directory ++ [name.toList] := by
      have htext : (directory ++ "/" ++ name).toList = directory.toList ++ '/' :: name.toList := by
        simp
      rw [pathParts, htext, fields_append]
      exact congrArg _ h.pathParts_eq
    have habsolute : isAbsolute (directory ++ "/" ++ name) = isAbsolute directory := by
      rw [String.append_assoc]
      exact isAbsolute_append hempty _
    exact components_of_pathParts (fields_eq_iff.1 rfl).1 (.inl rfl) hjoined habsolute h

/-- The path of a file has the components of the directory and the names that lead to the file. -/
theorem components_foldl_joinPath (directory : String) {names : List String}
    (h : ∀ name ∈ names, IsEntryName name) :
    components (names.foldl joinPath directory) = components directory ++ names.map .normal := by
  induction names generalizing directory with
  | nil => simp
  | cons name names ih =>
    rw [List.forall_mem_cons] at h
    rw [List.foldl_cons, ih _ h.2, components_joinPath directory h.1, List.append_assoc]
    rfl

/-- Names in order give paths in order. -/
theorem pathBefore_of_lex {directory : String} {names names' : List String}
    (h : ∀ name ∈ names, IsEntryName name) (h' : ∀ name ∈ names', IsEntryName name)
    (hlex : List.Lex NameBefore names names') :
    PathBefore (names.foldl joinPath directory) (names'.foldl joinPath directory) := by
  rw [PathBefore, components_foldl_joinPath directory h, components_foldl_joinPath directory h']
  refine List.Lex.append_left _ ?_ _
  clear h h'
  induction hlex with
  | nil => exact .nil
  | cons _ ih => exact .cons ih
  | rel hbefore => exact .rel hbefore

end

/-- The steps of a path go into entries with such names. -/
theorem isEntryName_of_mem_steps {path name : String} (h : .into name ∈ steps path) :
    IsEntryName name := by
  obtain ⟨part, hpart, hstep⟩ := List.mem_filterMap.1 h
  have hslash : '/' ∉ part := not_mem_of_mem_fields part hpart
  rw [Step.ofPart?] at hstep
  split at hstep
  · cases hstep
  · next hne =>
    split at hstep
    · cases hstep
    · next hdots =>
      cases hstep
      simp only [Bool.or_eq_true, decide_eq_true_eq, not_or] at hne
      refine ⟨?_, by simpa using hslash, ?_, ?_⟩
      · simpa [String.ofList_eq_empty_iff] using hne.1
      · exact fun hdot => hne.2 (by simpa using congrArg String.toList hdot)
      · exact fun hdot => hdots (by simpa using congrArg String.toList hdot)

end Disk

namespace FileTree

/-! ## Walks -/

/-- In each directory the names of the entries ascend, and an entry can have its name. -/
inductive Listed : FileTree → Prop
  | file (content : List UInt8) : Listed (.file content)
  | directory {entries : List (String × FileTree)} :
      entries.Pairwise (fun a b => NameBefore a.1 b.1) →
      (∀ entry ∈ entries, IsEntryName entry.1) → (∀ entry ∈ entries, Listed entry.2) →
      Listed (.directory entries)

mutual
/-- The names that lead to the files of a tree, in the order of a walk. -/
def fileNames : FileTree → List (List String)
  | .file _ => [[]]
  | .directory entries => fileNamesOf entries

/-- The names that lead to the files of the entries of a directory. -/
def fileNamesOf : List (String × FileTree) → List (List String)
  | [] => []
  | (name, node) :: rest => (fileNames node).map (name :: ·) ++ fileNamesOf rest
end

mutual
/-- The files of a tree stand at the paths that their names lead to. -/
theorem filesAt_eq (path name : String) : (tree : FileTree) →
    filesAt path name tree =
      tree.fileNames.map fun names => (names.foldl joinPath path, names.getLastD name)
  | .file _ => rfl
  | .directory entries => filesOf_eq path name entries

/-- The files of entries stand at the paths that their names lead to. -/
theorem filesOf_eq (path name : String) : (entries : List (String × FileTree)) →
    filesOf path entries =
      (fileNamesOf entries).map fun names => (names.foldl joinPath path, names.getLastD name)
  | [] => rfl
  | (first, node) :: rest => by
    rw [filesOf, fileNamesOf, filesAt_eq (joinPath path first) first node,
      filesOf_eq path name rest, List.map_append, List.map_map]
    simp only [Function.comp_def, List.foldl_cons, List.getLastD_cons]
end

/-- A file of a directory is a file of one of its entries. -/
theorem mem_fileNamesOf_iff {names : List String} {entries : List (String × FileTree)} :
    names ∈ fileNamesOf entries ↔
      ∃ name node rest, (name, node) ∈ entries ∧ rest ∈ node.fileNames ∧ names = name :: rest := by
  induction entries with
  | nil => simp [fileNamesOf]
  | cons entry entries ih =>
    obtain ⟨first, child⟩ := entry
    rw [fileNamesOf, List.mem_append, ih, List.mem_map]
    constructor
    · rintro (⟨rest, hrest, rfl⟩ | ⟨name, node, rest, hmem, hrest, rfl⟩)
      · exact ⟨first, child, rest, List.mem_cons_self, hrest, rfl⟩
      · exact ⟨name, node, rest, List.mem_cons_of_mem _ hmem, hrest, rfl⟩
    · rintro ⟨name, node, rest, hmem, hrest, rfl⟩
      rcases List.mem_cons.1 hmem with heq | hmem
      · cases heq
        exact .inl ⟨rest, hrest, rfl⟩
      · exact .inr ⟨name, node, rest, hmem, hrest, rfl⟩

/-- Among ascending names, each one has one node. -/
theorem lookup_eq_some_iff {entries : List (String × FileTree)}
    (h : entries.Pairwise fun a b => NameBefore a.1 b.1) {name : String} {node : FileTree} :
    entries.lookup name = some node ↔ (name, node) ∈ entries := by
  induction entries with
  | nil => simp
  | cons entry entries ih =>
    obtain ⟨first, child⟩ := entry
    obtain ⟨hfirst, hrest⟩ := List.pairwise_cons.1 h
    rw [lookup_cons, List.mem_cons, Prod.mk.injEq]
    split
    · next heq =>
      subst heq
      have hnot : (name, node) ∉ entries := fun hmem =>
        List.lt_irrefl _ (hfirst (name, node) hmem)
      simp [hnot, eq_comm]
    · next hne => simp [hne, ih hrest]

/-- A walk comes to the files of the tree and to nothing else. -/
theorem Listed.mem_fileNames_iff {tree : FileTree} (h : tree.Listed) {names : List String} :
    names ∈ tree.fileNames ↔ ∃ content, tree.at? names = some (.file content) := by
  induction h generalizing names with
  | file content =>
    cases names with
    | nil => simp [fileNames, at?_nil]
    | cons name names => simp [fileNames, at?]
  | @directory entries hsorted _ _ ih =>
    rw [fileNames, mem_fileNamesOf_iff]
    constructor
    · rintro ⟨name, node, rest, hmem, hrest, rfl⟩
      rw [at?_cons, (lookup_eq_some_iff hsorted).2 hmem]
      exact (ih _ hmem).1 hrest
    · rintro ⟨content, hfile⟩
      cases names with
      | nil => simp [at?_nil] at hfile
      | cons name rest =>
        obtain ⟨node, hnode, hfile⟩ := Option.bind_eq_some_iff.1 hfile
        have hmem := (lookup_eq_some_iff hsorted).1 hnode
        exact ⟨name, node, rest, hmem, (ih _ hmem).2 ⟨content, hfile⟩, rfl⟩

/-- What is below one entry comes before what is below a later one. -/
theorem pairwise_fileNamesOf {entries : List (String × FileTree)}
    (hsorted : entries.Pairwise fun a b => NameBefore a.1 b.1)
    (h : ∀ entry ∈ entries, entry.2.fileNames.Pairwise (List.Lex NameBefore)) :
    (fileNamesOf entries).Pairwise (List.Lex NameBefore) := by
  induction entries with
  | nil => exact .nil
  | cons entry entries ih =>
    obtain ⟨name, node⟩ := entry
    obtain ⟨hfirst, hsorted⟩ := List.pairwise_cons.1 hsorted
    rw [List.forall_mem_cons] at h
    rw [fileNamesOf, List.pairwise_append]
    refine ⟨List.pairwise_map.2 (h.1.imp .cons), ih hsorted h.2, ?_⟩
    intro names hnames names' hnames'
    obtain ⟨rest, -, rfl⟩ := List.mem_map.1 hnames
    obtain ⟨name', node', rest', hmem, -, rfl⟩ := mem_fileNamesOf_iff.1 hnames'
    exact .rel (hfirst _ hmem)

/-- A walk comes to the files in the order of their names. -/
theorem Listed.pairwise_fileNames {tree : FileTree} (h : tree.Listed) :
    tree.fileNames.Pairwise (List.Lex NameBefore) := by
  induction h with
  | file content => exact List.pairwise_singleton _ _
  | directory hsorted _ _ ih => exact pairwise_fileNamesOf hsorted ih

/-- The names that a walk goes by are names of entries. -/
theorem Listed.isEntryName {tree : FileTree} (h : tree.Listed) :
    ∀ names ∈ tree.fileNames, ∀ name ∈ names, IsEntryName name := by
  induction h with
  | file content => simp [fileNames]
  | directory _ hnames _ ih =>
    intro names hmem
    obtain ⟨name, node, rest, hentry, hrest, rfl⟩ := mem_fileNamesOf_iff.1 hmem
    exact List.forall_mem_cons.2 ⟨hnames _ hentry, ih _ hentry rest hrest⟩

/-- The tree below a place of a tree in order is in order. -/
theorem Listed.of_at? {root node : FileTree} (h : root.Listed) {names : List String}
    (hnode : root.at? names = some node) : node.Listed := by
  induction h generalizing names with
  | file content =>
    cases names with
    | nil =>
      cases (at?_nil _).symm.trans hnode
      exact .file content
    | cons name names => cases hnode
  | @directory entries hsorted hnames hchildren ih =>
    cases names with
    | nil =>
      cases (at?_nil _).symm.trans hnode
      exact .directory hsorted hnames hchildren
    | cons name names =>
      obtain ⟨child, hchild, hnode⟩ := Option.bind_eq_some_iff.1 hnode
      exact ih _ ((lookup_eq_some_iff hsorted).1 hchild) hnode

/-! ## Setting entries -/

/-- The entries after one is set are that one and some of the entries before. -/
theorem mem_insertEntry {name : String} {node : FileTree} {entries : List (String × FileTree)}
    {entry : String × FileTree} (h : entry ∈ insertEntry name node entries) :
    entry = (name, node) ∨ entry ∈ entries := by
  fun_induction insertEntry name node entries with
  | case1 => exact .inl (List.mem_singleton.1 h)
  | case2 => exact List.mem_cons.1 h
  | case3 => exact (List.mem_cons.1 h).imp_right (List.mem_cons_of_mem _)
  | case4 _ _ _ _ _ ih =>
    rcases List.mem_cons.1 h with rfl | h
    · exact .inr List.mem_cons_self
    · exact (ih h).imp_right (List.mem_cons_of_mem _)

/-- Setting an entry keeps the names in order. -/
theorem pairwise_insertEntry {entries : List (String × FileTree)}
    (h : entries.Pairwise fun a b => NameBefore a.1 b.1) (name : String) (node : FileTree) :
    (insertEntry name node entries).Pairwise fun a b => NameBefore a.1 b.1 := by
  simp only [nameBefore_iff] at h ⊢
  fun_induction insertEntry name node entries with
  | case1 => exact List.pairwise_singleton _ _
  | case2 n t rest hlt =>
    refine List.pairwise_cons.2 ⟨List.forall_mem_cons.2 ⟨hlt, fun entry hentry => ?_⟩, h⟩
    exact hlt.trans ((List.pairwise_cons.1 h).1 entry hentry)
  | case3 => exact List.pairwise_cons.2 (List.pairwise_cons.1 h)
  | case4 n t rest hnlt hne ih =>
    obtain ⟨hfirst, hrest⟩ := List.pairwise_cons.1 h
    refine List.pairwise_cons.2 ⟨fun entry hentry => ?_, ih hrest⟩
    rcases mem_insertEntry hentry with rfl | hentry
    · exact lt_of_le_of_ne (not_lt.1 hnlt) (Ne.symm hne)
    · exact hfirst entry hentry

/-- A directory stays listed if a listed entry is set in it. -/
theorem listed_insertEntry {entries : List (String × FileTree)} {name : String} {node : FileTree}
    (h : (directory entries).Listed) (hname : IsEntryName name) (hnode : node.Listed) :
    (directory (insertEntry name node entries)).Listed := by
  cases h with
  | directory hsorted hnames hchildren =>
    refine .directory (pairwise_insertEntry hsorted name node) (fun entry hentry => ?_)
      fun entry hentry => ?_
    · rcases mem_insertEntry hentry with rfl | hentry
      · exact hname
      · exact hnames entry hentry
    · rcases mem_insertEntry hentry with rfl | hentry
      · exact hnode
      · exact hchildren entry hentry

/-- Setting a node keeps a tree in order. -/
theorem listed_setAt {root node : FileTree} (h : root.Listed) (hnode : node.Listed)
    (names : List String) {name : String} (hname : IsEntryName name) :
    (setAt node (names ++ [name]) root).Listed := by
  induction names generalizing root with
  | nil =>
    cases root with
    | file content => exact h
    | directory entries => exact listed_insertEntry h hname hnode
  | cons first names ih =>
    cases root with
    | file content => exact h
    | directory entries =>
      rw [List.cons_append]
      cases hchild : entries.lookup first with
      | none =>
        rw [setAt_of_lookup_eq_none (by simp) hchild]
        exact h
      | some child =>
        rw [setAt_cons (by simp) hchild]
        cases h with
        | directory hsorted hnames hchildren =>
          have hmem : (first, child) ∈ entries := (lookup_eq_some_iff hsorted).1 hchild
          exact listed_insertEntry (.directory hsorted hnames hchildren) (hnames _ hmem)
            (ih (hchildren _ hmem))

/-- The empty directory is listed. -/
theorem listed_empty : empty.Listed := .directory .nil nofun nofun

end FileTree

namespace Volume

open FileTree

/-- A directory that a path leads to stands in the tree of the volume. -/
theorem exists_of_directory?_eq_some {volume : Volume} {path : String} {tree : FileTree}
    (h : volume.directory? path = some tree) :
    ∃ names entries, tree = .directory entries ∧ volume.root.at? names = some tree := by
  unfold directory? at h
  split at h
  · next entries hfind =>
    cases h
    unfold find at hfind
    split at hfind
    · cases hfind
    · split at hfind
      · cases hfind
      · obtain ⟨names, -, hfind⟩ := bind_eq_ok_iff.1 hfind
        split at hfind
        · cases hfind
        · split at hfind <;> cases hfind
        · next hat =>
          cases hfind
          exact ⟨names, entries, rfl, hat⟩
  · cases h

/-- The directories of a volume in order are in order. -/
theorem listed_directory? {volume : Volume} (h : volume.root.Listed) {path : String}
    {tree : FileTree} (htree : volume.directory? path = some tree) : tree.Listed := by
  obtain ⟨names, entries, rfl, hat⟩ := exists_of_directory?_eq_some htree
  exact h.of_at? hat

/-- A tree stays listed if directories are made in it. -/
theorem listed_makeSteps (dotted made : Bool) {root : FileTree} (h : root.Listed)
    (here : List String) {path : List Step} (hpath : ∀ name, .into name ∈ path → IsEntryName name) :
    (makeSteps dotted made root here path).1.Listed := by
  fun_induction makeSteps dotted made root here path with
  | case1 => exact h
  | case2 _ _ _ _ ih => exact ih h fun name hmem => hpath name (List.mem_cons_of_mem _ hmem)
  | case3 => exact h
  | case4 _ _ _ _ _ _ _ _ _ ih =>
    exact ih h fun name hmem => hpath name (List.mem_cons_of_mem _ hmem)
  | case5 => exact h
  | case6 => exact h
  | case7 _ _ here name _ _ _ _ _ ih =>
    refine ih ?_ fun name hmem => hpath name (List.mem_cons_of_mem _ hmem)
    exact listed_setAt h listed_empty here (hpath name List.mem_cons_self)

/-- Making directories keeps a volume in order. -/
theorem listed_makeDirectories {volume : Volume} (h : volume.root.Listed) (path : String) :
    (volume.makeDirectories path).1.root.Listed := by
  unfold makeDirectories
  split
  · exact h
  · exact listed_makeSteps _ _ h _ fun _ => isEntryName_of_mem_steps

/-- Writing a file keeps a volume in order. -/
theorem listed_writeOctets {volume : Volume} (h : volume.root.Listed) (path : String)
    (content : List UInt8) : (volume.writeOctets path content).1.root.Listed := by
  cases hwrite : volume.writeOctets path content with
  | mk volume' result =>
    cases result with
    | error fault => exact eq_of_writeOctets_eq_error hwrite ▸ h
    | ok _ =>
      obtain ⟨-, -, -, parent, names, name, entries, hsteps, -, -, -, -, rfl⟩ :=
        writeOctets_eq_ok hwrite
      have hname : IsEntryName name := isEntryName_of_mem_steps (by rw [hsteps]; simp)
      exact listed_setAt h (.file content) names hname

end Volume

end Transcoding
