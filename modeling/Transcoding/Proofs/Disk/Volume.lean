import Transcoding.Disk.Volume
import Transcoding.Proofs.Result
import Transcoding.Proofs.Text.Utf8

/-!
# Volumes that change

A file that was written is found at its path (`find_of_writeOctets`): the directories on the way to
it are still there, since a node is set only where there was none or a file (`keeps_setAt`). The
text of a file that holds one is read back (`Holds.readText_eq`).
-/

namespace Transcoding

open Transcoding.Disk Transcoding.Text

/-! ## Trees -/

namespace FileTree

/-- An entry is looked up in the first one with its name. -/
theorem lookup_cons (name n : String) (t : FileTree) (entries : List (String × FileTree)) :
    ((n, t) :: entries).lookup name = if name = n then some t else entries.lookup name := by
  by_cases h : name = n
  · simp [h]
  · simp [List.lookup_cons, beq_false_of_ne h, h]

/-- Setting an entry changes the node of its name and of no other. -/
theorem lookup_insertEntry (name other : String) (node : FileTree)
    (entries : List (String × FileTree)) :
    (insertEntry name node entries).lookup other =
      if other = name then some node else entries.lookup other := by
  fun_induction insertEntry name node entries with
  | case1 => exact lookup_cons ..
  | case2 => exact lookup_cons ..
  | case3 t rest =>
    rw [lookup_cons, lookup_cons]
    split <;> rfl
  | case4 n t rest _ hne ih =>
    rw [lookup_cons, lookup_cons, ih]
    by_cases h : other = name
    · rw [if_pos h, if_pos h, if_neg (h ▸ hne)]
    · rw [if_neg h, if_neg h]

/-- The root is under no name. -/
theorem at?_nil (root : FileTree) : root.at? [] = some root := by
  cases root <;> rfl

/-- A node below a directory is found in the entry that leads to it. -/
theorem at?_cons (entries : List (String × FileTree)) (name : String) (names : List String) :
    (directory entries).at? (name :: names) = (entries.lookup name).bind (at? · names) :=
  rfl

/-- A node is found in two turns. -/
theorem at?_append (root : FileTree) (names names' : List String) :
    root.at? (names ++ names') = (root.at? names).bind (at? · names') := by
  induction names generalizing root with
  | nil =>
    rw [at?_nil]
    rfl
  | cons name names ih =>
    cases root with
    | file content => rfl
    | directory entries => simp only [List.cons_append, at?_cons, Option.bind_assoc, ih]

/-- The node of an entry stands in a directory. -/
theorem at?_concat_eq_some_iff {root node : FileTree} {names : List String} {name : String} :
    root.at? (names ++ [name]) = some node ↔
      ∃ entries, root.at? names = some (.directory entries) ∧ entries.lookup name = some node := by
  rw [at?_append, Option.bind_eq_some_iff]
  constructor
  · rintro ⟨parent, hparent, h⟩
    cases parent with
    | file content => cases h
    | directory entries =>
      obtain ⟨child, hchild, h⟩ := Option.bind_eq_some_iff.1 h
      rw [at?_nil] at h
      exact ⟨entries, hparent, h ▸ hchild⟩
  · rintro ⟨entries, hparent, h⟩
    exact ⟨_, hparent, Option.bind_eq_some_iff.2 ⟨node, h, at?_nil node⟩⟩

/-- A node is set in the entry that leads to it. -/
theorem setAt_cons {node child : FileTree} {name : String} {names : List String}
    {entries : List (String × FileTree)} (hnames : names ≠ [])
    (h : entries.lookup name = some child) :
    setAt node (name :: names) (directory entries) =
      directory (insertEntry name (setAt node names child) entries) := by
  rw [setAt]
  · rw [h]
  · exact fun hnil => hnames hnil

/-- A node that was set is there. -/
theorem at?_setAt {root : FileTree} {names : List String} {entries : List (String × FileTree)}
    (h : root.at? names = some (.directory entries)) (name : String) (node : FileTree) :
    (setAt node (names ++ [name]) root).at? (names ++ [name]) = some node := by
  induction names generalizing root with
  | nil =>
    cases (at?_nil root).symm.trans h
    simp [setAt, at?_cons, lookup_insertEntry, at?_nil]
  | cons first names ih =>
    cases root with
    | file content => cases h
    | directory entries' =>
      obtain ⟨child, hchild, h⟩ := Option.bind_eq_some_iff.1 h
      rw [List.cons_append, setAt_cons (by simp) hchild, at?_cons, lookup_insertEntry, if_pos rfl]
      exact ih h

/-- Every directory of the first tree is one of the second, with the same names and perhaps
more. -/
def Keeps (root root' : FileTree) : Prop :=
  ∀ names entries, root.at? names = some (.directory entries) →
    ∃ entries', root'.at? names = some (.directory entries') ∧
      ∀ name, (entries.lookup name).isSome → (entries'.lookup name).isSome

/-- Setting an entry keeps the directories, if it was no directory or the new node keeps those
in it. -/
theorem keeps_insertEntry {entries : List (String × FileTree)} {name : String} {node : FileTree}
    (h : ∀ child, entries.lookup name = some child → Keeps child node) :
    Keeps (directory entries) (directory (insertEntry name node entries)) := by
  intro names entries' hnames
  cases names with
  | nil =>
    rw [at?_nil] at hnames
    cases hnames
    refine ⟨_, at?_nil _, fun other hother => ?_⟩
    rw [lookup_insertEntry]
    split
    · rfl
    · exact hother
  | cons first names =>
    obtain ⟨child, hchild, hnames⟩ := Option.bind_eq_some_iff.1 hnames
    rw [at?_cons, lookup_insertEntry]
    split
    · next heq =>
      subst heq
      exact h child hchild names entries' hnames
    · rw [hchild]
      exact ⟨entries', hnames, fun _ => id⟩

/-- A file has no directories to keep. -/
theorem keeps_file (content : List UInt8) (node : FileTree) : Keeps (.file content) node := by
  intro names entries h
  cases names <;> cases h

/-- Setting a node keeps the directories, if there was none under its name. -/
theorem keeps_setAt {root : FileTree} {names : List String} {entries : List (String × FileTree)}
    (h : root.at? names = some (.directory entries)) {name : String}
    (hfree : ∀ inner, entries.lookup name ≠ some (.directory inner)) (node : FileTree) :
    Keeps root (setAt node (names ++ [name]) root) := by
  induction names generalizing root with
  | nil =>
    cases (at?_nil root).symm.trans h
    refine keeps_insertEntry fun child hchild => ?_
    cases child with
    | file content => exact keeps_file content node
    | directory inner => exact absurd hchild (hfree inner)
  | cons first names ih =>
    cases root with
    | file content => cases h
    | directory entries' =>
      obtain ⟨child, hchild, h⟩ := Option.bind_eq_some_iff.1 h
      rw [List.cons_append, setAt_cons (by simp) hchild]
      refine keeps_insertEntry fun child' hchild' => ?_
      cases hchild.symm.trans hchild'
      exact ih h

end FileTree

/-! ## Paths -/

namespace Volume

open FileTree

/-- A step up is taken from a directory. -/
theorem follow_up_eq_ok_iff {root : FileTree} {here names : List String} {rest : List Step} :
    follow root here (.up :: rest) = .ok names ↔
      (∃ entries, root.at? here = some (.directory entries)) ∧
        follow root here.dropLast rest = .ok names := by
  rw [follow]
  split
  · next h => simp [h]
  · next h => simp [h]
  · next h => simp [h]

/-- A step into a name is taken from a directory that has the name, and the name is not too long. -/
theorem follow_into_eq_ok_iff {root : FileTree} {here names : List String} {name : String}
    {rest : List Step} :
    follow root here (.into name :: rest) = .ok names ↔
      (∃ entries, root.at? here = some (.directory entries) ∧ (entries.lookup name).isSome) ∧
        name.utf8ByteSize ≤ maxNameSize ∧ follow root (here ++ [name]) rest = .ok names := by
  rw [follow]
  split
  · next h => simp [h]
  · next h => simp [h]
  · next entries h =>
    dsimp only
    split
    · next hlong => simp [Nat.not_le.2 hlong]
    · next hshort =>
      cases hname : entries.lookup name with
      | none =>
        refine ⟨nofun, ?_⟩
        rintro ⟨⟨_, hentries, hsome⟩, -⟩
        cases h.symm.trans hentries
        rw [hname] at hsome
        cases hsome
      | some node =>
        exact ⟨fun hrest => ⟨⟨entries, h, by rw [hname]; rfl⟩, Nat.not_lt.1 hshort, hrest⟩,
          fun hrest => hrest.2.2⟩

/-- Steps lead on from where other steps lead. -/
theorem follow_append {root : FileTree} {here middle names : List String} {first second : List Step}
    (hfirst : follow root here first = .ok middle)
    (hsecond : follow root middle second = .ok names) :
    follow root here (first ++ second) = .ok names := by
  induction first generalizing here with
  | nil =>
    cases hfirst
    exact hsecond
  | cons step first ih =>
    cases step with
    | up =>
      obtain ⟨hhere, hfirst⟩ := follow_up_eq_ok_iff.1 hfirst
      exact follow_up_eq_ok_iff.2 ⟨hhere, ih hfirst⟩
    | into name =>
      obtain ⟨hhere, hshort, hfirst⟩ := follow_into_eq_ok_iff.1 hfirst
      exact follow_into_eq_ok_iff.2 ⟨hhere, hshort, ih hfirst⟩

/-- Steps lead to the same names in a tree that keeps the directories. -/
theorem follow_of_keeps {root root' : FileTree} (hkeeps : Keeps root root')
    {here names : List String} {path : List Step} (h : follow root here path = .ok names) :
    follow root' here path = .ok names := by
  induction path generalizing here with
  | nil => exact h
  | cons step path ih =>
    cases step with
    | up =>
      obtain ⟨⟨entries, hhere⟩, h⟩ := follow_up_eq_ok_iff.1 h
      obtain ⟨entries', hhere', -⟩ := hkeeps here entries hhere
      exact follow_up_eq_ok_iff.2 ⟨⟨entries', hhere'⟩, ih h⟩
    | into name =>
      obtain ⟨⟨entries, hhere, hname⟩, hshort, h⟩ := follow_into_eq_ok_iff.1 h
      obtain ⟨entries', hhere', hnames⟩ := hkeeps here entries hhere
      exact follow_into_eq_ok_iff.2 ⟨⟨entries', hhere', hnames name hname⟩, hshort, ih h⟩

/-! ## Files -/

/-- A path that does not name a directory does not end in a dot. -/
theorem endsInDot_of_namesDirectory {path : String} (h : namesDirectory path = false) :
    endsInDot path = false := by
  simp only [namesDirectory, Bool.or_eq_false_iff, beq_eq_false_iff_ne] at h
  obtain ⟨⟨hne, hdot⟩, -⟩ := h
  unfold lastPart at hne hdot
  cases hlast : (pathParts path).getLast? with
  | none => simp [hlast] at hne
  | some part =>
    rw [hlast, Option.getD_some] at hne hdot
    obtain ⟨before, hparts⟩ := List.getLast?_eq_some_iff.1 hlast
    rw [endsInDot, hparts]
    simp [hne, hdot]

/-- What it takes to write a file. -/
theorem writeOctets_eq_ok {volume volume' : Volume} {path : String} {content : List UInt8}
    (h : volume.writeOctets path content = (volume', .ok ())) :
    pathFault? path = none ∧ path ≠ "" ∧ namesDirectory path = false ∧
      ∃ parent names name entries, steps path = parent ++ [.into name] ∧
        follow volume.root (volume.origin path) parent = .ok names ∧
        volume.root.at? names = some (.directory entries) ∧
        name.utf8ByteSize ≤ maxNameSize ∧
        (∀ inner, entries.lookup name ≠ some (.directory inner)) ∧
        volume' = { volume with
          root := FileTree.setAt (.file content) (names ++ [name]) volume.root } := by
  unfold writeOctets at h
  split at h
  · cases h
  · next hfault =>
    split at h
    · cases h
    · next hpath =>
      dsimp only at h
      split at h
      · cases h
      · next names hfollow =>
        split at h
        · next entries hentries =>
          split at h
          · next name hlast hdirectory =>
            split at h
            · cases h
            · next hshort =>
              split at h
              · cases h
              · next hfree =>
                cases h
                have hparent : (steps path).dropLast ++ [.into name] = steps path :=
                  List.dropLast_append_getLast? _ hlast
                rw [endsInDot_of_namesDirectory hdirectory] at hfollow
                exact ⟨hfault, hpath, hdirectory, _, names, name, entries, hparent.symm, hfollow,
                  hentries, Nat.not_lt.1 hshort, hfree, rfl⟩
          · cases h
        · cases h

/-- A file is written where its path leads. -/
theorem follow_of_writeOctets {volume volume' : Volume} {path : String} {content : List UInt8}
    (h : volume.writeOctets path content = (volume', .ok ())) :
    ∃ names name entries, volume.root.at? names = some (.directory entries) ∧
      (∀ inner, entries.lookup name ≠ some (.directory inner)) ∧
      volume' = { volume with
        root := FileTree.setAt (.file content) (names ++ [name]) volume.root } ∧
      follow volume'.root (volume'.origin path) (steps path) = .ok (names ++ [name]) := by
  obtain ⟨-, -, -, parent, names, name, entries, hsteps, hparent, hentries, hshort, hfree, rfl⟩ :=
    writeOctets_eq_ok h
  have hkeeps := keeps_setAt hentries hfree (.file content)
  have hnode := at?_setAt hentries name (.file content)
  obtain ⟨entries', hentries', hname⟩ := at?_concat_eq_some_iff.1 hnode
  have hlast : follow (FileTree.setAt (.file content) (names ++ [name]) volume.root) names
      [.into name] = .ok (names ++ [name]) :=
    follow_into_eq_ok_iff.2 ⟨⟨entries', hentries', by rw [hname]; rfl⟩, hshort, rfl⟩
  refine ⟨names, name, entries, hentries, hfree, rfl, ?_⟩
  rw [hsteps]
  exact follow_append (follow_of_keeps hkeeps hparent) hlast

/-- A file that was written is found at its path. -/
theorem find_of_writeOctets {volume volume' : Volume} {path : String} {content : List UInt8}
    (h : volume.writeOctets path content = (volume', .ok ())) :
    volume'.find path = .ok (.file content) := by
  obtain ⟨hfault, hpath, hdirectory, -⟩ := writeOctets_eq_ok h
  obtain ⟨names, name, entries, hentries, -, rfl, hfollow⟩ := follow_of_writeOctets h
  unfold find
  rw [hfault]
  dsimp only
  rw [if_neg hpath]
  refine bind_eq_ok_iff.2 ⟨names ++ [name], hfollow, ?_⟩
  rw [at?_setAt hentries name (.file content), hdirectory]
  rfl

/-! ## Texts -/

/-- The file at the path holds the text. -/
def Holds (volume : Volume) (path text : String) : Prop :=
  volume.find path = .ok (.file (toOctets text.toList))

/-- The text of a file is read back. -/
theorem Holds.readText_eq {volume : Volume} {path text : String} (h : volume.Holds path text) :
    volume.readText path = .ok text := by
  refine bind_eq_ok_iff.2 ⟨_, h, ?_⟩
  simp [ofOctets?_toOctets]

end Volume

end Transcoding
