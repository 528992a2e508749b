import Transcoding.Proofs.Declaration.Place
import Mathlib.Data.List.Sort

/-!
# Declarations are enumerated completely

A search for declarations goes on after each one, and no declaration is lost by that: nothing that
has the shape of one begins inside another (`apart_serviceHead`, `apart_methodHead`). A declaration
begins with its keyword, blanks and a word. Inside a declaration only a word can end in the keyword,
and after it comes a sign where the other word would have to begin (`Introduces.silent_word`).
-/

namespace Transcoding.Declaration

open Transcoding.Text

/-! ## Texts that hold no beginning -/

section
variable {α : Type} {recognise : Recogniser α} {keyword : String} {letter : Char}

/-- Nothing is read that begins inside a text of the shape. -/
def Shape.Quiet (recognise : Recogniser α) (shape : Shape) : Prop :=
  ∀ used groups rest, shape.Matches used groups → Silent recognise used rest

/-- Nothing is read that begins inside a text of the shape which the other shape comes after. -/
def Shape.QuietBefore (recognise : Recogniser α) (shape next : Shape) : Prop :=
  ∀ used groups rest groups' after, shape.Matches used groups → next.Begins rest groups' after →
    Silent recognise used rest

/-- What is quiet is quiet before every shape. -/
theorem Shape.Quiet.before {shape next : Shape} (h : shape.Quiet recognise) :
    shape.QuietBefore recognise next :=
  fun used groups rest _ _ hmatch _ => h used groups rest hmatch

/-- A sequence is quiet if its first shape is quiet before the others and these are quiet. -/
theorem Shape.QuietBefore.cons {shape : Shape} {shapes : List Shape}
    (h : shape.QuietBefore recognise (all shapes)) (h' : (all shapes).Quiet recognise) :
    (all (shape :: shapes)).Quiet recognise := by
  intro used groups rest hmatch
  cases hmatch with
  | seq hfirst hrest =>
    exact (h _ _ _ _ rest hfirst ⟨_, rfl, hrest⟩).append (h' _ _ rest hrest)

/-- The empty sequence is quiet. -/
theorem Shape.quiet_all_nil : (all []).Quiet recognise := by
  intro used groups rest hmatch tail ht hne
  cases hmatch with
  | empty => exact absurd (List.suffix_nil.1 ht) hne

/-- A text is cut in one way into a run of a class and a rest that does not begin with a character
of the class. -/
theorem run_inj {isMember : Char → Bool} {found found' rest rest' : List Char}
    (hfound : ∀ c ∈ found, isMember c = true) (hrest : ∀ c ∈ rest.head?, isMember c = false)
    (hfound' : ∀ c ∈ found', isMember c = true) (hrest' : ∀ c ∈ rest'.head?, isMember c = false)
    (h : found ++ rest = found' ++ rest') : found = found' ∧ rest = rest' := by
  obtain ⟨htake, hdrop⟩ := takeWhile_dropWhile_eq_iff.2 ⟨rfl, hfound, hrest⟩
  obtain ⟨htake', hdrop'⟩ := takeWhile_dropWhile_eq_iff.2 ⟨h, hfound', hrest'⟩
  exact ⟨htake.symm.trans htake', hdrop.symm.trans hdrop'⟩

/-- The recogniser reads only what begins with the keyword, blanks and a word character. The keyword
is a word whose first letter does not come again in it. -/
structure Introduces (keyword : String) (letter : Char) (recognise : Recogniser α) : Prop where
  exists_of_read : ∀ {text : List Char}, recognise text ≠ none →
    ∃ blanks c rest, text = keyword.toList ++ (blanks ++ c :: rest) ∧ blanks ≠ [] ∧
      (∀ b ∈ blanks, isBlank b = true) ∧ isWord c = true
  word : keyword.toList.all isWord = true
  head : keyword.toList.head? = some letter
  not_mem : letter ∉ keyword.toList.tail

namespace Introduces

/-- A recogniser that the keyword introduces reads only what opens with the keyword. -/
theorem opens (h : Introduces keyword letter recognise) : Opens keyword recognise := by
  intro text hread
  obtain ⟨blanks, c, rest, htext, hne, hblanks, -⟩ := h.exists_of_read hread
  obtain ⟨b, blanks, rfl⟩ := List.exists_cons_of_ne_nil hne
  exact ⟨b, blanks ++ c :: rest, hblanks b List.mem_cons_self, htext⟩

/-- The characters of the keyword are word characters. -/
theorem isWord_of_mem (h : Introduces keyword letter recognise) (c : Char)
    (hc : c ∈ keyword.toList) : isWord c = true :=
  List.all_eq_true.1 h.word c hc

/-- A shape without the first letter of the keyword is quiet. -/
theorem quiet_of_not_mem (h : Introduces keyword letter recognise) {shape : Shape}
    (hshape : ∀ used groups, shape.Matches used groups → letter ∉ used) :
    shape.Quiet recognise :=
  fun used groups _ hmatch => Opens.silent_of_not_mem h.opens h.head (hshape used groups hmatch)

/-- The first letter of the keyword is not blank. -/
theorem not_isBlank (h : Introduces keyword letter recognise) : isBlank letter = false :=
  not_isBlank_of_isWord (h.isWord_of_mem letter (List.mem_of_mem_head? h.head))

/-- Blanks are quiet. -/
theorem quiet_blanks (h : Introduces keyword letter recognise) :
    (Shape.manyOf isBlank).Quiet recognise := by
  refine h.quiet_of_not_mem fun used groups hmatch hmem => ?_
  cases ((Shape.matches_manyOf_iff.1 hmatch).1 letter hmem).symm.trans h.not_isBlank

/-- A run of blanks that is not empty is quiet. -/
theorem quiet_someBlanks (h : Introduces keyword letter recognise) :
    (Shape.someOf isBlank).Quiet recognise := by
  refine h.quiet_of_not_mem fun used groups hmatch hmem => ?_
  cases ((Shape.matches_someOf_iff.1 hmatch).2.1 letter hmem).symm.trans h.not_isBlank

/-- A character other than the first letter of the keyword is quiet. -/
theorem quiet_char (h : Introduces keyword letter recognise) {expected : Char}
    (hexpected : expected ≠ letter) : (Shape.char expected).Quiet recognise := by
  refine h.quiet_of_not_mem fun used groups hmatch hmem => ?_
  cases hmatch with
  | one hc =>
    obtain rfl := List.mem_singleton.1 hmem
    exact hexpected (eq_of_beq hc).symm

/-- A text that does not agree with the keyword at any place is quiet. -/
theorem quiet_exactly (h : Introduces keyword letter recognise) {expected : String}
    (hclash : Clashes (fun letter c => letter == c) keyword.toList expected.toList) :
    (Shape.exactly expected).Quiet recognise := by
  intro used groups rest hmatch tail ht hne
  obtain ⟨hletters, -⟩ := Shape.matches_letters_iff.1 hmatch
  obtain rfl : expected.toList = used := by simpa using hletters
  by_contra hread
  obtain ⟨blanks, c, rest', htext, -⟩ := h.exists_of_read hread
  obtain ⟨pair, hpair, hne⟩ := hclash tail ((List.mem_tails _ _).2 ht) hne
  have hspelling : List.Forall₂ (fun letter c => (letter == c) = true) keyword.toList
      keyword.toList := by simp
  cases hne.symm.trans (forall_mem_zip_of_append hspelling htext pair hpair)

/-- A word may end in the keyword, but the sign after it is not the word that the keyword needs. -/
theorem silent_word (h : Introduces keyword letter recognise) {isMember : Char → Bool} {sign : Char}
    (hmember : ∀ c, isWord c = true → isMember c = true)
    (hblank : ∀ c, isMember c = true → isBlank c = false)
    (hsign : isMember sign = false) (hsignBlank : isBlank sign = false)
    {found blanks rest : List Char} (hfound : ∀ c ∈ found, isMember c = true)
    (hblanks : ∀ c ∈ blanks, isBlank c = true) :
    Silent recognise found (blanks ++ sign :: rest) := by
  intro tail ht hne
  by_contra hread
  obtain ⟨blanks', c, rest', htext, hne', hblanks', hc⟩ := h.exists_of_read hread
  have hnot : ∀ d, isBlank d = true → isMember d = false := by
    intro d hd
    rw [Bool.eq_false_iff]
    intro hd'
    cases (hblank d hd').symm.trans hd
  have hend : ∀ d ∈ (blanks ++ sign :: rest).head?, isMember d = false := by
    cases blanks with
    | nil => simpa using hsign
    | cons b blanks => simpa using hnot b (hblanks b List.mem_cons_self)
  have hend' : ∀ d ∈ (blanks' ++ c :: rest').head?, isMember d = false := by
    obtain ⟨b, blanks', rfl⟩ := List.exists_cons_of_ne_nil hne'
    simpa using hnot b (hblanks' b List.mem_cons_self)
  obtain ⟨-, hafter⟩ := run_inj (fun d hd => hfound d (ht.subset hd)) hend
    (fun d hd => hmember d (h.isWord_of_mem d hd)) hend' htext
  have hcBlank : isBlank c = false := not_isBlank_of_isWord hc
  obtain ⟨-, hlast⟩ := run_inj hblanks (by simpa using hsignBlank) hblanks'
    (by simpa using hcBlank) hafter
  obtain ⟨rfl, -⟩ := List.cons.inj hlast
  cases (hmember sign hc).symm.trans hsign

/-- A word with blanks and a sign after it is quiet. -/
theorem quiet_word (h : Introduces keyword letter recognise) {isMember : Char → Bool} {sign : Char}
    (hmember : ∀ c, isWord c = true → isMember c = true)
    (hblank : ∀ c, isMember c = true → isBlank c = false)
    (hsign : isMember sign = false) (hsignBlank : isBlank sign = false) {shapes : List Shape}
    (hrest : (Shape.all shapes).Quiet recognise) :
    (Shape.all (.group (.someOf isMember) :: .manyOf isBlank :: .char sign :: shapes)).Quiet
      recognise := by
  have hletter : sign ≠ letter := by
    rintro rfl
    cases (hmember sign (h.isWord_of_mem sign (List.mem_of_mem_head? h.head))).symm.trans hsign
  have hchar := h.quiet_char hletter
  refine Shape.QuietBefore.cons ?_ (h.quiet_blanks.before.cons (hchar.before.cons hrest))
  intro used groups rest groups' after hmatch hbegins
  obtain ⟨inner, hmatch, -⟩ := Shape.matches_group_iff.1 hmatch
  obtain ⟨-, hused, -⟩ := Shape.matches_someOf_iff.1 hmatch
  rw [← Shape.leads_iff_begins, Shape.leads_all_cons, Shape.leads_manyOf] at hbegins
  obtain ⟨blanks, _, rfl, hblanks, hbegins⟩ := hbegins
  rw [Shape.leads_all_cons, Shape.leads_char] at hbegins
  obtain ⟨rest, rfl, -⟩ := hbegins
  exact h.silent_word hmember hblank hsign hsignBlank hused hblanks

/-- If nothing can begin after the keyword inside of what is read, the finds lie apart. -/
theorem apart (h : Introduces keyword letter recognise) {shape : Shape}
    (hread : ∀ text found after, recognise text = some (found, after) →
      ∃ groups, (Shape.seq (.exactly keyword) shape).Begins text groups after)
    (hquiet : shape.Quiet recognise) : Apart recognise := by
  intro text found after hfound
  obtain ⟨groups, used, rfl, hmatch⟩ := hread text found after hfound
  cases hmatch with
  | seq hkeyword hrest =>
    obtain ⟨hletters, -⟩ := Shape.matches_letters_iff.1 hkeyword
    obtain rfl : keyword.toList = _ := by simpa using hletters
    refine ⟨letter, _, ?_, (Opens.silent_of_not_mem h.opens h.head h.not_mem).append
      (hquiet _ _ after hrest)⟩
    rw [← List.cons_append, ← List.cons_append, List.cons_head?_tail h.head]

end Introduces

/-- A text that begins with a declaration begins with its keyword, blanks and a word. -/
theorem exists_of_begins {keyword : String} {shapes : List Shape} {text after : List Char}
    {groups : List (List Char)}
    (h : (Shape.all (.exactly keyword :: .someOf isBlank :: .group (.someOf isWord) ::
      shapes)).Begins text groups after) :
    ∃ blanks c rest, text = keyword.toList ++ (blanks ++ c :: rest) ∧ blanks ≠ [] ∧
      (∀ b ∈ blanks, isBlank b = true) ∧ isWord c = true := by
  rw [← Shape.leads_iff_begins] at h
  simp only [Shape.leads_all_cons, Shape.leads_exactly, Shape.leads_someOf,
    Shape.leads_group_someOf] at h
  obtain ⟨_, rfl, blanks, _, rfl, hblanks, hisBlank, word, rest, rfl, hword, hisWord, -⟩ := h
  obtain ⟨c, word, rfl⟩ := List.exists_cons_of_ne_nil hword
  exact ⟨blanks, c, word ++ rest, rfl, hblanks, hisBlank, hisWord c List.mem_cons_self⟩

end

/-! ## Services and methods -/

/-- A service declaration is introduced by its keyword. -/
theorem introduces_serviceHead : Introduces "service" 's' serviceHead where
  exists_of_read hread := by
    obtain ⟨⟨block, after⟩, hread⟩ := Option.ne_none_iff_exists'.1 hread
    exact exists_of_begins (serviceHead_eq_some_iff.1 hread).1
  word := rfl
  head := rfl
  not_mem := by decide

/-- A method declaration is introduced by its keyword. -/
theorem introduces_methodHead : Introduces "rpc" 'r' methodHead where
  exists_of_read hread := by
    obtain ⟨⟨head, after⟩, hread⟩ := Option.ne_none_iff_exists'.1 hread
    exact exists_of_begins (methodHead_eq_some_iff.1 hread).1
  word := rfl
  head := rfl
  not_mem := by decide

/-- No service declaration begins inside another one. -/
theorem apart_serviceHead : Apart serviceHead := by
  have h := introduces_serviceHead
  refine h.apart (fun text block after hread => ⟨_, (serviceHead_eq_some_iff.1 hread).1⟩) ?_
  refine h.quiet_someBlanks.before.cons ?_
  exact h.quiet_word (fun _ hc => hc) (fun _ => not_isBlank_of_isWord) (by decide) (by decide)
    Shape.quiet_all_nil

/-- No method declaration begins inside another one. -/
theorem apart_methodHead : Apart methodHead := by
  have h := introduces_methodHead
  have hopen : (Shape.char '(').Quiet methodHead := h.quiet_char (by decide)
  have hbrace : (Shape.char '\x7b').Quiet methodHead := h.quiet_char (by decide)
  have hreturns : (Shape.exactly "returns").Quiet methodHead := h.quiet_exactly (by decide)
  have hdotted : ∀ c, (isWord c || c == '.') = true → isBlank c = false := by
    intro c hc
    exact not_isBlank_of_dotted (by simpa using hc)
  refine h.apart (fun text head after hread => ⟨_, (methodHead_eq_some_iff.1 hread).1⟩) ?_
  refine h.quiet_someBlanks.before.cons ?_
  refine h.quiet_word (fun _ hc => hc) (fun _ => not_isBlank_of_isWord) (by decide) (by decide) ?_
  refine h.quiet_blanks.before.cons ?_
  refine h.quiet_word (fun _ hc => hc) (fun _ => not_isBlank_of_isWord) (by decide) (by decide) ?_
  refine h.quiet_blanks.before.cons (hreturns.before.cons ?_)
  refine h.quiet_blanks.before.cons (hopen.before.cons ?_)
  refine h.quiet_blanks.before.cons ?_
  refine h.quiet_word (fun c hc => by simp [hc]) hdotted (by decide) (by decide) ?_
  exact h.quiet_blanks.before.cons (hbrace.before.cons Shape.quiet_all_nil)

/-- The service is declared after the first `place` characters of the text, up to `after`: its body
is the region that its brace begins. -/
def ServiceBlock.DeclaredAt (text : List Char) (place : Nat) (block : ServiceBlock)
    (after : List Char) : Prop :=
  serviceShape.StandsAt text place [block.name] after ∧ block.body = balancedRegion after

/-- The method is declared after the first `place` characters of the text, up to the brace of its
options. -/
def MethodHead.DeclaredAt (text : List Char) (place : Nat) (head : MethodHead)
    (after : List Char) : Prop :=
  methodShape.StandsAt text place [head.name, head.inputType, head.outputType] after ∧
    head.after = after

/-- A service is declared where the search for services can find it. -/
theorem ServiceBlock.declaredAt_iff {text after : List Char} {place : Nat} {block : ServiceBlock} :
    block.DeclaredAt text place after ↔ FoundAt atWordStart serviceHead text place block after := by
  have hword : serviceShape.BeginsWord := (Shape.beginsWord_exactly rfl (by decide)).cons _
  exact Shape.standsAt_iff_foundAt hword fun rest => serviceHead_eq_some_iff

/-- A method is declared where the search for methods can find it. -/
theorem MethodHead.declaredAt_iff {text after : List Char} {place : Nat} {head : MethodHead} :
    head.DeclaredAt text place after ↔ FoundAt atWordStart methodHead text place head after := by
  have hword : methodShape.BeginsWord := (Shape.beginsWord_exactly rfl (by decide)).cons _
  exact Shape.standsAt_iff_foundAt hword fun rest => methodHead_eq_some_iff

/-- Nothing is declared inside of another declaration of its kind: each one has ended where the next
one begins. -/
def NeverOverlap {α : Type} (declaredAt : List Char → Nat → α → List Char → Prop) : Prop :=
  ∀ {text place place' found found' after after'}, declaredAt text place found after →
    declaredAt text place' found' after' → place < place' → text.length ≤ place' + after.length

/-- What is enumerated is determined by what stands where. -/
theorem Enumerates.unique {α : Type} {stands : Nat → α → Prop} {finds finds' : List α}
    (h : Enumerates stands finds) (h' : Enumerates stands finds') : finds = finds' := by
  obtain ⟨places, hsorted, hplaces, hfinds⟩ := h
  obtain ⟨places', hsorted', hplaces', hfinds'⟩ := h'
  obtain rfl : places = places' :=
    hsorted.eq_of_mem_iff hsorted' fun place => (hplaces place).trans (hplaces' place).symm
  clear hsorted hsorted' hplaces hplaces'
  induction hfinds generalizing finds' with
  | nil =>
    cases hfinds'
    rfl
  | cons hfind _ ih =>
    cases hfinds' with
    | cons hfind' hfinds' => rw [(hfind' _).1 ((hfind _).2 rfl), ih hfinds']

/-- The services of a text, at the places where they are declared. -/
theorem findServices_enumerates (text : List Char) :
    Enumerates (fun place block => ∃ after, ServiceBlock.DeclaredAt text place block after)
      (findServices text) := by
  simp only [ServiceBlock.declaredAt_iff]
  exact apart_serviceHead.enumerates_occurrences text

/-- The methods of a body, at the places where they are declared. -/
theorem methodHeads_enumerates (body : List Char) :
    Enumerates (fun place head => ∃ after, MethodHead.DeclaredAt body place head after)
      (occurrences atWordStart methodHead body) := by
  simp only [MethodHead.declaredAt_iff]
  exact apart_methodHead.enumerates_occurrences body

/-- The services of a text are those of the blocks that have a method. -/
theorem servicesOf_eq (text : String) :
    servicesOf text =
      ((findServices text.toList).filter fun block => !(findMethods block.body).isEmpty).map
        fun block => Service.declared (String.ofList (findPackage text.toList))
          (String.ofList block.name) (findMethods block.body) := by
  rw [servicesOf, ← List.filterMap_eq_map, List.filterMap_filter]
  refine List.filterMap_congr fun block _ => ?_
  rw [ServiceBlock.service?]
  cases hmethods : findMethods block.body with
  | nil => rfl
  | cons method methods =>
    rw [Function.comp, hmethods]
    rfl

/-- **Declarations are enumerated completely.** There is a service for every place where its shape
stands, in ascending order, and of the methods that are declared in a body those whose options give
a binding. No declaration overlaps another of its kind. A text has the services of its blocks with a
method, in their order and under its package. -/
theorem declarations_enumerated :
    (NeverOverlap ServiceBlock.DeclaredAt ∧ NeverOverlap MethodHead.DeclaredAt) ∧
    (∀ text, Enumerates (fun place block => ∃ after, block.DeclaredAt text place after)
      (findServices text)) ∧
    (∀ body, ∃ heads : List MethodHead,
      Enumerates (fun place head => ∃ after, head.DeclaredAt body place after) heads ∧
        findMethods body = heads.filterMap fun head =>
          (findBinding (balancedRegion head.after)).map fun binding =>
            { name := String.ofList head.name
              inputType := String.ofList head.inputType
              outputType := String.ofList head.outputType
              binding }) ∧
    ∀ text : String, ∃ package : String, package = String.ofList (findPackage text.toList) ∧
      servicesOf text =
        ((findServices text.toList).filter fun block => !(findMethods block.body).isEmpty).map
          fun block =>
            { packageName := package
              serviceName := String.ofList block.name
              fullName :=
                if package = "" then String.ofList block.name
                else package ++ "." ++ String.ofList block.name
              methods := findMethods block.body } := by
  refine ⟨⟨?_, ?_⟩, findServices_enumerates, fun body => ?_, fun text => ?_⟩
  · intro text place place' block block' after after' h h' hlt
    exact apart_serviceHead.length_le (ServiceBlock.declaredAt_iff.1 h)
      (ServiceBlock.declaredAt_iff.1 h') hlt
  · intro text place place' head head' after after' h h' hlt
    exact apart_methodHead.length_le (MethodHead.declaredAt_iff.1 h)
      (MethodHead.declaredAt_iff.1 h') hlt
  · exact ⟨_, methodHeads_enumerates body, rfl⟩
  · exact ⟨_, rfl, servicesOf_eq text⟩

/-- The body of a service with two methods, of which the second one has no binding. -/
def usersBody : List Char :=
  "rpc Get(Id) returns (User) \x7b option (google.api.http) = \x7b get: \"/u\" \x7d; \x7d".toList ++
  "rpc Put(User) returns (Id) \x7b\x7d".toList

/-- The body of a service that is not closed. -/
def openBody : List Char := "service Users \x7b".toList ++ usersBody ++ ['\x7d']

/-- A declaration inside of the body of another one, which is named by a keyword. -/
def nestedText : List Char := "package p;\n// service rpc \x7b".toList ++ openBody

/-- The method of the body that has a binding. -/
def getUser : Method where
  name := "Get"
  inputType := "Id"
  outputType := "User"
  binding := { verb := .get, pathTemplate := "/u" }

/-- The inner service begins after the brace of the outer one and is not lost. Both methods of its
body are enumerated, and the one that has a binding is a method of both services. -/
theorem declarations_enumerated_nested :
    (∃ place place' after after', place < place' ∧
      ServiceBlock.DeclaredAt nestedText place { name := "rpc".toList, body := openBody } after ∧
      ServiceBlock.DeclaredAt nestedText place' { name := "Users".toList, body := usersBody }
        after' ∧
      nestedText.length ≤ place' + after.length) ∧
    (∃ heads : List MethodHead,
      Enumerates (fun place head => ∃ after, head.DeclaredAt usersBody place after) heads ∧
      heads.map MethodHead.name = ["Get".toList, "Put".toList] ∧
      heads.filterMap MethodHead.method? = [getUser]) ∧
    servicesOf (String.ofList nestedText) =
      [.declared "p" "rpc" [getUser], .declared "p" "Users" [getUser]] := by
  obtain ⟨⟨hoverlap, -⟩, hservices, hmethods, hmodel⟩ := declarations_enumerated
  have hpackage : findPackage nestedText = ['p'] := by decide +kernel
  have hfound : findServices nestedText =
      [{ name := "rpc".toList, body := openBody },
        { name := "Users".toList, body := usersBody }] := by
    decide +kernel
  have hopen : findMethods openBody = [getUser] := by decide +kernel
  have husers : findMethods usersBody = [getUser] := by decide +kernel
  refine ⟨?_, ?_, ?_⟩
  · obtain ⟨places, hsorted, -, hfinds⟩ := hfound ▸ hservices nestedText
    cases hfinds with
    | cons houter hfinds =>
      cases hfinds with
      | cons hinner hfinds =>
        cases hfinds
        obtain ⟨after, houter⟩ := (houter _).2 rfl
        obtain ⟨after', hinner⟩ := (hinner _).2 rfl
        have hlt := (List.pairwise_cons.1 hsorted).1 _ List.mem_cons_self
        exact ⟨_, _, after, after', hlt, houter, hinner, hoverlap houter hinner hlt⟩
  · obtain ⟨heads, hheads, hfilter⟩ := hmethods usersBody
    refine ⟨heads, hheads, ?_, hfilter.symm.trans husers⟩
    rw [hheads.unique (methodHeads_enumerates usersBody)]
    decide +kernel
  · obtain ⟨package, rfl, hmodel⟩ := hmodel (String.ofList nestedText)
    rw [hmodel, String.toList_ofList, hfound, hpackage]
    simp only [List.filter_cons, List.filter_nil, hopen, husers]
    decide +kernel

end Transcoding.Declaration
