import Transcoding.Declaration.Document
import Transcoding.Proofs.Declaration.Binding
import Transcoding.Proofs.Text.Blank

/-!
# Shapes as regular patterns

A shape is a regular pattern with groups, and `Shape.Matches` gives it the usual meaning: a text has
the shape if it can be cut so that the pieces agree with the pattern. The recognisers of
declarations read exactly where their shapes begin (`serviceHead_eq_some_iff`,
`methodHead_eq_some_iff`, `Spells.entry_eq_some_iff`). They take the longest run of a class and
never go back, which loses nothing: what comes after a run in a shape does not begin with a
character of its class (`Refuses`, `Shape.Solid`). `Shape.Leads` is the form in which the two sides
are compared, one piece of a shape after the other.
-/

namespace Transcoding.Declaration

open Transcoding.Text

/-! ## Patterns -/

/-- A regular pattern over characters, with groups. -/
inductive Shape where
  | empty
  | one (isMember : Char → Bool)
  | seq (first second : Shape)
  | either (first second : Shape)
  | many (shape : Shape)
  | group (shape : Shape)

namespace Shape

/-- The text has the shape, and its groups hold these texts, from left to right. -/
inductive Matches : Shape → List Char → List (List Char) → Prop
  | empty : Matches .empty [] []
  | one {isMember : Char → Bool} {c : Char} (h : isMember c = true) :
      Matches (.one isMember) [c] []
  | seq {first second : Shape} {text text' : List Char} {groups groups' : List (List Char)}
      (hfirst : Matches first text groups) (hsecond : Matches second text' groups') :
      Matches (.seq first second) (text ++ text') (groups ++ groups')
  | left {first second : Shape} {text : List Char} {groups : List (List Char)}
      (h : Matches first text groups) : Matches (.either first second) text groups
  | right {first second : Shape} {text : List Char} {groups : List (List Char)}
      (h : Matches second text groups) : Matches (.either first second) text groups
  | stop {shape : Shape} : Matches (.many shape) [] []
  | more {shape : Shape} {text text' : List Char} {groups groups' : List (List Char)}
      (hfirst : Matches shape text groups) (hrest : Matches (.many shape) text' groups') :
      Matches (.many shape) (text ++ text') (groups ++ groups')
  | group {shape : Shape} {text : List Char} {groups : List (List Char)}
      (h : Matches shape text groups) : Matches (.group shape) text (text :: groups)

/-- The shapes one after the other. -/
def all (shapes : List Shape) : Shape := shapes.foldr .seq .empty

/-- The given character. -/
def char (expected : Char) : Shape := .one fun c => c == expected

/-- A word, its letters compared by `same`. -/
def letters (same : Char → Char → Bool) (word : List Char) : Shape :=
  all (word.map fun letter => .one (same letter))

/-- The given text. -/
def exactly (text : String) : Shape := letters (fun letter c => letter == c) text.toList

/-- Any number of characters of a class. -/
def manyOf (isMember : Char → Bool) : Shape := .many (.one isMember)

/-- At least one character of a class. -/
def someOf (isMember : Char → Bool) : Shape := .seq (.one isMember) (manyOf isMember)

variable {isMember : Char → Bool} {text : List Char} {groups : List (List Char)}

/-- A run of a class, perhaps an empty one. -/
theorem matches_manyOf_iff :
    (manyOf isMember).Matches text groups ↔ (∀ c ∈ text, isMember c = true) ∧ groups = [] := by
  constructor
  · intro h
    generalize hshape : manyOf isMember = shape at h
    induction h with
    | stop => exact ⟨nofun, rfl⟩
    | more hfirst _ _ ih =>
      cases hshape
      cases hfirst with
      | one hc =>
        obtain ⟨hmany, rfl⟩ := ih rfl
        exact ⟨List.forall_mem_cons.2 ⟨hc, hmany⟩, rfl⟩
    | _ => cases hshape
  · rintro ⟨h, rfl⟩
    induction text with
    | nil => exact .stop
    | cons c text ih =>
      rw [List.forall_mem_cons] at h
      exact .more (.one h.1) (ih h.2)

/-- A run of a class that is not empty. -/
theorem matches_someOf_iff :
    (someOf isMember).Matches text groups ↔
      text ≠ [] ∧ (∀ c ∈ text, isMember c = true) ∧ groups = [] := by
  constructor
  · intro h
    cases h with
    | seq hfirst hrest =>
      cases hfirst with
      | one hc =>
        obtain ⟨hmany, rfl⟩ := matches_manyOf_iff.1 hrest
        exact ⟨List.cons_ne_nil _ _, List.forall_mem_cons.2 ⟨hc, hmany⟩, rfl⟩
  · rintro ⟨hne, h, rfl⟩
    cases text with
    | nil => exact absurd rfl hne
    | cons c text =>
      rw [List.forall_mem_cons] at h
      exact .seq (.one h.1) (matches_manyOf_iff.2 ⟨h.2, rfl⟩)

/-- A group records the text that its shape matches. -/
theorem matches_group_iff {shape : Shape} :
    (group shape).Matches text groups ↔
      ∃ inner, shape.Matches text inner ∧ groups = text :: inner := by
  constructor
  · intro h
    cases h with
    | group h => exact ⟨_, h, rfl⟩
  · rintro ⟨inner, h, rfl⟩
    exact .group h

/-- Letters are matched one by one. -/
theorem matches_letters_iff {same : Char → Char → Bool} {word : List Char} :
    (letters same word).Matches text groups ↔
      List.Forall₂ (fun letter c => same letter c = true) word text ∧ groups = [] := by
  constructor
  · intro h
    induction word generalizing text groups with
    | nil =>
      cases h with
      | empty => exact ⟨.nil, rfl⟩
    | cons letter word ih =>
      cases h with
      | seq hfirst hrest =>
        cases hfirst with
        | one hc =>
          obtain ⟨hword, rfl⟩ := ih hrest
          exact ⟨.cons hc hword, rfl⟩
  · rintro ⟨h, rfl⟩
    induction h with
    | nil => exact .empty
    | cons hc _ ih => exact .seq (.one hc) ih

/-! ## Leading -/

/-- The text begins with the shape: these are the texts of its groups, and this comes after it. -/
def Begins (shape : Shape) (text : List Char) (groups : List (List Char)) (after : List Char) :
    Prop :=
  ∃ used, text = used ++ after ∧ shape.Matches used groups

/-- The text begins with the shape, and what comes after it is as `next` says. -/
def Leads (shape : Shape) (text : List Char) (next : List (List Char) → List Char → Prop) : Prop :=
  ∃ used rest groups, text = used ++ rest ∧ shape.Matches used groups ∧ next groups rest

section
variable {next : List (List Char) → List Char → Prop}

/-- A text begins with a shape if the shape leads to what comes after. -/
theorem leads_iff_begins {shape : Shape} {after : List Char} :
    (shape.Leads text fun groups' rest => groups' = groups ∧ rest = after) ↔
      shape.Begins text groups after := by
  constructor
  · rintro ⟨used, rest, groups', htext, hmatch, rfl, rfl⟩
    exact ⟨used, htext, hmatch⟩
  · rintro ⟨used, htext, hmatch⟩
    exact ⟨used, after, groups, htext, hmatch, rfl, rfl⟩

/-- A condition that does not depend on the match can be taken out of it. -/
theorem leads_and {shape : Shape} {p : Prop} :
    (shape.Leads text fun groups rest => next groups rest ∧ p) ↔ shape.Leads text next ∧ p := by
  constructor
  · rintro ⟨used, rest, groups, htext, hmatch, hnext, hp⟩
    exact ⟨⟨used, rest, groups, htext, hmatch, hnext⟩, hp⟩
  · rintro ⟨⟨used, rest, groups, htext, hmatch, hnext⟩, hp⟩
    exact ⟨used, rest, groups, htext, hmatch, hnext, hp⟩

/-- The empty sequence leads to the text itself. -/
theorem leads_all_nil : (all []).Leads text next ↔ next [] text := by
  constructor
  · rintro ⟨used, rest, groups, rfl, h, hnext⟩
    cases h with
    | empty => exact hnext
  · intro hnext
    exact ⟨[], text, [], rfl, .empty, hnext⟩

/-- A pair of shapes leads where the second one does after the first. -/
theorem leads_seq {first second : Shape} :
    (seq first second).Leads text next ↔ first.Leads text fun groups rest =>
      second.Leads rest fun groups' => next (groups ++ groups') := by
  constructor
  · rintro ⟨used, rest, groups, rfl, h, hnext⟩
    cases h with
    | seq hfirst hsecond =>
      exact ⟨_, _, _, List.append_assoc .., hfirst, _, _, _, rfl, hsecond, hnext⟩
  · rintro ⟨used, _, groups, rfl, hfirst, used', rest, groups', rfl, hsecond, hnext⟩
    exact ⟨_, _, _, (List.append_assoc ..).symm, .seq hfirst hsecond, hnext⟩

/-- A sequence leads where its other shapes do after the first. -/
theorem leads_all_cons {shape : Shape} {shapes : List Shape} :
    (all (shape :: shapes)).Leads text next ↔ shape.Leads text fun groups rest =>
      (all shapes).Leads rest fun groups' => next (groups ++ groups') :=
  leads_seq

/-- A choice leads where one of its shapes does. -/
theorem leads_either {first second : Shape} :
    (either first second).Leads text next ↔ first.Leads text next ∨ second.Leads text next := by
  constructor
  · rintro ⟨used, rest, groups, rfl, h, hnext⟩
    cases h with
    | left h => exact .inl ⟨used, rest, groups, rfl, h, hnext⟩
    | right h => exact .inr ⟨used, rest, groups, rfl, h, hnext⟩
  · rintro (⟨used, rest, groups, rfl, h, hnext⟩ | ⟨used, rest, groups, rfl, h, hnext⟩)
    · exact ⟨used, rest, groups, rfl, .left h, hnext⟩
    · exact ⟨used, rest, groups, rfl, .right h, hnext⟩

/-- A run of a class leads to each place inside of it. -/
theorem leads_manyOf :
    (manyOf isMember).Leads text next ↔
      ∃ used rest, text = used ++ rest ∧ (∀ c ∈ used, isMember c = true) ∧ next [] rest := by
  simp [Leads, matches_manyOf_iff]

/-- A run that is not empty leads to each place inside of it. -/
theorem leads_someOf :
    (someOf isMember).Leads text next ↔
      ∃ used rest, text = used ++ rest ∧ used ≠ [] ∧ (∀ c ∈ used, isMember c = true) ∧
        next [] rest := by
  simp [Leads, matches_someOf_iff, and_assoc]

/-- A group of a run leads to the same places, and it records the run. -/
theorem leads_group_someOf :
    (group (someOf isMember)).Leads text next ↔
      ∃ used rest, text = used ++ rest ∧ used ≠ [] ∧ (∀ c ∈ used, isMember c = true) ∧
        next [used] rest := by
  simp [Leads, matches_group_iff, matches_someOf_iff, and_assoc]

/-- Letters lead to the place after their spelling. -/
theorem leads_letters {same : Char → Char → Bool} {word : List Char} :
    (letters same word).Leads text next ↔
      ∃ used rest, text = used ++ rest ∧
        List.Forall₂ (fun letter c => same letter c = true) word used ∧ next [] rest := by
  simp [Leads, matches_letters_iff]

/-- A character leads to the place after it. -/
theorem leads_char {expected : Char} :
    (char expected).Leads text next ↔ ∃ rest, text = expected :: rest ∧ next [] rest := by
  constructor
  · rintro ⟨used, rest, groups, rfl, h, hnext⟩
    cases h with
    | one hc => exact ⟨rest, by rw [eq_of_beq hc]; rfl, hnext⟩
  · rintro ⟨rest, rfl, hnext⟩
    exact ⟨[expected], rest, [], rfl, .one (beq_self_eq_true expected), hnext⟩

/-- A given text leads to the place after it. -/
theorem leads_exactly {expected : String} :
    (exactly expected).Leads text next ↔ ∃ rest, text = expected.toList ++ rest ∧ next [] rest := by
  simp [exactly, leads_letters]

/-- A text of the shape begins with a character that is not blank. -/
def Solid (shape : Shape) : Prop :=
  ∀ used groups, shape.Matches used groups → ∃ c tail, used = c :: tail ∧ isBlank c = false

/-- A group of a run is solid if no character of its class is blank. -/
theorem solid_group_someOf (h : ∀ c, isMember c = true → isBlank c = false) :
    (group (someOf isMember)).Solid := by
  intro used groups hmatch
  obtain ⟨inner, hmatch, -⟩ := matches_group_iff.1 hmatch
  obtain ⟨hne, hused, -⟩ := matches_someOf_iff.1 hmatch
  obtain ⟨c, tail, rfl⟩ := List.exists_cons_of_ne_nil hne
  exact ⟨c, tail, rfl, h c (hused c List.mem_cons_self)⟩

/-- A given text is solid if it begins with a character that is not blank. -/
theorem solid_exactly {expected : String} {first : Char}
    (hfirst : expected.toList.head? = some first) (h : isBlank first = false) :
    (exactly expected).Solid := by
  intro used groups hmatch
  obtain ⟨hletters, -⟩ := matches_letters_iff.1 hmatch
  obtain ⟨tail, htail⟩ := List.head?_eq_some_iff.1 hfirst
  have hused : expected.toList = used := by simpa using hletters
  exact ⟨first, tail, hused.symm.trans htail, h⟩

/-- Blanks in front of a shape are skipped. -/
theorem leads_skipBlanks {shape : Shape} (h : shape.Solid) :
    shape.Leads (skipBlanks text) next ↔
      (manyOf isBlank).Leads text fun _ rest => shape.Leads rest next := by
  rw [leads_manyOf]
  constructor
  · intro hleads
    obtain ⟨blanks, htext, hblanks, -⟩ := skipBlanks_eq_iff.1 (Eq.refl (skipBlanks text))
    exact ⟨blanks, _, htext, hblanks, hleads⟩
  · rintro ⟨blanks, _, rfl, hblanks, used, rest, groups, rfl, hmatch, hnext⟩
    obtain ⟨c, tail, rfl, hc⟩ := h _ _ hmatch
    rw [skipBlanks_eq_iff.2 ⟨blanks, rfl, hblanks, by simpa using hc⟩]
    exact ⟨_, rest, groups, rfl, hmatch, hnext⟩

end

end Shape

/-! ## Pieces of recognisers -/

section
variable {β : Type} {isMember : Char → Bool} {text : List Char} {result : β}

/-- The reader reads nothing where a character of the class stands. -/
def Refuses (isMember : Char → Bool) (next : List Char → Option β) : Prop :=
  ∀ c text, isMember c = true → next (c :: text) = none

/-- What is read by a reader that refuses a class does not begin with a character of the class. -/
theorem Refuses.of_head {next : List Char → Option β} (h : Refuses isMember next)
    {rest : List Char} (hread : next rest = some result) :
    ∀ c ∈ rest.head?, isMember c = false := by
  intro c hc
  obtain ⟨tail, rfl⟩ := List.head?_eq_some_iff.1 hc
  rw [Bool.eq_false_iff]
  intro hmember
  rw [h c tail hmember] at hread
  cases hread

/-- A run refuses the characters that are not in its class. -/
theorem refuses_run {isMember' : Char → Bool} {next : List Char × List Char → Option β}
    (h : ∀ c, isMember c = true → isMember' c = false) :
    Refuses isMember fun text => (run isMember' text).bind next := by
  intro c text hc
  simp [run, h c hc]

/-- A sign refuses a class that it is not in and that has no blanks. -/
theorem refuses_sign {expected : Char} {next : List Char → Option β}
    (h : ∀ c, isMember c = true → isBlank c = false) (hexpected : isMember expected = false) :
    Refuses isMember fun text => (sign expected text).bind next := by
  intro c text hc
  have hne : c ≠ expected := by
    rintro rfl
    cases hexpected.symm.trans hc
  have hskip : skipBlanks (c :: text) = c :: text := skipBlanks_eq_self (by simpa using h c hc)
  simp [sign, hskip, hne]

/-- A literal is read where its shape leads. -/
theorem bind_literal {expected : String} {next : List Char → Option β} :
    (literal expected text).bind next = some result ↔
      (Shape.exactly expected).Leads text fun _ rest => next rest = some result := by
  simp [Option.bind_eq_some_iff, literal_eq_some_iff, Shape.leads_exactly]

/-- A run is followed by a sign that is not of its class. -/
theorem bind_run_sign {expected : Char} {next : List Char × List Char → List Char → Option β}
    (h : ∀ c, isMember c = true → isBlank c = false) (hexpected : isMember expected = false) :
    ((run isMember text).bind fun found => (sign expected found.2).bind (next found)) =
        some result ↔
      (Shape.group (.someOf isMember)).Leads text fun groups rest => ∃ found, groups = [found] ∧
        (sign expected rest).bind (next (found, rest)) = some result := by
  rw [Shape.leads_group_someOf, Option.bind_eq_some_iff]
  constructor
  · rintro ⟨⟨found, rest⟩, hrun, hnext⟩
    cases text with
    | nil => cases hrun
    | cons c text =>
      rw [run] at hrun
      split at hrun
      · next hc =>
        cases hrun
        obtain ⟨htext, hfound, -⟩ := (@takeWhile_dropWhile_eq_iff isMember text _ _).1 ⟨rfl, rfl⟩
        exact ⟨_, _, congrArg (c :: ·) htext, List.cons_ne_nil _ _,
          List.forall_mem_cons.2 ⟨hc, hfound⟩, _, rfl, hnext⟩
      · cases hrun
  · rintro ⟨used, rest, rfl, hne, hused, found, hfound, hnext⟩
    cases hfound
    have hrefuses : Refuses isMember fun rest' => (sign expected rest').bind (next (used, rest)) :=
      refuses_sign h hexpected
    exact ⟨_, run_append hne hused (hrefuses.of_head hnext), hnext⟩

/-- Blanks are read where their shape leads, if the reader after them refuses blanks. -/
theorem bind_someBlanks {next : List Char → Option β} (h : Refuses isBlank next) :
    (someBlanks text).bind next = some result ↔
      (Shape.someOf isBlank).Leads text fun _ rest => next rest = some result := by
  rw [Shape.leads_someOf]
  cases text with
  | nil => simp [someBlanks]
  | cons c text =>
    rw [someBlanks]
    constructor
    · intro hread
      split at hread
      · next hc =>
        obtain ⟨blanks, htext, hblanks, -⟩ := skipBlanks_eq_iff.1 (Eq.refl (skipBlanks text))
        exact ⟨c :: blanks, _, congrArg (c :: ·) htext, List.cons_ne_nil _ _,
          List.forall_mem_cons.2 ⟨hc, hblanks⟩, hread⟩
      · cases hread
    · rintro ⟨used, rest, htext, hne, hused, hnext⟩
      cases used with
      | nil => exact absurd rfl hne
      | cons d blanks =>
        obtain ⟨rfl, htail⟩ := List.cons.inj htext
        rw [List.forall_mem_cons] at hused
        rw [if_pos hused.1, skipBlanks_eq_iff.2 ⟨blanks, htail, hused.2, h.of_head hnext⟩]
        exact hnext

/-- A sign is read where blanks and the sign lead. -/
theorem bind_sign {expected : Char} {next : List Char → Option β} (h : isBlank expected = false) :
    (sign expected text).bind next = some result ↔
      (Shape.manyOf isBlank).Leads text fun _ rest =>
        (Shape.char expected).Leads rest fun _ rest => next rest = some result := by
  simp only [Shape.leads_manyOf, Shape.leads_char]
  rw [Option.bind_eq_some_iff]
  constructor
  · rintro ⟨rest, hsign, hnext⟩
    obtain ⟨blanks, hblanks, rfl⟩ := exists_of_sign hsign
    exact ⟨blanks, _, rfl, hblanks, rest, rfl, hnext⟩
  · rintro ⟨blanks, _, rfl, hblanks, rest, rfl, hnext⟩
    refine ⟨rest, ?_, hnext⟩
    have hskip : skipBlanks (blanks ++ expected :: rest) = expected :: rest :=
      skipBlanks_eq_iff.2 ⟨blanks, rfl, hblanks, by simpa using h⟩
    simp [sign, hskip]

end

/-! ## Heads of declarations -/

/-- The shape of a service declaration up to its brace: the group is the name. -/
def serviceShape : Shape :=
  .all [.exactly "service", .someOf isBlank, .group (.someOf isWord), .manyOf isBlank,
    .char '\x7b']

/-- The shape of a method declaration up to the brace of its options: the groups are the name, the
input type and the output type. -/
def methodShape : Shape :=
  .all [.exactly "rpc", .someOf isBlank, .group (.someOf isWord),
    .manyOf isBlank, .char '(', .manyOf isBlank, .group (.someOf isWord),
    .manyOf isBlank, .char ')', .manyOf isBlank, .exactly "returns",
    .manyOf isBlank, .char '(', .manyOf isBlank, .group (.someOf fun c => isWord c || c == '.'),
    .manyOf isBlank, .char ')', .manyOf isBlank, .char '\x7b']

/-- A blank is not a word character. -/
theorem not_isWord_of_isBlank {c : Char} (h : isBlank c = true) : isWord c = false := by
  rw [Bool.eq_false_iff]
  intro hword
  cases (not_isBlank_of_isWord hword).symm.trans h

/-- The head of a service, as a chain of readers. -/
theorem serviceHead_eq (text : List Char) : serviceHead text =
    (literal "service" text).bind fun rest => (someBlanks rest).bind fun rest =>
      (run isWord rest).bind fun name => (sign '\x7b' name.2).bind fun after =>
        some ({ name := name.1, body := balancedRegion after }, after) :=
  rfl

/-- The head of a service is read where its shape begins. -/
theorem serviceHead_eq_some_iff {text after : List Char} {block : ServiceBlock} :
    serviceHead text = some (block, after) ↔
      serviceShape.Begins text [block.name] after ∧ block.body = balancedRegion after := by
  have hbrace : isBlank '\x7b' = false := by decide
  have hword : isWord '\x7b' = false := by decide
  have hfound : ∀ name rest : List Char,
      some (({ name, body := balancedRegion rest } : ServiceBlock), rest) = some (block, after) ↔
        ([name] = [block.name] ∧ rest = after) ∧ block.body = balancedRegion after := by
    intro name rest
    constructor
    · intro h
      cases h
      exact ⟨⟨rfl, rfl⟩, rfl⟩
    · rintro ⟨⟨hname, rfl⟩, hbody⟩
      cases hname
      rw [← hbody]
  rw [serviceHead_eq, bind_literal, ← Shape.leads_iff_begins, ← Shape.leads_and]
  simp only [bind_someBlanks (refuses_run fun _ => not_isWord_of_isBlank),
    bind_run_sign (fun _ => not_isBlank_of_isWord) hword, bind_sign hbrace, serviceShape,
    Shape.leads_all_cons, Shape.leads_all_nil, hfound]
  simp only [Shape.leads_exactly, Shape.leads_someOf, Shape.leads_group_someOf, Shape.leads_manyOf,
    Shape.leads_char, List.nil_append, List.append_nil, List.cons.injEq, and_true, exists_eq_left']

/-- The head of a method, as a chain of readers. -/
theorem methodHead_eq (text : List Char) : methodHead text =
    (literal "rpc" text).bind fun rest => (someBlanks rest).bind fun rest =>
      (run isWord rest).bind fun name => (sign '(' name.2).bind fun rest =>
      (run isWord (skipBlanks rest)).bind fun input => (sign ')' input.2).bind fun rest =>
      (literal "returns" (skipBlanks rest)).bind fun rest => (sign '(' rest).bind fun rest =>
      (run (fun c => isWord c || c == '.') (skipBlanks rest)).bind fun output =>
      (sign ')' output.2).bind fun rest => (sign '\x7b' rest).bind fun after =>
        some ({ name := name.1, inputType := input.1, outputType := output.1, after }, after) :=
  rfl

/-- The head of a method is read where its shape begins. -/
theorem methodHead_eq_some_iff {text after : List Char} {head : MethodHead} :
    methodHead text = some (head, after) ↔
      methodShape.Begins text [head.name, head.inputType, head.outputType] after ∧
        head.after = after := by
  have hopen : isBlank '(' = false := by decide
  have hclose : isBlank ')' = false := by decide
  have hbrace : isBlank '\x7b' = false := by decide
  have hwordOpen : isWord '(' = false := by decide
  have hwordClose : isWord ')' = false := by decide
  have hdottedClose : (isWord ')' || ')' == '.') = false := by decide
  have hdotted : ∀ c, (isWord c || c == '.') = true → isBlank c = false := by
    intro c hc
    exact not_isBlank_of_dotted (by simpa using hc)
  have hreturns : (Shape.exactly "returns").Solid := Shape.solid_exactly rfl (by decide)
  have hfound : ∀ name inputType outputType rest : List Char,
      some (({ name, inputType, outputType, after := rest } : MethodHead), rest) =
          some (head, after) ↔
        ([name, inputType, outputType] = [head.name, head.inputType, head.outputType] ∧
          rest = after) ∧ head.after = after := by
    intro name inputType outputType rest
    constructor
    · intro h
      cases h
      exact ⟨⟨rfl, rfl⟩, rfl⟩
    · rintro ⟨⟨hnames, rfl⟩, hafter⟩
      cases hnames
      rw [← hafter]
  rw [methodHead_eq, bind_literal, ← Shape.leads_iff_begins, ← Shape.leads_and]
  simp only [bind_someBlanks (refuses_run fun _ => not_isWord_of_isBlank),
    bind_run_sign (fun _ => not_isBlank_of_isWord) hwordOpen,
    bind_run_sign (fun _ => not_isBlank_of_isWord) hwordClose, bind_run_sign hdotted hdottedClose,
    bind_literal, bind_sign hopen, bind_sign hclose, bind_sign hbrace,
    Shape.leads_skipBlanks hreturns,
    Shape.leads_skipBlanks (Shape.solid_group_someOf fun _ => not_isBlank_of_isWord),
    Shape.leads_skipBlanks (Shape.solid_group_someOf hdotted), methodShape, Shape.leads_all_cons,
    Shape.leads_all_nil, hfound]
  simp only [Shape.leads_exactly, Shape.leads_someOf, Shape.leads_group_someOf, Shape.leads_manyOf,
    Shape.leads_char, List.nil_append, List.append_nil, List.cons_append, List.cons.injEq, and_true,
    exists_eq_left']

/-! ## Entries -/

/-- A text that is not empty between two equal quotes: the group is the text. -/
def quotedShape (quote : Char) : Shape :=
  .all [.char quote, .group (.someOf fun c => c != quote), .char quote]

/-- The shape of an entry with a keyword: the group is the quoted text. -/
def entryShape (keyword : Shape) : Shape :=
  .all [keyword, .manyOf isBlank, .char ':', .manyOf isBlank,
    .either (quotedShape '"') (quotedShape '\x27')]

/-- A quoted text leads to the place after its closing quote. -/
theorem leads_quotedShape {quote : Char} {text content rest : List Char} :
    ((quotedShape quote).Leads text fun groups after => groups = [content] ∧ after = rest) ↔
      content ≠ [] ∧ quote ∉ content ∧ text = quote :: (content ++ quote :: rest) := by
  have hclass : ∀ used : List Char, (∀ c ∈ used, (c != quote) = true) ↔ quote ∉ used := by
    intro used
    simp only [bne_iff_ne]
    exact ⟨fun h hquote => h quote hquote rfl, fun h c hc heq => h (heq ▸ hc)⟩
  simp only [quotedShape, Shape.leads_all_cons, Shape.leads_all_nil, Shape.leads_char,
    Shape.leads_group_someOf, hclass, List.nil_append, List.append_nil]
  constructor
  · rintro ⟨_, rfl, used, _, rfl, hne, hquote, _, rfl, hused, rfl⟩
    cases hused
    exact ⟨hne, hquote, rfl⟩
  · rintro ⟨hne, hquote, rfl⟩
    exact ⟨_, rfl, content, _, rfl, hne, hquote, rest, rfl, rfl, rfl⟩

/-- A text in quotes is read where its shape leads, in either kind of quotes. -/
theorem quotedText_eq_some_iff {text content rest : List Char} :
    quotedText text = some (content, rest) ↔
      (Shape.either (quotedShape '"') (quotedShape '\x27')).Leads text fun groups after =>
        groups = [content] ∧ after = rest := by
  rw [Shape.leads_either, leads_quotedShape, leads_quotedShape]
  constructor
  · intro h
    cases text with
    | nil => cases h
    | cons quote text =>
      rw [quotedText] at h
      split at h
      · next hquote =>
        split at h
        · next c content' rest' hcut =>
          cases h
          obtain ⟨rfl, hcontent⟩ := cutAt_eq_some_iff.1 hcut
          rcases (by simpa using hquote : quote = '"' ∨ quote = '\x27') with rfl | rfl
          · exact .inl ⟨List.cons_ne_nil _ _, hcontent, rfl⟩
          · exact .inr ⟨List.cons_ne_nil _ _, hcontent, rfl⟩
        · cases h
      · cases h
  · have hread : ∀ quote : Char, (quote = '"' || quote = '\x27') = true →
        content ≠ [] → quote ∉ content →
          quotedText (quote :: (content ++ quote :: rest)) = some (content, rest) := by
      intro quote hquote hne hcontent
      obtain ⟨c, tail, rfl⟩ := List.exists_cons_of_ne_nil hne
      rw [quotedText, if_pos hquote, cutAt_eq_some_iff.2 ⟨rfl, hcontent⟩]
    rintro (⟨hne, hcontent, rfl⟩ | ⟨hne, hcontent, rfl⟩)
    · exact hread '"' rfl hne hcontent
    · exact hread '\x27' rfl hne hcontent

/-- A text in quotes does not begin with a blank. -/
theorem solid_quoted : (Shape.either (quotedShape '"') (quotedShape '\x27')).Solid := by
  have hquoted : ∀ quote : Char, isBlank quote = false → (quotedShape quote).Solid := by
    intro quote hquote used groups h
    cases h with
    | seq hfirst _ =>
      cases hfirst with
      | one hc => exact ⟨_, _, rfl, eq_of_beq hc ▸ hquote⟩
  intro used groups h
  cases h with
  | left h => exact hquoted '"' (by decide) used groups h
  | right h => exact hquoted '\x27' (by decide) used groups h

/-- An entry is read where its shape begins. -/
theorem Spells.entry_eq_some_iff {same : Char → Char → Bool} {letters : List Char}
    {keyword : List Char → Option (List Char)} (h : Spells same letters keyword)
    {text content after : List Char} :
    entry keyword text = some (content, after) ↔
      (entryShape (.letters same letters)).Begins text [content] after := by
  have hcolon : isBlank ':' = false := by decide
  have hentry : entry keyword text = (keyword text).bind fun rest =>
      (sign ':' rest).bind fun rest => quotedText (skipBlanks rest) := rfl
  rw [hentry, Option.bind_eq_some_iff, ← Shape.leads_iff_begins]
  simp only [h text, bind_sign hcolon, quotedText_eq_some_iff,
    Shape.leads_skipBlanks solid_quoted, entryShape, Shape.leads_all_cons, Shape.leads_all_nil,
    List.append_nil, Shape.leads_manyOf, Shape.leads_char, Shape.leads_letters, List.nil_append]
  constructor
  · rintro ⟨rest, ⟨spelling, hspelling, htext⟩, hrest⟩
    exact ⟨spelling, rest, htext, hspelling, hrest⟩
  · rintro ⟨spelling, rest, htext, hspelling, hrest⟩
    exact ⟨rest, ⟨spelling, hspelling, htext⟩, hrest⟩

end Transcoding.Declaration
