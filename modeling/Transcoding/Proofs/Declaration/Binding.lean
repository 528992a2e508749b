import Transcoding.Proofs.Declaration.Printed
import Mathlib.Data.List.Forall2

/-!
# The binding of printed options

The search for an entry passes over the places of the printed options where its keyword does not
stand. In the fixed parts of the text a letter of the keyword clashes with the text (`Clashes`). In
a path or a selector the keyword may stand, but no quoted text can follow it there: a quote comes
only at the end, so the colon of the entry would have to end the path, or no quote is left to close
the text (`Spells.silent_of_plain`). So the options give the path for its own verb and for no other
(`pathOf_lines`), and the selector (`selectorOf_lines`).
-/

namespace Transcoding.Declaration

open Transcoding.Text

/-! ## Keywords -/

/-- The reader takes the letters off the front of a text, as `same` compares them. -/
def Spells (same : Char → Char → Bool) (letters : List Char)
    (keyword : List Char → Option (List Char)) : Prop :=
  ∀ text rest : List Char, keyword text = some rest ↔
    ∃ spelling, List.Forall₂ (fun letter c => same letter c = true) letters spelling ∧
      text = spelling ++ rest

/-- A literal is read where its letters stand. -/
theorem spells_literal (expected : String) :
    Spells (fun letter c => letter == c) expected.toList (literal expected) := by
  intro text rest
  simp [literal_eq_some_iff]

/-- A literal in any case is read where its letters stand in some case. -/
theorem spells_literalAnyCase (letters : List Char) :
    Spells sameLetter letters (literalAnyCase letters) := by
  intro text rest
  induction letters generalizing text with
  | nil => simp [literalAnyCase]
  | cons letter letters ih =>
    constructor
    · intro h
      cases text with
      | nil => cases h
      | cons c text =>
        unfold literalAnyCase at h
        split at h
        · next hc =>
          obtain ⟨spelling, hspelling, rfl⟩ := (ih _).1 h
          exact ⟨c :: spelling, .cons hc hspelling, rfl⟩
        · cases h
    · rintro ⟨spelling, hspelling, rfl⟩
      cases hspelling with
      | cons hc hspelling =>
        rw [List.cons_append, literalAnyCase, if_pos hc]
        exact (ih _).2 ⟨_, hspelling, rfl⟩

/-- At each place of the stretch a letter of the keyword clashes with the text. -/
def Clashes (same : Char → Char → Bool) (letters stretch : List Char) : Prop :=
  ∀ tail ∈ stretch.tails, tail ≠ [] → ∃ pair ∈ letters.zip tail, same pair.1 pair.2 = false

/-- Whether letters clash with a stretch can be decided. -/
instance {same : Char → Char → Bool} {letters stretch : List Char} :
    Decidable (Clashes same letters stretch) :=
  inferInstanceAs (Decidable (∀ tail ∈ stretch.tails, tail ≠ [] → _))

/-! ## Entries -/

/-- A sign is read after blanks. -/
theorem exists_of_sign {expected : Char} {text rest : List Char}
    (h : sign expected text = some rest) :
    ∃ blanks, (∀ c ∈ blanks, isBlank c = true) ∧ text = blanks ++ expected :: rest := by
  unfold sign at h
  split at h
  · cases h
  · next c cs hskip =>
    split at h
    · next hc =>
      cases h
      obtain ⟨htext, hblanks, -⟩ := takeWhile_dropWhile_eq_iff.1 ⟨rfl, hskip⟩
      exact ⟨_, hblanks, hc ▸ htext⟩
    · cases h

/-- A text in quotes is read up to the closing quote. -/
theorem quotedText_append {content rest : List Char} (hne : content ≠ []) (h : '"' ∉ content) :
    quotedText ('"' :: (content ++ '"' :: rest)) = some (content, rest) := by
  have hcut : cutAt '"' (content ++ '"' :: rest) = some (content, rest) :=
    cutAt_eq_some_iff.2 ⟨rfl, h⟩
  cases content with
  | nil => exact absurd rfl hne
  | cons c content => simp only [quotedText, hcut, decide_true, Bool.true_or, if_true]

section
variable {same : Char → Char → Bool} {letters : List Char}
  {keyword : List Char → Option (List Char)}

/-- What an entry consists of. -/
theorem Spells.exists_of_entry {text : List Char} (hkeyword : Spells same letters keyword)
    (h : entry keyword text ≠ none) :
    ∃ spelling blanks after,
      List.Forall₂ (fun letter c => same letter c = true) letters spelling ∧
      (∀ c ∈ blanks, isBlank c = true) ∧ text = spelling ++ (blanks ++ ':' :: after) ∧
      quotedText (skipBlanks after) ≠ none := by
  unfold entry at h
  cases hread : keyword text with
  | none => simp [hread] at h
  | some rest =>
    cases hsign : sign ':' rest with
    | none => simp [hread, hsign] at h
    | some after =>
      obtain ⟨spelling, hspelling, rfl⟩ := (hkeyword _ _).1 hread
      obtain ⟨blanks, hblanks, rfl⟩ := exists_of_sign hsign
      exact ⟨spelling, blanks, after, hspelling, hblanks, rfl, by simpa [hread, hsign] using h⟩

/-- The search for an entry ends where its keyword stands with a colon and quoted text. -/
theorem Spells.firstFrom_entry {previous : Option Char} {content rest : List Char}
    (hkeyword : Spells same letters keyword)
    (hsame : ∀ letter ∈ letters, same letter letter = true) (hne : content ≠ [])
    (hcontent : Plain content) (hprevious : atWordStart previous = true) :
    firstFrom atWordStart (entry keyword) previous
      (letters ++ ": \"".toList ++ (content ++ ("\"\n".toList ++ rest))) = some content := by
  have hread : keyword (letters ++ (": \"".toList ++ (content ++ ("\"\n".toList ++ rest)))) =
      some (": \"".toList ++ (content ++ ("\"\n".toList ++ rest))) :=
    (hkeyword _ _).2 ⟨letters, List.forall₂_same.2 hsame, rfl⟩
  have hsign : sign ':' (": \"".toList ++ (content ++ ("\"\n".toList ++ rest))) =
      some (' ' :: '"' :: (content ++ '"' :: '\n' :: rest)) := sign_cons (by decide)
  have hskip : skipBlanks (' ' :: '"' :: (content ++ '"' :: '\n' :: rest)) =
      '"' :: (content ++ '"' :: '\n' :: rest) := by
    simp [skipBlanks, isBlank, isAscii]
  have hquoted := @quotedText_append content ('\n' :: rest) hne fun hmem => (hcontent _ hmem).1 rfl
  refine @firstFrom_found _ _ _ _ _ ('\n' :: rest) _ hprevious (by simp) ?_
  simp only [List.append_assoc, entry, hread, hsign, hskip, hquoted, Option.bind_eq_bind,
    Option.bind_some]

/-- A spelling that stands at the front of a text agrees with the text as far as both go. -/
theorem forall_mem_zip_of_append {tail rest spelling after : List Char}
    (h : List.Forall₂ (fun letter c => same letter c = true) letters spelling)
    (htext : tail ++ rest = spelling ++ after) :
    ∀ pair ∈ letters.zip tail, same pair.1 pair.2 = true := by
  induction h generalizing tail with
  | nil => simp
  | cons hc _ ih =>
    cases tail with
    | nil => simp
    | cons d tail =>
      rw [List.cons_append, List.cons_append, List.cons.injEq] at htext
      rw [List.zip_cons_cons, List.forall_mem_cons, htext.1]
      exact ⟨hc, ih htext.2⟩

/-- Each character of a spelling stands for a letter. -/
theorem exists_mem_of_mem_spelling {spelling : List Char} {c : Char}
    (h : List.Forall₂ (fun letter c => same letter c = true) letters spelling)
    (hc : c ∈ spelling) : ∃ letter ∈ letters, same letter c = true := by
  induction h with
  | nil => cases hc
  | cons hd _ ih =>
    rcases List.mem_cons.1 hc with rfl | hc
    · exact ⟨_, List.mem_cons_self, hd⟩
    · obtain ⟨letter, hletter, hsame⟩ := ih hc
      exact ⟨letter, List.mem_cons_of_mem _ hletter, hsame⟩

/-- No entry begins where the keyword clashes with the text. -/
theorem Spells.silent_of_clashes {stretch rest : List Char} (hkeyword : Spells same letters keyword)
    (h : Clashes same letters stretch) : Silent (entry keyword) stretch rest := by
  intro tail ht hne
  by_contra hread
  obtain ⟨spelling, _, _, hspelling, -, htext, -⟩ := hkeyword.exists_of_entry hread
  obtain ⟨pair, hpair, hclash⟩ := h tail ((List.mem_tails _ _).2 ht) hne
  have := forall_mem_zip_of_append hspelling htext pair hpair
  simp [hclash] at this

/-- No entry begins in quoted text that has no quote or blank in it, unless its colon ends the text
and a quote is left to close what follows. -/
theorem Spells.silent_of_plain {content rest : List Char} (hkeyword : Spells same letters keyword)
    (hquote : (letters.any fun letter => same letter '"') = false) (hplain : Plain content)
    (hlast : content.getLast? = some ':' → '"' ∉ rest) :
    Silent (entry keyword) content ('"' :: rest) := by
  intro tail ht hne
  by_contra hread
  obtain ⟨spelling, blanks, after, hspelling, hblanks, htext, hquoted⟩ :=
    hkeyword.exists_of_entry hread
  -- The keyword and its colon have no quote, so they end before the closing one.
  have hnot : '"' ∉ spelling ++ blanks ++ [':'] := by
    simp only [List.mem_append, List.mem_singleton, not_or]
    refine ⟨⟨fun hmem => ?_, fun hmem => ?_⟩, by decide⟩
    · obtain ⟨letter, hletter, hsame⟩ := exists_mem_of_mem_spelling hspelling hmem
      exact List.any_eq_false.1 hquote letter hletter hsame
    · exact absurd (hblanks _ hmem) (by decide)
  have hinside : spelling ++ blanks ++ [':'] <+: tail := by
    have hstart : spelling ++ blanks ++ [':'] <+: tail ++ '"' :: rest := ⟨after, by simp [htext]⟩
    have hclose : tail ++ ['"'] <+: tail ++ '"' :: rest := ⟨rest, by simp⟩
    rcases List.prefix_or_prefix_of_prefix hstart hclose with hin | hout
    · rcases List.prefix_concat_iff.1 hin with heq | hin
      · rw [heq] at hnot
        simp at hnot
      · exact hin
    · exact absurd (hout.subset (by simp)) hnot
  obtain ⟨more, rfl⟩ := hinside
  have hafter : after = more ++ '"' :: rest := by
    simpa using htext.symm
  subst hafter
  cases more with
  | nil =>
    have hcolon : content.getLast? = some ':' := by
      obtain ⟨before, rfl⟩ := ht
      simp
    apply hquoted
    rw [List.nil_append, skipBlanks_eq_self (by simp; decide)]
    simp only [quotedText, cutAt_eq_none_iff.2 (hlast hcolon), ite_self]
  | cons d more =>
    obtain ⟨hd, hd', hblank⟩ := hplain d (ht.subset (by simp))
    apply hquoted
    rw [List.cons_append, skipBlanks_eq_self (by simpa using hblank)]
    simp [quotedText, hd, hd']

/-- The keyword stands neither in what a binding opens with nor in what ends its lines. -/
structure Foreign (same : Char → Char → Bool) (letters : List Char) : Prop where
  quote : (letters.any fun letter => same letter '"') = false
  opening : Clashes same letters "\noption (google.api.http) = \x7b\n".toList
  closing : Clashes same letters "\"\n".toList
  ending : Clashes same letters "\x7d;\n".toList

/-- The first line of a binding and the line of its path are passed over by a keyword other than
that of its verb. -/
theorem Spells.silent_path {binding : HttpBinding} (rest : List Char)
    (hkeyword : Spells same letters keyword) (hforeign : Foreign same letters)
    (h : binding.Printable) (hverb : Clashes same letters (binding.verb.keyword ++ ": \"").toList) :
    Silent (entry keyword) ("\noption (google.api.http) = \x7b\n".toList ++
      ((binding.verb.keyword ++ ": \"").toList ++
        (binding.pathTemplate.toList ++ "\"\n".toList))) rest := by
  refine (hkeyword.silent_of_clashes hforeign.opening).append
    ((hkeyword.silent_of_clashes hverb).append
      (.append ?_ (hkeyword.silent_of_clashes hforeign.closing)))
  exact hkeyword.silent_of_plain hforeign.quote h.path_plain fun hlast => absurd hlast h.path_last

/-- The line of a selector is passed over by a keyword other than its own. -/
theorem Spells.silent_selectorLines {selector : Option String}
    (hkeyword : Spells same letters keyword) (hforeign : Foreign same letters)
    (hplain : ∀ text ∈ selector, Plain text.toList)
    (hbody : selector.isSome = true → Clashes same letters "body: \"".toList) :
    Silent (entry keyword) (textOfLines (selectorLines selector) ++ "\x7d;\n".toList) [] := by
  refine .append ?_ (hkeyword.silent_of_clashes hforeign.ending)
  cases selector with
  | none => exact fun tail ht hne => absurd (List.suffix_nil.1 ht) hne
  | some text =>
    rw [textOfLines_selectorLines_some]
    refine (hkeyword.silent_of_clashes (hbody rfl)).append
      (.append ?_ (hkeyword.silent_of_clashes hforeign.closing))
    exact hkeyword.silent_of_plain hforeign.quote (hplain text rfl) fun _ => by decide

end

/-! ## Reading a printed binding -/

/-- The keyword of a verb is foreign to the other texts of a binding. -/
theorem foreign_keyword (verb : HttpVerb) : Foreign sameLetter verb.keyword.toList := by
  cases verb <;> constructor <;> decide

/-- The keyword of the selector is foreign to the other texts of a binding. -/
theorem foreign_body : Foreign (fun letter c => letter == c) "body".toList := by
  constructor <;> decide

/-- The keyword of a verb clashes with the entry of another one. -/
theorem clashes_keyword {verb verb' : HttpVerb} (h : verb ≠ verb') :
    Clashes sameLetter verb.keyword.toList (verb'.keyword ++ ": \"").toList := by
  cases verb <;> cases verb' <;> first | exact absurd rfl h | decide

/-- Printed options give the path for its own verb and for no other. -/
theorem pathOf_lines {binding : HttpBinding} (h : binding.Printable) (verb : HttpVerb) :
    pathOf ('\n' :: textOfLines binding.lines) verb =
      if verb = binding.verb then some binding.pathTemplate.toList else none := by
  have hkeyword := spells_literalAnyCase verb.keyword.toList
  have hforeign := foreign_keyword verb
  rw [pathOf, firstOccurrence, HttpBinding.cons_textOfLines_lines]
  by_cases hverb : verb = binding.verb
  · rw [firstFrom_silent (hkeyword.silent_of_clashes hforeign.opening), if_pos hverb, ← hverb,
      String.toList_append]
    exact hkeyword.firstFrom_entry (by simp [sameLetter]) (by simpa using h.path_ne_empty)
      h.path_plain (by decide)
  · have hbody : Clashes sameLetter verb.keyword.toList "body: \"".toList := by
      cases verb <;> decide
    have hsilent := (hkeyword.silent_path _ hforeign h (clashes_keyword hverb)).append
      (hkeyword.silent_selectorLines hforeign h.selector_plain fun _ => hbody)
    rw [if_neg hverb]
    simpa [firstFrom] using firstFrom_silent hsilent

/-- Printed options give the body selector. -/
theorem selectorOf_lines {binding : HttpBinding} (h : binding.Printable) :
    selectorOf ('\n' :: textOfLines binding.lines) = binding.bodySelector.map String.toList := by
  have hkeyword := spells_literal "body"
  have hverb : Clashes (fun letter c => letter == c) "body".toList
      (binding.verb.keyword ++ ": \"").toList := by
    cases binding.verb <;> decide
  have hpath := fun rest => hkeyword.silent_path rest foreign_body h hverb
  have hskip := fun rest => @firstFrom_silent _ atWordStart _ none _ _ (hpath rest)
  simp only [List.append_assoc] at hskip
  rw [selectorOf, firstOccurrence, HttpBinding.cons_textOfLines_lines, hskip]
  cases hs : binding.bodySelector with
  | none =>
    have hlines : Silent (entry (literal "body"))
        (textOfLines (selectorLines none) ++ "\x7d;\n".toList) [] :=
      hkeyword.silent_selectorLines foreign_body (fun _ h => nomatch h) (fun h => nomatch h)
    simpa [firstFrom] using firstFrom_silent hlines
  | some selector =>
    have hkey : "body: \"".toList = "body".toList ++ ": \"".toList := by decide
    have hne : selector.toList ≠ [] := by
      simpa using h.selector_ne_empty selector hs
    rw [textOfLines_selectorLines_some, List.append_assoc, List.append_assoc, hkey]
    refine hkeyword.firstFrom_entry (fun _ _ => beq_self_eq_true _) hne
      (h.selector_plain selector hs) ?_
    simp only [String.reduceToList, List.getLast?_append, List.getLast?_cons_cons,
      List.getLast?_singleton, Option.some_or]
    decide

/-- The lines of a binding are known as its annotation. -/
theorem isAnnotated_lines (binding : HttpBinding) :
    isAnnotated ('\n' :: textOfLines binding.lines) = true := by
  have hin : httpAnnotation.toList <:+: '\n' :: textOfLines binding.lines := by
    rw [HttpBinding.cons_textOfLines_lines]
    refine List.IsInfix.trans ?_ (List.prefix_append _ _).isInfix
    decide
  rw [isAnnotated, Option.isSome_iff_ne_none, ne_eq, splitAtFirst_eq_none_iff (by decide)]
  exact not_not_intro hin

/-- The binding that printed options give is the one they were printed from. -/
theorem findBinding_lines {binding : HttpBinding} (h : binding.Printable) :
    findBinding ('\n' :: textOfLines binding.lines) = some binding := by
  have hverb : (HttpVerb.all.findSome? fun verb =>
      (pathOf ('\n' :: textOfLines binding.lines) verb).map (verb, ·)) =
        some (binding.verb, binding.pathTemplate.toList) := by
    simp only [pathOf_lines h]
    cases binding.verb <;> rfl
  have hselector : (binding.bodySelector.map String.toList).map String.ofList =
      binding.bodySelector := by
    simp [Option.map_map, Function.comp_def]
  have hguard : (guard (isAnnotated ('\n' :: textOfLines binding.lines) = true) : Option Unit) =
      some () := if_pos (isAnnotated_lines binding)
  rw [findBinding, hguard, hverb, selectorOf_lines h]
  simp only [Option.bind_eq_bind, Option.bind_some, String.ofList_toList, hselector, pure]

end Transcoding.Declaration
