import Transcoding.Declaration.Search
import Transcoding.Proofs.Text.Cut
import Mathlib.Data.List.Chain

/-!
# What a search finds and what it passes over

A search runs a recogniser at every place of a text. Two facts about it carry the others: where the
recogniser reads a shape, the search returns it and goes on after it (`occurrencesFrom_found`,
`firstFrom_found`), and a stretch at whose places the recogniser reads nothing is passed over
(`occurrencesFrom_silent`, `firstFrom_silent`). A text that is cut into such pieces is then read
piece by piece (`filterMap_occurrencesFrom`).

A declaration opens with a keyword and a blank (`Opens`). So a stretch that ends in a blank is
silent if the last letter of the keyword never stands before a blank in it (`Opens.silent`). That is
a property of neighbours, which concatenation keeps (`NoBlankAfter.append`).
-/

namespace Transcoding.Declaration

open Transcoding.Text

/-! ## Reading the pieces of a shape -/

/-- A literal is read from a text that begins with it. -/
theorem literal_eq_some_iff {expected : String} {text rest : List Char} :
    literal expected text = some rest ↔ text = expected.toList ++ rest := by
  rw [literal, List.isPrefixOf?_eq_some_iff_append_eq, eq_comm]

/-- There are no blanks to skip before another character. -/
theorem skipBlanks_eq_self {text : List Char} (h : ∀ c ∈ text.head?, isBlank c = false) :
    skipBlanks text = text :=
  ((@takeWhile_dropWhile_eq_iff isBlank text [] text).2 ⟨rfl, nofun, h⟩).2

/-- A single blank is read. -/
theorem someBlanks_cons {c : Char} {text : List Char} (hc : isBlank c = true)
    (h : ∀ d ∈ text.head?, isBlank d = false) : someBlanks (c :: text) = some text := by
  rw [someBlanks, if_pos hc, skipBlanks_eq_self h]

/-- A sign is read where it stands. -/
theorem sign_cons {expected : Char} {text : List Char} (h : isBlank expected = false) :
    sign expected (expected :: text) = some text := by
  rw [sign, skipBlanks_eq_self (by simpa using h)]
  simp

/-- A sign is read after a blank. -/
theorem sign_blank_cons {c expected : Char} {text : List Char} (hc : isBlank c = true)
    (h : isBlank expected = false) : sign expected (c :: expected :: text) = some text := by
  have hskip : skipBlanks (c :: expected :: text) = skipBlanks (expected :: text) := by
    simp [skipBlanks, hc]
  rw [sign, hskip, skipBlanks_eq_self (by simpa using h)]
  simp

/-- A run is read up to the first character that is not of its class. -/
theorem run_append {isMember : Char → Bool} {found rest : List Char} (hne : found ≠ [])
    (hfound : ∀ c ∈ found, isMember c = true) (hrest : ∀ c ∈ rest.head?, isMember c = false) :
    run isMember (found ++ rest) = some (found, rest) := by
  cases found with
  | nil => exact absurd rfl hne
  | cons c cs =>
    rw [List.forall_mem_cons] at hfound
    obtain ⟨htake, hdrop⟩ := takeWhile_dropWhile_eq_iff.2 ⟨rfl, hfound.2, hrest⟩
    rw [List.cons_append, run, if_pos hfound.1, htake, hdrop]

/-! ## Runs of a search -/

section
variable {α : Type} {allowed : Option Char → Bool} {recognise : Recogniser α}

/-- The recogniser reads nothing at the places of a stretch that `rest` comes after. -/
def Silent (recognise : Recogniser α) (stretch rest : List Char) : Prop :=
  ∀ tail, tail <:+ stretch → tail ≠ [] → recognise (tail ++ rest) = none

/-- What is silent from a place on is silent from the next one on. -/
theorem Silent.of_cons {c : Char} {stretch rest : List Char}
    (h : Silent recognise (c :: stretch) rest) : Silent recognise stretch rest :=
  fun tail ht => h tail (ht.trans (List.suffix_cons c stretch))

/-- Stretches that are silent one after another are silent together. -/
theorem Silent.append {stretch stretch' rest : List Char}
    (h : Silent recognise stretch (stretch' ++ rest)) (h' : Silent recognise stretch' rest) :
    Silent recognise (stretch ++ stretch') rest := by
  intro tail ht hne
  rcases List.suffix_or_suffix_of_suffix ht (List.suffix_append stretch stretch') with ht' | ht'
  · exact h' tail ht' hne
  · -- the place lies in the first stretch, or at the border of the two
    obtain ⟨front, rfl⟩ := ht'
    obtain ⟨before, hbefore⟩ := ht
    rw [← List.append_assoc] at hbefore
    by_cases hfront : front = []
    · subst hfront
      exact h' _ (List.suffix_refl _) hne
    · rw [List.append_assoc]
      exact h front ⟨before, List.append_cancel_right hbefore⟩ hfront

/-- The character before the rest of a text is the last one of a stretch, or the one before it. -/
theorem getLast?_or_cons {c : Char} {text : List Char} {previous : Option Char} :
    (c :: text).getLast?.or previous = text.getLast?.or (some c) := by
  rw [List.getLast?_cons]
  cases text.getLast? <;> rfl

/-- A silent stretch is passed over. -/
theorem occurrencesFrom_silent {previous : Option Char} {stretch rest : List Char}
    (h : Silent recognise stretch rest) :
    occurrencesFrom allowed recognise previous 0 (stretch ++ rest) =
      occurrencesFrom allowed recognise (stretch.getLast?.or previous) 0 rest := by
  induction stretch generalizing previous with
  | nil => rfl
  | cons c stretch ih =>
    have hnone := h _ (List.suffix_refl _) (List.cons_ne_nil _ _)
    rw [List.cons_append] at hnone
    simp [occurrencesFrom, hnone, ih h.of_cons, getLast?_or_cons]

/-- A place where no find may begin, or nothing is read, is passed over. -/
theorem firstFrom_cons {previous : Option Char} {c : Char} {text : List Char}
    (h : allowed previous = true → recognise (c :: text) = none) :
    firstFrom allowed recognise previous (c :: text) =
      firstFrom allowed recognise (some c) text := by
  have hnone : (if allowed previous = true then recognise (c :: text) else none) = none := by
    split
    · next hallowed => exact h hallowed
    · rfl
  rw [firstFrom, hnone]

/-- A silent stretch is passed over. -/
theorem firstFrom_silent {previous : Option Char} {stretch rest : List Char}
    (h : Silent recognise stretch rest) :
    firstFrom allowed recognise previous (stretch ++ rest) =
      firstFrom allowed recognise (stretch.getLast?.or previous) rest := by
  induction stretch generalizing previous with
  | nil => rfl
  | cons c stretch ih =>
    have hnone := h _ (List.suffix_refl _) (List.cons_ne_nil _ _)
    rw [List.cons_append] at hnone
    rw [List.cons_append, firstFrom_cons fun _ => hnone, ih h.of_cons, getLast?_or_cons]

/-- The characters of a find are passed over. -/
theorem occurrencesFrom_length {previous : Option Char} {used rest : List Char} :
    occurrencesFrom allowed recognise previous used.length (used ++ rest) =
      occurrencesFrom allowed recognise (used.getLast?.or previous) 0 rest := by
  induction used generalizing previous with
  | nil => rfl
  | cons c used ih => simp [occurrencesFrom, ih, getLast?_or_cons]

/-- Where the recogniser reads a shape, the search returns it and goes on after it. -/
theorem occurrencesFrom_found {previous : Option Char} {used rest : List Char} {found : α}
    (hallowed : allowed previous = true) (hne : used ≠ [])
    (h : recognise (used ++ rest) = some (found, rest)) :
    occurrencesFrom allowed recognise previous 0 (used ++ rest) =
      found :: occurrencesFrom allowed recognise (used.getLast?.or previous) 0 rest := by
  cases used with
  | nil => exact absurd rfl hne
  | cons c used =>
    rw [List.cons_append] at h
    have hlength : (used ++ rest).length - rest.length = used.length := by simp
    simp only [List.cons_append, occurrencesFrom, hallowed, if_true, h, hlength,
      occurrencesFrom_length, getLast?_or_cons]

/-- Where the recogniser reads a shape, the search for the first one ends. -/
theorem firstFrom_found {previous : Option Char} {text rest : List Char} {found : α}
    (hallowed : allowed previous = true) (hne : text ≠ [])
    (h : recognise text = some (found, rest)) :
    firstFrom allowed recognise previous text = some found := by
  cases text with
  | nil => exact absurd rfl hne
  | cons c text => simp [firstFrom, hallowed, h]

/-- A text that falls into pieces, each with a shape at its front and silence after it, has the
finds of its pieces. -/
theorem filterMap_occurrencesFrom {β γ : Type} {previous : Option Char} {items : List β}
    {head tail : β → List Char} {keep : α → Option γ} {result : β → γ}
    (hprevious : allowed previous = true)
    (hfound : ∀ item ∈ items, head item ≠ [] ∧ ∀ rest, ∃ found,
      recognise (head item ++ (tail item ++ rest)) = some (found, tail item ++ rest) ∧
        keep found = some (result item))
    (hsilent : ∀ item ∈ items, ∀ rest, Silent recognise (tail item) rest)
    (hlast : ∀ item ∈ items, ∃ c, (tail item).getLast? = some c ∧ allowed (some c) = true) :
    (occurrencesFrom allowed recognise previous 0
      (items.flatMap fun item => head item ++ tail item)).filterMap keep = items.map result := by
  induction items generalizing previous with
  | nil => rfl
  | cons item items ih =>
    rw [List.forall_mem_cons] at hfound hsilent hlast
    obtain ⟨⟨hne, hitem⟩, hfound⟩ := hfound
    obtain ⟨c, hc, hallowed⟩ := hlast.1
    obtain ⟨found, hread, hkeep⟩ := hitem (items.flatMap fun item => head item ++ tail item)
    rw [List.flatMap_cons, List.append_assoc, occurrencesFrom_found hprevious hne hread,
      occurrencesFrom_silent (hsilent.1 _), hc, List.filterMap_cons_some hkeep, List.map_cons,
      Option.some_or, ih hallowed hfound hsilent.2 hlast.2]

end

/-! ## Keywords -/

section
variable {α : Type} {recognise : Recogniser α} {keyword : String} {letter : Char}

/-- The recogniser reads only what begins with the keyword and a blank. -/
def Opens (keyword : String) (recognise : Recogniser α) : Prop :=
  ∀ {text : List Char}, recognise text ≠ none →
    ∃ c rest, isBlank c = true ∧ text = keyword.toList ++ c :: rest

/-- A recogniser that begins with a keyword and blanks reads nothing else. -/
theorem opens_bind {next : Recogniser α} :
    Opens keyword fun text =>
      (literal keyword text).bind fun rest => (someBlanks rest).bind next := by
  intro text h
  cases hlit : literal keyword text with
  | none => simp [hlit] at h
  | some after =>
    cases after with
    | nil => simp [hlit, someBlanks] at h
    | cons c rest =>
      refine ⟨c, rest, ?_, literal_eq_some_iff.1 hlit⟩
      by_contra hc
      simp [hlit, someBlanks, hc] at h

/-- A stretch without the first letter of the keyword is silent. -/
theorem Opens.silent_of_not_mem {stretch rest : List Char} (hopens : Opens keyword recognise)
    (hletter : keyword.toList.head? = some letter) (h : letter ∉ stretch) :
    Silent recognise stretch rest := by
  intro tail ht hne
  by_contra hread
  obtain ⟨b, after, -, heq⟩ := hopens hread
  have hhead : (tail ++ rest).head? = some letter := by
    rw [heq, List.head?_append, hletter, Option.some_or]
  rw [List.head?_append_of_ne_nil _ hne] at hhead
  exact h (ht.subset (List.mem_of_mem_head? hhead))

/-- No blank stands right after the letter, in the text or at its front. -/
def NoBlankAfter (letter : Char) (text : List Char) : Prop :=
  (letter :: text).IsChain fun c d => c = letter → isBlank d = false

/-- Whether a blank comes after the letter can be decided. -/
instance {text : List Char} : Decidable (NoBlankAfter letter text) :=
  inferInstanceAs (Decidable (List.IsChain _ _))

/-- No blank comes after the letter in a text without blanks. -/
theorem NoBlankAfter.of_forall {text : List Char} (h : ∀ c ∈ text, isBlank c = false) :
    NoBlankAfter letter text :=
  (List.isChain_isInfix _).imp_of_mem_tail_imp fun _ d _ hd _ _ => h d hd

/-- No blank comes after the letter in two texts if none does in either of them. -/
theorem NoBlankAfter.append {text text' : List Char} (h : NoBlankAfter letter text)
    (h' : NoBlankAfter letter text') : NoBlankAfter letter (text ++ text') := by
  obtain ⟨hhead, htail⟩ := List.isChain_cons.1 h'
  exact List.IsChain.append h htail fun _ _ d hd _ => hhead d hd rfl

/-- No blank comes after the letter in the texts of items if none does in any of them. -/
theorem NoBlankAfter.flatMap {β : Type} {items : List β} {print : β → List Char}
    (h : ∀ item ∈ items, NoBlankAfter letter (print item)) :
    NoBlankAfter letter (items.flatMap print) := by
  induction items with
  | nil => exact .of_forall nofun
  | cons item items ih =>
    rw [List.forall_mem_cons] at h
    exact h.1.append (ih h.2)

/-- A stretch that ends in a blank is silent if the last letter of the keyword has no blank after it
there: the keyword would end inside the stretch, with its blank. -/
theorem Opens.silent {c : Char} {text rest : List Char} (hopens : Opens keyword recognise)
    (hletter : keyword.toList.getLast? = some letter)
    (hkeyword : keyword.toList.any isBlank = false) (hc : c ≠ letter)
    (h : NoBlankAfter letter text) (hlast : ∃ d, (c :: text).getLast? = some d ∧ isBlank d = true) :
    Silent recognise (c :: text) rest := by
  intro tail ht hne
  by_contra hread
  obtain ⟨b, after, hb, heq⟩ := hopens hread
  have hinside : keyword.toList ++ [b] <+: tail := by
    have hstart : keyword.toList ++ [b] <+: tail ++ rest := ⟨after, by simp [heq]⟩
    rcases List.prefix_or_prefix_of_prefix hstart (List.prefix_append tail rest) with hin | hout
    · exact hin
    · rcases List.prefix_concat_iff.1 hout with rfl | hout
      · exact List.prefix_refl _
      · -- a tail that ends inside the keyword would not end in a blank
        exfalso
        obtain ⟨d, hd, hblank⟩ := hlast
        obtain ⟨before, hbefore⟩ := ht
        rw [← hbefore, List.getLast?_append_of_ne_nil _ hne] at hd
        exact List.any_eq_false.1 hkeyword d (hout.subset (List.mem_of_getLast? hd)) hblank
  have hpair : [letter, b] <:+: c :: text := by
    obtain ⟨letters, hletters⟩ := List.getLast?_eq_some_iff.1 hletter
    rw [hletters, List.append_assoc] at hinside
    exact ((List.suffix_append letters _).isInfix.trans hinside.isInfix).trans ht.isInfix
  have hchain : (c :: text).IsChain fun c d => c = letter → isBlank d = false :=
    List.isChain_cons.2 ⟨fun _ _ h => absurd h hc, (List.isChain_cons.1 h).2⟩
  have hnext := List.IsChain.infix hchain hpair
  simp [hb] at hnext

end

end Transcoding.Declaration
