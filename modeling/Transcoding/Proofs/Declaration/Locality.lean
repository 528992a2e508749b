import Transcoding.Declaration.Document
import Transcoding.Proofs.Declaration.Balance
import Transcoding.Proofs.Declaration.Binding

/-!
# Declarations are found one text at a time

A text that closes its braces and ends in a closing brace or a semicolon keeps its declarations to
itself: what is found in it does not depend on the text that comes after it, and what is found after
it does not depend on it (`declarations_append`). There are three reasons. No head of a declaration
reads past such a character, which is a fence to the search (`Fenced`). No find begins at the fence,
and after it a word may start as at the front of a text. And the brace that a head opens is closed
before the fence, so that the region after it ends there (`Balanced.region_append`).
-/

namespace Transcoding.Declaration

open Transcoding.Text

/-! ## Reading up to a fence

Each piece of a shape reads the same thing, whatever stands after a character that it cannot
read. -/

section
variable {fence : Char} {text rest : List Char}

/-- A run of a class that the fence is not in ends before the fence. -/
theorem takeWhile_dropWhile_fence {isMember : Char → Bool} (h : isMember fence = false) :
    (text ++ fence :: rest).takeWhile isMember = text.takeWhile isMember ∧
      (text ++ fence :: rest).dropWhile isMember = text.dropWhile isMember ++ fence :: rest := by
  obtain ⟨htext, hrun, hhead⟩ := (@takeWhile_dropWhile_eq_iff isMember text _ _).1 ⟨rfl, rfl⟩
  refine takeWhile_dropWhile_eq_iff.2 ⟨?_, hrun, fun c hc => ?_⟩
  · rw [← List.append_assoc, ← htext]
  · cases hdrop : text.dropWhile isMember with
    | nil =>
      rw [hdrop] at hc
      exact Option.some.inj hc ▸ h
    | cons d after =>
      rw [hdrop] at hc hhead
      exact hhead c hc

/-- A literal without the fence is read before it or not at all. -/
theorem literal_fence {expected : String} (h : fence ∉ expected.toList) :
    literal expected (text ++ fence :: rest) =
      (literal expected text).map (· ++ fence :: rest) := by
  ext tail
  simp only [literal_eq_some_iff, Option.map_eq_some_iff]
  constructor
  · intro heq
    rcases List.append_eq_append_iff.1 heq with ⟨more, hmore, hrest⟩ | ⟨more, rfl, hrest⟩
    · cases more with
      | nil => exact ⟨[], by simpa using hmore.symm, by simpa using hrest⟩
      | cons c more =>
        obtain ⟨rfl, -⟩ := List.cons.inj hrest
        exact absurd (hmore ▸ by simp) h
    · exact ⟨more, rfl, hrest.symm⟩
  · rintro ⟨after, rfl, rfl⟩
    exact List.append_assoc ..

/-- Blanks are skipped up to the fence. -/
theorem skipBlanks_fence (h : isBlank fence = false) :
    skipBlanks (text ++ fence :: rest) = skipBlanks text ++ fence :: rest :=
  (takeWhile_dropWhile_fence h).2

/-- Blanks are read up to the fence. -/
theorem someBlanks_fence (h : isBlank fence = false) :
    someBlanks (text ++ fence :: rest) = (someBlanks text).map (· ++ fence :: rest) := by
  cases text with
  | nil => simp [someBlanks, h]
  | cons c text =>
    rw [List.cons_append, someBlanks, someBlanks, skipBlanks_fence h]
    split <;> rfl

/-- A sign other than the fence is read before it or not at all. -/
theorem sign_fence {expected : Char} (h : isBlank fence = false) (hne : fence ≠ expected) :
    sign expected (text ++ fence :: rest) = (sign expected text).map (· ++ fence :: rest) := by
  rw [sign, sign, skipBlanks_fence h]
  cases skipBlanks text with
  | nil => simp [hne]
  | cons c after =>
    dsimp only [List.cons_append]
    split <;> rfl

/-- A run of a class that the fence is not in is read before it or not at all. -/
theorem run_fence {isMember : Char → Bool} (h : isMember fence = false) :
    run isMember (text ++ fence :: rest) =
      (run isMember text).map fun found => (found.1, found.2 ++ fence :: rest) := by
  cases text with
  | nil => simp [run, h]
  | cons c text =>
    obtain ⟨htake, hdrop⟩ := @takeWhile_dropWhile_fence fence text rest isMember h
    rw [List.cons_append, run, run, htake, hdrop]
    split <;> rfl

end

/-! ## Searching up to a fence -/

section
variable {α γ : Type} {allowed : Option Char → Bool} {recognise : Recogniser α}
  {extend : α → List Char → α} {fence : Char} {text rest : List Char}

/-- What the recogniser reads before a fence does not depend on the text behind it, except for the
text that follows the find, which is part of what is found. -/
def Fenced (fence : Char) (recognise : Recogniser α) (extend : α → List Char → α) : Prop :=
  ∀ text rest, recognise (text ++ fence :: rest) = (recognise text).map fun found =>
    (extend found.1 (found.2 ++ fence :: rest), found.2 ++ fence :: rest)

/-- The search goes on behind a fence as if nothing had been before it. -/
theorem filterMap_occurrencesFrom_fence {keep : α → Option γ} {previous : Option Char} {skip : Nat}
    (hfence : Fenced fence recognise extend) (hempty : recognise [] = none)
    (hskip : skip ≤ text.length)
    (hkeep : ∀ tail found after, tail <:+ text → recognise tail = some (found, after) →
      keep (extend found (after ++ fence :: rest)) = keep (extend found (after ++ [fence]))) :
    (occurrencesFrom allowed recognise previous skip (text ++ fence :: rest)).filterMap keep =
      (occurrencesFrom allowed recognise previous skip (text ++ [fence])).filterMap keep ++
        (occurrencesFrom allowed recognise (some fence) 0 rest).filterMap keep := by
  induction text generalizing previous skip with
  | nil =>
    obtain rfl : skip = 0 := Nat.le_zero.1 hskip
    have hnone : ∀ rest, recognise (fence :: rest) = none := fun rest => by
      simpa [hempty] using hfence [] rest
    simp [occurrencesFrom, hnone]
  | cons c text ih =>
    have htail : ∀ tail found after, tail <:+ text → recognise tail = some (found, after) →
        keep (extend found (after ++ fence :: rest)) = keep (extend found (after ++ [fence])) :=
      fun tail found after ht => hkeep tail found after (ht.trans (List.suffix_cons c text))
    cases skip with
    | succ skip => exact ih (Nat.le_of_succ_le_succ hskip) htail
    | zero =>
      have hplace := hfence (c :: text)
      have hrest := @ih (some c) 0 (Nat.zero_le text.length) htail
      simp only [List.cons_append] at hplace ⊢
      by_cases hallowed : allowed previous = true
      · cases hread : recognise (c :: text) with
        | none => simpa [occurrencesFrom, hallowed, hplace, hread] using hrest
        | some result =>
          obtain ⟨found, after⟩ := result
          have hsame := hkeep _ found after (List.suffix_refl _) hread
          have hlength : ∀ rest : List Char,
              (text ++ fence :: rest).length - (after ++ fence :: rest).length =
                text.length - after.length := fun rest => by
            simp only [List.length_append, List.length_cons]
            omega
          have hnext := @ih (some c) _ (Nat.sub_le text.length after.length) htail
          simp only [occurrencesFrom, hallowed, if_true, hplace, hread, Option.map_some, hlength]
          simp only [List.filterMap_cons, hsame, hnext]
          split <;> rfl
      · simpa [occurrencesFrom, hallowed] using hrest

/-- A search depends on the character before the text only as far as it is allowed there to
begin. -/
theorem occurrencesFrom_congr {previous previous' : Option Char}
    (h : allowed previous = allowed previous') (text : List Char) :
    occurrencesFrom allowed recognise previous 0 text =
      occurrencesFrom allowed recognise previous' 0 text := by
  cases text with
  | nil => rfl
  | cons c text => rw [occurrencesFrom, occurrencesFrom, h]

end

/-! ## Regions that end before a fence -/

/-- A text that closes more braces than are open holds the end of the region. -/
theorem regionFrom_append_of_lt {text rest : List Char} {depth : Nat}
    (h : text.count '\x7b' + depth < text.count '\x7d') :
    regionFrom depth (text ++ rest) = regionFrom depth text := by
  induction text generalizing depth with
  | nil => simp at h
  | cons c text ih =>
    by_cases ho : c = '\x7b'
    · subst ho
      have hdeeper : text.count '\x7b' + (depth + 1) < text.count '\x7d' := by
        simp at h
        omega
      simp [regionFrom, ih hdeeper]
    · by_cases hc : c = '\x7d'
      · subst hc
        cases depth with
        | zero => rfl
        | succ outer =>
          have houter : text.count '\x7b' + outer < text.count '\x7d' := by
            simp at h
            omega
          simp [regionFrom, ih houter]
      · have hsame : text.count '\x7b' + depth < text.count '\x7d' := by
          simpa [ho, hc] using h
        simp [regionFrom, ho, hc, ih hsame]

/-- In balanced text, the region that a brace opens ends before the text does. -/
theorem Balanced.region_append {before after rest : List Char}
    (h : Balanced (before ++ '\x7b' :: after)) :
    balancedRegion (after ++ rest) = balancedRegion after := by
  have hbefore := h.start (List.prefix_append before _)
  have htotal := h.total
  simp [List.count_append] at htotal
  exact regionFrom_append_of_lt (by omega)

/-- If every find opens a brace, and what is kept of it depends on the region of that brace alone, a
balanced text in front of another one adds its own finds and changes nothing else. -/
theorem filterMap_occurrences_append {α γ : Type} {allowed : Option Char → Bool}
    {recognise : Recogniser α} {extend : α → List Char → α} {keep : α → Option γ} {fence : Char}
    {text : List Char} (hfence : Fenced fence recognise extend) (hempty : recognise [] = none)
    (hopens : ∀ {text found after}, recognise text = some (found, after) →
      '\x7b' :: after <:+ text)
    (hkeep : ∀ {found after after'}, balancedRegion after = balancedRegion after' →
      keep (extend found after) = keep (extend found after'))
    (hallowed : allowed (some fence) = allowed none) (hbalanced : Balanced (text ++ [fence]))
    (rest : List Char) :
    (occurrences allowed recognise (text ++ fence :: rest)).filterMap keep =
      (occurrences allowed recognise (text ++ [fence])).filterMap keep ++
        (occurrences allowed recognise rest).filterMap keep := by
  simp only [occurrences]
  rw [filterMap_occurrencesFrom_fence hfence hempty (Nat.zero_le _), occurrencesFrom_congr hallowed]
  intro tail found after htail hread
  obtain ⟨before, rfl⟩ := (hopens hread).trans htail
  rw [List.append_assoc, List.cons_append] at hbalanced
  refine hkeep ?_
  rw [← hbalanced.region_append, List.append_assoc, List.singleton_append]

/-! ## Heads of declarations -/

/-- A character that ends a declaration: a closing brace or a semicolon. -/
def IsFence (c : Char) : Prop := c = '\x7d' ∨ c = ';'

namespace IsFence

variable {fence : Char} (h : IsFence fence)
include h

/-- A fence is not blank. -/
theorem isBlank : isBlank fence = false := by
  rcases h with rfl | rfl <;> decide

/-- A fence is not a word character. -/
theorem isWord : isWord fence = false := by
  rcases h with rfl | rfl <;> decide

/-- A text without braces and semicolons has no fence. -/
theorem not_mem {text : List Char} (hbrace : '\x7d' ∉ text) (hsemicolon : ';' ∉ text) :
    fence ∉ text := by
  rcases h with rfl | rfl
  · exact hbrace
  · exact hsemicolon

/-- The head of a method is read on one side of a fence. -/
theorem fenced_methodHead : Fenced fence methodHead fun head after => { head with after } := by
  intro text rest
  have hne : ∀ sign ∈ ['(', ')', '\x7b', '.'], fence ≠ sign := fun sign hs heq =>
    h.not_mem (by decide) (by decide) (heq ▸ hs)
  have hrpc : fence ∉ "rpc".toList := h.not_mem (by decide) (by decide)
  have hreturns : fence ∉ "returns".toList := h.not_mem (by decide) (by decide)
  have hopen := hne '(' (by simp)
  have hclose := hne ')' (by simp)
  have hbrace := hne '\x7b' (by simp)
  have hdotted : ∀ text rest, dottedWord (text ++ fence :: rest) =
      (dottedWord text).map fun found => (found.1, found.2 ++ fence :: rest) := fun _ _ =>
    run_fence (by simp [h.isWord, hne '.'])
  simp only [methodHead, word, hdotted, literal_fence hrpc, literal_fence hreturns,
    someBlanks_fence h.isBlank, skipBlanks_fence h.isBlank, sign_fence h.isBlank hopen,
    sign_fence h.isBlank hclose, sign_fence h.isBlank hbrace, run_fence h.isWord,
    Option.bind_eq_bind, Option.bind_map, Option.map_bind, Function.comp_def, pure,
    Option.map_some]

/-- The head of a service is read on one side of a fence; its body may go beyond. -/
theorem fenced_serviceHead :
    Fenced fence serviceHead fun block after => { block with body := balancedRegion after } := by
  intro text rest
  have hservice : fence ∉ "service".toList := h.not_mem (by decide) (by decide)
  have hbrace : fence ∉ ['\x7b'] := h.not_mem (by decide) (by decide)
  simp only [serviceHead, word, literal_fence hservice, someBlanks_fence h.isBlank,
    sign_fence h.isBlank (List.ne_of_not_mem_cons hbrace), run_fence h.isWord,
    Option.bind_eq_bind, Option.bind_map, Option.map_bind, Function.comp_def, pure, Option.map_some]

/-- A word may begin after a fence, as it may at the start of a text. -/
theorem atWordStart : atWordStart (some fence) = atWordStart none := by
  simp [Declaration.atWordStart, h.isWord]

end IsFence

section
variable {text rest : List Char}

/-- What comes after a literal is the end of the text. -/
theorem suffix_of_literal {expected : String} (h : literal expected text = some rest) :
    rest <:+ text :=
  ⟨_, (literal_eq_some_iff.1 h).symm⟩

/-- What comes after blanks is the end of the text. -/
theorem suffix_of_someBlanks (h : someBlanks text = some rest) : rest <:+ text := by
  unfold someBlanks at h
  split at h
  · cases h
  · split at h
    · cases h
      exact (List.dropWhile_suffix _).trans (List.suffix_cons _ _)
    · cases h

/-- What comes after a run is the end of the text. -/
theorem suffix_of_run {isMember : Char → Bool} {found : List Char}
    (h : run isMember text = some (found, rest)) : rest <:+ text := by
  unfold run at h
  split at h
  · cases h
  · split at h
    · cases h
      exact (List.dropWhile_suffix _).trans (List.suffix_cons _ _)
    · cases h

/-- A sign and what comes after it are the end of the text. -/
theorem suffix_of_sign {expected : Char} (h : sign expected text = some rest) :
    expected :: rest <:+ text := by
  obtain ⟨blanks, -, rfl⟩ := exists_of_sign h
  exact List.suffix_append _ _

end

/-- The head of a service ends in a brace. -/
theorem suffix_of_serviceHead {text after : List Char} {block : ServiceBlock}
    (h : serviceHead text = some (block, after)) : '\x7b' :: after <:+ text := by
  simp only [serviceHead, Option.bind_eq_bind, Option.bind_eq_some_iff, pure, Option.some.injEq,
    Prod.mk.injEq] at h
  obtain ⟨rest, hkeyword, rest', hblanks, ⟨name, rest''⟩, hname, after, hbrace, -, rfl⟩ := h
  exact (suffix_of_sign hbrace).trans <| (suffix_of_run hname).trans <|
    (suffix_of_someBlanks hblanks).trans (suffix_of_literal hkeyword)

/-- The head of a method ends in a brace. -/
theorem suffix_of_methodHead {text after : List Char} {head : MethodHead}
    (h : methodHead text = some (head, after)) : '\x7b' :: after <:+ text := by
  simp only [methodHead, Option.bind_eq_bind, Option.bind_eq_some_iff, pure, Option.some.injEq,
    Prod.mk.injEq] at h
  obtain ⟨_, hkeyword, _, hblanks, ⟨_, _⟩, hname, _, hopen, ⟨_, _⟩, hinput, _, hclose, _, hreturns,
    _, hopen', ⟨_, _⟩, houtput, _, hclose', _, hbrace, -, rfl⟩ := h
  have hsign : ∀ {expected : Char} {text rest : List Char}, sign expected text = some rest →
      rest <:+ text := fun hs => (List.suffix_cons _ _).trans (suffix_of_sign hs)
  have hskip : ∀ {text rest : List Char}, rest <:+ skipBlanks text → rest <:+ text :=
    fun hs => hs.trans (List.dropWhile_suffix _)
  calc
    _ <:+ _ := suffix_of_sign hbrace
    _ <:+ _ := hsign hclose'
    _ <:+ _ := hskip (suffix_of_run houtput)
    _ <:+ _ := hsign hopen'
    _ <:+ _ := hskip (suffix_of_literal hreturns)
    _ <:+ _ := hsign hclose
    _ <:+ _ := hskip (suffix_of_run hinput)
    _ <:+ _ := hsign hopen
    _ <:+ _ := suffix_of_run hname
    _ <:+ _ := suffix_of_someBlanks hblanks
    _ <:+ _ := suffix_of_literal hkeyword

/-! ## Texts -/

/-- The methods before a fence and those after it are the methods of the whole, if the first part is
balanced. -/
theorem findMethods_append {text : List Char} {fence : Char} (hfence : IsFence fence)
    (hbalanced : Balanced (text ++ [fence])) (rest : List Char) :
    findMethods (text ++ fence :: rest) = findMethods (text ++ [fence]) ++ findMethods rest := by
  refine filterMap_occurrences_append hfence.fenced_methodHead rfl suffix_of_methodHead ?_
    hfence.atWordStart hbalanced rest
  intro head after after' hregion
  simp only [MethodHead.method?, hregion]

/-- The services before a fence and those after it are the services of the whole, if the first part
is balanced. -/
theorem findServices_append {text : List Char} {fence : Char} (hfence : IsFence fence)
    (hbalanced : Balanced (text ++ [fence])) (rest : List Char) :
    findServices (text ++ fence :: rest) = findServices (text ++ [fence]) ++ findServices rest := by
  have hkeep : ∀ {block : ServiceBlock} {after after' : List Char},
      balancedRegion after = balancedRegion after' →
        some { block with body := balancedRegion after } =
          some { block with body := balancedRegion after' } := fun hregion => by rw [hregion]
  have h := filterMap_occurrences_append hfence.fenced_serviceHead rfl suffix_of_serviceHead hkeep
    hfence.atWordStart hbalanced rest
  simpa only [List.filterMap_some, findServices] using h

/-- **Declarations stay apart.** A balanced text that ends in a closing brace or a semicolon can be
put in front of any text: the methods and the services of both are found, with all that belongs to
them and in the order of the texts, and no others. -/
theorem declarations_append {text : List Char} (hbalanced : Balanced text)
    (hlast : text.getLast? = some '\x7d' ∨ text.getLast? = some ';') (rest : List Char) :
    findMethods (text ++ rest) = findMethods text ++ findMethods rest ∧
      findServices (text ++ rest) = findServices text ++ findServices rest := by
  obtain ⟨fence, hfence, hlast⟩ : ∃ fence, IsFence fence ∧ text.getLast? = some fence := by
    rcases hlast with hlast | hlast
    · exact ⟨_, .inl rfl, hlast⟩
    · exact ⟨_, .inr rfl, hlast⟩
  obtain ⟨front, rfl⟩ := List.getLast?_eq_some_iff.1 hlast
  rw [List.append_assoc, List.singleton_append]
  exact ⟨findMethods_append hfence hbalanced rest, findServices_append hfence hbalanced rest⟩

/-- The body of a service that nothing closes. -/
def unclosedBody : List Char :=
  " rpc Get(I) returns (O) \x7b option (google.api.http) = \x7b get: \"/b\"".toList

/-- A method without options in front of a service that nothing closes does not take the binding
that stands there, and each service has its own body. -/
theorem declarations_append_unclosed :
    let text := "service A \x7b rpc Ping(I) returns (O) \x7b\x7d \x7d".toList
    let rest := "service B \x7b".toList ++ unclosedBody
    Balanced text ∧ text.getLast? = some '\x7d' ∧ ¬ Balanced rest ∧
      findMethods (text ++ rest) =
        [{ name := "Get", inputType := "I", outputType := "O"
           binding := { verb := .get, pathTemplate := "/b" } }] ∧
      findServices (text ++ rest) =
        [{ name := ['A'], body := " rpc Ping(I) returns (O) \x7b\x7d ".toList },
         { name := ['B'], body := unclosedBody }] := by
  intro text rest
  have hbalanced : Balanced text := by decide +kernel
  have hlast : text.getLast? = some '\x7d' := by decide +kernel
  obtain ⟨hmethods, hservices⟩ := declarations_append hbalanced (.inl hlast) rest
  refine ⟨hbalanced, hlast, by decide +kernel, hmethods.trans ?_, hservices.trans ?_⟩
  · decide +kernel
  · decide +kernel

end Transcoding.Declaration
