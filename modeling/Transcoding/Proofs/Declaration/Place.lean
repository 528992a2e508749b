import Transcoding.Proofs.Declaration.Shape

/-!
# Places of a text

`FoundAt` says that a find of a search can begin at a place. The search for one find returns that of
the least place (`firstOccurrence_eq_some_iff`). The search for all of them goes on after each find.
It misses none if the finds of the recogniser lie apart (`Apart`): then it enumerates the places
where one can begin (`Apart.enumerates_occurrences`). The places of a recogniser are those at which
its shape stands at a word boundary (`Shape.standsAt_iff_foundAt`).
-/

namespace Transcoding.Declaration

open Transcoding.Text

section
variable {α : Type} {allowed : Option Char → Bool} {recognise : Recogniser α}
  {text after after' : List Char} {place place' : Nat} {found found' : α}

/-- A find may begin after the first `place` characters of the text: the recogniser reads it there,
up to `after`. -/
def FoundAt (allowed : Option Char → Bool) (recognise : Recogniser α) (text : List Char)
    (place : Nat) (found : α) (after : List Char) : Prop :=
  ∃ before rest, text = before ++ rest ∧ before.length = place ∧
    allowed before.getLast? = true ∧ recognise rest = some (found, after)

/-- A find at the end of `before` is what the recogniser reads there. -/
theorem foundAt_length_iff {before rest : List Char} :
    FoundAt allowed recognise (before ++ rest) before.length found after ↔
      allowed before.getLast? = true ∧ recognise rest = some (found, after) := by
  constructor
  · rintro ⟨before', rest', htext, hlength, h⟩
    obtain ⟨rfl, rfl⟩ := List.append_inj htext hlength.symm
    exact h
  · rintro ⟨hallowed, hread⟩
    exact ⟨before, rest, rfl, rfl, hallowed, hread⟩

/-- There is one find at a place. -/
theorem FoundAt.unique (h : FoundAt allowed recognise text place found after)
    (h' : FoundAt allowed recognise text place found' after') :
    found' = found ∧ after' = after := by
  obtain ⟨before, rest, rfl, rfl, -, hread⟩ := h
  obtain ⟨-, hread'⟩ := foundAt_length_iff.1 h'
  cases hread.symm.trans hread'
  exact ⟨rfl, rfl⟩

/-- Nothing is found at the end of a text. -/
theorem FoundAt.lt_length (h : FoundAt allowed recognise text place found after)
    (hempty : recognise [] = none) : place < text.length := by
  obtain ⟨before, rest, rfl, rfl, -, hread⟩ := h
  have hne : rest ≠ [] := by
    rintro rfl
    cases hempty.symm.trans hread
  have := List.length_pos_iff.2 hne
  rw [List.length_append]
  omega

/-- If nothing can begin where `before` ends, every find from there on begins behind the next
character. -/
theorem FoundAt.length_concat_le {before : List Char} {c : Char}
    (h : FoundAt allowed recognise (before ++ c :: text) place found after)
    (hnone : allowed before.getLast? = true → recognise (c :: text) = none)
    (hplace : before.length ≤ place) : (before ++ [c]).length ≤ place := by
  have hne : before.length ≠ place := by
    rintro rfl
    obtain ⟨hallowed, hread⟩ := foundAt_length_iff.1 h
    cases (hnone hallowed).symm.trans hread
  rw [List.length_append, List.length_singleton]
  omega

/-! ## The first find -/

/-- The search for one find goes through the places from left to right. -/
theorem firstFrom_cases (hempty : recognise [] = none) (before text : List Char) :
    (firstFrom allowed recognise before.getLast? text = none ∧
      ∀ place found after, before.length ≤ place →
        ¬ FoundAt allowed recognise (before ++ text) place found after) ∨
    ∃ place found after, firstFrom allowed recognise before.getLast? text = some found ∧
      before.length ≤ place ∧ FoundAt allowed recognise (before ++ text) place found after ∧
      ∀ place' found' after', before.length ≤ place' → place' < place →
        ¬ FoundAt allowed recognise (before ++ text) place' found' after' := by
  induction text generalizing before with
  | nil =>
    refine .inl ⟨rfl, fun place found after hplace h => ?_⟩
    have hlt := h.lt_length hempty
    rw [List.append_nil] at hlt
    omega
  | cons c text ih =>
    by_cases hnone : allowed before.getLast? = true → recognise (c :: text) = none
    · have hstep : firstFrom allowed recognise before.getLast? (c :: text) =
          firstFrom allowed recognise (before ++ [c]).getLast? text := by
        rw [firstFrom_cons hnone, List.getLast?_concat]
      have hsplit : before ++ [c] ++ text = before ++ c :: text := by simp
      have hrest := ih (before ++ [c])
      rw [hsplit, ← hstep] at hrest
      rcases hrest with ⟨hnothing, hall⟩ | ⟨place, found, after, hsome, hplace, h, hleast⟩
      · refine .inl ⟨hnothing, fun place found after hplace h => ?_⟩
        exact hall place found after (h.length_concat_le hnone hplace) h
      · refine .inr ⟨place, found, after, hsome, ?_, h,
          fun place' found' after' hle hlt h' => ?_⟩
        · rw [List.length_append] at hplace
          omega
        · exact hleast place' found' after' (h'.length_concat_le hnone hle) hlt h'
    · obtain ⟨hallowed, hsome⟩ := Classical.not_imp.1 hnone
      obtain ⟨⟨found, after⟩, hread⟩ := Option.ne_none_iff_exists'.1 hsome
      refine .inr ⟨before.length, found, after, ?_, Nat.le_refl _,
        foundAt_length_iff.2 ⟨hallowed, hread⟩, fun _ _ _ hle hlt => ?_⟩
      · exact firstFrom_found hallowed (List.cons_ne_nil _ _) hread
      · omega

/-- A search finds nothing if there is nothing at any place. -/
theorem firstOccurrence_eq_none_iff (hempty : recognise [] = none) :
    firstOccurrence allowed recognise text = none ↔
      ∀ place found after, ¬ FoundAt allowed recognise text place found after := by
  rcases @firstFrom_cases _ allowed _ hempty [] text with
    ⟨hnone, hall⟩ | ⟨place, found, after, hsome, -, h, -⟩
  · exact ⟨fun _ place found after => hall place found after (Nat.zero_le _), fun _ => hnone⟩
  · constructor
    · intro hnone
      cases hnone.symm.trans hsome
    · intro hall
      exact absurd h (hall place found after)

/-- A search finds what stands at the least place. -/
theorem firstOccurrence_eq_some_iff (hempty : recognise [] = none) :
    firstOccurrence allowed recognise text = some found ↔
      ∃ place after, FoundAt allowed recognise text place found after ∧
        ∀ place' < place, ∀ found' after',
          ¬ FoundAt allowed recognise text place' found' after' := by
  rcases @firstFrom_cases _ allowed _ hempty [] text with
    ⟨hnone, hall⟩ | ⟨place, first, after, hsome, -, h, hleast⟩
  · constructor
    · intro hsome
      cases hnone.symm.trans hsome
    · rintro ⟨place, after, h, -⟩
      exact absurd h (hall place found after (Nat.zero_le _))
  · constructor
    · intro hfound
      cases hsome.symm.trans hfound
      exact ⟨place, after, h, fun place' hlt found' after' =>
        hleast place' found' after' (Nat.zero_le _) hlt⟩
    · rintro ⟨place', after', h', hleast'⟩
      have hplace : place' = place := by
        rcases Nat.lt_trichotomy place' place with hlt | heq | hlt
        · exact absurd h' (hleast _ _ _ (Nat.zero_le _) hlt)
        · exact heq
        · exact absurd h (hleast' _ hlt _ _)
      subst hplace
      obtain ⟨rfl, -⟩ := h.unique h'
      exact hsome

/-! ## All finds -/

/-- What the recogniser reads is not empty, and nothing can be read that begins inside of it. -/
def Apart (recognise : Recogniser α) : Prop :=
  ∀ text found after, recognise text = some (found, after) →
    ∃ c used, text = c :: (used ++ after) ∧ Silent recognise used after

/-- Nothing is read from the empty text, as what is read is not empty. -/
theorem Apart.nil (hapart : Apart recognise) : recognise [] = none := by
  by_contra hread
  obtain ⟨⟨found, after⟩, hread⟩ := Option.ne_none_iff_exists'.1 hread
  obtain ⟨c, used, h, -⟩ := hapart _ _ _ hread
  cases h

/-- A find begins behind the end of each one before it. -/
theorem Apart.length_le (hapart : Apart recognise)
    (h : FoundAt allowed recognise text place found after)
    (h' : FoundAt allowed recognise text place' found' after') (hlt : place < place') :
    text.length ≤ place' + after.length := by
  obtain ⟨before, rest, rfl, rfl, -, hread⟩ := h
  obtain ⟨before', rest', htext, rfl, -, hread'⟩ := h'
  obtain ⟨c, used, rfl, hsilent⟩ := hapart _ _ _ hread
  by_contra hlong
  obtain ⟨more, rfl⟩ : ∃ more, before' = before ++ c :: more := by
    rcases List.append_eq_append_iff.1 htext with ⟨more, rfl, hrest⟩ | ⟨more, rfl, -⟩
    · cases more with
      | nil => simp at hlt
      | cons d more => exact ⟨more, by rw [(List.cons.inj hrest).1]⟩
    · rw [List.length_append] at hlt
      omega
  have hrest : used ++ after = more ++ rest' := by simpa using htext
  obtain ⟨tail, rfl, rfl⟩ : ∃ tail, used = more ++ tail ∧ rest' = tail ++ after := by
    refine (List.append_eq_append_iff.1 hrest).elim ?_ id
    rintro ⟨tail, rfl, rfl⟩
    simp only [List.length_append, List.length_cons] at hlong
    omega
  have htail : tail ≠ [] := by
    rintro rfl
    simp only [List.length_append, List.length_cons, List.length_nil] at hlong
    omega
  rw [hsilent tail (List.suffix_append _ _) htail] at hread'
  cases hread'

/-- The finds belong to the places in ascending order, one to each place where something stands. -/
def Enumerates (stands : Nat → α → Prop) (finds : List α) : Prop :=
  ∃ places : List Nat, places.Pairwise (· < ·) ∧
    (∀ place, place ∈ places ↔ ∃ find, stands place find) ∧
    List.Forall₂ (fun place find => ∀ other, stands place other ↔ other = find) places finds

/-- The search goes on at the next character if nothing can be found here. -/
theorem occurrencesFrom_cons {previous : Option Char} {c : Char}
    (h : allowed previous = true → recognise (c :: text) = none) :
    occurrencesFrom allowed recognise previous 0 (c :: text) =
      occurrencesFrom allowed recognise (some c) 0 text := by
  have hnone : (if allowed previous = true then recognise (c :: text) else none) = none := by
    split
    · next hallowed => exact h hallowed
    · rfl
  rw [occurrencesFrom, hnone]

/-- The places from the end of `before` on at which something can be found, in ascending order, and
what is found there. -/
structure Covers (allowed : Option Char → Bool) (recognise : Recogniser α)
    (before text : List Char) (places : List Nat) (finds : List α) : Prop where
  sorted : places.Pairwise (· < ·)
  mem_iff : ∀ place, place ∈ places ↔ before.length ≤ place ∧
    ∃ found after, FoundAt allowed recognise (before ++ text) place found after
  finds : List.Forall₂ (fun place found => ∃ after,
    FoundAt allowed recognise (before ++ text) place found after) places finds

section
variable {before : List Char} {places : List Nat} {finds : List α} {c : Char}

/-- No place is left at the end of a text. -/
theorem covers_nil (hempty : recognise [] = none) : Covers allowed recognise before [] [] [] := by
  refine ⟨.nil, fun place => ⟨nofun, ?_⟩, .nil⟩
  rintro ⟨hplace, found, after, h⟩
  have hlt := h.lt_length hempty
  rw [List.append_nil] at hlt
  omega

/-- A place where nothing can be found is left out. -/
theorem Covers.skip (h : Covers allowed recognise (before ++ [c]) text places finds)
    (hnone : allowed before.getLast? = true → recognise (c :: text) = none) :
    Covers allowed recognise before (c :: text) places finds := by
  have hsplit : before ++ [c] ++ text = before ++ c :: text := by simp
  refine ⟨h.sorted, fun place => ?_, hsplit ▸ h.finds⟩
  have hmem := h.mem_iff place
  rw [hsplit] at hmem
  rw [hmem]
  constructor
  · rintro ⟨hle, hfound⟩
    rw [List.length_append] at hle
    exact ⟨by omega, hfound⟩
  · rintro ⟨hle, found, after, hfound⟩
    exact ⟨hfound.length_concat_le hnone hle, found, after, hfound⟩

/-- A find is the only one up to its end. -/
theorem Covers.cons {used : List Char} (hapart : Apart recognise)
    (hallowed : allowed before.getLast? = true)
    (hread : recognise (c :: (used ++ after)) = some (found, after))
    (h : Covers allowed recognise (before ++ c :: used) after places finds) :
    Covers allowed recognise before (c :: (used ++ after)) (before.length :: places)
      (found :: finds) := by
  have hhere : FoundAt allowed recognise (before ++ c :: (used ++ after)) before.length found
      after :=
    foundAt_length_iff.2 ⟨hallowed, hread⟩
  have hsplit : before ++ c :: used ++ after = before ++ c :: (used ++ after) := by simp
  have hlength : (before ++ c :: used).length + after.length =
      (before ++ c :: (used ++ after)).length := by
    rw [← List.length_append, hsplit]
  have hbehind : before.length < (before ++ c :: used).length := by
    rw [List.length_append, List.length_cons]
    omega
  refine ⟨?_, fun place => ?_, .cons ⟨after, hhere⟩ (hsplit ▸ h.finds)⟩
  · refine List.pairwise_cons.2 ⟨fun place hplace => ?_, h.sorted⟩
    exact Nat.lt_of_lt_of_le hbehind ((h.mem_iff place).1 hplace).1
  · have hmem := h.mem_iff place
    rw [hsplit] at hmem
    rw [List.mem_cons, hmem]
    constructor
    · rintro (rfl | ⟨hle, hfound⟩)
      · exact ⟨Nat.le_refl _, found, after, hhere⟩
      · exact ⟨by omega, hfound⟩
    · rintro ⟨hle, found', after', hfound⟩
      rcases Nat.eq_or_lt_of_le hle with rfl | hlt
      · exact .inl rfl
      · have hend := hapart.length_le hhere hfound hlt
        exact .inr ⟨by omega, found', after', hfound⟩

end

/-- A search that begins at the end of `before` gives the finds from there on. -/
theorem Apart.exists_covers (hapart : Apart recognise) (before text : List Char) :
    ∃ places, Covers allowed recognise before text places
      (occurrencesFrom allowed recognise before.getLast? 0 text) := by
  -- By induction on the length of the text: a find takes at least one character off it.
  induction hlength : text.length using Nat.strong_induction_on generalizing before text with
  | _ n ih =>
    subst hlength
    cases text with
    | nil => exact ⟨[], covers_nil hapart.nil⟩
    | cons c text =>
      by_cases hnone : allowed before.getLast? = true → recognise (c :: text) = none
      · obtain ⟨places, hcovers⟩ := ih text.length (Nat.lt_succ_self _) (before ++ [c]) text rfl
        rw [List.getLast?_concat, ← occurrencesFrom_cons hnone] at hcovers
        exact ⟨places, hcovers.skip hnone⟩
      · obtain ⟨hallowed, hsome⟩ := Classical.not_imp.1 hnone
        obtain ⟨⟨found, after⟩, hread⟩ := Option.ne_none_iff_exists'.1 hsome
        obtain ⟨d, used, htext, -⟩ := hapart _ _ _ hread
        obtain ⟨rfl, rfl⟩ := List.cons.inj htext
        have hshorter : after.length < (c :: (used ++ after)).length := by
          rw [List.length_cons, List.length_append]
          omega
        obtain ⟨places, hcovers⟩ := ih after.length hshorter (before ++ c :: used) after rfl
        have hstep := occurrencesFrom_found hallowed (List.cons_ne_nil c used) hread
        rw [← List.getLast?_append] at hstep
        exact ⟨before.length :: places, hstep ▸ hcovers.cons hapart hallowed hread⟩

/-- A search for finds that lie apart misses none of them. -/
theorem Apart.enumerates_occurrences (hapart : Apart recognise) (text : List Char) :
    Enumerates (fun place found => ∃ after, FoundAt allowed recognise text place found after)
      (occurrences allowed recognise text) := by
  obtain ⟨places, hcovers⟩ := @Apart.exists_covers _ allowed _ hapart [] text
  refine ⟨places, hcovers.sorted, fun place => ?_, hcovers.finds.imp ?_⟩
  · rw [hcovers.mem_iff]
    exact ⟨fun h => h.2, fun h => ⟨Nat.zero_le _, h⟩⟩
  · rintro place find ⟨after, h⟩ other
    constructor
    · rintro ⟨after', h'⟩
      exact (h.unique h').1
    · rintro rfl
      exact ⟨after, h⟩

end

/-! ## Places of a shape -/

/-- A word begins or ends between the two texts. -/
def IsBoundary (before rest : List Char) : Prop :=
  before.getLast?.any isWord ≠ rest.head?.any isWord

/-- A word character stands at a boundary if a word may begin there. -/
theorem isBoundary_cons_iff {before rest : List Char} {c : Char} (hc : isWord c = true) :
    IsBoundary before (c :: rest) ↔ atWordStart before.getLast? = true := by
  rw [IsBoundary, List.head?_cons, Option.any_some, hc]
  cases before.getLast? with
  | none => simp [atWordStart]
  | some d => simp [atWordStart]

namespace Shape

/-- The shape stands in the text at a word boundary after the first `place` characters. -/
def StandsAt (shape : Shape) (text : List Char) (place : Nat) (groups : List (List Char))
    (after : List Char) : Prop :=
  ∃ before rest, text = before ++ rest ∧ before.length = place ∧ IsBoundary before rest ∧
    shape.Begins rest groups after

/-- A text of the shape begins with a word character. -/
def BeginsWord (shape : Shape) : Prop :=
  ∀ used groups, shape.Matches used groups → ∃ c tail, used = c :: tail ∧ isWord c = true

/-- A sequence begins with a word character if its first shape does. -/
theorem BeginsWord.cons {shape : Shape} (h : shape.BeginsWord) (shapes : List Shape) :
    (all (shape :: shapes)).BeginsWord := by
  intro used groups hmatch
  cases hmatch with
  | seq hfirst _ =>
    obtain ⟨c, tail, rfl, hc⟩ := h _ _ hfirst
    exact ⟨c, _, rfl, hc⟩

/-- Letters begin with a word character if the first of them is one in each of its cases. -/
theorem beginsWord_letters {same : Char → Char → Bool} {first : Char} {word : List Char}
    (hfirst : word.head? = some first) (h : ∀ c, same first c = true → isWord c = true) :
    (letters same word).BeginsWord := by
  intro used groups hmatch
  obtain ⟨hspelling, -⟩ := matches_letters_iff.1 hmatch
  obtain ⟨tail, rfl⟩ := List.head?_eq_some_iff.1 hfirst
  cases hspelling with
  | cons hc _ => exact ⟨_, _, rfl, h _ hc⟩

/-- A given text begins with a word character if its first character is one. -/
theorem beginsWord_exactly {expected : String} {first : Char}
    (hfirst : expected.toList.head? = some first) (h : isWord first = true) :
    (exactly expected).BeginsWord := by
  refine beginsWord_letters hfirst fun c hc => ?_
  rw [← eq_of_beq hc]
  exact h

/-- The places of a shape are those of a recogniser that reads it. -/
theorem standsAt_iff_foundAt {α : Type} {recognise : Recogniser α} {shape : Shape} {p : Prop}
    (hword : shape.BeginsWord) {found : α} {groups : List (List Char)} {after : List Char}
    (hread : ∀ rest,
      recognise rest = some (found, after) ↔ shape.Begins rest groups after ∧ p)
    {text : List Char} {place : Nat} :
    shape.StandsAt text place groups after ∧ p ↔
      FoundAt atWordStart recognise text place found after := by
  have hplace : ∀ before rest, shape.Begins rest groups after →
      (IsBoundary before rest ↔ atWordStart before.getLast? = true) := by
    rintro before _ ⟨used, rfl, hmatch⟩
    obtain ⟨c, tail, rfl, hc⟩ := hword used groups hmatch
    exact isBoundary_cons_iff hc
  constructor
  · rintro ⟨⟨before, rest, htext, hlength, hboundary, hbegins⟩, hp⟩
    exact ⟨before, rest, htext, hlength, (hplace before rest hbegins).1 hboundary,
      (hread rest).2 ⟨hbegins, hp⟩⟩
  · rintro ⟨before, rest, htext, hlength, hallowed, hfound⟩
    obtain ⟨hbegins, hp⟩ := (hread rest).1 hfound
    exact ⟨⟨before, rest, htext, hlength, (hplace before rest hbegins).2 hallowed, hbegins⟩, hp⟩

end Shape

end Transcoding.Declaration
