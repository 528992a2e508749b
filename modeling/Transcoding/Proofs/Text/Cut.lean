import Transcoding.Text.Cut
import Mathlib.Data.List.Infix
import Mathlib.Data.List.TakeWhile

/-!
# Where a text is cut

What the functions of `Text.Cut` return, said without their recursion. A text falls into a run of
characters and a rest in one way (`takeWhile_dropWhile_eq_iff`). `cutAt` cuts at the one
separator that has none before it (`cutAt_eq_some_iff`), and `fields` at all of them
(`fields_eq_iff`). `splitAtFirst` and `splitAtLast` find an
occurrence of a text that is not empty if there is one, and the occurrence they return is the one
before which, or after which, there is no other (`splitAtFirst_eq_some_iff`,
`splitAtLast_eq_some_iff`). An occurrence is an infix, so these lemmas turn a run of a search into
facts about `<+:` and `<:+:`.
-/

namespace Transcoding.Text

/-! ## Runs -/

/-- A text falls in one way into a run of characters of a class and a rest that does not begin with
one. -/
theorem takeWhile_dropWhile_eq_iff {p : Char → Bool} {text run rest : List Char} :
    text.takeWhile p = run ∧ text.dropWhile p = rest ↔
      text = run ++ rest ∧ (∀ c ∈ run, p c = true) ∧ ∀ c ∈ rest.head?, p c = false := by
  constructor
  · rintro ⟨rfl, rfl⟩
    refine ⟨List.takeWhile_append_dropWhile.symm, fun c hc => List.mem_takeWhile_imp hc, ?_⟩
    intro c hc
    have := List.head?_dropWhile_not p text
    rw [Option.mem_def] at hc
    rw [hc] at this
    simpa using this
  · rintro ⟨rfl, hrun, hrest⟩
    have hstop : rest.takeWhile p = [] ∧ rest.dropWhile p = rest := by
      cases rest with
      | nil => simp
      | cons c cs => simp [hrest c (by simp)]
    simp [List.takeWhile_append_of_pos hrun, List.dropWhile_append_of_pos hrun, hstop]

/-! ## Cutting at a separator -/

/-- The cut is made at a separator that has no other before it. -/
theorem cutAt_eq_some_iff {separator : Char} {text before after : List Char} :
    cutAt separator text = some (before, after) ↔
      text = before ++ separator :: after ∧ separator ∉ before := by
  constructor
  · intro h
    induction text generalizing before with
    | nil => cases h
    | cons c cs ih =>
      unfold cutAt at h
      split at h
      · next hc =>
        cases h
        simp [hc]
      · next hc =>
        obtain ⟨⟨bs, a⟩, hcut, hpair⟩ := Option.map_eq_some_iff.1 h
        cases hpair
        obtain ⟨rfl, hb⟩ := ih hcut
        exact ⟨rfl, by simp [Ne.symm hc, hb]⟩
  · rintro ⟨rfl, h⟩
    induction before with
    | nil => simp [cutAt]
    | cons b bs ih =>
      rw [List.mem_cons, not_or] at h
      simp [cutAt, Ne.symm h.1, ih h.2]

/-- A text is not cut only if it is without the separator. -/
theorem cutAt_eq_none_iff {separator : Char} {text : List Char} :
    cutAt separator text = none ↔ separator ∉ text := by
  induction text with
  | nil => simp [cutAt]
  | cons c cs ih =>
    by_cases hc : c = separator
    · simp [cutAt, hc]
    · simp [cutAt, hc, Ne.symm hc, ih]

/-- No field holds a separator. -/
theorem not_mem_of_mem_fields {separator : Char} {text : List Char} :
    ∀ field ∈ fields separator text, separator ∉ field := by
  induction text with
  | nil => simp [fields]
  | cons c cs ih =>
    unfold fields
    split
    · intro field hf
      rcases List.mem_cons.1 hf with rfl | hf
      · exact List.not_mem_nil
      · exact ih field hf
    · next hc =>
      split
      · simp [Ne.symm hc]
      · next first rest hfields =>
        rw [hfields] at ih
        intro field hf
        rcases List.mem_cons.1 hf with rfl | hf
        · simp [Ne.symm hc, ih first (List.mem_cons_self ..)]
        · exact ih field (List.mem_cons_of_mem _ hf)

/-- The fields of a text are the pieces between its separators. -/
theorem fields_eq_splitOn (separator : Char) (text : List Char) :
    fields separator text = text.splitOn separator := by
  induction text with
  | nil => rfl
  | cons c cs ih =>
    rw [List.splitOn_cons_eq_if_modifyHead, fields]
    by_cases hc : c = separator
    · simp [hc, ih]
    · cases hs : cs.splitOn separator with
      | nil => exact absurd hs (List.splitOn_ne_nil _ _)
      | cons field rest => simp [hc, ih, hs]

/-- The fields are the pieces without a separator that spell the text when they are joined. -/
theorem fields_eq_iff {separator : Char} {text : List Char} {pieces : List (List Char)} :
    fields separator text = pieces ↔
      pieces ≠ [] ∧ [separator].intercalate pieces = text ∧
        ∀ piece ∈ pieces, separator ∉ piece := by
  constructor
  · rintro rfl
    refine ⟨?_, ?_, not_mem_of_mem_fields⟩
    · rw [fields_eq_splitOn]
      exact List.splitOn_ne_nil _ _
    · rw [fields_eq_splitOn, List.intercalate_splitOn]
  · rintro ⟨hne, rfl, hpieces⟩
    rw [fields_eq_splitOn, List.splitOn_intercalate separator hpieces hne]

/-- The fields before a separator and those after it are fields of their own. -/
theorem fields_append (separator : Char) (before after : List Char) :
    fields separator (before ++ separator :: after) =
      fields separator before ++ fields separator after := by
  induction before with
  | nil => simp [fields]
  | cons c before ih =>
    by_cases hc : c = separator
    · simp [fields, hc, ih]
    · cases hbefore : fields separator before with
      | nil => exact absurd hbefore (fields_eq_iff.1 rfl).1
      | cons field rest =>
        rw [hbefore] at ih
        simp [fields, hc, hbefore, ih]

/-- A piece of a joined text that is not empty begins where the text does or after a separator. -/
theorem head?_of_mem_pieces {separator c : Char} {pieces : List (List Char)} {piece : List Char}
    (hmem : piece ∈ pieces) (hhead : piece.head? = some c) :
    ([separator].intercalate pieces).head? = some c ∨
      [separator, c] <:+: [separator].intercalate pieces := by
  induction pieces with
  | nil => cases hmem
  | cons first pieces ih =>
    cases pieces with
    | nil =>
      obtain rfl := List.mem_singleton.1 hmem
      exact .inl (by simpa using hhead)
    | cons second pieces =>
      rw [List.intercalate_cons_cons]
      rcases List.mem_cons.1 hmem with rfl | hmem
      · exact .inl (by simp [hhead])
      · refine .inr ?_
        rw [List.append_assoc]
        refine List.IsInfix.trans ?_ (List.suffix_append first _).isInfix
        rcases ih hmem with hfirst | hin
        · obtain ⟨rest, hrest⟩ := List.head?_eq_some_iff.1 hfirst
          exact ⟨[], rest, by simp [hrest]⟩
        · exact List.infix_cons hin

/-- A field that is not empty begins where the text does or after a separator. -/
theorem head?_of_mem_fields {separator c : Char} {text field : List Char}
    (hmem : field ∈ fields separator text) (hhead : field.head? = some c) :
    text.head? = some c ∨ [separator, c] <:+: text := by
  obtain ⟨-, htext, -⟩ := fields_eq_iff.1 (Eq.refl (fields separator text))
  rw [← htext]
  exact head?_of_mem_pieces hmem hhead

/-! ## The last occurrence -/

/-- The search for the last occurrence fails only if there is none. -/
theorem splitAtLast_eq_none_iff {part text : List Char} (hp : part ≠ []) :
    splitAtLast part text = none ↔ ¬ part <:+: text := by
  induction text with
  | nil => simp [splitAtLast, hp]
  | cons c cs ih =>
    cases hs : splitAtLast part cs with
    | some s =>
      have hin : part <:+: cs := by
        by_contra h
        rw [ih.2 h] at hs
        cases hs
      simp [splitAtLast, hs, List.infix_cons hin]
    | none =>
      by_cases hpre : part <+: c :: cs
      · simp [splitAtLast, hs, hpre, hpre.isInfix]
      · simp [splitAtLast, hs, hpre, List.infix_cons_iff, ih.1 hs]

/-- The last occurrence is the one after whose first character there is no other. -/
theorem splitAtLast_eq_some_iff {part text before rest : List Char} (hp : part ≠ []) :
    splitAtLast part text = some (before, rest) ↔
      text = before ++ rest ∧ part <+: rest ∧ ¬ part <:+: rest.tail := by
  constructor
  · intro h
    induction text generalizing before with
    | nil => simp [splitAtLast, hp] at h
    | cons c cs ih =>
      unfold splitAtLast at h
      split at h
      · next hs =>
        cases h
        obtain ⟨rfl, h⟩ := ih hs
        exact ⟨rfl, h⟩
      · next hs =>
        split at h
        · next hpre =>
          cases h
          exact ⟨rfl, List.isPrefixOf_iff_prefix.1 hpre, (splitAtLast_eq_none_iff hp).1 hs⟩
        · cases h
  · rintro ⟨rfl, hpre, hlast⟩
    induction before with
    | nil =>
      cases rest with
      | nil => exact absurd (List.prefix_nil.1 hpre) hp
      | cons c cs =>
        rw [List.tail_cons, ← splitAtLast_eq_none_iff hp] at hlast
        simp [splitAtLast, hlast, hpre]
    | cons b bs ih => simp [splitAtLast, ih]

/-! ## The first occurrence -/

/-- The search for the first occurrence fails only if there is none. -/
theorem splitAtFirst_eq_none_iff {part text : List Char} (hp : part ≠ []) :
    splitAtFirst part text = none ↔ ¬ part <:+: text := by
  induction text with
  | nil => simp [splitAtFirst, hp]
  | cons c cs ih =>
    by_cases hpre : part <+: c :: cs
    · simp [splitAtFirst, hpre, hpre.isInfix]
    · simp [splitAtFirst, hpre, List.infix_cons_iff, ih]

/-- Of two occurrences that begin at different places, the first ends before the second does, so
what comes after the second does not matter for it. -/
theorem prefix_dropLast_iff {part before rest : List Char} {c : Char} (hpre : part <+: rest) :
    part <+: (c :: before ++ part).dropLast ↔ part <+: c :: before ++ rest := by
  obtain ⟨later, rfl⟩ := hpre
  have hlen : part.length ≤ (c :: before ++ part).dropLast.length := by simp
  have hdrop : (c :: before ++ part).dropLast <+: c :: before ++ (part ++ later) := by
    rw [← List.append_assoc]
    exact (List.dropLast_prefix _).trans (List.prefix_append _ _)
  exact ⟨fun h => h.trans hdrop, fun h => List.prefix_of_prefix_length_le h hdrop hlen⟩

/-- The first occurrence is the one before whose last character there is no other. -/
theorem splitAtFirst_eq_some_iff {part text before rest : List Char} (hp : part ≠ []) :
    splitAtFirst part text = some (before, rest) ↔
      text = before ++ rest ∧ part <+: rest ∧ ¬ part <:+: (before ++ part).dropLast := by
  constructor
  · intro h
    induction text generalizing before with
    | nil => simp [splitAtFirst, hp] at h
    | cons c cs ih =>
      unfold splitAtFirst at h
      split at h
      · next hpre =>
        cases h
        refine ⟨rfl, List.isPrefixOf_iff_prefix.1 hpre, fun hin => ?_⟩
        have := hin.length_le
        have := List.length_pos_of_ne_nil hp
        simp at *
        omega
      · next hpre =>
        obtain ⟨⟨bs, r⟩, hs, hpair⟩ := Option.map_eq_some_iff.1 h
        cases hpair
        obtain ⟨rfl, hrest, hfirst⟩ := ih hs
        refine ⟨rfl, hrest, fun hin => ?_⟩
        rw [List.cons_append, List.dropLast_cons_of_ne_nil (by simp [hp]),
          List.infix_cons_iff] at hin
        rcases hin with hin | hin
        · rw [← List.dropLast_cons_of_ne_nil (by simp [hp]), ← List.cons_append,
            prefix_dropLast_iff hrest] at hin
          exact hpre (List.isPrefixOf_iff_prefix.2 hin)
        · exact hfirst hin
  · rintro ⟨rfl, hrest, hfirst⟩
    induction before with
    | nil =>
      cases rest with
      | nil => exact absurd (List.prefix_nil.1 hrest) hp
      | cons c cs => simp [splitAtFirst, hrest]
    | cons b bs ih =>
      have hpre : ¬ part <+: b :: (bs ++ rest) := fun h =>
        hfirst ((prefix_dropLast_iff hrest).2 h).isInfix
      have hbs : ¬ part <:+: (bs ++ part).dropLast := fun h => by
        rw [List.cons_append, List.dropLast_cons_of_ne_nil (by simp [hp])] at hfirst
        exact hfirst (List.infix_cons h)
      simp [splitAtFirst, hpre, ih hbs]

/-! ## Joining -/

/-- The characters of joined texts are those of the texts and of the separator. -/
theorem mem_of_mem_intercalate {c : Char} {separator : List Char} {texts : List (List Char)}
    (h : c ∈ separator.intercalate texts) : c ∈ separator ∨ ∃ text ∈ texts, c ∈ text := by
  induction texts with
  | nil => cases h
  | cons text texts ih =>
    cases texts with
    | nil => exact .inr ⟨text, List.mem_singleton_self text, by simpa using h⟩
    | cons next texts =>
      rw [List.intercalate_cons_cons, List.mem_append, List.mem_append] at h
      rcases h with (h | h) | h
      · exact .inr ⟨text, List.mem_cons_self, h⟩
      · exact .inl h
      · refine (ih h).imp_right ?_
        rintro ⟨other, hother, hc⟩
        exact ⟨other, List.mem_cons_of_mem _ hother, hc⟩

/-- A character of a joined text is one of the separator or of one of the texts. -/
theorem mem_join {c : Char} {separator : String} {texts : List String}
    (h : c ∈ (join separator texts).toList) :
    c ∈ separator.toList ∨ ∃ text ∈ texts, c ∈ text.toList := by
  rw [join, String.toList_intercalate] at h
  simpa using mem_of_mem_intercalate h

end Transcoding.Text
