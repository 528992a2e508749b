import Transcoding.Proofs.Text.Cut
import Transcoding.Text.Blank

/-!
# Trimmed texts

What is left of a text without the blanks at its ends, said without the two passes that remove
them (`trimBlanks_eq_iff`).
-/

namespace Transcoding.Text

/-- A text falls into the blanks at its front and the text from the first other character on. -/
theorem skipBlanks_eq_iff {text rest : List Char} :
    skipBlanks text = rest ↔
      ∃ run, text = run ++ rest ∧ (∀ c ∈ run, isBlank c = true) ∧
        ∀ c ∈ rest.head?, isBlank c = false := by
  constructor
  · rintro rfl
    exact ⟨_, takeWhile_dropWhile_eq_iff.1 ⟨rfl, rfl⟩⟩
  · rintro ⟨run, h⟩
    exact (takeWhile_dropWhile_eq_iff.2 h).2

/-- A text is trimmed to the part of it that blanks surround and that neither begins nor ends with
one. -/
theorem trimBlanks_eq_iff {text core : List Char} :
    trimBlanks text = core ↔
      (∃ before after, text = before ++ core ++ after ∧ (∀ c ∈ before, isBlank c = true) ∧
        ∀ c ∈ after, isBlank c = true) ∧
      (∀ c ∈ core.head?, isBlank c = false) ∧ ∀ c ∈ core.getLast?, isBlank c = false := by
  rw [trimBlanks, List.reverse_eq_iff, skipBlanks_eq_iff]
  constructor
  · rintro ⟨run, hreverse, hrun, hlast⟩
    rw [List.reverse_eq_iff, List.reverse_append, List.reverse_reverse, skipBlanks_eq_iff]
      at hreverse
    obtain ⟨before, rfl, hbefore, hhead⟩ := hreverse
    refine ⟨⟨before, run.reverse, by simp, hbefore, by simpa using hrun⟩, fun c hc => hhead c ?_,
      by simpa using hlast⟩
    rw [List.head?_append, Option.mem_def.1 hc]
    rfl
  · rintro ⟨⟨before, after, rfl, hbefore, hafter⟩, hhead, hlast⟩
    rcases eq_or_ne core [] with rfl | hne
    · -- Only blanks: all of them are skipped at the front.
      refine ⟨[], ?_, by simp, by simp⟩
      have hall : skipBlanks (before ++ [] ++ after) = [] :=
        skipBlanks_eq_iff.2 ⟨before ++ after, by simp, by
          simpa [or_imp, forall_and] using ⟨hbefore, hafter⟩, by simp⟩
      rw [hall]
      rfl
    · refine ⟨after.reverse, ?_, by simpa using hafter, by simpa using hlast⟩
      rw [List.reverse_eq_iff, List.reverse_append, List.reverse_reverse, List.reverse_reverse]
      refine skipBlanks_eq_iff.2 ⟨before, by simp, hbefore, fun c hc => hhead c ?_⟩
      rwa [List.head?_append_of_ne_nil _ hne] at hc

/-- Trimming keeps a part of the text. -/
theorem trimBlanks_subset (text : List Char) : trimBlanks text ⊆ text := by
  obtain ⟨⟨before, after, htext, -⟩, -⟩ := trimBlanks_eq_iff.1 (Eq.refl (trimBlanks text))
  intro c hc
  rw [htext]
  exact List.mem_append_left _ (List.mem_append_right _ hc)

/-- Trimming removes blanks only. -/
theorem count_trimBlanks {c : Char} (hc : isBlank c = false) (text : List Char) :
    (trimBlanks text).count c = text.count c := by
  obtain ⟨⟨before, after, htext, hbefore, hafter⟩, -⟩ :=
    trimBlanks_eq_iff.1 (Eq.refl (trimBlanks text))
  have hnone {run : List Char} (hrun : ∀ d ∈ run, isBlank d = true) : run.count c = 0 :=
    List.count_eq_zero.2 fun hmem => by
      rw [hrun c hmem] at hc
      cases hc
  conv_rhs => rw [htext]
  rw [List.count_append, List.count_append, hnone hbefore, hnone hafter, Nat.zero_add, Nat.add_zero]

/-- Blanks at the ends of a text do not matter. -/
theorem trimBlanks_append {before after : List Char} (hbefore : ∀ c ∈ before, isBlank c = true)
    (hafter : ∀ c ∈ after, isBlank c = true) (text : List Char) :
    trimBlanks (before ++ text ++ after) = trimBlanks text := by
  obtain ⟨⟨front, back, htext, hfront, hback⟩, hends⟩ :=
    trimBlanks_eq_iff.1 (Eq.refl (trimBlanks text))
  refine trimBlanks_eq_iff.2 ⟨⟨before ++ front, back ++ after, ?_, ?_, ?_⟩, hends⟩
  · conv_lhs => rw [htext]
    simp only [List.append_assoc]
  · exact List.forall_mem_append.2 ⟨hbefore, hfront⟩
  · exact List.forall_mem_append.2 ⟨hback, hafter⟩

/-- Skipping blanks does not go past a character that is not blank. -/
theorem skipBlanks_append_cons {c : Char} (hc : isBlank c = false) (left right : List Char) :
    skipBlanks (left ++ c :: right) = skipBlanks left ++ c :: right := by
  obtain ⟨run, hleft, hrun, hhead⟩ := skipBlanks_eq_iff.1 (Eq.refl (skipBlanks left))
  refine skipBlanks_eq_iff.2 ⟨run, ?_, hrun, ?_⟩
  · conv_lhs => rw [hleft]
    rw [List.append_assoc]
  · intro d hd
    cases hrest : skipBlanks left with
    | nil =>
      obtain rfl : c = d := by simpa [hrest] using hd
      exact hc
    | cons e rest => exact hhead d (by simpa [hrest] using hd)

/-- Trimming takes blanks from what stands before such a character and from what stands after
it. -/
theorem exists_trimBlanks_append_cons {c : Char} (hc : isBlank c = false) (left right : List Char) :
    ∃ left' right', trimBlanks (left ++ c :: right) = left' ++ c :: right' ∧ left' ⊆ left ∧
      trimBlanks left' = trimBlanks left ∧ trimBlanks right' = trimBlanks right := by
  obtain ⟨run, hleft, hrun, -⟩ := skipBlanks_eq_iff.1 (Eq.refl (skipBlanks left))
  obtain ⟨run', hreverse, hrun', -⟩ := skipBlanks_eq_iff.1 (Eq.refl (skipBlanks right.reverse))
  have hright : (skipBlanks right.reverse).reverse ++ run'.reverse = right := by
    rw [← List.reverse_append, ← hreverse, List.reverse_reverse]
  have htrim : trimBlanks (left ++ c :: right) =
      skipBlanks left ++ c :: (skipBlanks right.reverse).reverse := by
    have hback := skipBlanks_append_cons hc right.reverse (skipBlanks left).reverse
    rw [trimBlanks, skipBlanks_append_cons hc]
    simpa using congrArg List.reverse hback
  refine ⟨_, _, htrim, (List.dropWhile_sublist _).subset, ?_, ?_⟩
  · have hfront := trimBlanks_append hrun (List.forall_mem_nil _) (skipBlanks left)
    rw [List.append_nil, ← hleft] at hfront
    exact hfront.symm
  · have hblank : ∀ c ∈ run'.reverse, isBlank c = true := by simpa using hrun'
    have hback :=
      trimBlanks_append (List.forall_mem_nil _) hblank (skipBlanks right.reverse).reverse
    rw [List.nil_append, hright] at hback
    exact hback.symm

@[simp] theorem trimBlanks_trimBlanks (text : List Char) :
    trimBlanks (trimBlanks text) = trimBlanks text :=
  trimBlanks_eq_iff.2 ⟨⟨[], [], by simp⟩, (trimBlanks_eq_iff.1 (Eq.refl (trimBlanks text))).2⟩

end Transcoding.Text
