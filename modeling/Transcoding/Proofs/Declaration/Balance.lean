import Transcoding.Declaration.Bracket
import Mathlib.Data.List.Infix

/-!
# Balanced text

A text is balanced if no start of it closes more braces than it opens and all of it closes as many
as it opens. The scan for a closing brace passes over balanced text without a change of depth
(`regionFrom_append`), so the region of a balanced body with a closing brace after it is the body
(`balancedRegion_append`). Balanced texts are closed under concatenation and under a pair of braces
around them.
-/

namespace Transcoding.Declaration

/-- No start of the text has more closing braces than opening ones, and all of it has as many. -/
structure Balanced (text : List Char) : Prop where
  start : ∀ {before : List Char}, before <+: text → before.count '\x7d' ≤ before.count '\x7b'
  total : text.count '\x7d' = text.count '\x7b'

/-- Balance is a matter of counting braces in the beginnings of a text. -/
theorem balanced_iff {text : List Char} :
    Balanced text ↔ (∀ before ∈ text.inits, before.count '\x7d' ≤ before.count '\x7b') ∧
      text.count '\x7d' = text.count '\x7b' :=
  ⟨fun h => ⟨fun _ hb => h.start ((List.mem_inits _ _).1 hb), h.total⟩,
    fun h => ⟨fun hb => h.1 _ ((List.mem_inits _ _).2 hb), h.2⟩⟩

/-- Whether a text is balanced can be decided. -/
instance {text : List Char} : Decidable (Balanced text) :=
  decidable_of_iff _ balanced_iff.symm

/-! ## Building balanced text -/

/-- Text without a brace is balanced. -/
theorem Balanced.of_not_mem {text : List Char} (ho : '\x7b' ∉ text) (hc : '\x7d' ∉ text) :
    Balanced text where
  start h := by
    rw [List.count_eq_zero_of_not_mem fun hm => hc (h.subset hm)]
    exact Nat.zero_le _
  total := by rw [List.count_eq_zero_of_not_mem ho, List.count_eq_zero_of_not_mem hc]

/-- Balanced texts one after another are balanced. -/
theorem Balanced.append {text text' : List Char} (h : Balanced text) (h' : Balanced text') :
    Balanced (text ++ text') where
  start {before} hpre := by
    rcases List.prefix_or_prefix_of_prefix hpre (List.prefix_append text text') with hb | hb
    · exact h.start hb
    · obtain ⟨more, rfl⟩ := hb
      have hmore := h'.start ((List.prefix_append_right_inj text).1 hpre)
      have := h.total
      rw [List.count_append, List.count_append]
      omega
  total := by rw [List.count_append, List.count_append, h.total, h'.total]

/-- A pair of braces around balanced text is balanced. -/
theorem Balanced.braces {text : List Char} (h : Balanced text) :
    Balanced ('\x7b' :: text ++ ['\x7d']) where
  start {before} hpre := by
    cases before with
    | nil => simp
    | cons c before =>
      obtain ⟨rfl, htail⟩ := List.cons_prefix_cons.1 hpre
      have hbefore : before.count '\x7d' ≤ before.count '\x7b' + 1 := by
        rcases List.prefix_concat_iff.1 htail with rfl | htail
        · simp [List.count_append, h.total]
        · exact Nat.le_succ_of_le (h.start htail)
      simpa using hbefore
  total := by simp [List.count_append, h.total]

/-- Texts that are balanced one by one are balanced together. -/
theorem Balanced.flatMap {α : Type} {f : α → List Char} {xs : List α}
    (h : ∀ x ∈ xs, Balanced (f x)) : Balanced (xs.flatMap f) := by
  induction xs with
  | nil => exact .of_not_mem List.not_mem_nil List.not_mem_nil
  | cons x xs ih =>
    rw [List.flatMap_cons]
    exact (h x (by simp)).append (ih fun y hy => h y (List.mem_cons_of_mem _ hy))

/-! ## Scanning balanced text -/

/-- A text that never closes more than `depth` braces beyond those it opens is passed over. -/
theorem regionFrom_append_of_count {text rest : List Char} {depth : Nat}
    (h : ∀ {before}, before <+: text → before.count '\x7d' ≤ before.count '\x7b' + depth) :
    regionFrom depth (text ++ rest) =
      text ++ regionFrom (depth + text.count '\x7b' - text.count '\x7d') rest := by
  induction text generalizing depth with
  | nil => simp
  | cons c text ih =>
    have htail : ∀ {before}, before <+: text →
        (c :: before).count '\x7d' ≤ (c :: before).count '\x7b' + depth :=
      fun hb => h (List.cons_prefix_cons.2 ⟨rfl, hb⟩)
    rw [List.cons_append, regionFrom.eq_def]
    by_cases ho : c = '\x7b'
    · subst ho
      have hdeeper : ∀ {before}, before <+: text →
          before.count '\x7d' ≤ before.count '\x7b' + (depth + 1) := fun hb => by
        have := htail hb
        simp at this
        omega
      have hdepth : depth + ('\x7b' :: text).count '\x7b' - ('\x7b' :: text).count '\x7d' =
          depth + 1 + text.count '\x7b' - text.count '\x7d' := by
        simp
        omega
      rw [hdepth]
      simp [ih hdeeper]
    · by_cases hc : c = '\x7d'
      · subst hc
        have hpos := htail List.nil_prefix
        cases depth with
        | zero => simp at hpos
        | succ outer =>
          have houter : ∀ {before}, before <+: text →
              before.count '\x7d' ≤ before.count '\x7b' + outer := fun hb => by
            have := htail hb
            simp at this
            omega
          have hdepth : outer + 1 + ('\x7d' :: text).count '\x7b' - ('\x7d' :: text).count '\x7d' =
              outer + text.count '\x7b' - text.count '\x7d' := by
            simp
            omega
          rw [hdepth]
          simp [ih houter]
      · have hsame : ∀ {before}, before <+: text →
            before.count '\x7d' ≤ before.count '\x7b' + depth := fun hb => by
          simpa [List.count_cons, ho, hc] using htail hb
        simp [ho, hc, ih hsame]

/-- Balanced text is passed over at any depth. -/
theorem regionFrom_append {text rest : List Char} {depth : Nat} (h : Balanced text) :
    regionFrom depth (text ++ rest) = text ++ regionFrom depth rest := by
  rw [regionFrom_append_of_count fun hb => Nat.le_add_right_of_le (h.start hb), h.total,
    Nat.add_sub_cancel]

/-- The region of a balanced body that a brace closes is the body. -/
theorem balancedRegion_append {text rest : List Char} (h : Balanced text) :
    balancedRegion (text ++ '\x7d' :: rest) = text := by
  rw [balancedRegion, regionFrom_append h]
  simp [regionFrom]

end Transcoding.Declaration
