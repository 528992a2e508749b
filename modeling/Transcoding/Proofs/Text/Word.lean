import Transcoding.Text.Blank
import Transcoding.Text.Word

/-!
# Words and blanks

No character is both a word character and a blank (`not_isBlank_of_isWord`), and the ASCII letters
are word characters (`isWord_of_isAlpha`). Among the ASCII characters these are finite checks; from
U+0080 on the first is read off the two tables, whose ranges do not meet.
-/

namespace Transcoding.Text

/-- A property of characters below U+0080 can be checked one by one. -/
theorem forall_ascii {p : Char → Prop} (h : ∀ n : Fin 128, p (Char.ofNat n)) {c : Char}
    (hc : isAscii c) : p c := by
  have hlt : c.toNat < 128 := by simpa [isAscii] using hc
  have := h ⟨c.toNat, hlt⟩
  rwa [Char.ofNat_toNat] at this

/-- Two tables whose ranges do not meet have no character in common. -/
theorem inRanges_eq_false {ranges ranges' : List (Nat × Nat)}
    (h : ∀ r ∈ ranges, ∀ r' ∈ ranges', r.2 < r'.1 ∨ r'.2 < r.1) {c : Char}
    (hc : inRanges ranges c) : inRanges ranges' c = false := by
  simp only [inRanges, List.any_eq_true, Bool.and_eq_true, decide_eq_true_eq] at hc
  obtain ⟨r, hr, hlow, hhigh⟩ := hc
  simp only [inRanges, List.any_eq_false, Bool.and_eq_true, decide_eq_true_eq, not_and, Nat.not_le]
  intro r' hr' hlow'
  have := h r hr r' hr'
  omega

/-- A word character is not blank. -/
theorem not_isBlank_of_isWord {c : Char} (h : isWord c = true) : isBlank c = false := by
  by_cases hascii : isAscii c = true
  · revert h
    exact forall_ascii (p := fun c => isWord c = true → isBlank c = false) (by decide +kernel)
      hascii
  · rw [isWord, if_neg hascii] at h
    rw [isBlank, if_neg hascii]
    exact inRanges_eq_false (by decide +kernel) h

/-- ASCII letters and digits are ASCII characters. -/
theorem isAscii_of_isAlphanum {c : Char} (h : c.isAlphanum = true) : isAscii c = true := by
  have hle (d : Char) (hd : d.toNat < 128) (hc : c.val ≤ d.val) : isAscii c = true :=
    decide_eq_true (Nat.lt_of_le_of_lt (UInt32.le_iff_toNat_le.1 hc) hd)
  rcases (Bool.or_eq_true c.isAlpha c.isDigit).mp h with halpha | hdigit
  · rcases (Bool.or_eq_true c.isUpper c.isLower).mp halpha with hupper | hlower
    · exact hle 'Z' (by decide) (of_decide_eq_true hupper).2
    · exact hle 'z' (by decide) (of_decide_eq_true (Bool.and_eq_true_iff.1 hlower).2)
  · exact hle '9' (by decide) (of_decide_eq_true (Bool.and_eq_true_iff.1 hdigit).2)

/-- An ASCII letter is a word character. -/
theorem isWord_of_isAlpha {c : Char} (h : c.isAlpha = true) : isWord c = true := by
  have hascii : isAscii c = true := isAscii_of_isAlphanum (by simp [Char.isAlphanum, h])
  revert h
  exact forall_ascii (p := fun c => c.isAlpha = true → isWord c = true) (by decide +kernel) hascii

end Transcoding.Text
