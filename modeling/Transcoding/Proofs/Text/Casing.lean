import Transcoding.Text.Casing
import Transcoding.Proofs.Text.Cut
import Transcoding.Proofs.Text.Word

/-!
# The characters of a snake-case name

The words of an identifier consist of its letters and numerals (`mem_of_mem_words`), and what snake
case writes is underscores and the lower-case forms of these. None of them is a hash sign, which is
what sets a raw identifier apart (`hash_not_mem_snakeCase`). A name that begins with an ASCII letter
and goes on with ASCII letters, digits and underscores is written with lower-case letters in place
of the others (`isSnakeWord_snakeCase`).
-/

namespace Transcoding.Text

/-! ## Words -/

/-- The runs of a text consist of its letters and numerals. -/
theorem mem_of_mem_runs {text run : List Char} (hrun : run ∈ runs text) :
    ∀ c ∈ run, c ∈ text ∧ isAlphanumeric c := by
  induction text generalizing run with
  | nil =>
    rw [runs, List.mem_singleton] at hrun
    simp [hrun]
  | cons d text ih =>
    have hlater {found : List Char} (h : ∀ c ∈ found, c ∈ text ∧ isAlphanumeric c) :
        ∀ c ∈ found, c ∈ d :: text ∧ isAlphanumeric c :=
      fun c hc => (h c hc).imp_left (List.mem_cons_of_mem d)
    unfold runs at hrun
    split at hrun
    · next hd =>
      split at hrun
      · rw [List.mem_singleton] at hrun
        simpa [hrun] using hd
      · next first rest hruns =>
        rw [hruns, List.forall_mem_cons] at ih
        rcases List.mem_cons.1 hrun with rfl | hrest
        · exact List.forall_mem_cons.2 ⟨⟨List.mem_cons_self, hd⟩, hlater ih.1⟩
        · exact hlater (ih.2 run hrest)
    · rcases List.mem_cons.1 hrun with rfl | hrest
      · nofun
      · exact hlater (ih hrest)

/-- The words of a run are made of the run and of what was read before it. -/
theorem mem_of_mem_runWords {wordCase : WordCase} {word run found : List Char}
    (hfound : found ∈ runWords wordCase word run) : ∀ c ∈ found, c ∈ word ∨ c ∈ run := by
  fun_induction runWords wordCase word run with
  | case1 => cases hfound
  | case2 wordCase word c =>
    rw [List.mem_singleton.1 hfound]
    simp
  | case3 wordCase word c d rest _ ih =>
    rcases List.mem_cons.1 hfound with rfl | hlater
    · intro e he
      rw [List.mem_append, List.mem_singleton] at he
      refine he.imp_right ?_
      rintro rfl
      exact List.mem_cons_self
    · intro e he
      exact .inr (List.mem_cons_of_mem c ((ih hlater e he).resolve_left nofun))
  | case4 wordCase word c d rest _ _ ih =>
    rcases List.mem_cons.1 hfound with rfl | hlater
    · exact fun e he => .inl he
    · intro e he
      have := ih hlater e he
      simp only [List.mem_singleton] at this
      exact .inr (List.mem_cons.2 this)
  | case5 wordCase word c d rest _ _ ih =>
    intro e he
    have := ih hfound e he
    simp only [List.mem_append, List.mem_singleton] at this
    rw [List.mem_cons, ← or_assoc]
    exact this

/-- The words of a text consist of its letters and numerals. -/
theorem mem_of_mem_words {text word : List Char} (hword : word ∈ words text) :
    ∀ c ∈ word, c ∈ text ∧ isAlphanumeric c := by
  obtain ⟨run, hrun, hword⟩ := List.mem_flatMap.1 hword
  intro c hc
  exact mem_of_mem_runs hrun c ((mem_of_mem_runWords hword c hc).resolve_left nofun)

/-- The first word of a run begins with what was read before it. -/
theorem exists_runWords_cons (wordCase : WordCase) (first : Char) (word : List Char)
    {run : List Char} (hrun : run ≠ []) :
    ∃ found rest, runWords wordCase (first :: word) run = (first :: found) :: rest := by
  generalize hread : first :: word = read
  fun_induction runWords wordCase read run generalizing word with
  | case1 => exact absurd rfl hrun
  | case2 wordCase read c =>
    subst hread
    exact ⟨_, _, rfl⟩
  | case3 wordCase read c d rest _ _ =>
    subst hread
    exact ⟨_, _, rfl⟩
  | case4 wordCase read c d rest _ _ _ =>
    subst hread
    exact ⟨_, _, rfl⟩
  | case5 wordCase read c d rest _ _ ih =>
    subst hread
    exact ih (word ++ [c]) (List.cons_ne_nil d rest) rfl

/-- A text that begins with a letter or a numeral begins with a word. -/
theorem exists_words_cons {c : Char} {text : List Char} (hc : isAlphanumeric c) :
    ∃ word rest, words (c :: text) = (c :: word) :: rest := by
  obtain ⟨run, later, hruns⟩ : ∃ run later, runs (c :: text) = (c :: run) :: later := by
    rw [runs, if_pos hc]
    split
    · exact ⟨_, _, rfl⟩
    · exact ⟨_, _, rfl⟩
  obtain ⟨word, rest, hwords⟩ :
      ∃ word rest, runWords .unset [] (c :: run) = (c :: word) :: rest := by
    cases run with
    | nil => exact ⟨[], [], rfl⟩
    | cons d run =>
      rw [runWords]
      split
      · exact ⟨[], _, rfl⟩
      · rw [if_neg (by simp)]
        exact exists_runWords_cons _ c [] (List.cons_ne_nil d run)
  exact ⟨word, rest ++ later.flatMap (runWords .unset []), by simp [words, hruns, hwords]⟩

/-! ## Lower case -/

/-- No character beyond the sign of a raw identifier is that sign. -/
theorem hash_ne_ofNat {n : Nat} (h : 0x23 < n) : '#' ≠ Char.ofNat n := by
  intro heq
  have hcode : 0x23 = (Char.ofNat n).toNat := congrArg Char.toNat heq
  by_cases hvalid : n.isValidChar
  · rw [Char.ofNat, dif_pos hvalid] at hcode
    change 0x23 = n at hcode
    omega
  · rw [Char.ofNat, dif_neg hvalid] at hcode
    cases hcode

/-- The lower-case form of a letter or a numeral has no hash sign. -/
theorem hash_not_mem_toLower {c : Char} (h : isAlphanumeric c) : '#' ∉ toLower c := by
  by_cases hascii : isAscii c = true
  · revert h
    exact forall_ascii (p := fun c => isAlphanumeric c = true → '#' ∉ toLower c)
      (by decide +kernel) hascii
  · rw [toLower, if_neg hascii]
    have hsequences : ∀ entry ∈ toLowerSequences, '#' ∉ entry.2.map Char.ofNat := by decide +kernel
    have hruns : ∀ run ∈ toLowerRuns, 0x23 < run.2.2.2 := by decide +kernel
    split
    · next image himage =>
      obtain ⟨before, after, htable, -⟩ := List.lookup_eq_some_iff.1 himage
      exact hsequences (c.toNat, image) (by simp [htable])
    · rw [List.mem_singleton, alongRuns]
      split
      · next first last step image hfind =>
        have himage : 0x23 < image := hruns _ (List.mem_of_find?_eq_some hfind)
        exact hash_ne_ofNat (by omega)
      · rintro rfl
        exact hascii rfl

/-- A word in lower case does not hold the sign of a raw identifier. -/
theorem hash_not_mem_lowerWord {word : List Char} (h : ∀ c ∈ word, isAlphanumeric c) :
    '#' ∉ lowerWord word := by
  fun_induction lowerWord word with
  | case1 => nofun
  | case2 => decide
  | case3 c _ => exact hash_not_mem_toLower (h c (by simp))
  | case4 c cs _ ih =>
    rw [List.forall_mem_cons] at h
    rw [List.mem_append, not_or]
    exact ⟨hash_not_mem_toLower h.1, ih h.2⟩

/-- A name in snake case has no hash sign. -/
theorem hash_not_mem_snakeCase (s : String) : '#' ∉ (snakeCase s).toList := by
  rw [snakeCase, String.toList_ofList]
  intro hmem
  rcases mem_of_mem_intercalate hmem with hseparator | ⟨_, hlower, hmem⟩
  · revert hseparator
    decide
  · obtain ⟨word, hword, rfl⟩ := List.mem_map.1 hlower
    exact hash_not_mem_lowerWord (fun c hc => (mem_of_mem_words hword c hc).2) hmem

/-! ## ASCII names -/

/-- A name that consists of ASCII letters, digits and underscores and begins with a letter. -/
def isAsciiName : List Char → Bool
  | [] => false
  | c :: rest => c.isAlpha && rest.all fun d => d.isAlphanum || d == '_'

/-- A name that consists of lower-case ASCII letters, digits and underscores and begins with a
letter. -/
def isSnakeWord : List Char → Bool
  | [] => false
  | c :: rest => c.isLower && rest.all fun d => d.isLower || d.isDigit || d == '_'

/-- The lower-case form of an ASCII letter is a lower-case letter. -/
theorem isLower_toLower {c : Char} (h : c.isAlpha = true) : c.toLower.isLower = true := by
  have hascii := isAscii_of_isAlphanum (c := c) (by simp [Char.isAlphanum, h])
  revert h
  exact forall_ascii (p := fun c => c.isAlpha = true → c.toLower.isLower = true)
    (by decide +kernel) hascii

/-- The lower-case form of an ASCII digit is the digit. -/
theorem isDigit_toLower {c : Char} (h : c.isDigit = true) : c.toLower.isDigit = true := by
  have hascii := isAscii_of_isAlphanum (c := c) (by simp [Char.isAlphanum, h])
  revert h
  exact forall_ascii (p := fun c => c.isDigit = true → c.toLower.isDigit = true)
    (by decide +kernel) hascii

/-- An ASCII word has the lower-case forms of its characters. -/
theorem lowerWord_of_isAlphanum {word : List Char} (h : ∀ c ∈ word, c.isAlphanum = true) :
    lowerWord word = word.map Char.toLower := by
  have hlower {c : Char} (hc : c.isAlphanum = true) : toLower c = [c.toLower] := by
    rw [toLower, if_pos (isAscii_of_isAlphanum hc)]
  fun_induction lowerWord word with
  | case1 => rfl
  | case2 => cases h 'Σ' (by simp)
  | case3 c _ => exact hlower (h c (by simp))
  | case4 c cs _ ih =>
    rw [List.forall_mem_cons] at h
    rw [hlower h.1, ih h.2]
    rfl

/-- The words of an ASCII name consist of ASCII letters and digits. -/
theorem isAlphanum_of_mem_words {text word : List Char} (htext : isAsciiName text = true)
    (hword : word ∈ words text) : ∀ c ∈ word, c.isAlphanum = true := by
  intro c hc
  obtain ⟨hmem, halphanumeric⟩ := mem_of_mem_words hword c hc
  cases text with
  | nil => cases htext
  | cons first rest =>
    simp only [isAsciiName, Bool.and_eq_true, List.all_eq_true, Bool.or_eq_true, beq_iff_eq]
      at htext
    rcases List.mem_cons.1 hmem with rfl | hrest
    · simp [Char.isAlphanum, htext.1]
    · rcases htext.2 c hrest with h | rfl
      · exact h
      · revert halphanumeric
        decide

/-- Joined texts begin as the first of them does. -/
theorem exists_intercalate_cons (separator : List Char) (c : Char) (text : List Char)
    (texts : List (List Char)) :
    ∃ rest, separator.intercalate ((c :: text) :: texts) = c :: rest := by
  cases texts with
  | nil => exact ⟨text, by simp⟩
  | cons next texts =>
    rw [List.intercalate_cons_cons]
    exact ⟨_, rfl⟩

section
variable {name : String}

/-- An ASCII name is written in snake case with the lower-case forms of its characters. -/
theorem toList_snakeCase (h : isAsciiName name.toList = true) :
    (snakeCase name).toList =
      ['_'].intercalate ((words name.toList).map fun word => word.map Char.toLower) := by
  have hlower : (words name.toList).map lowerWord =
      (words name.toList).map fun word => word.map Char.toLower :=
    List.map_congr_left fun word hword => lowerWord_of_isAlphanum (isAlphanum_of_mem_words h hword)
  rw [snakeCase, String.toList_ofList, hlower]

/-- An ASCII name in snake case has lower-case letters, digits and underscores only. -/
theorem isSnake_of_mem_snakeCase (h : isAsciiName name.toList = true) :
    ∀ c ∈ (snakeCase name).toList, (c.isLower || c.isDigit || c == '_') = true := by
  intro c hc
  rw [toList_snakeCase h] at hc
  rcases mem_of_mem_intercalate hc with hseparator | ⟨_, htext, hc⟩
  · rw [List.mem_singleton.1 hseparator]
    rfl
  · obtain ⟨word, hword, rfl⟩ := List.mem_map.1 htext
    obtain ⟨d, hd, rfl⟩ := List.mem_map.1 hc
    rcases (Bool.or_eq_true d.isAlpha d.isDigit).mp (isAlphanum_of_mem_words h hword d hd) with
      halpha | hdigit
    · simp [isLower_toLower halpha]
    · simp [isDigit_toLower hdigit]

/-- An ASCII name in snake case begins with its first letter in lower case. -/
theorem exists_snakeCase_cons {first : Char} {rest : List Char}
    (h : isAsciiName name.toList = true) (htext : name.toList = first :: rest) :
    first.isAlpha = true ∧ ∃ tail, (snakeCase name).toList = first.toLower :: tail := by
  have hfirst : first.isAlpha = true := by
    rw [htext, isAsciiName, Bool.and_eq_true] at h
    exact h.1
  have hascii : isAscii first = true := isAscii_of_isAlphanum (by simp [Char.isAlphanum, hfirst])
  have halphanumeric : isAlphanumeric first = true := by
    simp [isAlphanumeric, isLetter, hascii, hfirst]
  obtain ⟨word, later, hwords⟩ : ∃ word later, words (first :: rest) = (first :: word) :: later :=
    exists_words_cons halphanumeric
  rw [toList_snakeCase h, htext, hwords]
  exact ⟨hfirst, exists_intercalate_cons _ _ _ _⟩

/-- An ASCII name is written in snake case with lower-case letters, digits and underscores, and
begins with a letter. -/
theorem isSnakeWord_snakeCase (h : isAsciiName name.toList = true) :
    isSnakeWord (snakeCase name).toList = true := by
  cases htext : name.toList with
  | nil =>
    rw [htext] at h
    cases h
  | cons first rest =>
    obtain ⟨hfirst, tail, hsnake⟩ := exists_snakeCase_cons h htext
    have hchars := isSnake_of_mem_snakeCase h
    rw [hsnake, List.forall_mem_cons] at hchars
    rw [hsnake, isSnakeWord, isLower_toLower hfirst, Bool.true_and]
    exact List.all_eq_true.2 hchars.2

end

end Transcoding.Text
