import Transcoding.Json.Reader
import Transcoding.Json.Writer
import Transcoding.Proofs.Result

/-!
# Strings and natural numbers in JSON text

A string is read back as it was written (`readString_quoted`), and so is a natural number of 64 bits
if nothing follows that goes on with it (`readNumber_toDigits`).
-/

namespace Transcoding.Json

open Transcoding.Text

/-! ## Strings -/

/-- A hexadecimal digit is read back. -/
theorem hexDigit?_digitChar : ∀ n < 16, hexDigit? (Nat.digitChar n) = some n := by decide

/-- The four digits of a control character are read back. -/
theorem codeUnit?_control {n : Nat} (h : n < 32) :
    codeUnit? (.char '0') (.char '0') (.char (Nat.digitChar (n / 16)))
      (.char (Nat.digitChar (n % 16))) = some n := by
  have hhigh := hexDigit?_digitChar (n / 16) (by omega)
  have hlow := hexDigit?_digitChar (n % 16) (by omega)
  have hzero : hexDigit? '0' = some 0 := by decide
  simp only [codeUnit?, hexValue?, hzero, hhigh, hlow, Option.bind_eq_bind, Option.bind_some,
    Option.pure_def, Option.some.injEq]
  omega

/-- A backslash and a letter are read as the character that they stand for. -/
theorem stringTail_escape (strict : Bool) {letter c : Char} (h : escapedChar? letter = some c)
    (symbols : List Symbol) :
    stringTail strict none (.char '\\' :: .char letter :: symbols) =
      (stringTail strict none symbols).map (consChar c) := by
  have hu : letter ≠ 'u' := by
    rintro rfl
    cases h
  simp [stringTail, hu, h]

/-- A control character is read back from its escape. -/
theorem stringTail_control (strict : Bool) {c : Char} (h : c < ' ') (symbols : List Symbol) :
    stringTail strict none (.char '\\' :: .char 'u' :: .char '0' :: .char '0' ::
      .char (Nat.digitChar (c.toNat / 16)) :: .char (Nat.digitChar (c.toNat % 16)) :: symbols) =
      (stringTail strict none symbols).map (consChar c) := by
  have hlt : c.toNat < 32 := h
  have hhigh : isHighSurrogate c.toNat = false := by
    rw [isHighSurrogate, Bool.and_eq_false_iff]
    exact .inl (decide_eq_false (by omega))
  have hlow : isLowSurrogate c.toNat = false := by
    rw [isLowSurrogate, Bool.and_eq_false_iff]
    exact .inl (decide_eq_false (by omega))
  simp only [stringTail, codeUnit?_control hlt, hhigh, hlow, Char.ofNat_toNat]
  rfl

/-- A character that needs no escape is read as itself. -/
theorem stringTail_plain (strict : Bool) {c : Char} (hquote : c ≠ '"') (hescape : c ≠ '\\')
    (h : ¬ c < ' ') (symbols : List Symbol) :
    stringTail strict none (.char c :: symbols) =
      (stringTail strict none symbols).map (consChar c) := by
  rw [stringTail]
  · simp [hquote, h]
  · simp [hescape]

/-- A character is read as it was written. -/
theorem stringTail_spell (strict : Bool) (c : Char) (symbols : List Symbol) :
    stringTail strict none ((spell c).map .char ++ symbols) =
      (stringTail strict none symbols).map (consChar c) := by
  fun_cases spell c with
  | case1 h =>
    have hletter : escapedChar? c = some c := by
      rcases (by simpa using h) with rfl | rfl <;> rfl
    exact stringTail_escape strict hletter symbols
  | case2 _ h => exact stringTail_escape strict (by rw [h]; rfl) symbols
  | case3 _ _ h => exact stringTail_escape strict (by rw [h]; rfl) symbols
  | case4 _ _ _ h => exact stringTail_escape strict (by rw [h]; rfl) symbols
  | case5 _ _ _ _ h => exact stringTail_escape strict (by rw [h]; rfl) symbols
  | case6 _ _ _ _ _ h => exact stringTail_escape strict (by rw [h]; rfl) symbols
  | case7 _ _ _ _ _ _ h => exact stringTail_control strict h symbols
  | case8 h _ _ _ _ _ hcontrol =>
    obtain ⟨hquote, hescape⟩ : c ≠ '"' ∧ c ≠ '\\' := by simpa using h
    exact stringTail_plain strict hquote hescape hcontrol symbols

/-- A string is read as it was written, after its opening quote. -/
theorem readString_quoted (strict : Bool) (s : String) (symbols : List Symbol) :
    readString strict ((s.toList.flatMap spell).map .char ++ .char '"' :: symbols) =
      .ok (some s, symbols) := by
  have htail : ∀ text : List Char,
      stringTail strict none ((text.flatMap spell).map .char ++ .char '"' :: symbols) =
        .ok (some text, symbols) := by
    intro text
    induction text with
    | nil => simp [stringTail]
    | cons c text ih =>
      rw [List.flatMap_cons, List.map_append, List.append_assoc, stringTail_spell, ih]
      rfl
  simp [readString, htail]

/-! ## Numbers -/

/-- What may follow a number: nothing that would go on with it. -/
def EndsNumber (symbols : List Symbol) : Prop :=
  ∀ symbol ∈ symbols.head?, digit? symbol = none ∧
    symbol ≠ .char '.' ∧ symbol ≠ .char 'e' ∧ symbol ≠ .char 'E'

/-- A digit is read as its value. -/
theorem digit?_char {c : Char} (h : c.isDigit) : digit? (.char c) = some (c.toNat - '0'.toNat) :=
  if_pos h

/-- A run of digits is read up to its end. -/
theorem digitRun_append {digits : List Char} (hdigits : ∀ c ∈ digits, c.isDigit)
    {symbols : List Symbol} (h : EndsNumber symbols) :
    digitRun (digits.map .char ++ symbols) =
      (digits.map fun c => c.toNat - '0'.toNat, symbols) := by
  induction digits with
  | nil =>
    cases symbols with
    | nil => rfl
    | cons symbol rest => simp [digitRun, (h symbol rfl).1]
  | cons c digits ih =>
    rw [List.forall_mem_cons] at hdigits
    simp [digitRun, digit?_char hdigits.1, ih hdigits.2]

/-- The digits of a natural number. -/
def digitsOf (n : Nat) : List Nat := (Nat.toDigits 10 n).map fun c => c.toNat - '0'.toNat

/-- The digits of a number, by division with remainder. -/
theorem digitsOf_eq_if (n : Nat) :
    digitsOf n = if n < 10 then [n] else digitsOf (n / 10) ++ [n % 10] := by
  have hvalue : ∀ d < 10, (Nat.digitChar d).toNat - '0'.toNat = d := by decide
  rw [digitsOf, Nat.toDigits_eq_if (by decide)]
  split
  · next h => rw [List.map_singleton, hvalue n h]
  · rw [List.map_append, List.map_singleton, hvalue (n % 10) (by omega), digitsOf]

/-- A number has at least one digit. -/
theorem digitsOf_ne_nil (n : Nat) : digitsOf n ≠ [] :=
  fun h => Nat.toDigits_ne_nil (List.map_eq_nil_iff.1 h)

/-- The value of the digits of a number is the number. -/
theorem digitsValue_digitsOf (n : Nat) : digitsValue (digitsOf n) = n := by
  have h : Nat.ofDigitChars 10 (Nat.toDigits 10 n) 0 = n := Nat.ofDigitChars_ten_toDigits
  simpa only [digitsValue, digitsOf, List.foldl_map, Nat.ofDigitChars, Nat.mul_comm 10] using h

/-- Only zero is written with a zero in front. -/
theorem eq_zero_of_digitsOf {n : Nat} {digits : List Nat} (h : digitsOf n = 0 :: digits) :
    n = 0 := by
  induction n using Nat.strongRecOn generalizing digits with
  | _ n ih =>
    rw [digitsOf_eq_if] at h
    split at h
    · exact (List.cons.inj h).1
    · cases hfirst : digitsOf (n / 10) with
      | nil => exact absurd hfirst (digitsOf_ne_nil _)
      | cons d rest =>
        rw [hfirst] at h
        obtain ⟨rfl, -⟩ := List.cons.inj h
        have := ih (n / 10) (by omega) hfirst
        omega

/-- The digits of a number are read back, without a leading zero. -/
theorem wholeDigits_toDigits (n : Nat) {symbols : List Symbol} (h : EndsNumber symbols) :
    wholeDigits ((Nat.toDigits 10 n).map .char ++ symbols) = .ok (digitsOf n, symbols) := by
  have hrun : digitRun ((Nat.toDigits 10 n).map .char ++ symbols) = (digitsOf n, symbols) :=
    digitRun_append (fun c => Nat.isDigit_of_mem_toDigits (by decide) (by decide)) h
  have hsome : someDigits ((Nat.toDigits 10 n).map .char ++ symbols) =
      .ok (digitsOf n, symbols) := by
    unfold someDigits
    rw [hrun]
    split
    · next h => exact absurd (Prod.mk.inj h).1 (digitsOf_ne_nil n)
    · next h => exact absurd (Prod.mk.inj h).1 (digitsOf_ne_nil n)
    · next h => rw [h]
  refine bind_eq_ok_iff.2 ⟨_, hsome, ?_⟩
  dsimp only
  split
  · next hzero =>
    rw [eq_zero_of_digitsOf hzero] at hzero
    cases hzero
  · rfl

/-- A natural number of 64 bits is read as it was written, up to what does not go on with it. -/
theorem readNumber_toDigits (strict : Bool) {n : Nat} (hn : n ≤ maxNatural) {symbols : List Symbol}
    (h : EndsNumber symbols) :
    readNumber strict false ((Nat.toDigits 10 n).map .char ++ symbols) =
      .ok (some (.integer n), symbols) := by
  have hfraction : fractionDigits symbols = .ok ([], symbols) := by
    unfold fractionDigits
    split
    · exact absurd rfl (h _ rfl).2.1
    · rfl
  have hexponent : exponentDigits symbols = .ok (none, symbols) := by
    unfold exponentDigits
    split
    · next c rest =>
      obtain ⟨-, -, he, hE⟩ := h _ rfl
      rw [if_neg]
      simpa using And.intro he hE
    · rfl
  have hvalue : Numeral.value? { negative := false, whole := digitsOf n } = some (.integer n) := by
    simp [Numeral.value?, digitsValue_digitsOf, hn]
  refine bind_eq_ok_iff.2 ⟨_, wholeDigits_toDigits n h, bind_eq_ok_iff.2 ⟨_, hfraction,
    bind_eq_ok_iff.2 ⟨_, hexponent, ?_⟩⟩⟩
  simp [hvalue]

end Transcoding.Json
