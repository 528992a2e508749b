import Transcoding.Text.Utf8
import Mathlib.Data.String.Basic
import Mathlib.Tactic.IntervalCases

/-!
# Texts and their octets

The decoder finds each character again in the octets that encode it (`decodeFrom_utf8EncodeChar`),
so a text is read back from its octets (`ofOctets?_toOctets`). What the first octet of a character
demands of the second one rules out longer forms than needed and halves of surrogate pairs, and no
character has such a form. An octet below 0x80 is a whole character (`eq_of_mem_utf8EncodeChar`).
The octets of texts are in the order of the texts (`toOctets_lt_iff`).
-/

namespace Transcoding.Text

/-! ## Octets after the first one -/

/-- The octet that carries the last six bits of a number after the first octet of a character. -/
def following (n : Nat) : UInt8 := UInt8.ofNat (n % 64 + 128)

/-- Six bits with the mark of a following octet stay in the range of following octets. -/
theorem mod_add_le (n : Nat) : n % 64 + 128 ≤ 0xBF := by omega

/-- The value of a following octet. -/
theorem toNat_following (n : Nat) : (following n).toNat = n % 64 + 128 := by
  rw [following, UInt8.toNat_ofNat_of_lt']
  exact Nat.lt_of_le_of_lt (mod_add_le n) (by decide)

section
variable {p : PendingChar} {n : Nat}

/-- The last octet completes the character. -/
theorem decodeFrom_last (hmissing : p.missing = 1) (hlow : p.low.toNat ≤ n % 64 + 128)
    (hhigh : n % 64 + 128 ≤ p.high.toNat) (octets : List UInt8) :
    decodeFrom (some p) (following n :: octets) =
      .char (Char.ofNat (p.bits * 64 + n % 64)) :: decodeFrom none octets := by
  have hbits : (n + 128) % 64 = n % 64 := by omega
  simp [decodeFrom, decodeStep, UInt8.le_iff_toNat_le, toNat_following, hlow, hhigh, hmissing,
    hbits]

/-- An octet before the last one adds its bits. -/
theorem decodeFrom_more {missing : Nat} (hmissing : p.missing = missing + 2)
    (hlow : p.low.toNat ≤ n % 64 + 128) (hhigh : n % 64 + 128 ≤ p.high.toNat)
    (octets : List UInt8) :
    decodeFrom (some p) (following n :: octets) =
      decodeFrom (some {
        octets := p.octets ++ [following n], bits := p.bits * 64 + n % 64
        missing := missing + 1, low := 0x80, high := 0xBF }) octets := by
  have hbits : (n + 128) % 64 = n % 64 := by omega
  simp [decodeFrom, decodeStep, UInt8.le_iff_toNat_le, toNat_following, hlow, hhigh, hmissing,
    hbits]

/-- The first octet of a character of two octets. -/
theorem startChar_two (h : 2 ≤ n) (h' : n < 32) :
    startChar (UInt8.ofNat (n + 192)) = .inr {
      octets := [UInt8.ofNat (n + 192)], bits := n, missing := 1, low := 0x80, high := 0xBF } := by
  interval_cases n <;> rfl

/-- The first octet of a character of three octets. -/
theorem startChar_three (h : n < 16) :
    startChar (UInt8.ofNat (n + 224)) = .inr {
      octets := [UInt8.ofNat (n + 224)], bits := n, missing := 2
      low := if n = 0 then 0xA0 else 0x80, high := if n = 13 then 0x9F else 0xBF } := by
  interval_cases n <;> rfl

/-- The first octet of a character of four octets. -/
theorem startChar_four (h : n < 5) :
    startChar (UInt8.ofNat (n + 240)) = .inr {
      octets := [UInt8.ofNat (n + 240)], bits := n, missing := 3
      low := if n = 0 then 0x90 else 0x80, high := if n = 4 then 0x8F else 0xBF } := by
  interval_cases n <;> rfl

/-- The first octet of a longer character is kept until the others are read. -/
theorem decodeFrom_start {b : UInt8} (h : startChar b = .inr p) (octets : List UInt8) :
    decodeFrom none (b :: octets) = decodeFrom (some p) octets := by
  simp [decodeFrom, decodeStep, h]

end

/-! ## Characters of one to four octets -/

section
variable {v : Nat}

/-- A character of one octet is decoded. -/
theorem decodeFrom_one (h : v ≤ 0x7F) (octets : List UInt8) :
    decodeFrom none (UInt8.ofNat v :: octets) =
      .char (Char.ofNat v) :: decodeFrom none octets := by
  have hv : (UInt8.ofNat v).toNat = v := UInt8.toNat_ofNat_of_lt' (show v < 256 by omega)
  have hstart : startChar (UInt8.ofNat v) = .inl (.char (Char.ofNat v)) := by
    unfold startChar
    rw [if_pos (UInt8.lt_iff_toNat_lt.2 (by rw [hv]; exact Nat.lt_succ_of_le h)), hv]
  simp [decodeFrom, decodeStep, hstart]

/-- A character of two octets is decoded. -/
theorem decodeFrom_two (h : 0x7F < v) (h' : v ≤ 0x7FF) (octets : List UInt8) :
    decodeFrom none (UInt8.ofNat (v / 64 % 32 + 192) :: following v :: octets) =
      .char (Char.ofNat v) :: decodeFrom none octets := by
  rw [decodeFrom_start (startChar_two (by omega) (by omega)),
    decodeFrom_last rfl (Nat.le_add_left 0x80 _) (mod_add_le _)]
  dsimp only
  congr
  omega

/-- A character of three octets is decoded. -/
theorem decodeFrom_three (h : 0x7FF < v) (h' : v ≤ 0xFFFF) (hscalar : v < 0xD800 ∨ 0xDFFF < v)
    (octets : List UInt8) :
    decodeFrom none
        (UInt8.ofNat (v / 4096 % 16 + 224) :: following (v / 64) :: following v :: octets) =
      .char (Char.ofNat v) :: decodeFrom none octets := by
  have hlow : (if v / 4096 % 16 = 0 then 0xA0 else 0x80 : UInt8).toNat ≤ v / 64 % 64 + 128 := by
    split
    · show 0xA0 ≤ v / 64 % 64 + 128
      omega
    · exact Nat.le_add_left 0x80 _
  have hhigh : v / 64 % 64 + 128 ≤ (if v / 4096 % 16 = 13 then 0x9F else 0xBF : UInt8).toNat := by
    split
    · show v / 64 % 64 + 128 ≤ 0x9F
      omega
    · exact mod_add_le _
  rw [decodeFrom_start (startChar_three (by omega)), decodeFrom_more rfl hlow hhigh,
    decodeFrom_last rfl (Nat.le_add_left 0x80 _) (mod_add_le _)]
  dsimp only
  congr
  omega

/-- A character of four octets is decoded. -/
theorem decodeFrom_four (h : 0xFFFF < v) (h' : v < 0x110000) (octets : List UInt8) :
    decodeFrom none
        (UInt8.ofNat (v / 262144 % 8 + 240) :: following (v / 4096) :: following (v / 64) ::
          following v :: octets) =
      .char (Char.ofNat v) :: decodeFrom none octets := by
  have hlow : (if v / 262144 % 8 = 0 then 0x90 else 0x80 : UInt8).toNat ≤ v / 4096 % 64 + 128 := by
    split
    · show 0x90 ≤ v / 4096 % 64 + 128
      omega
    · exact Nat.le_add_left 0x80 _
  have hhigh : v / 4096 % 64 + 128 ≤ (if v / 262144 % 8 = 4 then 0x8F else 0xBF : UInt8).toNat := by
    split
    · show v / 4096 % 64 + 128 ≤ 0x8F
      omega
    · exact mod_add_le _
  rw [decodeFrom_start (startChar_four (by omega)), decodeFrom_more rfl hlow hhigh,
    decodeFrom_more rfl (Nat.le_add_left 0x80 _) (mod_add_le _),
    decodeFrom_last rfl (Nat.le_add_left 0x80 _) (mod_add_le _)]
  dsimp only
  congr
  omega

end

/-- A character is found again in its octets. -/
theorem decodeFrom_utf8EncodeChar (c : Char) (octets : List UInt8) :
    decodeFrom none (String.utf8EncodeChar c ++ octets) = .char c :: decodeFrom none octets := by
  have hvalid : c.toNat < 0xD800 ∨ 0xDFFF < c.toNat ∧ c.toNat < 0x110000 := c.valid
  have hchar : Char.ofNat c.val.toNat = c := Char.ofNat_toNat c
  change c.val.toNat < 0xD800 ∨ 0xDFFF < c.val.toNat ∧ c.val.toNat < 0x110000 at hvalid
  rw [String.utf8EncodeChar]
  split
  · next h => exact (decodeFrom_one h octets).trans (by rw [hchar])
  · split
    · next h h' => exact (decodeFrom_two (by omega) h' octets).trans (by rw [hchar])
    · split
      · next h h' => exact (decodeFrom_three (by omega) h' (by omega) octets).trans (by rw [hchar])
      · exact (decodeFrom_four (by omega) (by omega) octets).trans (by rw [hchar])

/-- A text is found again in its octets. -/
theorem ofOctets?_toOctets (text : List Char) :
    ofOctets? (toOctets text) = some (String.ofList text) := by
  have hdecode : decodeOctets (toOctets text) = text.map .char := by
    induction text with
    | nil => rfl
    | cons c text ih => exact (decodeFrom_utf8EncodeChar c _).trans (congrArg (.char c :: ·) ih)
  have hchars : charsOf? (text.map .char) = some text := by
    clear hdecode
    induction text with
    | nil => rfl
    | cons c text ih => rw [List.map_cons, charsOf?, ih, Option.map_some]
  rw [ofOctets?, hdecode, hchars, Option.map_some]

/-! ## Octets of a text -/

/-- The octets of two texts are those of the first and those of the second. -/
theorem toOctets_append (text text' : List Char) :
    toOctets (text ++ text') = toOctets text ++ toOctets text' := List.flatMap_append

/-- The octets of a text are those of each character. -/
theorem toOctets_cons (c : Char) (text : List Char) :
    toOctets (c :: text) = String.utf8EncodeChar c ++ toOctets text := List.flatMap_cons

/-- A text has the octets of its first character and those of the rest. -/
theorem length_toOctets_cons (c : Char) (text : List Char) :
    (toOctets (c :: text)).length = c.utf8Size + (toOctets text).length := by
  rw [toOctets_cons, List.length_append, String.length_utf8EncodeChar]

/-- The size of a text is the number of its octets. -/
theorem length_toOctets (text : String) : (toOctets text.toList).length = text.utf8ByteSize := by
  have h : text.toByteArray = (toOctets text.toList).toByteArray := by
    conv_lhs => rw [← String.ofList_toList (s := text), String.toByteArray_ofList]
    rfl
  rw [← String.size_toByteArray, h, List.size_toByteArray]

/-- An octet of a character is the character itself, or it is not an ASCII character. -/
theorem toNat_of_mem_utf8EncodeChar {c : Char} {b : UInt8} (h : b ∈ String.utf8EncodeChar c) :
    b.toNat = c.toNat ∨ 0x80 ≤ b.toNat := by
  have hhigh {n : Nat} (hlow : 0x80 ≤ n) (hlt : n < 256) : 0x80 ≤ (UInt8.ofNat n).toNat := by
    rwa [UInt8.toNat_ofNat_of_lt' hlt]
  rw [String.utf8EncodeChar] at h
  split at h
  · next hsmall =>
    rw [List.mem_singleton.1 h]
    exact .inl (UInt8.toNat_ofNat_of_lt' (Nat.lt_of_le_of_lt hsmall (by decide)))
  · right
    split at h
    · simp only [List.mem_cons, List.not_mem_nil, or_false] at h
      rcases h with rfl | rfl
      all_goals exact hhigh (by omega) (by omega)
    · split at h
      · simp only [List.mem_cons, List.not_mem_nil, or_false] at h
        rcases h with rfl | rfl | rfl
        all_goals exact hhigh (by omega) (by omega)
      · simp only [List.mem_cons, List.not_mem_nil, or_false] at h
        rcases h with rfl | rfl | rfl | rfl
        all_goals exact hhigh (by omega) (by omega)

/-- An octet that is an ASCII character stands for nothing else. -/
theorem eq_of_mem_utf8EncodeChar {c d : Char} {b : UInt8} (h : b ∈ String.utf8EncodeChar c)
    (hb : b.toNat = d.toNat) (hd : d.toNat < 0x80) : c = d := by
  rcases toNat_of_mem_utf8EncodeChar h with hc | hhigh
  · rw [← Char.ofNat_toNat c, ← hc, hb, Char.ofNat_toNat]
  · omega

/-! ## The order of octets -/

/-- Of two characters the lesser one has the lesser octets, whatever follows them. -/
theorem utf8EncodeChar_append_lt {c d : Char} (h : c < d) (octets octets' : List UInt8) :
    String.utf8EncodeChar c ++ octets < String.utf8EncodeChar d ++ octets' := by
  have hlt : c.val.toNat < d.val.toNat := h
  have hvalid : d.val.toNat < 0xD800 ∨ 0xDFFF < d.val.toNat ∧ d.val.toNat < 0x110000 := d.valid
  unfold String.utf8EncodeChar
  dsimp only
  generalize c.val.toNat = v at *
  generalize d.val.toNat = w at *
  by_cases hfour : 0xFFFF < v
  · rw [if_neg (by omega), if_neg (by omega), if_neg (by omega), if_neg (by omega),
      if_neg (by omega), if_neg (by omega)]
    simp only [List.cons_append, List.nil_append, List.cons_lt_cons_iff, UInt8.lt_iff_toNat_lt,
      ← UInt8.toNat_inj, UInt8.toNat_ofNat']
    -- Four octets each: the first group of bits that differs decides.
    have hfirst : v / 262144 < w / 262144 ∨ v / 262144 = w / 262144 := by omega
    have hsecond : v / 4096 < w / 4096 ∨ v / 4096 = w / 4096 := by omega
    have hthird : v / 64 < w / 64 ∨ v / 64 = w / 64 := by omega
    rcases hfirst with hfirst | hfirst
    · exact .inl (by omega)
    rcases hsecond with hsecond | hsecond
    · omega
    rcases hthird with hthird | hthird
    · omega
    · omega
  · split_ifs <;>
      simp only [List.cons_append, List.nil_append, List.cons_lt_cons_iff, UInt8.lt_iff_toNat_lt,
        ← UInt8.toNat_inj, UInt8.toNat_ofNat'] <;> omega

/-- A text that comes before another one comes before it in octets. -/
theorem toOctets_lt {text text' : List Char} (h : text < text') :
    toOctets text < toOctets text' := by
  induction text generalizing text' with
  | nil =>
    cases text' with
    | nil => exact absurd h (List.lt_irrefl _)
    | cons c text' =>
      have hne : toOctets (c :: text') ≠ [] := by simp [toOctets_cons]
      obtain ⟨b, octets, hoctets⟩ := List.exists_cons_of_ne_nil hne
      rw [hoctets]
      exact List.nil_lt_cons b octets
  | cons c text ih =>
    cases text' with
    | nil => cases h
    | cons d text' =>
      rw [toOctets_cons, toOctets_cons]
      rcases List.cons_lt_cons_iff.1 h with hlt | ⟨rfl, hrest⟩
      · exact utf8EncodeChar_append_lt hlt _ _
      · exact List.append_left_lt (ih hrest)

/-- Texts are in the order of their octets. -/
theorem toOctets_lt_iff {text text' : List Char} :
    toOctets text < toOctets text' ↔ text < text' := by
  refine ⟨fun h => ?_, toOctets_lt⟩
  rcases lt_trichotomy text text' with hlt | rfl | hgt
  · exact hlt
  · exact absurd h (List.lt_irrefl _)
  · exact absurd h (List.lt_asymm (toOctets_lt hgt))

end Transcoding.Text
