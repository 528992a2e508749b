import Transcoding.Json.Record
import Transcoding.Proofs.Json.Literal

/-!
# Reading what was written

`Written` relates a text to the value that it is a form of, with blanks between its tokens. A
lenient reader finds the value again (`Written.readTreeOf_eq`). The text without blanks and the text
with one item to a line are forms (`written_compact`, `written_pretty`), if the numbers of the value
are natural numbers of 64 bits.
-/

namespace Transcoding.Json

open Transcoding.Text

/-! ## Written forms -/

/-- The blanks of JSON. -/
def isBlank (c : Char) : Bool := c == ' ' || c == '\t' || c == '\n' || c == '\r'

mutual
/-- The text is a form of the value. -/
inductive Written : List Char → Json → Prop
  | null : Written ['n', 'u', 'l', 'l'] .null
  | truth : Written ['t', 'r', 'u', 'e'] (.bool true)
  | falsehood : Written ['f', 'a', 'l', 's', 'e'] (.bool false)
  | natural {n : Nat} (h : n ≤ maxNatural) : Written (Nat.toDigits 10 n) (.ofNat n)
  | string (s : String) : Written (quoted s) (.string s)
  | emptyArray {blanks : List Char} (hblanks : blanks.all isBlank) :
      Written ('[' :: blanks ++ [']']) (.array [])
  | array {blanks first rest : List Char} {item : Json} {items : List Json}
      (hblanks : blanks.all isBlank) (hfirst : Written first item)
      (hrest : WrittenItems rest items) :
      Written ('[' :: blanks ++ first ++ rest) (.array (item :: items))
  | emptyObject {blanks : List Char} (hblanks : blanks.all isBlank) :
      Written ('\x7b' :: blanks ++ ['\x7d']) (.object [])
  | object {blanks first rest : List Char} {field : String × Json} {fields : List (String × Json)}
      (hblanks : blanks.all isBlank) (hfirst : WrittenField first field)
      (hrest : WrittenFields rest fields) :
      Written ('\x7b' :: blanks ++ first ++ rest) (.object (field :: fields))

/-- The text is a form of the items of an array after its first one, with the closing bracket. -/
inductive WrittenItems : List Char → List Json → Prop
  | nil {blanks : List Char} (hblanks : blanks.all isBlank) : WrittenItems (blanks ++ [']']) []
  | cons {before after first rest : List Char} {item : Json} {items : List Json}
      (hbefore : before.all isBlank) (hafter : after.all isBlank)
      (hfirst : Written first item) (hrest : WrittenItems rest items) :
      WrittenItems (before ++ ',' :: after ++ first ++ rest) (item :: items)

/-- The text is a form of a key, a colon and a value. -/
inductive WrittenField : List Char → String × Json → Prop
  | intro {before after text : List Char} {key : String} {value : Json}
      (hbefore : before.all isBlank) (hafter : after.all isBlank) (hvalue : Written text value) :
      WrittenField (quoted key ++ before ++ ':' :: after ++ text) (key, value)

/-- The text is a form of the fields of an object after its first one, with the closing brace. -/
inductive WrittenFields : List Char → List (String × Json) → Prop
  | nil {blanks : List Char} (hblanks : blanks.all isBlank) :
      WrittenFields (blanks ++ ['\x7d']) []
  | cons {before after first rest : List Char} {field : String × Json}
      {fields : List (String × Json)}
      (hbefore : before.all isBlank) (hafter : after.all isBlank)
      (hfirst : WrittenField first field) (hrest : WrittenFields rest fields) :
      WrittenFields (before ++ ',' :: after ++ first ++ rest) (field :: fields)
end

/-! ## Tokens -/

/-- Blanks before symbols are skipped. -/
theorem skipBlanks_append {blanks : List Char} (h : blanks.all isBlank) (symbols : List Symbol) :
    skipBlanks (blanks.map .char ++ symbols) = skipBlanks symbols := by
  induction blanks with
  | nil => rfl
  | cons c blanks ih =>
    obtain ⟨hc, hblanks⟩ := Bool.and_eq_true_iff.1 h
    exact (if_pos hc).trans (ih hblanks)

/-- A symbol that is not blank is not skipped. -/
theorem skipBlanks_cons {c : Char} (h : isBlank c = false) (symbols : List Symbol) :
    skipBlanks (.char c :: symbols) = .char c :: symbols :=
  if_neg (Bool.eq_false_iff.1 h)

/-- Blanks are skipped up to a symbol that is not blank. -/
theorem skipBlanks_token {blanks : List Char} (hblanks : blanks.all isBlank) {c : Char}
    (h : isBlank c = false) (symbols : List Symbol) :
    skipBlanks (blanks.map .char ++ .char c :: symbols) = .char c :: symbols := by
  rw [skipBlanks_append hblanks, skipBlanks_cons h]

/-- A digit is not blank. -/
theorem isBlank_of_isDigit {c : Char} (h : c.isDigit) : isBlank c = false := by
  rw [Bool.eq_false_iff]
  intro hblank
  simp only [isBlank, Bool.or_eq_true, beq_iff_eq] at hblank
  rcases hblank with ((rfl | rfl) | rfl) | rfl <;> cases h

/-- The text of a natural number starts with a digit. -/
theorem exists_toDigits_eq_cons (n : Nat) :
    ∃ c digits, Nat.toDigits 10 n = c :: digits ∧ c.isDigit := by
  obtain ⟨c, digits, h⟩ := List.exists_cons_of_ne_nil (Nat.toDigits_ne_nil (n := n) (b := 10))
  exact ⟨c, digits, h,
    Nat.isDigit_of_mem_toDigits (by decide) (by decide) (h ▸ List.mem_cons_self)⟩

/-- A value starts with a token that is not a closing bracket. -/
theorem Written.head {text : List Char} {value : Json} (h : Written text value) :
    ∃ c rest, text = c :: rest ∧ isBlank c = false ∧ c ≠ ']' := by
  cases h with
  | @natural n h =>
    obtain ⟨c, digits, htext, hdigit⟩ := exists_toDigits_eq_cons n
    refine ⟨c, digits, htext, isBlank_of_isDigit hdigit, ?_⟩
    rintro rfl
    cases hdigit
  | _ => exact ⟨_, _, rfl, by decide, by decide⟩

/-- The form of a field begins with a quote. -/
theorem WrittenField.head {text : List Char} {field : String × Json}
    (h : WrittenField text field) : ∃ rest, text = '"' :: rest := by
  cases h
  exact ⟨_, rfl⟩

/-- A number ends before a comma, a closing bracket or a blank. -/
theorem endsNumber_cons {c : Char} (h : c ∈ [',', ']', '\x7d', ' ', '\t', '\n', '\r'])
    (symbols : List Symbol) : EndsNumber (.char c :: symbols) := by
  rintro _ ⟨⟩
  simp only [List.mem_cons, List.not_mem_nil, or_false] at h
  rcases h with rfl | rfl | rfl | rfl | rfl | rfl | rfl <;> decide

/-- Blanks and a token that closes or goes on with a list end a number. -/
theorem endsNumber_token {blanks : List Char} (h : blanks.all isBlank) {c : Char}
    (hc : c ∈ [',', ']', '\x7d']) (symbols : List Symbol) :
    EndsNumber (blanks.map .char ++ .char c :: symbols) := by
  cases blanks with
  | nil => exact endsNumber_cons (List.mem_append_left [' ', '\t', '\n', '\r'] hc) symbols
  | cons d blanks =>
    obtain ⟨hd, -⟩ := Bool.and_eq_true_iff.1 h
    have hmem : d ∈ [' ', '\t', '\n', '\r'] := by simpa [isBlank, or_assoc] using hd
    exact endsNumber_cons (List.mem_append_right [',', ']', '\x7d'] hmem) _

/-- A number ends before the items that come after it. -/
theorem WrittenItems.endsNumber {text : List Char} {items : List Json} (h : WrittenItems text items)
    (symbols : List Symbol) : EndsNumber (text.map .char ++ symbols) := by
  cases h with
  | nil hblanks => simpa using endsNumber_token hblanks (by simp) symbols
  | cons hbefore => simpa using endsNumber_token hbefore (by simp) _

/-- A number ends before the fields that come after it. -/
theorem WrittenFields.endsNumber {text : List Char} {fields : List (String × Json)}
    (h : WrittenFields text fields) (symbols : List Symbol) :
    EndsNumber (text.map .char ++ symbols) := by
  cases h with
  | nil hblanks => simpa using endsNumber_token hblanks (by simp) symbols
  | cons hbefore => simpa using endsNumber_token hbefore (by simp) _

/-! ## Steps of the reader -/

section
variable {strict : Bool} {fuel depth : Nat} {blanks : List Char} {symbols rest rest' : List Symbol}

/-- Blanks before a value are skipped. -/
theorem readValue_blanks (h : blanks.all isBlank) :
    readValue strict fuel depth (blanks.map .char ++ symbols) =
      readValue strict fuel depth symbols := by
  cases fuel with
  | zero => rfl
  | succ fuel => simp only [readValue, skipBlanks_append h]

/-- Blanks before a field are skipped. -/
theorem readField_blanks (h : blanks.all isBlank) :
    readField strict fuel depth (blanks.map .char ++ symbols) =
      readField strict fuel depth symbols := by
  cases fuel with
  | zero => rfl
  | succ fuel => simp only [readField, skipBlanks_append h]

/-- The digits of a number are read as the number. -/
theorem readValue_natural {n : Nat} (h : n ≤ maxNatural) (hends : EndsNumber symbols) :
    readValue strict (fuel + 1) depth ((Nat.toDigits 10 n).map .char ++ symbols) =
      .ok (.number (some (.integer n)), symbols) := by
  have hnumber := readNumber_toDigits strict h hends
  obtain ⟨c, digits, htext, hdigit⟩ := exists_toDigits_eq_cons n
  rw [htext, List.map_cons, List.cons_append] at hnumber ⊢
  have hne : ∀ d : Char, d.isDigit = false → c ≠ d := by
    rintro d hd rfl
    cases hd.symm.trans hdigit
  have hrange : ('0' ≤ c && c ≤ '9') = true := hdigit
  rw [readValue, skipBlanks_cons (isBlank_of_isDigit hdigit)]
  simp [hne 'n' rfl, hne 't' rfl, hne 'f' rfl, hne '"' rfl, hne '-' rfl, hne '[' rfl,
    hne '\x7b' rfl, -Bool.and_eq_true, hrange, hnumber, Except.map]

/-- A quoted text is read as the text. -/
theorem readValue_string (s : String) :
    readValue strict (fuel + 1) depth ((quoted s).map .char ++ symbols) =
      .ok (.string (some s), symbols) := by
  have hstring := readString_quoted strict s symbols
  rw [quoted, List.cons_append, List.map_cons, List.cons_append, List.map_append, List.append_assoc,
    readValue, skipBlanks_cons (by decide)]
  simp only
  exact congrArg (Except.map _) hstring

/-- An array is read if its items are. -/
theorem readValue_array {items : List Tree}
    (h : readItems false fuel (depth + 1) symbols = .ok (items, rest)) :
    readValue false (fuel + 1) depth (.char '[' :: symbols) = .ok (.array items, rest) := by
  simp only [readValue, skipBlanks_cons (c := '[') (by decide)]
  simp [h, Except.map]

/-- An object is read if its fields are. -/
theorem readValue_object {fields : List (Option String × Tree)}
    (h : readFields false fuel (depth + 1) symbols = .ok (fields, rest)) :
    readValue false (fuel + 1) depth (.char '\x7b' :: symbols) = .ok (.object fields, rest) := by
  simp only [readValue, skipBlanks_cons (c := '\x7b') (by decide)]
  simp [h, Except.map]

/-- A closing bracket ends an array without items. -/
theorem readItems_nil (hblanks : blanks.all isBlank) :
    readItems strict (fuel + 1) depth (blanks.map .char ++ .char ']' :: symbols) =
      .ok ([], symbols) := by
  simp only [readItems, skipBlanks_token hblanks (c := ']') (by decide)]

/-- The items of an array are its first one and those after commas. -/
theorem readItems_cons {c : Char} (hblanks : blanks.all isBlank) (htoken : isBlank c = false)
    (hclose : c ≠ ']') {item : Tree} {items : List Tree}
    (hitem : readValue strict fuel depth (.char c :: symbols) = .ok (item, rest))
    (hitems : readMoreItems strict fuel depth rest = .ok (items, rest')) :
    readItems strict (fuel + 1) depth (blanks.map .char ++ .char c :: symbols) =
      .ok (item :: items, rest') := by
  simp only [readItems, skipBlanks_token hblanks htoken]
  split
  · next h => cases h
  · next h =>
    cases h
    exact absurd rfl hclose
  · exact bind_eq_ok_iff.2 ⟨_, hitem, bind_eq_ok_iff.2 ⟨_, hitems, rfl⟩⟩

/-- A closing bracket ends an array. -/
theorem readMoreItems_nil (hblanks : blanks.all isBlank) :
    readMoreItems strict (fuel + 1) depth (blanks.map .char ++ .char ']' :: symbols) =
      .ok ([], symbols) := by
  simp only [readMoreItems, skipBlanks_token hblanks (c := ']') (by decide)]

/-- An item after a comma comes before those that follow it. -/
theorem readMoreItems_cons (hblanks : blanks.all isBlank) {item : Tree} {items : List Tree}
    (hitem : readValue strict fuel depth symbols = .ok (item, rest))
    (hitems : readMoreItems strict fuel depth rest = .ok (items, rest')) :
    readMoreItems strict (fuel + 1) depth (blanks.map .char ++ .char ',' :: symbols) =
      .ok (item :: items, rest') := by
  simp only [readMoreItems, skipBlanks_token hblanks (c := ',') (by decide)]
  exact bind_eq_ok_iff.2 ⟨_, hitem, bind_eq_ok_iff.2 ⟨_, hitems, rfl⟩⟩

/-- A closing brace ends an object without fields. -/
theorem readFields_nil (hblanks : blanks.all isBlank) :
    readFields strict (fuel + 1) depth (blanks.map .char ++ .char '\x7d' :: symbols) =
      .ok ([], symbols) := by
  simp only [readFields, skipBlanks_token hblanks (c := '\x7d') (by decide)]

/-- The fields of an object are its first one and those after commas. -/
theorem readFields_cons (hblanks : blanks.all isBlank) {field : Option String × Tree}
    {fields : List (Option String × Tree)}
    (hfield : readField strict fuel depth (.char '"' :: symbols) = .ok (field, rest))
    (hfields : readMoreFields strict fuel depth rest = .ok (fields, rest')) :
    readFields strict (fuel + 1) depth (blanks.map .char ++ .char '"' :: symbols) =
      .ok (field :: fields, rest') := by
  simp only [readFields, skipBlanks_token hblanks (c := '"') (by decide)]
  exact bind_eq_ok_iff.2 ⟨_, hfield, bind_eq_ok_iff.2 ⟨_, hfields, rfl⟩⟩

/-- A closing brace ends an object. -/
theorem readMoreFields_nil (hblanks : blanks.all isBlank) :
    readMoreFields strict (fuel + 1) depth (blanks.map .char ++ .char '\x7d' :: symbols) =
      .ok ([], symbols) := by
  simp only [readMoreFields, skipBlanks_token hblanks (c := '\x7d') (by decide)]

/-- A field after a comma comes before those that follow it. -/
theorem readMoreFields_cons (hblanks : blanks.all isBlank) {field : Option String × Tree}
    {fields : List (Option String × Tree)}
    (hfield : readField strict fuel depth symbols = .ok (field, rest))
    (hfields : readMoreFields strict fuel depth rest = .ok (fields, rest')) :
    readMoreFields strict (fuel + 1) depth (blanks.map .char ++ .char ',' :: symbols) =
      .ok (field :: fields, rest') := by
  simp only [readMoreFields, skipBlanks_token hblanks (c := ',') (by decide)]
  exact bind_eq_ok_iff.2 ⟨_, hfield, bind_eq_ok_iff.2 ⟨_, hfields, rfl⟩⟩

/-- A field is read from its quoted key, a colon and its value. -/
theorem readField_quoted (key : String) (hblanks : blanks.all isBlank) {value : Tree}
    (hvalue : readValue strict fuel depth symbols = .ok (value, rest)) :
    readField strict (fuel + 1) depth
        ((quoted key).map .char ++ (blanks.map .char ++ .char ':' :: symbols)) =
      .ok ((some key, value), rest) := by
  have hkey := readString_quoted strict key (blanks.map .char ++ .char ':' :: symbols)
  rw [quoted, List.cons_append, List.map_cons, List.cons_append, List.map_append, List.append_assoc,
    readField, skipBlanks_cons (by decide)]
  refine bind_eq_ok_iff.2 ⟨_, hkey, ?_⟩
  simp only [skipBlanks_token hblanks (c := ':') (by decide)]
  exact bind_eq_ok_iff.2 ⟨_, hvalue, rfl⟩

end

/-! ## Reading -/

mutual
/-- A value is read as it was written, with two steps for each character. -/
theorem Written.readValue_eq {text : List Char} {value : Json} (h : Written text value) (fuel : Nat)
    (hfuel : 2 * text.length ≤ fuel) (depth : Nat) {symbols : List Symbol}
    (hends : EndsNumber symbols) :
    readValue false fuel depth (text.map .char ++ symbols) = .ok (.ofValue value, symbols) := by
  obtain ⟨_, _, htext, -, -⟩ := h.head
  obtain ⟨fuel, rfl⟩ : ∃ n, fuel = n + 2 :=
    ⟨fuel - 2, by rw [htext, List.length_cons] at hfuel; omega⟩
  clear htext
  cases h with
  | null => rfl
  | truth => rfl
  | falsehood => rfl
  | natural h => exact readValue_natural h hends
  | string s => exact readValue_string s
  | emptyArray hblanks =>
    rw [List.cons_append, List.map_cons, List.map_append, List.cons_append, List.append_assoc]
    exact readValue_array (readItems_nil hblanks)
  | array hblanks hfirst hrest =>
    simp only [List.length_append, List.length_cons] at hfuel
    have hitem := hfirst.readValue_eq fuel (by omega) (depth + 1)
      (hrest.endsNumber symbols)
    have hitems := hrest.readMoreItems_eq fuel (by omega) (depth + 1) symbols
    obtain ⟨c, tail, rfl, htoken, hclose⟩ := hfirst.head
    simp only [List.map_append, List.map_cons, List.cons_append, List.append_assoc] at hitem ⊢
    exact readValue_array (readItems_cons hblanks htoken hclose hitem hitems)
  | emptyObject hblanks =>
    rw [List.cons_append, List.map_cons, List.map_append, List.cons_append, List.append_assoc]
    exact readValue_object (readFields_nil hblanks)
  | object hblanks hfirst hrest =>
    simp only [List.length_append, List.length_cons] at hfuel
    have hfield := hfirst.readField_eq fuel (by omega) (depth + 1)
      (hrest.endsNumber symbols)
    have hfields := hrest.readMoreFields_eq fuel (by omega) (depth + 1) symbols
    obtain ⟨tail, rfl⟩ := hfirst.head
    simp only [List.map_append, List.map_cons, List.cons_append, List.append_assoc] at hfield ⊢
    exact readValue_object (readFields_cons hblanks hfield hfields)

/-- The items of an array after its first one are read back from each form of them. -/
theorem WrittenItems.readMoreItems_eq {text : List Char} {items : List Json}
    (h : WrittenItems text items) (fuel : Nat) (hfuel : 2 * text.length ≤ fuel) (depth : Nat)
    (symbols : List Symbol) :
    readMoreItems false fuel depth (text.map .char ++ symbols) =
      .ok (Tree.ofValues items, symbols) := by
  cases h with
  | nil hblanks =>
    obtain ⟨fuel, rfl⟩ : ∃ n, fuel = n + 1 := ⟨fuel - 1, by simp at hfuel; omega⟩
    rw [List.map_append, List.append_assoc]
    exact readMoreItems_nil hblanks
  | cons hbefore hafter hfirst hrest =>
    simp only [List.length_append, List.length_cons] at hfuel
    obtain ⟨fuel, rfl⟩ : ∃ n, fuel = n + 1 := ⟨fuel - 1, by omega⟩
    have hitem := hfirst.readValue_eq fuel (by omega) depth (hrest.endsNumber symbols)
    have hitems := hrest.readMoreItems_eq fuel (by omega) depth symbols
    simp only [List.map_append, List.map_cons, List.cons_append, List.append_assoc]
    exact readMoreItems_cons hbefore ((readValue_blanks hafter).trans hitem) hitems

/-- A field is read back from each form of it. -/
theorem WrittenField.readField_eq {text : List Char} {field : String × Json}
    (h : WrittenField text field) (fuel : Nat) (hfuel : 2 * text.length ≤ fuel) (depth : Nat)
    {symbols : List Symbol} (hends : EndsNumber symbols) :
    readField false fuel depth (text.map .char ++ symbols) =
      .ok ((some field.1, .ofValue field.2), symbols) := by
  cases h with
  | @intro before after text key value hbefore hafter hvalue =>
    simp only [List.length_append, List.length_cons] at hfuel
    obtain ⟨fuel, rfl⟩ : ∃ n, fuel = n + 1 := ⟨fuel - 1, by omega⟩
    have hread := hvalue.readValue_eq fuel (by omega) depth hends
    simp only [List.map_append, List.map_cons, List.cons_append, List.append_assoc]
    exact readField_quoted key hbefore ((readValue_blanks hafter).trans hread)

/-- The fields of an object after its first one are read back from each form of them. -/
theorem WrittenFields.readMoreFields_eq {text : List Char} {fields : List (String × Json)}
    (h : WrittenFields text fields) (fuel : Nat) (hfuel : 2 * text.length ≤ fuel) (depth : Nat)
    (symbols : List Symbol) :
    readMoreFields false fuel depth (text.map .char ++ symbols) =
      .ok (Tree.ofFields fields, symbols) := by
  cases h with
  | nil hblanks =>
    obtain ⟨fuel, rfl⟩ : ∃ n, fuel = n + 1 := ⟨fuel - 1, by simp at hfuel; omega⟩
    rw [List.map_append, List.append_assoc]
    exact readMoreFields_nil hblanks
  | cons hbefore hafter hfirst hrest =>
    simp only [List.length_append, List.length_cons] at hfuel
    obtain ⟨fuel, rfl⟩ : ∃ n, fuel = n + 1 := ⟨fuel - 1, by omega⟩
    have hfield := hfirst.readField_eq fuel (by omega) depth (hrest.endsNumber symbols)
    have hfields := hrest.readMoreFields_eq fuel (by omega) depth symbols
    simp only [List.map_append, List.map_cons, List.cons_append, List.append_assoc]
    exact readMoreFields_cons hbefore ((readField_blanks hafter).trans hfield) hfields
end

/-- A written text is read as the tree of its value. -/
theorem Written.readTreeOf_eq {text : String} {value : Json} (h : Written text.toList value) :
    readTreeOf text = .ok (.ofValue value) := by
  have hends : EndsNumber [] := nofun
  have hread := h.readValue_eq (4 * (text.toList.map Symbol.char).length + 4)
    (by rw [List.length_map]; omega) 0 hends
  rw [List.append_nil] at hread
  exact bind_eq_ok_iff.2 ⟨_, hread, rfl⟩

/-! ## Writing -/

mutual
/-- The numbers of the value are natural numbers of 64 bits. -/
def Exact : Json → Prop
  | .number (.integer (.ofNat n)) => n ≤ maxNatural
  | .number _ => False
  | .array items => ExactItems items
  | .object fields => ExactFields fields
  | _ => True

/-- `Exact` over the items of an array. -/
def ExactItems : List Json → Prop
  | [] => True
  | item :: rest => Exact item ∧ ExactItems rest

/-- `Exact` over the fields of an object. -/
def ExactFields : List (String × Json) → Prop
  | [] => True
  | (_, value) :: rest => Exact value ∧ ExactFields rest
end

/-- Items are exact if each of them is. -/
theorem exactItems_iff {items : List Json} : ExactItems items ↔ ∀ item ∈ items, Exact item := by
  induction items with
  | nil => simp [ExactItems]
  | cons item items ih => simp [ExactItems, ih]

/-- A key, a colon and a form of a value are a form of the field. -/
theorem Written.field {text : List Char} {value : Json} (h : Written text value) (key : String) :
    WrittenField (quoted key ++ ':' :: text) (key, value) := by
  have hfield : WrittenField (quoted key ++ [] ++ ':' :: [] ++ text) (key, value) :=
    .intro rfl rfl h
  simpa using hfield

mutual
/-- The text without blanks is a form of the value. -/
theorem written_compact : (value : Json) → Exact value → Written (compact value) value
  | .null, _ => .null
  | .bool true, _ => .truth
  | .bool false, _ => .falsehood
  | .number (.integer (.ofNat _)), h => .natural h
  | .string s, _ => .string s
  | .array [], _ => @Written.emptyArray [] rfl
  | .array (item :: items), h =>
    @Written.array [] _ _ _ _ rfl (written_compact item h.1) (writtenItems_compact items h.2)
  | .object [], _ => @Written.emptyObject [] rfl
  | .object ((key, value) :: fields), h =>
    @Written.object [] _ _ _ _ rfl ((written_compact value h.1).field key)
      (writtenFields_compact fields h.2)

/-- Items without blanks are a form of the items. -/
theorem writtenItems_compact : (items : List Json) → ExactItems items →
    WrittenItems (compactItems items) items
  | [], _ => @WrittenItems.nil [] rfl
  | item :: items, h =>
    @WrittenItems.cons [] [] _ _ _ _ rfl rfl (written_compact item h.1)
      (writtenItems_compact items h.2)

/-- Fields without blanks are a form of the fields. -/
theorem writtenFields_compact : (fields : List (String × Json)) → ExactFields fields →
    WrittenFields (compactFields fields) fields
  | [], _ => @WrittenFields.nil [] rfl
  | (key, value) :: fields, h =>
    @WrittenFields.cons [] [] _ _ _ _ rfl rfl ((written_compact value h.1).field key)
      (writtenFields_compact fields h.2)
end

/-- A line feed and its indentation are blank. -/
theorem all_isBlank_newline (depth : Nat) : (newline depth).all isBlank := by
  rw [newline, List.all_cons, List.all_replicate]
  split <;> rfl

/-- A key, a colon with a blank after it and a form of a value are a form of the field. -/
theorem Written.prettyField {text : List Char} {value : Json} (h : Written text value)
    (key : String) : WrittenField (quoted key ++ [':', ' '] ++ text) (key, value) := by
  have hfield : WrittenField (quoted key ++ [] ++ ':' :: [' '] ++ text) (key, value) :=
    .intro rfl rfl h
  simpa using hfield

mutual
/-- The text with one item to a line is a form of the value. -/
theorem written_pretty (depth : Nat) :
    (value : Json) → Exact value → Written (prettyAt depth value) value
  | .null, _ => .null
  | .bool true, _ => .truth
  | .bool false, _ => .falsehood
  | .number (.integer (.ofNat _)), h => .natural h
  | .string s, _ => .string s
  | .array [], _ => @Written.emptyArray [] rfl
  | .array (item :: items), h =>
    .array (all_isBlank_newline (depth + 1)) (written_pretty (depth + 1) item h.1)
      (writtenItems_pretty depth items h.2)
  | .object [], _ => @Written.emptyObject [] rfl
  | .object ((key, value) :: fields), h => by
    have hwritten := Written.object (all_isBlank_newline (depth + 1))
      ((written_pretty (depth + 1) value h.1).prettyField key)
      (writtenFields_pretty depth fields h.2)
    simpa [prettyAt] using hwritten

/-- Items on lines of their own are a form of the items. -/
theorem writtenItems_pretty (depth : Nat) : (items : List Json) → ExactItems items →
    WrittenItems (prettyItems depth items) items
  | [], _ => .nil (all_isBlank_newline depth)
  | item :: items, h =>
    @WrittenItems.cons [] _ _ _ _ _ rfl (all_isBlank_newline (depth + 1))
      (written_pretty (depth + 1) item h.1) (writtenItems_pretty depth items h.2)

/-- Fields on lines of their own are a form of the fields. -/
theorem writtenFields_pretty (depth : Nat) : (fields : List (String × Json)) →
    ExactFields fields → WrittenFields (prettyFields depth fields) fields
  | [], _ => .nil (all_isBlank_newline depth)
  | (key, value) :: fields, h => by
    have hwritten := @WrittenFields.cons [] _ _ _ _ _ rfl (all_isBlank_newline (depth + 1))
      ((written_pretty (depth + 1) value h.1).prettyField key)
      (writtenFields_pretty depth fields h.2)
    simpa [prettyFields] using hwritten
end

/-- A value is read back from its text. -/
theorem readTreeOf_render {value : Json} (h : Exact value) :
    readTreeOf value.render = .ok (.ofValue value) := by
  refine Written.readTreeOf_eq ?_
  rw [render, String.toList_ofList]
  exact written_compact value h

end Transcoding.Json
