import Transcoding.Adapter.Document
import Transcoding.Text.Word
import Mathlib.Data.List.Forall2

/-!
# The document as tokens

How the text of a document is read: comments and blanks are passed over, a string literal stands for
the text that its escapes spell, and the rest is words and signs. The reader is a machine that takes
one character at a time (`Mode.step`), so that a text can be read piece by piece (`Lexes.append`).

Two pieces matter to a document. A quoted text is read back as the text (`lexes_quote`), whatever
characters are in it. A line comment is passed over if no line feed is in it
(`lexes_lineComment`); what comes after a line feed is read (`lexes_lineComment_iff`).
-/

namespace Transcoding.Source

open Transcoding.Text

/-! ## The machine -/

/-- What a text consists of besides comments and blanks. -/
inductive Token where
  /-- A name, a keyword or a number. -/
  | word (letters : String)
  /-- A string literal, by the text that it stands for. -/
  | text (content : String)
  /-- Any other character. -/
  | sign (c : Char)
  deriving DecidableEq

/-- Where the reader is. -/
inductive Mode where
  /-- Outside of comments and literals, in a word if there are letters. -/
  | plain (letters : List Char)
  /-- After a slash that may open a comment. -/
  | slash
  | lineComment
  /-- In a block comment, inside of `depth` others. -/
  | blockComment (depth : Nat)
  /-- After a slash in a block comment. -/
  | blockSlash (depth : Nat)
  /-- After a star in a block comment. -/
  | blockStar (depth : Nat)
  /-- In a literal, of which the content has been read. -/
  | literal (content : List Char)
  /-- After a backslash in a literal. -/
  | escape (content : List Char)
  /-- In a literal, before the brace that opens a code point. -/
  | beforeCodePoint (content : List Char)
  /-- In a code point of a literal, of which some digits have been read. -/
  | codePoint (content : List Char) (value digits : Nat)
  deriving DecidableEq

/-- The word that ends, if there is one. -/
def endWord (letters : List Char) : List Token :=
  if letters.isEmpty then [] else [.word (String.ofList letters)]

/-- The character that an escape of one letter or digit stands for. -/
def escaped? (c : Char) : Option Char :=
  [('0', '\x00'), ('t', '\t'), ('r', '\r'), ('n', '\n'), ('"', '"'), ('\\', '\\')].lookup c

/-- The character with a code point, if there is one. -/
def charOf? (code : Nat) : Option Char := if code.isValidChar then some (Char.ofNat code) else none

/-- The greatest number of digits of a code point in a literal. -/
def maxDigits : Nat := 6

/-- Reads a character outside of comments and literals. A literal that follows a word directly is
refused, for the word would say how to read it, and so is a single quote. -/
def plainStep (letters : List Char) (c : Char) : Option (List Token × Mode) :=
  if isWord c then some ([], .plain (letters ++ [c]))
  else if isBlank c then some (endWord letters, .plain [])
  else if c = '/' then some (endWord letters, .slash)
  else if c = '"' then if letters.isEmpty then some ([], .literal []) else none
  else if c = '\x27' then none
  else some (endWord letters ++ [.sign c], .plain [])

/-- Reads a character. Block comments nest. -/
def Mode.step : Mode → Char → Option (List Token × Mode)
  | plain letters, c => plainStep letters c
  | slash, c =>
    if c = '/' then some ([], lineComment)
    else if c = '*' then some ([], blockComment 0)
    else (plainStep [] c).map fun next => (.sign '/' :: next.1, next.2)
  | lineComment, c => some ([], if c = '\n' then plain [] else lineComment)
  | blockComment depth, c =>
    some ([], if c = '/' then blockSlash depth else if c = '*' then blockStar depth
      else blockComment depth)
  | blockSlash depth, c =>
    some ([], if c = '*' then blockComment (depth + 1) else if c = '/' then blockSlash depth
      else blockComment depth)
  | blockStar depth, c =>
    some ([], if c = '/' then (match depth with | 0 => plain [] | outer + 1 => blockComment outer)
      else if c = '*' then blockStar depth else blockComment depth)
  | literal content, c =>
    some (if c = '"' then ([.text (String.ofList content)], plain [])
      else ([], if c = '\\' then escape content else literal (content ++ [c])))
  | escape content, c =>
    if c = 'u' then some ([], beforeCodePoint content)
    else (escaped? c).map fun d => ([], literal (content ++ [d]))
  | beforeCodePoint content, c => if c = '\x7b' then some ([], codePoint content 0 0) else none
  | codePoint content value digits, c =>
    if c = '\x7d' then
      if digits = 0 then none else (charOf? value).map fun d => ([], literal (content ++ [d]))
    else if digits < maxDigits then
      (hexDigit? c).map fun digit => ([], codePoint content (value * 16 + digit) (digits + 1))
    else none

/-- Reads a text: its tokens, and where the reader is after it. -/
def Mode.run : Mode → List Char → Option (List Token × Mode)
  | mode, [] => some ([], mode)
  | mode, c :: cs => do
    let (tokens, next) ← mode.step c
    let (rest, last) ← next.run cs
    return (tokens ++ rest, last)

/-- The tokens of a text that ends outside of comments and literals. -/
def tokens? (text : String) : Option (List Token) :=
  match Mode.run (.plain []) text.toList with
  | some (tokens, .plain letters) => some (tokens ++ endWord letters)
  | _ => none

/-- The tokens of a text that has some. -/
@[irreducible]
def code (text : String) : List Token := (tokens? text).getD []

/-! ## Pieces of a text -/

/-- The text is read as these tokens, from one place of the reader to another. -/
def Lexes (start : Mode) (text : List Char) (tokens : List Token) (last : Mode) : Prop :=
  start.run text = some (tokens, last)

/-- Whether a text has given tokens can be decided by reading it. -/
instance (start : Mode) (text : List Char) (tokens : List Token) (last : Mode) :
    Decidable (Lexes start text tokens last) :=
  inferInstanceAs (Decidable (_ = _))

/-- A text is read piece by piece: the second piece is read in the mode that the first one ends
in. -/
theorem Mode.run_append (mode : Mode) (text text' : List Char) :
    mode.run (text ++ text') = (mode.run text).bind fun first =>
      (first.2.run text').map fun second => (first.1 ++ second.1, second.2) := by
  induction text generalizing mode with
  | nil => simp [Mode.run]
  | cons c text ih =>
    cases hstep : mode.step c with
    | none => simp [Mode.run, hstep]
    | some next =>
      cases hfirst : next.2.run text with
      | none => simp [Mode.run, hstep, ih, hfirst]
      | some first =>
        cases hsecond : first.2.run text' with
        | none => simp [Mode.run, hstep, ih, hfirst, hsecond]
        | some second => simp [Mode.run, hstep, ih, hfirst, hsecond]

namespace Lexes

variable {start middle last : Mode} {text text' : List Char} {tokens tokens' : List Token}

/-- The empty text has no tokens. -/
theorem nil (mode : Mode) : Lexes mode [] [] mode := rfl

/-- A text is read character by character. -/
theorem cons {c : Char} (h : start.step c = some (tokens, middle))
    (h' : Lexes middle text tokens' last) : Lexes start (c :: text) (tokens ++ tokens') last := by
  rw [Lexes] at h' ⊢
  simp [Mode.run, h, h']

/-- A single character is read in one step. -/
theorem single {c : Char} (h : start.step c = some (tokens, last)) :
    Lexes start [c] tokens last := by
  simpa using (nil last).cons h

/-- After a part of a text has been read, the reader goes on with the rest. -/
theorem append_iff (h : Lexes start text tokens middle) :
    Lexes start (text ++ text') tokens' last ↔
      ∃ rest, tokens' = tokens ++ rest ∧ Lexes middle text' rest last := by
  rw [Lexes] at h
  rw [Lexes, Mode.run_append, h]
  simp only [Option.bind_some, Option.map_eq_some_iff, Prod.exists, Prod.mk.injEq]
  constructor
  · rintro ⟨rest, _, hrest, rfl, rfl⟩
    exact ⟨rest, rfl, hrest⟩
  · rintro ⟨rest, rfl, hrest⟩
    exact ⟨rest, last, hrest, rfl, rfl⟩

/-- The tokens of two pieces are those of the first and those of the second. -/
theorem append (h : Lexes start text tokens middle) (h' : Lexes middle text' tokens' last) :
    Lexes start (text ++ text') (tokens ++ tokens') last :=
  h.append_iff.2 ⟨tokens', rfl, h'⟩

/-- Items that are read one by one from the same place are read one after the other. -/
theorem flatMap {α : Type} {mode : Mode} {write : α → List Char} {tokensOf : α → List Token}
    {items : List α} (h : ∀ a ∈ items, Lexes mode (write a) (tokensOf a) mode) :
    Lexes mode (items.flatMap write) (items.flatMap tokensOf) mode := by
  induction items with
  | nil => exact nil mode
  | cons a items ih =>
    rw [List.forall_mem_cons] at h
    exact h.1.append (ih h.2)

/-- The tokens of a text are those read on the way and the word that its end completes. -/
theorem tokens_eq {letters : List Char} {text : String}
    (h : Lexes (.plain []) text.toList tokens (.plain letters)) :
    tokens? text = some (tokens ++ endWord letters) := by
  rw [Lexes] at h
  rw [tokens?, h]

end Lexes

/-! ## Comments -/

/-- A line comment goes on to the end of its line. -/
theorem lexes_lineComment {text : List Char} (h : '\n' ∉ text) :
    Lexes .lineComment text [] .lineComment := by
  induction text with
  | nil => exact .nil _
  | cons c text ih =>
    rw [List.mem_cons, not_or] at h
    have hstep : Mode.lineComment.step c = some ([], .lineComment) := by
      simp [Mode.step, Ne.symm h.1]
    exact (ih h.2).cons hstep

/-- A line comment is left at its first line feed, and what comes after it is read. -/
theorem lexes_lineComment_iff {text rest : List Char} {tokens : List Token} {last : Mode}
    (h : '\n' ∉ text) :
    Lexes .lineComment (text ++ '\n' :: rest) tokens last ↔ Lexes (.plain []) rest tokens last := by
  have hline : Lexes .lineComment (text ++ ['\n']) [] (.plain []) :=
    (lexes_lineComment h).append (.single rfl)
  rw [List.append_cons, hline.append_iff]
  simp

/-! ## Literals -/

/-- A hexadecimal digit adds to the number of a code point. -/
theorem lexes_hexDigit (content : List Char) (value : Nat) {count digit : Nat}
    (hcount : count < maxDigits) (hdigit : digit < 16) :
    Lexes (.codePoint content value count) [digit.digitChar] []
      (.codePoint content (value * 16 + digit) (count + 1)) := by
  have hread : ∀ d < 16, d.digitChar ≠ '\x7d' ∧ hexDigit? d.digitChar = some d := by decide
  obtain ⟨hclose, hvalue⟩ := hread digit hdigit
  refine .single ?_
  simp [Mode.step, hclose, hcount, hvalue]

/-- A number that has few enough digits is read from them. -/
theorem lexes_hexDigits (content : List Char) {code : Nat}
    (h : (hexDigits code).length ≤ maxDigits) :
    Lexes (.codePoint content 0 0) (hexDigits code) []
      (.codePoint content code (hexDigits code).length) := by
  induction code using Nat.strongRecOn with
  | ind code ih =>
    by_cases hlt : code < 16
    · rw [hexDigits, Nat.toDigits_of_lt_base hlt]
      simpa using lexes_hexDigit content 0 (by decide) hlt
    · have hdigits : hexDigits code = hexDigits (code / 16) ++ [(code % 16).digitChar] := by
        rw [hexDigits, Nat.toDigits_eq_if (by decide), if_neg hlt]
        rfl
      rw [hdigits, List.length_append, List.length_singleton] at h ⊢
      have hhigh := ih (code / 16) (by omega) (Nat.le_of_succ_le h)
      have hlast := lexes_hexDigit content (code / 16) h (Nat.mod_lt code (by decide))
      rw [Nat.div_add_mod'] at hlast
      exact hhigh.append hlast

/-- A character is read back from its code point. -/
theorem lexes_codePoint (content : List Char) (c : Char) :
    Lexes (.literal content) (['\\', 'u', '\x7b'] ++ hexDigits c.toNat ++ ['\x7d']) []
      (.literal (content ++ [c])) := by
  have hopen : Lexes (.literal content) ['\\', 'u', '\x7b'] [] (.codePoint content 0 0) :=
    rfl
  have hvalid : c.toNat.isValidChar := c.valid
  have hlength : (hexDigits c.toNat).length ≤ maxDigits := by
    refine (Nat.length_toDigits_le_iff (by decide) (by decide)).2 ?_
    rcases hvalid with h | ⟨-, h⟩
    · exact Nat.lt_trans h (by decide)
    · exact Nat.lt_trans h (by decide)
  have hne : (hexDigits c.toNat).length ≠ 0 := Nat.ne_of_gt Nat.length_toDigits_pos
  have hclose : (Mode.codePoint content c.toNat (hexDigits c.toNat).length).step '\x7d' =
      some ([], .literal (content ++ [c])) := by
    simp [Mode.step, charOf?, hvalid, hne]
  exact (hopen.append (lexes_hexDigits content hlength)).append (.single hclose)

/-- A character is read back from the way it is spelled in a literal. -/
theorem lexes_spellQuoted (content : List Char) (c : Char) :
    Lexes (.literal content) (spellQuoted c) [] (.literal (content ++ [c])) := by
  have hescape : ∀ e, escaped? e = some c → e ≠ 'u' →
      Lexes (.literal content) ['\\', e] [] (.literal (content ++ [c])) := by
    intro e he hu
    have hstep : (Mode.escape content).step e = some ([], .literal (content ++ [c])) := by
      simp [Mode.step, hu, he]
    have hopen : (Mode.literal content).step '\\' = some ([], .escape content) := rfl
    exact (Lexes.single hstep).cons hopen
  unfold spellQuoted
  split
  · subst c; exact hescape '0' rfl (by decide)
  split
  · subst c; exact hescape 't' rfl (by decide)
  split
  · subst c; exact hescape 'r' rfl (by decide)
  split
  · subst c; exact hescape 'n' rfl (by decide)
  split
  · next h =>
    rcases (by simpa using h : c = '"' ∨ c = '\\') with rfl | rfl
    · exact hescape _ rfl (by decide)
    · exact hescape _ rfl (by decide)
  split
  · exact lexes_codePoint content c
  · refine .single ?_
    simp_all [Mode.step]

/-- The spelling of a text in quotes is read as the text. -/
theorem lexes_flatMap_spellQuoted (content text : List Char) :
    Lexes (.literal content) (text.flatMap spellQuoted) [] (.literal (content ++ text)) := by
  induction text generalizing content with
  | nil => simpa using Lexes.nil (.literal content)
  | cons c text ih => simpa using (lexes_spellQuoted content c).append (ih (content ++ [c]))

/-- A quoted text is a literal that stands for the text. -/
theorem lexes_quote (s : String) :
    Lexes (.plain []) (quote s).toList [.text s] (.plain []) := by
  have hopen : Lexes (.plain []) ['"'] [] (.literal []) := .single rfl
  have hclose : Lexes (.literal s.toList) ['"'] [.text s] (.plain []) :=
    .single (by simp [Mode.step])
  have hspelled := lexes_flatMap_spellQuoted [] s.toList
  simpa [quote, quoteChars] using (hopen.append hspelled).append hclose

end Transcoding.Source
