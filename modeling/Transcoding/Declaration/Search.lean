import Transcoding.Text.Blank
import Transcoding.Text.Word

/-!
# Searching a text for a shape

A declaration is found by its shape: a keyword at the start of a word, then words and signs with
blanks between them. A recogniser reads a shape at the front of a text and returns what it found
with the rest of the text. `occurrences` runs a recogniser over a text from left to right and goes
on after each find.
-/

namespace Transcoding.Declaration

open Transcoding.Text

/-- Reads a shape at the front of a text: what it found, and the rest. -/
abbrev Recogniser (α : Type) := List Char → Option (α × List Char)

/-- The rest of a text that begins with the given characters. -/
def literal (expected : String) (text : List Char) : Option (List Char) :=
  expected.toList.isPrefixOf? text

/-- The rest of a text after blanks, of which there is at least one. -/
def someBlanks : List Char → Option (List Char)
  | [] => none
  | c :: cs => if isBlank c then some (skipBlanks cs) else none

/-- The rest of a text after blanks and the given sign. -/
def sign (expected : Char) (text : List Char) : Option (List Char) :=
  match skipBlanks text with
  | [] => none
  | c :: cs => if c = expected then some cs else none

/-- The longest run of characters of a class, of which there is at least one. -/
def run (isMember : Char → Bool) : Recogniser (List Char)
  | [] => none
  | c :: cs =>
    if isMember c then some (c :: cs.takeWhile isMember, cs.dropWhile isMember) else none

/-- A run of word characters. -/
def word : Recogniser (List Char) := run isWord

/-- A run of word characters and dots. -/
def dottedWord : Recogniser (List Char) := run fun c => isWord c || c == '.'

/-- The character stands at the start of a word if no word character is before it. -/
def atWordStart : Option Char → Bool
  | none => true
  | some c => !isWord c

/-- The finds of a recogniser in a text, from left to right. The character before the text is
`previous`, and `allowed` says after which character a find may begin. The next `skip` characters
belong to the last find. -/
def occurrencesFrom {α : Type} (allowed : Option Char → Bool) (recognise : Recogniser α) :
    Option Char → Nat → List Char → List α
  | _, _, [] => []
  | _, skip + 1, c :: cs => occurrencesFrom allowed recognise (some c) skip cs
  | previous, 0, c :: cs =>
    match if allowed previous then recognise (c :: cs) else none with
    | some (found, rest) =>
      found :: occurrencesFrom allowed recognise (some c) (cs.length - rest.length) cs
    | none => occurrencesFrom allowed recognise (some c) 0 cs

/-- The finds of a recogniser in a text, from left to right, none inside another. -/
def occurrences {α : Type} (allowed : Option Char → Bool) (recognise : Recogniser α)
    (text : List Char) : List α :=
  occurrencesFrom allowed recognise none 0 text

/-- The leftmost find of a recogniser. -/
def firstFrom {α : Type} (allowed : Option Char → Bool) (recognise : Recogniser α) :
    Option Char → List Char → Option α
  | _, [] => none
  | previous, c :: cs =>
    match if allowed previous then recognise (c :: cs) else none with
    | some (found, _) => some found
    | none => firstFrom allowed recognise (some c) cs

/-- The leftmost find of a recogniser in a text. -/
def firstOccurrence {α : Type} (allowed : Option Char → Bool) (recognise : Recogniser α)
    (text : List Char) : Option α :=
  firstFrom allowed recognise none text

end Transcoding.Declaration
