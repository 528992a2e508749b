import Transcoding.Text.LetterCase
import Transcoding.Text.Number

/-!
# Words of an identifier

An identifier is read as a sequence of words. A character that is neither a letter nor a numeral
separates words. Inside a run of letters and numerals a word ends where a lower-case letter meets
an upper-case one, and before the last capital of a run of capitals that a lower-case letter
follows; a numeral keeps the case of what stands before it. The words are then written again in
snake case or in upper camel case.
-/

namespace Transcoding.Text

/-- The case of the word read so far. -/
inductive WordCase where
  /-- No letter with case has been read. -/
  | unset
  | lower
  | upper
  deriving DecidableEq

/-- The case of a word after one more character. -/
def WordCase.next (wordCase : WordCase) (c : Char) : WordCase :=
  if isLower c then .lower else if isUpper c then .upper else wordCase

/-- The words of a run of letters and numerals; `word` has been read of the first one. -/
def runWords (wordCase : WordCase) (word : List Char) : List Char → List (List Char)
  | [] => []
  | [c] => [word ++ [c]]
  | c :: d :: rest =>
    if wordCase.next c = .lower && isUpper d then
      (word ++ [c]) :: runWords .unset [] (d :: rest)
    else if wordCase = .upper && isUpper c && isLower d then
      word :: runWords .unset [c] (d :: rest)
    else runWords (wordCase.next c) (word ++ [c]) (d :: rest)

/-- The runs of letters and numerals of a text; between two separators stands an empty run. -/
def runs : List Char → List (List Char)
  | [] => [[]]
  | c :: cs =>
    if isAlphanumeric c then
      match runs cs with
      | [] => [[c]]
      | run :: rest => (c :: run) :: rest
    else [] :: runs cs

/-- The words of an identifier. -/
def words (text : List Char) : List (List Char) := (runs text).flatMap (runWords .unset [])

/-- The word in lower case; a capital sigma at its end takes the final form. -/
def lowerWord : List Char → List Char
  | [] => []
  | [c] => if c = 'Σ' then ['ς'] else toLower c
  | c :: cs => toLower c ++ lowerWord cs

/-- The word with its first character in upper case and the others in lower case. -/
def capitalWord : List Char → List Char
  | [] => []
  | c :: cs => toUpper c ++ lowerWord cs

/-- The words in lower case, joined by underscores. -/
def snakeCase (s : String) : String :=
  String.ofList (List.intercalate ['_'] ((words s.toList).map lowerWord))

/-- The words with a capital each, written without a separator. -/
def upperCamelCase (s : String) : String :=
  String.ofList ((words s.toList).flatMap capitalWord)

end Transcoding.Text
