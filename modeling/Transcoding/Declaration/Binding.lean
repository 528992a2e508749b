import Transcoding.Declaration.Search
import Transcoding.Model
import Transcoding.Text.Cut

/-!
# The HTTP binding of a method

The options of a method carry a binding if they mention the HTTP annotation and name a verb with a
quoted path. The verbs are tried in a fixed order, whatever the order of the text, and the body
selector is looked for on its own.
-/

namespace Transcoding.Declaration

open Transcoding.Text

/-- The name of the annotation, which must stand somewhere in the options. -/
def httpAnnotation : String := "google.api.http"

/-- A character read as a lower-case ASCII letter without regard to case. The long s is a form of
the letter s, and the Kelvin sign is a form of the letter k. -/
def sameLetter (letter c : Char) : Bool :=
  c == letter || c == letter.toUpper
    || (letter == 's' && c == 'ſ') || (letter == 'k' && c == '\u212A')

/-- The rest of a text that begins with a lower-case ASCII word, read without regard to case. -/
def literalAnyCase : List Char → List Char → Option (List Char)
  | [], text => some text
  | _ :: _, [] => none
  | letter :: letters, c :: cs =>
    if sameLetter letter c then literalAnyCase letters cs else none

/-- A text that is not empty between two equal quotes of either kind. -/
def quotedText : Recogniser (List Char)
  | [] => none
  | quote :: cs =>
    if quote = '"' || quote = '\x27' then
      match cutAt quote cs with
      | some (c :: content, rest) => some (c :: content, rest)
      | _ => none
    else none

/-- A keyword, a colon and a quoted text. -/
def entry (keyword : List Char → Option (List Char)) : Recogniser (List Char) := fun text => do
  let rest ← keyword text
  let rest ← sign ':' rest
  quotedText (skipBlanks rest)

/-- The path that the options give for a verb. -/
def pathOf (options : List Char) (verb : HttpVerb) : Option (List Char) :=
  firstOccurrence atWordStart (entry (literalAnyCase verb.keyword.toList)) options

/-- The body selector that the options give. -/
def selectorOf (options : List Char) : Option (List Char) :=
  firstOccurrence atWordStart (entry (literal "body")) options

/-- The options mention the HTTP annotation. -/
def isAnnotated (options : List Char) : Bool :=
  (splitAtFirst httpAnnotation.toList options).isSome

/-- The binding that the options of a method give. -/
def findBinding (options : List Char) : Option HttpBinding := do
  guard (isAnnotated options)
  let (verb, path) ← HttpVerb.all.findSome? fun verb => (pathOf options verb).map (verb, ·)
  return { verb, pathTemplate := String.ofList path
           bodySelector := (selectorOf options).map String.ofList }

end Transcoding.Declaration
