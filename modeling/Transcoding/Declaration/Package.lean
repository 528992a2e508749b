import Transcoding.Declaration.Search

/-!
# The package declaration

A package is declared on a line of its own, perhaps indented. The first declaration of a text
names the package of all its services; without one the package is empty.
-/

namespace Transcoding.Declaration

open Transcoding.Text

/-- A package name: an ASCII letter or an underscore, then word characters and dots. -/
def packageName : Recogniser (List Char)
  | [] => none
  | c :: cs =>
    if c.isAlpha || c == '_' then
      some (c :: cs.takeWhile fun d => isWord d || d == '.',
        cs.dropWhile fun d => isWord d || d == '.')
    else none

/-- An indented package declaration. -/
def packageLine : Recogniser (List Char) := fun text => do
  let rest ← literal "package" (text.dropWhile fun c => c == ' ' || c == '\t')
  let rest ← someBlanks rest
  let (name, rest) ← packageName rest
  let rest ← sign ';' rest
  return (name, rest)

/-- A line starts at the start of the text and after a line feed. -/
def atLineStart : Option Char → Bool
  | none => true
  | some c => c == '\n'

/-- The package that a text declares, empty if it declares none. -/
def findPackage (text : List Char) : List Char :=
  (firstOccurrence atLineStart packageLine text).getD []

end Transcoding.Declaration
