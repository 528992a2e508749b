import Transcoding.Declaration.Method
import Transcoding.Declaration.Package

/-!
# Interface definitions

A definition text is read without a grammar: what has the shape of a service declaration is one,
wherever it stands, and the rest is passed over. The services of several texts are the services of
each in turn.
-/

namespace Transcoding.Declaration

open Transcoding.Text

/-- A service declaration: its name and the text between its braces. -/
structure ServiceBlock where
  name : List Char
  body : List Char
  deriving DecidableEq

/-- A service declaration up to its opening brace, and the body that follows. -/
def serviceHead : Recogniser ServiceBlock := fun text => do
  let rest ← literal "service" text
  let rest ← someBlanks rest
  let (name, rest) ← word rest
  let after ← sign '\x7b' rest
  return ({ name, body := balancedRegion after }, after)

/-- The service declarations of a text, in the order of their places. -/
def findServices (text : List Char) : List ServiceBlock :=
  occurrences atWordStart serviceHead text

/-- The service of a declaration, if it has a bound method. -/
def ServiceBlock.service? (package : List Char) (block : ServiceBlock) : Option Service :=
  match findMethods block.body with
  | [] => none
  | methods =>
    some (Service.declared (String.ofList package) (String.ofList block.name) methods)

/-- The services with bound methods of one text. -/
def servicesOf (text : String) : List Service :=
  let package := findPackage text.toList
  (findServices text.toList).filterMap (ServiceBlock.service? package)

/-- The services of several texts. -/
def servicesOfAll (texts : List String) : List Service := texts.flatMap servicesOf

end Transcoding.Declaration
