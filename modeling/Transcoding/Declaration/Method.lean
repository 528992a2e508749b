import Transcoding.Declaration.Binding
import Transcoding.Declaration.Bracket

/-!
# Method declarations

A method is declared by its name, its input and output types, and its options in braces. A method
whose options give no binding is left out.
-/

namespace Transcoding.Declaration

open Transcoding.Text

/-- What stands before the options of a method. -/
structure MethodHead where
  name : List Char
  inputType : List Char
  outputType : List Char
  /-- The text after the opening brace of the options. -/
  after : List Char

/-- A method declaration up to the opening brace of its options. -/
def methodHead : Recogniser MethodHead := fun text => do
  let rest ← literal "rpc" text
  let rest ← someBlanks rest
  let (name, rest) ← word rest
  let rest ← sign '(' rest
  let (inputType, rest) ← word (skipBlanks rest)
  let rest ← sign ')' rest
  let rest ← literal "returns" (skipBlanks rest)
  let rest ← sign '(' rest
  let (outputType, rest) ← dottedWord (skipBlanks rest)
  let rest ← sign ')' rest
  let after ← sign '\x7b' rest
  return ({ name, inputType, outputType, after }, after)

/-- The method of a declaration, if its options give a binding. -/
def MethodHead.method? (head : MethodHead) : Option Method :=
  (findBinding (balancedRegion head.after)).map fun binding =>
    { name := String.ofList head.name
      inputType := String.ofList head.inputType
      outputType := String.ofList head.outputType
      binding }

/-- The bound methods of a service body, in the order of their declarations. -/
def findMethods (body : List Char) : List Method :=
  (occurrences atWordStart methodHead body).filterMap MethodHead.method?

end Transcoding.Declaration
