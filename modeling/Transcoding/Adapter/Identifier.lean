import Transcoding.Text.Cut

/-!
# Names in Rust

Names of the model as Rust writes them: a name that is a keyword becomes a raw identifier, and a
dotted message name becomes a path.
-/

namespace Transcoding

open Transcoding.Text

/-- The words that a name of the model must not be in Rust. -/
def rustKeywords : List String :=
  ["as", "async", "await", "box", "break", "const", "continue", "crate", "dyn", "else", "enum",
   "extern", "false", "fn", "for", "gen", "if", "impl", "in", "let", "loop", "match", "mod",
   "move", "mut", "pub", "ref", "return", "self", "static", "struct", "super", "trait", "true",
   "try", "type", "unsafe", "use", "where", "while", "yield"]

/-- The identifier for a name. -/
def rustIdentifier (name : String) : String :=
  if rustKeywords.contains name then "r#" ++ name else name

/-- The segments of a dotted name; empty ones do not count. -/
def nameSegments (name : String) : List String :=
  ((fields '.' name.toList).filter (!·.isEmpty)).map String.ofList

/-- The text without the colons at its end. -/
def trimColons (text : String) : String :=
  String.ofList (text.toList.reverse.dropWhile (· == ':')).reverse

/-- The path of a message type, inside the module of the message types. -/
def rustPath (typesPath : Option String) (name : String) : String :=
  let path := join "::" ((nameSegments name).map rustIdentifier)
  match typesPath with
  | none => path
  | some module => if module = "" then path else trimColons module ++ "::" ++ path

end Transcoding
