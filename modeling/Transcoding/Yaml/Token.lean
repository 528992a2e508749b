import Transcoding.Yaml.Scalar
import Transcoding.Yaml.Tag

/-!
# Tokens of a document

The parts of a document that holds at most one mapping: its directives and markers, the start and
the end of a mapping, the signs between its entries, and scalars with what may stand before them.
A mapping is a block of entries at one column, or stands between braces.
-/

namespace Transcoding.Yaml

/-- A part of a document. -/
inductive Token where
  /-- The version of YAML that the document is written in. -/
  | version (major minor : Nat)
  /-- What a handle of tags stands for. -/
  | handle (name : List Char) (start : List UInt8)
  | documentStart
  | documentEnd
  | blockStart
  | blockEnd
  | flowStart
  | flowEnd
  /-- The comma between two entries. -/
  | flowEntry
  | key
  | value
  | anchor (name : List Char)
  | tag (mark : TagMark)
  /-- The node with an anchor. -/
  | reference (name : List Char)
  | scalar (style : Style) (text : String)

/-! ## Directives -/

/-- The greatest number of digits of a version number. -/
def maxVersionDigits : Nat := 9

/-- Reads a version number. -/
def versionNumber? (symbols : List Symbol) : Option (Nat × List Symbol) :=
  let digits := (symbols.map (·.char)).takeWhile Char.isDigit
  if digits.isEmpty || maxVersionDigits < digits.length then none
  else
    some (digits.foldl (fun n c => n * 10 + (c.toNat - '0'.toNat)) 0, symbols.drop digits.length)

/-- Reads a version: two numbers and a point between them. -/
def version? (symbols : List Symbol) : Option (Token × List Symbol) := do
  let (major, rest) ← versionNumber? symbols
  match rest with
  | point :: rest =>
    if point.char == '.' then
      let (minor, rest) ← versionNumber? rest
      return (.version major minor, rest)
    else none
  | [] => none

/-- The symbols after the blanks at the front, of which there is at least one. -/
def skipBlanks? : List Symbol → Option (List Symbol)
  | [] => none
  | symbol :: rest =>
    if isInlineBlank symbol.char then some (rest.dropWhile (isInlineBlank ·.char)) else none

/-- Reads the declaration of a handle. The name is an exclamation mark, or two with a name between
them. -/
def handle? (symbols : List Symbol) : Option (Token × List Symbol) := do
  match symbols with
  | mark :: rest =>
    if mark.char == '!' then
      let (name, rest) := (handleName? rest).getD (['!'], rest)
      let rest ← skipBlanks? rest
      let (start, rest) ← tagOctets? true rest
      if start.isEmpty || !endsWord rest then none else return (.handle name start, rest)
    else none
  | [] => none

/-- Reads a directive after its percent sign. -/
def directive? (symbols : List Symbol) : Option (Token × List Symbol) := do
  let name := takeName symbols
  let rest := symbols.drop name.length
  if !endsWord rest then none
  else
    let arguments := rest.dropWhile (isInlineBlank ·.char)
    let (token, rest) ←
      if name == "YAML".toList then version? arguments
      else if name == "TAG".toList then handle? arguments
      else none
    let rest := skipLineEnd rest
    if endsLine rest then return (token, rest.drop 1) else none

end Transcoding.Yaml
