/-!
# Symbols of a document

A YAML document is read as a list of symbols: its characters with their places. A line break is one
symbol, the line feed, whether it is written as a line feed, a carriage return, both together or
U+0085. The line separator U+2028 and the paragraph separator U+2029 break lines as well, and stand
for themselves. Main definition: `symbols?`.
-/

namespace Transcoding.Yaml

/-- A character of a document and its place. -/
structure Symbol where
  char : Char
  /-- The number of characters before it. -/
  index : Nat
  /-- The number of lines before its own. -/
  line : Nat
  /-- The number of characters before it on its line. -/
  column : Nat

/-- A character that a document may hold. -/
def isDocumentChar (c : Char) : Bool :=
  c == '\t' || c == '\n' || c == '\r' || (' ' ≤ c && c ≤ '~') || c == '\u0085'
    || ('\u00a0' ≤ c && c ≤ '\ufffd') || 0x10000 ≤ c.toNat

/-- A blank inside a line. -/
def isInlineBlank (c : Char) : Bool := c == ' ' || c == '\t'

/-- A line break, as symbols spell it. -/
def isBreak (c : Char) : Bool := c == '\n' || c == '\u2028' || c == '\u2029'

/-- A blank or a line break. -/
def isGapChar (c : Char) : Bool := isInlineBlank c || isBreak c

/-- The symbols of a text, from a place on. -/
def symbolsFrom (index line column : Nat) : List Char → List Symbol
  | [] => []
  | '\r' :: '\n' :: rest => ⟨'\n', index, line, column⟩ :: symbolsFrom (index + 2) (line + 1) 0 rest
  | c :: rest =>
    let char := if c == '\r' || c == '\u0085' then '\n' else c
    ⟨char, index, line, column⟩ ::
      (if isBreak char then symbolsFrom (index + 1) (line + 1) 0 rest
        else symbolsFrom (index + 1) line (column + 1) rest)

/-- The symbols without a byte order mark in front of them, which keeps its place on the line. -/
def dropMark : List Symbol → List Symbol
  | [] => []
  | symbol :: rest => if symbol.char == '\ufeff' then rest else symbol :: rest

/-- The symbols of a document. -/
def symbols? (text : String) : Option (List Symbol) :=
  if text.toList.all isDocumentChar then some (dropMark (symbolsFrom 0 0 0 text.toList)) else none

/-- Whether a word has ended: no symbol comes, or a blank, or a line break. -/
def endsWord : List Symbol → Bool
  | [] => true
  | symbol :: _ => isGapChar symbol.char

/-- Whether a line has ended. -/
def endsLine : List Symbol → Bool
  | [] => true
  | symbol :: _ => isBreak symbol.char

/-- Whether three times the same character stand alone at the start of a line. -/
def startsMarker (c : Char) : List Symbol → Bool
  | a :: b :: d :: rest =>
    a.column == 0 && a.char == c && b.char == c && d.char == c && endsWord rest
  | _ => false

/-- Whether a line marks the start or the end of a document. -/
def startsDocumentMarker (symbols : List Symbol) : Bool :=
  startsMarker '-' symbols || startsMarker '.' symbols

/-- The symbols after the blanks and the comment that may end a line. -/
def skipLineEnd (symbols : List Symbol) : List Symbol :=
  match symbols.dropWhile (isInlineBlank ·.char) with
  | [] => []
  | symbol :: rest =>
    if symbol.char == '#' then rest.dropWhile (!isBreak ·.char) else symbol :: rest

/-- The first symbols that make a name: letters, digits, hyphens and underscores. -/
def takeName (symbols : List Symbol) : List Char :=
  (symbols.map (·.char)).takeWhile fun c => c.isAlphanum || c == '_' || c == '-'

end Transcoding.Yaml
