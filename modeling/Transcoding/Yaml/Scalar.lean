import Transcoding.Text.Decimal
import Transcoding.Yaml.Symbol

/-!
# Scalars

A scalar is a text in one of five styles: plain, between single or double quotes, or a block of
lines, which is literal or folded. A plain or quoted scalar can go on over several lines. What
stands between two of its words is a gap: blanks stand for themselves, a single line break for a
space, and of several line breaks the first is dropped.

Every reader takes the symbols from the first one of the scalar and returns its text with the
symbols after it.
-/

namespace Transcoding.Yaml

open Transcoding.Text

/-- The style of a scalar. -/
inductive Style where
  | plain
  | quoted
  | literal
  | folded
  deriving DecidableEq

/-! ## Gaps -/

/-- What stands between two words of a scalar. -/
structure Gap where
  /-- The blanks before the first line break, last one first. -/
  blanks : List Char := []
  /-- The line breaks, last one first. -/
  breaks : List Char := []
  /-- Whether an escaped line break comes before the others. -/
  joined : Bool := false

namespace Gap

/-- Whether nothing stands between the words. -/
def isEmpty (gap : Gap) : Bool := gap.blanks.isEmpty && gap.breaks.isEmpty && !gap.joined

/-- Whether the second word is on another line. -/
def crossesLine (gap : Gap) : Bool := gap.joined || !gap.breaks.isEmpty

/-- The gap with one more blank or line break. Blanks next to a line break do not count. -/
def add (gap : Gap) (c : Char) : Gap :=
  if isBreak c then { gap with blanks := [], breaks := c :: gap.breaks }
  else if gap.crossesLine then gap
  else { gap with blanks := c :: gap.blanks }

/-- The text that a gap stands for. -/
def text (gap : Gap) : List Char :=
  match gap.breaks.reverse with
  | [] => gap.blanks.reverse
  | first :: rest =>
    if gap.joined || first != '\n' then first :: rest
    else if rest.isEmpty then [' ']
    else rest

end Gap

/-- The text, last character first, after a gap. -/
def closeGap (text : List Char) (gap : Gap) : List Char := gap.text.reverse ++ text

/-! ## Plain scalars -/

/-- Whether a plain scalar ends before a symbol that is not blank. Inside braces it ends at a comma
or a bracket. Everywhere it ends at a colon that ends a word and at a comment; and on a later line
it ends at a marker or, outside braces, where the indentation ends. -/
def endsPlain (flow : Bool) (indent : Nat) (gap : Gap) (symbol : Symbol) (rest : List Symbol) :
    Bool :=
  (symbol.char == ':' && endsWord rest)
    || (symbol.char == '#' && !gap.isEmpty)
    || (flow && ",[]\x7b\x7d".toList.contains symbol.char)
    || (gap.crossesLine
      && ((!flow && symbol.column < indent) || startsDocumentMarker (symbol :: rest)))

/-- Reads a plain scalar after `text`, last character first, and a gap. Also tells whether the
scalar was left on another line. -/
def plainFrom? (flow : Bool) (indent : Nat) :
    List Char → Gap → List Symbol → Option (List Char × Bool × List Symbol)
  | text, gap, [] => some (text.reverse, gap.crossesLine, [])
  | text, gap, symbol :: rest =>
    if isGapChar symbol.char then
      if symbol.char == '\t' && gap.crossesLine && symbol.column < indent then none
      else plainFrom? flow indent text (gap.add symbol.char) rest
    else if endsPlain flow indent gap symbol rest then
      some (text.reverse, gap.crossesLine, symbol :: rest)
    else if flow && symbol.char == ':' && rest.head?.any (",?[]\x7b\x7d".toList.contains ·.char)
    then none
    else plainFrom? flow indent (symbol.char :: closeGap text gap) {} rest

/-- Reads a plain scalar. -/
def plain? (flow : Bool) (indent : Nat) (symbols : List Symbol) :
    Option (List Char × Bool × List Symbol) :=
  plainFrom? flow indent [] {} symbols

/-! ## Quoted scalars -/

/-- Reads a single-quoted scalar after `text`, last character first, and a gap. A quote is written
twice. -/
def singleQuotedFrom? : List Char → Gap → List Symbol → Option (List Char × List Symbol)
  | _, _, [] => none
  | text, gap, symbol :: rest =>
    if isGapChar symbol.char then singleQuotedFrom? text (gap.add symbol.char) rest
    else if startsDocumentMarker (symbol :: rest) then none
    else if symbol.char == '\x27' then
      match rest with
      | [] => some ((closeGap text gap).reverse, [])
      | next :: after =>
        if next.char == '\x27' then singleQuotedFrom? ('\x27' :: closeGap text gap) {} after
        else some ((closeGap text gap).reverse, next :: after)
    else singleQuotedFrom? (symbol.char :: closeGap text gap) {} rest

/-- The character that a letter after a backslash stands for. -/
def escapedChar? : Char → Option Char
  | '0' => some '\x00'
  | 'a' => some '\x07'
  | 'b' => some '\x08'
  | 't' => some '\t'
  | '\t' => some '\t'
  | 'n' => some '\n'
  | 'v' => some '\x0b'
  | 'f' => some '\x0c'
  | 'r' => some '\r'
  | 'e' => some '\x1b'
  | ' ' => some ' '
  | '"' => some '"'
  | '/' => some '/'
  | '\\' => some '\\'
  | 'N' => some '\u0085'
  | '_' => some '\u00a0'
  | 'L' => some '\u2028'
  | 'P' => some '\u2029'
  | _ => none

/-- How many digits of a code point follow a letter after a backslash. -/
def escapeWidth : Char → Nat
  | 'x' => 2
  | 'u' => 4
  | 'U' => 8
  | _ => 0

/-- The character with the given code point. -/
def charOf? (code : Nat) : Option Char :=
  if code < 0xD800 || (0xDFFF < code && code < 0x110000) then some (Char.ofNat code) else none

/-- The character that an escape stands for, from the letter after the backslash and the symbols
after that letter. -/
def escape? (letter : Char) (after : List Symbol) : Option Char :=
  if escapeWidth letter = 0 then escapedChar? letter
  else do
    let digits ← (after.take (escapeWidth letter)).mapM (hexDigit? ·.char)
    if digits.length = escapeWidth letter then
      charOf? (digits.foldl (fun code digit => code * 16 + digit) 0)
    else none

/-- Reads a double-quoted scalar after `text`, last character first, and a gap. The first `skip`
symbols belong to an escape that has been read. -/
def doubleQuotedFrom? :
    Nat → List Char → Gap → List Symbol → Option (List Char × List Symbol)
  | _, _, _, [] => none
  | skip + 1, text, gap, _ :: rest => doubleQuotedFrom? skip text gap rest
  | 0, text, gap, symbol :: rest =>
    if isGapChar symbol.char then doubleQuotedFrom? 0 text (gap.add symbol.char) rest
    else if startsDocumentMarker (symbol :: rest) then none
    else if symbol.char == '"' then some ((closeGap text gap).reverse, rest)
    else if symbol.char == '\\' then
      match rest with
      | [] => none
      | next :: after =>
        if isBreak next.char then doubleQuotedFrom? 0 (closeGap text gap) { joined := true } after
        else
          match escape? next.char after with
          | some c => doubleQuotedFrom? (escapeWidth next.char) (c :: closeGap text gap) {} after
          | none => none
    else doubleQuotedFrom? 0 (symbol.char :: closeGap text gap) {} rest

/-- Reads a quoted scalar after its opening quote. -/
def quoted? (quote : Char) (symbols : List Symbol) : Option (List Char × List Symbol) :=
  if quote == '"' then doubleQuotedFrom? 0 [] {} symbols else singleQuotedFrom? [] {} symbols

/-! ## Blocks -/

/-- What becomes of the line breaks at the end of a block. -/
inductive Chomping where
  /-- The last line keeps its line break. -/
  | clip
  | strip
  /-- The empty lines after the last line are kept as well. -/
  | keep
  deriving DecidableEq

/-- The chomping that a sign asks for. -/
def Chomping.ofSign? (c : Char) : Option Chomping :=
  if c == '+' then some .keep else if c == '-' then some .strip else none

/-- The sign at the front, and the symbols after it. -/
def takeSign : List Symbol → Option Chomping × List Symbol
  | [] => (none, [])
  | symbol :: rest =>
    match Chomping.ofSign? symbol.char with
    | some chomping => (some chomping, rest)
    | none => (none, symbol :: rest)

/-- The digit at the front, or zero, and the symbols after it. The digit zero is wrong. -/
def takeWidth? : List Symbol → Option (Nat × List Symbol)
  | [] => some (0, [])
  | symbol :: rest =>
    if symbol.char == '0' then none
    else if symbol.char.isDigit then some (symbol.char.toNat - '0'.toNat, rest)
    else some (0, symbol :: rest)

/-- Reads what may follow the sign of a block on its line: how its end is treated and how far its
lines are indented, in either order. Zero leaves the indentation to the first line. -/
def blockHeader? (symbols : List Symbol) : Option (Chomping × Nat × List Symbol) := do
  let (before, rest) := takeSign symbols
  let (width, rest) ← takeWidth? rest
  let (after, rest) := if before.isSome then (none, rest) else takeSign rest
  let rest := skipLineEnd rest
  if endsLine rest then return ((before.or after).getD .clip, width, rest.drop 1) else none

/-- The width of the widest margin before the first line that is not empty. -/
def margin? : Nat → List Symbol → Option Nat
  | width, [] => some width
  | width, symbol :: rest =>
    if symbol.char == ' ' then margin? (max width (symbol.column + 1)) rest
    else if isBreak symbol.char then margin? width rest
    else if symbol.char == '\t' then none
    else some width

/-- The lines of a block that have been read. -/
structure BlockLines where
  /-- The text, last character first, up to the end of the last line. -/
  text : List Char := []
  /-- The line break after the last line. -/
  lineBreak : List Char := []
  /-- The line breaks of the empty lines after that, last one first. -/
  emptyLines : List Char := []
  /-- Whether the last line starts with a blank. -/
  startsBlank : Bool := false

/-- Starts a line with its first character. In a folded block the break between two lines that both
start with a word is a space, or nothing if there are empty lines between them. -/
def BlockLines.start (folded : Bool) (lines : BlockLines) (c : Char) : BlockLines :=
  let between :=
    if folded && lines.lineBreak == ['\n'] && !lines.startsBlank && !isInlineBlank c then
      if lines.emptyLines.isEmpty then [' '] else []
    else lines.lineBreak
  { text := c :: (lines.emptyLines ++ (between ++ lines.text)), startsBlank := isInlineBlank c }

/-- Reads the lines of a block with a known indentation, from inside a line or from the start of
one. -/
def blockLines? (folded : Bool) (indent : Nat) :
    Bool → BlockLines → List Symbol → Option (BlockLines × List Symbol)
  | _, lines, [] => some (lines, [])
  | true, lines, symbol :: rest =>
    if isBreak symbol.char then
      blockLines? folded indent false { lines with lineBreak := [symbol.char] } rest
    else blockLines? folded indent true { lines with text := symbol.char :: lines.text } rest
  | false, lines, symbol :: rest =>
    if symbol.column < indent && symbol.char == ' ' then
      blockLines? folded indent false lines rest
    else if symbol.column < indent && symbol.char == '\t' then none
    else if isBreak symbol.char then
      blockLines? folded indent false
        { lines with emptyLines := symbol.char :: lines.emptyLines } rest
    else if symbol.column == indent then
      blockLines? folded indent true (lines.start folded symbol.char) rest
    else some (lines, symbol :: rest)

/-- The text of a block. -/
def BlockLines.finish (lines : BlockLines) : Chomping → List Char
  | .strip => lines.text.reverse
  | .clip => (lines.lineBreak ++ lines.text).reverse
  | .keep => (lines.emptyLines ++ (lines.lineBreak ++ lines.text)).reverse

/-- Reads a block after its sign. `outer` is the column of the mapping around it, if there is
one. -/
def block? (folded : Bool) (outer : Option Nat) (symbols : List Symbol) :
    Option (List Char × List Symbol) := do
  let (chomping, width, rest) ← blockHeader? symbols
  let margin ← if 0 < width then some 0 else margin? 0 rest
  let indent :=
    if 0 < width then outer.getD 0 + width else max margin ((outer.map (· + 1)).getD 1)
  let (lines, rest) ← blockLines? folded indent false {} rest
  return (lines.finish chomping, rest)

end Transcoding.Yaml
