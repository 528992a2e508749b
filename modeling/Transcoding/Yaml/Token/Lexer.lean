import Transcoding.Yaml.Token

/-!
# Reading tokens

A document is read from left to right, one token at a time. Main definition: `tokens?`, which has
no result for a text that goes against the rules of tokens, nor for one with a sequence or with a
mapping inside another.

A key needs no sign of its own, so it shows only at the colon after it that a node was a key. Until
then the node is a candidate, and its key sign is put in front of it later. A candidate has to stay
on one line and within `maxKeySize` characters.
-/

namespace Transcoding.Yaml

/-! ## Candidates for keys -/

/-- A node that may turn out to be a key. -/
structure KeyCandidate where
  start : Symbol
  /-- Whether nothing but a key can stand there. -/
  required : Bool
  /-- The number of tokens before the node. -/
  tokensBefore : Nat

/-- The greatest distance from the start of a key to the colon after it. -/
def maxKeySize : Nat := 1024

/-- Whether a candidate is out of reach of a symbol. -/
def KeyCandidate.isLost (candidate : KeyCandidate) (symbol : Symbol) : Bool :=
  candidate.start.line < symbol.line || candidate.start.index + maxKeySize < symbol.index

/-- What has been read of a document. -/
structure Lexer where
  /-- The tokens, last one first. -/
  tokens : List Token := []
  /-- The column of the block of entries that is open. -/
  column : Option Nat := none
  /-- Whether braces are open. -/
  flow : Bool := false
  /-- Whether a node that starts here can be a key. -/
  keyAllowed : Bool := true
  candidate : Option KeyCandidate := none

namespace Lexer

/-- Adds a token. -/
def emit (lexer : Lexer) (token : Token) : Lexer :=
  { lexer with tokens := token :: lexer.tokens }

/-- Gives up the candidate, unless it had to be a key. -/
def dropCandidate? (lexer : Lexer) : Option Lexer :=
  if lexer.candidate.any (·.required) then none else some { lexer with candidate := none }

/-- Gives up the candidate if it is out of reach of a symbol. -/
def expire? (lexer : Lexer) (symbol : Symbol) : Option Lexer :=
  if lexer.candidate.any (·.isLost symbol) then lexer.dropCandidate? else some lexer

/-- Starts a node, which is a candidate if a key is allowed. At the column of the open block it has
to be a key. -/
def startNode? (lexer : Lexer) (symbol : Symbol) : Option Lexer :=
  if lexer.keyAllowed then do
    let lexer ← lexer.dropCandidate?
    return { lexer with
      keyAllowed := false
      candidate := some {
        start := symbol
        required := !lexer.flow && lexer.column == some symbol.column
        tokensBefore := lexer.tokens.length } }
  else some lexer

/-- Closes the block if it ends before a column; without a column, in any case. -/
def closeBlock (lexer : Lexer) (column : Option Nat) : Lexer :=
  match lexer.column with
  | some current =>
    if !lexer.flow && (column.all (· < current)) then
      { lexer.emit .blockEnd with column := none }
    else lexer
  | none => lexer

/-- Whether a block has to be opened for an entry at a column. There is no result for an entry
further to the right than the block that is open. -/
def opensBlock? (lexer : Lexer) (column : Nat) : Option Bool :=
  if lexer.flow then some false
  else match lexer.column with
    | none => some true
    | some current => if current < column then none else some false

/-- Puts a key sign before the candidate, and opens a block there if need be. -/
def markKey? (lexer : Lexer) (candidate : KeyCandidate) : Option Lexer := do
  let column := candidate.start.column
  let opens ← lexer.opensBlock? column
  let recent := lexer.tokens.length - candidate.tokensBefore
  let signs := if opens then [.key, .blockStart] else [.key]
  return { lexer with
    tokens := lexer.tokens.take recent ++ (signs ++ lexer.tokens.drop recent)
    column := if opens then some column else lexer.column
    keyAllowed := false
    candidate := none }

/-- Opens a block for an entry at a column if need be. -/
def openBlock? (lexer : Lexer) (column : Nat) : Option Lexer := do
  if ← lexer.opensBlock? column then return { lexer.emit .blockStart with column := some column }
  else return lexer

/-! ## Steps -/

/-- Reads a directive or a marker, which ends what came before it. -/
def outside? (lexer : Lexer) (token : Token) : Option Lexer := do
  let lexer ← (lexer.closeBlock none).dropCandidate?
  return { lexer.emit token with keyAllowed := false }

/-- Reads an opening brace. -/
def openBrace? (lexer : Lexer) : Option Lexer :=
  if lexer.flow || lexer.column.isSome then none
  else some { lexer.emit .flowStart with flow := true, keyAllowed := true, candidate := none }

/-- Reads a closing brace. -/
def closeBrace? (lexer : Lexer) : Option Lexer :=
  if lexer.flow then
    some { lexer.emit .flowEnd with flow := false, keyAllowed := false, candidate := none }
  else none

/-- Reads a comma between two entries. -/
def comma? (lexer : Lexer) : Option Lexer :=
  if lexer.flow then
    some { lexer.emit .flowEntry with keyAllowed := true, candidate := none }
  else none

/-- Reads the sign of a key that has one. -/
def keySign? (lexer : Lexer) (symbol : Symbol) : Option Lexer :=
  if lexer.flow || lexer.keyAllowed then do
    let lexer ← (← lexer.openBlock? symbol.column).dropCandidate?
    return { lexer.emit .key with keyAllowed := !lexer.flow }
  else none

/-- Reads the colon after a key. -/
def valueSign? (lexer : Lexer) (symbol : Symbol) : Option Lexer :=
  match lexer.candidate with
  | some candidate => (lexer.markKey? candidate).map (·.emit .value)
  | none =>
    if lexer.flow || lexer.keyAllowed then do
      let lexer ← lexer.openBlock? symbol.column
      return { lexer.emit .value with keyAllowed := !lexer.flow }
    else none

/-- Reads a plain scalar. -/
def plainScalar? (lexer : Lexer) (symbol : Symbol) (rest : List Symbol) :
    Option (Lexer × List Symbol) := do
  let lexer ← lexer.startNode? symbol
  let indent := (lexer.column.map (· + 1)).getD 0
  let (text, leftLine, rest) ← plain? lexer.flow indent (symbol :: rest)
  return ({ lexer.emit (.scalar .plain (String.ofList text)) with keyAllowed := leftLine }, rest)

/-- Reads a quoted scalar. -/
def quotedScalar? (lexer : Lexer) (symbol : Symbol) (rest : List Symbol) :
    Option (Lexer × List Symbol) := do
  let lexer ← lexer.startNode? symbol
  let (text, rest) ← quoted? symbol.char rest
  return (lexer.emit (.scalar .quoted (String.ofList text)), rest)

/-- Reads a block of lines. -/
def blockScalar? (lexer : Lexer) (style : Style) (rest : List Symbol) :
    Option (Lexer × List Symbol) := do
  let lexer ← lexer.dropCandidate?
  let (text, rest) ← block? (style == .folded) lexer.column rest
  return ({ lexer.emit (.scalar style (String.ofList text)) with keyAllowed := true }, rest)

/-- Reads the name of an anchor. -/
def named? (lexer : Lexer) (token : List Char → Token) (symbol : Symbol) (rest : List Symbol) :
    Option (Lexer × List Symbol) := do
  let lexer ← lexer.startNode? symbol
  let name := takeName rest
  let rest := rest.drop name.length
  if !name.isEmpty && (endsWord rest || rest.head?.any ("?:,]\x7d%@`".toList.contains ·.char)) then
    return (lexer.emit (token name), rest)
  else none

/-- Reads a tag. -/
def tag? (lexer : Lexer) (symbol : Symbol) (rest : List Symbol) : Option (Lexer × List Symbol) := do
  let lexer ← lexer.startNode? symbol
  let (mark, rest) ← tagMark? rest
  if endsWord rest || (lexer.flow && rest.head?.any (·.char == ',')) then
    return (lexer.emit (.tag mark), rest)
  else none

/-- Reads one token, which starts with a symbol that is not blank. -/
def next? (lexer : Lexer) (symbol : Symbol) (rest : List Symbol) :
    Option (Lexer × List Symbol) :=
  let here := symbol :: rest
  let isSign := lexer.flow || endsWord rest
  if symbol.column == 0 && symbol.char == '%' then do
    let (token, rest) ← directive? rest
    return (← lexer.outside? token, rest)
  else if startsMarker '-' here then (lexer.outside? .documentStart).map (·, rest.drop 2)
  else if startsMarker '.' here then (lexer.outside? .documentEnd).map (·, rest.drop 2)
  else match symbol.char with
    | '\x7b' => lexer.openBrace?.map (·, rest)
    | '\x7d' => lexer.closeBrace?.map (·, rest)
    | ',' => lexer.comma?.map (·, rest)
    | '?' =>
      if isSign then (lexer.keySign? symbol).map (·, rest) else lexer.plainScalar? symbol rest
    | ':' =>
      if isSign then (lexer.valueSign? symbol).map (·, rest) else lexer.plainScalar? symbol rest
    | '-' => if endsWord rest then none else lexer.plainScalar? symbol rest
    | '*' => lexer.named? .reference symbol rest
    | '&' => lexer.named? .anchor symbol rest
    | '!' => lexer.tag? symbol rest
    | '|' => if lexer.flow then none else lexer.blockScalar? .literal rest
    | '>' => if lexer.flow then none else lexer.blockScalar? .folded rest
    | '"' => lexer.quotedScalar? symbol rest
    | '\x27' => lexer.quotedScalar? symbol rest
    | c => if "[]#%@`\t".toList.contains c then none else lexer.plainScalar? symbol rest

/-- The symbols from the next token on, and whether a key is allowed there. Outside braces every
line can start with a key, and where a key is allowed a tab is no blank. -/
def skip (flow : Bool) : Bool → Bool → List Symbol → Bool × List Symbol
  | keyAllowed, _, [] => (keyAllowed, [])
  | keyAllowed, comment, symbol :: rest =>
    if isBreak symbol.char then skip flow (keyAllowed || !flow) false rest
    else if comment || symbol.char == '#' then skip flow keyAllowed true rest
    else if symbol.char == ' ' || (symbol.char == '\t' && (flow || !keyAllowed)) then
      skip flow keyAllowed false rest
    else (keyAllowed, symbol :: rest)

/-- Reads the tokens of a document. Every token takes at least one symbol, which bounds the number
of steps. -/
def run? : Nat → Lexer → List Symbol → Option Lexer
  | 0, _, _ => none
  | steps + 1, lexer, symbols =>
    match skip lexer.flow lexer.keyAllowed false symbols with
    | (_, []) => (lexer.closeBlock none).dropCandidate?
    | (keyAllowed, symbol :: rest) => do
      let lexer ← { lexer with keyAllowed }.expire? symbol
      let (lexer, rest) ← (lexer.closeBlock (some symbol.column)).next? symbol rest
      run? steps lexer rest

end Lexer

/-- The tokens of a document. -/
def tokens? (text : String) : Option (List Token) := do
  let symbols ← symbols? text
  let lexer ← Lexer.run? (symbols.length + 1) {} symbols
  return lexer.tokens.reverse

end Transcoding.Yaml
