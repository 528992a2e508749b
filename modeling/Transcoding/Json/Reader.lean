import Transcoding.Json.Numeral
import Transcoding.Text.Decimal
import Transcoding.Text.Utf8

/-!
# Reading JSON text

A text is read from left to right into a tree. A text that is not JSON has one of two faults: it
ended where more was needed, or a symbol ruled it out. The reader can be strict or lenient. A
strict reader also rules out what has no value: half a surrogate pair, a number beyond the greatest
one, octets that are not UTF-8, and more than `maxDepth` brackets inside each other. A lenient
reader leaves such literals in the tree without a value, for the parts of a text that nobody asks
for.
-/

namespace Transcoding.Json

open Transcoding.Text

/-- Why a text is not JSON. -/
inductive Fault where
  /-- The text ended where more was needed. -/
  | endOfText
  /-- A symbol cannot stand where it stands. -/
  | ruledOut
  deriving DecidableEq

/-- Stands in a message for the wording of a reader's complaint about a text. -/
def complaint : String := "<detail>"

/-- A JSON text as it is written: fields in the order of the text, repeated keys included. A number
without a value is beyond the greatest one; a string without a text has half a surrogate pair. -/
inductive Tree where
  | null
  | bool (value : Bool)
  | number (value : Option JsonNumber)
  | string (text : Option String)
  | array (items : List Tree)
  | object (fields : List (Option String × Tree))

/-- The greatest number of brackets inside each other that a strict reader takes. -/
def maxDepth : Nat := 127

/-- The symbols after the blanks of JSON: space, tab, line feed and carriage return. -/
def skipBlanks : List Symbol → List Symbol
  | .char c :: rest =>
    if c == ' ' || c == '\t' || c == '\n' || c == '\r' then skipBlanks rest
    else .char c :: rest
  | symbols => symbols

/-- The rest of a text that must go on with the given characters. -/
def expect : List Char → List Symbol → Except Fault (List Symbol)
  | [], symbols => .ok symbols
  | _ :: _, [] => .error .endOfText
  | c :: cs, symbol :: rest => if symbol = .char c then expect cs rest else .error .ruledOut

/-! ## Strings -/

/-- The value of a hexadecimal digit. -/
def hexValue? : Symbol → Option Nat
  | .char c => hexDigit? c
  | .malformed _ => none

/-- The code unit that four hexadecimal digits spell. -/
def codeUnit? (a b c d : Symbol) : Option Nat := do
  let high := (← hexValue? a) * 16 + (← hexValue? b)
  let low := (← hexValue? c) * 16 + (← hexValue? d)
  return high * 256 + low

/-- The first half of a surrogate pair. -/
def isHighSurrogate (unit : Nat) : Bool := 0xD800 ≤ unit && unit ≤ 0xDBFF

/-- The second half of a surrogate pair. -/
def isLowSurrogate (unit : Nat) : Bool := 0xDC00 ≤ unit && unit ≤ 0xDFFF

/-- The character of a surrogate pair. -/
def pairedChar (high low : Nat) : Char :=
  Char.ofNat (0x10000 + (high - 0xD800) * 0x400 + (low - 0xDC00))

/-- The character that a letter after a backslash stands for. -/
def escapedChar? : Char → Option Char
  | '"' => some '"'
  | '\\' => some '\\'
  | '/' => some '/'
  | 'b' => some '\x08'
  | 'f' => some '\x0c'
  | 'n' => some '\n'
  | 'r' => some '\r'
  | 't' => some '\t'
  | _ => none

/-- The number of octets that the symbols stand for. -/
def octetCount (symbols : List Symbol) : Nat :=
  symbols.foldr (fun symbol count => symbol.octetCount + count) 0

/-- One more character in front of what a string reader found. -/
def consChar (c : Char) : Option (List Char) × List Symbol → Option (List Char) × List Symbol
  | (text, rest) => (text.map (c :: ·), rest)

/-- What a string reader found, without a text. -/
def noText : Option (List Char) × List Symbol → Option (List Char) × List Symbol
  | (_, rest) => (none, rest)

/-- Reads a string after its opening quote. `pending` is the first half of a surrogate pair, if the
last symbols spelled one. The four digits of an escape are read together, so an escape with fewer
than four octets after it has been cut short. -/
def stringTail (strict : Bool) :
    Option Nat → List Symbol → Except Fault (Option (List Char) × List Symbol)
  | _, [] => .error .endOfText
  | pending, .char '\\' :: rest =>
    match rest with
    | [] => .error .endOfText
    | .char 'u' :: a :: b :: c :: d :: rest =>
      match codeUnit? a b c d with
      | none => .error .ruledOut
      | some unit =>
        match pending with
        | some high =>
          if isLowSurrogate unit then
            (stringTail strict none rest).map (consChar (pairedChar high unit))
          else if strict then .error .ruledOut
          else if isHighSurrogate unit then (stringTail strict (some unit) rest).map noText
          else (stringTail strict none rest).map noText
        | none =>
          if isHighSurrogate unit then stringTail strict (some unit) rest
          else if isLowSurrogate unit then
            if strict then .error .ruledOut else (stringTail strict none rest).map noText
          else (stringTail strict none rest).map (consChar (Char.ofNat unit))
    | .char 'u' :: short =>
      if octetCount short < 4 then .error .endOfText else .error .ruledOut
    | .char letter :: rest =>
      match escapedChar? letter with
      | none => .error .ruledOut
      | some c =>
        if pending.isNone then (stringTail strict none rest).map (consChar c)
        else if strict then .error .ruledOut
        else (stringTail strict none rest).map noText
    | .malformed _ :: _ => .error .ruledOut
  | pending, .char c :: rest =>
    if pending.isSome && strict then .error .ruledOut
    else if c = '"' then .ok (if pending.isSome then none else some [], rest)
    else if c < ' ' then .error .ruledOut
    else if pending.isSome then (stringTail strict none rest).map noText
    else (stringTail strict none rest).map (consChar c)
  | pending, .malformed _ :: rest =>
    if pending.isSome && strict then .error .ruledOut
    else (stringTail strict none rest).map noText

/-- Reads a string after its opening quote. -/
def readString (strict : Bool) (symbols : List Symbol) :
    Except Fault (Option String × List Symbol) :=
  match stringTail strict none symbols with
  | .error fault => .error fault
  | .ok (none, rest) => if strict then .error .ruledOut else .ok (none, rest)
  | .ok (some text, rest) => .ok (some (String.ofList text), rest)

/-! ## Numbers -/

/-- The value of a decimal digit. -/
def digit? : Symbol → Option Nat
  | .char c => if '0' ≤ c && c ≤ '9' then some (c.toNat - '0'.toNat) else none
  | .malformed _ => none

/-- The longest run of digits, and the rest. -/
def digitRun : List Symbol → List Nat × List Symbol
  | [] => ([], [])
  | symbol :: rest =>
    match digit? symbol with
    | some d =>
      let (digits, rest) := digitRun rest
      (d :: digits, rest)
    | none => ([], symbol :: rest)

/-- A run of at least one digit. -/
def someDigits (symbols : List Symbol) : Except Fault (List Nat × List Symbol) :=
  match digitRun symbols with
  | ([], []) => .error .endOfText
  | ([], _ :: _) => .error .ruledOut
  | (digits, rest) => .ok (digits, rest)

/-- The digits before the point: a zero alone, or a run that starts with another digit. -/
def wholeDigits (symbols : List Symbol) : Except Fault (List Nat × List Symbol) := do
  let (digits, rest) ← someDigits symbols
  match digits with
  | 0 :: _ :: _ => .error .ruledOut
  | _ => .ok (digits, rest)

/-- The digits after the point, if there is a point. -/
def fractionDigits : List Symbol → Except Fault (List Nat × List Symbol)
  | .char '.' :: rest => someDigits rest
  | symbols => .ok ([], symbols)

/-- The sign in front of an exponent, true if it is a minus. -/
def exponentSign : List Symbol → Bool × List Symbol
  | .char '+' :: rest => (false, rest)
  | .char '-' :: rest => (true, rest)
  | symbols => (false, symbols)

/-- The exponent, if there is one. -/
def exponentDigits : List Symbol → Except Fault (Option (Bool × List Nat) × List Symbol)
  | .char c :: rest =>
    if c = 'e' || c = 'E' then do
      let (negative, rest) := exponentSign rest
      let (digits, rest) ← someDigits rest
      .ok (some (negative, digits), rest)
    else .ok (none, .char c :: rest)
  | symbols => .ok (none, symbols)

/-- Reads a number after its sign. -/
def readNumber (strict : Bool) (negative : Bool) (symbols : List Symbol) :
    Except Fault (Option JsonNumber × List Symbol) := do
  let (whole, rest) ← wholeDigits symbols
  let (fraction, rest) ← fractionDigits rest
  let (exponent, rest) ← exponentDigits rest
  let value := Numeral.value? { negative, whole, fraction, exponent }
  if strict && value.isNone then .error .ruledOut else .ok (value, rest)

/-! ## Values -/

mutual
/-- Reads a value inside `depth` brackets. -/
def readValue (strict : Bool) :
    Nat → Nat → List Symbol → Except Fault (Tree × List Symbol)
  | 0, _, _ => .error .ruledOut
  | fuel + 1, depth, symbols =>
    match skipBlanks symbols with
    | [] => .error .endOfText
    | .malformed _ :: _ => .error .ruledOut
    | .char 'n' :: rest => (expect ['u', 'l', 'l'] rest).map (.null, ·)
    | .char 't' :: rest => (expect ['r', 'u', 'e'] rest).map (.bool true, ·)
    | .char 'f' :: rest => (expect ['a', 'l', 's', 'e'] rest).map (.bool false, ·)
    | .char '"' :: rest => (readString strict rest).map fun (text, rest) => (.string text, rest)
    | .char '-' :: rest =>
      (readNumber strict true rest).map fun (value, rest) => (.number value, rest)
    | .char '[' :: rest =>
      if strict && maxDepth ≤ depth then .error .ruledOut
      else (readItems strict fuel (depth + 1) rest).map fun (items, rest) => (.array items, rest)
    | .char '\x7b' :: rest =>
      if strict && maxDepth ≤ depth then .error .ruledOut
      else (readFields strict fuel (depth + 1) rest).map fun (fields, rest) =>
        (.object fields, rest)
    | .char c :: rest =>
      if '0' ≤ c && c ≤ '9' then
        (readNumber strict false (.char c :: rest)).map fun (value, rest) =>
          (.number value, rest)
      else .error .ruledOut
termination_by structural fuel => fuel

/-- Reads the items of an array after its opening bracket. -/
def readItems (strict : Bool) :
    Nat → Nat → List Symbol → Except Fault (List Tree × List Symbol)
  | 0, _, _ => .error .ruledOut
  | fuel + 1, depth, symbols =>
    match skipBlanks symbols with
    | [] => .error .endOfText
    | .char ']' :: rest => .ok ([], rest)
    | symbols => do
      let (item, rest) ← readValue strict fuel depth symbols
      let (items, rest) ← readMoreItems strict fuel depth rest
      .ok (item :: items, rest)
termination_by structural fuel => fuel

/-- Reads the items of an array after an item. -/
def readMoreItems (strict : Bool) :
    Nat → Nat → List Symbol → Except Fault (List Tree × List Symbol)
  | 0, _, _ => .error .ruledOut
  | fuel + 1, depth, symbols =>
    match skipBlanks symbols with
    | [] => .error .endOfText
    | .char ']' :: rest => .ok ([], rest)
    | .char ',' :: rest => do
      let (item, rest) ← readValue strict fuel depth rest
      let (items, rest) ← readMoreItems strict fuel depth rest
      .ok (item :: items, rest)
    | _ :: _ => .error .ruledOut
termination_by structural fuel => fuel

/-- Reads the fields of an object after its opening brace. -/
def readFields (strict : Bool) :
    Nat → Nat → List Symbol → Except Fault (List (Option String × Tree) × List Symbol)
  | 0, _, _ => .error .ruledOut
  | fuel + 1, depth, symbols =>
    match skipBlanks symbols with
    | [] => .error .endOfText
    | .char '\x7d' :: rest => .ok ([], rest)
    | symbols => do
      let (field, rest) ← readField strict fuel depth symbols
      let (fields, rest) ← readMoreFields strict fuel depth rest
      .ok (field :: fields, rest)
termination_by structural fuel => fuel

/-- Reads the fields of an object after a field. -/
def readMoreFields (strict : Bool) :
    Nat → Nat → List Symbol → Except Fault (List (Option String × Tree) × List Symbol)
  | 0, _, _ => .error .ruledOut
  | fuel + 1, depth, symbols =>
    match skipBlanks symbols with
    | [] => .error .endOfText
    | .char '\x7d' :: rest => .ok ([], rest)
    | .char ',' :: rest => do
      let (field, rest) ← readField strict fuel depth rest
      let (fields, rest) ← readMoreFields strict fuel depth rest
      .ok (field :: fields, rest)
    | _ :: _ => .error .ruledOut
termination_by structural fuel => fuel

/-- Reads a key, a colon and a value. -/
def readField (strict : Bool) :
    Nat → Nat → List Symbol → Except Fault ((Option String × Tree) × List Symbol)
  | 0, _, _ => .error .ruledOut
  | fuel + 1, depth, symbols =>
    match skipBlanks symbols with
    | [] => .error .endOfText
    | .char '"' :: rest => do
      let (key, rest) ← readString strict rest
      match skipBlanks rest with
      | [] => .error .endOfText
      | .char ':' :: rest => do
        let (value, rest) ← readValue strict fuel depth rest
        .ok ((key, value), rest)
      | _ :: _ => .error .ruledOut
    | _ :: _ => .error .ruledOut
termination_by structural fuel => fuel
end

/-- Reads a whole text. Each step of the reader takes a symbol or hands on to one that does, so
four steps for each symbol are enough. -/
def readTree (strict : Bool) (symbols : List Symbol) : Except Fault Tree := do
  let (tree, rest) ← readValue strict (4 * symbols.length + 4) 0 symbols
  match skipBlanks rest with
  | [] => .ok tree
  | _ :: _ => .error .ruledOut

/-! ## Free values -/

mutual
/-- The value of a tree: of repeated keys the last one counts. -/
def Tree.value? : Tree → Option Json
  | .null => some .null
  | .bool value => some (.bool value)
  | .number value => value.map .number
  | .string text => text.map .string
  | .array items => (Tree.values? items).map .array
  | .object fields => (Tree.fieldValues? fields).map fun pairs =>
      .object (pairs.foldl (fun acc (key, value) => insertField key value acc) [])

/-- The values of trees. -/
def Tree.values? : List Tree → Option (List Json)
  | [] => some []
  | tree :: rest => do
    let value ← tree.value?
    let values ← Tree.values? rest
    return value :: values

/-- The keys and values of fields. -/
def Tree.fieldValues? : List (Option String × Tree) → Option (List (String × Json))
  | [] => some []
  | (key, tree) :: rest => do
    let key ← key
    let value ← tree.value?
    let values ← Tree.fieldValues? rest
    return (key, value) :: values
end

/-- Reads a free value. -/
def read (symbols : List Symbol) : Except Fault Json := do
  let tree ← readTree true symbols
  match tree.value? with
  | some value => .ok value
  | none => .error .ruledOut

/-- Reads the tree of a text of which parts may be passed over. -/
def readTreeOf (text : String) : Except Fault Tree :=
  readTree false (text.toList.map Symbol.char)

end Transcoding.Json
