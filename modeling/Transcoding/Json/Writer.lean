import Transcoding.Json.Value

/-!
# JSON text

Values are written without blanks, or with one item to a line. A string escapes the quote, the
backslash and the controls; everything else stands for itself. A floating-point number is written
with the fewest digits that read back, with a decimal point between the exponents of
`plainExponents` and in scientific notation outside them.
-/

namespace Transcoding.Json

open Transcoding.Number

/-- The spelling of a character in a JSON string. -/
def spell (c : Char) : List Char :=
  if c = '"' || c = '\\' then ['\\', c]
  else if c = '\x08' then ['\\', 'b']
  else if c = '\x0c' then ['\\', 'f']
  else if c = '\n' then ['\\', 'n']
  else if c = '\r' then ['\\', 'r']
  else if c = '\t' then ['\\', 't']
  else if c < ' ' then
    ['\\', 'u', '0', '0', Nat.digitChar (c.toNat / 16), Nat.digitChar (c.toNat % 16)]
  else [c]

/-- A string between quotes. -/
def quoted (s : String) : List Char := '"' :: s.toList.flatMap spell ++ ['"']

/-- The exponents of the leading digit from which and up to which a decimal point is written. -/
def plainExponents : Int × Int := (-5, 15)

/-- The digits without the zeros at their end. -/
def trimZeros (digits : List Char) : List Char :=
  (digits.reverse.dropWhile (· == '0')).reverse

/-- The significant digits of a decimal, with a decimal point that has digits on both sides. -/
def plain (digits : List Char) (leading : Int) : List Char :=
  if leading < 0 then
    ['0', '.'] ++ List.replicate (-leading - 1).toNat '0' ++ digits
  else
    let width := leading.toNat + 1
    if digits.length ≤ width then
      digits ++ List.replicate (width - digits.length) '0' ++ ['.', '0']
    else digits.take width ++ ['.'] ++ digits.drop width

/-- The significant digits of a decimal in scientific notation; the sign of the exponent is always
written. -/
def scientific (digits : List Char) (leading : Int) : List Char :=
  let point := if digits.length ≤ 1 then digits else digits.take 1 ++ ['.'] ++ digits.drop 1
  point ++ ['e', if leading < 0 then '-' else '+'] ++ Nat.toDigits 10 leading.natAbs

/-- The text of a magnitude. -/
def magnitudeText (m : Magnitude) : List Char :=
  if m.significand = 0 then ['0', '.', '0']
  else
    let decimal := m.shortest
    let all := Nat.toDigits 10 decimal.digits
    let leading := decimal.exponent + Int.ofNat all.length - 1
    if plainExponents.1 ≤ leading && leading ≤ plainExponents.2 then plain (trimZeros all) leading
    else scientific (trimZeros all) leading

/-- The text of an integer. -/
def integerText (value : Int) : List Char :=
  if value < 0 then '-' :: Nat.toDigits 10 value.natAbs else Nat.toDigits 10 value.natAbs

/-- The text of a number. -/
def numberText : JsonNumber → List Char
  | .integer value => integerText value
  | .double negative magnitude =>
    if negative then '-' :: magnitudeText magnitude else magnitudeText magnitude

mutual
/-- The text of a value without blanks. -/
def compact : Json → List Char
  | .null => ['n', 'u', 'l', 'l']
  | .bool true => ['t', 'r', 'u', 'e']
  | .bool false => ['f', 'a', 'l', 's', 'e']
  | .number value => numberText value
  | .string text => quoted text
  | .array [] => ['[', ']']
  | .array (item :: rest) => '[' :: compact item ++ compactItems rest
  | .object [] => ['\x7b', '\x7d']
  | .object ((key, value) :: rest) =>
    '\x7b' :: quoted key ++ ':' :: compact value ++ compactFields rest

/-- The items of an array after its first one, and the closing bracket. -/
def compactItems : List Json → List Char
  | [] => [']']
  | item :: rest => ',' :: compact item ++ compactItems rest

/-- The fields of an object after its first one, and the closing brace. -/
def compactFields : List (String × Json) → List Char
  | [] => ['\x7d']
  | (key, value) :: rest =>
    ',' :: quoted key ++ ':' :: compact value ++ compactFields rest
end

/-- The start of a line at a depth of nesting. -/
def newline (depth : Nat) : List Char := '\n' :: List.replicate (2 * depth) ' '

mutual
/-- The text of a value with one item to a line, inside `depth` brackets. -/
def prettyAt (depth : Nat) : Json → List Char
  | .array (item :: rest) =>
    '[' :: newline (depth + 1) ++ prettyAt (depth + 1) item ++ prettyItems depth rest
  | .object ((key, value) :: rest) =>
    '\x7b' :: newline (depth + 1) ++ quoted key ++ [':', ' ']
      ++ prettyAt (depth + 1) value ++ prettyFields depth rest
  | .null => ['n', 'u', 'l', 'l']
  | .bool true => ['t', 'r', 'u', 'e']
  | .bool false => ['f', 'a', 'l', 's', 'e']
  | .number value => numberText value
  | .string text => quoted text
  | .array [] => ['[', ']']
  | .object [] => ['\x7b', '\x7d']

/-- The items of an array after its first one, and the closing bracket. -/
def prettyItems (depth : Nat) : List Json → List Char
  | [] => newline depth ++ [']']
  | item :: rest =>
    ',' :: newline (depth + 1) ++ prettyAt (depth + 1) item ++ prettyItems depth rest

/-- The fields of an object after its first one, and the closing brace. -/
def prettyFields (depth : Nat) : List (String × Json) → List Char
  | [] => newline depth ++ ['\x7d']
  | (key, value) :: rest =>
    ',' :: newline (depth + 1) ++ quoted key ++ [':', ' ']
      ++ prettyAt (depth + 1) value ++ prettyFields depth rest
end

/-- The text of a value without blanks. -/
def render (value : Json) : String := String.ofList (compact value)

/-- The text of a value with one item to a line. -/
def renderPretty (value : Json) : String := String.ofList (prettyAt 0 value)

end Transcoding.Json
