import Transcoding.Text.Visible

/-!
# Quoted text

A text between double quotes. The quote and the backslash are written with a backslash before
them, tab, line feed, carriage return and NUL by a letter or digit after a backslash, and hidden
or extending characters by their code point in hexadecimal between braces. Every other character
stands for itself.
-/

namespace Transcoding.Text

/-- The hexadecimal digits of a number, in lower case and without leading zeros. -/
def hexDigits (n : Nat) : List Char := Nat.toDigits 16 n

/-- The spelling of a character between double quotes. -/
def spellQuoted (c : Char) : List Char :=
  if c = '\x00' then ['\\', '0']
  else if c = '\t' then ['\\', 't']
  else if c = '\r' then ['\\', 'r']
  else if c = '\n' then ['\\', 'n']
  else if c = '"' || c = '\\' then ['\\', c]
  else if isExtending c || isHidden c then
    ['\\', 'u', '\x7b'] ++ hexDigits c.toNat ++ ['\x7d']
  else [c]

/-- The text between double quotes. -/
def quoteChars (text : List Char) : List Char := '"' :: text.flatMap spellQuoted ++ ['"']

/-- The string between double quotes. -/
def quote (s : String) : String := String.ofList (quoteChars s.toList)

end Transcoding.Text
