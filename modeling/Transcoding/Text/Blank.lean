import Transcoding.Text.CodeRange

/-!
# White space

The property White_Space and the two ways it is used: skipping blanks at the front of a text, and
trimming a text at both ends.
-/

namespace Transcoding.Text

/-- The white space from U+0080 on. -/
def blankRanges : List (Nat × Nat) :=
  [(0x85, 0x85), (0xA0, 0xA0), (0x1680, 0x1680), (0x2000, 0x200A), (0x2028, 0x2029),
   (0x202F, 0x202F), (0x205F, 0x205F), (0x3000, 0x3000)]

/-- White space: the ASCII blanks from tab to carriage return, the space, and the blanks of
`blankRanges`. -/
def isBlank (c : Char) : Bool :=
  if isAscii c then c == ' ' || ('\t' ≤ c && c ≤ '\r') else inRanges blankRanges c

/-- The text from its first character that is not blank. -/
def skipBlanks (text : List Char) : List Char := text.dropWhile isBlank

/-- The text without the blanks at its two ends. -/
def trimBlanks (text : List Char) : List Char :=
  (skipBlanks (skipBlanks text).reverse).reverse

end Transcoding.Text
