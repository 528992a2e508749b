import Transcoding.Text.Utf8

/-!
# Balancing delimiters

The end of a region that an opening delimiter has begun. Delimiters are counted wherever they
stand, also in quoted text and comments. Two views are kept: offsets count octets and the
delimiters may be any two octets (`scanBalanced`), and a region is a text between braces
(`balancedRegion`).
-/

namespace Transcoding.Declaration

open Transcoding.Text

/-- An opening and a closing octet. -/
structure Delimiters where
  opening : UInt8
  closing : UInt8
  deriving DecidableEq

/-- The pair of braces. -/
def Delimiters.braces : Delimiters := { opening := 0x7B, closing := 0x7D }

/-- The pair of parentheses. -/
def Delimiters.parentheses : Delimiters := { opening := 0x28, closing := 0x29 }

/-- The index of the octet that closes `depth + 1` open delimiters. An octet that is both
delimiters opens. -/
def closingIndex (delimiters : Delimiters) : Nat → List UInt8 → Option Nat
  | _, [] => none
  | depth, b :: bs =>
    if b = delimiters.opening then (closingIndex delimiters (depth + 1) bs).map (· + 1)
    else if b = delimiters.closing then
      match depth with
      | 0 => some 0
      | outer + 1 => (closingIndex delimiters outer bs).map (· + 1)
    else (closingIndex delimiters depth bs).map (· + 1)

/-- The offset just after the octet that closes the region begun before `start`, or the length of
the text if nothing closes it. -/
def scanBalanced (delimiters : Delimiters) (octets : List UInt8) (start : Nat) : Nat :=
  match closingIndex delimiters 0 (octets.drop start) with
  | some index => start + index + 1
  | none => octets.length

/-- The text up to the brace that closes `depth + 1` open ones, or all of it. -/
def regionFrom : Nat → List Char → List Char
  | _, [] => []
  | depth, c :: cs =>
    if c = '\x7b' then c :: regionFrom (depth + 1) cs
    else if c = '\x7d' then
      match depth with
      | 0 => []
      | outer + 1 => c :: regionFrom outer cs
    else c :: regionFrom depth cs

/-- The text up to the brace that closes the region begun just before it; a region that nothing
closes ends with the text. -/
def balancedRegion (text : List Char) : List Char := regionFrom 0 text

/-- The text from an offset in octets, if a character starts there or the text ends there. -/
def dropOctets : Nat → List Char → Option (List Char)
  | 0, text => some text
  | _ + 1, [] => none
  | n + 1, c :: cs => if c.utf8Size ≤ n + 1 then dropOctets (n + 1 - c.utf8Size) cs else none

/-- The region that begins at an offset in octets. There is none if the offset lies inside a
character; past the end of the text it is empty. -/
def regionAt (text : String) (start : Nat) : Option String :=
  if text.utf8ByteSize ≤ start then some ""
  else (dropOctets start text.toList).map fun rest => String.ofList (balancedRegion rest)

end Transcoding.Declaration
