/-!
# Ranges of code points

A property of characters is a list of closed ranges of code points. The tables of this library
hold no ASCII character: each property says its ASCII members by a rule of their own, so that a
statement about ASCII text never opens a table. The tables are those of Unicode 17.0 unless a
module says otherwise.
-/

namespace Transcoding.Text

/-- The character lies in one of the closed ranges. -/
def inRanges (ranges : List (Nat × Nat)) (c : Char) : Bool :=
  ranges.any fun r => r.1 ≤ c.toNat && c.toNat ≤ r.2

/-- A character below U+0080. -/
def isAscii (c : Char) : Bool := c.toNat < 128

end Transcoding.Text
