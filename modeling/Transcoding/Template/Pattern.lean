import Transcoding.Text.Cut

/-!
# Placeholder patterns

A pattern lists the path segments that a placeholder captures: texts that stand for themselves, a
star for any segment, and at the end perhaps two stars for the rest of the path.
-/

namespace Transcoding

open Transcoding.Text

/-- One path segment of a pattern. -/
inductive Segment where
  /-- The segment with this text. -/
  | literal (text : String)
  /-- Any segment that is not empty. -/
  | any
  deriving DecidableEq

/-- The last part of a pattern. -/
inductive LastSegment where
  /-- One more segment. -/
  | one (segment : Segment)
  /-- The rest of the path. -/
  | rest
  deriving DecidableEq

/-- What a placeholder captures: the leading segments, each with the slash after it, and the last
part. -/
structure Pattern where
  leading : List Segment
  last : LastSegment
  deriving DecidableEq

/-- The pattern of a placeholder without one: any one segment. -/
def Pattern.any : Pattern := { leading := [], last := .one .any }

/-- Whether a segment of a path suits a segment of a pattern. -/
def Segment.accepts (text : List Char) : Segment → Bool
  | .literal expected => text == expected.toList
  | .any => !text.isEmpty

/-- Reads one segment of a pattern. -/
def Segment.read? (text : List Char) : Option Segment :=
  if text.isEmpty then none
  else if text = ['*'] then some .any
  else if text.contains '*' || text.contains '\x7b' then none
  else some (.literal (String.ofList text))

/-- Reads the last part of a pattern. -/
def LastSegment.read? (text : List Char) : Option LastSegment :=
  if text = ['*', '*'] then some .rest else (Segment.read? text).map .one

/-- Reads the segments of a pattern. -/
def Pattern.ofSegments? : List (List Char) → Option Pattern
  | [] => none
  | [text] => (LastSegment.read? text).map fun last => { leading := [], last }
  | text :: rest => do
    let segment ← Segment.read? text
    let pattern ← Pattern.ofSegments? rest
    return { pattern with leading := segment :: pattern.leading }

/-- Reads a pattern. -/
def Pattern.read? (text : List Char) : Option Pattern := Pattern.ofSegments? (fields '/' text)

end Transcoding
