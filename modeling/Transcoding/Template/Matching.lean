import Transcoding.Template.Basic

/-!
# Matching paths

A template matches a path that it spells once its variables have values. The values are found from
left to right. A variable whose pattern ends in one segment takes that segment, or the part of it
before the first place where the following text starts, if that text does not start with a slash.
A variable whose pattern ends in the rest of the path goes up to the last place where the following
text starts. No value is empty.
-/

namespace Transcoding

open Transcoding.Text

/-- The names and the values of the variables of a template, from left to right. -/
abbrev Captures := List (String × String)

/-- The leading segments of a pattern, each with its slash, and the rest of the path. -/
def captureLeading : List Segment → List Char → Option (List Char × List Char)
  | [], path => some ([], path)
  | segment :: segments, path => do
    let (text, after) ← cutAt '/' path
    if segment.accepts text then
      let (value, rest) ← captureLeading segments after
      return (text ++ '/' :: value, rest)
    else none

/-- The last part of a pattern, before the text `next`, and the rest of the path. -/
def captureLast (next : List Char) : LastSegment → List Char → Option (List Char × List Char)
  | .rest, path => if next.isEmpty then some (path, []) else splitAtLast next path
  | .one (.literal text), path => (text.toList.isPrefixOf? path).map fun rest => (text.toList, rest)
  | .one .any, path =>
    let segment := path.takeWhile (· != '/')
    let after := path.dropWhile (· != '/')
    if next.isEmpty || ['/'].isPrefixOf next then some (segment, after)
    else (splitAtFirst next segment).map fun (value, found) => (value, found ++ after)

/-- The value at the start of a path, before the text `next`, and the rest of the path. -/
def Pattern.capture (pattern : Pattern) (next path : List Char) :
    Option (List Char × List Char) := do
  let (leading, rest) ← captureLeading pattern.leading path
  let (last, rest) ← captureLast next pattern.last rest
  if last.isEmpty then none else return (leading ++ last, rest)

/-- The values of placeholders that take up a whole path. -/
def matchPlaceholders : List Placeholder → List Char → Option Captures
  | [], path => if path.isEmpty then some [] else none
  | p :: placeholders, path => do
    let (value, rest) ← p.pattern.capture p.following.toList path
    let rest ← p.following.toList.isPrefixOf? rest
    let captures ← matchPlaceholders placeholders rest
    return (p.name, String.ofList value) :: captures

/-- The values of the variables for which the template spells the path. -/
def PathTemplate.match? (template : PathTemplate) (path : String) : Option Captures := do
  let rest ← template.lead.toList.isPrefixOf? path.toList
  matchPlaceholders template.placeholders rest

end Transcoding
