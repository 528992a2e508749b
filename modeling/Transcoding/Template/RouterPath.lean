import Transcoding.Template.Basic

/-!
# Router paths

A router knows exact paths and paths that end in a catch-all. The router path of a template covers
every path that the template matches; the exact matching is done behind it. A template without
placeholders is its own router path. Any other one keeps whole segments: those before the first
placeholder, and the literal ones that open its pattern. A segment that starts with a colon or a
star is syntax to the router, so no such segment is kept.
-/

namespace Transcoding

open Transcoding.Text

/-- A path as a router takes it. -/
inductive RouterPath where
  /-- This path only. -/
  | exact (path : String)
  /-- Every longer path that starts with this text. -/
  | under (stem : String)
  deriving DecidableEq

/-- The text of a router path. -/
def RouterPath.render : RouterPath → String
  | exact path => path
  | under stem => stem ++ "\x7b*rest\x7d"

/-- The text before the first segment that is syntax to the router, if there is one. -/
def beforeReserved? : List Char → Option (List Char)
  | [] => none
  | c :: cs =>
    if c = '/' && (cs.head? == some ':' || cs.head? == some '*') then some ['/']
    else (beforeReserved? cs).map (c :: ·)

/-- The text up to the last slash, and the slash. -/
def throughLastSlash (text : List Char) : List Char :=
  match splitAtLast ['/'] text with
  | some (before, _) => before ++ ['/']
  | none => []

/-- The text of the literal segments that a router can take. -/
def staticSegments : List Segment → List Char
  | .literal text :: rest =>
    if text.toList.head? == some ':' then [] else text.toList ++ '/' :: staticSegments rest
  | _ => []

/-- The router path of a template. -/
def PathTemplate.routerPath (template : PathTemplate) : RouterPath :=
  let lead := template.lead.toList
  match beforeReserved? lead with
  | some stem => .under (String.ofList stem)
  | none =>
    match template.placeholders with
    | [] => .exact template.lead
    | p :: _ =>
      let stem := throughLastSlash lead
      if stem = lead then .under (String.ofList (stem ++ staticSegments p.pattern.leading))
      else .under (String.ofList stem)

end Transcoding
