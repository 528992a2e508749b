import Transcoding.Model
import Transcoding.Template.Matching

/-!
# Routes

A route table lists the bindings of a service. A request is served by the first route that has its
verb and whose template matches its path. A table of which one template cannot be read serves
nothing.
-/

namespace Transcoding

/-- A binding of a method, as a server looks it up. -/
structure Route where
  method : String
  /-- The verb that the route serves; letter case does not matter. -/
  verb : String
  template : String
  source : PayloadSource
  deriving DecidableEq

/-- The routes of a service, in the order in which they are tried. -/
abbrev RouteTable := List Route

/-- The ASCII letters in upper case, and every other character as it is. -/
def upperAscii (text : String) : List Char := text.toList.map Char.toUpper

/-- Whether two verbs differ in the case of ASCII letters only. -/
def sameVerb (a b : String) : Bool := upperAscii a == upperAscii b

/-- The templates of a table, or the fault of the first one that cannot be read. -/
def RouteTable.templates (table : RouteTable) : Except TemplateError (List PathTemplate) :=
  table.mapM fun route => PathTemplate.parse route.template

/-- The first of the routes that serves a request, counted from `index`, and its captures. -/
def firstMatch (verb path : String) (index : Nat) :
    List (Route × PathTemplate) → Option (Nat × Captures)
  | [] => none
  | (route, template) :: rest =>
    match if sameVerb route.verb verb then template.match? path else none with
    | some captures => some (index, captures)
    | none => firstMatch verb path (index + 1) rest

/-- The route that serves a request, and its captures. -/
def RouteTable.route (table : RouteTable) (verb path : String) :
    Except TemplateError (Option (Nat × Captures)) := do
  let templates ← table.templates
  return firstMatch verb path 0 (table.zip templates)

/-- The route of a bound method. -/
def Method.route (method : Method) : Route :=
  { method := method.name
    verb := method.binding.verb.name
    template := method.binding.pathTemplate
    source := method.binding.payloadSource }

end Transcoding
