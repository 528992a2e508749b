import Transcoding.Template.Pattern
import Transcoding.Text.Blank

/-!
# Path templates

A template such as `/v1/users/{user_id}:activate` is literal text with placeholders in it. A
placeholder names a variable and may give the pattern it captures, as in `{name=projects/*}`.
Two placeholders have text between them, so a template is its leading text and a list of
placeholders, each with the text that follows it; only the text after the last one may be empty.
-/

namespace Transcoding

open Transcoding.Text

/-- A placeholder and the text that follows it. -/
structure Placeholder where
  name : String
  pattern : Pattern
  following : String
  deriving DecidableEq

/-- A path template. -/
structure PathTemplate where
  lead : String
  placeholders : List Placeholder
  deriving DecidableEq

/-- A maximal run of literal text, or a variable and what it captures. -/
inductive TemplatePart where
  | literal (text : String)
  | capture (name : String) (pattern : Pattern)
  deriving DecidableEq

/-- The literal part of a text that may be empty. -/
def TemplatePart.ofText (text : String) : List TemplatePart :=
  if text = "" then [] else [.literal text]

/-- The parts of a template from left to right. -/
def PathTemplate.parts (template : PathTemplate) : List TemplatePart :=
  TemplatePart.ofText template.lead ++ template.placeholders.flatMap fun p =>
    .capture p.name p.pattern :: TemplatePart.ofText p.following

/-- The names of the variables from left to right. -/
def PathTemplate.variableNames (template : PathTemplate) : List String :=
  template.placeholders.map (·.name)

/-- Why a text is not a template. -/
inductive TemplateError where
  | missingLeadingSlash (template : String)
  | unterminated (template : String)
  | strayBrace (template : String)
  | emptyName (template : String)
  | adjacentPlaceholders (first second : String)
  | duplicateName (name : String)
  | invalidPattern (name pattern : String)
  deriving DecidableEq

/-- What is wrong, in words. -/
def TemplateError.message : TemplateError → String
  | missingLeadingSlash template => "template '" ++ template ++ "' must start with '/'"
  | unterminated template => "unterminated placeholder in '" ++ template ++ "'"
  | strayBrace template => "unmatched '\x7d' in '" ++ template ++ "'"
  | emptyName template => "empty placeholder name in '" ++ template ++ "'"
  | adjacentPlaceholders first second =>
    "placeholders '" ++ first ++ "' and '" ++ second ++ "' are adjacent"
  | duplicateName name => "placeholder '" ++ name ++ "' appears twice"
  | invalidPattern name pattern =>
    "invalid pattern '" ++ pattern ++ "' for placeholder '" ++ name ++ "'"

/-! ## Layout -/

/-- How the braces of a text can be wrong. -/
inductive BraceFault where
  /-- A brace is open at the end of the text. -/
  | unterminated
  /-- A brace is closed that was not open. -/
  | stray
  deriving DecidableEq

/-- A text cut at its braces, up to the first fault. -/
structure Layout where
  /-- The text before the first brace. -/
  lead : List Char
  /-- The text inside each pair of braces, and the text after it. -/
  blocks : List (List Char × List Char)
  /-- What stopped the reading, if it is not the end of the text. -/
  fault : Option BraceFault

mutual
/-- Cuts a text that starts outside of braces. -/
def Layout.outside : List Char → Layout
  | [] => { lead := [], blocks := [], fault := none }
  | c :: cs =>
    if c = '\x7d' then { lead := [], blocks := [], fault := some .stray }
    else if c = '\x7b' then
      match Layout.inside cs with
      | none => { lead := [], blocks := [], fault := some .unterminated }
      | some (inner, after) =>
        { lead := [], blocks := (inner, after.lead) :: after.blocks, fault := after.fault }
    else
      let rest := Layout.outside cs
      { rest with lead := c :: rest.lead }

/-- Cuts a text that starts inside of braces: the text up to the closing brace, and what follows
it. A brace that is opened there is text. -/
def Layout.inside : List Char → Option (List Char × Layout)
  | [] => none
  | c :: cs =>
    if c = '\x7d' then some ([], Layout.outside cs)
    else (Layout.inside cs).map fun (inner, after) => (c :: inner, after)
end

/-! ## Reading -/

/-- The name and the pattern that stand between two braces. -/
def readVariable (template : String) (inner : List Char) :
    Except TemplateError (String × Pattern) :=
  let (name, pattern?) :=
    match cutAt '=' inner with
    | some (name, pattern) => (trimBlanks name, some (trimBlanks pattern))
    | none => (trimBlanks inner, none)
  if name.isEmpty then .error (.emptyName template)
  else match pattern? with
    | none => .ok (String.ofList name, .any)
    | some text =>
      match Pattern.read? text with
      | some pattern => .ok (String.ofList name, pattern)
      | none => .error (.invalidPattern (String.ofList name) (String.ofList text))

/-- Reads the blocks of a layout, given the names before them. `previous` is the name of the
placeholder that ends right before the first block, if there is one. -/
def readBlocks (template : String) :
    List String → Option String → List (List Char × List Char) →
      Except TemplateError (List Placeholder)
  | _, _, [] => .ok []
  | seen, previous, (inner, after) :: blocks => do
    let (name, pattern) ← readVariable template inner
    match previous with
    | some first => .error (.adjacentPlaceholders first name)
    | none =>
      if seen.contains name then .error (.duplicateName name)
      else
        let rest ← readBlocks template (name :: seen) (if after.isEmpty then some name else none)
          blocks
        return { name, pattern, following := String.ofList after } :: rest

/-- Reads a template. Faults are found from left to right, and the first one counts. -/
def PathTemplate.parse (template : String) : Except TemplateError PathTemplate :=
  if template.toList.head? != some '/' then .error (.missingLeadingSlash template)
  else do
    let layout := Layout.outside template.toList
    let placeholders ← readBlocks template [] none layout.blocks
    match layout.fault with
    | some .unterminated => .error (.unterminated template)
    | some .stray => .error (.strayBrace template)
    | none => return { lead := String.ofList layout.lead, placeholders }

end Transcoding
