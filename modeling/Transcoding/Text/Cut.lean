/-!
# Cutting a text

Ways to take a text apart at a separator or at an occurrence of another text. Each is structural
on the text, and each loses nothing: the pieces and the separators between them are the text.
-/

namespace Transcoding.Text

/-- The text before and after the first separator. -/
def cutAt (separator : Char) : List Char → Option (List Char × List Char)
  | [] => none
  | c :: cs =>
    if c = separator then some ([], cs)
    else (cutAt separator cs).map fun (before, after) => (c :: before, after)

/-- The texts between the separators; `n` separators give `n + 1` texts. -/
def fields (separator : Char) : List Char → List (List Char)
  | [] => [[]]
  | c :: cs =>
    if c = separator then [] :: fields separator cs
    else match fields separator cs with
      | [] => [[c]]
      | field :: rest => (c :: field) :: rest

/-- The text before the first occurrence of `part`, and the text from that occurrence on. -/
def splitAtFirst (part : List Char) : List Char → Option (List Char × List Char)
  | [] => if part.isEmpty then some ([], []) else none
  | c :: cs =>
    if part.isPrefixOf (c :: cs) then some ([], c :: cs)
    else (splitAtFirst part cs).map fun (before, rest) => (c :: before, rest)

/-- The text before the last occurrence of `part`, and the text from that occurrence on. -/
def splitAtLast (part : List Char) : List Char → Option (List Char × List Char)
  | [] => if part.isEmpty then some ([], []) else none
  | c :: cs =>
    match splitAtLast part cs with
    | some (before, rest) => some (c :: before, rest)
    | none => if part.isPrefixOf (c :: cs) then some ([], c :: cs) else none

/-- The texts joined with a separator between each two. -/
def join (separator : String) (texts : List String) : String := separator.intercalate texts

end Transcoding.Text
