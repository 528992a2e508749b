import Transcoding.Yaml.Token.Lexer

/-!
# Documents

A document is a mapping whose keys and values are scalars. A node without a scalar is an empty one,
and a document without a mapping is an empty mapping. A node can have an anchor, and a reference to
an anchor stands for the node that has it. Main definition: `document?`.
-/

namespace Transcoding.Yaml

/-- A scalar with its style and the tag that is written before it. -/
structure Scalar where
  style : Style
  tag : Option Tag := none
  text : String

/-- The scalar of a node that has none. -/
def Scalar.empty : Scalar := { style := .plain, text := "" }

/-- A key or a value as it is written. -/
inductive Node where
  | scalar (anchor : Option (List Char)) (scalar : Scalar)
  | reference (name : List Char)

/-- The node where none is written. -/
def Node.empty : Node := .scalar none .empty

/-- What each declared handle of tags stands for. -/
abbrev Handles := List (List Char × List UInt8)

/-! ## Nodes -/

/-- What can stand before a node. -/
structure Properties where
  anchor : Option (List Char) := none
  tag : Option TagMark := none

/-- Whether nothing stands before a node. -/
def Properties.isEmpty (properties : Properties) : Bool :=
  properties.anchor.isNone && properties.tag.isNone

/-- The properties of a node, an anchor and a tag in either order, and the tokens after them. -/
def takeProperties : List Token → Properties × List Token
  | .anchor name :: .tag mark :: rest => ({ anchor := some name, tag := some mark }, rest)
  | .tag mark :: .anchor name :: rest => ({ anchor := some name, tag := some mark }, rest)
  | .anchor name :: rest => ({ anchor := some name }, rest)
  | .tag mark :: rest => ({ tag := some mark }, rest)
  | rest => ({}, rest)

/-- The tag of a node; the outer result is missing if its handle is not declared. -/
def Properties.resolveTag? (handles : Handles) (properties : Properties) : Option (Option Tag) :=
  match properties.tag with
  | none => some none
  | some mark => (mark.resolve? handles).map some

/-- Reads a key or a value. The tag that asks for no type is as good as none before a scalar. -/
def node? (handles : Handles) (tokens : List Token) : Option (Node × List Token) :=
  match tokens with
  | .reference name :: rest => some (.reference name, rest)
  | _ => do
    let (properties, rest) := takeProperties tokens
    let tag ← properties.resolveTag? handles
    match rest with
    | .scalar style text :: rest =>
      let tag := if tag == some Tag.nonspecific then none else tag
      return (.scalar properties.anchor { style, tag, text }, rest)
    | _ =>
      if properties.isEmpty then none
      else return (.scalar properties.anchor { Scalar.empty with tag }, rest)

/-! ## Mappings -/

/-- Reads a key or a value of a block, which is empty before the sign of another or at the end. -/
def blockNode? (handles : Handles) (tokens : List Token) : Option (Node × List Token) :=
  match tokens with
  | .key :: _ | .value :: _ | .blockEnd :: _ => some (.empty, tokens)
  | _ => node? handles tokens

/-- Reads the entries of a block. Every entry takes at least one token, which bounds the number of
steps. -/
def blockEntries? (handles : Handles) :
    Nat → List Token → Option (List (Node × Node) × List Token)
  | 0, _ => none
  | steps + 1, tokens =>
    match tokens with
    | .blockEnd :: rest => some ([], rest)
    | .key :: rest => do
      let (key, rest) ← blockNode? handles rest
      let (value, rest) ← match rest with
        | .value :: rest => blockNode? handles rest
        | _ => some (.empty, rest)
      let (entries, rest) ← blockEntries? handles steps rest
      return ((key, value) :: entries, rest)
    | _ => none

/-- Reads a value between braces, which is empty at the end of its entry. -/
def flowValue? (handles : Handles) (tokens : List Token) : Option (Node × List Token) :=
  match tokens with
  | .flowEntry :: _ | .flowEnd :: _ => some (.empty, tokens)
  | _ => node? handles tokens

/-- Reads a key between braces after its sign. -/
def flowKey? (handles : Handles) (tokens : List Token) : Option (Node × List Token) :=
  match tokens with
  | .value :: _ => some (.empty, tokens)
  | _ => flowValue? handles tokens

/-- Reads an entry between braces. A node that is not marked as a key is a key without a value. -/
def flowEntry? (handles : Handles) (tokens : List Token) :
    Option ((Node × Node) × List Token) :=
  match tokens with
  | .key :: rest => do
    let (key, rest) ← flowKey? handles rest
    match rest with
    | .value :: rest =>
      let (value, rest) ← flowValue? handles rest
      return ((key, value), rest)
    | _ => return ((key, .empty), rest)
  | _ => (node? handles tokens).map fun (key, rest) => ((key, .empty), rest)

/-- Reads the entries between braces. Every entry takes at least one token, which bounds the number
of steps. -/
def flowEntries? (handles : Handles) :
    Nat → List Token → Option (List (Node × Node) × List Token)
  | 0, _ => none
  | steps + 1, tokens =>
    match tokens with
    | .flowEnd :: rest => some ([], rest)
    | _ => do
      let (entry, rest) ← flowEntry? handles tokens
      match rest with
      | .flowEnd :: rest => return ([entry], rest)
      | .flowEntry :: rest =>
        let (entries, rest) ← flowEntries? handles steps rest
        return (entry :: entries, rest)
      | _ => none

/-! ## Documents -/

/-- A mapping as it is written. -/
structure Mapping where
  anchor : Option (List Char) := none
  entries : List (Node × Node) := []

/-- Reads the mapping of a document, which may be left out after a property. -/
def mapping? (handles : Handles) (tokens : List Token) : Option (Mapping × List Token) := do
  let (properties, rest) := takeProperties tokens
  let _ ← properties.resolveTag? handles
  let anchor := properties.anchor
  match rest with
  | .blockStart :: rest =>
    let (entries, rest) ← blockEntries? handles rest.length rest
    return ({ anchor, entries }, rest)
  | .flowStart :: rest =>
    let (entries, rest) ← flowEntries? handles rest.length rest
    return ({ anchor, entries }, rest)
  | _ => if properties.isEmpty then none else return ({ anchor }, rest)

/-- Whether a token is a directive. -/
def Token.isDirective : Token → Bool
  | .version .. | .handle .. => true
  | _ => false

/-- Whether a token ends a document. -/
def Token.isDocumentEnd : Token → Bool
  | .documentEnd => true
  | _ => false

/-- The version that a directive states. -/
def Token.version? : Token → Option (Nat × Nat)
  | .version major minor => some (major, minor)
  | _ => none

/-- The handle that a directive declares. -/
def Token.handle? : Token → Option (List Char × List UInt8)
  | .handle name start => some (name, start)
  | _ => none

/-- The declared handles. A version may be stated once, and is 1.1 or 1.2; a handle is declared at
most once. -/
def handles? (directives : List Token) : Option Handles :=
  let versions := directives.filterMap Token.version?
  let handles := directives.filterMap Token.handle?
  if versions.length ≤ 1 && versions.all (fun v => v == (1, 1) || v == (1, 2))
      && (handles.map (·.1)).Nodup then some handles
  else none

/-- Reads a document and nothing after it. Without a marker at its start it needs content, unless
there is no token at all; after directives it needs the marker. -/
def Mapping.ofTokens? (tokens : List Token) : Option Mapping := do
  let directives := tokens.takeWhile Token.isDirective
  let handles ← handles? directives
  let (mapping, rest) ← match tokens.drop directives.length with
    | .documentStart :: rest =>
      match rest with
      | [] => some ({}, [])
      | .documentEnd :: _ => some ({}, rest)
      | _ => mapping? handles rest
    | [] => if directives.isEmpty then some ({}, []) else none
    | rest => if directives.isEmpty then mapping? handles rest else none
  if rest.all Token.isDocumentEnd then return mapping else none

/-! ## Anchors -/

/-- The anchors of a document. A node with an anchor gets a number, the number of names known by
then; a name that is used again moves to its new number. -/
structure Anchors where
  numbers : List (List Char × Nat) := []
  /-- The nodes by their numbers, last one first; the mapping itself is no scalar. -/
  nodes : List (Nat × Option Scalar) := []

/-- The anchors with one more node. -/
def Anchors.add (anchors : Anchors) (anchor : Option (List Char)) (node : Option Scalar) :
    Anchors :=
  match anchor with
  | none => anchors
  | some name =>
    let number := anchors.numbers.length
    { numbers := (name, number) :: anchors.numbers.filter (·.1 != name)
      nodes := (number, node) :: anchors.nodes }

/-- A node, or the number of the node that it stands for. -/
inductive Resolved where
  | itself (scalar : Scalar)
  | standIn (number : Nat)

/-- Numbers a node. A reference to an unknown anchor is wrong. -/
def Anchors.resolve? (anchors : Anchors) : Node → Option (Anchors × Resolved)
  | .scalar anchor scalar => some (anchors.add anchor (some scalar), .itself scalar)
  | .reference name => (anchors.numbers.lookup name).map fun number => (anchors, .standIn number)

/-- Numbers the nodes of entries. -/
def Anchors.resolveEntries? :
    Anchors → List (Node × Node) → Option (Anchors × List (Resolved × Resolved))
  | anchors, [] => some (anchors, [])
  | anchors, (key, value) :: rest => do
    let (anchors, key) ← anchors.resolve? key
    let (anchors, value) ← anchors.resolve? value
    let (anchors, rest) ← anchors.resolveEntries? rest
    return (anchors, (key, value) :: rest)

/-- The scalar of a node. -/
def Resolved.scalar? (anchors : Anchors) : Resolved → Option Scalar
  | .itself scalar => some scalar
  | .standIn number => (anchors.nodes.lookup number).join

/-- The keys and values of a mapping. -/
def Mapping.scalars? (mapping : Mapping) : Option (List (Scalar × Scalar)) := do
  let anchors := Anchors.add {} mapping.anchor none
  let (anchors, entries) ← anchors.resolveEntries? mapping.entries
  entries.mapM fun (key, value) => do
    return (← key.scalar? anchors, ← value.scalar? anchors)

/-- The keys and values of a document. -/
def document? (text : String) : Option (List (Scalar × Scalar)) := do
  (← Mapping.ofTokens? (← tokens? text)).scalars?

end Transcoding.Yaml
