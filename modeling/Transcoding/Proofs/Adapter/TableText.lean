import Transcoding.Proofs.Adapter.Token

/-!
# Route tables as text

A route table is read from its text: the constant `ROUTES` and in it one entry per route, with
string literals for the method, the verb and the template and an expression for the source of the
payload. The reader goes by the tokens of the text (`readTable`), so it passes over what is a
comment and sees what only looks like one.

The tokens of an entry are read as its route (`readEntry_append`). A document prints the entries of
its operations with a comment above each (`lexes_tableText`), and if every comment ends with its
line, the table is read as the list of the routes (`readTable_tableText`).
-/

namespace Transcoding.Source

open Transcoding.Text

/-! ## Reading -/

/-- The rest of the tokens after those of a fixed text. -/
def expect (text : String) (tokens : List Token) : Option (List Token) :=
  (code text).isPrefixOf? tokens

/-- Reads a field of an entry that holds a text. -/
def readField (label : String) (tokens : List Token) : Option (String × List Token) := do
  match ← expect (label ++ ":") tokens with
  | .text content :: .sign ',' :: rest => some (content, rest)
  | _ => none

/-- Reads the source of a payload. -/
def readSelector (tokens : List Token) : Option (PayloadSource × List Token) := do
  match ← expect "rt::BodySelector::" tokens with
  | .word letters :: rest =>
    if letters = "None" then some (.query, rest)
    else if letters = "All" then some (.wholeBody, rest)
    else if letters = "Field" then
      match rest with
      | .sign '(' :: .text content :: .sign ')' :: rest => some (.field content, rest)
      | _ => none
    else none
  | _ => none

/-- Reads an entry. -/
def readEntry (tokens : List Token) : Option (Route × List Token) := do
  let rest ← expect "rt::Route \x7b" tokens
  let (method, rest) ← readField "method" rest
  let (verb, rest) ← readField "verb" rest
  let (template, rest) ← readField "template" rest
  let (source, rest) ← readSelector (← expect "body:" rest)
  return ({ method, verb, template, source }, ← expect ", \x7d," rest)

/-- Reads entries up to the end of the table. The number bounds them; an entry has tokens, so the
number of tokens is enough. -/
def readEntries : Nat → List Token → Option (List Route)
  | 0, _ => none
  | bound + 1, tokens =>
    if tokens = code "];" then some []
    else do
      let (route, rest) ← readEntry tokens
      return route :: (← readEntries bound rest)

/-- Reads a route table from its text. -/
def readTable (text : String) : Option RouteTable := do
  let tokens ← tokens? text
  readEntries tokens.length (← expect "pub const ROUTES: &[rt::Route] = &[" tokens)

/-- Reads a string literal. -/
def readLiteral (text : String) : Option String :=
  match tokens? text with
  | some [.text content] => some content
  | _ => none

/-- Reads the expression for the source of a payload. -/
def readSource (text : String) : Option PayloadSource := do
  match ← readSelector (← tokens? text) with
  | (source, []) => some source
  | _ => none

/-! ## Tokens of an entry -/

/-- The tokens of a field that holds a text. -/
def fieldTokens (label value : String) : List Token :=
  code (label ++ ":") ++ [.text value, .sign ',']

/-- The tokens of the source of a payload. -/
def selectorTokens : PayloadSource → List Token
  | .query => code "rt::BodySelector::None"
  | .wholeBody => code "rt::BodySelector::All"
  | .field name => code "rt::BodySelector::Field(" ++ [.text name, .sign ')']

/-- The tokens of an entry. -/
def entryTokens (route : Route) : List Token :=
  code "rt::Route \x7b" ++ fieldTokens "method" route.method ++ fieldTokens "verb" route.verb
    ++ fieldTokens "template" route.template ++ code "body:" ++ selectorTokens route.source
    ++ code ", \x7d,"

@[simp]
theorem expect_append (text : String) (rest : List Token) :
    expect text (code text ++ rest) = some rest := by
  rw [expect, List.isPrefixOf?_eq_some_iff_append_eq]

/-- A field is read back from its tokens. -/
@[simp]
theorem readField_append (label value : String) (rest : List Token) :
    readField label (fieldTokens label value ++ rest) = some (value, rest) := by
  simp [readField, fieldTokens]

/-- A source is read back from its tokens. -/
@[simp]
theorem readSelector_append (source : PayloadSource) (rest : List Token) :
    readSelector (selectorTokens source ++ rest) = some (source, rest) := by
  have hnone : code "rt::BodySelector::None" =
      code "rt::BodySelector::" ++ [.word "None"] := by decide +kernel
  have hall : code "rt::BodySelector::All" =
      code "rt::BodySelector::" ++ [.word "All"] := by decide +kernel
  have hfield : code "rt::BodySelector::Field(" =
      code "rt::BodySelector::" ++ [.word "Field", .sign '('] := by decide +kernel
  cases source <;> simp [readSelector, selectorTokens, hnone, hall, hfield]

/-- An entry is read as its route. -/
theorem readEntry_append (route : Route) (rest : List Token) :
    readEntry (entryTokens route ++ rest) = some (route, rest) := by
  simp [readEntry, entryTokens]

/-- An entry does not begin with the end of the table. -/
theorem entryTokens_ne_close (route : Route) (rest : List Token) :
    entryTokens route ++ rest ≠ code "];" := by
  have hentry : code "rt::Route \x7b" =
    [.word "rt", .sign ':', .sign ':', .word "Route", .sign '\x7b'] := by decide +kernel
  have hclose : code "];" = [.sign ']', .sign ';'] := by decide +kernel
  simp [entryTokens, hentry, hclose]

/-- The entries of a table are read back, given more steps than there are entries. -/
theorem readEntries_append (routes : List Route) {bound : Nat} (h : routes.length < bound) :
    readEntries bound (routes.flatMap entryTokens ++ code "];") = some routes := by
  induction routes generalizing bound with
  | nil =>
    obtain ⟨bound, rfl⟩ := Nat.exists_eq_succ_of_ne_zero (Nat.ne_zero_of_lt h)
    simp [readEntries]
  | cons route routes ih =>
    obtain ⟨bound, rfl⟩ := Nat.exists_eq_succ_of_ne_zero (Nat.ne_zero_of_lt h)
    rw [List.flatMap_cons, List.append_assoc, readEntries, if_neg (entryTokens_ne_close route _),
      readEntry_append]
    simp [ih (Nat.lt_of_succ_lt_succ h)]

/-! ## Tokens of a document -/

/-- The characters of lines are those of each line, with a line feed after it. -/
theorem toList_linesText (lines : List String) :
    (linesText lines).toList = lines.flatMap fun line => line.toList ++ ['\n'] := by
  rw [linesText, String.toList_intercalate, List.map_map]
  induction lines with
  | nil => rfl
  | cons line lines ih =>
    cases lines with
    | nil => simp
    | cons next lines =>
      simp only [List.map_cons, List.intercalate_cons_cons] at ih ⊢
      rw [ih]
      simp

/-- The line is read as these tokens. -/
def LexesLine (line : String) (tokens : List Token) : Prop :=
  Lexes (.plain []) (line.toList ++ ['\n']) tokens (.plain [])

/-- Whether a line has given tokens can be decided by reading it. -/
instance (line : String) (tokens : List Token) : Decidable (LexesLine line tokens) :=
  inferInstanceAs (Decidable (Lexes _ _ _ _))

/-- Lines are read one after the other. -/
theorem lexes_linesText {lines : List String} {tokens : List (List Token)}
    (h : List.Forall₂ LexesLine lines tokens) :
    Lexes (.plain []) (linesText lines).toList tokens.flatten (.plain []) := by
  rw [toList_linesText]
  induction h with
  | nil => exact .nil _
  | cons hline _ ih => exact hline.append ih

/-- A quoted text between two texts is read as a literal between their tokens. -/
theorem lexesLine_quote {before after : String} {tokens tokens' : List Token} (value : String)
    (hbefore : Lexes (.plain []) before.toList tokens (.plain []))
    (hafter : LexesLine after tokens') :
    LexesLine (before ++ quote value ++ after) (tokens ++ [.text value] ++ tokens') := by
  simpa [LexesLine] using (hbefore.append (lexes_quote value)).append hafter

/-! ## Entries of a document -/

@[simp]
theorem readLiteral_quote (value : String) : readLiteral (quote value) = some value := by
  rw [readLiteral, (lexes_quote value).tokens_eq]
  simp [endWord]

/-- The expression for a field quotes its name. -/
theorem sourceExpression_field (name : String) :
    sourceExpression (.field name) = "rt::BodySelector::Field(" ++ quote name ++ ")" := rfl

/-- The expression for a source has the tokens that stand for the source. -/
theorem tokens_sourceExpression (source : PayloadSource) :
    tokens? (sourceExpression source) = some (selectorTokens source) := by
  have hnone : tokens? "rt::BodySelector::None" = some (code "rt::BodySelector::None") := by
    decide +kernel
  have hall : tokens? "rt::BodySelector::All" = some (code "rt::BodySelector::All") := by
    decide +kernel
  cases source with
  | query => exact hnone
  | wholeBody => exact hall
  | field name =>
    have hopen : Lexes (.plain []) "rt::BodySelector::Field(".toList
        (code "rt::BodySelector::Field(") (.plain []) := by decide +kernel
    have hclose : Lexes (.plain []) ")".toList [.sign ')'] (.plain []) := by decide +kernel
    have hlexes := (hopen.append (lexes_quote name)).append hclose
    rw [← String.toList_append, ← String.toList_append] at hlexes
    rw [sourceExpression_field, hlexes.tokens_eq]
    simp [endWord, selectorTokens]

/-- A source is read back from its expression. -/
@[simp]
theorem readSource_sourceExpression (source : PayloadSource) :
    readSource (sourceExpression source) = some source := by
  have hread := readSelector_append source []
  rw [List.append_nil] at hread
  simp [readSource, tokens_sourceExpression, hread]

/-- The line of the source is read as a field whose value stands for the source. -/
theorem lexesLine_source (source : PayloadSource) :
    LexesLine ("            body: " ++ sourceExpression source ++ ",")
      (code "body:" ++ selectorTokens source ++ [.sign ',']) := by
  have hnone : LexesLine "            body: rt::BodySelector::None,"
      (code "body:" ++ code "rt::BodySelector::None" ++ [.sign ',']) := by decide +kernel
  have hall : LexesLine "            body: rt::BodySelector::All,"
      (code "body:" ++ code "rt::BodySelector::All" ++ [.sign ',']) := by decide +kernel
  cases source with
  | query => exact hnone
  | wholeBody => exact hall
  | field name =>
    have hopen : Lexes (.plain []) "            body: rt::BodySelector::Field(".toList
        (code "body:" ++ code "rt::BodySelector::Field(") (.plain []) := by decide +kernel
    have hclose : LexesLine ")," [.sign ')', .sign ','] := by decide +kernel
    have hlexes := lexesLine_quote name hopen hclose
    simpa [LexesLine, sourceExpression_field, selectorTokens] using hlexes

/-- The entry of an operation has the tokens of its route, and before them those that stand in the
comment above it. -/
theorem lexes_tableLines {op : Operation} {tokens : List Token}
    (hcomment : LexesLine op.comment tokens) :
    Lexes (.plain []) (linesText op.tableLines).toList (tokens ++ entryTokens op.route)
      (.plain []) := by
  have hopen : LexesLine "        rt::Route \x7b" (code "rt::Route \x7b") := by decide +kernel
  have hcomma : LexesLine "," [.sign ','] := by decide +kernel
  have hmethod : Lexes (.plain []) "            method: ".toList (code "method:") (.plain []) := by
    decide +kernel
  have hverb : Lexes (.plain []) "            verb: ".toList (code "verb:") (.plain []) := by
    decide +kernel
  have htemplate : Lexes (.plain []) "            template: ".toList (code "template:")
      (.plain []) := by
    decide +kernel
  have hclose : LexesLine "        \x7d," (code "\x7d,") := by decide +kernel
  have hlines := lexes_linesText <| .cons hcomment <| .cons hopen <|
    .cons (lexesLine_quote op.route.method hmethod hcomma) <|
    .cons (lexesLine_quote op.route.verb hverb hcomma) <|
    .cons (lexesLine_quote op.route.template htemplate hcomma) <|
    .cons (lexesLine_source op.route.source) <| .cons hclose .nil
  have hend : code ", \x7d," = .sign ',' :: code "\x7d," := by decide +kernel
  simpa [entryTokens, fieldTokens, hend, Operation.tableLines] using hlines

/-- A comment that ends with its line has no tokens. -/
theorem lexesLine_comment {op : Operation} (h : '\n' ∉ op.comment.toList) :
    LexesLine op.comment [] := by
  rw [Operation.comment, String.append_assoc] at h ⊢
  rw [String.toList_append, List.mem_append, not_or] at h
  have hopen : Lexes (.plain []) "        // ".toList [] .lineComment := by decide +kernel
  have hclose : Lexes .lineComment ['\n'] [] (.plain []) := .single rfl
  simpa [LexesLine] using (hopen.append (lexes_lineComment h.2)).append hclose

/-! ## Tables of a document -/

/-- A table has at least as many tokens as entries. -/
theorem length_le_flatMap_entryTokens (routes : List Route) :
    routes.length ≤ (routes.flatMap entryTokens).length := by
  induction routes with
  | nil => simp
  | cons route routes ih =>
    have hentry : 0 < (entryTokens route).length := by
      simp only [entryTokens, fieldTokens, List.length_append, List.length_cons]
      omega
    rw [List.flatMap_cons, List.length_append, List.length_cons]
    omega

/-- A text that has the tokens of a table is read as the table. -/
theorem readTable_of_lexes {text : String} {routes : List Route}
    (h : Lexes (.plain []) text.toList (code "pub const ROUTES: &[rt::Route] = &["
      ++ routes.flatMap entryTokens ++ code "];") (.plain [])) :
    readTable text = some routes := by
  have htokens := h.tokens_eq
  rw [endWord, List.isEmpty_nil, if_pos rfl, List.append_nil, List.append_assoc] at htokens
  have hbound := length_le_flatMap_entryTokens routes
  have hclose : 0 < (code "];").length := by decide +kernel
  simp only [readTable, htokens, Option.bind_eq_bind, Option.bind_some, expect_append]
  refine readEntries_append routes ?_
  simp only [List.length_append]
  omega

/-- The table of operations has the tokens of their routes, and before each those that stand in the
comment above it. -/
theorem lexes_tableText {operations : List Operation} {comment : Operation → List Token}
    (h : ∀ op ∈ operations, LexesLine op.comment (comment op)) :
    Lexes (.plain []) (linesText (["    pub const ROUTES: &[rt::Route] = &["]
        ++ operations.flatMap Operation.tableLines ++ ["    ];"])).toList
      (code "pub const ROUTES: &[rt::Route] = &["
        ++ operations.flatMap (fun op => comment op ++ entryTokens op.route) ++ code "];")
      (.plain []) := by
  have hopen : LexesLine "    pub const ROUTES: &[rt::Route] = &["
      (code "pub const ROUTES: &[rt::Route] = &[") := by decide +kernel
  have hclose : LexesLine "    ];" (code "];") := by decide +kernel
  have hentries := Lexes.flatMap fun op hop => lexes_tableLines (h op hop)
  simp only [toList_linesText, List.flatMap_append, List.flatMap_assoc, List.flatMap_singleton]
    at hentries ⊢
  exact (hopen.append hentries).append hclose

/-- The table of operations is read as the list of their routes, if the comments in it end with
their lines. -/
theorem readTable_tableText {operations : List Operation}
    (h : ∀ op ∈ operations, '\n' ∉ op.comment.toList) :
    readTable (linesText (["    pub const ROUTES: &[rt::Route] = &["]
        ++ operations.flatMap Operation.tableLines ++ ["    ];"])) =
      some (operations.map (·.route)) := by
  have hlexes := lexes_tableText fun op hop => lexesLine_comment (h op hop)
  apply readTable_of_lexes
  rw [List.flatMap_map]
  exact hlexes

end Transcoding.Source
