import Transcoding.Proofs.Adapter.Meaning
import Transcoding.Proofs.Declaration.Enumeration
import Transcoding.Proofs.Declaration.Precedence

/-!
# The comments of a document

The verb and the template of an operation stand in two comments of its module, one above its entry
in the route table and one above its function. A template comes from an entry of the options of a
method, where it is quoted (`Declaration.writtenIn_of_mem`), and it is printed as it is. So the two
comments are single lines if the template is one, and nothing of them is read as code. A path that
is quoted over several lines leaves its comments: all that comes after the first line feed is read
(`generate_comments`). A carriage return does not end a comment, but a comment above a function may
not hold one without a line feed; the comments have one if the template has.
-/

namespace Transcoding

open Transcoding.Text Transcoding.Source

/-! ## Where the paths stand -/

namespace Declaration

/-- An entry for the verb of the binding stands in one of the texts and quotes its path. -/
def WrittenIn (texts : List String) (binding : HttpBinding) : Prop :=
  ∃ text ∈ texts, ∃ used, used <:+: text.toList ∧
    (verbShape binding.verb).Matches used [binding.pathTemplate.toList]

/-- The region that a brace begins is the front of the text after it. -/
theorem isPrefix_regionFrom (depth : Nat) (text : List Char) : regionFrom depth text <+: text := by
  fun_induction regionFrom depth text with
  | case1 => exact List.nil_prefix
  | case2 _ _ ih => exact List.cons_prefix_cons.2 ⟨rfl, ih⟩
  | case3 => exact List.nil_prefix
  | case4 _ _ _ ih => exact List.cons_prefix_cons.2 ⟨rfl, ih⟩
  | case5 _ _ _ _ _ ih => exact List.cons_prefix_cons.2 ⟨rfl, ih⟩

/-- What is in the region after a declaration is in the text. -/
theorem Shape.StandsAt.infix_of_region {shape : Shape} {text after part : List Char} {place : Nat}
    {groups : List (List Char)} (h : shape.StandsAt text place groups after)
    (hpart : part <:+: balancedRegion after) : part <:+: text := by
  obtain ⟨before, _, rfl, -, -, used, rfl, -⟩ := h
  calc part
    _ <:+: balancedRegion after := hpart
    _ <:+: after := (isPrefix_regionFrom 0 after).isInfix
    _ <:+: used ++ after := (List.suffix_append used after).isInfix
    _ <:+: before ++ (used ++ after) := (List.suffix_append before _).isInfix

/-- What is enumerated stands at some place. -/
theorem Enumerates.exists_place {α : Type} {stands : Nat → α → Prop} {finds : List α}
    (h : Enumerates stands finds) : ∀ find ∈ finds, ∃ place, stands place find := by
  obtain ⟨places, -, -, hfinds⟩ := h
  exact forall_mem_of_forall₂ hfinds.flip fun find place hplace => ⟨place, (hplace find).2 rfl⟩

/-- The path of a method is quoted in the body that the method is declared in. -/
theorem exists_used_of_mem_findMethods {body : List Char} {method : Method}
    (h : method ∈ findMethods body) :
    ∃ used, used <:+: body ∧
      (verbShape method.binding.verb).Matches used [method.binding.pathTemplate.toList] := by
  obtain ⟨head, hhead, hmethod⟩ := List.mem_filterMap.1 h
  obtain ⟨place, after, hdeclared, hafter⟩ := (methodHeads_enumerates body).exists_place head hhead
  obtain ⟨binding, hbinding, rfl⟩ := Option.map_eq_some_iff.1 hmethod
  obtain ⟨-, ⟨-, _, rest, ⟨before, _, hoptions, -, -, used, rfl, hmatch⟩, -⟩, -⟩ :=
    findBinding_eq_some_iff.1 hbinding
  refine ⟨used, hdeclared.infix_of_region ?_, hmatch⟩
  rw [← hafter, hoptions]
  exact ⟨before, rest, List.append_assoc _ _ _⟩

/-- The paths of a model are quoted in the texts that it comes from. -/
theorem writtenIn_of_mem {texts : List String} {service : Service} {method : Method}
    (hservice : service ∈ servicesOfAll texts) (hmethod : method ∈ service.methods) :
    WrittenIn texts method.binding := by
  obtain ⟨text, htext, hservice⟩ := List.mem_flatMap.1 hservice
  rw [servicesOf_eq] at hservice
  obtain ⟨block, hblock, rfl⟩ := List.mem_map.1 hservice
  obtain ⟨place, after, hdeclared, hbody⟩ :=
    (findServices_enumerates text.toList).exists_place block (List.mem_of_mem_filter hblock)
  obtain ⟨used, hused, hmatch⟩ := exists_used_of_mem_findMethods hmethod
  exact ⟨text, htext, used, hdeclared.infix_of_region (hbody ▸ hused), hmatch⟩

end Declaration

/-! ## Comments of an operation -/

/-- The line is read as this text is. -/
def ReadsAs (line : String) (text : List Char) : Prop :=
  ∀ tokens last, Lexes (.plain []) (line.toList ++ ['\n']) tokens last ↔
    Lexes (.plain []) text tokens last

/-- A line that opens a comment is read as what comes after its first line feed. -/
theorem readsAs_of_comment {line : String} {opening first rest : List Char}
    (hopen : Lexes (.plain []) opening [] .lineComment) (hfirst : '\n' ∉ first)
    (hline : line.toList ++ ['\n'] = opening ++ (first ++ '\n' :: rest)) : ReadsAs line rest := by
  intro tokens last
  rw [hline, hopen.append_iff]
  simp [lexes_lineComment_iff hfirst]

/-- A line that is read as the empty text has no tokens. -/
theorem ReadsAs.lexesLine {line : String} (h : ReadsAs line []) : LexesLine line [] :=
  (h [] (.plain [])).2 (.nil _)

namespace Operation

/-- The comment above the function of an operation. -/
def docComment (op : Operation) : String := "        /// `" ++ op.heading ++ "`"

/-- The variables at the end of the comment above an entry. -/
def variablesNote (op : Operation) : String :=
  if op.variableNames.isEmpty then "" else " (" ++ join ", " op.variableNames ++ ")"

/-- The line of the template in an entry. -/
def templateField (op : Operation) : String :=
  "            template: " ++ quote op.route.template ++ ","

/-- The comment above a function, by its parts. -/
theorem docComment_eq_append (op : Operation) :
    op.docComment = "        /// `" ++ op.heading ++ "`" := rfl

/-- The comment above an entry, by its parts. -/
theorem comment_eq_append (op : Operation) :
    op.comment = "        // " ++ op.heading ++ op.variablesNote := rfl

/-- The comments of an operation stand in the lines of its module, and they are read as what the
template of the method has after its first line feed. In the entry the template is a literal. -/
structure Comments (lines : List String) (method : Method) (op : Operation) : Prop where
  heading : op.heading = method.binding.verb.name ++ " " ++ method.binding.pathTemplate
  mem : op.comment ∈ lines ∧ op.docComment ∈ lines ∧ op.templateField ∈ lines
  names : ∀ name ∈ op.variableNames, name.toList ⊆ method.binding.pathTemplate.toList
  comment_line : '\n' ∈ op.comment.toList ↔ '\n' ∈ method.binding.pathTemplate.toList
  docComment_line : '\n' ∈ op.docComment.toList ↔ '\n' ∈ method.binding.pathTemplate.toList
  comment_return : '\r' ∈ op.comment.toList ↔ '\r' ∈ method.binding.pathTemplate.toList
  docComment_return : '\r' ∈ op.docComment.toList ↔ '\r' ∈ method.binding.pathTemplate.toList
  singleLine : '\n' ∉ method.binding.pathTemplate.toList →
    LexesLine op.comment [] ∧ LexesLine op.docComment []
  laterLines : ∀ first rest,
    method.binding.pathTemplate.toList = first ++ '\n' :: rest → '\n' ∉ first →
    ReadsAs op.comment (rest ++ op.variablesNote.toList ++ ['\n']) ∧
      ReadsAs op.docComment (rest ++ ['\x60', '\n'])
  literal : LexesLine op.templateField (fieldTokens "template" method.binding.pathTemplate)

namespace Describes

variable {settings : Settings} {op : Operation} {method : Method}

/-- The heading of an operation is the verb and the path of its method. -/
theorem heading_eq (h : op.Describes settings method) :
    op.heading = method.binding.verb.name ++ " " ++ method.binding.pathTemplate := by
  rw [heading, h.route, Method.route]

/-- The names of the variables hold no characters but those of the template. -/
theorem names_subset (h : op.Describes settings method) :
    ∀ name ∈ op.variableNames, name.toList ⊆ method.binding.pathTemplate.toList := by
  obtain ⟨template, hparse, hnames⟩ := h.template
  intro name hname
  rw [hnames] at hname
  exact PathTemplate.name_subset_of_parse hparse hname

/-- The line breaks of the comment above the function are those of the template. -/
theorem lineBreak_mem_docComment (h : op.Describes settings method) {c : Char}
    (hc : IsLineBreak c) : c ∈ op.docComment.toList ↔ c ∈ method.binding.pathTemplate.toList := by
  have hverb := method.binding.verb.lineBreak_not_mem_name hc
  rcases hc with rfl | rfl <;> simp [docComment_eq_append, h.heading_eq, hverb]

/-- The line breaks of the comment above an entry are those of the template. -/
theorem lineBreak_mem_comment (h : op.Describes settings method) {c : Char} (hc : IsLineBreak c) :
    c ∈ op.comment.toList ↔ c ∈ method.binding.pathTemplate.toList := by
  constructor
  · intro hmem
    by_contra hline
    exact h.lineBreak_not_mem_comment hc hline hmem
  · intro hmem
    simp [comment_eq_append, h.heading_eq, hmem]

/-- Nothing of the comment above a function is read as code if the template is one line. -/
theorem lexesLine_docComment (h : op.Describes settings method)
    (hline : '\n' ∉ method.binding.pathTemplate.toList) : LexesLine op.docComment [] := by
  have hopen : Lexes (.plain []) "        /// `".toList [] .lineComment := by decide +kernel
  have hverb := method.binding.verb.newline_not_mem_name
  have htext : '\n' ∉ op.heading.toList ++ ['\x60'] := by simp [h.heading_eq, hverb, hline]
  exact (readsAs_of_comment hopen htext (by simp [docComment_eq_append])).lexesLine

/-- The line of the template is read as a field whose value is the template. -/
theorem lexesLine_templateField (h : op.Describes settings method) :
    LexesLine op.templateField (fieldTokens "template" method.binding.pathTemplate) := by
  have hlabel : Lexes (.plain []) "            template: ".toList (code "template:")
      (.plain []) := by
    decide +kernel
  have hcomma : LexesLine "," [.sign ','] := by decide +kernel
  have hline : LexesLine op.templateField
      (code "template:" ++ [.text op.route.template] ++ [.sign ',']) :=
    lexesLine_quote op.route.template hlabel hcomma
  have htemplate : op.route.template = method.binding.pathTemplate := by rw [h.route, Method.route]
  simpa [fieldTokens, htemplate] using hline

section
variable {first rest : List Char}

/-- A comment that holds the verb and the template is left where the template has its first line
feed. -/
theorem readsAs_heading (h : op.Describes settings method) {opening : String}
    (hopen : Lexes (.plain []) opening.toList [] .lineComment)
    (htemplate : method.binding.pathTemplate.toList = first ++ '\n' :: rest) (hfirst : '\n' ∉ first)
    (closing : String) :
    ReadsAs (opening ++ op.heading ++ closing) (rest ++ closing.toList ++ ['\n']) := by
  have hverb := method.binding.verb.newline_not_mem_name
  have htext : '\n' ∉ method.binding.verb.name.toList ++ ' ' :: first := by simp [hverb, hfirst]
  refine readsAs_of_comment hopen htext ?_
  simp [h.heading_eq, htemplate]

/-- The comment above an entry is left at the first line feed of the template. -/
theorem readsAs_comment (h : op.Describes settings method)
    (htemplate : method.binding.pathTemplate.toList = first ++ '\n' :: rest)
    (hfirst : '\n' ∉ first) :
    ReadsAs op.comment (rest ++ op.variablesNote.toList ++ ['\n']) := by
  have hopen : Lexes (.plain []) "        // ".toList [] .lineComment := by decide +kernel
  rw [comment_eq_append]
  exact h.readsAs_heading hopen htemplate hfirst op.variablesNote

/-- The comment above a function is left at the first line feed of the template. -/
theorem readsAs_docComment (h : op.Describes settings method)
    (htemplate : method.binding.pathTemplate.toList = first ++ '\n' :: rest)
    (hfirst : '\n' ∉ first) : ReadsAs op.docComment (rest ++ ['\x60', '\n']) := by
  have hopen : Lexes (.plain []) "        /// `".toList [] .lineComment := by decide +kernel
  rw [docComment_eq_append]
  simpa using h.readsAs_heading hopen htemplate hfirst "`"

end

/-- An operation that describes a method has the comments of the method. -/
theorem comments (h : op.Describes settings method) {lines : List String}
    (hmem : op.comment ∈ lines ∧ op.docComment ∈ lines ∧ op.templateField ∈ lines) :
    op.Comments lines method where
  heading := h.heading_eq
  mem := hmem
  names := h.names_subset
  comment_line := h.lineBreak_mem_comment (.inl rfl)
  docComment_line := h.lineBreak_mem_docComment (.inl rfl)
  comment_return := h.lineBreak_mem_comment (.inr rfl)
  docComment_return := h.lineBreak_mem_docComment (.inr rfl)
  singleLine hline :=
    ⟨lexesLine_comment (h.newline_not_mem_comment hline), h.lexesLine_docComment hline⟩
  laterLines _ _ htemplate hfirst :=
    ⟨h.readsAs_comment htemplate hfirst, h.readsAs_docComment htemplate hfirst⟩
  literal := h.lexesLine_templateField

end Describes

end Operation

/-! ## Comments of a document -/

namespace ServiceModule

variable {m : ServiceModule} {op : Operation}

/-- The lines of the entry for an operation are lines of its module. -/
theorem mem_lines_of_mem_tableLines (runtimeCrate : String) (h : op ∈ m.operations) {line : String}
    (hline : line ∈ op.tableLines) : line ∈ m.lines runtimeCrate := by
  have hentry : line ∈ m.operations.flatMap Operation.tableLines :=
    List.mem_flatMap.2 ⟨op, h, hline⟩
  have htable : line ∈ m.tableLines := List.mem_append_left _ (List.mem_append_right _ hentry)
  simp only [lines, List.mem_append, htable, true_or, or_true]

/-- The comment above an entry is a line of the module. -/
theorem comment_mem_lines (runtimeCrate : String) (h : op ∈ m.operations) :
    op.comment ∈ m.lines runtimeCrate :=
  mem_lines_of_mem_tableLines runtimeCrate h List.mem_cons_self

/-- The line of the template is a line of the module. -/
theorem templateField_mem_lines (runtimeCrate : String) (h : op ∈ m.operations) :
    op.templateField ∈ m.lines runtimeCrate :=
  mem_lines_of_mem_tableLines runtimeCrate h (List.mem_of_getElem? (i := 4) rfl)

/-- The comment above a function is a line of the module. -/
theorem docComment_mem_lines (runtimeCrate : String) (h : op ∈ m.operations) :
    op.docComment ∈ m.lines runtimeCrate := by
  have hfunction : op.docComment ∈ m.operations.flatMap Operation.traitLines :=
    List.mem_flatMap.2 ⟨op, h, List.mem_cons_of_mem _ List.mem_cons_self⟩
  have htrait : op.docComment ∈ m.traitLines :=
    List.mem_append_left _ (List.mem_append_right _ hfunction)
  simp only [lines, List.mem_append, htrait, true_or, or_true]

/-- The operations of a module stand for the methods of its service, one by one. Their paths are
quoted in the texts and stand in comments and literals of the module. The paths of the router are
literals. -/
structure Annotates (settings : Settings) (texts : List String) (service : Service)
    (m : ServiceModule) : Prop where
  operations : List.Forall₂ (fun method op => Declaration.WrittenIn texts method.binding ∧
    op.Comments (m.lines settings.runtimeCrate) method) service.methods m.operations
  routerPaths : ∀ entry ∈ m.entries,
    LexesLine ("                " ++ quote entry.path.render ++ ",")
      [.text entry.path.render, .sign ',']

end ServiceModule

/-- A module that describes a service of the texts annotates its operations with their paths. -/
theorem ServiceModule.Describes.annotates {settings : Settings} {texts : List String}
    {service : Service} {m : ServiceModule} (h : m.Describes settings service)
    (hservice : service ∈ Declaration.servicesOfAll texts) :
    m.Annotates settings texts service where
  operations := by
    have hoperations := (List.forall₂_and_left _ _).2
      ⟨fun op (hop : op ∈ m.operations) => hop, h.operations.flip⟩
    have hmethods := (List.forall₂_and_left _ _).2
      ⟨fun _ hmethod => Declaration.writtenIn_of_mem hservice hmethod, hoperations.flip⟩
    refine hmethods.imp fun method op ⟨hwritten, hop, hdescribes⟩ => ⟨hwritten, ?_⟩
    exact hdescribes.comments ⟨comment_mem_lines _ hop, docComment_mem_lines _ hop,
      templateField_mem_lines _ hop⟩
  routerPaths entry _ := by
    have hindent : Lexes (.plain []) "                ".toList [] (.plain []) := by decide +kernel
    have hcomma : LexesLine "," [.sign ','] := by decide +kernel
    exact lexesLine_quote entry.path.render hindent hcomma

/-- **A comment holds a path that is one line.** The document of a model has a module for each
service of the texts, and in it two comments for each method. They are single lines, of which
nothing is read as code, unless the path of the method is quoted over several lines; then what comes
after the first line feed is read as code. -/
theorem generate_comments {settings : Settings} {texts : List String} {adapter : Adapter}
    (h : generate settings (Declaration.servicesOfAll texts) = .ok adapter) :
    ∃ header modules,
      adapter.content =
        linesText (header ++ modules.flatMap fun m => "" :: m.lines settings.runtimeCrate) ∧
      List.Forall₂ (ServiceModule.Annotates settings texts) (Declaration.servicesOfAll texts)
        modules := by
  obtain ⟨header, modules, hcontent, hmodules⟩ := exists_modules_of_generate h
  refine ⟨header, modules, ?_, ?_⟩
  · simp only [hcontent, List.flatMap_map, ServiceModule.lines_text]
  · have hservices := (List.forall₂_and_left _ _).2
      ⟨fun service (hservice : service ∈ Declaration.servicesOfAll texts) => hservice, hmodules⟩
    exact hservices.imp fun _ _ ⟨hservice, hm⟩ => hm.annotates hservice

/-! ## A path without its closing quote -/

namespace UnclosedPath

/-- A definition in which the path of a method lacks its closing quote. The next quote, that of the
selector, closes it. -/
def text : String :=
  "package users.v1;\nservice Users \x7b\n" ++
  "  rpc CreateUser(CreateUserRequest) returns (User) \x7b\n" ++
  "    option (google.api.http) = \x7b\n" ++
  "      post: \"/v1/users\n" ++
  "      body: \"*\"\n" ++
  "    \x7d;\n  \x7d\n\x7d\n"

/-- The method that is read from the definition. Its path has two lines. -/
def method : Method where
  name := "CreateUser"
  inputType := "CreateUserRequest"
  outputType := "User"
  binding := {
    verb := .post
    pathTemplate := "/v1/users\n      body: "
    bodySelector := some "*" }

/-- The model of the definition. -/
theorem servicesOfAll_text :
    Declaration.servicesOfAll [text] = [.declared "users.v1" "Users" [method]] := by
  decide +kernel

/-- The path of the method is a template without variables. -/
theorem exists_parse :
    ∃ template, PathTemplate.parse method.binding.pathTemplate = .ok template ∧
      template.variableNames = [] := by
  have hread : (PathTemplate.parse method.binding.pathTemplate).toOption.map
      PathTemplate.variableNames = some [] := by decide +kernel
  cases h : PathTemplate.parse method.binding.pathTemplate with
  | error error => simp [h, Except.toOption] at hread
  | ok template => exact ⟨template, rfl, by simpa [h, Except.toOption] using hread⟩

/-- The definition has a document. -/
theorem exists_generate_text :
    ∃ adapter, generate {} (Declaration.servicesOfAll [text]) = .ok adapter := by
  obtain ⟨template, hparse, -⟩ := exists_parse
  rw [servicesOfAll_text]
  refine exists_generate {} (List.forall_mem_singleton.2 ?_)
  exact List.forall_mem_singleton.2 ⟨template, hparse⟩

/-- The path is accepted with its line feed, and its second line stands in the route table and in
the trait as code. -/
theorem comments_read_as_code :
    ∃ (adapter : Adapter) (header : List String) (m : ServiceModule) (op : Operation),
      generate {} (Declaration.servicesOfAll [text]) = .ok adapter ∧
      adapter.content = linesText (header ++ "" :: m.lines "rest_adapter_runtime") ∧
      op.comment ∈ m.lines "rest_adapter_runtime" ∧
      op.comment = "        // POST /v1/users\n      body: " ∧
      LexesLine op.comment [.word "body", .sign ':'] ∧
      op.docComment ∈ m.lines "rest_adapter_runtime" ∧
      op.docComment = "        /// `POST /v1/users\n      body: `" ∧
      LexesLine op.docComment [.word "body", .sign ':', .sign '\x60'] := by
  obtain ⟨adapter, hadapter⟩ := exists_generate_text
  obtain ⟨header, modules, hcontent, hmodules⟩ := exists_modules_of_generate hadapter
  rw [servicesOfAll_text] at hmodules
  obtain ⟨m, _, hm, hnil, rfl⟩ := List.forall₂_cons_left_iff.1 hmodules
  cases hnil
  obtain ⟨op, _, hop, -, hoperations⟩ := List.forall₂_cons_left_iff.1 hm.operations
  have hmem : op ∈ m.operations := hoperations ▸ List.mem_cons_self
  have hnames : op.variableNames = [] := by
    obtain ⟨template, hparse, hnames⟩ := exists_parse
    obtain ⟨_, hparse', hnames'⟩ := hop.template
    cases hparse.symm.trans hparse'
    exact hnames'.trans hnames
  have hcomment : op.comment = "        // POST /v1/users\n      body: " := by
    rw [Operation.comment_eq_append, hop.heading_eq, Operation.variablesNote, hnames]
    rfl
  have hdoc : op.docComment = "        /// `POST /v1/users\n      body: `" := by
    rw [Operation.docComment_eq_append, hop.heading_eq]
    rfl
  refine ⟨adapter, header, m, op, hadapter, ?_, m.comment_mem_lines _ hmem, hcomment, ?_,
    m.docComment_mem_lines _ hmem, hdoc, ?_⟩
  · simpa [ServiceModule.lines_text] using hcontent
  · rw [hcomment]
    decide +kernel
  · rw [hdoc]
    decide +kernel

/-- The method of the definition, whose comments are described although its path has two lines. -/
theorem generate_comments_text :
    ∃ (adapter : Adapter) (header : List String) (m : ServiceModule),
      generate {} (Declaration.servicesOfAll [text]) = .ok adapter ∧
      adapter.content = linesText (header ++ "" :: m.lines "rest_adapter_runtime") ∧
      m.Annotates {} [text] (.declared "users.v1" "Users" [method]) := by
  obtain ⟨adapter, hadapter⟩ := exists_generate_text
  obtain ⟨header, modules, hcontent, hmodules⟩ := generate_comments hadapter
  rw [servicesOfAll_text] at hmodules
  obtain ⟨m, _, hm, hnil, rfl⟩ := List.forall₂_cons_left_iff.1 hmodules
  cases hnil
  exact ⟨adapter, header, m, hadapter, by simpa using hcontent, hm⟩

end UnclosedPath

end Transcoding
