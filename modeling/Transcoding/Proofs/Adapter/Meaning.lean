import Transcoding.Proofs.Adapter.Layout
import Transcoding.Proofs.Adapter.TableText
import Transcoding.Serving.Payload

/-!
# What a document says about a model

The parts of a document convey the model (`ModuleText.Conveys`): literal by literal the entries of a
table denote the bindings of the methods, and each arm decodes with the entry of its own index and
calls the function of its own method (`generate_conveys`).

The table as a whole is more than its literals, for the template of a route is also printed into a
comment above its entry, as it is. If no template has a line feed, the text of the table is read as
the bindings of the service. Otherwise the rest of a template is read as code
(`Smuggling.table_text_smuggled`).
-/

namespace Transcoding

open Transcoding.Text Transcoding.Source

/-! ## Bindings -/

/-- The binding of the method at an index serves the request. -/
def Service.Binds (service : Service) (verb path : String) (index : Nat) (captures : Captures) :
    Prop :=
  ∃ method template, service.methods[index]? = some method ∧
    sameVerb method.binding.verb.name verb ∧
    PathTemplate.parse method.binding.pathTemplate = .ok template ∧
    template.match? path = some captures

/-- A table that routes requests and builds payloads by the bindings of a service. -/
structure RouteTable.StandsFor (table : RouteTable) (service : Service) : Prop where
  found : ∀ verb path index captures,
    table.route verb path = .ok (some (index, captures)) ↔
      service.Binds verb path index captures ∧
        ∀ j < index, ∀ found, ¬ service.Binds verb path j found
  missed : ∀ verb path,
    table.route verb path = .ok none ↔ ∀ index captures, ¬ service.Binds verb path index captures
  payload : ∀ (index : Nat) (captures : Captures) (query : List (String × String))
      (body : List UInt8),
    (table[index]?).map (fun route => buildPayload route.source captures query body) =
      (service.methods[index]?).map fun method =>
        buildPayload method.binding.payloadSource captures query body

/-- The table of a service serves a request with the route of the method that binds it. -/
theorem Service.serves_table_iff {service : Service} {verb path : String} {index : Nat}
    {captures : Captures} :
    service.table.Serves verb path index captures ↔ service.Binds verb path index captures := by
  constructor
  · rintro ⟨route, template, hroute, hverb, hparse, hmatch⟩
    rw [Service.table, List.getElem?_map, Option.map_eq_some_iff] at hroute
    obtain ⟨method, hmethod, rfl⟩ := hroute
    exact ⟨method, template, hmethod, hverb, hparse, hmatch⟩
  · rintro ⟨method, template, hmethod, hverb, hparse, hmatch⟩
    refine ⟨method.route, template, ?_, hverb, hparse, hmatch⟩
    rw [Service.table, List.getElem?_map, hmethod]
    rfl

/-- The table of a service stands for its bindings if their templates can be read. -/
theorem Service.table_standsFor {service : Service} (h : service.table.Readable) :
    service.table.StandsFor service where
  found verb path index captures := by
    rw [RouteTable.route_eq_ok_some_iff, and_iff_right h]
    constructor
    · rintro ⟨hserves, hfirst⟩
      exact ⟨serves_table_iff.1 hserves, fun j hj found hbinds =>
        hfirst j hj found (serves_table_iff.2 hbinds)⟩
    · rintro ⟨hbinds, hfirst⟩
      exact ⟨serves_table_iff.2 hbinds, fun j hj found hserves =>
        hfirst j hj found (serves_table_iff.1 hserves)⟩
  missed verb path := by
    rw [RouteTable.route_eq_ok_none_iff, and_iff_right h]
    simp only [serves_table_iff]
  payload index captures query body := by
    rw [Service.table, List.getElem?_map, Option.map_map]
    rfl

/-! ## What the parts denote -/

/-- The literals of an entry denote the binding of a method. -/
structure EntryText.Denotes (method : Method) (entry : EntryText) : Prop where
  name : readLiteral entry.method = some method.name
  verb : readLiteral entry.verb = some method.binding.verb.name
  template : readLiteral entry.template = some method.binding.pathTemplate
  body : readSource entry.body = some method.binding.payloadSource

/-- The route that the literals of an entry denote. -/
def EntryText.route? (entry : EntryText) : Option Route := do
  return {
    method := ← readLiteral entry.method
    verb := ← readLiteral entry.verb
    template := ← readLiteral entry.template
    source := ← readSource entry.body }

/-- An entry that denotes a method is read as the route of the method. -/
theorem EntryText.Denotes.route_eq {method : Method} {entry : EntryText}
    (h : entry.Denotes method) : entry.route? = some method.route := by
  simp [route?, h.name, h.verb, h.template, h.body, Method.route]

/-- Entries that denote methods are read as the routes of the methods. -/
theorem EntryText.mapM_route_eq {methods : List Method} {entries : List EntryText}
    (h : List.Forall₂ EntryText.Denotes methods entries) :
    entries.mapM EntryText.route? = some (methods.map Method.route) := by
  induction h with
  | nil => rfl
  | cons hentry _ ih => simp [List.mapM_cons, hentry.route_eq, ih]

/-- The arm that serves the method at an index. -/
def ArmText.of (settings : Settings) (index : Nat) (method : Method) : ArmText where
  index := decimal index
  inputType := rustPath settings.typesPath method.inputType
  entry := decimal index
  function := rustIdentifier (snakeCase method.name)

/-- A module that says what the bindings of a service say. -/
structure ModuleText.Conveys (settings : Settings) (service : Service) (m : ModuleText) :
    Prop where
  fullName : m.fullName = service.fullName
  entries : List.Forall₂ EntryText.Denotes service.methods m.entries
  arms : m.arms = service.methods.mapIdx (ArmText.of settings)
  literals : m.entries.mapM EntryText.route? = some service.table
  /-- The text of the table is read as its literals if no template has a line feed. -/
  text : (∀ method ∈ service.methods, '\n' ∉ method.binding.pathTemplate.toList) →
    readTable (linesText m.tableLines) = some service.table
  standsFor : service.table.StandsFor service

/-! ## The meaning of a document -/

/-- The characters that a comment cannot hold: a line feed ends it, and a carriage return may not
stand in it alone. -/
def IsLineBreak (c : Char) : Prop := c = '\n' ∨ c = '\r'

/-- The name of a verb is a single line. -/
theorem HttpVerb.lineBreak_not_mem_name {c : Char} (hc : IsLineBreak c) (verb : HttpVerb) :
    c ∉ verb.name.toList := by
  rcases hc with rfl | rfl <;> cases verb <;> decide

/-- The name of a verb has no line feed. -/
theorem HttpVerb.newline_not_mem_name (verb : HttpVerb) : '\n' ∉ verb.name.toList :=
  verb.lineBreak_not_mem_name (.inl rfl)

namespace Operation.Describes

variable {settings : Settings} {op : Operation} {method : Method}

/-- The entry for an operation denotes the method that the operation describes. -/
theorem denotes (h : op.Describes settings method) : op.entryText.Denotes method where
  name := by simp [entryText, h.route, Method.route]
  verb := by simp [entryText, h.route, Method.route]
  template := by simp [entryText, h.route, Method.route]
  body := by simp [entryText, h.route, Method.route]

/-- The arm for an operation is the arm of the method that the operation describes. -/
theorem armText_eq (h : op.Describes settings method) (index : Nat) :
    op.armText index = ArmText.of settings index method := by
  rw [armText, ArmText.of, h.function, h.input]

/-- The comment above an entry has no line break that the template does not have. -/
theorem lineBreak_not_mem_comment (h : op.Describes settings method) {c : Char}
    (hc : IsLineBreak c) (hline : c ∉ method.binding.pathTemplate.toList) :
    c ∉ op.comment.toList := by
  obtain ⟨template, hparse, hnames⟩ := h.template
  have hvariables : c ∉ (join ", " op.variableNames).toList := by
    intro hmem
    rcases mem_join hmem with hcomma | ⟨name, hname, hmem⟩
    · rcases hc with rfl | rfl <;> exact absurd hcomma (by decide)
    · rw [hnames] at hname
      exact hline (PathTemplate.name_subset_of_parse hparse hname hmem)
  have hverb := method.binding.verb.lineBreak_not_mem_name hc
  rw [comment, heading, h.route, Method.route]
  rcases hc with rfl | rfl <;> split <;> simp [hverb, hline, hvariables]

/-- The comment above an entry is one line if the template is. -/
theorem newline_not_mem_comment (h : op.Describes settings method)
    (hline : '\n' ∉ method.binding.pathTemplate.toList) : '\n' ∉ op.comment.toList :=
  h.lineBreak_not_mem_comment (.inl rfl) hline

/-- The comment above the entry of a template with one variable. -/
theorem comment_eq (h : op.Describes settings method) {template : PathTemplate} {name : String}
    (hparse : PathTemplate.parse method.binding.pathTemplate = .ok template)
    (hname : template.variableNames = [name]) :
    op.comment = "        // "
      ++ (method.binding.verb.name ++ " " ++ method.binding.pathTemplate)
      ++ (" (" ++ name ++ ")") := by
  obtain ⟨_, hparse', hnames⟩ := h.template
  cases hparse.symm.trans hparse'
  rw [comment, heading, h.route, hnames, hname]
  simp [Method.route, join]

end Operation.Describes

/-- Related lists have the same image under functions that agree on related items at each index. -/
theorem mapIdx_eq_of_forall₂ {α β γ : Type} {R : α → β → Prop} {items : List α} {items' : List β}
    {f : Nat → α → γ} {g : Nat → β → γ} (h : List.Forall₂ R items items')
    (heq : ∀ i a b, R a b → f i a = g i b) : items.mapIdx f = items'.mapIdx g := by
  induction h generalizing f g with
  | nil => rfl
  | cons hab _ ih =>
    rw [List.mapIdx_cons, List.mapIdx_cons, heq 0 _ _ hab, ih fun i => heq (i + 1)]

namespace ServiceModule.Describes

variable {settings : Settings} {service : Service} {m : ServiceModule}

/-- The comments in the table are single lines if the templates are. -/
theorem newline_not_mem_comment (h : m.Describes settings service)
    (hlines : ∀ method ∈ service.methods, '\n' ∉ method.binding.pathTemplate.toList) :
    ∀ op ∈ m.operations, '\n' ∉ op.comment.toList := by
  have hboth := (List.forall₂_and_left _ _).2 ⟨hlines, h.operations⟩
  exact forall_mem_of_forall₂ hboth.flip fun _ _ hop => hop.2.newline_not_mem_comment hop.1

/-- The entries of a module denote the methods of its service, one by one. -/
theorem denotes (h : m.Describes settings service) :
    List.Forall₂ EntryText.Denotes service.methods (m.operations.map Operation.entryText) := by
  rw [List.forall₂_map_right_iff]
  exact h.operations.imp fun _ _ hop => hop.denotes

/-- The module of a service conveys the service. -/
theorem conveys (h : m.Describes settings service) (runtimeCrate : String) :
    (m.text runtimeCrate).Conveys settings service where
  fullName := h.fullName
  entries := h.denotes
  arms := (mapIdx_eq_of_forall₂ h.operations fun i _ _ hop => (hop.armText_eq i).symm).symm
  literals := EntryText.mapM_route_eq h.denotes
  text hlines := by
    have hread := readTable_tableText (h.newline_not_mem_comment hlines)
    rwa [h.routes_eq, ← tableLines_text runtimeCrate] at hread
  standsFor := Service.table_standsFor h.readable

end ServiceModule.Describes

/-- **A document conveys its model.** The document of a model has a module for each service, in
order, and each of them conveys its service. -/
theorem generate_conveys {settings : Settings} {services : List Service} {adapter : Adapter}
    (h : generate settings services = .ok adapter) :
    ∃ header modules, adapter.content = linesText (header ++ modules.flatMap ModuleText.lines) ∧
      List.Forall₂ (ModuleText.Conveys settings) services modules := by
  obtain ⟨header, modules, hcontent, hmodules⟩ := exists_modules_of_generate h
  refine ⟨header, modules.map (ServiceModule.text settings.runtimeCrate), hcontent, ?_⟩
  rw [List.forall₂_map_right_iff]
  exact hmodules.imp fun _ _ hm => hm.conveys settings.runtimeCrate

/-- A service with texts that a literal has to escape. -/
def Service.escaped : Service :=
  .declared "shop.v1" "Shelves"
    [{ name := "Get\"Book\\"
       inputType := "BookRequest"
       outputType := "Book"
       binding := { verb := .get, pathTemplate := "/v1/\t\x7bb\u0301ook\x7d/\x00" } },
     { name := "Put\u200bBook"
       inputType := "BookRequest"
       outputType := "Book"
       binding := {
         verb := .put
         pathTemplate := "/v1/\x7bname=shelves/*\x7d"
         bodySelector := some "bo\r\nok\"" } }]

/-- The texts of the service are read back, from its literals and from its table. -/
theorem generate_conveys_escaped :
    ∃ adapter, generate {} [Service.escaped] = .ok adapter ∧
      ∃ (header : List String) (m : ModuleText),
        adapter.content = linesText (header ++ m.lines) ∧
        m.Conveys {} Service.escaped ∧
        readTable (linesText m.tableLines) = some Service.escaped.table := by
  have hok : (generate {} [Service.escaped]).toBool = true := by decide +kernel
  cases h : generate {} [Service.escaped] with
  | error e => simp [h, Except.toBool] at hok
  | ok adapter =>
    obtain ⟨header, modules, hcontent, hmodules⟩ := generate_conveys h
    obtain ⟨m, _, hm, hnil, rfl⟩ := List.forall₂_cons_left_iff.1 hmodules
    cases hnil
    have hlines : ∀ method ∈ Service.escaped.methods,
        '\n' ∉ method.binding.pathTemplate.toList := by decide +kernel
    exact ⟨adapter, rfl, header, m, by simpa using hcontent, hm, hm.text hlines⟩

/-! ## A template that leaves its comment -/

namespace Smuggling

/-- The fields of an entry whose template cannot be read. -/
def strayFields : List Char :=
  " method: \"X\", verb: \"GET\", template: \"bad\", body: rt::BodySelector::None, ".toList

/-- A text that ends a comment and declares a function, unless it stands in a line comment. -/
def strayFunction : List Char :=
  " */ fn first(&self, request: In) -> impl ::std::future::Future<".toList
    ++ "Output = ::std::result::Result<Out, Self::Error>> + Send; //".toList

/-- A template with an entry on a line of its own. The fields of the entry are a variable. -/
def writtenClosing : WrittenTemplate where
  lead := "/b\n".toList ++ "rt::Route ".toList
  slots :=
    [{ inner := strayFields
       name := String.ofList (trimBlanks strayFields)
       pattern := .any
       after := ",\n//".toList ++ strayFunction }]

/-- A template that opens a comment at its end. The name of its variable closes the comment. -/
def opening : String := "/a\n// \x7bx */ //\x7d\n/*"

/-- The method whose template opens a comment. -/
def first : Method where
  name := "First"
  inputType := "In"
  outputType := "Out"
  binding := { verb := .get, pathTemplate := opening }

/-- The method whose template closes the comment and has an entry on a line of its own. -/
def second : Method where
  name := "Second"
  inputType := "In"
  outputType := "Out"
  binding := { verb := .get, pathTemplate := String.ofList writtenClosing.text }

/-- The method whose template is like any other. -/
def third : Method where
  name := "Third"
  inputType := "In"
  outputType := "Out"
  binding := { verb := .get, pathTemplate := "/c" }

/-- A service with the two templates, and one that is like any other. -/
def service : Service := .declared "p" "S" [first, second, third]

/-- The entry that stands in the table of the service and belongs to none of its methods. -/
def strayRoute : Route := { method := "X", verb := "GET", template := "bad", source := .query }

/-- The first template can be read, and its variable has a name that ends a comment. -/
theorem parse_opening :
    ∃ template, PathTemplate.parse opening = .ok template ∧
      template.variableNames = ["x */ //"] := by
  have hread : (PathTemplate.parse opening).toOption.map PathTemplate.variableNames =
      some ["x */ //"] := by decide +kernel
  cases h : PathTemplate.parse opening with
  | error error => simp [h, Except.toOption] at hread
  | ok template => exact ⟨template, rfl, by simpa [h, Except.toOption] using hread⟩

/-- The second template is written as templates are. -/
theorem valid_writtenClosing : writtenClosing.Valid where
  lead := ⟨by decide +kernel, by decide +kernel⟩
  inner := List.forall_mem_singleton.2 (by decide +kernel)
  after := List.forall_mem_singleton.2 ⟨by decide +kernel, by decide +kernel⟩
  denotes := List.forall_mem_singleton.2 (.bare (by decide +kernel) (by decide +kernel))
  separated := .singleton _
  distinct := List.nodup_singleton _

/-- The second template can be read. -/
theorem parse_closing :
    PathTemplate.parse (String.ofList writtenClosing.text) = .ok writtenClosing.template := by
  rw [PathTemplate.parse_eq_ok_iff, String.toList_ofList]
  exact ⟨by decide +kernel, writtenClosing, valid_writtenClosing, rfl, rfl⟩

/-- The third template can be read. -/
theorem parse_plain : PathTemplate.parse "/c" = .ok { lead := "/c", placeholders := [] } := by
  rfl

/-- The comment above the first entry has no tokens, although it has three lines. -/
theorem lexesLine_opening :
    LexesLine ("        // " ++ ("GET" ++ " " ++ opening) ++ (" (" ++ "x */ //" ++ ")")) [] := by
  decide +kernel

/-- The comment above the second entry has the tokens of an entry. -/
theorem lexesLine_closing :
    LexesLine ("        // " ++ ("GET" ++ " " ++ String.ofList writtenClosing.text)
      ++ (" (" ++ String.ofList (trimBlanks strayFields) ++ ")")) (entryTokens strayRoute) := by
  have hline : Lexes (.plain [])
      ("        // ".toList ++ ("GET".toList ++ (" ".toList ++ "/b\n".toList))) [] (.plain []) := by
    decide +kernel
  have hentry : Lexes (.plain [])
      ("rt::Route ".toList ++ ('\x7b' :: strayFields ++ '\x7d' :: ",\n//".toList))
      (entryTokens strayRoute) .lineComment := by
    decide +kernel
  have hfunction : '\n' ∉ strayFunction := by decide +kernel
  have hname : '\n' ∉ " (".toList ++ trimBlanks strayFields ++ ")".toList := by decide +kernel
  have hclose : Lexes .lineComment ['\n'] [] (.plain []) := .single rfl
  -- The comment ends with the first line; after the entry there is a comment again.
  have hlexes := (((hline.append hentry).append (lexes_lineComment hfunction)).append
    (lexes_lineComment hname)).append hclose
  rw [LexesLine]
  simp only [String.toList_append, @String.toList_ofList writtenClosing.text,
    @String.toList_ofList (trimBlanks strayFields)]
  simpa only [List.append_assoc, List.cons_append, List.nil_append, List.append_nil,
    WrittenTemplate.text, writtenClosing, braced_cons, braced_nil, List.map_cons, List.map_nil,
    Slot.block] using hlexes

/-- The table of the service has an entry that belongs to none of its methods. -/
theorem readTable_service {settings : Settings} {m : ServiceModule}
    (h : m.Describes settings service) (runtimeCrate : String) :
    readTable (linesText (m.text runtimeCrate).tableLines) =
      some [first.route, strayRoute, second.route, third.route] := by
  obtain ⟨op₁, _, hop₁, hrest, hops⟩ := List.forall₂_cons_left_iff.1 h.operations
  obtain ⟨op₂, _, hop₂, hlast, rfl⟩ := List.forall₂_cons_left_iff.1 hrest
  obtain ⟨op₃, _, hop₃, hnil, rfl⟩ := List.forall₂_cons_left_iff.1 hlast
  cases hnil
  let comment (op : Operation) := if op.route.method = "Second" then entryTokens strayRoute else []
  have hfirst : comment op₁ = [] := if_neg (by rw [hop₁.route]; decide)
  have hsecond : comment op₂ = entryTokens strayRoute := if_pos (by rw [hop₂.route]; rfl)
  have hthird : comment op₃ = [] := if_neg (by rw [hop₃.route]; decide)
  have hcomments : ∀ op ∈ m.operations, LexesLine op.comment (comment op) := by
    obtain ⟨template, hparse, hname⟩ := parse_opening
    have hplain := hop₃.newline_not_mem_comment (by decide)
    rw [hops, List.forall_mem_cons, List.forall_mem_cons, List.forall_mem_singleton, hfirst,
      hsecond, hthird, hop₁.comment_eq hparse hname, hop₂.comment_eq parse_closing rfl]
    exact ⟨lexesLine_opening, lexesLine_closing, lexesLine_comment hplain⟩
  have hlexes := lexes_tableText hcomments
  rw [← m.tableLines_text runtimeCrate, hops] at hlexes
  apply readTable_of_lexes
  simpa only [List.flatMap_cons, List.flatMap_nil, hfirst, hsecond, hthird, hop₁.route, hop₂.route,
    hop₃.route, List.nil_append, List.append_nil, List.append_assoc] using hlexes

/-- The service has a document, and its table is read with the entry. -/
theorem exists_module :
    ∃ (adapter : Adapter) (header : List String) (m : ModuleText),
      generate {} [service] = .ok adapter ∧ adapter.content = linesText (header ++ m.lines) ∧
        readTable (linesText m.tableLines) =
          some [first.route, strayRoute, second.route, third.route] := by
  have hreadable : service.table.Readable := by
    obtain ⟨template, hparse, -⟩ := parse_opening
    exact List.forall_mem_cons.2 ⟨⟨template, hparse⟩,
      List.forall_mem_cons.2 ⟨⟨_, parse_closing⟩, List.forall_mem_singleton.2 ⟨_, parse_plain⟩⟩⟩
  obtain ⟨adapter, h⟩ := exists_generate {} (List.forall_mem_singleton.2 hreadable)
  obtain ⟨header, modules, hcontent, hmodules⟩ := exists_modules_of_generate h
  obtain ⟨m, _, hm, hnil, rfl⟩ := List.forall₂_cons_left_iff.1 hmodules
  cases hnil
  exact ⟨adapter, header, m.text _, h, by simpa using hcontent, readTable_service hm _⟩

/-- The text of a table can hold an entry that is no binding of the service. -/
theorem table_text_smuggled :
    ∃ (adapter : Adapter) (header : List String) (m : ModuleText) (table : RouteTable),
      generate {} [service] = .ok adapter ∧ adapter.content = linesText (header ++ m.lines) ∧
        readTable (linesText m.tableLines) = some table ∧ table.length = 4 ∧
        service.methods.length = 3 ∧ ¬ table.StandsFor service := by
  obtain ⟨adapter, header, m, h, hcontent, hread⟩ := exists_module
  refine ⟨adapter, header, m, _, h, hcontent, hread, rfl, rfl, fun hstands => ?_⟩
  exact nomatch hstands.payload 3 [] [] []

end Smuggling

end Transcoding
