import Transcoding.Adapter.Document
import Transcoding.Proofs.Adapter.Outline
import Transcoding.Proofs.Router.Entries

/-!
# The parts of a document

A document has a header and a module for each service. `ModuleText` cuts the text of a module into
the parts that depend on the model: the entries of the route table with their literals
(`EntryText`), and the arms that serve the routes (`ArmText`). The lines of a module are those of
its parts (`ServiceModule.lines_text`), and so the document of a model consists of the parts of the
modules in its outline (`exists_modules_of_generate`).
-/

namespace Transcoding

open Transcoding.Text

/-! ## Parts of a document -/

/-- An entry of a route table, by the texts of its parts. -/
structure EntryText where
  comment : String
  method : String
  verb : String
  template : String
  body : String

/-- The lines of an entry. -/
def EntryText.lines (entry : EntryText) : List String :=
  [entry.comment,
   "        rt::Route \x7b",
   "            method: " ++ entry.method ++ ",",
   "            verb: " ++ entry.verb ++ ",",
   "            template: " ++ entry.template ++ ",",
   "            body: " ++ entry.body ++ ",",
   "        \x7d,"]

/-- An arm of the function that serves a request, by the texts of its parts. -/
structure ArmText where
  /-- The index of the route that the arm serves. -/
  index : String
  inputType : String
  /-- The index of the entry that the arm decodes with. -/
  entry : String
  function : String

/-- The lines of an arm. -/
def ArmText.lines (arm : ArmText) : List String :=
  ["            Some((" ++ arm.index ++ ", captures)) => \x7b",
   "                let input: " ++ arm.inputType ++ " =",
   "                    match request.decode(&ROUTES[" ++ arm.entry ++ "], captures) \x7b",
   "                        Ok(input) => input,",
   "                        Err(rejection) => return rejection.into_response(),",
   "                    \x7d;",
   "                rt::respond(handle." ++ arm.function ++ "(input).await)",
   "            \x7d"]

/-- A module of a document, by its parts. -/
structure ModuleText where
  fullName : String
  name : String
  /-- What stands before the route table. -/
  imports : List String
  entries : List EntryText
  /-- What stands between the route table and the arms. -/
  items : List String
  arms : List ArmText

namespace ModuleText

/-- The route table. -/
def tableLines (m : ModuleText) : List String :=
  ["    pub const ROUTES: &[rt::Route] = &["] ++ m.entries.flatMap EntryText.lines ++ ["    ];"]

/-- The lines of a module, with the blank line before it. -/
def lines (m : ModuleText) : List String :=
  ["",
   "/// REST adapter for `" ++ m.fullName ++ "`",
   "pub mod " ++ m.name ++ " \x7b"]
  ++ m.imports ++ m.tableLines ++ m.items
  ++ ["        match matched \x7b"]
  ++ m.arms.flatMap ArmText.lines
  ++ ["            _ => rt::not_found(request.method(), request.path()),",
      "        \x7d",
      "    \x7d",
      "\x7d"]

end ModuleText

/-! ## The parts of an outline -/

/-- The parts of the entry for an operation. -/
def Operation.entryText (op : Operation) : EntryText where
  comment := op.comment
  method := quote op.route.method
  verb := quote op.route.verb
  template := quote op.route.template
  body := sourceExpression op.route.source

/-- The parts of the arm for the operation at an index. -/
def Operation.armText (index : Nat) (op : Operation) : ArmText where
  index := decimal index
  inputType := op.inputType
  entry := decimal index
  function := op.functionName

/-- The arms of the operations are those of their parts, for every index to count from. -/
theorem armsFrom_eq (start : Nat) (operations : List Operation) :
    armsFrom start operations =
      (operations.mapIdx fun i op => op.armText (start + i)).flatMap ArmText.lines := by
  induction operations generalizing start with
  | nil => rfl
  | cons op operations ih =>
    rw [armsFrom, ih (start + 1), List.mapIdx_cons, List.flatMap_cons]
    simp only [Nat.add_zero, Nat.add_comm, Nat.add_left_comm]
    rfl

/-- The parts of a module. -/
def ServiceModule.text (runtimeCrate : String) (m : ServiceModule) : ModuleText where
  fullName := m.fullName
  name := m.moduleName
  imports := importLines runtimeCrate
    ++ ["    /// REST bindings of `" ++ m.fullName ++ "` in declaration order"]
  entries := m.operations.map Operation.entryText
  items := [""] ++ m.traitLines ++ m.routerLines ++ m.lookupLines
  arms := m.operations.mapIdx Operation.armText

/-- The lines of an entry are those of its parts. -/
theorem Operation.lines_entryText (op : Operation) : op.entryText.lines = op.tableLines := rfl

/-- The route table of a module consists of the entries of its operations. -/
theorem ServiceModule.tableLines_text (runtimeCrate : String) (m : ServiceModule) :
    (m.text runtimeCrate).tableLines = ["    pub const ROUTES: &[rt::Route] = &["]
      ++ m.operations.flatMap Operation.tableLines ++ ["    ];"] := by
  simp only [ModuleText.tableLines, text, List.flatMap_map, Operation.lines_entryText]

/-- The lines of a module are those of its parts, after a blank line. -/
theorem ServiceModule.lines_text (runtimeCrate : String) (m : ServiceModule) :
    (m.text runtimeCrate).lines = "" :: m.lines runtimeCrate := by
  have harms := armsFrom_eq 0 m.operations
  simp only [Nat.zero_add] at harms
  rw [ModuleText.lines, tableLines_text]
  simp only [text, ServiceModule.lines, openingLines, tableLines, matchLines, harms,
    List.append_assoc, List.cons_append, List.nil_append]

/-! ## The document of a model -/

/-- What follows from a relation for its first argument holds of each item of the first of two
related lists. -/
theorem forall_mem_of_forall₂ {α β : Type} {R : α → β → Prop} {p : α → Prop} {items : List α}
    {items' : List β} (h : List.Forall₂ R items items') (hp : ∀ a b, R a b → p a) :
    ∀ a ∈ items, p a := by
  induction h with
  | nil => exact nofun
  | cons hab _ ih => exact List.forall_mem_cons.2 ⟨hp _ _ hab, ih⟩

namespace ServiceModule.Describes

variable {settings : Settings} {service : Service} {m : ServiceModule}

/-- The operations of a module have the routes of the table of its service. -/
theorem routes_eq (h : m.Describes settings service) :
    m.operations.map (·.route) = service.table := by
  have hroutes : List.Forall₂ (· = ·) service.table (m.operations.map (·.route)) := by
    rw [Service.table, List.forall₂_map_left_iff, List.forall₂_map_right_iff]
    exact h.operations.imp fun _ _ hop => hop.route.symm
  rw [List.forall₂_eq_eq_eq] at hroutes
  exact hroutes.symm

/-- The templates of a service that has a module can be read. -/
theorem readable (h : m.Describes settings service) : service.table.Readable := by
  rw [RouteTable.Readable, Service.table, List.forall_mem_map]
  refine forall_mem_of_forall₂ h.operations fun method op hop => ?_
  obtain ⟨template, hparse, -⟩ := hop.template
  exact ⟨template, hparse⟩

end ServiceModule.Describes

/-- A model has no document if it has no outline. -/
theorem generate_eq_error_iff {settings : Settings} {services : List Service}
    {error : OutlineError} :
    generate settings services = .error error ↔
      serviceModules settings [] services = .error error := by
  rw [generate, bind_eq_error_iff]
  exact or_iff_left fun ⟨_, _, h⟩ => nomatch h

/-- A model has a document if its templates can be read. -/
theorem exists_generate {services : List Service} (settings : Settings)
    (h : ∀ service ∈ services, service.table.Readable) :
    ∃ adapter, generate settings services = .ok adapter := by
  cases hgenerate : generate settings services with
  | ok adapter => exact ⟨adapter, rfl⟩
  | error error =>
    obtain ⟨service, hservice, method, hmethod, fault, hfault⟩ :=
      exists_serviceModules_eq_error_iff.1 ⟨error, generate_eq_error_iff.1 hgenerate⟩
    obtain ⟨template, htemplate⟩ :=
      h service hservice method.route (List.mem_map_of_mem hmethod)
    cases hfault.symm.trans htemplate

/-- A document consists of a header and the modules of the outline. -/
theorem exists_outline_of_generate {settings : Settings} {services : List Service}
    {adapter : Adapter} (h : generate settings services = .ok adapter) :
    ∃ header modules, outline settings services = .ok modules ∧
      adapter.content = linesText (header ++
        (modules.map (ServiceModule.text settings.runtimeCrate)).flatMap ModuleText.lines) := by
  obtain ⟨modules, hmodules, h⟩ := bind_eq_ok_iff.1 h
  cases h
  refine ⟨documentLines settings (ModelSummary.ofServices services) [], modules, hmodules, ?_⟩
  simp only [documentLines, List.flatMap_map, ServiceModule.lines_text, List.flatMap_nil,
    List.append_nil]

/-- A document consists of a header and the modules of the services. -/
theorem exists_modules_of_generate {settings : Settings} {services : List Service}
    {adapter : Adapter} (h : generate settings services = .ok adapter) :
    ∃ header modules,
      adapter.content = linesText (header ++
        (modules.map (ServiceModule.text settings.runtimeCrate)).flatMap ModuleText.lines) ∧
      List.Forall₂ (ServiceModule.Describes settings) services modules := by
  obtain ⟨header, modules, hmodules, hcontent⟩ := exists_outline_of_generate h
  exact ⟨header, modules, hcontent, serviceModules_eq_ok hmodules⟩

end Transcoding
