import Transcoding.Adapter.Output
import Transcoding.Proofs.Adapter.Meaning
import Transcoding.Proofs.Serving.Response
import Transcoding.Serving.Dispatch

/-!
# Templates are checked before a document is written

A model whose templates can all be read has a document, and a model with one that cannot has none:
the error names the first such method (`generateAdapter_eq_error_iff`). So a table that is read from
a document never fails at a request (`RouteTable.Sound`), as long as the table is read as the
literals in it say. Where a template leaves its comment, a document can fail at every request
(`Smuggling.every_request_fails`).
-/

namespace Transcoding

open Transcoding.Text Transcoding.Source

/-! ## Tables without faults -/

/-- A table that can be looked up for every request. -/
structure RouteTable.Sound (table : RouteTable) : Prop where
  route : ∀ verb path, ∃ result, table.route verb path = .ok result
  dispatch : ∀ {α : Nat → Type} {β : Type} (decode : (index : Nat) → Json → Option (α index))
    (handle : (index : Nat) → α index → β) (request : Request) (error : TemplateError),
    table.dispatch decode handle request ≠ .invalidTable error

/-- A request is answered with a fault of the table if the lookup of its route finds one. -/
theorem RouteTable.dispatch_eq_invalidTable_iff {α : Nat → Type} {β : Type} {table : RouteTable}
    {decode : (index : Nat) → Json → Option (α index)} {handle : (index : Nat) → α index → β}
    {request : Request} {error : TemplateError} :
    table.dispatch decode handle request = .invalidTable error ↔
      table.route request.verb request.path = .error error := by
  unfold dispatch
  constructor
  · intro h
    split at h
    · next herror =>
      cases h
      exact herror
    · cases h
    · split at h
      · cases h
      · split at h <;> cases h
  · intro h
    rw [h]

/-- A table whose templates can be read is sound. -/
theorem RouteTable.Readable.sound {table : RouteTable} (h : table.Readable) : table.Sound := by
  have hroute : ∀ verb path, ∃ result, table.route verb path = .ok result := by
    intro verb path
    obtain ⟨templates, htemplates⟩ := RouteTable.readable_iff.1 h
    exact ⟨_, bind_eq_ok_iff.2 ⟨templates, htemplates, rfl⟩⟩
  refine ⟨hroute, fun decode handle request error herror => ?_⟩
  obtain ⟨result, hresult⟩ := hroute request.verb request.path
  cases hresult.symm.trans (dispatch_eq_invalidTable_iff.1 herror)

/-! ## The check -/

/-- An adapter is generated if the model has a document. -/
theorem generateAdapter_eq_ok_iff {settings : Settings} {services : List Service}
    {adapter : Adapter} :
    generateAdapter settings services = .ok adapter ↔ generate settings services = .ok adapter := by
  unfold generateAdapter
  cases generate settings services <;> simp [Except.mapError]

/-- An adapter is not generated if a template cannot be read, and the error names the first one. -/
theorem generateAdapter_eq_error_iff {settings : Settings} {services : List Service}
    {error : GeneratorError} :
    generateAdapter settings services = .error error ↔
      ∃ service method fault, FirstUnreadable services service method fault ∧
        error = .invalidTemplate
          { service := service.fullName, method := method.name, error := fault } := by
  have herror : generateAdapter settings services = .error error ↔
      ∃ e, generate settings services = .error e ∧ error = .invalidTemplate e := by
    unfold generateAdapter
    cases generate settings services <;> simp [Except.mapError, eq_comm]
  simp only [herror, generate_eq_error_iff, serviceModules_eq_error_iff]
  constructor
  · rintro ⟨_, ⟨service, method, fault, h, rfl⟩, rfl⟩
    exact ⟨service, method, fault, h, rfl⟩
  · rintro ⟨service, method, fault, h, rfl⟩
    exact ⟨_, ⟨service, method, fault, h, rfl⟩, rfl⟩

/-- Generation fails if some template cannot be read. -/
theorem exists_generateAdapter_eq_error_iff {settings : Settings} {services : List Service} :
    (∃ error, generateAdapter settings services = .error error) ↔
      ∃ service ∈ services, ∃ method ∈ service.methods,
        ∃ fault, PathTemplate.parse method.binding.pathTemplate = .error fault := by
  rw [← exists_firstUnreadable_iff]
  simp only [generateAdapter_eq_error_iff]
  constructor
  · rintro ⟨_, service, method, fault, h, -⟩
    exact ⟨service, method, fault, h⟩
  · rintro ⟨service, method, fault, h⟩
    exact ⟨_, service, method, fault, h, rfl⟩

/-- The module of a service, whose table can be looked up for every request. It is read from the
literals, and from the text if no template has a line feed. -/
structure ModuleText.Safe (service : Service) (m : ModuleText) : Prop where
  fullName : m.fullName = service.fullName
  table : ∃ table : RouteTable, table.Sound ∧ m.entries.mapM EntryText.route? = some table ∧
    ((∀ method ∈ service.methods, '\n' ∉ method.binding.pathTemplate.toList) →
      readTable (linesText m.tableLines) = some table)

/-- The module of a service whose templates can be read is safe. -/
theorem ServiceModule.Describes.safe {settings : Settings} {service : Service} {m : ServiceModule}
    (h : m.Describes settings service) (runtimeCrate : String) :
    (m.text runtimeCrate).Safe service where
  fullName := h.fullName
  table := by
    have hconveys := h.conveys runtimeCrate
    exact ⟨service.table, h.readable.sound, hconveys.literals, hconveys.text⟩

/-- **Generation checks all templates.** Generation fails if a template cannot be read, with an
error that names the first such method. If it does not fail, the tables of the document do not fail
either. -/
theorem generateAdapter_checked (settings : Settings) (services : List Service) :
    (∀ error, generateAdapter settings services = .error error ↔
      ∃ service method fault, FirstUnreadable services service method fault ∧
        error = .invalidTemplate
          { service := service.fullName, method := method.name, error := fault } ∧
        error.kind = .generation ∧
        error.message = "Generation error: " ++ ("Invalid path template for " ++ service.fullName
          ++ "." ++ method.name ++ ": " ++ fault.message)) ∧
    ((∃ error, generateAdapter settings services = .error error) ↔
      ∃ service ∈ services, ∃ method ∈ service.methods,
        ∃ fault, PathTemplate.parse method.binding.pathTemplate = .error fault) ∧
    ∀ adapter, generateAdapter settings services = .ok adapter →
      ∃ header modules, adapter.content = linesText (header ++ modules.flatMap ModuleText.lines) ∧
        List.Forall₂ ModuleText.Safe services modules := by
  refine ⟨fun error => ?_, exists_generateAdapter_eq_error_iff, fun adapter h => ?_⟩
  · rw [generateAdapter_eq_error_iff]
    constructor
    · rintro ⟨service, method, fault, h, rfl⟩
      exact ⟨service, method, fault, h, rfl, rfl, rfl⟩
    · rintro ⟨service, method, fault, h, rfl, -⟩
      exact ⟨service, method, fault, h, rfl⟩
  · obtain ⟨header, modules, hcontent, hmodules⟩ :=
      exists_modules_of_generate (generateAdapter_eq_ok_iff.1 h)
    refine ⟨header, modules.map (ServiceModule.text settings.runtimeCrate), hcontent, ?_⟩
    rw [List.forall₂_map_right_iff]
    exact hmodules.imp fun _ _ hm => hm.safe settings.runtimeCrate

/-- A table that is read from a document and serves every request without a fault. -/
theorem generateAdapter_checked_escaped :
    ∃ (adapter : Adapter) (header : List String) (m : ModuleText),
      generateAdapter {} [Service.escaped] = .ok adapter ∧
        adapter.content = linesText (header ++ m.lines) ∧
        ∃ table, readTable (linesText m.tableLines) = some table ∧ table.Sound := by
  have hchecked := generateAdapter_checked {} [Service.escaped]
  have hok : (generateAdapter {} [Service.escaped]).toBool = true := by decide +kernel
  cases h : generateAdapter {} [Service.escaped] with
  | error e => simp [h, Except.toBool] at hok
  | ok adapter =>
    obtain ⟨header, modules, hcontent, hmodules⟩ := hchecked.2.2 adapter h
    obtain ⟨m, _, hm, hnil, rfl⟩ := List.forall₂_cons_left_iff.1 hmodules
    cases hnil
    obtain ⟨table, hsound, -, hread⟩ := hm.table
    exact ⟨adapter, header, m, rfl, by simpa using hcontent, table, hread (by decide +kernel),
      hsound⟩

/-- A document can be generated that answers no request: its table has an entry that belongs to no
method, and the template of that entry was not checked. -/
theorem Smuggling.every_request_fails :
    ∃ (adapter : Adapter) (header : List String) (m : ModuleText) (table : RouteTable),
      generateAdapter {} [service] = .ok adapter ∧
        adapter.content = linesText (header ++ m.lines) ∧
        readTable (linesText m.tableLines) = some table ∧
        (∀ verb path, table.route verb path = .error (.missingLeadingSlash "bad")) ∧
        ∀ (α β : Type) (decode : Nat → Json → Option α) (handle : Nat → α → β)
          (respond : β → Response) (request : Request),
          ((table.dispatch decode handle request).response respond).Reports 500 "INTERNAL"
            "invalid route table: template \x27bad\x27 must start with \x27/\x27" := by
  obtain ⟨adapter, header, m, h, hcontent, hread⟩ := exists_module
  have hroute : ∀ verb path,
      RouteTable.route [first.route, strayRoute, second.route, third.route] verb path =
        .error (.missingLeadingSlash "bad") := by
    intro verb path
    rw [RouteTable.route_eq_error_iff]
    obtain ⟨template, hparse, -⟩ := parse_opening
    exact ⟨strayRoute, [first.route], [second.route, third.route], rfl,
      List.forall_mem_singleton.2 ⟨template, hparse⟩, rfl⟩
  refine ⟨adapter, header, m, _, generateAdapter_eq_ok_iff.2 h, hcontent, hread, hroute, ?_⟩
  intro α β decode handle respond request
  rw [RouteTable.dispatch_eq_invalidTable_iff.2 (hroute request.verb request.path)]
  exact Response.reports_error 500 "INTERNAL" _

end Transcoding
