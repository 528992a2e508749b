import Transcoding.Adapter.Outline
import Transcoding.Proofs.Result

/-!
# Which models have an outline

A model has an outline if the templates of all methods can be read. The outline then has a module
for each service, with an operation for each method (`serviceModules_eq_ok`). Otherwise the error
is that of the first method whose template cannot be read, in the order of the model
(`serviceModules_eq_error_iff`).
-/

namespace Transcoding

open Transcoding.Text

/-! ## Operations -/

/-- The operation of a method. -/
structure Operation.Describes (settings : Settings) (op : Operation) (method : Method) : Prop where
  route : op.route = method.route
  function : op.functionName = rustIdentifier (snakeCase method.name)
  input : op.inputType = rustPath settings.typesPath method.inputType
  template : ∃ template, PathTemplate.parse method.binding.pathTemplate = .ok template ∧
    op.variableNames = template.variableNames

/-- The operation that is made from a method describes it. -/
theorem Method.describes_of_operation {settings : Settings} {name : String} {method : Method}
    {op : Operation} (h : method.operation settings name = .ok op) :
    op.Describes settings method := by
  unfold Method.operation at h
  split at h
  · cases h
  · next template htemplate =>
    cases h
    refine ⟨?_, ?_, ?_, template, htemplate, ?_⟩ <;> dsimp only

/-- A method has no operation if its template cannot be read. -/
theorem Method.operation_eq_error_iff {settings : Settings} {name : String} {method : Method}
    {error : OutlineError} :
    method.operation settings name = .error error ↔
      ∃ fault, PathTemplate.parse method.binding.pathTemplate = .error fault ∧
        error = { service := name, method := method.name, error := fault } := by
  unfold Method.operation
  cases PathTemplate.parse method.binding.pathTemplate with
  | error fault => simp [eq_comm]
  | ok template => simp

/-- An operation is made from a method if its template can be read. -/
theorem Method.exists_operation_iff {settings : Settings} {name : String} {method : Method} :
    (∃ op, method.operation settings name = .ok op) ↔
      ∃ template, PathTemplate.parse method.binding.pathTemplate = .ok template := by
  unfold Method.operation
  cases PathTemplate.parse method.binding.pathTemplate with
  | error fault => simp
  | ok template => simp

/-! ## Modules -/

/-- The module of a service. -/
structure ServiceModule.Describes (settings : Settings) (service : Service) (m : ServiceModule) :
    Prop where
  fullName : m.fullName = service.fullName
  operations : List.Forall₂ (fun method op => op.Describes settings method) service.methods
    m.operations

/-- What the outline of a service and of those after it consists of. -/
theorem serviceModules_cons_eq_ok {settings : Settings} {earlier : List String}
    {service : Service} {services : List Service} {modules : List ServiceModule}
    (h : serviceModules settings earlier (service :: services) = .ok modules) :
    ∃ operations rest,
      service.methods.mapM (Method.operation settings service.fullName) = .ok operations ∧
      serviceModules settings (snakeCase service.fullName :: earlier) services = .ok rest ∧
      modules = { moduleName := moduleName earlier (snakeCase service.fullName)
                  serviceName := service.serviceName
                  fullName := service.fullName
                  operations
                  entries := routerEntries operations } :: rest := by
  obtain ⟨operations, hops, h⟩ := bind_eq_ok_iff.1 h
  obtain ⟨rest, hrest, h⟩ := bind_eq_ok_iff.1 h
  exact ⟨operations, rest, hops, hrest, (Except.ok.inj h).symm⟩

/-- An outline has the modules of the services. -/
theorem serviceModules_eq_ok {settings : Settings} {earlier : List String}
    {services : List Service} {modules : List ServiceModule}
    (h : serviceModules settings earlier services = .ok modules) :
    List.Forall₂ (ServiceModule.Describes settings) services modules := by
  induction services generalizing earlier modules with
  | nil =>
    cases h
    exact .nil
  | cons service services ih =>
    obtain ⟨operations, rest, hops, hrest, rfl⟩ := serviceModules_cons_eq_ok h
    have hdescribes : List.Forall₂ (fun method op => op.Describes settings method) service.methods
        operations :=
      (mapM_eq_ok_iff.1 hops).imp fun _ _ => Method.describes_of_operation
    exact .cons ⟨rfl, hdescribes⟩ (ih hrest)

/-! ## Faults -/

/-- The methods of a model with their services, in the order of the model. -/
def boundMethods (services : List Service) : List (Service × Method) :=
  services.flatMap fun service => service.methods.map (service, ·)

/-- The method is the first one of the model whose template cannot be read, for this fault. -/
def FirstUnreadable (services : List Service) (service : Service) (method : Method)
    (fault : TemplateError) : Prop :=
  FirstFailure (fun bound : Service × Method => PathTemplate.parse bound.2.binding.pathTemplate)
    (boundMethods services) (service, method) fault

/-- No method is the first unreadable one of no services. -/
theorem not_firstUnreadable_nil {service : Service} {method : Method} {fault : TemplateError} :
    ¬ FirstUnreadable [] service method fault :=
  not_firstFailure_nil

/-- The first unreadable template is that of the first service, or that of the others if the first
service has none. -/
theorem firstUnreadable_cons_iff {head service : Service} {services : List Service}
    {method : Method} {fault : TemplateError} :
    FirstUnreadable (head :: services) service method fault ↔
      (service = head ∧
        FirstFailure (fun method => PathTemplate.parse method.binding.pathTemplate) head.methods
          method fault) ∨
      (∀ method ∈ head.methods,
          ∃ template, PathTemplate.parse method.binding.pathTemplate = .ok template) ∧
        FirstUnreadable services service method fault := by
  rw [FirstUnreadable, boundMethods, List.flatMap_cons, firstFailure_append_iff,
    firstFailure_map_iff, List.forall_mem_map]
  simp only [Prod.mk.injEq]
  constructor
  · rintro (⟨_, ⟨rfl, rfl⟩, h⟩ | h)
    · exact .inl ⟨rfl, h⟩
    · exact .inr h
  · rintro (⟨rfl, h⟩ | h)
    · exact .inl ⟨method, ⟨rfl, rfl⟩, h⟩
    · exact .inr h

/-- The operations of a service fail at its first unreadable template. -/
theorem operations_eq_error_iff {settings : Settings} {name : String} {methods : List Method}
    {error : OutlineError} :
    methods.mapM (Method.operation settings name) = .error error ↔
      ∃ method fault,
        FirstFailure (fun method => PathTemplate.parse method.binding.pathTemplate) methods method
          fault ∧
        error = { service := name, method := method.name, error := fault } := by
  rw [mapM_eq_error_iff]
  simp only [FirstFailure, Method.exists_operation_iff, Method.operation_eq_error_iff]
  constructor
  · rintro ⟨method, before, after, hmethods, hbefore, fault, hfault, rfl⟩
    exact ⟨method, fault, ⟨before, after, hmethods, hbefore, hfault⟩, rfl⟩
  · rintro ⟨method, fault, ⟨before, after, hmethods, hbefore, hfault⟩, rfl⟩
    exact ⟨method, before, after, hmethods, hbefore, fault, hfault, rfl⟩

/-- The outline of a model fails at its first unreadable template. -/
theorem serviceModules_eq_error_iff {settings : Settings} {earlier : List String}
    {services : List Service} {error : OutlineError} :
    serviceModules settings earlier services = .error error ↔
      ∃ service method fault, FirstUnreadable services service method fault ∧
        error = { service := service.fullName, method := method.name, error := fault } := by
  induction services generalizing earlier with
  | nil => simp [serviceModules, not_firstUnreadable_nil]
  | cons head services ih =>
    simp only [serviceModules, bind_eq_error_iff, operations_eq_error_iff, ih]
    constructor
    · rintro (⟨method, fault, h, rfl⟩ | ⟨operations, hops, ⟨service, method, fault, h, rfl⟩ | h⟩)
      · exact ⟨head, method, fault, firstUnreadable_cons_iff.2 (.inl ⟨rfl, h⟩), rfl⟩
      · have hread := exists_mapM_eq_ok_iff.1 ⟨operations, hops⟩
        simp only [Method.exists_operation_iff] at hread
        exact ⟨service, method, fault, firstUnreadable_cons_iff.2 (.inr ⟨hread, h⟩), rfl⟩
      · obtain ⟨_, -, h⟩ := h
        cases h
    · rintro ⟨service, method, fault, h, rfl⟩
      rcases firstUnreadable_cons_iff.1 h with ⟨rfl, h⟩ | ⟨hread, h⟩
      · exact .inl ⟨method, fault, h, rfl⟩
      · have hops : ∃ operations,
            head.methods.mapM (Method.operation settings head.fullName) = .ok operations := by
          rw [exists_mapM_eq_ok_iff]
          simpa only [Method.exists_operation_iff] using hread
        obtain ⟨operations, hops⟩ := hops
        exact .inr ⟨operations, hops, .inl ⟨service, method, fault, h, rfl⟩⟩

/-- Some template is the first unreadable one if there is an unreadable one. -/
theorem exists_firstUnreadable_iff {services : List Service} :
    (∃ service method fault, FirstUnreadable services service method fault) ↔
      ∃ service ∈ services, ∃ method ∈ service.methods,
        ∃ fault, PathTemplate.parse method.binding.pathTemplate = .error fault := by
  have hfirst : (∃ bound fault, FirstFailure (fun bound : Service × Method =>
      PathTemplate.parse bound.2.binding.pathTemplate) (boundMethods services) bound fault) ↔ _ :=
    exists_firstFailure_iff
  simp only [Prod.exists, boundMethods, List.mem_flatMap, List.mem_map, Prod.mk.injEq] at hfirst
  constructor
  · intro h
    obtain ⟨service, method, ⟨_, hservice, _, hmethod, rfl, rfl⟩, hfault⟩ := hfirst.1 h
    exact ⟨_, hservice, _, hmethod, hfault⟩
  · rintro ⟨service, hservice, method, hmethod, hfault⟩
    exact hfirst.2 ⟨service, method, ⟨service, hservice, method, hmethod, rfl, rfl⟩, hfault⟩

/-- A model has no outline if a template cannot be read. -/
theorem exists_serviceModules_eq_error_iff {settings : Settings} {earlier : List String}
    {services : List Service} :
    (∃ error, serviceModules settings earlier services = .error error) ↔
      ∃ service ∈ services, ∃ method ∈ service.methods,
        ∃ fault, PathTemplate.parse method.binding.pathTemplate = .error fault := by
  rw [← exists_firstUnreadable_iff]
  constructor
  · rintro ⟨error, h⟩
    obtain ⟨service, method, fault, h, -⟩ := serviceModules_eq_error_iff.1 h
    exact ⟨service, method, fault, h⟩
  · rintro ⟨service, method, fault, h⟩
    refine ⟨{ service := service.fullName, method := method.name, error := fault }, ?_⟩
    exact serviceModules_eq_error_iff.2 ⟨service, method, fault, h, rfl⟩

end Transcoding
