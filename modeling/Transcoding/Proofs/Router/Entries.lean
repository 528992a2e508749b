import Transcoding.Adapter.Outline
import Transcoding.Proofs.Router.Path
import Transcoding.Proofs.Serving.Route
import Mathlib.Data.List.Nodup

/-!
# The entries of a router

A service registers the router paths of its routes, each path once and with each of its verbs once.
`Registers` says which entries belong to a list of paths and verbs: both stand in the order in which
they first occur. Adding a route keeps that (`Registers.addVerb`), so it holds of all entries of a
service (`registers_routerEntries`). With what is known of router paths it follows that every
request that the route table serves reaches the router under an entry that has the verb of its
route (`Service.routes_registered`).
-/

namespace Transcoding

/-! ## First occurrences -/

/-- One more item at the end is kept if it is not there yet. -/
theorem eraseDups_concat {α : Type} [BEq α] [LawfulBEq α] (items : List α) (a : α) :
    (items ++ [a]).eraseDups = if a ∈ items then items.eraseDups else items.eraseDups ++ [a] := by
  rw [List.eraseDups_append]
  by_cases h : a ∈ items
  · simp [h, List.removeAll]
  · simp [h, List.removeAll, List.eraseDups_cons]

/-- Duplicates that are erased do not occur again. -/
theorem nodup_eraseDups {α : Type} [BEq α] [LawfulBEq α] (items : List α) :
    items.eraseDups.Nodup := by
  induction items using List.reverseRecOn with
  | nil => simp
  | append_singleton items a ih =>
    rw [eraseDups_concat]
    split
    · exact ih
    · next h =>
      refine List.nodup_append.2 ⟨ih, List.nodup_singleton a, fun b hb c hc => ?_⟩
      rw [List.mem_singleton.1 hc]
      rintro rfl
      exact h (List.mem_eraseDups.1 hb)

/-- Of items with different images, one alone has the image of a given one. -/
theorem filter_eq_singleton {α β : Type} [DecidableEq β] {f : α → β} {items : List α}
    (h : (items.map f).Nodup) {a : α} (ha : a ∈ items) : items.filter (f · = f a) = [a] := by
  induction items with
  | nil => cases ha
  | cons b items ih =>
    rw [List.map_cons, List.nodup_cons] at h
    rcases List.mem_cons.1 ha with rfl | ha
    · have hrest : items.filter (f · = f a) = [] :=
        List.filter_eq_nil_iff.2 fun c hc heq =>
          h.1 (List.mem_map.2 ⟨c, hc, by simpa using heq⟩)
      simp [hrest]
    · have hne : f b ≠ f a := fun heq => h.1 (heq ▸ List.mem_map_of_mem ha)
      rw [List.filter_cons_of_neg (by simpa using hne), ih h.2 ha]

/-! ## Grouping -/

/-- The verbs that go with a path, each at its first occurrence. -/
def verbsOf (path : String) (pairs : List (String × String)) : List String :=
  ((pairs.filter (·.1 = path)).map (·.2)).eraseDups

/-- The entries that register these paths with these verbs. Paths stand in the order in which they
first occur, and so do the verbs of each. -/
structure Registers (entries : List RouterEntry) (pairs : List (String × String)) : Prop where
  paths : entries.map (·.path.render) = (pairs.map (·.1)).eraseDups
  verbs : ∀ entry ∈ entries, entry.verbs = verbsOf entry.path.render pairs
  valid : ∀ entry ∈ entries, entry.path.Valid

namespace Registers

variable {entries : List RouterEntry} {pairs : List (String × String)}

/-- No path is registered by two entries. -/
theorem nodup_paths (h : Registers entries pairs) : (entries.map (·.path.render)).Nodup := by
  rw [h.paths]
  exact nodup_eraseDups _

/-- No entry registers a verb twice. -/
theorem nodup_verbs (h : Registers entries pairs) : ∀ entry ∈ entries, entry.verbs.Nodup := by
  intro entry hentry
  rw [h.verbs entry hentry]
  exact nodup_eraseDups _

/-- An entry registers the verbs that go with its path. -/
theorem mem_verbs_iff (h : Registers entries pairs) {entry : RouterEntry} (hentry : entry ∈ entries)
    {verb : String} : verb ∈ entry.verbs ↔ (entry.path.render, verb) ∈ pairs := by
  rw [h.verbs entry hentry, verbsOf, List.mem_eraseDups]
  simp

/-- A path that is to be registered with a verb is registered by an entry. -/
theorem exists_of_mem (h : Registers entries pairs) {path verb : String}
    (hmem : (path, verb) ∈ pairs) :
    ∃ entry ∈ entries, entry.path.render = path ∧ verb ∈ entry.verbs := by
  have hpath : path ∈ entries.map (·.path.render) := by
    rw [h.paths, List.mem_eraseDups]
    exact List.mem_map_of_mem hmem
  obtain ⟨entry, hentry, rfl⟩ := List.mem_map.1 hpath
  exact ⟨entry, hentry, rfl, (h.mem_verbs_iff hentry).2 hmem⟩

end Registers

/-- The entry with one more verb. -/
def RouterEntry.withVerb (verb : String) (entry : RouterEntry) : RouterEntry :=
  if verb ∈ entry.verbs then entry else { entry with verbs := entry.verbs ++ [verb] }

/-- A new path gets an entry of its own at the end. -/
theorem addVerb_of_not_mem {path : RouterPath} {verb : String} {entries : List RouterEntry}
    (h : ∀ entry ∈ entries, entry.path ≠ path) :
    addVerb path verb entries = entries ++ [{ path, verbs := [verb] }] := by
  induction entries with
  | nil => rfl
  | cons entry entries ih =>
    rw [List.forall_mem_cons] at h
    rw [addVerb, if_neg h.1, ih h.2]
    rfl

/-- A path that has an entry gets its verb there, and the other entries are as they were. -/
theorem addVerb_of_mem {path : RouterPath} {verb : String} {entries : List RouterEntry}
    (hmem : ∃ entry ∈ entries, entry.path = path) (hnodup : (entries.map (·.path)).Nodup) :
    addVerb path verb entries =
      entries.map fun entry => if entry.path = path then entry.withVerb verb else entry := by
  induction entries with
  | nil => simp at hmem
  | cons entry entries ih =>
    rw [List.map_cons, List.nodup_cons] at hnodup
    rw [addVerb, List.map_cons]
    split
    · next hpath =>
      have hrest : ∀ other ∈ entries,
          (if other.path = path then other.withVerb verb else other) = other := by
        intro other hother
        refine if_neg fun heq => hnodup.1 ?_
        exact hpath ▸ heq ▸ List.mem_map_of_mem hother
      rw [List.map_congr_left hrest, List.map_id', RouterEntry.withVerb]
      simp only [List.contains_iff_mem]
      split <;> rfl
    · next hpath =>
      obtain ⟨other, hother, heq⟩ := hmem
      rcases List.mem_cons.1 hother with rfl | hother
      · exact absurd heq hpath
      · rw [ih ⟨other, hother, heq⟩ hnodup.2]

@[simp] theorem RouterEntry.path_withVerb (entry : RouterEntry) (verb : String) :
    (entry.withVerb verb).path = entry.path := by
  unfold withVerb
  split <;> rfl

/-- An entry gets a verb at its end, unless it has the verb. -/
theorem RouterEntry.verbs_withVerb (entry : RouterEntry) (verb : String) :
    (entry.withVerb verb).verbs =
      if verb ∈ entry.verbs then entry.verbs else entry.verbs ++ [verb] := by
  unfold withVerb
  split <;> rfl

/-- The verbs of a path do not depend on other paths. -/
theorem verbsOf_concat_of_ne {path key : String} (h : key ≠ path) (pairs : List (String × String))
    (verb : String) : verbsOf path (pairs ++ [(key, verb)]) = verbsOf path pairs := by
  simp [verbsOf, h]

/-- The verbs of a path get one more at the end, unless they have it. -/
theorem verbsOf_concat_self (path : String) (pairs : List (String × String)) (verb : String) :
    verbsOf path (pairs ++ [(path, verb)]) =
      if verb ∈ verbsOf path pairs then verbsOf path pairs else verbsOf path pairs ++ [verb] := by
  simp only [verbsOf, List.mem_eraseDups]
  rw [← eraseDups_concat]
  simp

namespace Registers

variable {entries : List RouterEntry} {pairs : List (String × String)} {path : RouterPath}

/-- A path has been seen if an entry has it. -/
theorem render_mem_iff (h : Registers entries pairs) (hpath : path.Valid) :
    path.render ∈ pairs.map (·.1) ↔ ∃ entry ∈ entries, entry.path = path := by
  rw [← List.mem_eraseDups, ← h.paths, List.mem_map]
  refine exists_congr fun entry => and_congr_right fun hentry => ⟨fun heq => ?_, fun heq => ?_⟩
  · exact RouterPath.eq_of_render_eq (h.valid entry hentry) hpath heq
  · exact congrArg RouterPath.render heq

/-- A route does not change the verbs of the other paths. -/
theorem verbs_concat_of_ne (h : Registers entries pairs) (hpath : path.Valid) (verb : String)
    {entry : RouterEntry} (hentry : entry ∈ entries) (hne : entry.path ≠ path) :
    entry.verbs = verbsOf entry.path.render (pairs ++ [(path.render, verb)]) := by
  rw [verbsOf_concat_of_ne, h.verbs entry hentry]
  exact fun heq => hne (RouterPath.eq_of_render_eq (h.valid entry hentry) hpath heq.symm)

/-- One more route under a path that an entry has. -/
theorem addVerb_of_mem (h : Registers entries pairs) (hpath : path.Valid) (verb : String)
    (hmem : ∃ entry ∈ entries, entry.path = path) :
    Registers (addVerb path verb entries) (pairs ++ [(path.render, verb)]) := by
  have hnodup : (entries.map (·.path)).Nodup := by
    refine List.Nodup.of_map RouterPath.render ?_
    rw [List.map_map]
    exact h.nodup_paths
  have hkept : ∀ entry : RouterEntry,
      (if entry.path = path then entry.withVerb verb else entry).path = entry.path := by
    intro entry
    split
    · exact entry.path_withVerb verb
    · rfl
  rw [Transcoding.addVerb_of_mem hmem hnodup]
  refine ⟨?_, ?_, ?_⟩
  · rw [List.map_append, List.map_singleton, eraseDups_concat,
      if_pos ((h.render_mem_iff hpath).2 hmem), ← h.paths, List.map_map]
    exact List.map_congr_left fun entry _ => congrArg RouterPath.render (hkept entry)
  · rw [List.forall_mem_map]
    intro entry hentry
    rw [hkept]
    split
    · next heq =>
      rw [RouterEntry.verbs_withVerb, heq, verbsOf_concat_self, ← heq, h.verbs entry hentry]
    · next hne => exact h.verbs_concat_of_ne hpath verb hentry hne
  · rw [List.forall_mem_map]
    intro entry hentry
    rw [hkept]
    exact h.valid entry hentry

/-- One more route under a path that no entry has. -/
theorem addVerb_of_not_mem (h : Registers entries pairs) (hpath : path.Valid) (verb : String)
    (hnew : ∀ entry ∈ entries, entry.path ≠ path) :
    Registers (addVerb path verb entries) (pairs ++ [(path.render, verb)]) := by
  have hunseen : path.render ∉ pairs.map (·.1) := by
    rw [h.render_mem_iff hpath]
    rintro ⟨entry, hentry, heq⟩
    exact hnew entry hentry heq
  have hnone : verbsOf path.render pairs = [] := by
    rw [verbsOf, List.filter_eq_nil_iff.2]
    · rfl
    · intro pair hpair hkey
      exact hunseen (List.mem_map.2 ⟨pair, hpair, by simpa using hkey⟩)
  rw [Transcoding.addVerb_of_not_mem hnew]
  refine ⟨?_, ?_, ?_⟩
  · rw [List.map_append, List.map_singleton, List.map_append, List.map_singleton,
      eraseDups_concat, if_neg hunseen, h.paths]
  · refine List.forall_mem_append.2 ⟨fun entry hentry => ?_, List.forall_mem_singleton.2 ?_⟩
    · exact h.verbs_concat_of_ne hpath verb hentry (hnew entry hentry)
    · rw [verbsOf_concat_self, hnone]
      rfl
  · exact List.forall_mem_append.2 ⟨h.valid, List.forall_mem_singleton.2 hpath⟩

/-- One more route keeps the entries in step with the routes. -/
theorem addVerb (h : Registers entries pairs) (hpath : path.Valid) (verb : String) :
    Registers (addVerb path verb entries) (pairs ++ [(path.render, verb)]) := by
  by_cases hmem : ∃ entry ∈ entries, entry.path = path
  · exact h.addVerb_of_mem hpath verb hmem
  · exact h.addVerb_of_not_mem hpath verb fun entry hentry heq => hmem ⟨entry, hentry, heq⟩

end Registers

/-- The entries of operations register their router paths and verbs. -/
theorem registers_routerEntries {operations : List Operation}
    (h : ∀ op ∈ operations, op.routerPath.Valid) :
    Registers (routerEntries operations)
      (operations.map fun op => (op.routerPath.render, op.route.verb)) := by
  induction operations using List.reverseRecOn with
  | nil => exact ⟨rfl, nofun, nofun⟩
  | append_singleton operations op ih =>
    rw [List.forall_mem_append, List.forall_mem_singleton] at h
    rw [routerEntries, List.foldl_append, List.map_append]
    exact (ih h.1).addVerb h.2 op.route.verb

/-! ## Services -/

/-- The route table of a service. -/
def Service.table (service : Service) : RouteTable := service.methods.map Method.route

/-- The router paths and the verbs of routes, in the order of the table. -/
def registrations (table : RouteTable) (templates : List PathTemplate) : List (String × String) :=
  List.zipWith (fun route template => (template.routerPath.render, route.verb)) table templates

/-- A method whose template can be read has an operation. -/
theorem Method.exists_operation (settings : Settings) (name : String) {method : Method}
    {template : PathTemplate}
    (h : PathTemplate.parse method.binding.pathTemplate = .ok template) :
    ∃ op, Method.operation settings name method = .ok op ∧ op.route = method.route ∧
      op.routerPath = template.routerPath := by
  unfold Method.operation
  rw [h]
  exact ⟨_, rfl, rfl, rfl⟩

/-- Methods whose templates can be read have operations, and these have router paths that a router
takes. -/
theorem exists_operations (settings : Settings) (name : String) {methods : List Method}
    {templates : List PathTemplate}
    (h : RouteTable.templates (methods.map Method.route) = .ok templates) :
    ∃ operations, methods.mapM (Method.operation settings name) = .ok operations ∧
      operations.map (fun op => (op.routerPath.render, op.route.verb)) =
        registrations (methods.map Method.route) templates ∧
      ∀ op ∈ operations, op.routerPath.Valid := by
  rw [RouteTable.templates_eq_ok_iff, List.forall₂_map_left_iff] at h
  simp only [mapM_eq_ok_iff]
  induction h with
  | nil => exact ⟨[], .nil, rfl, nofun⟩
  | @cons method template methods templates hparse _ ih =>
    obtain ⟨op, hop, hroute, hrouter⟩ := method.exists_operation settings name hparse
    obtain ⟨operations, hall, hpairs, hvalid⟩ := ih
    refine ⟨op :: operations, .cons hop hall, ?_, List.forall_mem_cons.2 ⟨?_, hvalid⟩⟩
    · rw [List.map_cons, hpairs, hroute, hrouter]
      rfl
    · rw [hrouter]
      exact (PathTemplate.writable_of_parse hparse).valid_routerPath

/-- A route of the table is registered under its router path, with its verb. -/
theorem mem_registrations {table : RouteTable} {templates : List PathTemplate} {i : Nat}
    {route : Route} {template : PathTemplate} (hroute : table[i]? = some route)
    (htemplate : templates[i]? = some template) :
    (template.routerPath.render, route.verb) ∈ registrations table templates := by
  refine List.mem_of_getElem? (i := i) ?_
  simp [registrations, List.getElem?_zipWith, hroute, htemplate]

/-- A request that the table serves has an entry: that of the route, which has its verb. -/
theorem Registers.exists_entry {entries : List RouterEntry} {table : RouteTable}
    {templates : List PathTemplate} (h : Registers entries (registrations table templates))
    (hparse : table.templates = .ok templates) {verb path : String} {i : Nat} {captures : Captures}
    (hserved : table.route verb path = .ok (some (i, captures))) :
    ∃ route template entry, table[i]? = some route ∧ templates[i]? = some template ∧
      sameVerb route.verb verb ∧ entry ∈ entries ∧ entry.path = template.routerPath ∧
      route.verb ∈ entry.verbs ∧ template.routerPath.Covers path := by
  obtain ⟨_, route, template, hparse', hroute, htemplate, hread, hverb, hmatch⟩ :=
    RouteTable.exists_of_route hserved
  cases hparse.symm.trans hparse'
  have hw := PathTemplate.writable_of_parse hread
  obtain ⟨entry, hentry, hrender, hmem⟩ := h.exists_of_mem (mem_registrations hroute htemplate)
  have hpath := RouterPath.eq_of_render_eq (h.valid entry hentry) hw.valid_routerPath hrender
  have hcovers := PathTemplate.routerPath_covers hw.slash (PathTemplate.wellFormed_of_parse hread)
    hmatch
  exact ⟨route, template, entry, hroute, htemplate, hverb, hentry, hpath, hmem, hcovers⟩

/-- The entries of a service whose templates can be read register its routes. -/
theorem Service.exists_registers (settings : Settings) {service : Service}
    {templates : List PathTemplate} (hparse : service.table.templates = .ok templates) :
    ∃ operations, service.methods.mapM (Method.operation settings service.fullName) =
        .ok operations ∧
      Registers (routerEntries operations) (registrations service.table templates) := by
  obtain ⟨operations, hops, hpairs, hvalid⟩ := exists_operations settings service.fullName hparse
  have hreg := registers_routerEntries hvalid
  rw [hpairs] at hreg
  exact ⟨operations, hops, hreg⟩

/-- **Every request that the table serves is registered.** The entries of a service list each router
path once and its verbs once, in the order in which they first occur, and a router takes all of
them. If the table serves a request, exactly one entry has the router path of the route; it has the
verb of the route, and the router path covers the path of the request. -/
theorem Service.routes_registered (settings : Settings) {service : Service}
    {templates : List PathTemplate} (hparse : service.table.templates = .ok templates) :
    ∃ operations, service.methods.mapM (Method.operation settings service.fullName) =
        .ok operations ∧
      Registers (routerEntries operations) (registrations service.table templates) ∧
      ((routerEntries operations).map (·.path.render)).Nodup ∧
      (∀ entry ∈ routerEntries operations, entry.verbs.Nodup) ∧
      (∀ path verb, (path, verb) ∈ registrations service.table templates ↔
        ∃ entry ∈ routerEntries operations, entry.path.render = path ∧ verb ∈ entry.verbs) ∧
      ∀ verb path i captures, service.table.route verb path = .ok (some (i, captures)) →
        ∃ route template entry, service.table[i]? = some route ∧ templates[i]? = some template ∧
          (routerEntries operations).filter (·.path.render = template.routerPath.render) = [entry] ∧
          route.verb ∈ entry.verbs ∧ template.routerPath.Covers path := by
  obtain ⟨operations, hops, hreg⟩ := service.exists_registers settings hparse
  refine ⟨operations, hops, hreg, hreg.nodup_paths, hreg.nodup_verbs, fun path verb => ⟨?_, ?_⟩, ?_⟩
  · exact hreg.exists_of_mem
  · rintro ⟨entry, hentry, rfl, hverb⟩
    exact (hreg.mem_verbs_iff hentry).1 hverb
  · intro verb path i captures hserved
    obtain ⟨route, template, entry, hroute, htemplate, -, hentry, hpath, hverb, hcovers⟩ :=
      hreg.exists_entry hparse hserved
    refine ⟨route, template, entry, hroute, htemplate, ?_, hverb, hcovers⟩
    rw [← hpath]
    exact filter_eq_singleton hreg.nodup_paths hentry

/-- A service with the one method `GET template`. -/
def Service.single (packageName serviceName template : String) : Service :=
  Service.declared packageName serviceName
    [{ name := "Get", inputType := "Request", outputType := "Item"
       binding := { verb := .get, pathTemplate := template } }]

/-- A service whose routes share router paths: two verbs on `/v1/users/{id}`, and a longer template
that starts in the same way. -/
def Service.users : Service :=
  Service.declared "users.v1" "Users"
    [{ name := "GetUser", inputType := "GetUserRequest", outputType := "User"
       binding := { verb := .get, pathTemplate := "/v1/users/\x7bid\x7d" } },
     { name := "UpdateUser", inputType := "UpdateUserRequest", outputType := "User"
       binding := { verb := .patch, pathTemplate := "/v1/users/\x7bid\x7d" } },
     { name := "GetBook", inputType := "GetBookRequest", outputType := "Book"
       binding := { verb := .get, pathTemplate := "/v1/users/\x7bid\x7d/books/\x7bbook\x7d" } }]

/-- The second route serves `PATCH /v1/users/7`, and the one entry of its router path has
`PATCH`. -/
theorem Service.routes_registered_users :
    ∃ templates operations entry,
      users.table.templates = .ok templates ∧
      users.methods.mapM (Method.operation {} users.fullName) = .ok operations ∧
      users.table.route "PATCH" "/v1/users/7" = .ok (some (1, [("id", "7")])) ∧
      (routerEntries operations).filter (·.path.render = "/v1/users/\x7b*rest\x7d") = [entry] ∧
      "PATCH" ∈ entry.verbs := by
  have hparse : users.table.templates =
      .ok [{ lead := "/v1/users/"
             placeholders := [{ name := "id", pattern := .any, following := "" }] },
           { lead := "/v1/users/"
             placeholders := [{ name := "id", pattern := .any, following := "" }] },
           { lead := "/v1/users/"
             placeholders := [{ name := "id", pattern := .any, following := "/books/" },
               { name := "book", pattern := .any, following := "" }] }] := by
    decide +kernel
  have hserved : users.table.route "PATCH" "/v1/users/7" = .ok (some (1, [("id", "7")])) := by
    decide +kernel
  obtain ⟨operations, hops, -, -, -, -, h⟩ := routes_registered {} hparse
  obtain ⟨route, template, entry, hroute, htemplate, hentry, hverb, -⟩ := h _ _ _ _ hserved
  cases hroute
  cases htemplate
  exact ⟨_, operations, entry, hparse, hops, hserved, hentry, hverb⟩

end Transcoding
