import Transcoding.Proofs.Adapter.Layout

/-!
# Routers side by side

Two routers can be merged if they do not register the same path with a common verb (`Clash`). Router
paths keep only the start of a template, so two services can clash although no request is served by
both (`Service.routers_clash`).

`generate_mergeable` says when they do: some method of one and some method of the other have the
same verb and the same router path. If that path is exact, both services serve it. So services that
do not compete clash at catch-alls only, and not at all if the router path of every template keeps
all of it but the wildcard at its end (`PathTemplate.KeptByRouter`).
-/

namespace Transcoding

open Transcoding.Text

/-! ## Registered paths -/

/-- An entry has the path and the verb. -/
def Registered (entries : List RouterEntry) (path verb : String) : Prop :=
  ∃ entry ∈ entries, entry.path.render = path ∧ verb ∈ entry.verbs

/-- Two routers that cannot be merged: both register a path with a common verb. -/
def Clash (entries entries' : List RouterEntry) : Prop :=
  ∃ path verb, Registered entries path verb ∧ Registered entries' path verb

/-- A method has the verb, and its template has the router path. -/
def Method.RegistersAs (method : Method) (path : RouterPath) (verb : String) : Prop :=
  method.binding.verb.name = verb ∧
    ∃ template, PathTemplate.parse method.binding.pathTemplate = .ok template ∧
      template.routerPath = path

/-- The router path that a method registers is one that a router takes. -/
theorem Method.RegistersAs.valid {method : Method} {path : RouterPath} {verb : String}
    (h : method.RegistersAs path verb) : path.Valid := by
  obtain ⟨-, template, hparse, rfl⟩ := h
  exact (PathTemplate.writable_of_parse hparse).valid_routerPath

/-- The registrations of routes are the router paths and the verbs of their methods. -/
theorem mem_registrations_iff {methods : List Method} {templates : List PathTemplate}
    (h : RouteTable.templates (methods.map Method.route) = .ok templates) {text verb : String} :
    (text, verb) ∈ registrations (methods.map Method.route) templates ↔
      ∃ method ∈ methods, ∃ path, method.RegistersAs path verb ∧ path.render = text := by
  rw [RouteTable.templates_eq_ok_iff, List.forall₂_map_left_iff] at h
  induction h with
  | nil => simp [registrations]
  | @cons method template methods templates hparse _ ih =>
    have hhead : (text, verb) = (template.routerPath.render, method.binding.verb.name) ↔
        ∃ path, method.RegistersAs path verb ∧ path.render = text := by
      constructor
      · intro heq
        cases heq
        exact ⟨_, ⟨rfl, template, hparse, rfl⟩, rfl⟩
      · rintro ⟨_, ⟨rfl, template', hparse', rfl⟩, rfl⟩
        cases hparse.symm.trans hparse'
        rfl
    simp only [registrations, List.map_cons, List.zipWith_cons_cons, List.mem_cons,
      exists_eq_or_imp] at ih ⊢
    exact or_congr hhead ih

/-- The module has the entries that register the routes of the service. -/
def ServiceModule.RegistersAll (service : Service) (m : ServiceModule) : Prop :=
  ∃ templates, service.table.templates = .ok templates ∧
    Registers m.entries (registrations service.table templates)

/-- The modules of an outline register the routes of their services. -/
theorem forall₂_registersAll {settings : Settings} {earlier : List String}
    {services : List Service} {modules : List ServiceModule}
    (h : serviceModules settings earlier services = .ok modules) :
    List.Forall₂ ServiceModule.RegistersAll services modules := by
  induction services generalizing earlier modules with
  | nil =>
    cases h
    exact .nil
  | cons service services ih =>
    obtain ⟨operations, rest, hops, hrest, rfl⟩ := serviceModules_cons_eq_ok h
    refine .cons ?_ (ih hrest)
    have hreadable : service.table.Readable := by
      have hmethods := exists_mapM_eq_ok_iff.1 ⟨operations, hops⟩
      simp only [Method.exists_operation_iff] at hmethods
      exact List.forall_mem_map.2 hmethods
    obtain ⟨templates, htemplates⟩ := RouteTable.readable_iff.1 hreadable
    obtain ⟨operations', hops', hreg⟩ := service.exists_registers settings htemplates
    cases hops.symm.trans hops'
    exact ⟨templates, htemplates, hreg⟩

namespace ServiceModule.RegistersAll

variable {s t : Service} {m n : ServiceModule}

/-- The templates of a service that has a module can be read. -/
theorem readable (h : m.RegistersAll s) : s.table.Readable := by
  obtain ⟨templates, htemplates, -⟩ := h
  exact RouteTable.readable_iff.2 ⟨templates, htemplates⟩

/-- What is registered are the verbs and the router paths of the methods. -/
theorem registered_iff (h : m.RegistersAll s) {text verb : String} :
    Registered m.entries text verb ↔
      ∃ method ∈ s.methods, ∃ path, method.RegistersAs path verb ∧ path.render = text := by
  obtain ⟨templates, htemplates, hreg⟩ := h
  rw [← mem_registrations_iff htemplates]
  constructor
  · rintro ⟨entry, hentry, rfl, hverb⟩
    exact (hreg.mem_verbs_iff hentry).1 hverb
  · exact hreg.exists_of_mem

/-- Two services register the same path and verb if methods of them have the same router path and
verb. -/
theorem registered_both_iff (hm : m.RegistersAll s) (hn : n.RegistersAll t) {text verb : String} :
    Registered m.entries text verb ∧ Registered n.entries text verb ↔
      ∃ path : RouterPath, path.render = text ∧
        (∃ method ∈ s.methods, method.RegistersAs path verb) ∧
        ∃ method ∈ t.methods, method.RegistersAs path verb := by
  rw [hm.registered_iff, hn.registered_iff]
  constructor
  · rintro ⟨⟨method, hmethod, path, hpath, rfl⟩, method', hmethod', path', hpath', htext⟩
    cases RouterPath.eq_of_render_eq hpath'.valid hpath.valid htext
    exact ⟨path, rfl, ⟨method, hmethod, hpath⟩, method', hmethod', hpath'⟩
  · rintro ⟨path, rfl, ⟨method, hmethod, hpath⟩, method', hmethod', hpath'⟩
    exact ⟨⟨method, hmethod, path, hpath, rfl⟩, method', hmethod', path, hpath', rfl⟩

end ServiceModule.RegistersAll

/-! ## Requests that two services serve -/

/-- Some request is served by both services. -/
def Service.Competes (s t : Service) : Prop :=
  ∃ verb path i j captures captures', s.table.route verb path = .ok (some (i, captures)) ∧
    t.table.route verb path = .ok (some (j, captures'))

/-- A method of the service has the verb and a template that matches the path. -/
def Service.Answers (service : Service) (verb path : String) : Prop :=
  ∃ method ∈ service.methods, method.binding.verb.name = verb ∧ ∃ template captures,
    PathTemplate.parse method.binding.pathTemplate = .ok template ∧
      template.match? path = some captures

/-- A request that a method of the service answers is routed to some method. -/
theorem Service.Answers.exists_route {service : Service} {verb path : String}
    (h : service.Answers verb path) (hread : service.table.Readable) :
    ∃ i captures, service.table.route verb path = .ok (some (i, captures)) := by
  obtain ⟨method, hmethod, rfl, template, captures, hparse, hmatch⟩ := h
  obtain ⟨index, hindex⟩ := List.getElem?_of_mem (List.mem_map_of_mem (f := Method.route) hmethod)
  have hserves : service.table.Serves method.binding.verb.name path index captures :=
    ⟨method.route, template, hindex, by simp [sameVerb, Method.route], hparse, hmatch⟩
  cases hroute : service.table.route method.binding.verb.name path with
  | error error =>
    obtain ⟨route, hfault⟩ := RouteTable.route_eq_error_iff.1 hroute
    obtain ⟨route, hmem, error, herror⟩ := exists_firstFailure_iff.1 ⟨route, error, hfault⟩
    obtain ⟨template, htemplate⟩ := hread route hmem
    cases herror.symm.trans htemplate
  | ok result =>
    cases result with
    | none => exact absurd hserves ((RouteTable.route_eq_ok_none_iff.1 hroute).2 index captures)
    | some found => exact ⟨found.1, found.2, rfl⟩

/-- Services that answer the same request compete for it. -/
theorem Service.Answers.competes {s t : Service} {verb path : String} (hs : s.Answers verb path)
    (ht : t.Answers verb path) (hread : s.table.Readable) (hread' : t.table.Readable) :
    s.Competes t := by
  obtain ⟨i, captures, hroute⟩ := hs.exists_route hread
  obtain ⟨j, captures', hroute'⟩ := ht.exists_route hread'
  exact ⟨verb, path, i, j, captures, captures', hroute, hroute'⟩

/-- A path that a router path stands for. -/
def RouterPath.sample : RouterPath → String
  | exact path => path
  | under stem => stem ++ "x"

/-- The router path of the template keeps all of it, or all but the wildcard at its end. -/
def PathTemplate.KeptByRouter (template : PathTemplate) : Prop :=
  match template.placeholders with
  | [] => template.routerPath = .exact template.lead
  | [p] => p.following = "" ∧ (p.pattern.last = .one .any ∨ p.pattern.last = .rest) ∧
    template.routerPath = .under (String.ofList (template.lead.toList ++
      p.pattern.leading.flatMap fun segment => segment.write ++ ['/']))
  | _ => False

/-- A template with an exact router path matches that path. -/
theorem PathTemplate.match?_of_exact {template : PathTemplate} (hw : template.WellFormed)
    (hslash : template.lead.toList.head? = some '/') {text : String}
    (h : template.routerPath = .exact text) : template.match? text = some [] := by
  rcases routerPath_cases hslash with ⟨stem, rest, hpath, -⟩ | ⟨hempty, hpath, -⟩ |
    ⟨p, placeholders, -, hpath, -⟩
  · cases hpath.symm.trans h
  · cases hpath.symm.trans h
    refine (match?_eq_some_iff hw).2 ⟨[], [], by simp, ?_, ?_⟩
    · rw [hempty]
      exact .nil
    · simp
  · cases hpath.symm.trans h

/-- A wildcard at the end of a template takes one more segment. -/
theorem PathTemplate.KeptByRouter.exists_match {template : PathTemplate}
    (h : template.KeptByRouter) (hw : template.WellFormed)
    (hslash : template.lead.toList.head? = some '/') :
    ∃ captures, template.match? template.routerPath.sample = some captures := by
  unfold KeptByRouter at h
  split at h
  · rw [h]
    exact ⟨[], match?_of_exact hw hslash h⟩
  · next p hp =>
    obtain ⟨hfollowing, hlast, hpath⟩ := h
    -- The leading segments are read as they are written, a star by the text of a star.
    let reading : Reading := ⟨p.pattern.leading.map Segment.write, ['x']⟩
    have hleading : List.Forall₂ Segment.Fits reading.leading p.pattern.leading := by
      have hwell := (hw.patterns p (by simp [hp])).leading
      rw [List.forall₂_map_left_iff, List.forall₂_same]
      intro segment hsegment
      cases segment with
      | literal text => exact ⟨rfl, hwell _ hsegment⟩
      | any => exact ⟨by decide, by decide⟩
    have hend : p.pattern.last.Fits ['x'] ∧
        p.pattern.last.EndsBefore p.following.toList ['x'] (p.following.toList ++ []) := by
      rw [hfollowing]
      rcases hlast with hlast | hlast <;> rw [hlast]
      · exact ⟨⟨by decide, by decide⟩, by decide, .inl rfl⟩
      · exact ⟨List.cons_ne_nil _ _, rfl⟩
    have hreads : Reads [p] [reading] (reading.text ++ (p.following.toList ++ [])) :=
      .cons ⟨hleading, hend.1⟩ hend.2 .nil
    refine ⟨_, (match?_eq_some_iff hw).2 ⟨[reading], _, ?_, hp ▸ hreads, rfl⟩⟩
    rw [hpath, RouterPath.sample, Reading.text_eq, hfollowing]
    simp [reading, List.flatMap_map]
  · exact h.elim

/-- A service answers on the exact paths that it registers. -/
theorem Service.answers_of_exact {service : Service} {text verb : String}
    (h : ∃ method ∈ service.methods, method.RegistersAs (.exact text) verb) :
    service.Answers verb text := by
  obtain ⟨method, hmethod, hverb, template, hparse, hpath⟩ := h
  have hmatch := PathTemplate.match?_of_exact (PathTemplate.wellFormed_of_parse hparse)
    (PathTemplate.writable_of_parse hparse).slash hpath
  exact ⟨method, hmethod, hverb, template, [], hparse, hmatch⟩

/-- The router paths of a service keep all of its templates but the wildcards at their ends. -/
def Service.KeptByRouter (service : Service) : Prop :=
  ∀ method ∈ service.methods, ∀ template,
    PathTemplate.parse method.binding.pathTemplate = .ok template → template.KeptByRouter

/-- Such a service answers on a sample of every path that it registers. -/
theorem Service.KeptByRouter.answers {service : Service} (hkept : service.KeptByRouter)
    {path : RouterPath} {verb : String}
    (h : ∃ method ∈ service.methods, method.RegistersAs path verb) :
    service.Answers verb path.sample := by
  obtain ⟨method, hmethod, hverb, template, hparse, rfl⟩ := h
  obtain ⟨captures, hmatch⟩ := (hkept method hmethod template hparse).exists_match
    (PathTemplate.wellFormed_of_parse hparse) (PathTemplate.writable_of_parse hparse).slash
  exact ⟨method, hmethod, hverb, template, captures, hparse, hmatch⟩

/-! ## Merging -/

/-- **Which routers can be merged.** In a document, two services register the same path and verb
just if methods of them have the same verb and the same router path. Services that do not compete
register the same verb under no exact path, and under no path at all if the router paths of both
keep all of their templates but the wildcards at the ends. -/
theorem generate_mergeable {settings : Settings} {services : List Service} {adapter : Adapter}
    (h : generate settings services = .ok adapter) :
    ∃ header modules, outline settings services = .ok modules ∧
      adapter.content = linesText (header ++
        (modules.map (ServiceModule.text settings.runtimeCrate)).flatMap ModuleText.lines) ∧
      ∀ s m t n, (s, m) ∈ services.zip modules → (t, n) ∈ services.zip modules →
        (∀ text verb, Registered m.entries text verb ∧ Registered n.entries text verb ↔
          ∃ path : RouterPath, path.render = text ∧
            (∃ method ∈ s.methods, method.RegistersAs path verb) ∧
            ∃ method ∈ t.methods, method.RegistersAs path verb) ∧
        (¬ s.Competes t → ∀ text verb, Registered m.entries text verb →
          Registered n.entries text verb → ∃ stem, text = (RouterPath.under stem).render) ∧
        (¬ s.Competes t → s.KeptByRouter → t.KeptByRouter → ¬ Clash m.entries n.entries) := by
  obtain ⟨header, modules, hmodules, hcontent⟩ := exists_outline_of_generate h
  refine ⟨header, modules, hmodules, hcontent, fun s m t n hsm htn => ?_⟩
  obtain ⟨-, hall⟩ := List.forall₂_iff_zip.1 (forall₂_registersAll hmodules)
  have hm : m.RegistersAll s := hall hsm
  have hn : n.RegistersAll t := hall htn
  refine ⟨fun text verb => hm.registered_both_iff hn, fun hcompete text verb htext htext' => ?_,
    fun hcompete hkept hkept' hclash => ?_⟩
  · obtain ⟨path, rfl, hs, ht⟩ := (hm.registered_both_iff hn).1 ⟨htext, htext'⟩
    cases path with
    | under stem => exact ⟨stem, rfl⟩
    | exact path =>
      have hboth := (Service.answers_of_exact hs).competes (Service.answers_of_exact ht)
        hm.readable hn.readable
      exact absurd hboth hcompete
  · obtain ⟨text, verb, hboth⟩ := hclash
    obtain ⟨path, -, hs, ht⟩ := (hm.registered_both_iff hn).1 hboth
    exact hcompete ((hkept.answers hs).competes (hkept'.answers ht) hm.readable hn.readable)

/-- A path that a service with one method serves is matched by its template. -/
theorem Service.match?_of_route_single {packageName serviceName source : String}
    {template : PathTemplate} (hparse : PathTemplate.parse source = .ok template)
    {verb path : String} {i : Nat} {captures : Captures}
    (h : (single packageName serviceName source).table.route verb path =
      .ok (some (i, captures))) : template.match? path = some captures := by
  obtain ⟨_, route, template', -, hroute, -, hparse', -, hmatch⟩ := RouteTable.exists_of_route h
  obtain rfl : route = _ := List.mem_singleton.1 (List.mem_of_getElem? hroute)
  cases hparse.symm.trans hparse'
  exact hmatch

/-- A service with one method keeps its template if the router path of the template does. -/
theorem Service.keptByRouter_single {packageName serviceName source : String}
    {template : PathTemplate} (hparse : PathTemplate.parse source = .ok template)
    (h : template.KeptByRouter) : (single packageName serviceName source).KeptByRouter := by
  intro method hmethod template' hparse'
  obtain rfl : method = _ := List.mem_singleton.1 hmethod
  cases hparse.symm.trans hparse'
  exact h

/-- The service with `GET /v1/{name=shelves/*}`. -/
def Service.shelfNames : Service := single "app.v1" "Shelves" "/v1/\x7bname=shelves/*\x7d"

/-- The service with `GET /v1/{name=books/**}`. -/
def Service.bookNames : Service := single "app.v1" "Books" "/v1/\x7bname=books/**\x7d"

/-- The two services with names do not compete, and their routers can be merged. -/
theorem Service.shelfNames_mergeable :
    ¬ shelfNames.Competes bookNames ∧
      ∃ adapter m n, generate {} [shelfNames, bookNames] = .ok adapter ∧
        outline {} [shelfNames, bookNames] = .ok [m, n] ∧
        Registered m.entries "/v1/shelves/\x7b*rest\x7d" "GET" ∧
        Registered n.entries "/v1/books/\x7b*rest\x7d" "GET" ∧
        ¬ Clash m.entries n.entries := by
  have hshelves : PathTemplate.parse "/v1/\x7bname=shelves/*\x7d" =
      .ok { lead := "/v1/"
            placeholders :=
              [{ name := "name"
                 pattern := { leading := [.literal "shelves"], last := .one .any }
                 following := "" }] } := by
    decide +kernel
  have hbooks : PathTemplate.parse "/v1/\x7bname=books/**\x7d" =
      .ok { lead := "/v1/"
            placeholders :=
              [{ name := "name"
                 pattern := { leading := [.literal "books"], last := .rest }
                 following := "" }] } := by
    decide +kernel
  have hcompete : ¬ shelfNames.Competes bookNames := by
    rintro ⟨verb, path, i, j, captures, captures', hroute, hroute'⟩
    have hcovers := PathTemplate.routerPath_covers rfl (PathTemplate.wellFormed_of_parse hshelves)
      (match?_of_route_single hshelves hroute)
    have hcovers' := PathTemplate.routerPath_covers rfl (PathTemplate.wellFormed_of_parse hbooks)
      (match?_of_route_single hbooks hroute')
    obtain ⟨rest, -, hrest⟩ := hcovers
    obtain ⟨rest', -, hrest'⟩ := hcovers'
    have hfifth : path.toList[4]? = some 's' := by
      rw [hrest]
      rfl
    rw [hrest'] at hfifth
    cases hfifth
  refine ⟨hcompete, ?_⟩
  have hreadable : ∀ service ∈ [shelfNames, bookNames], service.table.Readable := by decide +kernel
  obtain ⟨adapter, hadapter⟩ := exists_generate {} hreadable
  have hentries : (outline {} [shelfNames, bookNames]).map (List.map (·.entries)) =
      .ok [[{ path := .under "/v1/shelves/", verbs := ["GET"] }],
           [{ path := .under "/v1/books/", verbs := ["GET"] }]] := by
    decide +kernel
  obtain ⟨_, modules, hmodules, -, hpairs⟩ := generate_mergeable hadapter
  rw [hmodules] at hentries
  obtain ⟨m, rest, rfl, hm, hrest⟩ := List.map_eq_cons_iff.1 (Except.ok.inj hentries)
  obtain ⟨n, rest, rfl, hn, hrest⟩ := List.map_eq_cons_iff.1 hrest
  obtain rfl := List.map_eq_nil_iff.1 hrest
  obtain ⟨-, -, hclash⟩ := hpairs shelfNames m bookNames n (by simp) (by simp)
  refine ⟨adapter, m, n, hadapter, hmodules, ?_, ?_, hclash hcompete ?_ ?_⟩
  · rw [hm]
    exact ⟨_, List.mem_singleton_self _, rfl, by simp⟩
  · rw [hn]
    exact ⟨_, List.mem_singleton_self _, rfl, by simp⟩
  · exact keptByRouter_single hshelves ⟨rfl, .inl rfl, by decide +kernel⟩
  · exact keptByRouter_single hbooks ⟨rfl, .inr rfl, by decide +kernel⟩

/-- The service with `GET /v1/users/{id}/avatar`. -/
def Service.avatars : Service := single "app.v1" "Avatars" "/v1/users/\x7bid\x7d/avatar"

/-- The service with `GET /v1/users/{id}/roles`. -/
def Service.roles : Service := single "app.v1" "Roles" "/v1/users/\x7bid\x7d/roles"

/-- A path that a template with one placeholder matches ends as the template does. -/
theorem PathTemplate.getLast?_of_match? {template : PathTemplate} {p : Placeholder} {path : String}
    {captures : Captures} {c : Char} (hw : template.WellFormed) (hp : template.placeholders = [p])
    (hc : p.following.toList.getLast? = some c) (h : template.match? path = some captures) :
    path.toList.getLast? = some c := by
  obtain ⟨readings, rest, hpath, hreads, -⟩ := (match?_eq_some_iff hw).1 h
  rw [hp] at hreads
  cases hreads with
  | cons _ _ hreads =>
    cases hreads
    simp [hpath, hc]

/-- The services of avatars and roles do not compete, but both register `GET /v1/users/{*rest}`. -/
theorem Service.routers_clash :
    ¬ avatars.Competes roles ∧
      ∃ adapter m n, generate {} [avatars, roles] = .ok adapter ∧
        outline {} [avatars, roles] = .ok [m, n] ∧
        Registered m.entries "/v1/users/\x7b*rest\x7d" "GET" ∧
        Registered n.entries "/v1/users/\x7b*rest\x7d" "GET" := by
  have havatars : PathTemplate.parse "/v1/users/\x7bid\x7d/avatar" =
      .ok { lead := "/v1/users/"
            placeholders := [{ name := "id", pattern := .any, following := "/avatar" }] } := by
    decide +kernel
  have hroles : PathTemplate.parse "/v1/users/\x7bid\x7d/roles" =
      .ok { lead := "/v1/users/"
            placeholders := [{ name := "id", pattern := .any, following := "/roles" }] } := by
    decide +kernel
  refine ⟨?_, ?_⟩
  · rintro ⟨verb, path, i, j, captures, captures', hroute, hroute'⟩
    have hlast := PathTemplate.getLast?_of_match? (PathTemplate.wellFormed_of_parse havatars) rfl
      (c := 'r') (by decide) (match?_of_route_single havatars hroute)
    have hlast' := PathTemplate.getLast?_of_match? (PathTemplate.wellFormed_of_parse hroles) rfl
      (c := 's') (by decide) (match?_of_route_single hroles hroute')
    cases hlast.symm.trans hlast'
  · have hreadable : ∀ service ∈ [avatars, roles], service.table.Readable := by decide +kernel
    obtain ⟨adapter, hadapter⟩ := exists_generate {} hreadable
    have hentries : (outline {} [avatars, roles]).map (List.map (·.entries)) =
        .ok [[{ path := .under "/v1/users/", verbs := ["GET"] }],
             [{ path := .under "/v1/users/", verbs := ["GET"] }]] := by
      decide +kernel
    obtain ⟨_, modules, hmodules, -⟩ := exists_outline_of_generate hadapter
    rw [hmodules] at hentries
    obtain ⟨m, rest, rfl, hm, hrest⟩ := List.map_eq_cons_iff.1 (Except.ok.inj hentries)
    obtain ⟨n, rest, rfl, hn, hrest⟩ := List.map_eq_cons_iff.1 hrest
    obtain rfl := List.map_eq_nil_iff.1 hrest
    have hregistered : Registered [{ path := .under "/v1/users/", verbs := ["GET"] }]
        "/v1/users/\x7b*rest\x7d" "GET" :=
      ⟨_, List.mem_singleton_self _, rfl, by simp⟩
    exact ⟨adapter, m, n, hadapter, hmodules, hm ▸ hregistered, hn ▸ hregistered⟩

end Transcoding
