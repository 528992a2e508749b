import Transcoding.Serving.Route
import Transcoding.Proofs.Result

/-!
# Lookups in a route table

A table gives its templates only if all of them can be read (`RouteTable.templates_eq_ok_iff`).
There are three results of a lookup. It fails with the fault of the first template that cannot be
read (`RouteTable.route_eq_error_iff`). Otherwise it finds nothing if no route serves the request
(`RouteTable.route_eq_ok_none_iff`), and if some do, the first of them
(`RouteTable.route_eq_ok_some_iff`).
-/

namespace Transcoding

/-! ## Templates -/

/-- The templates of a table are read one by one. -/
theorem RouteTable.templates_eq_ok_iff {table : RouteTable} {templates : List PathTemplate} :
    table.templates = .ok templates ↔
      List.Forall₂ (fun route template => PathTemplate.parse route.template = .ok template) table
        templates :=
  mapM_eq_ok_iff

/-- All templates of the table can be read. -/
def RouteTable.Readable (table : RouteTable) : Prop :=
  ∀ route ∈ table, ∃ template, PathTemplate.parse route.template = .ok template

/-- All templates of a table can be read if they are read together. -/
theorem RouteTable.readable_iff {table : RouteTable} :
    table.Readable ↔ ∃ templates, table.templates = .ok templates :=
  exists_mapM_eq_ok_iff.symm

/-- Whether all templates of a table can be read can be decided by reading them. -/
instance (table : RouteTable) : Decidable table.Readable :=
  decidable_of_iff (table.templates.toBool = true) <| by
    rw [RouteTable.readable_iff]
    cases table.templates <;> simp [Except.toBool]

/-- The fault of the first template of the table that cannot be read. -/
def RouteTable.FirstFault (table : RouteTable) (error : TemplateError) : Prop :=
  ∃ route, FirstFailure (fun route => PathTemplate.parse route.template) table route error

/-- The templates of a table are not read if one of them is at fault, and the error is that of the
first. -/
theorem RouteTable.templates_eq_error_iff {table : RouteTable} {error : TemplateError} :
    table.templates = .error error ↔ table.FirstFault error :=
  mapM_eq_error_iff

/-! ## The first match -/

/-- The route at an index has the verb, and the template there matches the path. -/
def ServesAt (verb path : String) (pairs : List (Route × PathTemplate)) (index : Nat)
    (captures : Captures) : Prop :=
  ∃ route template, pairs[index]? = some (route, template) ∧ sameVerb route.verb verb ∧
    template.match? path = some captures

section
variable {verb path : String} {route : Route} {template : PathTemplate}
  {pairs : List (Route × PathTemplate)} {captures : Captures}

/-- The first route serves a request with what its template captures. -/
theorem servesAt_zero_iff :
    ServesAt verb path ((route, template) :: pairs) 0 captures ↔
      (if sameVerb route.verb verb then template.match? path else none) = some captures := by
  rw [Option.ite_none_right_eq_some]
  exact ⟨fun ⟨_, _, h, hserves⟩ => by cases h; exact hserves, fun h => ⟨_, _, rfl, h⟩⟩

/-- No route is found if none serves the request. -/
theorem firstMatch_eq_none_iff {start : Nat} :
    firstMatch verb path start pairs = none ↔
      ∀ index captures, ¬ ServesAt verb path pairs index captures := by
  induction pairs generalizing start with
  | nil => exact ⟨fun _ _ _ ⟨_, _, h, _⟩ => (nomatch h), fun _ => rfl⟩
  | cons pair pairs ih =>
    obtain ⟨route, template⟩ := pair
    unfold firstMatch
    split
    · next found hfound =>
      exact ⟨nofun, fun h => absurd (servesAt_zero_iff.2 hfound) (h 0 found)⟩
    · next hnone =>
      rw [ih]
      refine ⟨fun h index captures => ?_, fun h index captures => h (index + 1) captures⟩
      cases index with
      | zero => simp [servesAt_zero_iff, hnone]
      | succ index => exact h index captures

/-- The route that is found serves the request, and none before it does. -/
theorem firstMatch_eq_some_iff {start index : Nat} :
    firstMatch verb path start pairs = some (index, captures) ↔
      ∃ k, index = start + k ∧ ServesAt verb path pairs k captures ∧
        ∀ j < k, ∀ found, ¬ ServesAt verb path pairs j found := by
  induction pairs generalizing start with
  | nil => exact ⟨nofun, fun ⟨_, _, ⟨_, _, h, _⟩, _⟩ => nomatch h⟩
  | cons pair pairs ih =>
    obtain ⟨route, template⟩ := pair
    unfold firstMatch
    split
    · next found hfound =>
      constructor
      · intro h
        cases h
        exact ⟨0, rfl, servesAt_zero_iff.2 hfound, nofun⟩
      · rintro ⟨k, rfl, hserves, hfirst⟩
        cases k with
        | zero =>
          rw [servesAt_zero_iff, hfound] at hserves
          rw [Nat.add_zero, Option.some.inj hserves]
        | succ k => exact absurd (servesAt_zero_iff.2 hfound) (hfirst 0 k.succ_pos found)
    · next hnone =>
      have hhead : ∀ found, ¬ ServesAt verb path ((route, template) :: pairs) 0 found := by
        simp [servesAt_zero_iff, hnone]
      rw [ih]
      constructor
      · rintro ⟨k, rfl, hserves, hfirst⟩
        refine ⟨k + 1, by omega, hserves, fun j hj found => ?_⟩
        cases j with
        | zero => exact hhead found
        | succ j => exact hfirst j (Nat.lt_of_succ_lt_succ hj) found
      · rintro ⟨k, rfl, hserves, hfirst⟩
        cases k with
        | zero => exact absurd hserves (hhead captures)
        | succ k =>
          exact ⟨k, by omega, hserves, fun j hj found => hfirst (j + 1) (Nat.succ_lt_succ hj) found⟩

end

/-! ## Lookups -/

namespace RouteTable

variable {table : RouteTable} {verb path : String} {index : Nat} {captures : Captures}

/-- The route at an index has the verb, and its template can be read and matches the path. -/
def Serves (table : RouteTable) (verb path : String) (index : Nat) (captures : Captures) : Prop :=
  ∃ route template, table[index]? = some route ∧ sameVerb route.verb verb ∧
    PathTemplate.parse route.template = .ok template ∧ template.match? path = some captures

/-- The route at an index serves the request, and none before it does. -/
structure ServesFirst (table : RouteTable) (verb path : String) (index : Nat)
    (captures : Captures) : Prop where
  serves : table.Serves verb path index captures
  first : ∀ j < index, ∀ found, ¬ table.Serves verb path j found

/-- Routes serve with the templates that are read what they serve by themselves. -/
theorem servesAt_zip_iff {templates : List PathTemplate} (h : table.templates = .ok templates) :
    ServesAt verb path (table.zip templates) index captures ↔
      table.Serves verb path index captures := by
  obtain ⟨hlength, hparse⟩ := List.forall₂_iff_zip.1 (templates_eq_ok_iff.1 h)
  constructor
  · rintro ⟨route, template, hpair, hverb, hmatch⟩
    exact ⟨route, template, (List.getElem?_zip_eq_some.1 hpair).1, hverb,
      hparse (List.mem_of_getElem? hpair), hmatch⟩
  · rintro ⟨route, template, hroute, hverb, hread, hmatch⟩
    obtain ⟨hindex, -⟩ := List.getElem?_eq_some_iff.1 hroute
    have htemplate : templates[index]? = some templates[index] :=
      List.getElem?_eq_getElem (hlength ▸ hindex)
    have hpair : (table.zip templates)[index]? = some (route, templates[index]) :=
      List.getElem?_zip_eq_some.2 ⟨hroute, htemplate⟩
    cases hread.symm.trans (hparse (List.mem_of_getElem? hpair))
    exact ⟨route, _, hpair, hverb, hmatch⟩

/-- A lookup fails with the fault of the first template that cannot be read. -/
theorem route_eq_error_iff {error : TemplateError} :
    table.route verb path = .error error ↔ table.FirstFault error := by
  rw [route, bind_eq_error_iff, templates_eq_error_iff]
  exact or_iff_left nofun

/-- A lookup finds nothing if no route serves the request. -/
theorem route_eq_ok_none_iff :
    table.route verb path = .ok none ↔
      table.Readable ∧ ∀ index captures, ¬ table.Serves verb path index captures := by
  rw [route, bind_eq_ok_iff, readable_iff]
  constructor
  · rintro ⟨templates, h, hnone⟩
    refine ⟨⟨templates, h⟩, fun index captures => ?_⟩
    rw [← servesAt_zip_iff h]
    exact firstMatch_eq_none_iff.1 (Except.ok.inj hnone) index captures
  · rintro ⟨⟨templates, h⟩, hnone⟩
    simp only [← servesAt_zip_iff h] at hnone
    exact ⟨templates, h, congrArg Except.ok (firstMatch_eq_none_iff.2 hnone)⟩

/-- A lookup finds the first route that serves the request. -/
theorem route_eq_ok_some_iff :
    table.route verb path = .ok (some (index, captures)) ↔
      table.Readable ∧ table.ServesFirst verb path index captures := by
  rw [route, bind_eq_ok_iff, readable_iff]
  constructor
  · rintro ⟨templates, h, hsome⟩
    obtain ⟨k, rfl, hserves, hfirst⟩ := firstMatch_eq_some_iff.1 (Except.ok.inj hsome)
    simp only [servesAt_zip_iff h] at hserves hfirst
    exact ⟨⟨templates, h⟩, by rwa [Nat.zero_add], by rwa [Nat.zero_add]⟩
  · rintro ⟨⟨templates, h⟩, hserves, hfirst⟩
    simp only [← servesAt_zip_iff h] at hserves hfirst
    exact ⟨templates, h, congrArg Except.ok
      (firstMatch_eq_some_iff.2 ⟨index, (Nat.zero_add _).symm, hserves, hfirst⟩)⟩

/-- What a lookup returns: a route of the table that has the verb, and the captures of its
template. -/
theorem exists_of_route (h : table.route verb path = .ok (some (index, captures))) :
    ∃ templates route template, table.templates = .ok templates ∧ table[index]? = some route ∧
      templates[index]? = some template ∧ PathTemplate.parse route.template = .ok template ∧
      sameVerb route.verb verb ∧ template.match? path = some captures := by
  obtain ⟨hreadable, hserves, -⟩ := route_eq_ok_some_iff.1 h
  obtain ⟨templates, htemplates⟩ := readable_iff.1 hreadable
  obtain ⟨route, template, hpair, hverb, hmatch⟩ := (servesAt_zip_iff htemplates).2 hserves
  have hparse := (List.forall₂_iff_zip.1 (templates_eq_ok_iff.1 htemplates)).2
    (List.mem_of_getElem? hpair)
  obtain ⟨hroute, htemplate⟩ := List.getElem?_zip_eq_some.1 hpair
  exact ⟨templates, route, template, htemplates, hroute, htemplate, hparse, hverb, hmatch⟩

end RouteTable

end Transcoding
