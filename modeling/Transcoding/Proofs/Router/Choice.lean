import Transcoding.Proofs.Router.Entries
import Mathlib.Data.List.MinMax
import Mathlib.Order.WithBot

/-!
# The entry that a router picks

A router that has several paths for a request picks one of them before it looks at the verb: the
exact one if there is one, and otherwise the catch-all with the longest stem (`Picks`). The route
table works the other way round: it takes the first route that has the verb and matches the path.
The two need not agree. A path that is registered for one verb hides the routes of all other verbs
whose router paths are less specific (`Service.hidden_by_search`).

`Service.picked_entry` says what does hold. The router picks one entry for every request that the
table serves, and that entry has the verb if a route with that verb is registered under the same
path. This is always so if the verbs of a path are also registered on all paths below it
(`VerbsNest`).
-/

namespace Transcoding

open Transcoding.Text

/-! ## Choosing -/

/-- How specific a router path is: a catch-all by the length of its stem, and an exact path more
than any catch-all. -/
def RouterPath.rank : RouterPath → WithTop Nat
  | exact _ => ⊤
  | under stem => WithTop.some stem.toList.length

/-- The entry that a router picks for a path: of the entries that cover it, a most specific one. -/
structure Picks (entries : List RouterEntry) (path : String) (entry : RouterEntry) : Prop where
  mem : entry ∈ entries
  covers : entry.path.Covers path
  most : ∀ other ∈ entries, other.path.Covers path → other.path.rank ≤ entry.path.rank

/-- A list that is not empty has an item of the greatest rank. -/
theorem exists_max_of_mem {α : Type} (f : α → WithTop Nat) {items : List α} {a : α}
    (h : a ∈ items) : ∃ m ∈ items, ∀ b ∈ items, f b ≤ f m := by
  cases hmax : items.argmax f with
  | none =>
    rw [List.argmax_eq_none] at hmax
    exact absurd hmax (List.ne_nil_of_mem h)
  | some m => exact ⟨m, List.argmax_mem hmax, fun b hb => List.le_of_mem_argmax hb hmax⟩

/-- A router picks an entry for every path that some entry covers. -/
theorem exists_picks {entries : List RouterEntry} {path : String} {entry : RouterEntry}
    (hmem : entry ∈ entries) (hcovers : entry.path.Covers path) :
    ∃ picked, Picks entries path picked := by
  have hcovering : entry ∈ entries.filter (·.path.Covers path) := by simp [hmem, hcovers]
  obtain ⟨picked, hpicked, hmost⟩ := exists_max_of_mem (·.path.rank) hcovering
  simp only [List.mem_filter, decide_eq_true_eq] at hpicked hmost
  exact ⟨picked, hpicked.1, hpicked.2, fun other hother hc => hmost other ⟨hother, hc⟩⟩

/-- A router path that is at least as specific as another one that covers the same path lies below
it: every path that it stands for is one of the other. -/
def RouterPath.Below : RouterPath → RouterPath → Prop
  | exact path, outer => outer.Covers path
  | under stem, under outer => outer.toList <+: stem.toList
  | under _, exact _ => False

/-- Whether a path is below another one can be decided. -/
instance (inner outer : RouterPath) : Decidable (inner.Below outer) :=
  match inner, outer with
  | .exact path, outer => inferInstanceAs (Decidable (outer.Covers path))
  | .under stem, .under outer => inferInstanceAs (Decidable (outer.toList <+: stem.toList))
  | .under _, .exact _ => inferInstanceAs (Decidable False)

/-- Of two paths that cover a path, the one with the greater rank is below the other. -/
theorem RouterPath.below_of_rank_le {a b : RouterPath} {path : String} (ha : a.Covers path)
    (hb : b.Covers path) (h : a.rank ≤ b.rank) : b.Below a := by
  cases b with
  | exact p =>
    obtain rfl : path = p := hb
    exact ha
  | under stem =>
    cases a with
    | exact p => simp [rank] at h
    | under outer =>
      obtain ⟨rest, -, hrest⟩ := ha
      obtain ⟨rest', -, hrest'⟩ := hb
      exact List.prefix_of_prefix_length_le ⟨rest, hrest.symm⟩ ⟨rest', hrest'.symm⟩
        (by simpa [rank] using h)

/-- Router paths that cover the same path and are equally specific are the same. -/
theorem RouterPath.eq_of_rank_eq {a b : RouterPath} {path : String} (ha : a.Covers path)
    (hb : b.Covers path) (h : a.rank = b.rank) : a = b := by
  cases a with
  | exact p =>
    cases b with
    | exact q => rw [← show path = p from ha, ← show path = q from hb]
    | under stem => simp [rank] at h
  | under stem =>
    cases b with
    | exact q => simp [rank] at h
    | under stem' =>
      obtain ⟨rest, -, hrest⟩ := ha
      obtain ⟨rest', -, hrest'⟩ := hb
      have hlength : stem.toList.length = stem'.toList.length := by simpa [rank] using h
      have hstems := (List.append_inj (hrest.symm.trans hrest') hlength).1
      rw [String.toList_inj.1 hstems]

/-- A router picks at most one entry, if each path is registered once. -/
theorem Picks.unique {entries : List RouterEntry} {path : String} {a b : RouterEntry}
    (hnodup : (entries.map (·.path.render)).Nodup) (ha : Picks entries path a)
    (hb : Picks entries path b) : a = b := by
  have hrank := le_antisymm (hb.most a ha.mem ha.covers) (ha.most b hb.mem hb.covers)
  have hpath := RouterPath.eq_of_rank_eq ha.covers hb.covers hrank
  exact List.inj_on_of_nodup_map hnodup ha.mem hb.mem (congrArg RouterPath.render hpath)

/-! ## Verbs -/

/-- The verbs of every path are also registered on the paths below it. -/
def VerbsNest (entries : List RouterEntry) : Prop :=
  ∀ outer ∈ entries, ∀ inner ∈ entries, inner.path.Below outer.path → outer.verbs ⊆ inner.verbs

/-- Whether the verbs nest can be decided. -/
instance (entries : List RouterEntry) : Decidable (VerbsNest entries) :=
  inferInstanceAs (Decidable (∀ outer ∈ entries, ∀ inner ∈ entries,
    inner.path.Below outer.path → outer.verbs ⊆ inner.verbs))

/-- Verbs with the same name, the case of letters apart, are equal. -/
theorem HttpVerb.eq_of_sameVerb {a b : HttpVerb} (h : sameVerb a.name b.name = true) : a = b := by
  revert h
  cases a <;> cases b <;> decide

/-- A route of a service that serves a verb has that verb. -/
theorem Service.verb_eq_of_sameVerb {service : Service} {i : Nat} {route : Route} {verb : HttpVerb}
    (hroute : service.table[i]? = some route) (h : sameVerb route.verb verb.name = true) :
    route.verb = verb.name := by
  obtain ⟨method, -, rfl⟩ := List.mem_map.1 (List.mem_of_getElem? hroute)
  exact congrArg HttpVerb.name (HttpVerb.eq_of_sameVerb h)

/-- **What the router picks for a request that the table serves.** It picks exactly one entry, which
is at least as specific as the router path of the route. The entry has the verb of the request if
some route with that verb has the same router path, and only then; this is so if the verbs of every
path are also registered on the paths below it. -/
theorem Service.picked_entry (settings : Settings) {service : Service}
    {templates : List PathTemplate} (hparse : service.table.templates = .ok templates) :
    ∃ operations, service.methods.mapM (Method.operation settings service.fullName) =
        .ok operations ∧
      ∀ (verb : HttpVerb) path i captures,
        service.table.route verb.name path = .ok (some (i, captures)) →
        ∃ template entry, templates[i]? = some template ∧
          Picks (routerEntries operations) path entry ∧
          (∀ other, Picks (routerEntries operations) path other → other = entry) ∧
          template.routerPath.rank ≤ entry.path.rank ∧
          (verb.name ∈ entry.verbs ↔
            (entry.path.render, verb.name) ∈ registrations service.table templates) ∧
          (VerbsNest (routerEntries operations) → verb.name ∈ entry.verbs) := by
  obtain ⟨operations, hops, hreg⟩ := service.exists_registers settings hparse
  refine ⟨operations, hops, fun verb path i captures hserved => ?_⟩
  obtain ⟨route, template, own, hroute, htemplate, hsame, hown, hpath, hverb, hcovers⟩ :=
    hreg.exists_entry hparse hserved
  rw [← hpath] at hcovers
  obtain ⟨entry, hpicks⟩ := exists_picks hown hcovers
  have hrank := hpicks.most own hown hcovers
  refine ⟨template, entry, htemplate, hpicks, fun other hother => ?_, hpath ▸ hrank,
    hreg.mem_verbs_iff hpicks.mem, fun hnest => ?_⟩
  · exact hother.unique hreg.nodup_paths hpicks
  · rw [Service.verb_eq_of_sameVerb hroute hsame] at hverb
    exact hnest own hown entry hpicks.mem
      (RouterPath.below_of_rank_le hcovers hpicks.covers hrank) hverb

/-- A service with `GET /v1/{name=**}`, and with `GET` and `DELETE` on `/v1/shelves/{shelf}`. -/
def Service.shelves : Service :=
  Service.declared "library.v1" "Shelves"
    [{ name := "Get", inputType := "Name", outputType := "Item"
       binding := { verb := .get, pathTemplate := "/v1/\x7bname=**\x7d" } },
     { name := "GetShelf", inputType := "Shelf", outputType := "Item"
       binding := { verb := .get, pathTemplate := "/v1/shelves/\x7bshelf\x7d" } },
     { name := "DeleteShelf", inputType := "Shelf", outputType := "Item"
       binding := { verb := .delete, pathTemplate := "/v1/shelves/\x7bshelf\x7d" } }]

/-- `GET /v1/shelves/s1` is served by the first route and picked up by the entry of the others,
which has the verb too. -/
theorem Service.picked_entry_shelves :
    ∃ operations entry,
      shelves.methods.mapM (Method.operation {} shelves.fullName) = .ok operations ∧
      shelves.table.route HttpVerb.get.name "/v1/shelves/s1" =
        .ok (some (0, [("name", "shelves/s1")])) ∧
      Picks (routerEntries operations) "/v1/shelves/s1" entry ∧
      HttpVerb.get.name ∈ entry.verbs := by
  have hparse : shelves.table.templates =
      .ok [{ lead := "/v1/"
             placeholders :=
               [{ name := "name", pattern := { leading := [], last := .rest }, following := "" }] },
           { lead := "/v1/shelves/"
             placeholders := [{ name := "shelf", pattern := .any, following := "" }] },
           { lead := "/v1/shelves/"
             placeholders := [{ name := "shelf", pattern := .any, following := "" }] }] := by
    decide +kernel
  have hentries : (shelves.methods.mapM (Method.operation {} shelves.fullName)).map routerEntries =
      .ok [{ path := .under "/v1/", verbs := ["GET"] },
           { path := .under "/v1/shelves/", verbs := ["GET", "DELETE"] }] := by
    decide +kernel
  have hserved : shelves.table.route HttpVerb.get.name "/v1/shelves/s1" =
      .ok (some (0, [("name", "shelves/s1")])) := by
    decide +kernel
  obtain ⟨operations, hops, h⟩ := picked_entry {} hparse
  obtain ⟨_, entry, -, hpicks, -, -, -, hverb⟩ := h .get _ _ _ hserved
  rw [hops] at hentries
  refine ⟨operations, entry, hops, hserved, hpicks, hverb ?_⟩
  rw [Except.ok.inj hentries]
  decide

/-- A service with `GET /v1/users/{id}` and `POST /v1/users/search`. -/
def Service.directory : Service :=
  Service.declared "users.v1" "Directory"
    [{ name := "GetUser", inputType := "GetUserRequest", outputType := "User"
       binding := { verb := .get, pathTemplate := "/v1/users/\x7bid\x7d" } },
     { name := "SearchUsers", inputType := "SearchUsersRequest", outputType := "Users"
       binding := { verb := .post, pathTemplate := "/v1/users/search" } }]

/-- The table serves `GET /v1/users/search` by the first route, but the router picks the path of the
second one, which has only `POST`. -/
theorem Service.hidden_by_search :
    ∃ templates operations entry,
      directory.table.templates = .ok templates ∧
      directory.methods.mapM (Method.operation {} directory.fullName) = .ok operations ∧
      directory.table.route HttpVerb.get.name "/v1/users/search" =
        .ok (some (0, [("id", "search")])) ∧
      Picks (routerEntries operations) "/v1/users/search" entry ∧
      HttpVerb.get.name ∉ entry.verbs := by
  have hparse : directory.table.templates =
      .ok [{ lead := "/v1/users/"
             placeholders := [{ name := "id", pattern := .any, following := "" }] },
           { lead := "/v1/users/search", placeholders := [] }] := by
    decide +kernel
  have hentries :
      (directory.methods.mapM (Method.operation {} directory.fullName)).map routerEntries =
        .ok [{ path := .under "/v1/users/", verbs := ["GET"] },
             { path := .exact "/v1/users/search", verbs := ["POST"] }] := by
    decide +kernel
  obtain ⟨operations, hops, -⟩ := directory.exists_registers {} hparse
  rw [hops] at hentries
  refine ⟨_, operations, { path := .exact "/v1/users/search", verbs := ["POST"] }, hparse, hops,
    by decide +kernel, ?_, by decide⟩
  rw [Except.ok.inj hentries]
  exact ⟨by simp, rfl, fun other _ _ => le_top⟩

end Transcoding
