import Transcoding.Serving.Payload
import Transcoding.Proofs.Json.Field
import Transcoding.Proofs.Serving.Route
import Transcoding.Proofs.Template.Instance

/-!
# Captures in payloads

Besides its captures, a request supplies the fields of the query or of the body (`Supplies`). The
captures are set on top of these (`buildPayload_eq_ok_iff`), so that a name that is captured has the
captured string, and every other name has what the request supplies for it (`Merged`). That no
capture takes the place of another one is up to the template: its variables have different names.

`RouteTable.captures_kept` puts this together for every request that a table serves, and says what a
payload can depend on: not on the body if the route takes the query, not on the query otherwise, and
under the names of the variables on the path alone.
-/

namespace Transcoding

open Transcoding.Json

/-! ## What a request supplies -/

/-- The fields that a request supplies besides its captures, for each source of payloads. -/
inductive Supplies (query : List (String × String)) (body : List UInt8) :
    PayloadSource → List (String × Json) → Prop
  | query : Supplies query body .query (queryFields query)
  | emptyBody {source : PayloadSource} : source ≠ .query → readBody body = .ok none →
      Supplies query body source []
  | wholeBody {fields : List (String × Json)} : readBody body = .ok (some (.object fields)) →
      Supplies query body .wholeBody fields
  | field {name : String} {value : Json} : readBody body = .ok (some value) →
      Supplies query body (.field name) [(name, value)]

/-- The fields of a body that is an object are in ascending order. -/
theorem ascending_of_readBody {body : List UInt8} {fields : List (String × Json)}
    (h : readBody body = .ok (some (.object fields))) : Ascending fields := by
  unfold readBody at h
  split at h
  · cases h
  · split at h
    · next hread =>
      cases h
      exact ascending_of_read hread
    · cases h

/-- The fields of a query are in ascending order. -/
theorem ascending_queryFields (query : List (String × String)) : Ascending (queryFields query) :=
  List.foldlRecOn query _ .nil fun _ hfields pair _ => hfields.insertField pair.1 _

/-- The fields that a source supplies are in ascending order. -/
theorem Supplies.ascending {query : List (String × String)} {body : List UInt8}
    {source : PayloadSource} {given : List (String × Json)}
    (h : Supplies query body source given) : Ascending given := by
  cases h with
  | query => exact ascending_queryFields query
  | emptyBody => exact .nil
  | wholeBody hbody => exact ascending_of_readBody hbody
  | field => exact List.pairwise_singleton _ _

/-- A request with captures has a payload if it supplies fields, and then the captures are set in
them. -/
theorem buildPayload_eq_ok_iff {source : PayloadSource} {captures : Captures}
    {query : List (String × String)} {body : List UInt8} {payload : Json} (hne : captures ≠ []) :
    buildPayload source captures query body = .ok payload ↔
      ∃ given, Supplies query body source given ∧
        payload = .object (setCaptures captures given) := by
  have hempty : captures.isEmpty = false := by simpa using hne
  constructor
  · intro h
    cases source with
    | query =>
      cases h
      exact ⟨_, .query, rfl⟩
    | wholeBody =>
      obtain ⟨found, hbody, h⟩ := bind_eq_ok_iff.1 h
      cases found with
      | none =>
        cases h
        exact ⟨[], .emptyBody nofun hbody, rfl⟩
      | some value =>
        cases value with
        | object fields =>
          cases h
          exact ⟨fields, .wholeBody hbody, rfl⟩
        | _ => simp [hempty] at h
    | field name =>
      obtain ⟨found, hbody, h⟩ := bind_eq_ok_iff.1 h
      cases found with
      | none =>
        cases h
        exact ⟨[], .emptyBody nofun hbody, rfl⟩
      | some value =>
        cases h
        exact ⟨_, .field hbody, rfl⟩
  · rintro ⟨given, hgiven, rfl⟩
    unfold buildPayload
    cases hgiven with
    | query => rfl
    | emptyBody hsource hbody =>
      cases source with
      | query => exact absurd rfl hsource
      | wholeBody => rw [hbody]; rfl
      | field name => rw [hbody]; rfl
    | wholeBody hbody => rw [hbody]; rfl
    | field hbody => rw [hbody]; rfl

/-! ## Captures on top -/

/-- The fields have the captured strings under the captured names, and what was given under all
other names. Each key stands once. -/
structure Merged (captures : Captures) (given fields : List (String × Json)) : Prop where
  ascending : Ascending fields
  captured : ∀ capture ∈ captures, field? capture.1 fields = some (.string capture.2)
  others : ∀ name ∉ captures.map (·.1), field? name fields = field? name given

/-- Captures with different names are all kept. -/
theorem merged_setCaptures {captures : Captures} (hnames : (captures.map (·.1)).Nodup)
    {given : List (String × Json)} (hgiven : Ascending given) :
    Merged captures given (setCaptures captures given) := by
  induction captures generalizing given with
  | nil => exact ⟨hgiven, nofun, fun _ _ => rfl⟩
  | cons capture captures ih =>
    obtain ⟨name, value⟩ := capture
    rw [List.map_cons, List.nodup_cons] at hnames
    have hrest := ih hnames.2 (hgiven.insertField name (.string value))
    refine ⟨hrest.ascending, List.forall_mem_cons.2 ⟨?_, hrest.captured⟩, fun other hother => ?_⟩
    · -- The later captures have other names, so this one stays as it was set.
      exact (hrest.others name hnames.1).trans (by rw [field?_insertField, if_pos rfl])
    · rw [List.map_cons, List.mem_cons, not_or] at hother
      exact (hrest.others other hother.2).trans (by rw [field?_insertField, if_neg hother.1])

/-! ## Requests -/

/-- The payload of a request with captures that have different names. -/
theorem merged_of_buildPayload {source : PayloadSource} {captures : Captures}
    {query : List (String × String)} {body : List UInt8} {payload : Json} (hne : captures ≠ [])
    (hnames : (captures.map (·.1)).Nodup)
    (h : buildPayload source captures query body = .ok payload) :
    ∃ given fields, Supplies query body source given ∧ payload = .object fields ∧
      Merged captures given fields := by
  obtain ⟨given, hgiven, hpayload⟩ := (buildPayload_eq_ok_iff hne).1 h
  exact ⟨given, _, hgiven, hpayload, merged_setCaptures hnames hgiven.ascending⟩

/-- A payload that does not come from the query does not depend on it. -/
theorem buildPayload_congr_query {source : PayloadSource} (h : source ≠ .query)
    (captures : Captures) (query query' : List (String × String)) (body : List UInt8) :
    buildPayload source captures query body = buildPayload source captures query' body := by
  cases source with
  | query => exact absurd rfl h
  | wholeBody => rfl
  | field => rfl

/-- **Captures are kept.** A request that a table serves has the captures of the variables of one
template of the table. If there are any, the request has a payload whenever it supplies fields, and
the payload is an object that has the captured strings under the names of the variables and the
supplied values under all other names. -/
theorem RouteTable.captures_kept {table : RouteTable} {verb path : String} {i : Nat}
    {captures : Captures} (hserved : table.route verb path = .ok (some (i, captures))) :
    ∃ route template, table[i]? = some route ∧
      PathTemplate.parse route.template = .ok template ∧
      template.match? path = some captures ∧
      captures.map (·.1) = template.variableNames ∧
      (captures ≠ [] → ∀ query body,
        ((∃ payload, buildPayload route.source captures query body = .ok payload) ↔
          ∃ given, Supplies query body route.source given) ∧
        ∀ payload, buildPayload route.source captures query body = .ok payload →
          ∃ given fields, Supplies query body route.source given ∧ payload = .object fields ∧
            Merged captures given fields) ∧
      (route.source = .query → ∀ query body body',
        buildPayload route.source captures query body =
          buildPayload route.source captures query body') ∧
      (route.source ≠ .query → ∀ query query' body,
        buildPayload route.source captures query body =
          buildPayload route.source captures query' body) ∧
      ∀ query query' body body' payload payload',
        buildPayload route.source captures query body = .ok payload →
        buildPayload route.source captures query' body' = .ok payload' →
        ∀ name ∈ template.variableNames, ∃ fields fields' value, payload = .object fields ∧
          payload' = .object fields' ∧ field? name fields = some value ∧
          field? name fields' = some value := by
  obtain ⟨_, route, template, -, hroute, -, hparse, -, hmatch⟩ := exists_of_route hserved
  have hnames := PathTemplate.names_of_match? (PathTemplate.wellFormed_of_parse hparse) hmatch
  have hdistinct : (captures.map (·.1)).Nodup :=
    hnames ▸ (PathTemplate.writable_of_parse hparse).distinct
  refine ⟨route, template, hroute, hparse, hmatch, hnames, fun hne query body => ⟨?_, ?_⟩, ?_, ?_,
    ?_⟩
  · simp only [buildPayload_eq_ok_iff hne]
    exact ⟨fun ⟨_, given, hgiven, _⟩ => ⟨given, hgiven⟩,
      fun ⟨given, hgiven⟩ => ⟨_, given, hgiven, rfl⟩⟩
  · exact fun payload h => merged_of_buildPayload hne hdistinct h
  · intro hsource query body body'
    rw [hsource]
    rfl
  · intro hsource query query' body
    exact buildPayload_congr_query hsource captures query query' body
  · intro query query' body body' payload payload' h h' name hname
    rw [← hnames] at hname
    have hne : captures ≠ [] := by
      rintro rfl
      cases hname
    obtain ⟨capture, hcapture, rfl⟩ := List.mem_map.1 hname
    obtain ⟨_, fields, -, hfields, hmerged⟩ := merged_of_buildPayload hne hdistinct h
    obtain ⟨_, fields', -, hfields', hmerged'⟩ := merged_of_buildPayload hne hdistinct h'
    exact ⟨fields, fields', _, hfields, hfields', hmerged.captured capture hcapture,
      hmerged'.captured capture hcapture⟩

/-- A table whose one route takes the body as the field `user` and has a variable of that name. -/
def RouteTable.putUser : RouteTable :=
  [{ method := "PutUser", verb := "PUT", template := "/v1/\x7btenant\x7d/users/\x7buser\x7d"
     source := .field "user" }]

/-- The body `"8"` would be the field `user`, and the query has another `tenant`; the payload has
what the path says. -/
theorem RouteTable.captures_kept_putUser :
    ∃ fields,
      putUser.route "PUT" "/v1/acme/users/7" =
        .ok (some (0, [("tenant", "acme"), ("user", "7")])) ∧
      readBody [0x22, 0x38, 0x22] = .ok (some (.string "8")) ∧
      buildPayload (.field "user") [("tenant", "acme"), ("user", "7")] [("tenant", "other")]
        [0x22, 0x38, 0x22] = .ok (.object fields) ∧
      field? "tenant" fields = some (.string "acme") ∧
      field? "user" fields = some (.string "7") := by
  have hserved : putUser.route "PUT" "/v1/acme/users/7" =
      .ok (some (0, [("tenant", "acme"), ("user", "7")])) := by
    decide +kernel
  have hbody : readBody [0x22, 0x38, 0x22] = .ok (some (.string "8")) := rfl
  obtain ⟨route, template, hroute, -, -, -, hkept, -⟩ := captures_kept hserved
  cases hroute
  obtain ⟨hpayload, hmerged⟩ := hkept (by simp) [("tenant", "other")] [0x22, 0x38, 0x22]
  obtain ⟨payload, h⟩ := hpayload.2 ⟨_, .field hbody⟩
  obtain ⟨_, fields, -, rfl, hfields⟩ := hmerged payload h
  exact ⟨fields, hserved, hbody, h, hfields.captured ("tenant", "acme") (by simp),
    hfields.captured ("user", "7") (by simp)⟩

end Transcoding
