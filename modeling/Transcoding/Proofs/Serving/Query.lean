import Transcoding.Proofs.Serving.Payload
import Mathlib.Algebra.BigOperators.Group.List.Lemmas
import Mathlib.Algebra.GroupWithZero.Nat

/-!
# Query parameters in payloads

Under each key, the fields that are made of a query hold the values that the query has for the key
(`field?_queryFields`): none, a string, or an array of strings in the order of the query. One more
pair changes the field of its own key alone, from one of these forms to the next
(`addOccurrence_collected`). Captures are set on top, and of two with one name the later one counts
(`field?_setCaptures`).

`queryPayload_collects` puts this together for every payload that is made of a query. Fields stand
in the order of their keys, so the payload depends on the values of each key alone and not on the
order in which the keys occur.
-/

namespace Transcoding

open Transcoding.Json

/-! ## Values of a key -/

/-- The values of a key in their order. -/
def valuesOf (key : String) (pairs : List (String × String)) : List String :=
  (pairs.filter (·.1 = key)).map (·.2)

/-- One more pair at the end adds its value to those of its key. -/
theorem valuesOf_concat (key : String) (pairs : List (String × String)) (pair : String × String) :
    valuesOf key (pairs ++ [pair]) =
      valuesOf key pairs ++ if pair.1 = key then [pair.2] else [] := by
  unfold valuesOf
  split
  · next h => simp [h]
  · next h => simp [h]

/-- The values of a key do not depend on the order of pairs with different keys. -/
theorem valuesOf_swap {a b : String × String} (h : a.1 ≠ b.1) (key : String)
    (before after : List (String × String)) :
    valuesOf key (before ++ b :: a :: after) = valuesOf key (before ++ a :: b :: after) := by
  by_cases ha : a.1 = key
  · have hb : b.1 ≠ key := fun hb => h (ha.trans hb.symm)
    simp [valuesOf, ha, hb]
  · simp [valuesOf, List.filter_cons, ha]

/-- A key has as many values as there are pairs with it. -/
theorem length_valuesOf (key : String) (pairs : List (String × String)) :
    (valuesOf key pairs).length = (pairs.map (·.1)).count key := by
  rw [valuesOf, List.length_map, List.count, List.countP_map, List.countP_eq_length_filter]
  rfl

/-- A key has values if there is a pair with it. -/
theorem valuesOf_ne_nil_iff {key : String} {pairs : List (String × String)} :
    valuesOf key pairs ≠ [] ↔ key ∈ pairs.map (·.1) := by
  rw [← List.length_pos_iff, length_valuesOf, List.count_pos_iff]

/-- The form in which the values of a key stand in a payload. -/
def collected : List String → Option Json
  | [] => none
  | [value] => some (.string value)
  | values => some (.array (values.map .string))

/-- Values are collected if there are any. -/
theorem isSome_collected {values : List String} : (collected values).isSome ↔ values ≠ [] := by
  match values with
  | [] => simp [collected]
  | [_] => simp [collected]
  | _ :: _ :: _ => simp [collected]

/-- One more value gives the next form. -/
theorem addOccurrence_collected (value : String) (values : List String) :
    some (addOccurrence value (collected values)) = collected (values ++ [value]) := by
  match values with
  | [] => rfl
  | [_] => rfl
  | first :: second :: rest => simp [collected, addOccurrence]

/-! ## Fields of a query -/

/-- One more pair changes the field of its own key. -/
theorem queryFields_concat (query : List (String × String)) (key value : String) :
    queryFields (query ++ [(key, value)]) =
      insertField key (addOccurrence value (field? key (queryFields query)))
        (queryFields query) := by
  simp [queryFields]

/-- The fields of a query hold the values of the query. -/
theorem field?_queryFields (key : String) (query : List (String × String)) :
    field? key (queryFields query) = collected (valuesOf key query) := by
  induction query using List.reverseRecOn with
  | nil => rfl
  | append_singleton query pair ih =>
    obtain ⟨k, value⟩ := pair
    rw [queryFields_concat, field?_insertField, valuesOf_concat]
    by_cases h : key = k
    · subst h
      rw [if_pos rfl, if_pos rfl, ih, addOccurrence_collected]
    · rw [if_neg h, if_neg (Ne.symm h), List.append_nil, ih]

/-- The last capture is set last. -/
theorem setCaptures_concat (captures : Captures) (name value : String)
    (fields : List (String × Json)) :
    setCaptures (captures ++ [(name, value)]) fields =
      insertField name (.string value) (setCaptures captures fields) := by
  simp [setCaptures]

/-- A captured name has the last string that is captured for it, and every other name has what it
had. -/
theorem field?_setCaptures (key : String) (captures : Captures) (fields : List (String × Json)) :
    field? key (setCaptures captures fields) =
      match (valuesOf key captures).getLast? with
      | some value => some (.string value)
      | none => field? key fields := by
  induction captures using List.reverseRecOn with
  | nil => rfl
  | append_singleton captures capture ih =>
    obtain ⟨name, value⟩ := capture
    rw [setCaptures_concat, field?_insertField, valuesOf_concat]
    by_cases h : key = name
    · simp [h]
    · rw [if_neg h, if_neg (Ne.symm h), List.append_nil, ih]

/-- Captures that are set keep the fields in ascending order. -/
theorem ascending_setCaptures {fields : List (String × Json)} (h : Ascending fields)
    (captures : Captures) : Ascending (setCaptures captures fields) :=
  List.foldlRecOn captures _ h fun _ hfields capture _ => hfields.insertField capture.1 _

/-! ## Strings of a payload -/

/-- The text of a string. -/
def stringText? : Json → Option String
  | .string text => some text
  | _ => none

/-- The strings that stand for a key: the string itself, or the strings of an array. -/
def storedStrings : Option Json → List String
  | some (.array items) => items.filterMap stringText?
  | some value => (stringText? value).toList
  | none => []

/-- No value is lost. -/
theorem storedStrings_collected (values : List String) :
    storedStrings (collected values) = values := by
  match values with
  | [] => rfl
  | [_] => rfl
  | first :: second :: rest =>
    simp [collected, storedStrings, stringText?, List.filterMap_map, Function.comp_def]

/-! ## Payloads -/

/-- The name is not the name of a capture. -/
def Uncaptured (captures : Captures) (name : String) : Prop := name ∉ captures.map (·.1)

/-- Whether a name is that of a capture can be decided. -/
instance (captures : Captures) (name : String) : Decidable (Uncaptured captures name) :=
  inferInstanceAs (Decidable (_ ∉ _))

/-- The fields whose names are not names of captures. -/
def uncapturedFields (captures : Captures) (fields : List (String × Json)) :
    List (String × Json) :=
  fields.filter fun field => Uncaptured captures field.1

section
variable (captures : Captures) (query : List (String × String))

/-- The fields of a payload that is made of a query. -/
def payloadFields : List (String × Json) := setCaptures captures (queryFields query)

/-- The fields of a payload are in ascending order. -/
theorem ascending_payloadFields : Ascending (payloadFields captures query) :=
  ascending_setCaptures (ascending_queryFields query) captures

variable {captures} in
/-- A name that is not captured has the values that the query gives it. -/
theorem field?_payloadFields {key : String} (h : Uncaptured captures key) :
    field? key (payloadFields captures query) = collected (valuesOf key query) := by
  have hnone : valuesOf key captures = [] := not_not.1 fun hne => h (valuesOf_ne_nil_iff.1 hne)
  rw [payloadFields, field?_setCaptures, hnone, ← field?_queryFields]
  rfl

/-- The fields that are not captured are those of the query. -/
theorem mem_uncapturedFields {key : String} {value : Json} :
    (key, value) ∈ uncapturedFields captures (payloadFields captures query) ↔
      Uncaptured captures key ∧ collected (valuesOf key query) = some value := by
  rw [uncapturedFields, List.mem_filter, (ascending_payloadFields captures query).mem_iff,
    decide_eq_true_eq, and_comm]
  refine and_congr_right fun hfree => ?_
  rw [field?_payloadFields query hfree]

/-- Without the captures, a payload has the keys of the query, each of them once. -/
theorem perm_keys_uncapturedFields :
    ((uncapturedFields captures (payloadFields captures query)).map (·.1)).Perm
      ((query.map (·.1)).dedup.filter fun name => Uncaptured captures name) := by
  -- Both sides are free of repetitions, so it is enough that they have the same members.
  have hordered : Ascending (uncapturedFields captures (payloadFields captures query)) :=
    (ascending_payloadFields captures query).filter _
  refine (List.perm_ext_iff_of_nodup hordered.nodup_keys
    ((List.nodup_dedup _).filter _)).2 fun key => ?_
  have hkey : (∃ value, collected (valuesOf key query) = some value) ↔ key ∈ query.map (·.1) := by
    rw [← valuesOf_ne_nil_iff, ← Option.isSome_iff_exists, isSome_collected]
  rw [List.mem_filter, List.mem_dedup, ← hkey, decide_eq_true_eq, and_comm, ← exists_and_left]
  simp only [List.mem_map, Prod.exists, exists_and_right, exists_eq_right, mem_uncapturedFields]

/-- Without the captures, a payload holds as many strings as the query has pairs. -/
theorem sum_length_storedStrings :
    ((uncapturedFields captures (payloadFields captures query)).map
        fun field => (storedStrings (some field.2)).length).sum =
      query.countP fun pair => Uncaptured captures pair.1 := by
  have hlength : ∀ field ∈ uncapturedFields captures (payloadFields captures query),
      (storedStrings (some field.2)).length = (query.map (·.1)).count field.1 := by
    rintro ⟨key, value⟩ hfield
    rw [← ((mem_uncapturedFields captures query).1 hfield).2, storedStrings_collected,
      length_valuesOf]
  calc
    _ = ((uncapturedFields captures (payloadFields captures query)).map
          fun field => (query.map (·.1)).count field.1).sum := by rw [List.map_congr_left hlength]
    _ = (((query.map (·.1)).dedup.filter fun name => Uncaptured captures name).map
          fun name => (query.map (·.1)).count name).sum := by
      rw [← ((perm_keys_uncapturedFields captures query).map _).sum_eq, List.map_map]
      rfl
    _ = (query.map (·.1)).countP fun name => Uncaptured captures name :=
      List.sum_map_count_dedup_filter_eq_countP _ _
    _ = _ := List.countP_map ..

variable {query} in
/-- A payload depends on the values of each key alone. -/
theorem payloadFields_congr {query' : List (String × String)}
    (h : ∀ key, valuesOf key query' = valuesOf key query) :
    payloadFields captures query' = payloadFields captures query := by
  refine (ascending_payloadFields captures query').ext (ascending_payloadFields captures query)
    fun key => ?_
  simp only [payloadFields, field?_setCaptures, field?_queryFields, h]

end

/-- **Query parameters are merged without loss.** The payload of a request that takes the query is
an object. A captured name has the last string captured for it. A name that is not captured has the
values that the query gives it: the string itself if it is given once, the array of the strings in
the order of the query if it is given more often, and nothing if it is not given. So the object
holds as many strings as the query has pairs, under each name that is not captured and under all of
them together, and it does not depend on the order of pairs with different keys. -/
theorem queryPayload_collects (captures : Captures) (query : List (String × String))
    (body : List UInt8) :
    ∃ fields, buildPayload .query captures query body = .ok (.object fields) ∧ Ascending fields ∧
      (∀ key value, (valuesOf key captures).getLast? = some value →
        field? key fields = some (.string value)) ∧
      (∀ key, Uncaptured captures key →
        (∀ value, valuesOf key query = [value] → field? key fields = some (.string value)) ∧
        (2 ≤ (valuesOf key query).length →
          field? key fields = some (.array ((valuesOf key query).map .string))) ∧
        (valuesOf key query = [] → field? key fields = none) ∧
        (storedStrings (field? key fields)).length = query.countP (·.1 = key)) ∧
      ((uncapturedFields captures fields).map
          fun field => (storedStrings (some field.2)).length).sum =
        query.countP (fun pair => Uncaptured captures pair.1) ∧
      (∀ query' body', (∀ key, valuesOf key query' = valuesOf key query) →
        buildPayload .query captures query' body' = .ok (.object fields)) ∧
      ∀ before a b after body', query = before ++ a :: b :: after → a.1 ≠ b.1 →
        buildPayload .query captures (before ++ b :: a :: after) body' = .ok (.object fields) := by
  have hcongr (query' : List (String × String)) (body' : List UInt8)
      (h : ∀ key, valuesOf key query' = valuesOf key query) :
      buildPayload .query captures query' body' = .ok (.object (payloadFields captures query)) := by
    rw [← payloadFields_congr captures h]
    rfl
  refine ⟨payloadFields captures query, rfl, ascending_payloadFields captures query,
    fun key value hlast => ?_, fun key hfree => ?_, sum_length_storedStrings captures query,
    hcongr, fun before a b after body' hquery hne => hcongr _ _ fun key => ?_⟩
  · rw [payloadFields, field?_setCaptures, hlast]
  · rw [field?_payloadFields query hfree, storedStrings_collected]
    refine ⟨fun value hone => by rw [hone]; rfl, fun hmany => ?_, fun hnone => by rw [hnone]; rfl,
      ?_⟩
    · match valuesOf key query, hmany with
      | first :: second :: rest, _ => rfl
    · rw [length_valuesOf, List.count, List.countP_map]
      rfl
  · rw [hquery, valuesOf_swap hne]

/-- Of `?tag=a&user=8&view=full&tag=b`, with `user` captured twice, the payload has the two tags in
an array, the view, and the later capture; the order of `tag` and `view` does not count. -/
theorem queryPayload_collects_tags :
    ∃ fields,
      buildPayload .query [("user", "6"), ("user", "7")]
        [("tag", "a"), ("user", "8"), ("view", "full"), ("tag", "b")] [] = .ok (.object fields) ∧
      Uncaptured [("user", "6"), ("user", "7")] "tag" ∧
      Uncaptured [("user", "6"), ("user", "7")] "view" ∧
      field? "user" fields = some (.string "7") ∧
      field? "tag" fields = some (.array [.string "a", .string "b"]) ∧
      field? "view" fields = some (.string "full") ∧
      buildPayload .query [("user", "6"), ("user", "7")]
        [("tag", "a"), ("user", "8"), ("tag", "b"), ("view", "full")] [] =
          .ok (.object fields) := by
  obtain ⟨fields, hbuild, -, hcaptured, hgiven, -, -, hswap⟩ :=
    queryPayload_collects [("user", "6"), ("user", "7")]
      [("tag", "a"), ("user", "8"), ("view", "full"), ("tag", "b")] []
  have htag : Uncaptured [("user", "6"), ("user", "7")] "tag" := by decide
  have hview : Uncaptured [("user", "6"), ("user", "7")] "view" := by decide
  refine ⟨fields, hbuild, htag, hview, hcaptured _ _ rfl, (hgiven "tag" htag).2.1 (by decide),
    (hgiven "view" hview).1 _ rfl, ?_⟩
  exact hswap [("tag", "a"), ("user", "8")] _ _ [] [] rfl (by decide)

end Transcoding
