import Transcoding.Json.Reader
import Transcoding.Proofs.Result
import Mathlib.Data.List.Nodup
import Mathlib.Data.String.Basic

/-!
# The fields of an object

Setting a key changes the value of that key and of no other (`field?_insertField`), and keeps the
keys in ascending order (`Ascending.insertField`). So an object that is read has each of its keys
once (`ascending_of_read`), and two such objects are the same if their keys have the same values
(`Ascending.ext`).
-/

namespace Transcoding.Json

/-- A field is looked up in the first one with its key. -/
theorem field?_cons (key k : String) (v : Json) (fields : List (String × Json)) :
    field? key ((k, v) :: fields) = if key = k then some v else field? key fields := by
  by_cases h : key = k
  · simp [field?, h]
  · simp [field?, List.lookup_cons, beq_false_of_ne h, h]

/-- Setting a key changes the value of that key and of no other. -/
theorem field?_insertField (key other : String) (value : Json) (fields : List (String × Json)) :
    field? other (insertField key value fields) =
      if other = key then some value else field? other fields := by
  induction fields with
  | nil => exact field?_cons ..
  | cons field rest ih =>
    obtain ⟨k, v⟩ := field
    rw [insertField]
    split
    · exact field?_cons ..
    · split
      · next heq =>
        rw [field?_cons, field?_cons, heq]
        split <;> rfl
      · next hne =>
        rw [field?_cons, field?_cons, ih]
        by_cases hkey : other = key
        · rw [if_pos hkey, if_pos hkey, if_neg (hkey ▸ hne)]
        · rw [if_neg hkey, if_neg hkey]

/-- The fields after one is set are that one and some of the fields before. -/
theorem mem_insertField {key : String} {value : Json} {fields : List (String × Json)}
    {field : String × Json} (h : field ∈ insertField key value fields) :
    field = (key, value) ∨ field ∈ fields := by
  induction fields with
  | nil => exact .inl (List.mem_singleton.1 h)
  | cons first rest ih =>
    obtain ⟨k, v⟩ := first
    rw [insertField] at h
    split at h
    · exact List.mem_cons.1 h
    · split at h
      · rcases List.mem_cons.1 h with h | h
        · exact .inl h
        · exact .inr (List.mem_cons_of_mem _ h)
      · rcases List.mem_cons.1 h with h | h
        · exact .inr (h ▸ List.mem_cons_self)
        · exact (ih h).imp id (List.mem_cons_of_mem _)

/-- The keys are in ascending order, each of them once. -/
def Ascending (fields : List (String × Json)) : Prop :=
  fields.Pairwise fun a b => a.1 < b.1

/-- Setting a key keeps the keys in order. -/
theorem Ascending.insertField {fields : List (String × Json)} (h : Ascending fields) (key : String)
    (value : Json) : Ascending (insertField key value fields) := by
  induction fields with
  | nil => exact List.pairwise_singleton _ _
  | cons first rest ih =>
    obtain ⟨k, v⟩ := first
    obtain ⟨hfirst, hrest⟩ := List.pairwise_cons.1 h
    rw [Json.insertField]
    split
    · next hlt =>
      refine List.pairwise_cons.2 ⟨List.forall_mem_cons.2 ⟨hlt, fun field hfield => ?_⟩, h⟩
      exact hlt.trans (hfirst field hfield)
    · next hnlt =>
      split
      · next heq =>
        subst heq
        exact List.pairwise_cons.2 ⟨hfirst, hrest⟩
      · next hne =>
        refine List.pairwise_cons.2 ⟨fun field hfield => ?_, ih hrest⟩
        rcases mem_insertField hfield with rfl | hfield
        · exact lt_of_le_of_ne (not_lt.1 hnlt) (Ne.symm hne)
        · exact hfirst field hfield

/-- Fields in ascending order have different keys. -/
theorem Ascending.nodup_keys {fields : List (String × Json)} (h : Ascending fields) :
    (fields.map (·.1)).Nodup := by
  refine List.pairwise_map.2 (h.imp ?_)
  intro a b hlt
  exact ne_of_lt hlt

/-- In order, a field stands among the fields if it is the value of its key. -/
theorem Ascending.mem_iff {fields : List (String × Json)} (h : Ascending fields) {key : String}
    {value : Json} : (key, value) ∈ fields ↔ field? key fields = some value := by
  induction fields with
  | nil => exact ⟨nofun, nofun⟩
  | cons first rest ih =>
    obtain ⟨k, v⟩ := first
    obtain ⟨hfirst, hrest⟩ := List.pairwise_cons.1 h
    rw [field?_cons, List.mem_cons, Prod.mk.injEq]
    split
    · next heq =>
      subst heq
      have hlater : (key, value) ∉ rest := fun hmem => lt_irrefl key (hfirst _ hmem)
      simp [hlater, eq_comm]
    · next hne => simp [hne, ih hrest]

/-- In order, the fields are determined by the values of the keys. -/
theorem Ascending.ext {fields fields' : List (String × Json)} (h : Ascending fields)
    (h' : Ascending fields') (hvalues : ∀ key, field? key fields = field? key fields') :
    fields = fields' := by
  have hperm : fields.Perm fields' := by
    refine (List.perm_ext_iff_of_nodup (List.Nodup.of_map _ h.nodup_keys)
      (List.Nodup.of_map _ h'.nodup_keys)).2 fun ⟨key, value⟩ => ?_
    rw [h.mem_iff, h'.mem_iff, hvalues]
  exact hperm.eq_of_pairwise (fun _ _ _ _ hlt hgt => absurd hgt (lt_asymm hlt)) h h'

/-- The fields of an object that is read are in order: of repeated keys the last one counts. -/
theorem ascending_of_read {symbols : List Text.Symbol} {fields : List (String × Json)}
    (h : read symbols = .ok (.object fields)) : Ascending fields := by
  obtain ⟨tree, -, h⟩ := bind_eq_ok_iff.1 h
  have hvalue : tree.value? = some (.object fields) := by
    split at h
    · next hvalue => rw [hvalue, Except.ok.inj h]
    · cases h
  cases tree with
  | object written =>
    obtain ⟨pairs, -, heq⟩ := Option.map_eq_some_iff.1 hvalue
    rw [← Json.object.inj heq]
    exact List.foldlRecOn pairs _ .nil fun fields hfields pair _ =>
      Ascending.insertField hfields pair.1 pair.2
  | _ => simp [Tree.value?] at hvalue

end Transcoding.Json
