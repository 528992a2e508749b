import Transcoding.Proofs.Json.Record
import Transcoding.Proofs.Result

/-!
# Forms of a record

A record may be an object with its fields in any order and with other fields among them, or an array
of the values of its first fields (`RecordForm`). These are the trees that are read as the record
(`record?_eq_some_iff`).
-/

namespace Transcoding.Json.Tree

/-- The fields that give the names their values. A name without a value has no field. -/
def declaredFields (names : List String) (values : List (Option Tree)) :
    List (Option String × Tree) :=
  (names.zip values).flatMap fun pair => (pair.2.map (some pair.1, ·)).toList

/-- The tree is a record that gives the names these values. -/
inductive RecordForm (names : List String) : List (Option Tree) → Tree → Prop
  | object {values : List (Option Tree)} {fields others : List (Option String × Tree)}
      (hlength : names.length = values.length)
      (hfields : fields.Perm (declaredFields names values ++ others))
      (hothers : ∀ field ∈ others, ∃ key, field.1 = some key ∧ key ∉ names) :
      RecordForm names values (.object fields)
  | array {items : List Tree} (hlength : items.length ≤ names.length) :
      RecordForm names (items.map some ++ List.replicate (names.length - items.length) none)
        (.array items)

/-! ## Objects -/

section
variable {names : List String} {values : List (Option Tree)} {fields : List (Option String × Tree)}

/-- The fields that are declared are that of the first name, if it has a value, and those of the
others. -/
theorem declaredFields_cons {name : String} {value : Option Tree} :
    declaredFields (name :: names) (value :: values) =
      (value.map (some name, ·)).toList ++ declaredFields names values :=
  rfl

/-- A declared field has one of the names. -/
theorem exists_name_of_mem {field : Option String × Tree}
    (h : field ∈ declaredFields names values) : ∃ name ∈ names, field.1 = some name := by
  obtain ⟨⟨name, value⟩, hpair, hfield⟩ := List.mem_flatMap.1 h
  refine ⟨name, (List.of_mem_zip hpair).1, ?_⟩
  cases value with
  | none => cases hfield
  | some value =>
    obtain rfl := List.mem_singleton.1 hfield
    rfl

/-- The key of a name is found where it has a value. -/
theorem filter_declaredFields (hnodup : names.Nodup) {name : String} {value : Option Tree}
    (h : (name, value) ∈ names.zip values) :
    (declaredFields names values).filter (·.1 == some name) =
      (value.map (some name, ·)).toList := by
  induction names generalizing values with
  | nil => cases h
  | cons first names ih =>
    cases values with
    | nil => cases h
    | cons value' values =>
      obtain ⟨hfirst, hnodup⟩ := List.nodup_cons.1 hnodup
      rw [declaredFields_cons, List.filter_append]
      rcases List.mem_cons.1 h with heq | hmem
      · cases heq
        have hrest : (declaredFields names values).filter (·.1 == some name) = [] := by
          rw [List.filter_eq_nil_iff]
          intro field hfield hkey
          obtain ⟨other, hother, hname⟩ := exists_name_of_mem hfield
          rw [hname, beq_iff_eq, Option.some_inj] at hkey
          exact hfirst (hkey ▸ hother)
        rw [hrest, List.append_nil]
        cases value <;> simp
      · have hne : first ≠ name := by
          rintro rfl
          exact hfirst (List.of_mem_zip hmem).1
        rw [ih hnodup hmem]
        cases value' <;> simp [hne]

/-- Neither the order of the fields nor the others play a part. -/
theorem filter_of_perm {others : List (Option String × Tree)} (hnodup : names.Nodup)
    (hfields : fields.Perm (declaredFields names values ++ others))
    (hothers : ∀ field ∈ others, ∃ key, field.1 = some key ∧ key ∉ names) {name : String}
    {value : Option Tree} (h : (name, value) ∈ names.zip values) :
    fields.filter (·.1 == some name) = (value.map (some name, ·)).toList := by
  have hnone : others.filter (·.1 == some name) = [] := by
    rw [List.filter_eq_nil_iff]
    intro field hfield hname
    obtain ⟨key, hkey, hnot⟩ := hothers field hfield
    rw [hkey, beq_iff_eq, Option.some_inj] at hname
    exact hnot (hname ▸ (List.of_mem_zip h).1)
  have hperm := hfields.filter (·.1 == some name)
  rw [List.filter_append, filter_declaredFields hnodup h, hnone, List.append_nil] at hperm
  cases value with
  | none => exact hperm.eq_nil
  | some value => exact List.perm_singleton.1 hperm

/-- The fields of an object are those of the names, and others. -/
theorem perm_declaredFields (hnodup : names.Nodup)
    (h : List.Forall₂ (fun name value => fields.filter (·.1 == some name) =
      (value.map (some name, ·)).toList) names values) :
    fields.Perm (declaredFields names values ++
      fields.filter fun field => !names.any fun name => field.1 == some name) := by
  induction h with
  | nil =>
    have hall : (fields.filter fun field => !([] : List String).any fun name =>
        field.1 == some name) = fields :=
      List.filter_eq_self.2 fun _ _ => rfl
    rw [hall]
    exact .refl _
  | @cons name value names values hname _ ih =>
    obtain ⟨hfirst, hnodup⟩ := List.nodup_cons.1 hnodup
    -- The fields that no later name takes are those of this name and those that no name takes.
    have hsplit := (List.filter_append_perm (·.1 == some name)
      (fields.filter fun field => !names.any fun name => field.1 == some name)).symm
    have hhere : (fields.filter fun field => field.1 == some name &&
        !names.any fun name => field.1 == some name) = fields.filter (·.1 == some name) := by
      refine List.filter_congr fun field _ => ?_
      by_cases hkey : field.1 = some name
      · have hlater : (names.any fun name => field.1 == some name) = false := by
          rw [List.any_eq_false]
          intro other hother heq
          rw [hkey, beq_iff_eq, Option.some_inj] at heq
          exact hfirst (heq ▸ hother)
        rw [hlater, Bool.not_false, Bool.and_true]
      · simp [hkey]
    have hothers : (fields.filter fun field => !(field.1 == some name) &&
        !names.any fun name => field.1 == some name) =
        fields.filter fun field => !(name :: names).any fun name => field.1 == some name := by
      refine List.filter_congr fun field _ => ?_
      rw [List.any_cons, Bool.not_or]
    rw [List.filter_filter, List.filter_filter, hhere, hname, hothers] at hsplit
    rw [declaredFields_cons]
    refine (ih hnodup).trans ((List.Perm.append_left _ hsplit).trans ?_)
    rw [← List.append_assoc]
    exact List.Perm.append_right _ List.perm_append_comm

/-- A key has a value if it stands in one field, and none if it stands in no field. -/
theorem unique?_eq_some_iff {key : String} {value : Option Tree} :
    unique? key fields = some value ↔
      fields.filter (·.1 == some key) = (value.map (some key, ·)).toList := by
  rw [unique?]
  split
  · next hfilter =>
    rw [hfilter]
    cases value <;> simp
  · next key' value' hfilter =>
    have hmem : (key', value') ∈ fields.filter (·.1 == some key) := by
      rw [hfilter]
      exact List.mem_cons_self
    have hkey : key' = some key := eq_of_beq (List.mem_filter.1 hmem).2
    rw [hfilter, hkey]
    cases value <;> simp
  · next hnone hone =>
    constructor
    · intro h
      cases h
    · intro h
      cases value with
      | none => exact absurd h hnone
      | some value => exact absurd h (hone _ _)

/-- Where other keys are allowed, fields have suitable keys if each of them has a key. -/
theorem keysSuit_iff (names : List String) :
    keysSuit false names fields = true ↔ ∀ field ∈ fields, ∃ key, field.1 = some key := by
  rw [keysSuit, List.all_eq_true]
  refine forall₂_congr fun field _ => ?_
  obtain ⟨key, value⟩ := field
  cases key <;> simp

end

/-! ## Records -/

section
variable {names : List String} {values : List (Option Tree)}

/-- A record is read from an object that has a form of it. -/
theorem record?_object_iff (hnodup : names.Nodup) {fields : List (Option String × Tree)} :
    record? false names (.object fields) = some values ↔
      RecordForm names values (.object fields) := by
  have hrecord : record? false names (.object fields) = some values ↔
      (∀ field ∈ fields, ∃ key, field.1 = some key) ∧
        List.Forall₂ (fun name value => unique? name fields = some value) names values := by
    rw [record?, ← keysSuit_iff names, ← mapM_eq_some_iff]
    split
    · next h => simp [h]
    · next h => simp [h]
  simp only [hrecord, unique?_eq_some_iff]
  constructor
  · rintro ⟨hkeys, hvalues⟩
    refine .object hvalues.length_eq (perm_declaredFields hnodup hvalues) fun field hfield => ?_
    obtain ⟨hmem, hother⟩ := List.mem_filter.1 hfield
    obtain ⟨key, hkey⟩ := hkeys field hmem
    refine ⟨key, hkey, fun hname => ?_⟩
    rw [hkey, Bool.not_eq_true', List.any_eq_false] at hother
    exact hother key hname (beq_self_eq_true _)
  · intro h
    cases h with
    | @object _ _ others hlength hfields hothers =>
      refine ⟨fun field hfield => ?_, List.forall₂_iff_zip.2 ⟨hlength, fun hpair => ?_⟩⟩
      · rcases List.mem_append.1 (hfields.subset hfield) with hdeclared | hother
        · obtain ⟨name, -, hname⟩ := exists_name_of_mem hdeclared
          exact ⟨name, hname⟩
        · obtain ⟨key, hkey, -⟩ := hothers field hother
          exact ⟨key, hkey⟩
      · exact filter_of_perm hnodup hfields hothers hpair

/-- A tree is read as a record if it is a form of it. -/
theorem record?_eq_some_iff (hnodup : names.Nodup) {tree : Tree} :
    record? false names tree = some values ↔ RecordForm names values tree := by
  cases tree with
  | object fields => exact record?_object_iff hnodup
  | array items =>
    rw [record?]
    constructor
    · intro h
      split at h
      · next hlength =>
        cases h
        exact .array hlength
      · cases h
    · intro h
      cases h with
      | array hlength => rw [if_pos hlength]
  | _ =>
    constructor
    · intro h
      cases h
    · intro h
      cases h

end

/-! ## Values -/

section
variable {tree : Tree}

/-- A text is read from a string. -/
theorem text?_eq_some_iff {text : String} :
    tree.text? = some text ↔ tree = .string (some text) := by
  cases tree <;> simp [text?]

/-- A text or nothing is read from a string or from null. -/
theorem textOrNull?_eq_some_iff {text : Option String} :
    tree.textOrNull? = some text ↔
      (text = none ∧ tree = .null) ∨ ∃ s, text = some s ∧ tree = .string (some s) := by
  cases tree with
  | null => simp [textOrNull?, eq_comm]
  | string s => cases s <;> simp [textOrNull?, eq_comm]
  | _ => simp [textOrNull?]

/-- The name of a case is read from a string, or from an object with that field alone. -/
theorem caseName?_eq_some_iff {name : String} :
    tree.caseName? = some name ↔
      tree = .string (some name) ∨ tree = .object [(some name, .null)] := by
  constructor
  · intro h
    unfold caseName? at h
    split at h
    · exact .inl (congrArg Tree.string h)
    · exact .inr (by rw [h])
    · cases h
  · rintro (rfl | rfl) <;> rfl

/-- A list is read from an array, item by item. -/
theorem list?_eq_some_iff {α : Type} {read : Tree → Option α} {results : List α} :
    tree.list? read = some results ↔
      ∃ items, tree = .array items ∧
        List.Forall₂ (fun item result => read item = some result) items results := by
  cases tree with
  | array items => simp [list?, mapM_eq_some_iff]
  | _ => simp [list?]

end

end Transcoding.Json.Tree
