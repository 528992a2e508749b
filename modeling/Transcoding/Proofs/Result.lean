import Mathlib.Data.List.Forall2

/-!
# Results that can fail

What is known of the steps of a computation that gave a result, and of the first step of one that
failed.
-/

namespace Transcoding

variable {ε α β : Type}

/-- A sequence of two steps gives a result if the first step does and the second one goes on from
it. -/
theorem bind_eq_ok_iff {x : Except ε α} {f : α → Except ε β} {b : β} :
    x >>= f = .ok b ↔ ∃ a, x = .ok a ∧ f a = .ok b := by
  cases x with
  | error e => exact ⟨nofun, nofun⟩
  | ok a => exact ⟨fun h => ⟨a, rfl, h⟩, fun ⟨_, ha, h⟩ => Except.ok.inj ha ▸ h⟩

/-- A sequence of two steps fails if the first step does, or the second one after it. -/
theorem bind_eq_error_iff {x : Except ε α} {f : α → Except ε β} {e : ε} :
    x >>= f = .error e ↔ x = .error e ∨ ∃ a, x = .ok a ∧ f a = .error e := by
  cases x with
  | error e' => simp [bind, Except.bind]
  | ok a => simp [bind, Except.bind]

/-- A list is mapped if every item is, to the list of the results. -/
theorem mapM_eq_ok_iff {f : α → Except ε β} {items : List α} {results : List β} :
    items.mapM f = .ok results ↔ List.Forall₂ (fun a b => f a = .ok b) items results := by
  induction items generalizing results with
  | nil =>
    rw [List.mapM_nil, List.forall₂_nil_left_iff]
    exact ⟨fun h => (Except.ok.inj h).symm, fun h => h ▸ rfl⟩
  | cons a items ih =>
    simp only [List.mapM_cons, bind_eq_ok_iff, ih, List.forall₂_cons_left_iff]
    constructor
    · rintro ⟨b, ha, rest, hrest, h⟩
      exact ⟨b, rest, ha, hrest, (Except.ok.inj h).symm⟩
    · rintro ⟨b, rest, ha, hrest, rfl⟩
      exact ⟨b, ha, rest, hrest, rfl⟩

/-- An action on each item succeeds with the results of the items, one by one. -/
theorem mapM_eq_some_iff {f : α → Option β} {items : List α} {results : List β} :
    items.mapM f = some results ↔ List.Forall₂ (fun a b => f a = some b) items results := by
  induction items generalizing results with
  | nil => simp [eq_comm]
  | cons a items ih =>
    rw [List.mapM_cons]
    simp only [Option.bind_eq_bind, Option.bind_eq_some_iff, ih, List.forall₂_cons_left_iff,
      Option.pure_def, Option.some_inj]
    constructor
    · rintro ⟨b, hb, bs, hbs, rfl⟩
      exact ⟨b, bs, hb, hbs, rfl⟩
    · rintro ⟨b, bs, hb, hbs, rfl⟩
      exact ⟨b, hb, bs, hbs, rfl⟩

/-- An action on each item succeeds if it succeeds on each of them. -/
theorem exists_mapM_eq_ok_iff {f : α → Except ε β} {items : List α} :
    (∃ results, items.mapM f = .ok results) ↔ ∀ a ∈ items, ∃ b, f a = .ok b := by
  simp only [mapM_eq_ok_iff]
  induction items with
  | nil => exact ⟨fun _ => nofun, fun _ => ⟨[], .nil⟩⟩
  | cons a items ih =>
    rw [List.forall_mem_cons, ← ih]
    simp only [List.forall₂_cons_left_iff]
    constructor
    · rintro ⟨_, b, results, ha, hrest, -⟩
      exact ⟨⟨b, ha⟩, results, hrest⟩
    · rintro ⟨⟨b, ha⟩, results, hrest⟩
      exact ⟨_, b, results, ha, hrest, rfl⟩

/-- The item is the first one of the list for which the step fails, and this is its error. -/
def FirstFailure (f : α → Except ε β) (items : List α) (item : α) (error : ε) : Prop :=
  ∃ before after, items = before ++ item :: after ∧ (∀ a ∈ before, ∃ b, f a = .ok b) ∧
    f item = .error error

/-- Nothing fails first among no items. -/
theorem not_firstFailure_nil {f : α → Except ε β} {item : α} {error : ε} :
    ¬ FirstFailure f [] item error := by
  rintro ⟨before, after, h, -⟩
  simp at h

/-- The first failure is at the first item, or among the others if the first item does not fail. -/
theorem firstFailure_cons_iff {f : α → Except ε β} {a item : α} {items : List α} {error : ε} :
    FirstFailure f (a :: items) item error ↔
      (item = a ∧ f a = .error error) ∨ (∃ b, f a = .ok b) ∧ FirstFailure f items item error := by
  constructor
  · rintro ⟨before, after, h, hbefore, herror⟩
    cases before with
    | nil =>
      obtain ⟨rfl, rfl⟩ := List.cons.inj h
      exact .inl ⟨rfl, herror⟩
    | cons c before =>
      obtain ⟨rfl, rfl⟩ := List.cons.inj h
      rw [List.forall_mem_cons] at hbefore
      exact .inr ⟨hbefore.1, before, after, rfl, hbefore.2, herror⟩
  · rintro (⟨rfl, herror⟩ | ⟨ha, before, after, rfl, hbefore, herror⟩)
    · exact ⟨[], items, rfl, nofun, herror⟩
    · exact ⟨a :: before, after, rfl, List.forall_mem_cons.2 ⟨ha, hbefore⟩, herror⟩

/-- The first failure in two lists is in the first one, or in the second one if the first one has
none. -/
theorem firstFailure_append_iff {f : α → Except ε β} {items items' : List α} {item : α}
    {error : ε} :
    FirstFailure f (items ++ items') item error ↔
      FirstFailure f items item error ∨
        (∀ a ∈ items, ∃ b, f a = .ok b) ∧ FirstFailure f items' item error := by
  induction items with
  | nil => simp [not_firstFailure_nil]
  | cons a items ih =>
    rw [List.cons_append, firstFailure_cons_iff, firstFailure_cons_iff, ih, List.forall_mem_cons]
    constructor
    · rintro (h | ⟨ha, h | ⟨hitems, h⟩⟩)
      · exact .inl (.inl h)
      · exact .inl (.inr ⟨ha, h⟩)
      · exact .inr ⟨⟨ha, hitems⟩, h⟩
    · rintro ((h | ⟨ha, h⟩) | ⟨⟨ha, hitems⟩, h⟩)
      · exact .inl h
      · exact .inr ⟨ha, .inl h⟩
      · exact .inr ⟨ha, .inr ⟨hitems, h⟩⟩

/-- The first failure among images is the image of the first item that fails. -/
theorem firstFailure_map_iff {γ : Type} {f : α → Except ε β} {g : γ → α} {items : List γ}
    {item : α} {error : ε} :
    FirstFailure f (items.map g) item error ↔
      ∃ c, item = g c ∧ FirstFailure (fun c => f (g c)) items c error := by
  induction items with
  | nil => simp [not_firstFailure_nil]
  | cons c items ih =>
    simp only [List.map_cons, firstFailure_cons_iff, ih]
    constructor
    · rintro (⟨rfl, h⟩ | ⟨hok, d, rfl, h⟩)
      · exact ⟨c, rfl, .inl ⟨rfl, h⟩⟩
      · exact ⟨d, rfl, .inr ⟨hok, h⟩⟩
    · rintro ⟨d, rfl, ⟨rfl, h⟩ | ⟨hok, h⟩⟩
      · exact .inl ⟨rfl, h⟩
      · exact .inr ⟨hok, d, rfl, h⟩

/-- Mapping a list fails with the error of the first item that fails. -/
theorem mapM_eq_error_iff {f : α → Except ε β} {items : List α} {error : ε} :
    items.mapM f = .error error ↔ ∃ item, FirstFailure f items item error := by
  induction items with
  | nil => exact ⟨nofun, fun ⟨_, h⟩ => absurd h not_firstFailure_nil⟩
  | cons a items ih =>
    simp only [List.mapM_cons, bind_eq_error_iff, firstFailure_cons_iff, ih]
    constructor
    · rintro (ha | ⟨b, ha, ⟨item, h⟩ | ⟨results, -, h⟩⟩)
      · exact ⟨a, .inl ⟨rfl, ha⟩⟩
      · exact ⟨item, .inr ⟨⟨b, ha⟩, h⟩⟩
      · cases h
    · rintro ⟨item, ⟨-, ha⟩ | ⟨⟨b, ha⟩, h⟩⟩
      · exact .inl ha
      · exact .inr ⟨b, ha, .inl ⟨item, h⟩⟩

/-- Mapping a list fails if some item does. -/
theorem exists_firstFailure_iff {f : α → Except ε β} {items : List α} :
    (∃ item error, FirstFailure f items item error) ↔ ∃ a ∈ items, ∃ error, f a = .error error := by
  constructor
  · rintro ⟨item, error, before, after, rfl, -, h⟩
    exact ⟨item, by simp, error, h⟩
  · rintro ⟨a, ha, error, h⟩
    cases hmap : items.mapM f with
    | error e => exact ⟨_, e, (mapM_eq_error_iff.1 hmap).choose_spec⟩
    | ok results =>
      obtain ⟨b, hb⟩ := exists_mapM_eq_ok_iff.1 ⟨results, hmap⟩ a ha
      cases h.symm.trans hb

end Transcoding
