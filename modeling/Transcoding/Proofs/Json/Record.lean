import Transcoding.Proofs.Json.Written

/-!
# Reading records back

What the parts of a record are read as, if they were written from values.
-/

namespace Transcoding.Json

namespace Tree

/-- A list is read back if its items are. -/
theorem list?_ofValue {α : Type} {read : Tree → Option α} {write : α → Json}
    (h : ∀ a, read (.ofValue (write a)) = some a) (items : List α) :
    list? read (.ofValue (.array (items.map write))) = some items := by
  rw [ofValue, list?]
  induction items with
  | nil => rfl
  | cons a items ih =>
    rw [List.map_cons, ofValues, List.mapM_cons, h, ih]
    rfl

/-- A text that may be left out is read back. -/
theorem readOr_textOrNull? (text : Option String) :
    readOr textOrNull? none (text.map fun s => .ofValue (.string s)) = some text := by
  cases text <;> rfl

end Tree

/-- An array is exact if each of its items is. -/
theorem exact_array_map {α : Type} {write : α → Json} (h : ∀ a, Exact (write a))
    (items : List α) : Exact (.array (items.map write)) := by
  rw [Exact, exactItems_iff, List.forall_mem_map]
  exact fun a _ => h a

end Transcoding.Json
