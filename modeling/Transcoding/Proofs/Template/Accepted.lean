import Transcoding.Proofs.Template.Grammar

/-!
# What an accepted template looks like

`PathTemplate.parse` checks a template as it reads it, and the matcher relies on a part of what was
checked. `PathTemplate.WellFormed` collects that part: the literal segments of every pattern are
texts without a slash that are not empty, and every placeholder but the last is followed by text.
The main statement is `PathTemplate.wellFormed_of_parse`. The names of the variables are cut out of
the text (`PathTemplate.name_subset_of_parse`).
-/

namespace Transcoding

open Transcoding.Text

/-- The text of a literal segment is one segment of a path. -/
def Segment.WellFormed : Segment → Prop
  | .literal text => text.toList ≠ [] ∧ '/' ∉ text.toList
  | .any => True

/-- Every literal segment of the pattern is one segment of a path. -/
structure Pattern.WellFormed (pattern : Pattern) : Prop where
  leading : ∀ segment ∈ pattern.leading, segment.WellFormed
  last : ∀ segment, pattern.last = .one segment → segment.WellFormed

/-- What the reader of templates makes sure of. -/
structure PathTemplate.WellFormed (template : PathTemplate) : Prop where
  patterns : ∀ p ∈ template.placeholders, p.pattern.WellFormed
  /-- A placeholder that another one comes after is followed by text. -/
  separated : template.placeholders.IsChain fun p _ => p.following ≠ ""

/-- A segment that can be written is well-formed. -/
theorem Segment.Writable.wellFormed {segment : Segment} (h : segment.Writable) :
    segment.WellFormed := by
  cases segment with
  | literal text => exact ⟨h.1, h.2.1⟩
  | any => trivial

/-- A pattern that can be written is well-formed. -/
theorem Pattern.Writable.wellFormed {pattern : Pattern} (h : pattern.Writable) :
    pattern.WellFormed where
  leading segment hs := (h.leading segment hs).wellFormed
  last segment hs := (h.last segment hs).wellFormed

/-- An accepted template is well formed. -/
theorem PathTemplate.wellFormed_of_parse {text : String} {template : PathTemplate}
    (h : PathTemplate.parse text = .ok template) : template.WellFormed where
  patterns p hp := ((writable_of_parse h).placeholders p hp).pattern.wellFormed
  separated := (writable_of_parse h).separated

/-- The name of a variable has no characters but those between its braces. -/
theorem Denotes.name_subset {inner : List Char} {name : String} {pattern : Pattern}
    (h : Denotes inner name pattern) : name.toList ⊆ inner := by
  cases h with
  | bare =>
    rw [String.toList_ofList]
    exact trimBlanks_subset inner
  | @patterned before after =>
    rw [String.toList_ofList]
    exact List.subset_append_of_subset_left _ (trimBlanks_subset before)

/-- A variable of an accepted template has no character that the text does not have. -/
theorem PathTemplate.name_subset_of_parse {text : String} {template : PathTemplate}
    (h : PathTemplate.parse text = .ok template) {name : String}
    (hname : name ∈ template.variableNames) : name.toList ⊆ text.toList := by
  obtain ⟨-, written, hvalid, htext, rfl⟩ := parse_eq_ok_iff.1 h
  simp only [variableNames, WrittenTemplate.template, List.map_map, List.mem_map] at hname
  obtain ⟨slot, hslot, rfl⟩ := hname
  intro c hc
  have hinner : c ∈ slot.inner := (hvalid.denotes slot hslot).name_subset hc
  rw [← htext, WrittenTemplate.text, braced, List.flatMap_map]
  refine List.mem_append_right _ (List.mem_flatMap.2 ⟨slot, hslot, ?_⟩)
  simp [Slot.block, hinner]

end Transcoding
