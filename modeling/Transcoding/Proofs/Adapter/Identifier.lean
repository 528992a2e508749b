import Transcoding.Adapter.Identifier
import Transcoding.Proofs.Text.Cut
import Transcoding.Proofs.Text.Word

/-!
# Paths of message types

A dotted name is read as its segments, and its path is written from their identifiers. Both are
texts in which segments stand between separators (`Separated`): dots in the name and colons in the
path, any number of them. Such a text has one sequence of segments (`separated_iff`), so the path
of a name can be taken apart into the identifiers of its segments, and an identifier shows its name
(`eq_of_rustIdentifier_eq`). Hence two names have the same path only if they have the same segments
(`rustPath_eq_iff`).
-/

namespace Transcoding

open Transcoding.Text

/-! ## Segments between separators -/

/-- The text holds the segments in their order, with separators before, between and after them. A
segment is not empty and ends at a separator or with the text. -/
inductive Separated (separator : Char) : List (List Char) → List Char → Prop
  | nil : Separated separator [] []
  | separator {segments : List (List Char)} {text : List Char} :
      Separated separator segments text → Separated separator segments (separator :: text)
  | segment {segment : List Char} {segments : List (List Char)} {text : List Char} :
      segment ≠ [] → separator ∉ segment → (∀ c ∈ text.head?, c = separator) →
      Separated separator segments text →
      Separated separator (segment :: segments) (segment ++ text)

section
variable {separator : Char} {segments : List (List Char)} {text : List Char}

/-- The segments of a text are its fields that are not empty. -/
theorem Separated.filter_fields (h : Separated separator segments text) :
    (fields separator text).filter (!·.isEmpty) = segments := by
  induction h with
  | nil => rfl
  | separator _ ih => simpa [fields] using ih
  | @segment first segments text hne hfree hend _ ih =>
    have hfirst : fields separator first = [first] :=
      fields_eq_iff.2 ⟨by simp, by simp, by simpa using hfree⟩
    cases text with
    | nil =>
      cases ih
      simp [hfirst, hne, fields]
    | cons c text =>
      obtain rfl := hend c rfl
      rw [fields_append, hfirst]
      simpa [hne, fields] using ih

/-- A segment is a part of the text, not empty and without a separator. -/
theorem Separated.of_mem (h : Separated separator segments text) {segment : List Char}
    (hmem : segment ∈ segments) : segment ≠ [] ∧ separator ∉ segment ∧ segment ⊆ text := by
  induction h with
  | nil => cases hmem
  | separator _ ih =>
    obtain ⟨hne, hfree, hsubset⟩ := ih hmem
    exact ⟨hne, hfree, List.subset_cons_of_subset _ hsubset⟩
  | segment hne hfree _ _ ih =>
    rcases List.mem_cons.1 hmem with rfl | hmem
    · exact ⟨hne, hfree, List.subset_append_left _ _⟩
    · obtain ⟨hne', hfree', hsubset⟩ := ih hmem
      exact ⟨hne', hfree', List.subset_append_of_subset_right _ hsubset⟩

/-- Pieces with a separator between each two are segments, the empty ones left out. -/
theorem separated_intercalate {pieces : List (List Char)}
    (h : ∀ piece ∈ pieces, separator ∉ piece) :
    Separated separator (pieces.filter (!·.isEmpty)) ([separator].intercalate pieces) := by
  induction pieces with
  | nil => exact .nil
  | cons piece pieces ih =>
    rw [List.forall_mem_cons] at h
    have hrest := ih h.2
    cases pieces with
    | nil =>
      by_cases hpiece : piece = []
      · simpa [hpiece] using Separated.nil
      · have hlast : Separated separator [piece] (piece ++ []) := .segment hpiece h.1 (by simp) .nil
        simpa [hpiece] using hlast
    | cons next pieces =>
      rw [List.intercalate_cons_cons, List.append_assoc, List.singleton_append]
      by_cases hpiece : piece = []
      · simpa [hpiece] using hrest.separator
      · rw [List.filter_cons_of_pos (by simpa using hpiece)]
        exact .segment hpiece h.1 (by simp) hrest.separator

/-- A text has one sequence of segments. -/
theorem separated_iff :
    Separated separator segments text ↔
      (fields separator text).filter (!·.isEmpty) = segments := by
  refine ⟨Separated.filter_fields, ?_⟩
  rintro rfl
  obtain ⟨-, htext, hfree⟩ := fields_eq_iff.1 (Eq.refl (fields separator text))
  have hseparated := separated_intercalate hfree
  rwa [htext] at hseparated

end

/-! ## Identifiers -/

/-- The identifiers of names without a hash sign differ if the names do. -/
theorem eq_of_rustIdentifier_eq {a b : String} (ha : '#' ∉ a.toList) (hb : '#' ∉ b.toList)
    (h : rustIdentifier a = rustIdentifier b) : a = b := by
  have hraw : ∀ name : String, '#' ∈ ("r#" ++ name).toList := by simp
  unfold rustIdentifier at h
  split at h <;> split at h
  · exact (String.append_right_inj "r#").1 h
  · exact absurd (h ▸ hraw a) hb
  · exact absurd (h ▸ hraw b) ha
  · exact h

/-- The identifier of a name has no other characters than the name and those that mark it as raw. -/
theorem mem_rustIdentifier {name : String} {c : Char} (h : c ∈ (rustIdentifier name).toList) :
    c = 'r' ∨ c = '#' ∨ c ∈ name.toList := by
  unfold rustIdentifier at h
  split at h
  · simpa using h
  · exact .inr (.inr h)

/-- A name that is not empty gives an identifier that is not empty. -/
theorem rustIdentifier_ne_empty {name : String} (h : name ≠ "") : rustIdentifier name ≠ "" := by
  unfold rustIdentifier
  split
  · simp
  · exact h

/-! ## Paths -/

/-- The name has the segments, which stand between dots. -/
def DottedName (segments : List String) (name : String) : Prop :=
  Separated '.' (segments.map String.toList) name.toList

/-- The segments of a dotted name are those that the cut at its dots gives. -/
theorem dottedName_iff {segments : List String} {name : String} :
    DottedName segments name ↔ nameSegments name = segments := by
  rw [DottedName, separated_iff, nameSegments]
  constructor
  · intro h
    simp [h]
  · rintro rfl
    simp

/-- Texts between pairs of colons are the segments of the joined text. -/
theorem separated_join {texts : List String} (hne : ∀ text ∈ texts, text ≠ "")
    (hfree : ∀ text ∈ texts, ':' ∉ text.toList) :
    Separated ':' (texts.map String.toList) (join "::" texts).toList := by
  rw [join, String.toList_intercalate]
  induction texts with
  | nil => exact .nil
  | cons text texts ih =>
    rw [List.forall_mem_cons] at hne hfree
    have htext : text.toList ≠ [] := by simpa using hne.1
    cases texts with
    | nil =>
      have hlast : Separated ':' [text.toList] (text.toList ++ []) :=
        .segment htext hfree.1 (by simp) .nil
      simpa using hlast
    | cons next texts =>
      have hrest := (ih hne.2 hfree.2).separator.separator
      have hfirst := Separated.segment htext hfree.1 (by simp) hrest
      simpa [List.intercalate_cons_cons] using hfirst

/-- A name of a message type: word characters and dots. -/
def IsTypeName (name : String) : Prop := ∀ c ∈ name.toList, isWord c = true ∨ c = '.'

/-- Whether a text is a name of a message type can be decided character by character. -/
instance (name : String) : Decidable (IsTypeName name) := List.decidableBAll _ name.toList

namespace IsTypeName

variable {name segment : String}

/-- A segment of a name is a word. -/
theorem word_of_mem (h : IsTypeName name) (hmem : segment ∈ nameSegments name) :
    segment ≠ "" ∧ ∀ c ∈ segment.toList, isWord c = true := by
  have hdotted : DottedName (nameSegments name) name := dottedName_iff.2 rfl
  obtain ⟨hne, hfree, hsubset⟩ := hdotted.of_mem (List.mem_map_of_mem hmem)
  refine ⟨by simpa using hne, fun c hc => (h c (hsubset hc)).resolve_right ?_⟩
  rintro rfl
  exact hfree hc

/-- No segment of a type name holds the sign of a raw identifier. -/
theorem hash_not_mem (h : IsTypeName name) (hmem : segment ∈ nameSegments name) :
    '#' ∉ segment.toList := fun hhash =>
  absurd ((h.word_of_mem hmem).2 '#' hhash) (by decide)

/-- The identifiers of the segments are the segments of the path. -/
theorem separated_path (h : IsTypeName name) :
    Separated ':' (((nameSegments name).map rustIdentifier).map String.toList)
      (join "::" ((nameSegments name).map rustIdentifier)).toList := by
  refine separated_join (List.forall_mem_map.2 fun segment hmem => ?_)
    (List.forall_mem_map.2 fun segment hmem hcolon => ?_)
  · exact rustIdentifier_ne_empty (h.word_of_mem hmem).1
  · rcases mem_rustIdentifier hcolon with hr | hhash | hcolon
    · exact absurd hr (by decide)
    · exact absurd hhash (by decide)
    · exact absurd ((h.word_of_mem hmem).2 ':' hcolon) (by decide)

end IsTypeName

/-- Names with the same identifiers are the same names. -/
theorem eq_of_map_rustIdentifier_eq {names names' : List String}
    (hhash : ∀ name ∈ names, '#' ∉ name.toList) (hhash' : ∀ name ∈ names', '#' ∉ name.toList)
    (h : names.map rustIdentifier = names'.map rustIdentifier) : names = names' := by
  induction names generalizing names' with
  | nil => exact (List.map_eq_nil_iff.1 h.symm).symm
  | cons name names ih =>
    cases names' with
    | nil => cases h
    | cons name' names' =>
      rw [List.forall_mem_cons] at hhash hhash'
      obtain ⟨hname, hnames⟩ := List.cons.inj h
      rw [eq_of_rustIdentifier_eq hhash.1 hhash'.1 hname, ih hhash.2 hhash'.2 hnames]

/-- The module of the message types is in front of every path. -/
theorem rustPath_eq_iff_join (typesPath : Option String) (a b : String) :
    rustPath typesPath a = rustPath typesPath b ↔
      join "::" ((nameSegments a).map rustIdentifier) =
        join "::" ((nameSegments b).map rustIdentifier) := by
  unfold rustPath
  cases typesPath with
  | none => rfl
  | some module =>
    by_cases hmodule : module = ""
    · simp only [if_pos hmodule]
    · simp only [if_neg hmodule, String.append_right_inj]

/-- The empty name has no segments. -/
theorem nameSegments_empty : nameSegments "" = [] := rfl

/-- A dot ends the segments before it and begins those after it. -/
theorem nameSegments_append_dot (before after : String) :
    nameSegments (before ++ "." ++ after) = nameSegments before ++ nameSegments after := by
  have htext : (before ++ "." ++ after).toList = before.toList ++ '.' :: after.toList := by simp
  rw [nameSegments, htext, fields_append, List.filter_append, List.map_append]
  rfl

/-- **Message types and their paths.** Two names of message types have the same path, whatever
module the types are in, if and only if they have the same segments between their dots. So a dot in
front of a name, behind it or next to another dot changes nothing. -/
theorem rustPath_eq_iff (typesPath : Option String) {a b : String} (ha : IsTypeName a)
    (hb : IsTypeName b) :
    (rustPath typesPath a = rustPath typesPath b ↔
      ∃ segments, DottedName segments a ∧ DottedName segments b) ∧
    rustPath typesPath ("." ++ a) = rustPath typesPath a ∧
    rustPath typesPath (a ++ ".") = rustPath typesPath a ∧
    rustPath typesPath (a ++ ".." ++ b) = rustPath typesPath (a ++ "." ++ b) := by
  simp only [dottedName_iff, exists_eq_left', rustPath_eq_iff_join]
  refine ⟨⟨fun h => ?_, fun h => by rw [h]⟩, ?_, ?_, ?_⟩
  · have hpath := ha.separated_path
    rw [h] at hpath
    have hidentifiers := hb.separated_path.filter_fields.symm.trans hpath.filter_fields
    refine eq_of_map_rustIdentifier_eq (fun _ => hb.hash_not_mem) (fun _ => ha.hash_not_mem) ?_
    exact List.map_injective_iff.2 (fun _ _ => String.toList_injective) hidentifiers
  · have hfront : nameSegments ("." ++ a) = nameSegments a := nameSegments_append_dot "" a
    rw [hfront]
  · have hback := nameSegments_append_dot a ""
    rw [String.append_empty, nameSegments_empty, List.append_nil] at hback
    rw [hback]
  · have hbetween : a ++ ".." ++ b = a ++ "." ++ "" ++ "." ++ b := String.toList_inj.1 (by simp)
    rw [hbetween, nameSegments_append_dot, nameSegments_append_dot, nameSegments_append_dot,
      nameSegments_empty, List.append_nil]

/-- Dots apart, a name has one path, in which a keyword does not look like another word. -/
theorem rustPath_eq_iff_type :
    IsTypeName ".shop..type.Item" ∧ IsTypeName "shop.type.Item." ∧ IsTypeName "shop.rtype.Item" ∧
      rustPath (some "crate::pb::") ".shop..type.Item" =
        rustPath (some "crate::pb::") "shop.type.Item." ∧
      rustPath (some "crate::pb::") ".shop..type.Item" ≠
        rustPath (some "crate::pb::") "shop.rtype.Item" := by
  have hfirst : IsTypeName ".shop..type.Item" := by decide +kernel
  have hsame : IsTypeName "shop.type.Item." := by decide +kernel
  have hother : IsTypeName "shop.rtype.Item" := by decide +kernel
  refine ⟨hfirst, hsame, hother, (rustPath_eq_iff _ hfirst hsame).1.2 ?_, ?_⟩
  · refine ⟨["shop", "type", "Item"], dottedName_iff.2 ?_, dottedName_iff.2 ?_⟩ <;> decide +kernel
  · intro h
    obtain ⟨segments, hsegments, hsegments'⟩ := (rustPath_eq_iff _ hfirst hother).1.1 h
    have hequal := (dottedName_iff.1 hsegments).trans (dottedName_iff.1 hsegments').symm
    exact absurd hequal (by decide +kernel)

end Transcoding
