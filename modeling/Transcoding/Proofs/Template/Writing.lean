import Transcoding.Template.Basic
import Transcoding.Proofs.Text.Blank

/-!
# Patterns as they are written

A pattern is written as its segments with a slash between each two (`Pattern.write`), and a
variable as its name, perhaps with an equals sign and a pattern after it (`Denotes`). Not every
pattern can be written: a literal segment that has a star in it, say, would be read as something
else (`Pattern.Writable`). Reading is the inverse of writing on those that can, and fails on every
other text: `Pattern.read?_eq_some_iff` and `readVariable_eq_ok_iff`.
-/

namespace Transcoding

open Transcoding.Text

/-! ## Patterns -/

/-- A segment as it is written. -/
def Segment.write : Segment → List Char
  | .literal text => text.toList
  | .any => ['*']

/-- The last part of a pattern as it is written. -/
def LastSegment.write : LastSegment → List Char
  | .one segment => segment.write
  | .rest => ['*', '*']

/-- The segments of a pattern as they are written. -/
def Pattern.segmentTexts (pattern : Pattern) : List (List Char) :=
  pattern.leading.map Segment.write ++ [pattern.last.write]

/-- A pattern as it is written: its segments with a slash between each two. -/
def Pattern.write (pattern : Pattern) : List Char := ['/'].intercalate pattern.segmentTexts

/-- A segment that can be written. The text of a literal one is not empty, and it has no slash, no
star and no opening brace. -/
def Segment.Writable : Segment → Prop
  | .literal text =>
    text.toList ≠ [] ∧ '/' ∉ text.toList ∧ '*' ∉ text.toList ∧ '\x7b' ∉ text.toList
  | .any => True

/-- All segments of the pattern can be written. -/
structure Pattern.Writable (pattern : Pattern) : Prop where
  leading : ∀ segment ∈ pattern.leading, segment.Writable
  last : ∀ segment, pattern.last = .one segment → segment.Writable

/-- A segment that can be written has no slash. -/
theorem Segment.Writable.slash_not_mem {segment : Segment} (h : segment.Writable) :
    '/' ∉ segment.write := by
  cases segment with
  | literal text => exact h.2.1
  | any => decide

/-- A segment is read from the text that it is written as. -/
theorem Segment.read?_eq_some_iff {text : List Char} {segment : Segment} (hs : '/' ∉ text) :
    Segment.read? text = some segment ↔ segment.Writable ∧ segment.write = text := by
  constructor
  · intro h
    unfold Segment.read? at h
    split at h
    · cases h
    · next hne =>
      split at h
      · next hstar =>
        cases h
        exact ⟨trivial, hstar.symm⟩
      · split at h
        · cases h
        · next hchars =>
          cases h
          simp only [Bool.or_eq_true, List.contains_iff_mem, not_or] at hchars
          rw [Segment.Writable, Segment.write, String.toList_ofList]
          exact ⟨⟨by simpa using hne, hs, hchars⟩, rfl⟩
  · rintro ⟨hw, rfl⟩
    cases segment with
    | any => rfl
    | literal literal =>
      obtain ⟨hne, -, hstar, hbrace⟩ := hw
      have hany : literal.toList ≠ ['*'] := fun h => hstar (by simp [h])
      simp only [Segment.read?, Segment.write, List.isEmpty_iff, hne, hany, List.contains_iff_mem,
        hstar, hbrace, Bool.or_eq_true, or_self, if_false, String.ofList_toList]

/-- The last part of a pattern is read from the text that it is written as. -/
theorem LastSegment.read?_eq_some_iff {text : List Char} {last : LastSegment} (hs : '/' ∉ text) :
    LastSegment.read? text = some last ↔
      (∀ segment, last = .one segment → segment.Writable) ∧ last.write = text := by
  unfold LastSegment.read?
  cases last with
  | rest =>
    split
    · next h => simp [write, h]
    · next h => simp [write, Ne.symm h]
  | one segment =>
    have hread := @Segment.read?_eq_some_iff text segment hs
    split
    · next h =>
      simp only [Option.some.injEq, reduceCtorEq, false_iff]
      rintro ⟨hw, htext⟩
      have hsegment := hread.2 ⟨hw segment rfl, htext⟩
      rw [h] at hsegment
      simp [Segment.read?] at hsegment
    · simp [hread, write]

/-- What is read from the pieces between the slashes has these pieces as its segments. -/
theorem Pattern.writable_of_ofSegments? {texts : List (List Char)} {pattern : Pattern}
    (h : Pattern.ofSegments? texts = some pattern) (hs : ∀ text ∈ texts, '/' ∉ text) :
    pattern.Writable ∧ pattern.segmentTexts = texts := by
  fun_induction Pattern.ofSegments? texts generalizing pattern with
  | case1 => cases h
  | case2 text =>
    obtain ⟨last, hread, rfl⟩ := Option.map_eq_some_iff.1 h
    obtain ⟨hlast, rfl⟩ := (LastSegment.read?_eq_some_iff (hs text (by simp))).1 hread
    exact ⟨⟨nofun, hlast⟩, rfl⟩
  | case3 text rest _ ih =>
    simp only [Option.bind_eq_bind, Option.bind_eq_some_iff, Option.pure_def,
      Option.some.injEq] at h
    obtain ⟨segment, hread, tail, htail, rfl⟩ := h
    rw [List.forall_mem_cons] at hs
    obtain ⟨hsegment, rfl⟩ := (Segment.read?_eq_some_iff hs.1).1 hread
    obtain ⟨hw, rfl⟩ := ih htail hs.2
    exact ⟨⟨List.forall_mem_cons.2 ⟨hsegment, hw.leading⟩, hw.last⟩, rfl⟩

/-- The last part of a pattern that can be written has no slash. -/
theorem LastSegment.slash_not_mem_write {last : LastSegment}
    (h : ∀ segment, last = .one segment → segment.Writable) : '/' ∉ last.write := by
  cases last with
  | one segment => exact (h segment rfl).slash_not_mem
  | rest => decide

/-- A pattern is read back from its segments. -/
theorem Pattern.ofSegments?_segmentTexts {pattern : Pattern} (hw : pattern.Writable) :
    Pattern.ofSegments? pattern.segmentTexts = some pattern := by
  obtain ⟨leading, last⟩ := pattern
  have hlast := LastSegment.slash_not_mem_write hw.last
  induction leading with
  | nil =>
    have hread := (LastSegment.read?_eq_some_iff hlast).2 ⟨hw.last, rfl⟩
    simp [segmentTexts, ofSegments?, hread]
  | cons segment leading ih =>
    obtain ⟨hsegment, hleading⟩ := List.forall_mem_cons.1 hw.leading
    have hread := (Segment.read?_eq_some_iff hsegment.slash_not_mem).2 ⟨hsegment, rfl⟩
    have hrest : ofSegments? (leading.map Segment.write ++ [last.write]) = some { leading, last } :=
      ih ⟨hleading, hw.last⟩ hlast
    change ofSegments? (segment.write :: (leading.map Segment.write ++ [last.write])) = _
    rw [ofSegments?, hread, hrest]
    · rfl
    · simp

/-- Reading accepts exactly the patterns that can be written. -/
theorem Pattern.read?_eq_some_iff {text : List Char} {pattern : Pattern} :
    Pattern.read? text = some pattern ↔ pattern.Writable ∧ pattern.write = text := by
  constructor
  · intro h
    obtain ⟨hw, htexts⟩ := writable_of_ofSegments? h not_mem_of_mem_fields
    exact ⟨hw, (fields_eq_iff.1 htexts.symm).2.1⟩
  · rintro ⟨hw, rfl⟩
    have hfields : fields '/' pattern.write = pattern.segmentTexts := by
      refine fields_eq_iff.2 ⟨by simp [segmentTexts], rfl, ?_⟩
      simp only [segmentTexts, List.forall_mem_append, List.forall_mem_map,
        List.forall_mem_singleton]
      exact ⟨fun segment hs => (hw.leading segment hs).slash_not_mem,
        LastSegment.slash_not_mem_write hw.last⟩
    rw [read?, hfields, ofSegments?_segmentTexts hw]

/-! ## Variables -/

/-- What stands between two braces: the name of a variable, or its name, an equals sign and its
pattern. Blanks around them do not count. -/
inductive Denotes : List Char → String → Pattern → Prop
  | bare {inner : List Char} :
      '=' ∉ inner → trimBlanks inner ≠ [] →
      Denotes inner (String.ofList (trimBlanks inner)) .any
  | patterned {before after : List Char} {pattern : Pattern} :
      '=' ∉ before → trimBlanks before ≠ [] →
      pattern.Writable → pattern.write = trimBlanks after →
      Denotes (before ++ '=' :: after) (String.ofList (trimBlanks before)) pattern

/-- A variable is read from what stands for it between two braces. -/
theorem readVariable_eq_ok_iff {template name : String} {inner : List Char} {pattern : Pattern} :
    readVariable template inner = .ok (name, pattern) ↔ Denotes inner name pattern := by
  constructor
  · intro h
    unfold readVariable at h
    cases hcut : cutAt '=' inner with
    | none =>
      simp only [hcut] at h
      split at h
      · cases h
      · next hne =>
        cases h
        exact .bare (cutAt_eq_none_iff.1 hcut) (by simpa using hne)
    | some cut =>
      obtain ⟨before, after⟩ := cut
      obtain ⟨rfl, hbefore⟩ := cutAt_eq_some_iff.1 hcut
      simp only [hcut] at h
      split at h
      · cases h
      · next hne =>
        split at h
        · next hread =>
          cases h
          obtain ⟨hw, hwrite⟩ := Pattern.read?_eq_some_iff.1 hread
          exact .patterned hbefore (by simpa using hne) hw hwrite
        · cases h
  · intro h
    cases h with
    | bare hmem hne => simp [readVariable, cutAt_eq_none_iff.2 hmem, hne]
    | @patterned before after _ hbefore hne hw hwrite =>
      have hcut : cutAt '=' (before ++ '=' :: after) = some (before, after) :=
        cutAt_eq_some_iff.2 ⟨rfl, hbefore⟩
      have hread := Pattern.read?_eq_some_iff.2 ⟨hw, hwrite⟩
      simp [readVariable, hcut, hne, hread]

end Transcoding
