import Transcoding.Template.Matching
import Transcoding.Proofs.Template.Accepted
import Mathlib.Data.List.Forall2

/-!
# How a path is read

The value of a variable falls into the pieces its pattern names: the leading segments and the last
piece (`Reading`). A reading conforms to a pattern if every piece fits its segment, which says
nothing about how the value was found. The search for values is described apart from that:
`LastSegment.EndsBefore` says where the last piece ends when the text `next` comes after the
value, and `Reads` composes it along a list of placeholders. The matcher finds exactly the readings
of `Reads` (`matchPlaceholders_eq_some_iff`), so what holds of a match is proved from `Reads`, and
to show that a path is matched is to build a derivation of it.
-/

namespace Transcoding

open Transcoding.Text

/-! ## Values and patterns -/

/-- A piece of a path that a segment of a pattern stands for: it is not empty, it has no slash, and
a literal segment stands for its own text only. -/
def Segment.Fits (piece : List Char) : Segment → Prop
  | .literal text => piece = text.toList ∧ piece ≠ [] ∧ '/' ∉ piece
  | .any => piece ≠ [] ∧ '/' ∉ piece

/-- A piece of a path that the last part of a pattern stands for: the text of a literal, a segment
that is not empty, or any text that is not empty. -/
def LastSegment.Fits (piece : List Char) : LastSegment → Prop
  | .one (.literal text) => piece = text.toList
  | .one .any => piece ≠ [] ∧ '/' ∉ piece
  | .rest => piece ≠ []

/-- Whether a piece fits a segment can be decided. -/
instance (piece : List Char) : (segment : Segment) → Decidable (segment.Fits piece)
  | .literal text => inferInstanceAs (Decidable (piece = text.toList ∧ piece ≠ [] ∧ '/' ∉ piece))
  | .any => inferInstanceAs (Decidable (piece ≠ [] ∧ '/' ∉ piece))

/-- Whether a piece fits the last part of a pattern can be decided. -/
instance (piece : List Char) : (last : LastSegment) → Decidable (last.Fits piece)
  | .one (.literal text) => inferInstanceAs (Decidable (piece = text.toList))
  | .one .any => inferInstanceAs (Decidable (piece ≠ [] ∧ '/' ∉ piece))
  | .rest => inferInstanceAs (Decidable (piece ≠ []))

/-- The pieces of a value. -/
structure Reading where
  leading : List (List Char)
  last : List Char
  deriving DecidableEq

/-- The value that is read: its pieces with a slash between each two. -/
def Reading.text (reading : Reading) : List Char :=
  ['/'].intercalate (reading.leading ++ [reading.last])

/-- Each piece fits the segment of the pattern at its place. -/
structure Reading.Conforms (reading : Reading) (pattern : Pattern) : Prop where
  leading : List.Forall₂ Segment.Fits reading.leading pattern.leading
  last : pattern.last.Fits reading.last

/-- A value that can be read as the pattern says. -/
def Pattern.Conforms (pattern : Pattern) (value : String) : Prop :=
  ∃ reading : Reading, reading.Conforms pattern ∧ reading.text = value.toList

/-- The leading pieces with a slash after each, and the last piece. -/
theorem Reading.text_eq (reading : Reading) :
    reading.text = reading.leading.flatMap (· ++ ['/']) ++ reading.last := by
  obtain ⟨leading, last⟩ := reading
  unfold Reading.text
  induction leading with
  | nil => simp
  | cons piece pieces ih =>
    cases pieces with
    | nil => simp
    | cons second pieces =>
      simp only [List.cons_append, List.intercalate_cons_cons, List.flatMap_cons] at ih ⊢
      simp [ih]

/-! ## The leading segments -/

/-- A piece fits a segment if the segment accepts it and it has no slash. -/
theorem Segment.fits_iff {segment : Segment} {piece : List Char} (hw : segment.WellFormed) :
    segment.Fits piece ↔ segment.accepts piece ∧ '/' ∉ piece := by
  cases segment with
  | any => simp [Segment.Fits, Segment.accepts]
  | literal text =>
    simp only [Segment.Fits, Segment.accepts, beq_iff_eq]
    constructor
    · rintro ⟨h, -, hs⟩
      exact ⟨h, hs⟩
    · rintro ⟨rfl, hs⟩
      exact ⟨rfl, hw.1, hs⟩

/-- The leading segments of a pattern take one piece each, up to the next slash. -/
theorem captureLeading_eq_some_iff {segments : List Segment} {path value rest : List Char}
    (hw : ∀ segment ∈ segments, segment.WellFormed) :
    captureLeading segments path = some (value, rest) ↔
      ∃ pieces, List.Forall₂ Segment.Fits pieces segments ∧
        value = pieces.flatMap (· ++ ['/']) ∧ path = value ++ rest := by
  induction segments generalizing path value with
  | nil =>
    simp only [captureLeading, Option.some.injEq, Prod.mk.injEq, List.forall₂_nil_right_iff]
    constructor
    · rintro ⟨rfl, rfl⟩
      exact ⟨[], rfl, rfl, rfl⟩
    · rintro ⟨_, rfl, rfl, rfl⟩
      exact ⟨rfl, rfl⟩
  | cons segment segments ih =>
    have hsegment := hw segment (by simp)
    have hsegments := fun s hs => hw s (List.mem_cons_of_mem _ hs)
    simp only [captureLeading, Option.bind_eq_bind, Option.bind_eq_some_iff]
    constructor
    · rintro ⟨⟨piece, after⟩, hcut, h⟩
      obtain ⟨rfl, hpiece⟩ := cutAt_eq_some_iff.1 hcut
      split at h
      · next haccepts =>
        simp only [Option.bind_eq_some_iff, Option.pure_def, Option.some.injEq] at h
        obtain ⟨⟨value', rest'⟩, hrec, heq⟩ := h
        cases heq
        obtain ⟨pieces, hfits, rfl, rfl⟩ := (ih hsegments).1 hrec
        exact ⟨piece :: pieces, .cons ((Segment.fits_iff hsegment).2 ⟨haccepts, hpiece⟩) hfits,
          by simp, by simp⟩
      · cases h
    · rintro ⟨_, hall, rfl, rfl⟩
      obtain ⟨piece, pieces, hpiece, hpieces, rfl⟩ := List.forall₂_cons_right_iff.1 hall
      obtain ⟨haccepts, hslash⟩ := (Segment.fits_iff hsegment).1 hpiece
      refine ⟨(piece, pieces.flatMap (· ++ ['/']) ++ rest), cutAt_eq_some_iff.2 ⟨by simp, hslash⟩,
        ?_⟩
      simp [haccepts, (ih hsegments).2 ⟨pieces, hpieces, rfl, rfl⟩]

/-! ## The last piece -/

/-- Where the last piece of a value ends if the text `next` comes after the value and `rest` is the
path from there on. The rest of a path ends at the last occurrence of `next`. A star ends at the
next slash if `next` is empty or begins with one, and else at the first occurrence of `next`, which
lies inside the segment. -/
def LastSegment.EndsBefore (next piece rest : List Char) : LastSegment → Prop
  | .rest => if next = [] then rest = [] else next <+: rest ∧ ¬ next <:+: rest.tail
  | .one (.literal text) => piece = text.toList
  | .one .any =>
    '/' ∉ piece ∧
      if next = [] ∨ next.head? = some '/' then rest = [] ∨ rest.head? = some '/'
      else next <+: rest ∧ '/' ∉ next ∧ ¬ next <:+: (piece ++ next).dropLast

/-- A path falls into its first segment and the rest in one way. -/
theorem firstSegment_eq_iff {path piece rest : List Char} :
    path.takeWhile (· != '/') = piece ∧ path.dropWhile (· != '/') = rest ↔
      path = piece ++ rest ∧ '/' ∉ piece ∧ (rest = [] ∨ rest.head? = some '/') := by
  rw [takeWhile_dropWhile_eq_iff]
  have hpiece : (∀ c ∈ piece, (c != '/') = true) ↔ '/' ∉ piece := by
    simp only [bne_iff_ne]
    exact ⟨fun h hm => h _ hm rfl, fun h c hc heq => h (heq ▸ hc)⟩
  have hrest : (∀ c ∈ rest.head?, (c != '/') = false) ↔ rest = [] ∨ rest.head? = some '/' := by
    cases rest <;> simp
  rw [hpiece, hrest]

/-- The test whether a text ends or goes on with a slash. -/
theorem endsAtSlash_iff {next : List Char} :
    (next.isEmpty || ['/'].isPrefixOf next) = true ↔ next = [] ∨ next.head? = some '/' := by
  cases next with
  | nil => simp
  | cons c cs => simpa [List.isPrefixOf] using eq_comm

/-- A first occurrence inside the first segment of a path, seen from the whole path. -/
theorem splitAtFirst_segment_iff {next path piece rest : List Char} (hne : next ≠ []) :
    (splitAtFirst next (path.takeWhile (· != '/'))).map
        (fun split => (split.1, split.2 ++ path.dropWhile (· != '/'))) = some (piece, rest) ↔
      path = piece ++ rest ∧ '/' ∉ piece ∧ next <+: rest ∧ '/' ∉ next ∧
        ¬ next <:+: (piece ++ next).dropLast := by
  simp only [Option.map_eq_some_iff, Prod.exists, Prod.mk.injEq]
  constructor
  · rintro ⟨value, found, hsplit, rfl, rfl⟩
    obtain ⟨hsegment, ⟨later, rfl⟩, hfirst⟩ := (splitAtFirst_eq_some_iff hne).1 hsplit
    obtain ⟨hpath, hslash, -⟩ := firstSegment_eq_iff.1 ⟨hsegment, rfl⟩
    simp only [List.mem_append, not_or] at hslash
    exact ⟨by simpa using hpath, hslash.1, ⟨_, (List.append_assoc ..).symm⟩, hslash.2.1, hfirst⟩
  · rintro ⟨rfl, hpiece, ⟨later, rfl⟩, hslash, hfirst⟩
    -- The segment goes on after `next`, up to the next slash.
    obtain ⟨hlater, hsegment, hstop⟩ := (@firstSegment_eq_iff later _ _).1 ⟨rfl, rfl⟩
    obtain ⟨htake, hdrop⟩ := (@firstSegment_eq_iff (piece ++ (next ++ later)) _ _).2
      ⟨by rw [List.append_assoc, List.append_assoc, ← hlater], by simp [hpiece, hslash, hsegment],
        hstop⟩
    refine ⟨piece, next ++ later.takeWhile (· != '/'), ?_, rfl, ?_⟩
    · rw [htake]
      exact (splitAtFirst_eq_some_iff hne).2
        ⟨List.append_assoc .., List.prefix_append _ _, hfirst⟩
    · rw [hdrop, List.append_assoc, ← hlater]

/-- The last part of a pattern takes the piece that `EndsBefore` describes. -/
theorem captureLast_eq_some_iff {next path piece rest : List Char} {last : LastSegment} :
    captureLast next last path = some (piece, rest) ↔
      path = piece ++ rest ∧ last.EndsBefore next piece rest := by
  rcases last with (text | _) | _
  · simp only [captureLast, LastSegment.EndsBefore, Option.map_eq_some_iff, Prod.mk.injEq,
      List.isPrefixOf?_eq_some_iff_append_eq]
    constructor
    · rintro ⟨_, rfl, rfl, rfl⟩
      exact ⟨rfl, rfl⟩
    · rintro ⟨rfl, rfl⟩
      exact ⟨rest, rfl, rfl, rfl⟩
  · by_cases hnext : next = [] ∨ next.head? = some '/'
    · simp only [captureLast, endsAtSlash_iff.2 hnext, if_true, Option.some.injEq, Prod.mk.injEq,
        LastSegment.EndsBefore, hnext, firstSegment_eq_iff]
    · have hne : next ≠ [] := fun h => hnext (.inl h)
      have hsplit := @splitAtFirst_segment_iff next path piece rest hne
      simpa only [captureLast, endsAtSlash_iff, LastSegment.EndsBefore, hnext, if_false]
        using hsplit
  · by_cases hnext : next = []
    · simp only [captureLast, hnext, List.isEmpty_nil, if_true, Option.some.injEq, Prod.mk.injEq,
        LastSegment.EndsBefore]
      constructor
      · rintro ⟨rfl, rfl⟩
        simp
      · rintro ⟨rfl, rfl⟩
        simp
    · simp [captureLast, LastSegment.EndsBefore, hnext, splitAtLast_eq_some_iff hnext]

/-! ## Values -/

/-- A piece that fits the last part of a pattern is not empty. -/
theorem LastSegment.ne_nil_of_fits {last : LastSegment} {piece : List Char}
    (hw : ∀ segment, last = .one segment → segment.WellFormed) (h : last.Fits piece) :
    piece ≠ [] := by
  rcases last with (text | _) | _
  · rw [show piece = text.toList from h]
    exact (hw _ rfl).1
  · exact h.1
  · exact h

/-- A piece that ends before the next text fits the last part, unless it is empty. -/
theorem LastSegment.fits_of_endsBefore {last : LastSegment} {next piece rest : List Char}
    (h : last.EndsBefore next piece rest) (hne : piece ≠ []) : last.Fits piece := by
  rcases last with (text | _) | _
  · exact h
  · exact ⟨hne, h.1⟩
  · exact hne

/-- A pattern captures the values that conform to it and end where its last part ends. -/
theorem Pattern.capture_eq_some_iff {pattern : Pattern} {next path value rest : List Char}
    (hw : pattern.WellFormed) :
    pattern.capture next path = some (value, rest) ↔
      ∃ reading : Reading, reading.Conforms pattern ∧ reading.text = value ∧
        path = value ++ rest ∧ pattern.last.EndsBefore next reading.last rest := by
  simp only [Pattern.capture, Option.bind_eq_bind, Option.bind_eq_some_iff, Prod.exists]
  constructor
  · rintro ⟨leading, tail, hleading, last, rest', hlast, h⟩
    obtain ⟨pieces, hfits, rfl, rfl⟩ := (captureLeading_eq_some_iff hw.leading).1 hleading
    obtain ⟨rfl, hends⟩ := captureLast_eq_some_iff.1 hlast
    split at h
    · cases h
    · next hne =>
      cases h
      have hne : last ≠ [] := by simpa using hne
      refine ⟨⟨pieces, last⟩, ⟨hfits, LastSegment.fits_of_endsBefore hends hne⟩,
        Reading.text_eq _, by simp, hends⟩
  · rintro ⟨reading, hconforms, rfl, rfl, hends⟩
    have hne := LastSegment.ne_nil_of_fits hw.last hconforms.last
    refine ⟨_, _, (captureLeading_eq_some_iff hw.leading).2 ⟨_, hconforms.leading, rfl, ?_⟩,
      _, _, captureLast_eq_some_iff.2 ⟨rfl, hends⟩, ?_⟩
    · rw [Reading.text_eq, List.append_assoc]
    · simp [hne, Reading.text_eq]

/-! ## Paths -/

/-- The placeholders read a path as these values, each with the text that follows it. -/
inductive Reads : List Placeholder → List Reading → List Char → Prop
  | nil : Reads [] [] []
  | cons {p : Placeholder} {reading : Reading} {placeholders : List Placeholder}
      {readings : List Reading} {rest : List Char} :
      reading.Conforms p.pattern →
      p.pattern.last.EndsBefore p.following.toList reading.last (p.following.toList ++ rest) →
      Reads placeholders readings rest →
      Reads (p :: placeholders) (reading :: readings)
        (reading.text ++ (p.following.toList ++ rest))

/-- The value of a reading as a string. -/
def Reading.value (reading : Reading) : String := String.ofList reading.text

/-- The matcher finds the values as which the placeholders read the path, and no others. -/
theorem matchPlaceholders_eq_some_iff {placeholders : List Placeholder} {path : List Char}
    {captures : Captures} (hw : ∀ p ∈ placeholders, p.pattern.WellFormed) :
    matchPlaceholders placeholders path = some captures ↔
      ∃ readings, Reads placeholders readings path ∧
        captures = (placeholders.map (·.name)).zip (readings.map Reading.value) := by
  induction placeholders generalizing path captures with
  | nil =>
    simp only [matchPlaceholders]
    constructor
    · intro h
      split at h
      · next hpath =>
        cases h
        obtain rfl := List.isEmpty_iff.1 hpath
        exact ⟨[], .nil, rfl⟩
      · cases h
    · rintro ⟨readings, hreads, rfl⟩
      cases hreads
      rfl
  | cons p placeholders ih =>
    have hp := hw p (by simp)
    have hps := fun q hq => hw q (List.mem_cons_of_mem _ hq)
    simp only [matchPlaceholders, Option.bind_eq_bind, Option.bind_eq_some_iff, Prod.exists,
      Option.pure_def, Option.some.injEq, List.isPrefixOf?_eq_some_iff_append_eq]
    constructor
    · rintro ⟨value, rest, hcapture, later, rfl, tail, htail, rfl⟩
      obtain ⟨reading, hconforms, rfl, rfl, hends⟩ := (Pattern.capture_eq_some_iff hp).1 hcapture
      obtain ⟨readings, hreads, rfl⟩ := (ih hps).1 htail
      exact ⟨reading :: readings, .cons hconforms hends hreads, rfl⟩
    · rintro ⟨readings, hreads, rfl⟩
      cases hreads with
      | @cons _ reading _ readings later hconforms hends hreads =>
        exact ⟨reading.text, _, (Pattern.capture_eq_some_iff hp).2
          ⟨reading, hconforms, rfl, rfl, hends⟩, later, rfl, _, (ih hps).2 ⟨readings, hreads, rfl⟩,
          rfl⟩

end Transcoding
