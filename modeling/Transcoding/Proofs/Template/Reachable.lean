import Transcoding.Proofs.Template.Instance

/-!
# Templates that match some path

An accepted template need not match anything. A variable that takes the rest of a path goes up to
the last occurrence of the text after it, so if that text occurs again in the fixed text of the
template, the matcher looks for the end of the value in the wrong place on every path:
`/{a=**}/{b}/c` is such a template (`PathTemplate.match?_repeated_slash`).

The fixed text of placeholders is their `skeleton`, with a gap for each piece that a request
chooses. Every path fills the gaps (`Reads.fills`), so an occurrence in the skeleton is one in every
path. Conversely one character in each gap is enough for a path that is matched, if it can be
chosen such that no new occurrence arises (`Spare`). Together this is
`PathTemplate.exists_match_restUnrepeated`.
-/

namespace Transcoding

open Transcoding.Text

/-! ## The fixed text of a template -/

/-- The text of a segment, or a gap. -/
def Segment.skeleton : Segment → List (Option Char)
  | .literal text => text.toList.map some
  | .any => [none]

/-- The text of the last part of a pattern, or a gap. -/
def LastSegment.skeleton : LastSegment → List (Option Char)
  | .one segment => segment.skeleton
  | .rest => [none]

/-- The fixed text of a pattern. -/
def Pattern.skeleton (pattern : Pattern) : List (Option Char) :=
  pattern.leading.flatMap (fun segment => segment.skeleton ++ [some '/']) ++ pattern.last.skeleton

/-- The fixed text of placeholders, with a gap for each piece that a request chooses. -/
def skeleton : List Placeholder → List (Option Char)
  | [] => []
  | p :: placeholders =>
    p.pattern.skeleton ++ (p.following.toList.map some ++ skeleton placeholders)

/-- No text after a variable that takes the rest of a path occurs again in the fixed text behind its
first character. -/
def RestUnrepeated : List Placeholder → Prop
  | [] => True
  | p :: placeholders =>
    (p.pattern.last = .rest → p.following ≠ "" →
      ¬ p.following.toList.map some <:+:
        (p.following.toList.map some ++ skeleton placeholders).tail) ∧
    RestUnrepeated placeholders

/-- Whether the texts after rests are repeated can be decided. -/
instance : (placeholders : List Placeholder) → Decidable (RestUnrepeated placeholders)
  | [] => inferInstanceAs (Decidable True)
  | p :: placeholders =>
    have := instDecidableRestUnrepeated placeholders
    inferInstanceAs (Decidable ((p.pattern.last = .rest → p.following ≠ "" →
      ¬ p.following.toList.map some <:+:
        (p.following.toList.map some ++ skeleton placeholders).tail) ∧
      RestUnrepeated placeholders))

/-! ## Every path fills the gaps -/

/-- A text that has the fixed text of a skeleton and any text in its gaps. -/
inductive Fills : List (Option Char) → List Char → Prop
  | nil : Fills [] []
  | char {c : Char} {s : List (Option Char)} {t : List Char} :
      Fills s t → Fills (some c :: s) (c :: t)
  | gap {s : List (Option Char)} {t : List Char} (filling : List Char) :
      Fills s t → Fills (none :: s) (filling ++ t)

/-- A text fills a skeleton without gaps that spells it. -/
theorem Fills.map_some (t : List Char) : Fills (t.map some) t := by
  induction t with
  | nil => exact .nil
  | cons c t ih => exact .char ih

/-- Any text fills a gap. -/
theorem Fills.singleton_gap (t : List Char) : Fills [none] t := by
  simpa using Fills.gap t .nil

/-- Texts fill two skeletons one after another if each fills its own. -/
theorem Fills.append {s s' : List (Option Char)} {t t' : List Char} (h : Fills s t)
    (h' : Fills s' t') : Fills (s ++ s') (t ++ t') := by
  induction h with
  | nil => exact h'
  | char _ ih => exact .char ih
  | gap filling _ ih =>
    rw [List.cons_append, List.append_assoc]
    exact .gap filling ih

/-- Fixed text at the start of a skeleton stands at the start of every text that fills it. -/
theorem Fills.prefix_of_map {s : List (Option Char)} {t part : List Char} (h : Fills s t)
    (hpre : part.map some <+: s) : part <+: t := by
  induction h generalizing part with
  | nil =>
    have : part = [] := by simpa using hpre
    rw [this]
  | char _ ih =>
    cases part with
    | nil => exact List.nil_prefix
    | cons d part =>
      rw [List.map_cons, List.cons_prefix_cons] at hpre
      obtain ⟨heq, hpre⟩ := hpre
      cases heq
      exact List.cons_prefix_cons.2 ⟨rfl, ih hpre⟩
  | gap _ _ _ =>
    cases part with
    | nil => exact List.nil_prefix
    | cons d part =>
      rw [List.map_cons, List.cons_prefix_cons] at hpre
      cases hpre.1

/-- Fixed text of a skeleton occurs in every text that fills it. -/
theorem Fills.infix_of_map {s : List (Option Char)} {t part : List Char} (h : Fills s t)
    (hin : part.map some <:+: s) : part <:+: t := by
  induction h with
  | nil =>
    have : part = [] := by simpa using hin
    rw [this]
  | @char c s t h ih =>
    rcases List.infix_cons_iff.1 hin with hpre | hin
    · exact (Fills.prefix_of_map (.char h) hpre).isInfix
    · exact List.infix_cons (ih hin)
  | @gap s t filling h ih =>
    rcases List.infix_cons_iff.1 hin with hpre | hin
    · exact (Fills.prefix_of_map (.gap filling h) hpre).isInfix
    · exact (ih hin).trans (List.suffix_append filling t).isInfix

/-- A piece that fits a segment fills its skeleton. -/
theorem Segment.fills_of_fits {segment : Segment} {piece : List Char} (h : segment.Fits piece) :
    Fills segment.skeleton piece := by
  cases segment with
  | literal text =>
    rw [h.1]
    exact Fills.map_some _
  | any => exact Fills.singleton_gap piece

/-- A piece that fits the last part of a pattern fills its skeleton. -/
theorem LastSegment.fills_of_fits {last : LastSegment} {piece : List Char} (h : last.Fits piece) :
    Fills last.skeleton piece := by
  rcases last with (text | _) | _
  · rw [show piece = text.toList from h]
    exact Fills.map_some _
  · exact Fills.singleton_gap piece
  · exact Fills.singleton_gap piece

/-- Pieces that fit segments fill their skeletons, with a slash after each. -/
theorem fills_leading {pieces : List (List Char)} {segments : List Segment}
    (h : List.Forall₂ Segment.Fits pieces segments) :
    Fills (segments.flatMap fun segment => segment.skeleton ++ [some '/'])
      (pieces.flatMap (· ++ ['/'])) := by
  induction h with
  | nil => exact .nil
  | cons hpiece _ ih =>
    rw [List.flatMap_cons, List.flatMap_cons]
    exact .append (.append (Segment.fills_of_fits hpiece) (Fills.map_some ['/'])) ih

/-- A value that conforms to a pattern fills its skeleton. -/
theorem Reading.Conforms.fills {reading : Reading} {pattern : Pattern}
    (h : reading.Conforms pattern) : Fills pattern.skeleton reading.text := by
  rw [Reading.text_eq]
  exact .append (fills_leading h.leading) (LastSegment.fills_of_fits h.last)

/-- A path that placeholders read fills their skeleton. -/
theorem Reads.fills {placeholders : List Placeholder} {readings : List Reading} {path : List Char}
    (h : Reads placeholders readings path) : Fills (skeleton placeholders) path := by
  induction h with
  | nil => exact .nil
  | cons hconforms _ _ ih => exact .append hconforms.fills (.append (Fills.map_some _) ih)

/-- If a path is read, no text after a rest of the path occurs again in the fixed text. -/
theorem Reads.restUnrepeated {placeholders : List Placeholder} {readings : List Reading}
    {path : List Char} (h : Reads placeholders readings path) : RestUnrepeated placeholders := by
  induction h with
  | nil => trivial
  | @cons p reading placeholders readings rest _ hends hreads ih =>
    refine ⟨fun hkind hne hin => ?_, ih⟩
    have hne : p.following.toList ≠ [] := mt String.toList_eq_nil_iff.1 hne
    rw [hkind] at hends
    simp only [LastSegment.EndsBefore, hne, if_false] at hends
    -- The occurrence in the skeleton is one in the path, after the one where the value ends.
    obtain ⟨c, cs, hfollowing⟩ := List.exists_cons_of_ne_nil hne
    rw [hfollowing] at hin hends
    exact hends.2 (Fills.infix_of_map (.append (Fills.map_some cs) hreads.fills) hin)

/-- No text after a rest of the path is repeated in a template that matches. -/
theorem PathTemplate.WellFormed.restUnrepeated_of_match? {template : PathTemplate} {path : String}
    {captures : Captures} (hw : template.WellFormed)
    (hmatch : template.match? path = some captures) : RestUnrepeated template.placeholders := by
  obtain ⟨_, _, _, hreads, _⟩ := (match?_eq_some_iff hw).1 hmatch
  exact hreads.restUnrepeated

/-! ## One character in each gap -/

/-- A character for the gaps of a variable: it is not a slash, it does not begin the text after the
variable, and it is not in the text after a rest of the path that other variables come after. -/
structure Spare (placeholders : List Placeholder) (p : Placeholder) (c : Char) : Prop where
  ne_slash : c ≠ '/'
  head : p.following.toList.head? ≠ some c
  not_mem : ∀ q ∈ placeholders.dropLast, q.pattern.last = .rest → c ∉ q.following.toList

/-- The piece of a segment with a character in its gap. -/
def Segment.plain (c : Char) : Segment → List Char
  | .literal text => text.toList
  | .any => [c]

/-- The last piece of a value with a character in its gap. -/
def LastSegment.plain (c : Char) : LastSegment → List Char
  | .one segment => segment.plain c
  | .rest => [c]

/-- The value with a character in each gap of the pattern. -/
def Pattern.plain (c : Char) (pattern : Pattern) : Reading :=
  { leading := pattern.leading.map (Segment.plain c), last := pattern.last.plain c }

/-- A segment fits the piece with a character in its gap. -/
theorem Segment.fits_plain {segment : Segment} {c : Char} (hw : segment.WellFormed)
    (hc : c ≠ '/') : segment.Fits (segment.plain c) := by
  cases segment with
  | literal text => exact ⟨rfl, hw⟩
  | any => exact ⟨by simp [plain], by simpa [plain] using hc.symm⟩

/-- The last part of a pattern fits the piece with a character in its gap. -/
theorem LastSegment.fits_plain {last : LastSegment} {c : Char}
    (hw : ∀ segment, last = .one segment → segment.WellFormed) (hc : c ≠ '/') :
    last.Fits (last.plain c) := by
  rcases last with (text | _) | _
  · rfl
  · exact Segment.fits_plain (hw .any rfl) hc
  · exact List.cons_ne_nil _ _

/-- The value with a character in each gap conforms to the pattern. -/
theorem Pattern.conforms_plain {pattern : Pattern} {c : Char} (hw : pattern.WellFormed)
    (hc : c ≠ '/') : (pattern.plain c).Conforms pattern where
  leading := by
    unfold plain
    rw [List.forall₂_map_left_iff, List.forall₂_same]
    exact fun segment hs => Segment.fits_plain (hw.leading segment hs) hc
  last := LastSegment.fits_plain hw.last hc

/-- The piece of a segment is its skeleton with the gap filled. -/
theorem Segment.plain_eq (segment : Segment) (c : Char) :
    segment.plain c = segment.skeleton.map (·.getD c) := by
  cases segment <;> simp [plain, skeleton, Function.comp_def]

/-- The piece of the last part is its skeleton with the gap filled. -/
theorem LastSegment.plain_eq (last : LastSegment) (c : Char) :
    last.plain c = last.skeleton.map (·.getD c) := by
  cases last with
  | one segment => exact segment.plain_eq c
  | rest => rfl

/-- The value is the skeleton of the pattern with the gaps filled. -/
theorem Pattern.text_plain (pattern : Pattern) (c : Char) :
    (pattern.plain c).text = pattern.skeleton.map (·.getD c) := by
  simp only [Reading.text_eq, plain, skeleton, List.map_append, LastSegment.plain_eq,
    List.flatMap_map, List.map_flatMap, Segment.plain_eq, List.map_cons, List.map_nil,
    Option.getD_some]

/-- A text whose characters all come from `part`, and so from no gap, is the fixed text over it. -/
theorem eq_map_some {part : List Char} {s : List (Option Char)} {t : List Char}
    (h : List.Forall₂ (fun o c => o = some c ∨ c ∉ part) s t) (ht : t ⊆ part) :
    s = t.map some := by
  induction h with
  | nil => rfl
  | cons hc _ ih =>
    rw [List.cons_subset] at ht
    rw [hc.resolve_right (not_not.2 ht.1), ih ht.2, List.map_cons]

/-- An occurrence of a text is one in the skeleton, if no character of it fills a gap. -/
theorem infix_map_some {part t : List Char} {s : List (Option Char)}
    (h : List.Forall₂ (fun o c => o = some c ∨ c ∉ part) s t) (hin : part <:+: t) :
    part.map some <:+: s := by
  obtain ⟨before, after, rfl⟩ := hin
  rw [List.append_assoc] at h
  have hdrop := List.forall₂_drop_append _ _ _ h
  have htake := List.forall₂_take_append _ _ _ hdrop
  rw [← eq_map_some htake (List.Subset.refl part)]
  exact (List.take_prefix _ _).isInfix.trans (List.drop_suffix _ _).isInfix

/-- If the gaps are filled with a character that is not in a text, each character is fixed or is not
in that text. -/
theorem forall₂_getD {part : List Char} {c : Char} (hc : c ∉ part) (s : List (Option Char)) :
    List.Forall₂ (fun o d => o = some d ∨ d ∉ part) s (s.map (·.getD c)) := by
  rw [List.forall₂_map_right_iff, List.forall₂_same]
  intro o _
  cases o with
  | none => exact .inr hc
  | some d => exact .inl rfl

/-- The values with one character in each gap. -/
def plainReadings (choice : Placeholder → Char) (placeholders : List Placeholder) :
    List Reading :=
  placeholders.map fun p => p.pattern.plain (choice p)

/-- The path with one character in each gap has no character of `part` in a gap, if none was
chosen. -/
theorem forall₂_skeleton {choice : Placeholder → Char} {part : List Char}
    {placeholders : List Placeholder} (hpart : ∀ p ∈ placeholders, choice p ∉ part) :
    List.Forall₂ (fun o c => o = some c ∨ c ∉ part) (skeleton placeholders)
      (spellReadings placeholders (plainReadings choice placeholders)) := by
  induction placeholders with
  | nil => exact .nil
  | cons p placeholders ih =>
    rw [List.forall_mem_cons] at hpart
    unfold skeleton plainReadings
    rw [List.map_cons, spellReadings_cons, Pattern.text_plain]
    refine List.rel_append (forall₂_getD hpart.1 _) (List.rel_append ?_ (ih hpart.2))
    rw [List.forall₂_map_left_iff, List.forall₂_same]
    exact fun c _ => .inl rfl

/-- A character that is spare among placeholders is spare among those after the first. -/
theorem Spare.of_cons {p q : Placeholder} {placeholders : List Placeholder} {c : Char}
    (h : Spare (p :: placeholders) q c) : Spare placeholders q c where
  ne_slash := h.ne_slash
  head := h.head
  not_mem r hr := by
    cases placeholders with
    | nil => cases hr
    | cons r' placeholders => exact h.not_mem r (List.mem_cons_of_mem _ hr)

/-- The text after a star, with one other character before it, begins only there. -/
theorem starSettled_plain {p : Placeholder} {c : Char} (hc : p.following.toList.head? ≠ some c) :
    p.StarSettled (p.pattern.plain c) := by
  intro hkind hne _ hin
  have hne : p.following.toList ≠ [] := mt String.toList_eq_nil_iff.1 hne
  obtain ⟨d, ds, hfollowing⟩ := List.exists_cons_of_ne_nil hne
  simp only [Pattern.plain, hkind, LastSegment.plain, Segment.plain, List.singleton_append] at hin
  rw [hfollowing] at hin hc
  have heq := hin.eq_of_length (by simp)
  rw [List.dropLast_cons_of_ne_nil (List.cons_ne_nil _ _)] at heq
  exact hc (by rw [(List.cons.inj heq).1, List.head?_cons])

/-- With spare characters in the gaps, the ends of all values are settled. -/
theorem settled_plainReadings {choice : Placeholder → Char} {placeholders : List Placeholder}
    (hspare : ∀ p ∈ placeholders, Spare placeholders p (choice p))
    (hun : RestUnrepeated placeholders) :
    Settled placeholders (plainReadings choice placeholders) := by
  induction placeholders with
  | nil => trivial
  | cons p placeholders ih =>
    refine ⟨starSettled_plain (hspare p (by simp)).head, fun hkind hne hin => ?_,
      ih (fun q hq => (hspare q (List.mem_cons_of_mem _ hq)).of_cons) hun.2⟩
    have hne' : p.following.toList ≠ [] := mt String.toList_eq_nil_iff.1 hne
    have hgaps : ∀ q ∈ placeholders, choice q ∉ p.following.toList := by
      intro q hq
      refine (hspare q (List.mem_cons_of_mem _ hq)).not_mem p ?_ hkind
      rw [List.dropLast_cons_of_ne_nil (List.ne_nil_of_mem hq)]
      exact List.mem_cons_self ..
    obtain ⟨c, cs, hfollowing⟩ := List.exists_cons_of_ne_nil hne'
    apply hun.1 hkind hne
    rw [hfollowing] at hin hgaps ⊢
    refine infix_map_some (List.rel_append ?_ (forall₂_skeleton hgaps)) hin
    rw [List.forall₂_map_left_iff, List.forall₂_same]
    exact fun c _ => .inl rfl

/-- The rest of a path is taken by the last variable only, or some character other than the slash is
in no text after a variable. -/
def PathTemplate.HasSpare (template : PathTemplate) : Prop :=
  (∀ p ∈ template.placeholders.dropLast, p.pattern.last ≠ .rest) ∨
    ∃ c, c ≠ '/' ∧ ∀ p ∈ template.placeholders, c ∉ p.following.toList

/-- Each variable of a template with spare characters has one. -/
theorem PathTemplate.HasSpare.exists_spare {template : PathTemplate} (h : template.HasSpare) :
    ∀ p ∈ template.placeholders, ∃ c, Spare template.placeholders p c := by
  intro p hp
  rcases h with hrest | ⟨c, hc, hfollowing⟩
  · -- One of two characters does not begin the text after the variable.
    by_cases ha : p.following.toList.head? = some 'a'
    · exact ⟨'b', by decide, by simp [ha], fun q hq hkind => absurd hkind (hrest q hq)⟩
    · exact ⟨'a', by decide, ha, fun q hq hkind => absurd hkind (hrest q hq)⟩
  · exact ⟨c, hc, fun hhead => hfollowing p hp (List.mem_of_mem_head? hhead),
      fun q hq _ => hfollowing q (List.mem_of_mem_dropLast hq)⟩

/-- **When a template matches some path.** No text after a rest of the path is repeated in a
template that matches; and such a template matches some path, if the text after a star begins with a
slash or has none and the variables have spare characters. -/
theorem PathTemplate.exists_match_restUnrepeated {text : String} {template : PathTemplate}
    (hparse : PathTemplate.parse text = .ok template) :
    ((∃ path, (template.match? path).isSome) → RestUnrepeated template.placeholders) ∧
    ((∀ p ∈ template.placeholders, p.StaysInSegment) → template.HasSpare →
      RestUnrepeated template.placeholders → ∃ path, (template.match? path).isSome) := by
  have hw := wellFormed_of_parse hparse
  constructor
  · rintro ⟨path, hsome⟩
    obtain ⟨captures, hmatch⟩ := Option.isSome_iff_exists.1 hsome
    exact hw.restUnrepeated_of_match? hmatch
  · intro hstays hspare hun
    choose! choice hchoice using hspare.exists_spare
    have hconforms : List.Forall₂ (fun reading p => reading.Conforms p.pattern)
        (plainReadings choice template.placeholders) template.placeholders := by
      unfold plainReadings
      rw [List.forall₂_map_left_iff, List.forall₂_same]
      exact fun p hp => Pattern.conforms_plain (hw.patterns p hp) (hchoice p hp).ne_slash
    have hmatch := match?_instantiate hw hstays hconforms (settled_plainReadings hchoice hun)
    exact ⟨_, Option.isSome_iff_exists.2 ⟨_, hmatch⟩⟩

/-- `/{a=**}/x/{b}:y` matches some path. -/
theorem PathTemplate.exists_match_verb_after_rest :
    ∃ template, PathTemplate.parse "/\x7ba=**\x7d/x/\x7bb\x7d:y" = .ok template ∧
      ∃ path, (template.match? path).isSome := by
  have hparse : PathTemplate.parse "/\x7ba=**\x7d/x/\x7bb\x7d:y" =
      .ok { lead := "/"
            placeholders :=
              [{ name := "a", pattern := { leading := [], last := .rest }, following := "/x/" },
               { name := "b", pattern := .any, following := ":y" }] } := by
    decide +kernel
  exact ⟨_, hparse,
    (exists_match_restUnrepeated hparse).2 (by decide) (.inr ⟨'1', by decide⟩) (by decide)⟩

/-- `/{a=**}/{b}/c` is accepted and matches no path: the slash after the first variable occurs again
before the `c`. -/
theorem PathTemplate.match?_repeated_slash :
    ∃ template, PathTemplate.parse "/\x7ba=**\x7d/\x7bb\x7d/c" = .ok template ∧
      ∀ path, template.match? path = none := by
  have hparse : PathTemplate.parse "/\x7ba=**\x7d/\x7bb\x7d/c" =
      .ok { lead := "/"
            placeholders :=
              [{ name := "a", pattern := { leading := [], last := .rest }, following := "/" },
               { name := "b", pattern := .any, following := "/c" }] } := by
    decide +kernel
  refine ⟨_, hparse, fun path => Option.eq_none_iff_forall_ne_some.2 fun captures hmatch => ?_⟩
  have hun := (wellFormed_of_parse hparse).restUnrepeated_of_match? hmatch
  exact absurd hun (by decide)

end Transcoding
