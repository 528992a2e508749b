import Transcoding.Proofs.Template.Reading

/-!
# Matching and instantiation

A template spells a path once its variables have values (`PathTemplate.instantiate`). Matching is
the inverse of that, in both directions:

* `PathTemplate.match?_sound`: a match names the variables in order, its values conform to their
  patterns, and they spell the path;
* `PathTemplate.match?_complete`: conforming values are found again in the path they spell, if the
  text after each variable settles where its value ends. The matcher never goes back, so this is
  needed: a star stops at the first occurrence of the following text (`StarSettled`), and the rest
  of a path goes up to the last one (`RestSettled`).

Where every variable is followed by a slash or by nothing, the ends are always settled, and matching
decides whether a path is an instance.
-/

namespace Transcoding

open Transcoding.Text

/-! ## Instances -/

/-- The text of template parts whose variables have these values, from left to right. -/
def TemplatePart.spell : List TemplatePart → List String → List Char
  | [], _ => []
  | .literal text :: parts, values => text.toList ++ spell parts values
  | .capture _ _ :: parts, [] => spell parts []
  | .capture _ _ :: parts, value :: values => value.toList ++ spell parts values

/-- The path that a template spells with these values for its variables, from left to right. -/
def PathTemplate.instantiate (template : PathTemplate) (values : List String) : String :=
  String.ofList (TemplatePart.spell template.parts values)

/-- Each value conforms to the pattern of its variable. -/
def PathTemplate.Conforms (template : PathTemplate) (values : List String) : Prop :=
  List.Forall₂ (fun value p => p.pattern.Conforms value) values template.placeholders

/-- The text of placeholders whose variables are read so. -/
def spellReadings (placeholders : List Placeholder) (readings : List Reading) : List Char :=
  TemplatePart.spell (placeholders.flatMap Placeholder.parts) (readings.map Reading.value)

/-- Text before parts is spelled as it is, and it takes no value. -/
@[simp] theorem TemplatePart.spell_ofText_append (text : String) (parts : List TemplatePart)
    (values : List String) :
    spell (ofText text ++ parts) values = text.toList ++ spell parts values := by
  unfold ofText
  split
  · next h => simp [h]
  · rfl

@[simp] theorem Reading.toList_value (reading : Reading) : reading.value.toList = reading.text :=
  String.toList_ofList

@[simp] theorem spellReadings_nil (readings : List Reading) : spellReadings [] readings = [] := rfl

@[simp] theorem spellReadings_cons (p : Placeholder) (placeholders : List Placeholder)
    (reading : Reading) (readings : List Reading) :
    spellReadings (p :: placeholders) (reading :: readings) =
      reading.text ++ (p.following.toList ++ spellReadings placeholders readings) := by
  simp [spellReadings, Placeholder.parts, TemplatePart.spell]

/-- A template spells its lead and the values of its variables with the texts after them. -/
theorem PathTemplate.toList_instantiate (template : PathTemplate) (readings : List Reading) :
    (template.instantiate (readings.map Reading.value)).toList =
      template.lead.toList ++ spellReadings template.placeholders readings := by
  rw [instantiate, String.toList_ofList]
  exact TemplatePart.spell_ofText_append ..

/-- The matcher finds the values as which the placeholders read the path after the leading text. -/
theorem PathTemplate.match?_eq_some_iff {template : PathTemplate} {path : String}
    {captures : Captures} (hw : template.WellFormed) :
    template.match? path = some captures ↔
      ∃ readings rest, path.toList = template.lead.toList ++ rest ∧
        Reads template.placeholders readings rest ∧
        captures = template.variableNames.zip (readings.map Reading.value) := by
  simp only [match?, Option.bind_eq_bind, Option.bind_eq_some_iff,
    List.isPrefixOf?_eq_some_iff_append_eq, matchPlaceholders_eq_some_iff hw.patterns]
  constructor
  · rintro ⟨rest, hpath, readings, hreads, hcaptures⟩
    exact ⟨readings, rest, hpath.symm, hreads, hcaptures⟩
  · rintro ⟨readings, rest, hpath, hreads, hcaptures⟩
    exact ⟨rest, hpath.symm, readings, hreads, hcaptures⟩

/-! ## A match is an instance -/

/-- The values that placeholders read conform to their patterns. -/
theorem Reads.conforms {placeholders : List Placeholder} {readings : List Reading}
    {path : List Char} (h : Reads placeholders readings path) :
    List.Forall₂ (fun reading p => reading.Conforms p.pattern) readings placeholders := by
  induction h with
  | nil => exact .nil
  | cons hconforms _ _ ih => exact .cons hconforms ih

/-- The captures of a match have the names of the variables, in order. -/
theorem PathTemplate.names_of_match? {template : PathTemplate} {path : String} {captures : Captures}
    (hw : template.WellFormed) (h : template.match? path = some captures) :
    captures.map (·.1) = template.variableNames := by
  obtain ⟨readings, _, -, hreads, rfl⟩ := (match?_eq_some_iff hw).1 h
  exact List.map_fst_zip (by simp [variableNames, hreads.conforms.length_eq])

/-- The values that placeholders read spell the path. -/
theorem Reads.spell {placeholders : List Placeholder} {readings : List Reading} {path : List Char}
    (h : Reads placeholders readings path) : spellReadings placeholders readings = path := by
  induction h with
  | nil => rfl
  | cons _ _ _ ih => rw [spellReadings_cons, ih]

/-- Conforming readings spell conforming values, and every list of conforming values is spelled
so. -/
theorem PathTemplate.conforms_iff {template : PathTemplate} {values : List String} :
    template.Conforms values ↔
      ∃ readings : List Reading, values = readings.map Reading.value ∧
        List.Forall₂ (fun reading p => reading.Conforms p.pattern) readings
          template.placeholders := by
  unfold PathTemplate.Conforms
  induction template.placeholders generalizing values with
  | nil =>
    simp only [List.forall₂_nil_right_iff]
    constructor
    · rintro rfl
      exact ⟨[], rfl, rfl⟩
    · rintro ⟨_, rfl, rfl⟩
      rfl
  | cons p placeholders ih =>
    constructor
    · intro h
      obtain ⟨value, rest, ⟨reading, hreading, htext⟩, hrest, rfl⟩ :=
        List.forall₂_cons_right_iff.1 h
      obtain ⟨readings, rfl, hreadings⟩ := ih.1 hrest
      refine ⟨reading :: readings, ?_, .cons hreading hreadings⟩
      simp [Reading.value, htext]
    · rintro ⟨_, rfl, h⟩
      obtain ⟨reading, readings, hreading, hreadings, rfl⟩ := List.forall₂_cons_right_iff.1 h
      exact .cons ⟨reading, hreading, by simp⟩ (ih.2 ⟨readings, rfl, hreadings⟩)

/-- The template `/v1/{name=projects/*}-{path=files/**}.zip`. -/
def PathTemplate.archive : PathTemplate where
  lead := "/v1/"
  placeholders :=
    [{ name := "name"
       pattern := { leading := [.literal "projects"], last := .one .any }
       following := "-" },
     { name := "path", pattern := { leading := [.literal "files"], last := .rest }
       following := ".zip" }]

/-- **A match is an instance.** Its names are the variables of the template in order, its values
spell the path, and each value conforms to the pattern of its variable. -/
theorem PathTemplate.match?_sound {text : String} {template : PathTemplate} {path : String}
    {captures : Captures} (hparse : PathTemplate.parse text = .ok template)
    (hmatch : template.match? path = some captures) :
    captures.map (·.1) = template.variableNames ∧
      template.instantiate (captures.map (·.2)) = path ∧
      template.Conforms (captures.map (·.2)) := by
  obtain ⟨readings, rest, hpath, hreads, rfl⟩ :=
    (match?_eq_some_iff (wellFormed_of_parse hparse)).1 hmatch
  have hlength : readings.length = template.placeholders.length := hreads.conforms.length_eq
  have hnames : (template.variableNames.zip (readings.map Reading.value)).map (·.1) =
      template.variableNames :=
    List.map_fst_zip (by simp [variableNames, hlength])
  have hvalues : (template.variableNames.zip (readings.map Reading.value)).map (·.2) =
      readings.map Reading.value :=
    List.map_snd_zip (by simp [variableNames, hlength])
  refine ⟨hnames, ?_, ?_⟩
  · rw [hvalues, ← String.toList_inj, toList_instantiate, hreads.spell, hpath]
  · rw [hvalues]
    exact conforms_iff.2 ⟨readings, rfl, hreads.conforms⟩

/-- `/v1/{name=projects/*}-{path=files/**}.zip` matches a path with an inner `.zip`. -/
theorem PathTemplate.match?_sound_archive :
    ∃ template captures,
      PathTemplate.parse "/v1/\x7bname=projects/*\x7d-\x7bpath=files/**\x7d.zip" = .ok template ∧
      template.match? "/v1/projects/p1-files/a.zip/b.zip" = some captures ∧
      captures = [("name", "projects/p1"), ("path", "files/a.zip/b")] ∧
      captures.map (·.1) = template.variableNames ∧
      template.instantiate (captures.map (·.2)) = "/v1/projects/p1-files/a.zip/b.zip" ∧
      template.Conforms (captures.map (·.2)) := by
  have hparse : PathTemplate.parse "/v1/\x7bname=projects/*\x7d-\x7bpath=files/**\x7d.zip" =
      .ok archive := by
    decide +kernel
  have hmatch : archive.match? "/v1/projects/p1-files/a.zip/b.zip" =
      some [("name", "projects/p1"), ("path", "files/a.zip/b")] := by
    decide +kernel
  exact ⟨_, _, hparse, hmatch, rfl, match?_sound hparse hmatch⟩

/-! ## An instance is matched -/

/-- The text after a variable that ends in a star begins with a slash or has none. -/
def Placeholder.StaysInSegment (p : Placeholder) : Prop :=
  p.pattern.last = .one .any → p.following.toList.head? = some '/' ∨ '/' ∉ p.following.toList

/-- Whether a variable stays in its segment can be decided. -/
instance (p : Placeholder) : Decidable p.StaysInSegment :=
  inferInstanceAs (Decidable (p.pattern.last = .one .any →
    p.following.toList.head? = some '/' ∨ '/' ∉ p.following.toList))

/-- The text after a variable that ends in a star, unless it begins with a slash, occurs in the last
segment of the value and itself only at the end. -/
def Placeholder.StarSettled (p : Placeholder) (reading : Reading) : Prop :=
  p.pattern.last = .one .any → p.following ≠ "" → p.following.toList.head? ≠ some '/' →
    ¬ p.following.toList <:+: (reading.last ++ p.following.toList).dropLast

/-- The text after a variable that takes the rest of the path does not occur again after the place
where it begins. The path goes on with `later` after that text. -/
def Placeholder.RestSettled (p : Placeholder) (later : List Char) : Prop :=
  p.pattern.last = .rest → p.following ≠ "" →
    ¬ p.following.toList <:+: (p.following.toList ++ later).tail

/-- The end of every value is settled by the text after it. -/
def Settled : List Placeholder → List Reading → Prop
  | p :: placeholders, reading :: readings =>
    p.StarSettled reading ∧ p.RestSettled (spellReadings placeholders readings) ∧
      Settled placeholders readings
  | _, _ => True

/-- A value that conforms ends where the matcher looks for its end, if that end is settled. -/
theorem Placeholder.endsBefore {p : Placeholder} {reading : Reading} {later : List Char}
    (hconforms : reading.Conforms p.pattern) (hstays : p.StaysInSegment)
    (hstar : p.StarSettled reading) (hrest : p.RestSettled later)
    (hlast : p.following = "" → later = []) :
    p.pattern.last.EndsBefore p.following.toList reading.last (p.following.toList ++ later) := by
  have hfits := hconforms.last
  have hempty : p.following.toList = [] ↔ p.following = "" := String.toList_eq_nil_iff
  rcases hkind : p.pattern.last with (text | _) | _ <;> rw [hkind] at hfits
  · exact hfits
  · refine ⟨hfits.2, ?_⟩
    split
    · next hnext =>
      rcases hnext with hnext | hnext
      · exact .inl (by simp [hnext, hlast (hempty.1 hnext)])
      · exact .inr (by simp [List.head?_append, hnext])
    · next hnext =>
      rw [not_or, hempty] at hnext
      exact ⟨List.prefix_append _ _, (hstays hkind).resolve_left hnext.2,
        hstar hkind hnext.1 hnext.2⟩
  · simp only [LastSegment.EndsBefore]
    split
    · next hnext => simp [hnext, hlast (hempty.1 hnext)]
    · next hnext => exact ⟨List.prefix_append _ _, hrest hkind (mt hempty.2 hnext)⟩

/-- Placeholders read the path that conforming values spell as these values, if their ends are
settled. -/
theorem reads_spellReadings {placeholders : List Placeholder} {readings : List Reading}
    (hseparated : placeholders.IsChain fun p _ => p.following ≠ "")
    (hstays : ∀ p ∈ placeholders, p.StaysInSegment)
    (hconforms : List.Forall₂ (fun reading p => reading.Conforms p.pattern) readings placeholders)
    (hsettled : Settled placeholders readings) :
    Reads placeholders readings (spellReadings placeholders readings) := by
  induction hconforms with
  | nil => exact .nil
  | @cons reading p readings placeholders hreading _ ih =>
    obtain ⟨hstar, hrest, hsettled⟩ := hsettled
    rw [spellReadings_cons]
    refine .cons hreading (Placeholder.endsBefore hreading (hstays p (by simp)) hstar hrest ?_)
      (ih hseparated.of_cons (fun q hq => hstays q (List.mem_cons_of_mem _ hq)) hsettled)
    intro hempty
    cases placeholders with
    | nil => rfl
    | cons q placeholders => exact absurd hempty (List.isChain_cons_cons.1 hseparated).1

/-- Every variable is followed by a slash or ends the template, and the rest of a path is only taken
at the end. -/
structure PathTemplate.SegmentWise (template : PathTemplate) : Prop where
  slash : ∀ p ∈ template.placeholders,
    p.following = "" ∨ p.following.toList.head? = some '/'
  rest : ∀ p ∈ template.placeholders, p.pattern.last = .rest → p.following = ""

/-- In such a template the end of every value is settled. -/
theorem settled_of_slash {placeholders : List Placeholder} (readings : List Reading)
    (hslash : ∀ p ∈ placeholders, p.following = "" ∨ p.following.toList.head? = some '/')
    (hrest : ∀ p ∈ placeholders, p.pattern.last = .rest → p.following = "") :
    Settled placeholders readings := by
  induction placeholders generalizing readings with
  | nil => cases readings <;> trivial
  | cons p placeholders ih =>
    cases readings with
    | nil => trivial
    | cons reading readings =>
      refine ⟨fun _ hne hhead => ?_, fun hkind hne => absurd (hrest p (by simp) hkind) hne,
        ih readings (fun q hq => hslash q (List.mem_cons_of_mem _ hq))
          fun q hq => hrest q (List.mem_cons_of_mem _ hq)⟩
      rcases hslash p (by simp) with h | h
      · exact absurd h hne
      · exact absurd h hhead

/-- The variables of a template that goes by segments stay in their segments. -/
theorem PathTemplate.SegmentWise.staysInSegment {template : PathTemplate}
    (h : template.SegmentWise) : ∀ p ∈ template.placeholders, p.StaysInSegment := by
  intro p hp _
  rcases h.slash p hp with hempty | hslash
  · exact .inr (by simp [hempty])
  · exact .inl hslash

/-- Conforming values whose ends are settled are found again in the path that they spell. -/
theorem PathTemplate.match?_instantiate {template : PathTemplate} {readings : List Reading}
    (hw : template.WellFormed) (hstays : ∀ p ∈ template.placeholders, p.StaysInSegment)
    (hconforms : List.Forall₂ (fun reading p => reading.Conforms p.pattern) readings
      template.placeholders)
    (hsettled : Settled template.placeholders readings) :
    template.match? (template.instantiate (readings.map Reading.value)) =
      some (template.variableNames.zip (readings.map Reading.value)) :=
  (match?_eq_some_iff hw).2 ⟨readings, _, template.toList_instantiate readings,
    reads_spellReadings hw.separated hstays hconforms hsettled, rfl⟩

/-- **Conforming values are found again.** If the text after a star begins with a slash or has none,
the path that conforming values spell is matched with exactly these values, as far as their ends
are settled. Where variables end at slashes, a path is matched just if it is an instance, and it is
an instance in one way. -/
theorem PathTemplate.match?_complete {text : String} {template : PathTemplate}
    (hparse : PathTemplate.parse text = .ok template) :
    ((∀ p ∈ template.placeholders, p.StaysInSegment) → ∀ readings : List Reading,
      List.Forall₂ (fun reading p => reading.Conforms p.pattern) readings template.placeholders →
      Settled template.placeholders readings →
      template.match? (template.instantiate (readings.map Reading.value)) =
        some (template.variableNames.zip (readings.map Reading.value))) ∧
    (template.SegmentWise → ∀ path : String,
      ((template.match? path).isSome ↔
        ∃ values, template.Conforms values ∧ template.instantiate values = path) ∧
      ∀ values values', template.Conforms values → template.instantiate values = path →
        template.Conforms values' → template.instantiate values' = path → values = values') := by
  have hw := wellFormed_of_parse hparse
  refine ⟨fun hstays readings => match?_instantiate hw hstays, fun hwise path => ?_⟩
  -- An instance is matched with its own values, so these are determined by the path.
  have hfound : ∀ values, template.Conforms values → template.instantiate values = path →
      template.match? path = some (template.variableNames.zip values) := by
    rintro values hvalues rfl
    obtain ⟨readings, rfl, hreadings⟩ := conforms_iff.1 hvalues
    exact match?_instantiate hw hwise.staysInSegment hreadings
      (settled_of_slash readings hwise.slash hwise.rest)
  have hlength : ∀ values, template.Conforms values →
      values.length = template.variableNames.length := fun values hvalues => by
    simpa [variableNames] using List.Forall₂.length_eq hvalues
  refine ⟨⟨fun hsome => ?_, ?_⟩, fun values values' h₁ hi₁ h₂ hi₂ => ?_⟩
  · obtain ⟨captures, hmatch⟩ := Option.isSome_iff_exists.1 hsome
    obtain ⟨readings, rest, hpath, hreads, -⟩ := (match?_eq_some_iff hw).1 hmatch
    refine ⟨readings.map Reading.value, conforms_iff.2 ⟨readings, rfl, hreads.conforms⟩, ?_⟩
    rw [← String.toList_inj, toList_instantiate, hreads.spell, hpath]
  · rintro ⟨values, hvalues, hpath⟩
    rw [hfound values hvalues hpath]
    rfl
  · have hzip := (hfound values h₁ hi₁).symm.trans (hfound values' h₂ hi₂)
    have hsnd := congrArg (List.map (·.2)) (Option.some.inj hzip)
    rwa [List.map_snd_zip (hlength values h₁).le, List.map_snd_zip (hlength values' h₂).le] at hsnd

/-- The values `projects/p1` and `files/a.zip/b` are found again, and a path under
`/v1/{name=projects/*}/{path=**}` is an instance. -/
theorem PathTemplate.match?_complete_archive :
    archive.match? (archive.instantiate ["projects/p1", "files/a.zip/b"]) =
        some [("name", "projects/p1"), ("path", "files/a.zip/b")] ∧
      ∃ template, PathTemplate.parse "/v1/\x7bname=projects/*\x7d/\x7bpath=**\x7d" = .ok template ∧
        ∃ values, template.Conforms values ∧
          template.instantiate values = "/v1/projects/p1/a/b" := by
  constructor
  · have hparse : PathTemplate.parse "/v1/\x7bname=projects/*\x7d-\x7bpath=files/**\x7d.zip" =
        .ok archive := by
      decide +kernel
    let readings : List Reading :=
      [⟨["projects".toList], "p1".toList⟩, ⟨["files".toList], "a.zip/b".toList⟩]
    have hconforms : List.Forall₂ (fun reading p => reading.Conforms p.pattern) readings
        archive.placeholders :=
      .cons ⟨by decide, by decide⟩ (.cons ⟨by decide, by decide⟩ .nil)
    have hsettled : Settled archive.placeholders readings := by
      refine ⟨fun _ _ _ => by decide, fun h => ?_, fun h => ?_, fun _ _ => by decide, trivial⟩ <;>
        cases h
    have hvalues : readings.map Reading.value = ["projects/p1", "files/a.zip/b"] := by
      decide +kernel
    have hmatch := (match?_complete hparse).1 (by decide) readings hconforms hsettled
    rwa [hvalues] at hmatch
  · have hparse : PathTemplate.parse "/v1/\x7bname=projects/*\x7d/\x7bpath=**\x7d" =
        .ok { lead := "/v1/"
              placeholders :=
                [{ name := "name"
                   pattern := { leading := [.literal "projects"], last := .one .any }
                   following := "/" },
                 { name := "path", pattern := { leading := [], last := .rest }
                   following := "" }] } := by
      decide +kernel
    refine ⟨_, hparse, (((match?_complete hparse).2 ⟨by decide, by decide⟩ _).1).1 ?_⟩
    decide +kernel

end Transcoding
