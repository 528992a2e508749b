import Transcoding.Proofs.Result
import Transcoding.Proofs.Template.Writing
import Mathlib.Data.List.Chain

/-!
# The grammar of templates

A template is written as text with placeholders in braces (`WrittenTemplate`). Reading it takes
three steps, and each is described by what it returns: the text is cut at its braces
(`Layout.outside_of_braced`, `Layout.braced_of_fault_eq_none`), the text inside of each pair is read
as a variable (`readVariable_eq_ok_iff`), and the variables are checked against each other
(`readBlocks_eq_ok_iff`). Together, reading accepts exactly the templates that are written by the
rules of `WrittenTemplate.Valid`, and returns what was written (`PathTemplate.parse_eq_ok_iff`).

What was read can be written again (`PathTemplate.Writable`), and reading that gives the same
template (`PathTemplate.parse_write`).
-/

namespace Transcoding

open Transcoding.Text

/-! ## Braces -/

/-- A text outside of braces. -/
def NoBrace (text : List Char) : Prop := '\x7b' ∉ text ∧ '\x7d' ∉ text

/-- A text with blocks in braces. A block is the text inside of a pair of braces and the text after
it. -/
def braced (lead : List Char) (blocks : List (List Char × List Char)) : List Char :=
  lead ++ blocks.flatMap fun block => '\x7b' :: block.1 ++ '\x7d' :: block.2

@[simp] theorem braced_nil (lead : List Char) : braced lead [] = lead := List.append_nil lead

@[simp] theorem braced_cons (lead : List Char) (block : List Char × List Char)
    (blocks : List (List Char × List Char)) :
    braced lead (block :: blocks) =
      lead ++ '\x7b' :: (block.1 ++ '\x7d' :: braced block.2 blocks) := by
  simp [braced]

/-- The pieces of a text that is cut at its braces. A brace that is opened inside of a block is
text. -/
structure Braced (text lead : List Char) (blocks : List (List Char × List Char)) : Prop where
  text : braced lead blocks = text
  lead : NoBrace lead
  inner : ∀ block ∈ blocks, '\x7d' ∉ block.1
  after : ∀ block ∈ blocks, NoBrace block.2

/-- A character that is not a brace belongs to the lead. -/
theorem Braced.cons {c : Char} {text lead : List Char} {blocks : List (List Char × List Char)}
    (h : Braced text lead blocks) (hopen : c ≠ '\x7b') (hclose : c ≠ '\x7d') :
    Braced (c :: text) (c :: lead) blocks where
  text := congrArg (c :: ·) h.text
  lead := ⟨by simp [hopen.symm, h.lead.1], by simp [hclose.symm, h.lead.2]⟩
  inner := h.inner
  after := h.after

/-- A pair of braces makes a block of what is between them and what comes after. -/
theorem Braced.block {inner text lead : List Char} {blocks : List (List Char × List Char)}
    (h : Braced text lead blocks) (hinner : '\x7d' ∉ inner) :
    Braced ('\x7b' :: (inner ++ '\x7d' :: text)) [] ((inner, lead) :: blocks) where
  text := by simp [h.text]
  lead := by simp [NoBrace]
  inner := List.forall_mem_cons.2 ⟨hinner, h.inner⟩
  after := List.forall_mem_cons.2 ⟨h.lead, h.after⟩

/-- A text without a fault is cut at its braces. -/
theorem Layout.braced_of_fault_eq_none (text : List Char) :
    ((outside text).fault = none → Braced text (outside text).lead (outside text).blocks) ∧
      ∀ inner after, inside text = some (inner, after) → after.fault = none →
        ∃ rest, text = inner ++ '\x7d' :: rest ∧ '\x7d' ∉ inner ∧
          Braced rest after.lead after.blocks := by
  induction text with
  | nil => exact ⟨fun _ => ⟨rfl, by simp [NoBrace, outside], nofun, nofun⟩, nofun⟩
  | cons c cs ih =>
    constructor
    · intro h
      by_cases hclose : c = '\x7d'
      · simp [outside, hclose] at h
      by_cases hopen : c = '\x7b'
      · subst hopen
        cases hinside : inside cs with
        | none => simp [outside, hinside] at h
        | some found =>
          simp only [outside, hclose, hinside, if_false, if_true] at h ⊢
          obtain ⟨rest, rfl, hinner, hrest⟩ := ih.2 _ _ hinside h
          exact hrest.block hinner
      · simp only [outside, hclose, hopen, if_false] at h ⊢
        exact (ih.1 h).cons hopen hclose
    · intro inner after h hfault
      by_cases hclose : c = '\x7d'
      · simp only [inside, hclose, if_true, Option.some.injEq, Prod.mk.injEq] at h
        obtain ⟨rfl, rfl⟩ := h
        exact ⟨cs, by simp [hclose], by simp, ih.1 hfault⟩
      · simp only [inside, hclose, if_false, Option.map_eq_some_iff] at h
        obtain ⟨⟨inner, after⟩, hinside, hpair⟩ := h
        cases hpair
        obtain ⟨rest, rfl, hinner, hrest⟩ := ih.2 _ _ hinside hfault
        exact ⟨rest, rfl, by simp [Ne.symm hclose, hinner], hrest⟩

/-- A block is read up to its closing brace. -/
theorem Layout.inside_append {inner rest : List Char} (h : '\x7d' ∉ inner) :
    inside (inner ++ '\x7d' :: rest) = some (inner, outside rest) := by
  induction inner with
  | nil => simp [inside]
  | cons c inner ih =>
    rw [List.mem_cons, not_or] at h
    simp [inside, Ne.symm h.1, ih h.2]

/-- A text without braces is read as a part of the lead. -/
theorem Layout.outside_append {lead rest : List Char} (h : NoBrace lead) :
    outside (lead ++ rest) = { outside rest with lead := lead ++ (outside rest).lead } := by
  induction lead with
  | nil => rfl
  | cons c lead ih =>
    simp only [NoBrace, List.mem_cons, not_or] at h
    rw [List.cons_append, outside, if_neg (Ne.symm h.2.1), if_neg (Ne.symm h.1.1),
      ih ⟨h.1.2, h.2.2⟩]
    rfl

/-- A text is laid out as the pieces between its braces. -/
theorem Layout.outside_of_braced {text lead : List Char} {blocks : List (List Char × List Char)}
    (h : Braced text lead blocks) : outside text = { lead, blocks, fault := none } := by
  obtain ⟨rfl, hlead, hinner, hafter⟩ := h
  induction blocks generalizing lead with
  | nil =>
    rw [braced_nil, ← List.append_nil lead, outside_append hlead]
    simp [outside]
  | cons block blocks ih =>
    rw [List.forall_mem_cons] at hinner hafter
    have hrest := ih hafter.1 hinner.2 hafter.2
    rw [braced_cons, outside_append hlead]
    simp [outside, inside_append hinner.1, hrest]

/-! ## Placeholders -/

/-- A placeholder as it is written, and what it means. -/
structure Slot where
  /-- The text between the braces. -/
  inner : List Char
  name : String
  pattern : Pattern
  /-- The text after the closing brace. -/
  after : List Char

/-- The text of the placeholder inside of the braces and after them. -/
def Slot.block (slot : Slot) : List Char × List Char := (slot.inner, slot.after)

/-- The meaning of the placeholder. -/
def Slot.placeholder (slot : Slot) : Placeholder :=
  { name := slot.name, pattern := slot.pattern, following := String.ofList slot.after }

/-- What the reader of blocks does with a block. -/
theorem readBlocks_cons_eq_ok_iff {template : String} {seen : List String}
    {previous : Option String} {inner after : List Char} {blocks : List (List Char × List Char)}
    {placeholders : List Placeholder} :
    readBlocks template seen previous ((inner, after) :: blocks) = .ok placeholders ↔
      previous = none ∧ ∃ name pattern rest, Denotes inner name pattern ∧ name ∉ seen ∧
        readBlocks template (name :: seen) (if after.isEmpty then some name else none) blocks =
          .ok rest ∧
        placeholders = { name, pattern, following := String.ofList after } :: rest := by
  constructor
  · intro h
    unfold readBlocks at h
    obtain ⟨⟨name, pattern⟩, hread, h⟩ := bind_eq_ok_iff.1 h
    cases previous with
    | some first => cases h
    | none =>
      simp only at h
      split at h
      · cases h
      · next hseen =>
        obtain ⟨rest, hrest, h⟩ := bind_eq_ok_iff.1 h
        cases h
        exact ⟨rfl, name, pattern, rest, readVariable_eq_ok_iff.1 hread, by simpa using hseen,
          hrest, rfl⟩
  · rintro ⟨rfl, name, pattern, rest, hdenotes, hseen, hrest, rfl⟩
    have hread : readVariable template inner = .ok (name, pattern) :=
      readVariable_eq_ok_iff.2 hdenotes
    simp only [readBlocks, hread, hseen, hrest, bind, Except.bind, pure, Except.pure,
      List.contains_iff_mem, if_false]

/-- Placeholders that can be read one after the other, given the names before them. `previous` is
the name of the placeholder that ends right before the first one, if there is one. -/
structure Legible (seen : List String) (previous : Option String)
    (slots : List Slot) : Prop where
  denotes : ∀ v ∈ slots, Denotes v.inner v.name v.pattern
  separated : slots.IsChain fun v _ => v.after ≠ []
  distinct : (slots.map (·.name)).Nodup
  fresh : ∀ v ∈ slots, v.name ∉ seen
  first : previous = none ∨ slots = []

/-- Placeholders are legible if the first one is and those after it are. -/
theorem legible_cons_iff {seen : List String} {previous : Option String} {v : Slot}
    {slots : List Slot} :
    Legible seen previous (v :: slots) ↔
      previous = none ∧ Denotes v.inner v.name v.pattern ∧ v.name ∉ seen ∧
        Legible (v.name :: seen) (if v.after.isEmpty then some v.name else none) slots := by
  constructor
  · rintro ⟨hdenotes, hseparated, hdistinct, hfresh, hfirst⟩
    rw [List.forall_mem_cons] at hdenotes hfresh
    rw [List.map_cons, List.nodup_cons] at hdistinct
    refine ⟨hfirst.resolve_right nofun, hdenotes.1, hfresh.1, hdenotes.2, hseparated.of_cons,
      hdistinct.2, fun w hw => ?_, ?_⟩
    · refine List.not_mem_cons_of_ne_of_not_mem (fun heq => hdistinct.1 ?_) (hfresh.2 w hw)
      exact List.mem_map.2 ⟨w, hw, heq⟩
    · cases slots with
      | nil => exact .inr rfl
      | cons w slots =>
        have hne := (List.isChain_cons_cons.1 hseparated).1
        exact .inl (by simp [hne])
  · rintro ⟨rfl, hv, hseen, hdenotes, hseparated, hdistinct, hfresh, hfirst⟩
    refine ⟨List.forall_mem_cons.2 ⟨hv, hdenotes⟩, ?_, ?_, ?_, .inl rfl⟩
    · cases slots with
      | nil => exact .singleton _
      | cons w slots =>
        refine List.isChain_cons_cons.2 ⟨fun hempty => ?_, hseparated⟩
        simp [hempty] at hfirst
    · refine List.nodup_cons.2 ⟨fun hmem => ?_, hdistinct⟩
      obtain ⟨w, hw, heq⟩ := List.mem_map.1 hmem
      exact hfresh w hw (heq ▸ List.mem_cons_self ..)
    · exact List.forall_mem_cons.2 ⟨hseen, fun w hw hmem =>
        hfresh w hw (List.mem_cons_of_mem _ hmem)⟩

/-- Blocks are read as the placeholders that are written in them. -/
theorem readBlocks_eq_ok_iff {template : String} {seen : List String} {previous : Option String}
    {blocks : List (List Char × List Char)} {placeholders : List Placeholder} :
    readBlocks template seen previous blocks = .ok placeholders ↔
      ∃ slots, Legible seen previous slots ∧ slots.map Slot.block = blocks ∧
        slots.map Slot.placeholder = placeholders := by
  induction blocks generalizing seen previous placeholders with
  | nil =>
    simp only [List.map_eq_nil_iff]
    constructor
    · intro h
      cases h
      exact ⟨[], ⟨nofun, .nil, .nil, nofun, .inr rfl⟩, rfl, rfl⟩
    · rintro ⟨_, -, rfl, rfl⟩
      rfl
  | cons block blocks ih =>
    rw [readBlocks_cons_eq_ok_iff]
    constructor
    · rintro ⟨rfl, name, pattern, rest, hdenotes, hseen, hread, rfl⟩
      obtain ⟨slots, hlegible, rfl, rfl⟩ := ih.1 hread
      exact ⟨⟨block.1, name, pattern, block.2⟩ :: slots,
        legible_cons_iff.2 ⟨rfl, hdenotes, hseen, hlegible⟩, rfl, rfl⟩
    · rintro ⟨slots, hlegible, hblocks, rfl⟩
      obtain ⟨v, slots, rfl, rfl, rfl⟩ := List.map_eq_cons_iff.1 hblocks
      obtain ⟨rfl, hdenotes, hseen, hrest⟩ := legible_cons_iff.1 hlegible
      exact ⟨rfl, v.name, v.pattern, _, hdenotes, hseen, ih.2 ⟨slots, hrest, rfl, rfl⟩, rfl⟩

/-! ## Templates -/

/-- A template as it is written, and what it means. -/
structure WrittenTemplate where
  /-- The text before the first placeholder. -/
  lead : List Char
  slots : List Slot

namespace WrittenTemplate

/-- The text of the template. -/
def text (written : WrittenTemplate) : List Char :=
  braced written.lead (written.slots.map Slot.block)

/-- The parts that are written. Text of length zero is no part. -/
def parts (written : WrittenTemplate) : List TemplatePart :=
  TemplatePart.ofText (String.ofList written.lead) ++ written.slots.flatMap fun slot =>
    .capture slot.name slot.pattern :: TemplatePart.ofText (String.ofList slot.after)

/-- The rules by which a template is written. -/
structure Valid (written : WrittenTemplate) : Prop where
  lead : NoBrace written.lead
  inner : ∀ slot ∈ written.slots, '\x7d' ∉ slot.inner
  after : ∀ slot ∈ written.slots, NoBrace slot.after
  denotes : ∀ slot ∈ written.slots, Denotes slot.inner slot.name slot.pattern
  /-- A placeholder that another one comes after is followed by text. -/
  separated : written.slots.IsChain fun slot _ => slot.after ≠ []
  distinct : (written.slots.map (·.name)).Nodup

/-- The meaning of the template. -/
def template (written : WrittenTemplate) : PathTemplate :=
  { lead := String.ofList written.lead, placeholders := written.slots.map Slot.placeholder }

/-- The parts of the meaning of a template are the parts that are written. -/
theorem parts_template (written : WrittenTemplate) : written.template.parts = written.parts := by
  simp [PathTemplate.parts, template, parts, Slot.placeholder, List.flatMap_map]

/-- A template that is written by the rules is cut at its braces into its lead and its
placeholders. -/
theorem Valid.braced {written : WrittenTemplate} (h : written.Valid) :
    Braced written.text written.lead (written.slots.map Slot.block) where
  text := rfl
  lead := h.lead
  inner := by simpa [Slot.block] using h.inner
  after := by simpa [Slot.block] using h.after

/-- The placeholders of a template that is written by the rules can be read. -/
theorem Valid.legible {written : WrittenTemplate} (h : written.Valid) :
    Legible [] none written.slots :=
  ⟨h.denotes, h.separated, h.distinct, fun _ _ => List.not_mem_nil, .inl rfl⟩

end WrittenTemplate

/-- Reading gives the meaning of the templates that are written by the rules, and refuses every
other text. -/
theorem PathTemplate.parse_eq_ok_iff {text : String} {template : PathTemplate} :
    PathTemplate.parse text = .ok template ↔
      text.toList.head? = some '/' ∧
        ∃ written : WrittenTemplate, written.Valid ∧ written.text = text.toList ∧
          written.template = template := by
  constructor
  · intro h
    unfold PathTemplate.parse at h
    split at h
    · cases h
    · next hslash =>
      obtain ⟨placeholders, hread, h⟩ := bind_eq_ok_iff.1 h
      split at h
      · cases h
      · cases h
      · next hfault =>
        cases h
        obtain ⟨slots, hlegible, hblocks, rfl⟩ := readBlocks_eq_ok_iff.1 hread
        obtain ⟨htext, hlead, hinner, hafter⟩ := (Layout.braced_of_fault_eq_none _).1 hfault
        rw [← hblocks, List.forall_mem_map] at hinner hafter
        refine ⟨by simpa using hslash, ⟨_, slots⟩, ⟨hlead, hinner, hafter, hlegible.denotes,
          hlegible.separated, hlegible.distinct⟩, ?_, rfl⟩
        rw [WrittenTemplate.text, hblocks, htext]
  · rintro ⟨hslash, written, hvalid, htext, rfl⟩
    have hlayout := Layout.outside_of_braced hvalid.braced
    have hread : readBlocks text [] none (written.slots.map Slot.block) =
        .ok (written.slots.map Slot.placeholder) :=
      readBlocks_eq_ok_iff.2 ⟨_, hvalid.legible, rfl, rfl⟩
    rw [htext] at hlayout
    simp only [PathTemplate.parse, hslash, hlayout, hread]
    rfl

/-! ## Parts -/

/-- The parts of a placeholder: its variable, and the text that follows. -/
def Placeholder.parts (p : Placeholder) : List TemplatePart :=
  .capture p.name p.pattern :: TemplatePart.ofText p.following

/-- The template with these parts. -/
def PathTemplate.ofParts : List TemplatePart → PathTemplate
  | [] => { lead := "", placeholders := [] }
  | .literal text :: parts =>
    let rest := ofParts parts
    { rest with lead := text ++ rest.lead }
  | .capture name pattern :: parts =>
    let rest := ofParts parts
    { lead := "", placeholders := { name, pattern, following := rest.lead } :: rest.placeholders }

/-- Text before parts is the start of the lead. -/
theorem PathTemplate.ofParts_ofText_append (text : String) (parts : List TemplatePart) :
    ofParts (TemplatePart.ofText text ++ parts) =
      { ofParts parts with lead := text ++ (ofParts parts).lead } := by
  unfold TemplatePart.ofText
  split
  · next h => simp [h]
  · rfl

/-- The parts of placeholders make a template without a lead. -/
theorem PathTemplate.ofParts_flatMap (placeholders : List Placeholder) :
    ofParts (placeholders.flatMap Placeholder.parts) = { lead := "", placeholders } := by
  induction placeholders with
  | nil => rfl
  | cons p placeholders ih =>
    rw [List.flatMap_cons, Placeholder.parts, List.cons_append, ofParts, ofParts_ofText_append, ih]
    simp

/-- The parts of a template are its lead and the parts of its placeholders. -/
theorem PathTemplate.parts_eq (template : PathTemplate) :
    template.parts =
      TemplatePart.ofText template.lead ++ template.placeholders.flatMap Placeholder.parts := rfl

/-- A template is determined by its parts. -/
theorem PathTemplate.parts_injective : Function.Injective PathTemplate.parts := by
  refine Function.LeftInverse.injective (g := ofParts) fun template => ?_
  rw [parts_eq, ofParts_ofText_append, ofParts_flatMap]
  simp

/-- Whether a part is a variable. -/
def TemplatePart.isCapture : TemplatePart → Bool
  | .literal _ => false
  | .capture _ _ => true

/-- After a text, placeholders give variables and texts in turn. -/
theorem isChain_flatMap_parts {placeholders : List Placeholder} (text : String)
    (h : placeholders.IsChain fun p _ => p.following ≠ "") :
    (.literal text :: placeholders.flatMap Placeholder.parts).IsChain
      fun a b => a.isCapture ≠ b.isCapture := by
  induction placeholders generalizing text with
  | nil => exact .singleton _
  | cons p placeholders ih =>
    rw [List.flatMap_cons, Placeholder.parts, TemplatePart.ofText]
    refine List.isChain_cons_cons.2 ⟨by simp [TemplatePart.isCapture], ?_⟩
    split
    · next hempty =>
      cases placeholders with
      | nil => exact .singleton _
      | cons q placeholders => exact absurd hempty (List.isChain_cons_cons.1 h).1
    · exact List.isChain_cons_cons.2 ⟨by simp [TemplatePart.isCapture], ih p.following h.of_cons⟩

/-! ## Writing a template -/

/-- A part as it is written. -/
def TemplatePart.write : TemplatePart → List Char
  | .literal text => text.toList
  | .capture name pattern => '\x7b' :: (name.toList ++ '=' :: pattern.write) ++ ['\x7d']

/-- A template as it is written, with the pattern of every variable. -/
def PathTemplate.write (template : PathTemplate) : String :=
  String.ofList (template.parts.flatMap TemplatePart.write)

/-- A placeholder that can be written. -/
structure Placeholder.Writable (p : Placeholder) : Prop where
  name_ne_nil : p.name.toList ≠ []
  name_trimmed : trimBlanks p.name.toList = p.name.toList
  name_sign : '=' ∉ p.name.toList
  name_brace : '\x7d' ∉ p.name.toList
  pattern : p.pattern.Writable
  pattern_trimmed : trimBlanks p.pattern.write = p.pattern.write
  pattern_brace : '\x7d' ∉ p.pattern.write
  following : NoBrace p.following.toList

/-- A template that can be written. -/
structure PathTemplate.Writable (template : PathTemplate) : Prop where
  slash : template.lead.toList.head? = some '/'
  lead : NoBrace template.lead.toList
  placeholders : ∀ p ∈ template.placeholders, p.Writable
  /-- A placeholder that another one comes after is followed by text. -/
  separated : template.placeholders.IsChain fun p _ => p.following ≠ ""
  distinct : template.variableNames.Nodup

/-- Trimming adds no characters. -/
theorem not_mem_trimBlanks {c : Char} {text : List Char} (h : c ∉ text) : c ∉ trimBlanks text :=
  fun hmem => h (trimBlanks_subset text hmem)

/-- A placeholder that was read can be written. -/
theorem Denotes.writable {inner : List Char} {name following : String} {pattern : Pattern}
    (h : Denotes inner name pattern) (hinner : '\x7d' ∉ inner)
    (hfollowing : NoBrace following.toList) :
    Placeholder.Writable { name, pattern, following } := by
  cases h with
  | bare hsign hne =>
    constructor <;> simp only [String.toList_ofList]
    · exact hne
    · exact trimBlanks_trimBlanks inner
    · exact not_mem_trimBlanks hsign
    · exact not_mem_trimBlanks hinner
    · exact ⟨nofun, fun segment hs => by cases hs; trivial⟩
    · decide
    · decide
    · exact hfollowing
  | @patterned before after _ hsign hne hw hwrite =>
    simp only [List.mem_append, List.mem_cons, not_or] at hinner
    constructor <;> simp only [String.toList_ofList]
    · exact hne
    · exact trimBlanks_trimBlanks before
    · exact not_mem_trimBlanks hsign
    · exact not_mem_trimBlanks hinner.1
    · exact hw
    · rw [hwrite, trimBlanks_trimBlanks]
    · exact hwrite ▸ not_mem_trimBlanks hinner.2.2
    · exact hfollowing

/-- A template that was read can be written. -/
theorem PathTemplate.writable_of_parse {text : String} {template : PathTemplate}
    (h : PathTemplate.parse text = .ok template) : template.Writable := by
  obtain ⟨hslash, written, hvalid, htext, rfl⟩ := parse_eq_ok_iff.1 h
  refine ⟨?_, ?_, ?_, ?_, ?_⟩
  · -- The text begins with a slash, so it does not begin with a placeholder.
    rw [WrittenTemplate.template, String.toList_ofList]
    rw [← htext, WrittenTemplate.text] at hslash
    cases hlead : written.lead with
    | nil => cases hslots : written.slots <;> simp [hlead, hslots] at hslash
    | cons c cs => simpa [hlead, braced] using hslash
  · simpa [WrittenTemplate.template] using hvalid.lead
  · simp only [WrittenTemplate.template, List.forall_mem_map]
    intro slot hslot
    exact (hvalid.denotes slot hslot).writable (hvalid.inner slot hslot)
      (by simpa using hvalid.after slot hslot)
  · simpa [WrittenTemplate.template, List.isChain_map, Slot.placeholder] using hvalid.separated
  · simpa [WrittenTemplate.template, variableNames, Slot.placeholder, Function.comp_def] using
      hvalid.distinct

/-- How `PathTemplate.write` writes a template. -/
def PathTemplate.written (template : PathTemplate) : WrittenTemplate where
  lead := template.lead.toList
  slots := template.placeholders.map fun p =>
    { inner := p.name.toList ++ '=' :: p.pattern.write
      name := p.name
      pattern := p.pattern
      after := p.following.toList }

/-- A text is written as it is. -/
theorem TemplatePart.flatMap_write_ofText (text : String) :
    (ofText text).flatMap write = text.toList := by
  unfold ofText
  split
  · next h => simp [h]
  · simp [write]

/-- The text of a template, as it is written. -/
theorem PathTemplate.text_written (template : PathTemplate) :
    template.written.text = template.write.toList := by
  simp [write, parts_eq, written, WrittenTemplate.text, braced, Slot.block, Placeholder.parts,
    TemplatePart.flatMap_write_ofText, TemplatePart.write, List.flatMap_map, List.flatMap_assoc]

/-- A template means itself as it is written. -/
theorem PathTemplate.template_written (template : PathTemplate) :
    template.written.template = template := by
  simp [written, WrittenTemplate.template, Slot.placeholder, Function.comp_def]

/-- A placeholder that can be written is read back. -/
theorem Placeholder.Writable.denotes {p : Placeholder} (h : p.Writable) :
    Denotes (p.name.toList ++ '=' :: p.pattern.write) p.name p.pattern := by
  have hdenotes : Denotes (p.name.toList ++ '=' :: p.pattern.write)
      (String.ofList (trimBlanks p.name.toList)) p.pattern :=
    .patterned h.name_sign (by simpa [h.name_trimmed] using h.name_ne_nil) h.pattern
      h.pattern_trimmed.symm
  rwa [h.name_trimmed, String.ofList_toList] at hdenotes

/-- A template that can be written is written by the rules. -/
theorem PathTemplate.Writable.valid_written {template : PathTemplate} (h : template.Writable) :
    template.written.Valid where
  lead := h.lead
  inner := by
    simp only [written, List.forall_mem_map]
    intro p hp
    simp [(h.placeholders p hp).name_brace, (h.placeholders p hp).pattern_brace]
  after := by
    simp only [written, List.forall_mem_map]
    exact fun p hp => (h.placeholders p hp).following
  denotes := by
    simp only [written, List.forall_mem_map]
    exact fun p hp => (h.placeholders p hp).denotes
  separated := by simpa [written, List.isChain_map] using h.separated
  distinct := by simpa [written, variableNames, Function.comp_def] using h.distinct

/-- Reading a template that was written gives it back. -/
theorem PathTemplate.parse_write {template : PathTemplate} (h : template.Writable) :
    PathTemplate.parse template.write = .ok template := by
  refine parse_eq_ok_iff.2
    ⟨?_, template.written, h.valid_written, template.text_written, template.template_written⟩
  rw [← text_written, WrittenTemplate.text, braced, List.head?_append]
  simp [written, h.slash]

/-- **The reader of templates accepts exactly its grammar.** A text is read if it begins with a
slash and is written by the rules, and then the parts are those that were written. They are texts
and variables in turn, the first is a text that begins with a slash, and the template that they are
written as is read as the same parts. -/
theorem PathTemplate.parse_grammar (text : String) (template : PathTemplate) :
    (PathTemplate.parse text = .ok template ↔
      text.toList.head? = some '/' ∧
        ∃ written : WrittenTemplate, written.Valid ∧ written.text = text.toList ∧
          written.parts = template.parts) ∧
    (PathTemplate.parse text = .ok template →
      (template.parts.IsChain fun a b => a.isCapture ≠ b.isCapture) ∧
      (∃ lead rest, template.parts = .literal lead :: rest ∧ lead.toList.head? = some '/') ∧
      PathTemplate.parse template.write = .ok template) := by
  constructor
  · rw [parse_eq_ok_iff]
    simp only [← WrittenTemplate.parts_template, parts_injective.eq_iff]
  · intro h
    have hw := writable_of_parse h
    have hlead : template.lead ≠ "" := fun hempty => by
      have hslash := hw.slash
      simp [hempty] at hslash
    have hparts : template.parts =
        .literal template.lead :: template.placeholders.flatMap Placeholder.parts := by
      rw [parts_eq, TemplatePart.ofText, if_neg hlead]
      rfl
    refine ⟨?_, ⟨_, _, hparts, hw.slash⟩, parse_write hw⟩
    rw [hparts]
    exact isChain_flatMap_parts template.lead hw.separated

/-- `/a/{ x{ }:b/{y= p q/** }` is read, and written again as `/a/{x{=*}:b/{y=p q/**}`. -/
theorem PathTemplate.parse_grammar_blanks :
    ∃ template, PathTemplate.parse "/a/\x7b x\x7b \x7d:b/\x7by= p q/** \x7d" = .ok template ∧
      template.parts =
        [.literal "/a/", .capture "x\x7b" .any, .literal ":b/",
          .capture "y" { leading := [.literal "p q"], last := .rest }] ∧
      template.write = "/a/\x7bx\x7b=*\x7d:b/\x7by=p q/**\x7d" ∧
      PathTemplate.parse template.write = .ok template := by
  have hparse : PathTemplate.parse "/a/\x7b x\x7b \x7d:b/\x7by= p q/** \x7d" =
      .ok { lead := "/a/"
            placeholders :=
              [{ name := "x\x7b", pattern := .any, following := ":b/" },
               { name := "y", pattern := { leading := [.literal "p q"], last := .rest }
                 following := "" }] } := by
    decide +kernel
  exact ⟨_, hparse, by decide +kernel, by decide +kernel, ((parse_grammar _ _).2 hparse).2.2⟩

end Transcoding
