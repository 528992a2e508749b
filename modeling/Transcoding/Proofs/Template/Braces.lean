import Transcoding.Proofs.Declaration.Closing
import Transcoding.Proofs.Template.Accepted

/-!
# The braces of a template

A template that is accepted closes every brace that a placeholder opens, and no other one. Inside of
a placeholder, its pattern has no brace (`Pattern.Writable.brace_not_mem`), but its name may have
opening ones: a placeholder that is not closed goes on into the next one, and what stands between
their opening braces becomes part of a name. So the template opens as many braces more than it
closes as there are in the names of its variables (`Denotes.count_open`, `Braced.count_open`).

If the names have none, and only then, the braces are paired (`Paired`), and a scan that comes upon
the template in a text goes on behind it at the depth that it had before (`KeepsDepth`). In general
a scan gets deeper by the number of the braces in the names. `PathTemplate.braces_of_parse` puts
this together.
-/

namespace Transcoding

open Transcoding.Text Transcoding.Declaration

/-! ## Braces in placeholders -/

/-- A segment that can be written has no opening brace. -/
theorem Segment.Writable.brace_not_mem {segment : Segment} (h : segment.Writable) :
    '\x7b' ∉ segment.write := by
  cases segment with
  | literal text => exact h.2.2.2
  | any => decide

/-- A pattern has no opening brace. -/
theorem Pattern.Writable.brace_not_mem {pattern : Pattern} (h : pattern.Writable) :
    '\x7b' ∉ pattern.write := by
  intro hmem
  rcases mem_of_mem_intercalate hmem with hslash | ⟨text, htext, hmem⟩
  · revert hslash
    decide
  · rcases List.mem_append.1 htext with hleading | hlast
    · obtain ⟨segment, hsegment, rfl⟩ := List.mem_map.1 hleading
      exact (h.leading segment hsegment).brace_not_mem hmem
    · rw [List.mem_singleton.1 hlast] at hmem
      cases hcase : pattern.last with
      | one segment =>
        rw [hcase] at hmem
        exact (h.last segment hcase).brace_not_mem hmem
      | rest =>
        rw [hcase] at hmem
        revert hmem
        decide

/-- The opening braces of a placeholder stand in its name. -/
theorem Denotes.count_open {inner : List Char} {name : String} {pattern : Pattern}
    (h : Denotes inner name pattern) : inner.count '\x7b' = name.toList.count '\x7b' := by
  have hblank : isBlank '\x7b' = false := by decide
  cases h with
  | bare => rw [String.toList_ofList, count_trimBlanks hblank]
  | @patterned before after pattern _ _ hw hwrite =>
    have hafter : after.count '\x7b' = 0 := by
      rw [← count_trimBlanks hblank, ← hwrite]
      exact List.count_eq_zero.2 hw.brace_not_mem
    rw [String.toList_ofList, count_trimBlanks hblank, List.count_append, List.count_cons, hafter]
    simp

/-! ## Braces in a text with blocks -/

/-- A text without braces is balanced. -/
theorem NoBrace.balanced {text : List Char} (h : NoBrace text) : Balanced text :=
  .of_not_mem h.1 h.2

/-- Text and pairs of braces in turn. There is no brace between the two of a pair. -/
inductive Paired : List Char → Prop
  | plain {text : List Char} : NoBrace text → Paired text
  | block {lead inner rest : List Char} : NoBrace lead → NoBrace inner → Paired rest →
      Paired (lead ++ '\x7b' :: (inner ++ '\x7d' :: rest))

/-- A text whose braces come in pairs is balanced. -/
theorem Paired.balanced {text : List Char} (h : Paired text) : Balanced text := by
  induction h with
  | plain htext => exact htext.balanced
  | @block lead inner rest hlead hinner _ ih =>
    have hblock := hinner.balanced.braces.append ih
    simpa using hlead.balanced.append hblock

/-- No start of the text closes more braces than it opens. -/
def ClosesOpened (text : List Char) : Prop :=
  ∀ ⦃before⦄, before <+: text → before.count '\x7d' ≤ before.count '\x7b'

/-- A text without braces closes none. -/
theorem NoBrace.closesOpened {text : List Char} (h : NoBrace text) : ClosesOpened text :=
  fun _ hbefore => h.balanced.start hbefore

/-- Texts that close what they open do so together. -/
theorem ClosesOpened.append {text text' : List Char} (h : ClosesOpened text)
    (h' : ClosesOpened text') : ClosesOpened (text ++ text') := by
  intro before hbefore
  rcases List.prefix_or_prefix_of_prefix hbefore (List.prefix_append text text') with hpre | hpre
  · exact h hpre
  · -- The start goes on into the second text and has all of the first one.
    obtain ⟨more, rfl⟩ := hpre
    have hmore := h' ((List.prefix_append_right_inj text).1 hbefore)
    have htext := h List.prefix_rfl
    rw [List.count_append, List.count_append]
    omega

/-- A block closes its own brace, whatever is opened inside of it. -/
theorem closesOpened_block {inner : List Char} (h : '\x7d' ∉ inner) :
    ClosesOpened ('\x7b' :: inner ++ ['\x7d']) := by
  intro before hbefore
  cases before with
  | nil => simp
  | cons c before =>
    obtain ⟨rfl, htail⟩ := List.cons_prefix_cons.1 hbefore
    have hclose : before.count '\x7d' ≤ (inner ++ ['\x7d']).count '\x7d' :=
      htail.sublist.count_le _
    rw [List.count_append, List.count_eq_zero.2 h, List.count_singleton_self] at hclose
    rw [List.count_cons_self, List.count_cons_of_ne (by decide)]
    omega

section
variable {text lead : List Char} {blocks : List (List Char × List Char)}

/-- A text without blocks is its lead. -/
theorem Braced.eq_lead (h : Braced text lead []) : lead = text := by
  simpa using h.text

/-- The first block of a text, and the text after it. -/
theorem Braced.exists_rest {block : List Char × List Char}
    (h : Braced text lead (block :: blocks)) :
    ∃ rest, text = lead ++ ('\x7b' :: block.1 ++ ['\x7d']) ++ rest ∧ '\x7d' ∉ block.1 ∧
      Braced rest block.2 blocks := by
  obtain ⟨htext, -, hinner, hafter⟩ := h
  rw [List.forall_mem_cons] at hinner hafter
  exact ⟨braced block.2 blocks, by simp [← htext], hinner.1, rfl, hafter.1, hinner.2, hafter.2⟩

/-- A text with blocks closes no more braces than it opens. -/
theorem Braced.closesOpened (h : Braced text lead blocks) : ClosesOpened text := by
  induction blocks generalizing text lead with
  | nil =>
    exact h.eq_lead ▸ h.lead.closesOpened
  | cons block blocks ih =>
    obtain ⟨rest, rfl, hinner, hrest⟩ := h.exists_rest
    exact (h.lead.closesOpened.append (closesOpened_block hinner)).append (ih hrest)

/-- Only the braces that are opened inside of blocks are not closed. -/
theorem Braced.count_open (h : Braced text lead blocks) :
    text.count '\x7b' = text.count '\x7d' + (blocks.flatMap (·.1)).count '\x7b' := by
  induction blocks generalizing text lead with
  | nil =>
    rw [← h.eq_lead]
    simp [List.count_eq_zero.2 h.lead.1, List.count_eq_zero.2 h.lead.2]
  | cons block blocks ih =>
    obtain ⟨rest, rfl, hinner, hrest⟩ := h.exists_rest
    have hcount := ih hrest
    have hne : '\x7b' ≠ '\x7d' := by decide
    simp only [List.flatMap_cons, List.count_append, List.count_cons_self, List.count_nil,
      List.count_cons_of_ne hne, List.count_cons_of_ne hne.symm, List.count_eq_zero.2 h.lead.1,
      List.count_eq_zero.2 h.lead.2, List.count_eq_zero.2 hinner]
    omega

/-- A text with blocks is balanced if no brace is opened inside of a block. -/
theorem Braced.balanced_iff (h : Braced text lead blocks) :
    Balanced text ↔ '\x7b' ∉ blocks.flatMap (·.1) := by
  rw [← List.count_eq_zero]
  have hcount := h.count_open
  constructor
  · intro hbalanced
    have htotal := hbalanced.total
    omega
  · intro hzero
    exact ⟨fun hbefore => h.closesOpened hbefore, by omega⟩

/-- The braces are paired if none is opened inside of a block. -/
theorem Braced.paired_iff (h : Braced text lead blocks) :
    Paired text ↔ '\x7b' ∉ blocks.flatMap (·.1) := by
  refine ⟨fun hpaired => h.balanced_iff.1 hpaired.balanced, fun hopen => ?_⟩
  induction blocks generalizing text lead with
  | nil => exact h.eq_lead ▸ .plain h.lead
  | cons block blocks ih =>
    obtain ⟨rest, rfl, hinner, hrest⟩ := h.exists_rest
    rw [List.flatMap_cons, List.mem_append, not_or] at hopen
    have := Paired.block h.lead ⟨hopen.1, hinner⟩ (ih hrest hopen.2)
    simpa using this

end

/-! ## Scanning over a template -/

/-- A scan that comes upon the text goes on behind it at the depth that it had before. -/
def KeepsDepth (text : List Char) : Prop :=
  ∀ depth rest, closingIndex .braces depth (toOctets (text ++ rest)) =
    (closingIndex .braces depth (toOctets rest)).map (· + (toOctets text).length)

/-- A scan passes over a text that closes only what it opens, and gets deeper by what is left
open. -/
theorem ClosesOpened.closingIndex_append {text : List Char} (h : ClosesOpened text) (depth : Nat)
    (rest : List Char) :
    closingIndex .braces depth (toOctets (text ++ rest)) =
      (closingIndex .braces (depth + (text.count '\x7b' - text.count '\x7d')) (toOctets rest)).map
        (· + (toOctets text).length) := by
  have hle := h List.prefix_rfl
  have hdepth : depth + text.count '\x7b' - text.count '\x7d' =
      depth + (text.count '\x7b' - text.count '\x7d') := by omega
  have hregion : regionFrom depth (text ++ rest) =
      text ++ regionFrom (depth + text.count '\x7b' - text.count '\x7d') rest :=
    regionFrom_append_of_count fun hbefore => Nat.le_add_right_of_le (h hbefore)
  rw [hdepth] at hregion
  rw [closingIndex_toOctets_eq, closingIndex_toOctets_eq, hregion]
  simp only [List.append_cancel_left_eq]
  split
  · rfl
  · rw [toOctets_append, List.length_append, Nat.add_comm]
    rfl

/-- A scan keeps its depth over a text that closes what it opens, if the text is balanced. -/
theorem ClosesOpened.keepsDepth_iff {text : List Char} (h : ClosesOpened text) :
    KeepsDepth text ↔ Balanced text := by
  have hle := h List.prefix_rfl
  constructor
  · intro hkeeps
    have hfound := (h.closingIndex_append 0 ['\x7d']).symm.trans (hkeeps 0 ['\x7d'])
    refine ⟨fun hbefore => h hbefore, ?_⟩
    cases hopen : text.count '\x7b' - text.count '\x7d' with
    | zero => omega
    | succ n =>
      rw [hopen, Nat.zero_add] at hfound
      cases hfound
  · intro hbalanced depth rest
    rw [h.closingIndex_append, hbalanced.total, Nat.sub_self, Nat.add_zero]

/-! ## Accepted templates -/

namespace PathTemplate

/-- The number of opening braces in the names of the variables. -/
def openedInNames (template : PathTemplate) : Nat :=
  (template.variableNames.flatMap String.toList).count '\x7b'

/-- No brace is opened in the names if no name has one. -/
theorem openedInNames_eq_zero_iff {template : PathTemplate} :
    template.openedInNames = 0 ↔ ∀ name ∈ template.variableNames, '\x7b' ∉ name.toList := by
  simp [openedInNames, List.count_eq_zero]

/-- The blocks of an accepted template, with the braces that are opened inside of them in the names
of its variables. -/
theorem exists_braced_of_parse {text : String} {template : PathTemplate}
    (h : PathTemplate.parse text = .ok template) :
    ∃ lead blocks, Braced text.toList lead blocks ∧
      (blocks.flatMap (·.1)).count '\x7b' = template.openedInNames := by
  obtain ⟨-, written, hvalid, htext, rfl⟩ := parse_eq_ok_iff.1 h
  refine ⟨_, _, htext ▸ hvalid.braced, ?_⟩
  simp only [openedInNames, variableNames, WrittenTemplate.template, List.flatMap_map,
    List.count_flatMap]
  exact congrArg List.sum (List.map_congr_left fun slot hslot =>
    (hvalid.denotes slot hslot).count_open)

/-- **The braces of an accepted template.** Each closing brace closes an opening one, and no name
has a closing brace. As many braces are opened and not closed as the names have opening ones, and a
scan that comes upon the template gets deeper by their number. So if, and only if, the names have no
brace, the braces are paired and a scan keeps its depth; then a block of options that quotes the
template is cut off at its own closing brace. -/
theorem braces_of_parse {text : String} {template : PathTemplate}
    (h : PathTemplate.parse text = .ok template) :
    (∀ name ∈ template.variableNames, '\x7d' ∉ name.toList) ∧
    (∀ before, before <+: text.toList → before.count '\x7d' ≤ before.count '\x7b') ∧
    text.toList.count '\x7b' = text.toList.count '\x7d' + template.openedInNames ∧
    (∀ depth rest, closingIndex .braces depth (toOctets (text.toList ++ rest)) =
      (closingIndex .braces (depth + template.openedInNames) (toOctets rest)).map
        (· + text.utf8ByteSize)) ∧
    (Paired text.toList ↔ ∀ name ∈ template.variableNames, '\x7b' ∉ name.toList) ∧
    (KeepsDepth text.toList ↔ ∀ name ∈ template.variableNames, '\x7b' ∉ name.toList) ∧
    ((∀ name ∈ template.variableNames, '\x7b' ∉ name.toList) →
      ∀ before options options' after : String, Balanced options.toList → Balanced options'.toList →
        regionAt (before ++ (options ++ "\"" ++ text ++ "\"" ++ options') ++ "\x7d" ++ after)
          before.utf8ByteSize = some (options ++ "\"" ++ text ++ "\"" ++ options')) := by
  obtain ⟨lead, blocks, hbraced, hopened⟩ := exists_braced_of_parse h
  have hcloses := hbraced.closesOpened
  have hcount := hbraced.count_open
  rw [hopened] at hcount
  have hnames : '\x7b' ∉ blocks.flatMap (·.1) ↔
      ∀ name ∈ template.variableNames, '\x7b' ∉ name.toList := by
    rw [← List.count_eq_zero, hopened, openedInNames_eq_zero_iff]
  refine ⟨fun name hname => ?_, fun _ hbefore => hcloses hbefore, hcount, fun depth rest => ?_,
    hbraced.paired_iff.trans hnames,
    hcloses.keepsDepth_iff.trans (hbraced.balanced_iff.trans hnames), fun hfree => ?_⟩
  · obtain ⟨p, hp, rfl⟩ := List.mem_map.1 hname
    exact ((writable_of_parse h).placeholders p hp).name_brace
  · have hleft : text.toList.count '\x7b' - text.toList.count '\x7d' = template.openedInNames := by
      omega
    rw [hcloses.closingIndex_append, hleft, length_toOctets]
  · intro before options options' after hoptions hoptions'
    have htext : Balanced text.toList := hbraced.balanced_iff.2 (hnames.2 hfree)
    have hquote : Balanced "\"".toList := .of_not_mem (by decide) (by decide)
    refine regionAt_append ?_
    simp only [String.toList_append]
    exact (((hoptions.append hquote).append htext).append hquote).append hoptions'

/-- In `/v1/{parent=shelves/*}/books/{book}` the braces are paired, and the options that quote it
end where they are closed. -/
theorem braces_of_parse_books :
    (∃ template, PathTemplate.parse "/v1/\x7bparent=shelves/*\x7d/books/\x7bbook\x7d" =
      .ok template ∧ template.variableNames = ["parent", "book"]) ∧
    Paired "/v1/\x7bparent=shelves/*\x7d/books/\x7bbook\x7d".toList ∧
    KeepsDepth "/v1/\x7bparent=shelves/*\x7d/books/\x7bbook\x7d".toList ∧
    regionAt ("\x7b" ++ (" get: " ++ "\"" ++ "/v1/\x7bparent=shelves/*\x7d/books/\x7bbook\x7d" ++
        "\"" ++ " ") ++ "\x7d" ++ ";") "\x7b".utf8ByteSize =
      some (" get: " ++ "\"" ++ "/v1/\x7bparent=shelves/*\x7d/books/\x7bbook\x7d" ++ "\"" ++ " ")
    := by
  have hparse : PathTemplate.parse "/v1/\x7bparent=shelves/*\x7d/books/\x7bbook\x7d" =
      .ok { lead := "/v1/"
            placeholders :=
              [{ name := "parent", pattern := { leading := [.literal "shelves"], last := .one .any }
                 following := "/books/" },
               { name := "book", pattern := .any, following := "" }] } := by
    decide +kernel
  obtain ⟨-, -, -, -, hpaired, hkeeps, hregion⟩ := braces_of_parse hparse
  have hnames : ∀ name ∈ ["parent", "book"], '\x7b' ∉ name.toList := by decide +kernel
  exact ⟨⟨_, hparse, rfl⟩, hpaired.2 hnames, hkeeps.2 hnames,
    hregion hnames "\x7b" " get: " " " ";" (by decide +kernel) (by decide +kernel)⟩

/-- The placeholder of `/v1/{a/x/{b}` that is not closed goes on into the next one, and both are
read as one variable. The braces are not paired, and the options that quote the template run on
behind the brace that closes them. -/
theorem parse_swallows_placeholder :
    (∃ template, PathTemplate.parse "/v1/\x7ba/x/\x7bb\x7d" = .ok template ∧
      template.variableNames = ["a/x/\x7bb"]) ∧
    ¬ Paired "/v1/\x7ba/x/\x7bb\x7d".toList ∧ ¬ KeepsDepth "/v1/\x7ba/x/\x7bb\x7d".toList ∧
    regionAt "\x7b get: \"/v1/\x7ba/x/\x7bb\x7d\" \x7d;" 1 =
      some " get: \"/v1/\x7ba/x/\x7bb\x7d\" \x7d;" := by
  have hparse : PathTemplate.parse "/v1/\x7ba/x/\x7bb\x7d" =
      .ok { lead := "/v1/"
            placeholders := [{ name := "a/x/\x7bb", pattern := .any, following := "" }] } := by
    decide +kernel
  have hunbalanced : ¬ Balanced "/v1/\x7ba/x/\x7bb\x7d".toList := by decide +kernel
  obtain ⟨_, _, hbraced, -⟩ := exists_braced_of_parse hparse
  refine ⟨⟨_, hparse, rfl⟩, fun hpaired => hunbalanced hpaired.balanced, fun hkeeps => ?_,
    by decide +kernel⟩
  exact hunbalanced (hbraced.closesOpened.keepsDepth_iff.1 hkeeps)

end PathTemplate

end Transcoding
