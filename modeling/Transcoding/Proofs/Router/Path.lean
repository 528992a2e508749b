import Transcoding.Template.RouterPath
import Transcoding.Proofs.Template.Instance

/-!
# Router paths

The router path of a template is a text that a router takes as it stands (`RouterPath.Valid`), and
it covers every path that the template matches (`PathTemplate.routerPath_covers`). The matcher and
the router path are computed in different ways. What connects them is that a matched path is the
leading text followed by a reading of the placeholders, and that the literal segments that open a
pattern open every reading of it (`exists_flatMap_eq_staticSegments_append`).

That no segment is syntax to the router is carried as a condition on neighbours: no slash comes
before a colon or a star (`NoReserved`). It goes through `++` with one condition at the seam.
-/

namespace Transcoding

open Transcoding.Text

/-! ## Texts that a router takes -/

/-- Text that a router takes as it stands: it begins with a slash, it has no brace, and no segment
of it begins with a colon or a star. -/
structure Static (text : List Char) : Prop where
  slash : text.head? = some '/'
  noBrace : NoBrace text
  segments : ∀ segment ∈ fields '/' text,
    segment.head? ≠ some ':' ∧ segment.head? ≠ some '*'

/-- A router path that a router takes: static text, or static text that ends in a slash and the
catch-all. -/
def RouterPath.Valid : RouterPath → Prop
  | exact path => Static path.toList
  | under stem => Static stem.toList ∧ stem.toList.getLast? = some '/'

/-- The paths that a router path stands for. A catch-all stands for at least one character. -/
def RouterPath.Covers (path : String) : RouterPath → Prop
  | exact text => path = text
  | under stem => ∃ rest, rest ≠ [] ∧ path.toList = stem.toList ++ rest

/-- A catch-all covers the paths that go on after its stem. -/
theorem RouterPath.covers_under_iff {stem path : String} :
    (under stem).Covers path ↔ stem.toList <+: path.toList ∧ stem ≠ path := by
  constructor
  · rintro ⟨rest, hne, hpath⟩
    refine ⟨⟨rest, hpath.symm⟩, ?_⟩
    rintro rfl
    exact hne (by simpa using hpath)
  · rintro ⟨⟨rest, hpath⟩, hne⟩
    refine ⟨rest, ?_, hpath.symm⟩
    rintro rfl
    exact hne (String.toList_inj.1 (by simpa using hpath))

/-- Whether a router path covers a path can be decided. -/
instance (path : String) : (router : RouterPath) → Decidable (router.Covers path)
  | .exact text => inferInstanceAs (Decidable (path = text))
  | .under _ => decidable_of_iff _ RouterPath.covers_under_iff.symm

/-- Router paths that a router takes are told apart by their texts. -/
theorem RouterPath.eq_of_render_eq {a b : RouterPath} (ha : a.Valid) (hb : b.Valid)
    (h : a.render = b.render) : a = b := by
  have hne : ∀ path stem : String, Static path.toList → path ≠ (under stem).render := by
    rintro path stem hstatic rfl
    exact hstatic.noBrace.1 (by simp [render])
  cases a with
  | exact path =>
    cases b with
    | exact _ => exact congrArg exact h
    | under stem => exact absurd h (hne path stem ha)
  | under stem =>
    cases b with
    | exact path => exact absurd h.symm (hne path stem hb)
    | under _ =>
      simp only [render, ← String.toList_inj, String.toList_append, List.append_left_inj] at h
      rw [String.toList_inj.1 h]

/-- No slash comes before a colon or a star. -/
def NoReserved (text : List Char) : Prop :=
  text.IsChain fun a b => a = '/' → b ≠ ':' ∧ b ≠ '*'

/-- A text without slashes has nothing reserved. -/
theorem NoReserved.of_not_mem {text : List Char} (h : '/' ∉ text) : NoReserved text := by
  induction text with
  | nil => exact .nil
  | cons c cs ih =>
    rw [List.mem_cons, not_or] at h
    exact List.isChain_cons.2 ⟨fun _ _ hc => absurd hc.symm h.1, ih h.2⟩

/-- What comes after a slash is neither a colon nor a star, if nothing is reserved. -/
theorem NoReserved.ne_of_infix {text : List Char} {c : Char} (h : NoReserved text)
    (hin : ['/', c] <:+: text) : c ≠ ':' ∧ c ≠ '*' := by
  obtain ⟨before, after, rfl⟩ := hin
  have hchain := h.left_of_append.right_of_append
  exact (List.isChain_cons_cons.1 hchain).1 rfl

/-- A text that begins with a slash is static if it has no brace and nothing reserved. -/
theorem Static.of_noReserved {text : List Char} (hslash : text.head? = some '/')
    (hbrace : NoBrace text) (h : NoReserved text) : Static text := by
  refine ⟨hslash, hbrace, fun segment hmem => ?_⟩
  have hreserved : ∀ c, c = ':' ∨ c = '*' → segment.head? ≠ some c := by
    intro c hc hhead
    rcases head?_of_mem_fields hmem hhead with hfirst | hin
    · rw [hslash] at hfirst
      cases hfirst
      revert hc
      decide
    · obtain ⟨hcolon, hstar⟩ := h.ne_of_infix hin
      exact hc.elim hcolon hstar
  exact ⟨hreserved ':' (.inl rfl), hreserved '*' (.inr rfl)⟩

/-! ## The leading text -/

/-- A character after a slash is neither a colon nor a star, if it is not found to be reserved. -/
theorem ne_of_not_reserved {c d : Char} {cs : List Char} (hd : cs.head? = some d)
    (h : ¬(c = '/' && (cs.head? == some ':' || cs.head? == some '*')) = true) (hslash : c = '/') :
    d ≠ ':' ∧ d ≠ '*' := by
  simpa [hslash, hd] using h

/-- A text has nothing reserved if the search for a reserved place finds none. -/
theorem noReserved_of_beforeReserved?_eq_none {text : List Char}
    (h : beforeReserved? text = none) : NoReserved text := by
  induction text with
  | nil => exact .nil
  | cons c cs ih =>
    unfold beforeReserved? at h
    split at h
    · cases h
    · next hc =>
      exact List.isChain_cons.2
        ⟨fun d hd => ne_of_not_reserved hd hc, ih (Option.map_eq_none_iff.1 h)⟩

/-- The text before the first reserved segment ends in a slash, and more text comes after it. -/
theorem exists_of_beforeReserved?_eq_some {text stem : List Char}
    (h : beforeReserved? text = some stem) :
    NoReserved stem ∧ stem.getLast? = some '/' ∧ ∃ rest, rest ≠ [] ∧ text = stem ++ rest := by
  induction text generalizing stem with
  | nil => cases h
  | cons c cs ih =>
    unfold beforeReserved? at h
    split at h
    · next hc =>
      cases h
      simp only [Bool.and_eq_true, decide_eq_true_eq] at hc
      refine ⟨.singleton _, rfl, cs, ?_, by simp [hc.1]⟩
      rintro rfl
      simp at hc
    · next hc =>
      obtain ⟨rest, hrest, rfl⟩ := Option.map_eq_some_iff.1 h
      obtain ⟨hstem, hlast, after, hafter, rfl⟩ := ih hrest
      have hne : rest ≠ [] := by
        rintro rfl
        cases hlast
      refine ⟨List.isChain_cons.2 ⟨fun d hd => ?_, hstem⟩, ?_, after, hafter, rfl⟩
      · -- The text after `c` begins with the same character.
        have hd : (rest ++ after).head? = some d := by rwa [List.head?_append_of_ne_nil rest hne]
        exact ne_of_not_reserved hd hc
      · rw [List.getLast?_cons_of_ne_nil hne, hlast]

/-- The text up to the last slash is there if there is a slash. -/
theorem throughLastSlash_spec {text : List Char} (h : '/' ∈ text) :
    (throughLastSlash text).getLast? = some '/' ∧ ∃ rest, text = throughLastSlash text ++ rest := by
  unfold throughLastSlash
  cases hsplit : splitAtLast ['/'] text with
  | none =>
    rw [splitAtLast_eq_none_iff (List.cons_ne_nil _ _), List.singleton_infix_iff] at hsplit
    exact absurd h hsplit
  | some split =>
    obtain ⟨before, found⟩ := split
    obtain ⟨rfl, ⟨rest, rfl⟩, -⟩ := (splitAtLast_eq_some_iff (List.cons_ne_nil _ _)).1 hsplit
    exact ⟨by simp, rest, by simp⟩

/-! ## The segments that open a pattern -/

/-- The literal segments that open a pattern open every reading of it. -/
theorem exists_flatMap_eq_staticSegments_append {pieces : List (List Char)}
    {segments : List Segment} (h : List.Forall₂ Segment.Fits pieces segments) :
    ∃ rest, pieces.flatMap (· ++ ['/']) = staticSegments segments ++ rest := by
  induction h with
  | nil => exact ⟨[], rfl⟩
  | @cons piece segment pieces segments hfits _ ih =>
    cases segment with
    | any => exact ⟨_, rfl⟩
    | literal text =>
      obtain ⟨rest, hrest⟩ := ih
      obtain ⟨rfl, -⟩ := hfits
      unfold staticSegments
      split
      · exact ⟨_, rfl⟩
      · exact ⟨rest, by simp [hrest]⟩

/-- The segments that are kept are static text after a slash. -/
theorem noReserved_staticSegments {segments : List Segment}
    (h : ∀ segment ∈ segments, segment.Writable) :
    NoReserved ('/' :: staticSegments segments) := by
  induction segments with
  | nil => exact .singleton _
  | cons segment segments ih =>
    rw [List.forall_mem_cons] at h
    cases segment with
    | any => exact .singleton _
    | literal text =>
      unfold staticSegments
      split
      · exact .singleton _
      · next hcolon =>
        obtain ⟨hne, hslash, hstar, -⟩ := h.1
        refine List.isChain_cons.2 ⟨fun c hc _ => ?_, List.isChain_append.2
          ⟨NoReserved.of_not_mem hslash, ih h.2, fun c hc _ _ hc' => ?_⟩⟩
        · rw [Option.mem_def, List.head?_append_of_ne_nil _ hne] at hc
          constructor
          · rintro rfl
            exact hcolon (by simp [hc])
          · rintro rfl
            exact hstar (List.mem_of_mem_head? hc)
        · exact absurd (hc' ▸ List.mem_of_mem_getLast? hc) hslash

/-- The static segments of a pattern have no brace. -/
theorem noBrace_staticSegments {segments : List Segment}
    (h : ∀ segment ∈ segments, segment.Writable ∧ '\x7d' ∉ segment.write) :
    NoBrace (staticSegments segments) := by
  fun_induction staticSegments segments with
  | case1 => simp [NoBrace]
  | case2 text segments _ ih =>
    rw [List.forall_mem_cons] at h
    obtain ⟨hopen, hclose⟩ := ih h.2
    obtain ⟨⟨⟨-, -, -, hopen'⟩, hclose'⟩, -⟩ := h
    simp only [Segment.write] at hclose'
    exact ⟨by simp [hopen, hopen'], by simp [hclose, hclose']⟩
  | case3 => simp [NoBrace]

/-- The static segments of a pattern end in a slash, unless there are none. -/
theorem eq_slash_of_mem_getLast?_staticSegments {segments : List Segment} :
    ∀ c ∈ (staticSegments segments).getLast?, c = '/' := by
  fun_induction staticSegments segments with
  | case1 => simp
  | case2 text segments _ ih =>
    intro c hc
    rw [Option.mem_def, List.getLast?_append_of_ne_nil _ (List.cons_ne_nil _ _),
      List.getLast?_cons, Option.some.injEq] at hc
    cases hlast : (staticSegments segments).getLast? with
    | none => simpa [hlast] using hc.symm
    | some d =>
      rw [hlast, Option.getD_some] at hc
      exact hc ▸ ih d hlast
  | case3 => simp

/-! ## Templates -/

/-- A pattern as it is written: its leading segments, each with a slash, and the last one. -/
theorem Pattern.write_eq (pattern : Pattern) :
    pattern.write =
      pattern.leading.flatMap (fun segment => segment.write ++ ['/']) ++ pattern.last.write := by
  have h := Reading.text_eq
    { leading := pattern.leading.map Segment.write, last := pattern.last.write }
  rwa [List.flatMap_map] at h

/-- The leading segments of a placeholder that can be written have no closing brace. -/
theorem Placeholder.Writable.leading {p : Placeholder} (h : p.Writable) :
    ∀ segment ∈ p.pattern.leading, segment.Writable ∧ '\x7d' ∉ segment.write := by
  intro segment hs
  refine ⟨h.pattern.leading segment hs, fun hmem => h.pattern_brace ?_⟩
  rw [Pattern.write_eq]
  exact List.mem_append_left _ (List.mem_flatMap.2 ⟨segment, hs, List.mem_append_left _ hmem⟩)

/-- What the router path of a template is. It ends inside of the leading text, or it is the leading
text and there are no placeholders, or it is the leading text and the literal segments that open the
first pattern. -/
theorem PathTemplate.routerPath_cases {template : PathTemplate}
    (hslash : template.lead.toList.head? = some '/') :
    (∃ stem rest, template.routerPath = .under (String.ofList stem) ∧ rest ≠ [] ∧
      template.lead.toList = stem ++ rest ∧ NoReserved stem ∧ stem.getLast? = some '/') ∨
    (template.placeholders = [] ∧ template.routerPath = .exact template.lead ∧
      NoReserved template.lead.toList) ∨
    (∃ p placeholders, template.placeholders = p :: placeholders ∧
      template.routerPath =
        .under (String.ofList (template.lead.toList ++ staticSegments p.pattern.leading)) ∧
      NoReserved template.lead.toList ∧ template.lead.toList.getLast? = some '/') := by
  unfold routerPath
  simp only
  split
  · next stem hstem =>
    obtain ⟨hres, hlast, rest, hrest, hlead⟩ := exists_of_beforeReserved?_eq_some hstem
    exact .inl ⟨stem, rest, rfl, hrest, hlead, hres, hlast⟩
  · next hnone =>
    have hres := noReserved_of_beforeReserved?_eq_none hnone
    split
    · next hempty => exact .inr (.inl ⟨hempty, rfl, hres⟩)
    · next p placeholders hcons =>
      obtain ⟨hlast, rest, hlead⟩ := throughLastSlash_spec (List.mem_of_mem_head? hslash)
      split
      · next heq =>
        rw [heq] at hlast ⊢
        exact .inr (.inr ⟨p, placeholders, hcons, rfl, hres, hlast⟩)
      · next hne =>
        refine .inl ⟨_, rest, rfl, ?_, hlead, ?_, hlast⟩
        · rintro rfl
          exact hne (by simpa using hlead.symm)
        · rw [hlead] at hres
          exact hres.left_of_append

/-- Texts without braces have none together. -/
theorem NoBrace.append {a b : List Char} (ha : NoBrace a) (hb : NoBrace b) : NoBrace (a ++ b) :=
  ⟨by simp [ha.1, hb.1], by simp [ha.2, hb.2]⟩

/-- The front of a text without braces has none. -/
theorem NoBrace.left {a b : List Char} (h : NoBrace (a ++ b)) : NoBrace a :=
  ⟨fun hm => h.1 (List.mem_append_left _ hm), fun hm => h.2 (List.mem_append_left _ hm)⟩

/-- A router takes the router path of every template that can be written. -/
theorem PathTemplate.Writable.valid_routerPath {template : PathTemplate} (h : template.Writable) :
    template.routerPath.Valid := by
  have hslash := h.slash
  have hbrace := h.lead
  rcases routerPath_cases h.slash with ⟨stem, rest, hpath, -, hlead, hres, hlast⟩ |
    ⟨-, hpath, hres⟩ | ⟨p, placeholders, hcons, hpath, hres, hlast⟩
  · rw [hpath, RouterPath.Valid, String.toList_ofList]
    have hne : stem ≠ [] := by
      rintro rfl
      cases hlast
    rw [hlead] at hslash hbrace
    rw [List.head?_append_of_ne_nil stem hne] at hslash
    exact ⟨.of_noReserved hslash hbrace.left hres, hlast⟩
  · rw [hpath]
    exact .of_noReserved hslash hbrace hres
  · rw [hpath, RouterPath.Valid, String.toList_ofList]
    have hp : p.Writable := h.placeholders p (by simp [hcons])
    obtain ⟨hseam, hstatic⟩ := List.isChain_cons.1 (noReserved_staticSegments hp.pattern.leading)
    refine ⟨.of_noReserved ?_ (hbrace.append (noBrace_staticSegments hp.leading))
      (List.isChain_append.2 ⟨hres, hstatic, fun c hc d hd _ => hseam d hd rfl⟩), ?_⟩
    · rw [List.head?_append, hslash]
      rfl
    · rw [List.getLast?_append, hlast]
      cases hend : (staticSegments p.pattern.leading).getLast? with
      | none => rfl
      | some c =>
        rw [eq_slash_of_mem_getLast?_staticSegments c hend]
        rfl

/-- The router path of a template covers every path that the template matches. -/
theorem PathTemplate.routerPath_covers {template : PathTemplate} {path : String}
    {captures : Captures} (hslash : template.lead.toList.head? = some '/')
    (hw : template.WellFormed) (hmatch : template.match? path = some captures) :
    template.routerPath.Covers path := by
  obtain ⟨readings, tail, hpath, hreads, -⟩ := (match?_eq_some_iff hw).1 hmatch
  rcases routerPath_cases hslash with ⟨stem, rest, hrouter, hne, hlead, -⟩ |
    ⟨hempty, hrouter, -⟩ | ⟨p, placeholders, hcons, hrouter, -⟩
  · rw [hrouter]
    refine ⟨rest ++ tail, by simp [hne], ?_⟩
    rw [hpath, hlead, String.toList_ofList, List.append_assoc]
  · rw [hempty] at hreads
    cases hreads
    rw [hrouter]
    exact String.toList_inj.1 (by simpa using hpath)
  · rw [hcons] at hreads
    cases hreads with
    | @cons _ reading _ readings later hconforms _ _ =>
      -- The last piece of the first value is what the catch-all has at least.
      have hp := hw.patterns p (by simp [hcons])
      have hlast := LastSegment.ne_nil_of_fits hp.last hconforms.last
      obtain ⟨rest, hrest⟩ := exists_flatMap_eq_staticSegments_append hconforms.leading
      rw [hrouter]
      refine ⟨rest ++ (reading.last ++ (p.following.toList ++ later)), by simp [hlast], ?_⟩
      rw [hpath, Reading.text_eq, hrest, String.toList_ofList]
      simp only [List.append_assoc]

end Transcoding
