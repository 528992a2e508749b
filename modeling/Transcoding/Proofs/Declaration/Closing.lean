import Transcoding.Proofs.Declaration.Balance
import Transcoding.Proofs.Text.Utf8
import Mathlib.Order.Bounds.Basic

/-!
# The delimiter that closes a region

The scan for a closing delimiter counts octets. It stops at the first octet up to which one
delimiter more is closed than opened (`isFirst_closingIndex`, and `isFirst_closesAt` for offsets in
a text), and on its way there the depth that it counts does not fall below zero (`depths_nonneg`).

An octet with the value of a brace is a brace of the text (`brace_not_mem`), so the scan of the
octets goes from character to character (`exists_next_depth`), stops in front of a brace, and has
read the text that `balancedRegion` cuts off (`closingIndex_toOctets`). An offset begins a region
unless it lies inside of a character (`regionAt_eq_none_iff`).
-/

namespace Transcoding.Declaration

open Transcoding.Text

/-! ## The first index with a property -/

/-- What a search for an index finds: the least index with a property, or nothing if no index has
it. -/
def IsFirst (p : Nat → Prop) : Option Nat → Prop
  | some i => IsLeast {i | p i} i
  | none => ∀ i, ¬ p i

/-- What holds at once holds at zero first. -/
theorem IsFirst.zero {p : Nat → Prop} (h : p 0) : IsFirst p (some 0) :=
  ⟨h, fun _ _ => Nat.zero_le _⟩

/-- A search goes on after indices without the property. -/
theorem IsFirst.shift {p q : Nat → Prop} {found : Option Nat} {n : Nat} (hbefore : ∀ i < n, ¬ p i)
    (hshift : ∀ i, p (i + n) ↔ q i) (h : IsFirst q found) : IsFirst p (found.map (· + n)) := by
  have hfrom (i : Nat) (hi : p i) : n ≤ i ∧ q (i - n) := by
    have hle : n ≤ i := Nat.not_lt.1 fun hlt => hbefore i hlt hi
    exact ⟨hle, (hshift _).1 (by rwa [Nat.sub_add_cancel hle])⟩
  cases found with
  | none => exact fun i hi => h _ (hfrom i hi).2
  | some first =>
    refine ⟨(hshift first).2 h.1, fun i hi => ?_⟩
    have hle : first ≤ i - n := h.2 (hfrom i hi).2
    have := (hfrom i hi).1
    show first + n ≤ i
    omega

/-- What does not hold at zero holds first one place after the rest says. -/
theorem IsFirst.succ {p q : Nat → Prop} {found : Option Nat} (hzero : ¬ p 0)
    (hshift : ∀ i, p (i + 1) ↔ q i) (h : IsFirst q found) : IsFirst p (found.map (· + 1)) :=
  h.shift (fun i hi => by rwa [Nat.lt_one_iff.1 hi]) hshift

/-! ## Counting -/

section
variable {delimiters : Delimiters}

/-- The octets up to an index, that one included, close one delimiter more than those that they open
and the `depth` ones that are open before them. -/
def ClosesAfter (delimiters : Delimiters) (depth : Nat) (octets : List UInt8) (i : Nat) : Prop :=
  i < octets.length ∧ (octets.take (i + 1)).count delimiters.closing =
    (octets.take (i + 1)).count delimiters.opening + depth + 1

/-- The scan stops at the first octet that closes. -/
theorem isFirst_closingIndex (hne : delimiters.opening ≠ delimiters.closing) (depth : Nat)
    (octets : List UInt8) :
    IsFirst (ClosesAfter delimiters depth octets) (closingIndex delimiters depth octets) := by
  induction octets generalizing depth with
  | nil => exact fun i hi => absurd hi.1 (Nat.not_lt_zero i)
  | cons b octets ih =>
    unfold closingIndex
    split
    · next hopen =>
      subst hopen
      refine .succ (fun h => ?_) (fun i => ?_) (ih (depth + 1))
      · have := h.2
        simp [hne] at this
      · simp only [ClosesAfter, List.length_cons, List.take_succ_cons, List.count_cons_self,
          List.count_cons_of_ne hne]
        omega
    · next hopen =>
      split
      · next hclose =>
        subst hclose
        cases depth with
        | zero => exact .zero ⟨by simp, by simp [hopen]⟩
        | succ outer =>
          refine .succ (fun h => ?_) (fun i => ?_) (ih outer)
          · have := h.2
            simp [hopen] at this
          · simp only [ClosesAfter, List.length_cons, List.take_succ_cons, List.count_cons_self,
              List.count_cons_of_ne hopen]
            omega
      · next hclose =>
        refine .succ (fun h => ?_) (fun i => ?_) (ih depth)
        · have := h.2
          simp [hopen, hclose] at this
        · simp [ClosesAfter, hopen, hclose]

/-- The octets from `start` to `stop`, both included, close one delimiter more than they open. -/
def ClosesAt (delimiters : Delimiters) (octets : List UInt8) (start stop : Nat) : Prop :=
  start ≤ stop ∧ stop < octets.length ∧
    ((octets.take (stop + 1)).drop start).count delimiters.closing =
      ((octets.take (stop + 1)).drop start).count delimiters.opening + 1

/-- The scan of a text from an offset stops at the first octet that closes. -/
theorem isFirst_closesAt (hne : delimiters.opening ≠ delimiters.closing) (octets : List UInt8)
    (start : Nat) :
    IsFirst (ClosesAt delimiters octets start)
      ((closingIndex delimiters 0 (octets.drop start)).map (· + start)) := by
  refine (isFirst_closingIndex hne 0 _).shift (fun i hi h => Nat.not_le.2 hi h.1) fun i => ?_
  have hlength : i + start < octets.length ↔ i < (octets.drop start).length := by
    rw [List.length_drop]
    omega
  have hspan : i + start + 1 - start = i + 1 := by omega
  simp [ClosesAt, ClosesAfter, hlength, List.drop_take, hspan]

/-- A scan ends behind the closing delimiter that it finds from its start on, or at the end of the
octets. -/
theorem scanBalanced_eq (octets : List UInt8) (start : Nat) :
    scanBalanced delimiters octets start =
      (((closingIndex delimiters 0 (octets.drop start)).map (· + start)).map (· + 1)).getD
        octets.length := by
  unfold scanBalanced
  split
  · next index hindex => simp [hindex, Nat.add_comm]
  · next hindex => simp [hindex]

/-- The depths that are counted on the way to the closing delimiter, one for each octet that is
read. The count is signed: only the delimiters themselves can keep it from falling below zero. -/
def depths (delimiters : Delimiters) : Int → List UInt8 → List Int
  | _, [] => []
  | depth, b :: bs =>
    if b = delimiters.opening then (depth + 1) :: depths delimiters (depth + 1) bs
    else if b = delimiters.closing then
      (depth - 1) :: if depth - 1 = 0 then [] else depths delimiters (depth - 1) bs
    else depth :: depths delimiters depth bs

/-- The count does not fall below zero. -/
theorem depths_nonneg (depth : Nat) (octets : List UInt8) :
    ∀ count ∈ depths delimiters (depth + 1) octets, 0 ≤ count := by
  induction octets generalizing depth with
  | nil => nofun
  | cons b octets ih =>
    unfold depths
    split
    · exact List.forall_mem_cons.2 ⟨by omega, ih (depth + 1)⟩
    · split
      · refine List.forall_mem_cons.2 ⟨by omega, ?_⟩
        cases depth with
        | zero => simp
        | succ outer =>
          have hnext : ((outer + 1 : Nat) : Int) + 1 - 1 = outer + 1 := by omega
          rw [hnext, if_neg (by omega)]
          exact ih outer
      · exact List.forall_mem_cons.2 ⟨by omega, ih depth⟩

/-- The scan stops where its count is zero. -/
theorem idxOf?_depths (depth : Nat) (octets : List UInt8) :
    (depths delimiters (depth + 1) octets).idxOf? 0 = closingIndex delimiters depth octets := by
  induction octets generalizing depth with
  | nil => rfl
  | cons b octets ih =>
    unfold depths closingIndex
    split
    · have hnext : ¬ (depth : Int) + 1 + 1 = 0 := by omega
      simpa [List.idxOf?_cons, hnext] using congrArg (Option.map (· + 1)) (ih (depth + 1))
    · split
      · cases depth with
        | zero => simp [List.idxOf?_cons]
        | succ outer =>
          have hpos : ¬ (outer : Int) + 1 = 0 := by omega
          simp [List.idxOf?_cons, hpos, ih outer]
      · have hpos : ¬ (depth : Int) + 1 = 0 := by omega
        simp [List.idxOf?_cons, hpos, ih depth]

/-- Octets without a delimiter do not change the depth. -/
theorem closingIndex_append_of_not_mem {before : List UInt8} (hopen : delimiters.opening ∉ before)
    (hclose : delimiters.closing ∉ before) (depth : Nat) (octets : List UInt8) :
    closingIndex delimiters depth (before ++ octets) =
      (closingIndex delimiters depth octets).map (· + before.length) := by
  induction before with
  | nil => simp
  | cons b before ih =>
    rw [List.mem_cons, not_or] at hopen hclose
    rw [List.cons_append, closingIndex.eq_def]
    simp [Ne.symm hopen.1, Ne.symm hclose.1, ih hopen.2 hclose.2, Function.comp_def, Nat.add_assoc]

end

/-- No octet of another character is that of a brace. -/
theorem brace_not_mem {c : Char} (hopen : c ≠ '\x7b') (hclose : c ≠ '\x7d') :
    Delimiters.braces.opening ∉ String.utf8EncodeChar c ∧
      Delimiters.braces.closing ∉ String.utf8EncodeChar c :=
  ⟨fun h => hopen (eq_of_mem_utf8EncodeChar h rfl (by decide)),
    fun h => hclose (eq_of_mem_utf8EncodeChar h rfl (by decide))⟩

/-- A character other than the brace that closes takes the scan of the octets and the scan of the
characters to the same depth. -/
theorem exists_next_depth {c : Char} {depth : Nat} (h : ¬ (c = '\x7d' ∧ depth = 0))
    (text : List Char) :
    ∃ next, regionFrom depth (c :: text) = c :: regionFrom next text ∧
      closingIndex .braces depth (toOctets (c :: text)) =
        (closingIndex .braces next (toOctets text)).map (· + (String.utf8EncodeChar c).length) := by
  by_cases hopen : c = '\x7b'
  · subst hopen
    exact ⟨depth + 1, by simp [regionFrom], rfl⟩
  by_cases hclose : c = '\x7d'
  · subst hclose
    cases depth with
    | zero => exact absurd ⟨rfl, rfl⟩ h
    | succ outer => exact ⟨outer, by simp [regionFrom], rfl⟩
  · obtain ⟨ho, hc⟩ := brace_not_mem hopen hclose
    refine ⟨depth, by simp [regionFrom, hopen, hclose], ?_⟩
    rw [toOctets_cons, closingIndex_append_of_not_mem ho hc]

/-- The octets before the closing brace are those of the region. -/
theorem closingIndex_toOctets (depth : Nat) (text : List Char) :
    (regionFrom depth text = text ∧ closingIndex .braces depth (toOctets text) = none) ∨
      ∃ rest, text = regionFrom depth text ++ '\x7d' :: rest ∧
        closingIndex .braces depth (toOctets text) =
          some (toOctets (regionFrom depth text)).length := by
  induction text generalizing depth with
  | nil => exact .inl ⟨rfl, rfl⟩
  | cons c text ih =>
    by_cases hend : c = '\x7d' ∧ depth = 0
    · obtain ⟨rfl, rfl⟩ := hend
      exact .inr ⟨text, by simp [regionFrom], rfl⟩
    · obtain ⟨next, hregion, hindex⟩ := exists_next_depth hend text
      rw [hregion, hindex]
      rcases ih next with ⟨hall, hnone⟩ | ⟨rest, htext, hsome⟩
      · exact .inl ⟨by rw [hall], by rw [hnone]; rfl⟩
      · refine .inr ⟨rest, congrArg (c :: ·) htext, ?_⟩
        rw [hsome, toOctets_cons, List.length_append, Nat.add_comm]
        rfl

/-- The closing brace stands at the end of the region, if the region ends before the text. -/
theorem closingIndex_toOctets_eq (depth : Nat) (text : List Char) :
    closingIndex .braces depth (toOctets text) =
      if regionFrom depth text = text then none
      else some (toOctets (regionFrom depth text)).length := by
  rcases closingIndex_toOctets depth text with ⟨hall, hnone⟩ | ⟨rest, htext, hsome⟩
  · rw [if_pos hall, hnone]
  · refine (if_neg fun hall => ?_).symm ▸ hsome
    rw [hall] at htext
    simp at htext

/-- No start of a region closes more than it opens. -/
theorem count_le_of_prefix_regionFrom {depth : Nat} {text before : List Char}
    (h : before <+: regionFrom depth text) :
    before.count '\x7d' ≤ before.count '\x7b' + depth := by
  induction text generalizing depth before with
  | nil =>
    rw [regionFrom, List.prefix_nil] at h
    simp [h]
  | cons c text ih =>
    cases before with
    | nil => simp
    | cons d before =>
      unfold regionFrom at h
      split at h
      · next hopen =>
        obtain ⟨rfl, htail⟩ := List.cons_prefix_cons.1 h
        have := ih htail
        rw [hopen, List.count_cons_self, List.count_cons_of_ne (by decide)]
        omega
      · next hopen =>
        split at h
        · next hclose =>
          cases depth with
          | zero => simp at h
          | succ outer =>
            obtain ⟨rfl, htail⟩ := List.cons_prefix_cons.1 h
            have := ih htail
            rw [hclose, List.count_cons_self, List.count_cons_of_ne (by decide)]
            omega
        · next hclose =>
          obtain ⟨rfl, htail⟩ := List.cons_prefix_cons.1 h
          simpa [List.count_cons, hopen, hclose] using ih htail

/-- A region that a brace closes is balanced. -/
theorem balanced_balancedRegion {text rest : List Char}
    (h : text = balancedRegion text ++ '\x7d' :: rest) : Balanced (balancedRegion text) := by
  have hstart : ∀ {before}, before <+: balancedRegion text →
      before.count '\x7d' ≤ before.count '\x7b' + 0 := count_le_of_prefix_regionFrom
  have hscan : balancedRegion (balancedRegion text ++ '\x7d' :: rest) = _ :=
    regionFrom_append_of_count hstart
  rw [← h] at hscan
  -- Behind the region the scan reads nothing more, so the brace there finds no other one open.
  have hend := List.append_cancel_left ((List.append_nil _).trans hscan)
  have hle := hstart List.prefix_rfl
  refine ⟨hstart, ?_⟩
  cases hdepth : 0 + (balancedRegion text).count '\x7b' - (balancedRegion text).count '\x7d' with
  | zero => omega
  | succ outer =>
    rw [hdepth] at hend
    simp [regionFrom] at hend

/-- The rest of a text from an offset is what follows the characters before the offset. -/
theorem dropOctets_eq_some_iff {n : Nat} {text rest : List Char} :
    dropOctets n text = some rest ↔
      ∃ before, text = before ++ rest ∧ (toOctets before).length = n := by
  fun_induction dropOctets n text with
  | case1 text =>
    constructor
    · intro h
      exact ⟨[], Option.some.inj h, rfl⟩
    · rintro ⟨before, rfl, hlength⟩
      cases before with
      | nil => rfl
      | cons c before =>
        have := c.utf8Size_pos
        rw [length_toOctets_cons] at hlength
        omega
  | case2 n =>
    refine ⟨nofun, ?_⟩
    rintro ⟨before, htext, hlength⟩
    rw [(List.append_eq_nil_iff.1 htext.symm).1] at hlength
    cases hlength
  | case3 n c text hle ih =>
    refine ih.trans ⟨?_, ?_⟩
    · rintro ⟨before, rfl, hlength⟩
      refine ⟨c :: before, rfl, ?_⟩
      rw [length_toOctets_cons, hlength, Nat.add_sub_cancel' hle]
    · rintro ⟨before, htext, hlength⟩
      cases before with
      | nil => cases hlength
      | cons d before =>
        obtain ⟨rfl, rfl⟩ := List.cons.inj htext
        rw [length_toOctets_cons] at hlength
        exact ⟨before, rfl, Nat.eq_sub_of_add_eq' hlength⟩
  | case4 n c text hlt =>
    refine ⟨nofun, ?_⟩
    rintro ⟨before, htext, hlength⟩
    cases before with
    | nil => cases hlength
    | cons d before =>
      obtain ⟨rfl, -⟩ := List.cons.inj htext
      rw [length_toOctets_cons] at hlength
      omega

/-- An offset begins a region unless it lies inside of a character. -/
theorem regionAt_eq_none_iff {text : String} {start : Nat} :
    regionAt text start = none ↔
      start < text.utf8ByteSize ∧ ¬ String.Pos.Raw.IsValid text ⟨start⟩ := by
  have hvalid : String.Pos.Raw.IsValid text ⟨start⟩ ↔ dropOctets start text.toList ≠ none := by
    rw [String.Pos.Raw.isValid_iff_exists_append, Option.ne_none_iff_exists']
    simp only [dropOctets_eq_some_iff]
    constructor
    · rintro ⟨before, rest, rfl, hstart⟩
      refine ⟨rest.toList, before.toList, String.toList_append, ?_⟩
      rw [length_toOctets]
      exact (congrArg String.Pos.Raw.byteIdx hstart).symm
    · rintro ⟨rest, before, htext, rfl⟩
      refine ⟨String.ofList before, String.ofList rest, ?_, ?_⟩
      · rw [← String.ofList_append, ← htext, String.ofList_toList]
      · rw [String.rawEndPos, ← length_toOctets, String.toList_ofList]
  rw [hvalid, not_not, regionAt]
  split
  · next hpast => simp [Nat.not_lt.2 hpast]
  · next hpast => simp [Nat.not_le.1 hpast]

/-! ## Regions of a text -/

/-- The text from an offset up to the brace that closes it, or up to the end of the text. -/
inductive IsRegion (text : String) (start : Nat) : String → Prop
  /-- The offset is not in the text. -/
  | past : text.utf8ByteSize ≤ start → IsRegion text start ""
  /-- No brace closes the region. -/
  | unclosed (before : String) {region : String} : text = before ++ region →
      before.utf8ByteSize = start →
      IsFirst (ClosesAt .braces (toOctets text.toList) start) none →
      (∀ piece, piece <+: region.toList → piece.count '\x7d' ≤ piece.count '\x7b') →
      IsRegion text start region
  /-- The brace after the region closes it. -/
  | closed (before after : String) {region : String} : text = before ++ region ++ "\x7d" ++ after →
      before.utf8ByteSize = start →
      IsFirst (ClosesAt .braces (toOctets text.toList) start)
        (some (start + region.utf8ByteSize)) →
      Balanced region.toList → IsRegion text start region

/-- A region that is found is the one that the braces of the text mark. -/
theorem isRegion_of_regionAt {text region : String} {start : Nat}
    (h : regionAt text start = some region) : IsRegion text start region := by
  unfold regionAt at h
  split at h
  · next hpast =>
    cases h
    exact .past hpast
  · obtain ⟨rest, hrest, rfl⟩ := Option.map_eq_some_iff.1 h
    obtain ⟨before, htext, hstart⟩ := dropOctets_eq_some_iff.1 hrest
    have hsize : (String.ofList before).utf8ByteSize = start := by
      rw [← length_toOctets, String.toList_ofList, hstart]
    have hdrop : (toOctets text.toList).drop start = toOctets rest := by
      rw [htext, toOctets_append, List.drop_left' hstart]
    have hne : Delimiters.braces.opening ≠ Delimiters.braces.closing := by decide
    have hfirst := isFirst_closesAt hne (toOctets text.toList) start
    rw [hdrop] at hfirst
    rcases closingIndex_toOctets 0 rest with ⟨hall, hnone⟩ | ⟨after, hrest, hsome⟩
    · rw [hnone] at hfirst
      refine .unclosed (String.ofList before) ?_ hsize hfirst fun piece hpiece => ?_
      · rw [balancedRegion, hall, ← String.ofList_append, ← htext, String.ofList_toList]
      · rw [String.toList_ofList] at hpiece
        exact count_le_of_prefix_regionFrom hpiece
    · rw [hsome] at hfirst
      refine .closed (String.ofList before) (String.ofList after) ?_ hsize ?_ ?_
      · rw [← String.toList_inj, htext]
        simpa [balancedRegion] using hrest
      · rw [← length_toOctets, String.toList_ofList, Nat.add_comm]
        exact hfirst
      · rw [String.toList_ofList]
        exact balanced_balancedRegion hrest

/-- The region of balanced text with a closing brace after it is that text. -/
theorem regionAt_append {before content after : String} (h : Balanced content.toList) :
    regionAt (before ++ content ++ "\x7d" ++ after) before.utf8ByteSize = some content := by
  have hdrop : dropOctets before.utf8ByteSize (before ++ content ++ "\x7d" ++ after).toList =
      some (content.toList ++ '\x7d' :: after.toList) :=
    dropOctets_eq_some_iff.2 ⟨before.toList, by simp, length_toOctets before⟩
  have hsize : ¬ (before ++ content ++ "\x7d" ++ after).utf8ByteSize ≤ before.utf8ByteSize := by
    have hbrace : "\x7d".utf8ByteSize = 1 := rfl
    simp only [String.utf8ByteSize_append, hbrace]
    omega
  rw [regionAt, if_neg hsize, hdrop, Option.map_some, balancedRegion_append h,
    String.ofList_toList]

/-- **The scan finds the delimiter that balances.** It ends behind the first octet that closes one
delimiter more than are opened from the start on, or at the end of the text if there is none, as
there is none for a start behind the end; its count is zero there for the first time and is never
negative. A region begins at every offset that is not inside of a character. It is the text up to
the brace that closes it, or up to the end. So behind any text, balanced content that is followed by
a closing brace is a region, whatever comes after it. -/
theorem scan_balances (text : String) (start : Nat) :
    (∀ delimiters : Delimiters, delimiters.opening ≠ delimiters.closing →
      ∃ found, IsFirst (ClosesAt delimiters (toOctets text.toList) start) found ∧
        scanBalanced delimiters (toOctets text.toList) start =
          (found.map (· + 1)).getD text.utf8ByteSize ∧
        (text.utf8ByteSize ≤ start → found = none) ∧
        found = ((depths delimiters 1 ((toOctets text.toList).drop start)).idxOf? 0).map (· + start)
        ∧ ∀ depth ∈ depths delimiters 1 ((toOctets text.toList).drop start), 0 ≤ depth) ∧
    (regionAt text start = none ↔
      start < text.utf8ByteSize ∧ ¬ String.Pos.Raw.IsValid text ⟨start⟩) ∧
    (∀ region, regionAt text start = some region → IsRegion text start region) ∧
    ∀ before content after : String, Balanced content.toList →
      regionAt (before ++ content ++ "\x7d" ++ after) before.utf8ByteSize = some content := by
  refine ⟨fun delimiters hne => ?_, regionAt_eq_none_iff, fun _ => isRegion_of_regionAt,
    fun _ _ _ => regionAt_append⟩
  refine ⟨_, isFirst_closesAt hne (toOctets text.toList) start, ?_, fun hpast => ?_, ?_,
    depths_nonneg 0 _⟩
  · rw [scanBalanced_eq, length_toOctets]
  · rw [← length_toOctets] at hpast
    rw [List.drop_eq_nil_of_le hpast]
    rfl
  · exact congrArg (Option.map (· + start)) (idxOf?_depths 0 _).symm

/-- In `é{ü}x}ß` the region after the first letter is `{ü}x`; its closing brace is the octet with
offset 7. No region begins inside of the first letter. -/
theorem scan_balances_umlauts :
    Delimiters.braces.opening ≠ Delimiters.braces.closing ∧ Balanced "\x7bü\x7dx".toList ∧
      IsLeast {j | ClosesAt .braces (toOctets "é\x7bü\x7dx\x7dß".toList) 2 j} 7 ∧
      regionAt ("é" ++ "\x7bü\x7dx" ++ "\x7d" ++ "ß") "é".utf8ByteSize = some "\x7bü\x7dx" ∧
      regionAt "é\x7bü\x7dx\x7dß" 1 = none := by
  have hne : Delimiters.braces.opening ≠ Delimiters.braces.closing := by decide
  have hbalanced : Balanced "\x7bü\x7dx".toList := by decide +kernel
  obtain ⟨hscan, -, -, hregion⟩ := scan_balances "é\x7bü\x7dx\x7dß" 2
  obtain ⟨found, hfirst, hstop, -⟩ := hscan .braces hne
  have hfound : found = some 7 := by
    have hstop : 8 = (found.map (· + 1)).getD 10 := hstop
    cases found with
    | none => cases hstop
    | some j => exact congrArg some (Nat.succ.inj hstop).symm
  rw [hfound] at hfirst
  refine ⟨hne, hbalanced, hfirst, hregion _ _ _ hbalanced, ?_⟩
  exact (scan_balances "é\x7bü\x7dx\x7dß" 1).2.1.2 ⟨by decide +kernel, by decide +kernel⟩

end Transcoding.Declaration
