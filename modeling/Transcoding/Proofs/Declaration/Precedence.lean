import Transcoding.Proofs.Declaration.Place

/-!
# Which binding the options of a method give

Each verb has a shape, and so has the body selector. The binding has the first verb, in a fixed
order, whose shape stands anywhere in the options, the text that is quoted where that shape stands
first, and the selector that is quoted where its own shape stands first
(`findBinding_precedence`). The order of the entries in the options plays no part.
-/

namespace Transcoding.Declaration

open Transcoding.Text

/-! ## Leftmost texts of a shape -/

namespace Shape

/-- The shape stands somewhere in the text. -/
def Occurs (shape : Shape) (text : List Char) : Prop :=
  ∃ place groups after, shape.StandsAt text place groups after

/-- The shape stands in the text, and where it does so first, this is its one group. -/
def Leftmost (shape : Shape) (text content : List Char) : Prop :=
  ∃ place after, shape.StandsAt text place [content] after ∧
    ∀ place' < place, ∀ groups after', ¬ shape.StandsAt text place' groups after'

/-- The recogniser reads the one group of a shape that begins with a word character. -/
structure ReadBy (recognise : Recogniser (List Char)) (shape : Shape) : Prop where
  beginsWord : shape.BeginsWord
  single : ∀ {text groups after}, shape.Begins text groups after → ∃ content, groups = [content]
  read : ∀ {text content after},
    recognise text = some (content, after) ↔ shape.Begins text [content] after

namespace ReadBy

variable {recognise : Recogniser (List Char)} {shape : Shape} {text : List Char}

/-- Nothing is read from the empty text. -/
theorem nil (h : shape.ReadBy recognise) : recognise [] = none := by
  by_contra hread
  obtain ⟨⟨content, after⟩, hread⟩ := Option.ne_none_iff_exists'.1 hread
  obtain ⟨used, hused, hmatch⟩ := h.read.1 hread
  obtain ⟨c, tail, rfl, -⟩ := h.beginsWord used _ hmatch
  cases hused

/-- The recogniser finds its shape where it stands, with the content of the group. -/
theorem foundAt_iff (h : shape.ReadBy recognise) {place : Nat} {content after : List Char} :
    FoundAt atWordStart recognise text place content after ↔
      shape.StandsAt text place [content] after := by
  have hread : ∀ rest, recognise rest = some (content, after) ↔
      shape.Begins rest [content] after ∧ True := by
    intro rest
    rw [h.read, and_true]
  rw [← standsAt_iff_foundAt h.beginsWord hread, and_true]

/-- A shape that is read has one group. -/
theorem standsAt_single (h : shape.ReadBy recognise) {place : Nat} {groups : List (List Char)}
    {after : List Char} (hstands : shape.StandsAt text place groups after) :
    ∃ content, groups = [content] := by
  obtain ⟨before, rest, -, -, -, hbegins⟩ := hstands
  exact h.single hbegins

/-- Nothing is found if the shape does not occur in the text. -/
theorem firstOccurrence_eq_none_iff (h : shape.ReadBy recognise) :
    firstOccurrence atWordStart recognise text = none ↔ ¬ shape.Occurs text := by
  rw [Declaration.firstOccurrence_eq_none_iff h.nil]
  constructor
  · rintro hnone ⟨place, groups, after, hstands⟩
    obtain ⟨content, rfl⟩ := h.standsAt_single hstands
    exact hnone place content after (h.foundAt_iff.2 hstands)
  · intro hoccurs place content after hfound
    exact hoccurs ⟨place, _, after, h.foundAt_iff.1 hfound⟩

/-- What is found is the leftmost occurrence of the shape. -/
theorem firstOccurrence_eq_some_iff (h : shape.ReadBy recognise) {content : List Char} :
    firstOccurrence atWordStart recognise text = some content ↔ shape.Leftmost text content := by
  rw [Declaration.firstOccurrence_eq_some_iff h.nil]
  constructor
  · rintro ⟨place, after, hfound, hleast⟩
    refine ⟨place, after, h.foundAt_iff.1 hfound, fun place' hlt groups after' hstands => ?_⟩
    obtain ⟨content', rfl⟩ := h.standsAt_single hstands
    exact hleast place' hlt content' after' (h.foundAt_iff.2 hstands)
  · rintro ⟨place, after, hstands, hleast⟩
    refine ⟨place, after, h.foundAt_iff.2 hstands, fun place' hlt content' after' hfound => ?_⟩
    exact hleast place' hlt _ after' (h.foundAt_iff.1 hfound)

end ReadBy

end Shape

/-! ## Entries of the options -/

/-- A quoted text is its content between two quotes, and the content has none. -/
theorem exists_of_matches_quotedShape {quote : Char} {used : List Char}
    {groups : List (List Char)} (h : (quotedShape quote).Matches used groups) :
    ∃ content, groups = [content] ∧ content ≠ [] ∧ quote ∉ content ∧
      used = quote :: (content ++ [quote]) := by
  have hleads : (quotedShape quote).Leads used fun groups' rest => groups' = groups ∧ rest = [] :=
    ⟨used, [], groups, (List.append_nil used).symm, h, rfl, rfl⟩
  simp only [quotedShape, Shape.leads_all_cons, Shape.leads_all_nil, Shape.leads_char,
    Shape.leads_group_someOf, List.nil_append, List.append_nil] at hleads
  obtain ⟨_, rfl, content, _, rfl, hne, hcontent, _, rfl, rfl, rfl⟩ := hleads
  refine ⟨content, rfl, hne, fun hmem => ?_, rfl⟩
  have hquote := hcontent quote hmem
  rw [bne_self_eq_false] at hquote
  cases hquote

/-- An entry quotes a text that is not empty and does not hold its quote. -/
theorem exists_quoted_of_begins {same : Char → Char → Bool} {letters text after : List Char}
    {groups : List (List Char)}
    (h : (entryShape (.letters same letters)).Begins text groups after) :
    ∃ content quote, groups = [content] ∧ content ≠ [] ∧ (quote = '"' ∨ quote = '\x27') ∧
      quote ∉ content ∧ quote :: (content ++ [quote]) <:+: text := by
  rw [← Shape.leads_iff_begins] at h
  simp only [entryShape, Shape.leads_all_cons, Shape.leads_all_nil, Shape.leads_letters,
    Shape.leads_manyOf, Shape.leads_char, List.append_nil, List.nil_append] at h
  obtain ⟨word, _, rfl, -, blanks, _, rfl, -, _, rfl, blanks', _, rfl, -, used, _, _, rfl, hquoted,
    rfl, rfl⟩ := h
  have hinfix : ∀ rest : List Char,
      used <:+: word ++ (blanks ++ ':' :: (blanks' ++ (used ++ rest))) :=
    fun rest => ⟨word ++ blanks ++ ':' :: blanks', rest, by simp⟩
  cases hquoted with
  | left h =>
    obtain ⟨content, rfl, hne, hcontent, rfl⟩ := exists_of_matches_quotedShape h
    exact ⟨content, '"', rfl, hne, .inl rfl, hcontent, hinfix _⟩
  | right h =>
    obtain ⟨content, rfl, hne, hcontent, rfl⟩ := exists_of_matches_quotedShape h
    exact ⟨content, '\x27', rfl, hne, .inr rfl, hcontent, hinfix _⟩

/-- The entries of a keyword whose first letter is a word character are read where they stand. -/
theorem Spells.readBy_entry {same : Char → Char → Bool} {letters : List Char} {first : Char}
    {keyword : List Char → Option (List Char)} (h : Spells same letters keyword)
    (hfirst : letters.head? = some first) (hword : ∀ c, same first c = true → isWord c = true) :
    (entryShape (.letters same letters)).ReadBy (entry keyword) where
  beginsWord := (Shape.beginsWord_letters hfirst hword).cons _
  single hbegins := by
    obtain ⟨content, quote, hgroups, -⟩ := exists_quoted_of_begins hbegins
    exact ⟨content, hgroups⟩
  read := h.entry_eq_some_iff

/-- The shape of the path of a verb: the keyword in any case, a colon and a quoted text. -/
def verbShape (verb : HttpVerb) : Shape := entryShape (.letters sameLetter verb.keyword.toList)

/-- The shape of a body selector. -/
def selectorShape : Shape := entryShape (.exactly "body")

/-- The entry for a verb is read by its shape, in any case of the letters. -/
theorem readBy_verbShape (verb : HttpVerb) :
    (verbShape verb).ReadBy (entry (literalAnyCase verb.keyword.toList)) := by
  obtain ⟨first, hfirst, hletter⟩ : ∃ first, verb.keyword.toList.head? = some first ∧
      (first = 'g' ∨ first = 'p' ∨ first = 'd') := by
    cases verb <;> exact ⟨_, rfl, by decide⟩
  refine (spells_literalAnyCase _).readBy_entry hfirst fun c hc => ?_
  -- These letters have no other form than their upper case.
  have hcase : c = first ∨ c = first.toUpper := by
    rcases hletter with rfl | rfl | rfl <;> simpa [sameLetter] using hc
  rcases hletter with rfl | rfl | rfl <;> rcases hcase with rfl | rfl <;> decide

/-- The entry for the selector is read by its shape. -/
theorem readBy_selectorShape : selectorShape.ReadBy (entry (literal "body")) := by
  refine (spells_literal "body").readBy_entry (rfl : _ = some 'b') fun c hc => ?_
  rw [← eq_of_beq hc]
  decide

/-! ## Bindings -/

/-- Options are annotated if the name of the annotation stands in them. -/
theorem isAnnotated_iff {options : List Char} :
    isAnnotated options = true ↔ httpAnnotation.toList <:+: options := by
  have hne : httpAnnotation.toList ≠ [] := by decide
  rw [isAnnotated, Option.isSome_iff_ne_none, Ne, splitAtFirst_eq_none_iff hne, not_not]

/-- The options name a path for the verb and for no verb before it. -/
def TakesVerb (options : List Char) (verb : HttpVerb) (path : List Char) : Prop :=
  (∃ before after, [.get, .post, .put, .patch, .delete] = before ++ verb :: after ∧
    ∀ other ∈ before, ¬ (verbShape other).Occurs options) ∧
  (verbShape verb).Leftmost options path

/-- The first verb in the order of precedence that has a path is the one that is taken. -/
theorem findSome?_eq_some_iff_takesVerb {options path : List Char} {verb : HttpVerb} :
    (HttpVerb.all.findSome? fun verb => (pathOf options verb).map (verb, ·)) = some (verb, path) ↔
      TakesVerb options verb path := by
  have hnone : ∀ other, (pathOf options other).map (other, ·) = none ↔
      ¬ (verbShape other).Occurs options := by
    intro other
    rw [Option.map_eq_none_iff]
    exact (readBy_verbShape other).firstOccurrence_eq_none_iff
  have hsome : ∀ other, (pathOf options other).map (other, ·) = some (verb, path) ↔
      other = verb ∧ (verbShape other).Leftmost options path := by
    intro other
    rw [Option.map_eq_some_iff, ← (readBy_verbShape other).firstOccurrence_eq_some_iff]
    constructor
    · rintro ⟨path', hpath, hpair⟩
      cases hpair
      exact ⟨rfl, hpath⟩
    · rintro ⟨rfl, hpath⟩
      exact ⟨path, hpath, rfl⟩
  simp only [List.findSome?_eq_some_iff, hnone, hsome]
  constructor
  · rintro ⟨before, _, after, hall, ⟨rfl, hleftmost⟩, hbefore⟩
    exact ⟨⟨before, after, hall, hbefore⟩, hleftmost⟩
  · rintro ⟨⟨before, after, hall, hbefore⟩, hleftmost⟩
    exact ⟨before, verb, after, hall, ⟨rfl, hleftmost⟩, hbefore⟩

/-- No verb has a path if no entry for a verb occurs. -/
theorem findSome?_eq_none_iff_verbs {options : List Char} :
    (HttpVerb.all.findSome? fun verb => (pathOf options verb).map (verb, ·)) = none ↔
      ∀ verb, ¬ (verbShape verb).Occurs options := by
  have hall : ∀ verb, verb ∈ HttpVerb.all := by
    intro verb
    cases verb <;> decide
  simp only [List.findSome?_eq_none_iff, Option.map_eq_none_iff]
  constructor
  · intro h verb
    exact (readBy_verbShape verb).firstOccurrence_eq_none_iff.1 (h verb (hall verb))
  · intro h verb _
    exact (readBy_verbShape verb).firstOccurrence_eq_none_iff.2 (h verb)

/-- A binding, by the search for its verb and the search for its selector. -/
theorem findBinding_eq (options : List Char) :
    findBinding options =
      if isAnnotated options then
        (HttpVerb.all.findSome? fun verb => (pathOf options verb).map (verb, ·)).map fun found =>
          { verb := found.1
            pathTemplate := String.ofList found.2
            bodySelector := (selectorOf options).map String.ofList }
      else none := by
  rw [findBinding]
  cases isAnnotated options with
  | false => rfl
  | true =>
    cases HttpVerb.all.findSome? fun verb => (pathOf options verb).map (verb, ·) with
    | none => rfl
    | some found => rfl

/-- Options give no binding if they lack the annotation or an entry for a verb. -/
theorem findBinding_eq_none_iff {options : List Char} :
    findBinding options = none ↔
      ¬ httpAnnotation.toList <:+: options ∨ ∀ verb, ¬ (verbShape verb).Occurs options := by
  rw [findBinding_eq, ← isAnnotated_iff, ← findSome?_eq_none_iff_verbs]
  split
  · next h => simp [h]
  · next h => simp [h]

/-- Options give the binding of the verb that is taken, with the selector of the options. -/
theorem findBinding_eq_some_iff {options : List Char} {binding : HttpBinding} :
    findBinding options = some binding ↔
      httpAnnotation.toList <:+: options ∧
        TakesVerb options binding.verb binding.pathTemplate.toList ∧
        binding.bodySelector = (selectorOf options).map String.ofList := by
  rw [findBinding_eq, ← isAnnotated_iff, ← findSome?_eq_some_iff_takesVerb]
  split
  · next h =>
    rw [Option.map_eq_some_iff]
    constructor
    · rintro ⟨⟨verb, path⟩, hfound, rfl⟩
      exact ⟨h, by rw [String.toList_ofList]; exact hfound, rfl⟩
    · rintro ⟨-, hfound, hselector⟩
      refine ⟨_, hfound, ?_⟩
      rw [← hselector, String.ofList_toList]
  · next h =>
    constructor
    · intro hnone
      cases hnone
    · rintro ⟨h', -⟩
      exact absurd h' h

/-- The path that is taken stands between quotes in the options and has none of them. -/
theorem TakesVerb.exists_quoted {options path : List Char} {verb : HttpVerb}
    (h : TakesVerb options verb path) :
    path ≠ [] ∧ ∃ quote, (quote = '"' ∨ quote = '\x27') ∧ quote ∉ path ∧
      quote :: (path ++ [quote]) <:+: options := by
  obtain ⟨-, place, after, ⟨before, rest, rfl, -, -, hbegins⟩, -⟩ := h
  obtain ⟨content, quote, hgroups, hne, hquote, hcontent, hinfix⟩ :=
    exists_quoted_of_begins hbegins
  cases hgroups
  exact ⟨hne, quote, hquote, hcontent, hinfix.trans (List.suffix_append _ _).isInfix⟩

/-- **The binding that the options of a method give.** There is a selector that depends on the
options alone. There is no binding if the annotation is not mentioned or no verb has a path. Else
the binding has the first verb that has one and the first path of that verb. The path is not empty
and stands between quotes of a kind that it does not hold. -/
theorem findBinding_precedence (options : List Char) :
    ∃ selector : Option String,
      (selector = none ↔ ¬ selectorShape.Occurs options) ∧
      (∀ content : String,
        selector = some content ↔ selectorShape.Leftmost options content.toList) ∧
      (findBinding options = none ↔
        ¬ httpAnnotation.toList <:+: options ∨ ∀ verb, ¬ (verbShape verb).Occurs options) ∧
      ∀ binding : HttpBinding,
        (findBinding options = some binding ↔
          httpAnnotation.toList <:+: options ∧
            TakesVerb options binding.verb binding.pathTemplate.toList ∧
            binding.bodySelector = selector) ∧
        (findBinding options = some binding →
          binding.pathTemplate ≠ "" ∧
            ∃ quote, (quote = '"' ∨ quote = '\x27') ∧ quote ∉ binding.pathTemplate.toList ∧
              quote :: (binding.pathTemplate.toList ++ [quote]) <:+: options) := by
  refine ⟨(selectorOf options).map String.ofList, ?_, fun content => ?_, findBinding_eq_none_iff,
    fun binding => ⟨findBinding_eq_some_iff, fun h => ?_⟩⟩
  · rw [Option.map_eq_none_iff]
    exact readBy_selectorShape.firstOccurrence_eq_none_iff
  · rw [← readBy_selectorShape.firstOccurrence_eq_some_iff, Option.map_eq_some_iff]
    constructor
    · rintro ⟨path, hpath, rfl⟩
      rw [String.toList_ofList]
      exact hpath
    · intro hpath
      exact ⟨content.toList, hpath, String.ofList_toList⟩
  · obtain ⟨-, htakes, -⟩ := findBinding_eq_some_iff.1 h
    obtain ⟨hne, hquoted⟩ := htakes.exists_quoted
    refine ⟨?_, hquoted⟩
    intro hempty
    rw [hempty] at hne
    exact hne rfl

/-- Options with entries against the order of the verbs, a word that ends in a keyword, an empty
path, and a keyword with a long s. -/
def mixedOptions : List Char :=
  ("(google.api.http) = \x7b body: \"*\" target: \"/t\" delete: \"/d\" " ++
    "post: \x27\x27 PO\u017FT : \x27/p\"q\x27 \x7d").toList

/-- A path in single quotes may hold a double quote. -/
theorem findBinding_precedence_mixed :
    TakesVerb mixedOptions .post "/p\"q".toList ∧ selectorShape.Leftmost mixedOptions "*".toList ∧
      ∃ quote, (quote = '"' ∨ quote = '\x27') ∧ quote ∉ "/p\"q".toList ∧
        quote :: ("/p\"q".toList ++ [quote]) <:+: mixedOptions := by
  have hfound : findBinding mixedOptions =
      some { verb := .post, pathTemplate := "/p\"q", bodySelector := some "*" } := by
    decide +kernel
  obtain ⟨selector, -, hsome, -, hbinding⟩ := findBinding_precedence mixedOptions
  obtain ⟨hiff, hquoted⟩ := hbinding _
  obtain ⟨-, htakes, hselector⟩ := hiff.1 hfound
  exact ⟨htakes, (hsome "*").1 hselector.symm, (hquoted hfound).2⟩

end Transcoding.Declaration
