import Transcoding.Proofs.Declaration.Printed

/-!
# The package of a printed definition

A package is declared at the start of a line only, so a search for it goes from line to line
(`firstFrom_line`). A line that begins with another word is passed over (`OtherLine`), and all lines
of a printed service are such lines. So the package that a printed definition declares is its own,
and it is empty if no line declares one (`findPackage_definitionText`).
-/

namespace Transcoding

open Declaration Text

/-! ## Going from line to line -/

/-- Inside a line nothing is looked for, and at its start nothing is found. -/
theorem firstFrom_line {α : Type} {recognise : Recogniser α} {previous : Option Char}
    {line rest : List Char} (hfeed : '\n' ∉ line)
    (h : atLineStart previous = true → recognise (line ++ '\n' :: rest) = none) :
    firstFrom atLineStart recognise previous (line ++ '\n' :: rest) =
      firstFrom atLineStart recognise (some '\n') rest := by
  induction line generalizing previous with
  | nil => exact firstFrom_cons h
  | cons c line ih =>
    rw [List.mem_cons, not_or] at hfeed
    have hinside : atLineStart (some c) = false := by
      simpa [atLineStart] using Ne.symm hfeed.1
    rw [List.cons_append] at h ⊢
    rw [firstFrom_cons h]
    exact ih hfeed.2 fun hstart => by simp [hinside] at hstart

/-- A line that does not declare a package. -/
structure OtherLine (line : String) : Prop where
  feed : '\n' ∉ line.toList
  packageLine : ∀ rest, packageLine (line.toList ++ '\n' :: rest) = none

/-- A line that begins with another letter than the keyword, and not with a blank, is another
line. -/
theorem OtherLine.of_head {line : String} {c : Char} (hline : line.toList.head? = some c)
    (hc : c ≠ 'p' ∧ c ≠ ' ' ∧ c ≠ '\t') (hfeed : '\n' ∉ line.toList) : OtherLine line where
  feed := hfeed
  packageLine rest := by
    obtain ⟨cs, hcs⟩ := List.head?_eq_some_iff.1 hline
    obtain ⟨hp, hspace, htab⟩ := hc
    simp [hcs, Declaration.packageLine, literal, hspace, htab, List.isPrefixOf?, Ne.symm hp]

/-- A text of lines that declare no package declares none. -/
theorem firstFrom_otherLines {previous : Option Char} {lines : List String}
    (h : ∀ line ∈ lines, OtherLine line) :
    firstFrom atLineStart packageLine previous (textOfLines lines) = none := by
  induction lines generalizing previous with
  | nil => rfl
  | cons line lines ih =>
    rw [List.forall_mem_cons] at h
    rw [textOfLines_cons, firstFrom_line h.1.feed fun _ => h.1.packageLine _]
    exact ih h.2

/-! ## The lines of a service -/

/-- A text without blanks has no line feed. -/
theorem not_mem_of_not_blank {text : List Char} (h : ∀ c ∈ text, isBlank c = false) :
    '\n' ∉ text :=
  fun hmem => absurd (h _ hmem) (by decide)

/-- No line of a binding declares a package. -/
theorem HttpBinding.otherLine {binding : HttpBinding} (h : binding.Printable) :
    ∀ line ∈ binding.lines, OtherLine line := by
  have hpath := not_mem_of_not_blank h.path_plain.not_blank
  have hverb : OtherLine (binding.verb.keyword ++ ": \"" ++ binding.pathTemplate ++ "\"") := by
    -- Three of the verbs begin as the keyword does, and go on in another way.
    cases binding.verb <;> refine ⟨by simp [HttpVerb.keyword, hpath], fun rest => ?_⟩ <;>
      simp [HttpVerb.keyword, packageLine, literal, List.isPrefixOf?]
  have hselector : ∀ line ∈ selectorLines binding.bodySelector, OtherLine line := by
    intro line hline
    obtain ⟨selector, hs, rfl⟩ : ∃ selector, binding.bodySelector = some selector ∧
        "body: \"" ++ selector ++ "\"" = line := by
      simpa [selectorLines] using hline
    have hfeed := not_mem_of_not_blank (h.selector_plain selector hs).not_blank
    exact .of_head (c := 'b') (by simp) (by decide) (by simp [hfeed])
  simp only [HttpBinding.lines, List.forall_mem_append, List.forall_mem_cons]
  have hoption : OtherLine "option (google.api.http) = \x7b" :=
    .of_head (c := 'o') (by simp) (by decide) (by decide)
  have hclosing : OtherLine "\x7d;" := .of_head (c := '\x7d') (by simp) (by decide) (by decide)
  exact ⟨⟨⟨hoption, hverb, List.forall_mem_nil _⟩, hselector⟩, hclosing, List.forall_mem_nil _⟩

/-- No line of a method declares a package. -/
theorem Method.otherLine {method : Method} (h : method.Printable) :
    ∀ line ∈ method.lines, OtherLine line := by
  have hname := not_mem_of_not_blank h.name.isDottedName.not_blank
  have hinput := not_mem_of_not_blank h.inputType.isDottedName.not_blank
  have houtput := not_mem_of_not_blank h.outputType.not_blank
  have hfeed : '\n' ∉ method.headLine.toList := by
    simp [Method.headLine, hname, hinput, houtput]
  simp only [Method.lines, List.forall_mem_append, List.forall_mem_cons]
  exact ⟨.of_head (c := 'r') (by simp [Method.headLine]) (by decide) hfeed,
    HttpBinding.otherLine h.binding,
    .of_head (c := '\x7d') (by simp) (by decide) (by decide), List.forall_mem_nil _⟩

/-- No line of a service declares a package. -/
theorem ServiceDefinition.otherLine {service : ServiceDefinition} (h : service.Printable) :
    ∀ line ∈ service.lines, OtherLine line := by
  have hname := not_mem_of_not_blank h.name.isDottedName.not_blank
  have hfeed : '\n' ∉ service.headLine.toList := by
    simp [ServiceDefinition.headLine, hname]
  simp only [ServiceDefinition.lines, List.forall_mem_append, List.forall_mem_cons,
    List.forall_mem_flatMap]
  exact ⟨.of_head (c := 's') (by simp [ServiceDefinition.headLine]) (by decide) hfeed,
    fun method hm => Method.otherLine (h.methods method hm),
    .of_head (c := '\x7d') (by simp) (by decide) (by decide), List.forall_mem_nil _⟩

/-! ## The line of a package -/

/-- The name of a package is read up to its end. -/
theorem packageName_append {package : String} (h : IsPackageName package) (hne : package ≠ "")
    {rest : List Char} (hrest : ∀ c ∈ rest.head?, (isWord c || c == '.') = false) :
    packageName (package.toList ++ rest) = some (package.toList, rest) := by
  cases htext : package.toList with
  | nil => exact absurd (String.toList_eq_nil_iff.1 htext) hne
  | cons c cs =>
    obtain ⟨hhead, htail⟩ := h
    rw [htext] at hhead htail
    obtain ⟨htake, hdrop⟩ := takeWhile_dropWhile_eq_iff.2
      ⟨@rfl _ (cs ++ rest), fun d hd => by simpa using htail d hd, hrest⟩
    rw [List.cons_append, packageName, if_pos (by simpa using hhead c rfl), htake, hdrop]

/-- The line of a package is read as its name. -/
theorem packageLine_append {package : String} (h : IsPackageName package) (hne : package ≠ "")
    (rest : List Char) :
    packageLine (("package " ++ package ++ ";").toList ++ rest) = some (package.toList, rest) := by
  have htext : ("package " ++ package ++ ";").toList ++ rest =
      "package".toList ++ ' ' :: (package.toList ++ ';' :: rest) := by simp
  have hindent : ("package".toList ++ ' ' :: (package.toList ++ ';' :: rest)).dropWhile
      (fun c => c == ' ' || c == '\t') =
        "package".toList ++ ' ' :: (package.toList ++ ';' :: rest) := by simp
  have hword := literal_eq_some_iff.2
    (@rfl _ ("package".toList ++ ' ' :: (package.toList ++ ';' :: rest)))
  have hspace := someBlanks_cons (c := ' ') (by decide)
    ((h.isDottedName hne).head_not_blank (';' :: rest))
  have hname : packageName (package.toList ++ ';' :: rest) = some (package.toList, ';' :: rest) :=
    packageName_append h hne (by simp; decide)
  have hsign : sign ';' (';' :: rest) = some rest := sign_cons (by decide)
  rw [htext]
  simp only [packageLine, hindent, hword, hspace, hname, hsign, Option.bind_eq_bind,
    Option.bind_some, pure]

/-- A printed definition declares its package, and none if that is empty. -/
theorem findPackage_definitionText {package : String} {services : List ServiceDefinition}
    (hpackage : IsPackageName package) (h : ∀ service ∈ services, service.Printable) :
    findPackage (definitionText package services).toList = package.toList := by
  rw [findPackage, firstOccurrence, definitionText, String.toList_ofList, packageLines]
  split
  · next hempty =>
    have hlines : ∀ line ∈ services.flatMap ServiceDefinition.lines, OtherLine line :=
      List.forall_mem_flatMap.2 fun service hs => ServiceDefinition.otherLine (h service hs)
    rw [List.nil_append, firstFrom_otherLines hlines, hempty]
    rfl
  · next hne =>
    rw [List.singleton_append, textOfLines_cons,
      firstFrom_found (by decide) (by simp) (packageLine_append hpackage hne _), Option.getD_some]

end Transcoding
