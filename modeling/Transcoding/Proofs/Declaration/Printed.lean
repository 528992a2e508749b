import Transcoding.Declaration.Document
import Transcoding.Proofs.Declaration.Balance
import Transcoding.Proofs.Declaration.Search
import Transcoding.Proofs.Text.Word
import Mathlib.Tactic.MkIffOfInductiveProp

/-!
# Printed definitions

A definition is printed with each of its parts on a line of its own: the package unless it is empty,
then the services, each with its methods and their bindings. `Printable` says which names, paths and
selectors can be printed so that they are told apart from the text around them: names are words, and
neither a path nor a selector has a quote or a blank in it.

The lines of a printable method are balanced (`Method.balanced_lines`), and none of their blanks
stands where the keyword of a declaration would need one (`HttpBinding.noBlankAfter_lines`,
`Method.noBlankAfter_lines`).
-/

namespace Transcoding

open Declaration Text

/-! ## Lines -/

/-- The text of some lines, each with a line feed at its end. -/
def textOfLines (lines : List String) : List Char :=
  lines.flatMap fun line => line.toList ++ ['\n']

@[simp] theorem textOfLines_nil : textOfLines [] = [] := rfl

@[simp] theorem textOfLines_cons {line : String} {lines : List String} :
    textOfLines (line :: lines) = line.toList ++ '\n' :: textOfLines lines := by
  simp [textOfLines]

@[simp] theorem textOfLines_append {lines lines' : List String} :
    textOfLines (lines ++ lines') = textOfLines lines ++ textOfLines lines' :=
  List.flatMap_append

/-- The text of the lines of items is that of each item, one after another. -/
theorem textOfLines_flatMap {α : Type} {lines : α → List String} {items : List α} :
    textOfLines (items.flatMap lines) = items.flatMap fun item => textOfLines (lines item) :=
  List.flatMap_assoc

/-! ## Printing -/

/-- The line of a body selector, if there is one. -/
def selectorLines (selector : Option String) : List String :=
  (selector.map fun selector => "body: \"" ++ selector ++ "\"").toList

/-- The lines of a binding: the annotation with the verb, the path and the body selector. -/
def HttpBinding.lines (binding : HttpBinding) : List String :=
  ["option (google.api.http) = \x7b",
    binding.verb.keyword ++ ": \"" ++ binding.pathTemplate ++ "\""] ++
  selectorLines binding.bodySelector ++ ["\x7d;"]

/-- The first line of a method. -/
def Method.headLine (method : Method) : String :=
  "rpc " ++ method.name ++ "(" ++ method.inputType ++ ") returns (" ++ method.outputType ++ ") \x7b"

/-- The lines of a method. -/
def Method.lines (method : Method) : List String :=
  method.headLine :: (method.binding.lines ++ ["\x7d"])

/-- The name and the methods of a service, without its package. -/
structure ServiceDefinition where
  name : String
  methods : List Method

/-- The first line of a service. -/
def ServiceDefinition.headLine (service : ServiceDefinition) : String :=
  "service " ++ service.name ++ " \x7b"

/-- The lines of a service. -/
def ServiceDefinition.lines (service : ServiceDefinition) : List String :=
  service.headLine :: (service.methods.flatMap Method.lines ++ ["\x7d"])

/-- The lines of a package declaration; an empty package is not declared. -/
def packageLines (package : String) : List String :=
  if package = "" then [] else ["package " ++ package ++ ";"]

/-- The text that declares services in a package. -/
def definitionText (package : String) (services : List ServiceDefinition) : String :=
  String.ofList
    (textOfLines (packageLines package ++ services.flatMap ServiceDefinition.lines))

example : definitionText "shop" [{
    name := "Orders"
    methods := [{
      name := "Place", inputType := "Order", outputType := "shop.Receipt"
      binding := { verb := .post, pathTemplate := "/v1/orders", bodySelector := some "*" } }] }] =
    "package shop;\nservice Orders \x7b\nrpc Place(Order) returns (shop.Receipt) \x7b\n" ++
    "option (google.api.http) = \x7b\npost: \"/v1/orders\"\nbody: \"*\"\n\x7d;\n\x7d\n\x7d\n" := by
  decide +kernel

/-! ## What can be printed -/

/-- No character is a quote or a blank. -/
def Plain (text : List Char) : Prop :=
  ∀ c ∈ text, c ≠ '"' ∧ c ≠ '\x27' ∧ isBlank c = false

/-- A word that is not empty. -/
def IsName (name : String) : Prop :=
  name ≠ "" ∧ ∀ c ∈ name.toList, isWord c = true

/-- A text of word characters and dots that is not empty. -/
def IsDottedName (name : String) : Prop :=
  name ≠ "" ∧ ∀ c ∈ name.toList, isWord c = true ∨ c = '.'

/-- A package name: empty, or an ASCII letter or an underscore, then word characters and dots. -/
def IsPackageName (package : String) : Prop :=
  (∀ c ∈ package.toList.head?, c.isAlpha = true ∨ c = '_') ∧
    ∀ c ∈ package.toList.tail, isWord c = true ∨ c = '.'

/-- The path has balanced braces and does not end in a colon, the selector has no braces, and
neither is empty or has a quote or a blank in it. -/
@[mk_iff] structure HttpBinding.Printable (binding : HttpBinding) : Prop where
  path_ne_empty : binding.pathTemplate ≠ ""
  path_plain : Plain binding.pathTemplate.toList
  path_balanced : Balanced binding.pathTemplate.toList
  path_last : binding.pathTemplate.toList.getLast? ≠ some ':'
  selector_ne_empty : ∀ selector ∈ binding.bodySelector, selector ≠ ""
  selector_plain : ∀ selector ∈ binding.bodySelector, Plain selector.toList
  selector_braces : ∀ selector ∈ binding.bodySelector,
    '\x7b' ∉ selector.toList ∧ '\x7d' ∉ selector.toList

/-- A method that can be printed: its names are names, and its binding can be printed. -/
@[mk_iff] structure Method.Printable (method : Method) : Prop where
  name : IsName method.name
  inputType : IsName method.inputType
  outputType : IsDottedName method.outputType
  binding : method.binding.Printable

/-- A service is printed with at least one method. -/
@[mk_iff] structure ServiceDefinition.Printable (service : ServiceDefinition) : Prop where
  name : IsName service.name
  methods_ne_nil : service.methods ≠ []
  methods : ∀ method ∈ service.methods, method.Printable

/-- Whether a text is plain can be decided. -/
instance {text : List Char} : Decidable (Plain text) :=
  List.decidableBAll _ text

/-- Whether a text is a name can be decided. -/
instance {name : String} : Decidable (IsName name) :=
  @instDecidableAnd _ _ _ (List.decidableBAll _ name.toList)

/-- Whether a text is a dotted name can be decided. -/
instance {name : String} : Decidable (IsDottedName name) :=
  @instDecidableAnd _ _ _ (List.decidableBAll _ name.toList)

/-- Whether a text is the name of a package can be decided. -/
instance {package : String} : Decidable (IsPackageName package) :=
  @instDecidableAnd _ _ (Option.decidableForallMem package.toList.head?)
    (List.decidableBAll _ package.toList.tail)

/-- Whether a binding can be printed can be decided. -/
instance {binding : HttpBinding} : Decidable binding.Printable :=
  decidable_of_iff _ (HttpBinding.printable_iff binding).symm

/-- Whether a method can be printed can be decided. -/
instance {method : Method} : Decidable method.Printable :=
  decidable_of_iff _ (Method.printable_iff method).symm

/-- Whether a service can be printed can be decided. -/
instance {service : ServiceDefinition} : Decidable service.Printable :=
  decidable_of_iff _ (ServiceDefinition.printable_iff service).symm

/-! ## The pieces of a text -/

/-- The line of a selector, as text. -/
theorem textOfLines_selectorLines_some (selector : String) :
    textOfLines (selectorLines (some selector)) =
      "body: \"".toList ++ (selector.toList ++ "\"\n".toList) := by
  simp [selectorLines]

/-- The text of a binding, cut where the path begins and ends. -/
theorem HttpBinding.textOfLines_lines (binding : HttpBinding) :
    textOfLines binding.lines = "option (google.api.http) = \x7b\n".toList ++
      ((binding.verb.keyword ++ ": \"").toList ++ (binding.pathTemplate.toList ++ ("\"\n".toList ++
        (textOfLines (selectorLines binding.bodySelector) ++ "\x7d;\n".toList)))) := by
  simp [HttpBinding.lines]

/-- The options of a method begin after a line feed. -/
theorem HttpBinding.cons_textOfLines_lines (binding : HttpBinding) :
    '\n' :: textOfLines binding.lines = "\noption (google.api.http) = \x7b\n".toList ++
      ((binding.verb.keyword ++ ": \"").toList ++ (binding.pathTemplate.toList ++ ("\"\n".toList ++
        (textOfLines (selectorLines binding.bodySelector) ++ "\x7d;\n".toList)))) := by
  rw [HttpBinding.textOfLines_lines]
  simp

/-- What follows the first line of a method is its binding and the brace that ends it. -/
theorem Method.textOfLines_lines (method : Method) :
    textOfLines method.lines = method.headLine.toList ++
      ('\n' :: textOfLines method.binding.lines ++ "\x7d\n".toList) := by
  simp [Method.lines]

/-- What follows the first line of a service is its methods and the brace that ends it. -/
theorem ServiceDefinition.textOfLines_lines (service : ServiceDefinition) :
    textOfLines service.lines = service.headLine.toList ++
      ('\n' :: textOfLines (service.methods.flatMap Method.lines) ++ "\x7d\n".toList) := by
  simp [ServiceDefinition.lines]

/-! ## Blanks -/

/-- A plain text has no blanks. -/
theorem Plain.not_blank {text : List Char} (h : Plain text) : ∀ c ∈ text, isBlank c = false :=
  fun c hc => (h c hc).2.2

/-- A character of a dotted name is not blank. -/
theorem not_isBlank_of_dotted {c : Char} (h : isWord c = true ∨ c = '.') : isBlank c = false := by
  rcases h with h | rfl
  · exact not_isBlank_of_isWord h
  · decide

/-- A name is a dotted name without dots. -/
theorem IsName.isDottedName {name : String} (h : IsName name) : IsDottedName name :=
  ⟨h.1, fun c hc => .inl (h.2 c hc)⟩

/-- The name of a package is a dotted name, unless it is empty. -/
theorem IsPackageName.isDottedName {package : String} (h : IsPackageName package)
    (hne : package ≠ "") : IsDottedName package := by
  obtain ⟨hhead, htail⟩ := h
  refine ⟨hne, fun d hd => ?_⟩
  cases htext : package.toList with
  | nil => simp [htext] at hd
  | cons c cs =>
    rw [htext] at hd hhead htail
    rcases List.mem_cons.1 hd with rfl | hd
    · rcases hhead d rfl with hc | rfl
      · exact .inl (isWord_of_isAlpha hc)
      · exact .inl (by decide)
    · exact htail d hd

/-- A dotted name has no blanks. -/
theorem IsDottedName.not_blank {name : String} (h : IsDottedName name) :
    ∀ c ∈ name.toList, isBlank c = false :=
  fun c hc => not_isBlank_of_dotted (h.2 c hc)

/-- A text that begins with a dotted name does not begin with a blank. -/
theorem IsDottedName.head_not_blank {name : String} (h : IsDottedName name) (rest : List Char) :
    ∀ c ∈ (name.toList ++ rest).head?, isBlank c = false := by
  intro c hc
  rw [List.head?_append_of_ne_nil _ (by simpa using h.1)] at hc
  exact h.not_blank c (List.mem_of_mem_head? hc)

/-- Neither of the two letters that end a keyword has a blank after it in a binding. -/
theorem HttpBinding.noBlankAfter_lines {binding : HttpBinding} {letter : Char}
    (h : binding.Printable) (hletter : letter = 'c' ∨ letter = 'e') :
    NoBlankAfter letter (textOfLines binding.lines) := by
  have hverb : NoBlankAfter letter (binding.verb.keyword ++ ": \"").toList := by
    rcases hletter with rfl | rfl <;> cases binding.verb <;> decide
  have hselector : NoBlankAfter letter (textOfLines (selectorLines binding.bodySelector)) := by
    cases hs : binding.bodySelector with
    | none => exact .of_forall nofun
    | some selector =>
      have hplain := (h.selector_plain selector hs).not_blank
      rw [textOfLines_selectorLines_some]
      refine .append ?_ (.append (.of_forall hplain) ?_) <;>
        rcases hletter with rfl | rfl <;> decide
  rw [HttpBinding.textOfLines_lines]
  refine .append ?_ (hverb.append (.append (.of_forall h.path_plain.not_blank)
    (.append ?_ (hselector.append ?_)))) <;> rcases hletter with rfl | rfl <;> decide

/-- The lines of a method have no `e` before a blank. -/
theorem Method.noBlankAfter_lines {method : Method} (h : method.Printable) :
    NoBlankAfter 'e' (textOfLines method.lines) := by
  have hname := h.name.isDottedName.not_blank
  have hinput := h.inputType.isDottedName.not_blank
  have hhead : NoBlankAfter 'e' (method.headLine.toList ++ ['\n']) := by
    simp only [Method.headLine, String.toList_append, List.append_assoc]
    exact .append (by decide) (.append (.of_forall hname) (.append (by decide)
      (.append (.of_forall hinput) (.append (by decide)
        (.append (.of_forall h.outputType.not_blank) (by decide))))))
  have hbinding := HttpBinding.noBlankAfter_lines h.binding (.inr rfl)
  have hfirst : textOfLines method.lines = method.headLine.toList ++ ['\n'] ++
      (textOfLines method.binding.lines ++ "\x7d\n".toList) := by
    simp [Method.textOfLines_lines]
  rw [hfirst]
  exact hhead.append (hbinding.append (by decide))

/-! ## Balance -/

/-- A dotted name is balanced. -/
theorem IsDottedName.balanced {name : String} (h : IsDottedName name) : Balanced name.toList := by
  have hnot : ∀ c, isWord c = false → c ≠ '.' → c ∉ name.toList := by
    intro c hword hdot hmem
    rcases h.2 c hmem with hc | hc
    · simp [hword] at hc
    · exact hdot hc
  exact .of_not_mem (hnot _ (by decide) (by decide)) (hnot _ (by decide) (by decide))

/-- The lines of a binding are balanced. -/
theorem HttpBinding.balanced_lines {binding : HttpBinding} (h : binding.Printable) :
    Balanced (textOfLines binding.lines) := by
  have hverb : Balanced (binding.verb.keyword ++ ": \"").toList := by
    cases binding.verb <;> decide
  have hselector : Balanced (textOfLines (selectorLines binding.bodySelector)) := by
    cases hs : binding.bodySelector with
    | none => exact .of_not_mem nofun nofun
    | some selector =>
      obtain ⟨hopen, hclose⟩ := h.selector_braces selector hs
      rw [textOfLines_selectorLines_some]
      exact .append (by decide)
        (.append (.of_not_mem hopen hclose) (by decide))
  have hfeed : Balanced ['\n'] := by decide
  have hquote : Balanced "\"\n".toList := by decide
  have hbraces :=
    (hfeed.append (hverb.append (h.path_balanced.append (hquote.append hselector)))).braces
  have htext : textOfLines binding.lines = "option (google.api.http) = ".toList ++
      (('\x7b' :: (['\n'] ++ ((binding.verb.keyword ++ ": \"").toList ++
        (binding.pathTemplate.toList ++ ("\"\n".toList ++
          textOfLines (selectorLines binding.bodySelector))))) ++ ['\x7d']) ++ ";\n".toList) := by
    rw [HttpBinding.textOfLines_lines]
    simp
  rw [htext]
  exact .append (by decide)
    (hbraces.append (by decide))

/-- The lines of a method are balanced. -/
theorem Method.balanced_lines {method : Method} (h : method.Printable) :
    Balanced (textOfLines method.lines) := by
  have hbefore : Balanced ("rpc ".toList ++ (method.name.toList ++ ("(".toList ++
      (method.inputType.toList ++ (") returns (".toList ++
        (method.outputType.toList ++ ") ".toList)))))) :=
    .append (by decide) (h.name.isDottedName.balanced.append
      (.append (by decide) (h.inputType.isDottedName.balanced.append
        (.append (by decide) (h.outputType.balanced.append
          (by decide))))))
  have hfeed : Balanced ['\n'] := by decide
  have hbraces := (hfeed.append (HttpBinding.balanced_lines h.binding)).braces
  have htext : textOfLines method.lines = "rpc ".toList ++ (method.name.toList ++ ("(".toList ++
      (method.inputType.toList ++ (") returns (".toList ++
        (method.outputType.toList ++ ") ".toList))))) ++
      (('\x7b' :: (['\n'] ++ textOfLines method.binding.lines) ++ ['\x7d']) ++ ['\n']) := by
    rw [Method.textOfLines_lines, Method.headLine]
    simp
  rw [htext]
  exact hbefore.append (hbraces.append hfeed)

end Transcoding
