import Transcoding.Proofs.Declaration.Binding
import Transcoding.Proofs.Declaration.Package

/-!
# Reading printed definitions back

The services that a printed definition declares are the ones it was printed from
(`servicesOf_definitionText`). Each declaration is read at the line it begins on: its head is read
with the names in it, the brace at the end of that line is closed by the line that ends the
declaration, and what stands between is passed over by the search for the next one. The same
argument is made twice, for the methods of a body (`findMethods_lines`) and for the services of a
text.
-/

namespace Transcoding

open Declaration Text

/-! ## Names -/

/-- A name is read as a word up to its end. -/
theorem IsName.word_append {name : String} (h : IsName name) {rest : List Char}
    (hrest : ∀ c ∈ rest.head?, isWord c = false) :
    word (name.toList ++ rest) = some (name.toList, rest) :=
  run_append (by simpa using h.1) h.2 hrest

/-- A dotted name is read up to its end. -/
theorem IsDottedName.dottedWord_append {name : String} (h : IsDottedName name) {rest : List Char}
    (hrest : ∀ c ∈ rest.head?, (isWord c || c == '.') = false) :
    dottedWord (name.toList ++ rest) = some (name.toList, rest) :=
  run_append (by simpa using h.1) (fun c hc => by simpa using h.2 c hc) hrest

/-! ## Heads -/

/-- The first line of a method is read as its head. -/
theorem methodHead_headLine {method : Method} (h : method.Printable) (rest : List Char) :
    methodHead (method.headLine.toList ++ rest) =
      some ({ name := method.name.toList, inputType := method.inputType.toList,
              outputType := method.outputType.toList, after := rest }, rest) := by
  have htext : method.headLine.toList ++ rest = "rpc".toList ++ ' ' :: (method.name.toList ++
      '(' :: (method.inputType.toList ++ ')' :: ' ' :: ("returns".toList ++
        ' ' :: '(' :: (method.outputType.toList ++ ')' :: ' ' :: '\x7b' :: rest)))) := by
    simp [Method.headLine]
  have hkeyword : ∀ tail, literal "rpc" ("rpc".toList ++ tail) = some tail :=
    fun tail => literal_eq_some_iff.2 rfl
  have hspace : ∀ tail, someBlanks (' ' :: (method.name.toList ++ tail)) =
      some (method.name.toList ++ tail) :=
    fun tail => someBlanks_cons (by decide) (h.name.isDottedName.head_not_blank tail)
  have hname : ∀ tail, word (method.name.toList ++ '(' :: tail) =
      some (method.name.toList, '(' :: tail) := fun tail => h.name.word_append (by simp; decide)
  have hinput : ∀ tail, word (skipBlanks (method.inputType.toList ++ ')' :: tail)) =
      some (method.inputType.toList, ')' :: tail) := fun tail => by
    rw [skipBlanks_eq_self (h.inputType.isDottedName.head_not_blank _)]
    exact h.inputType.word_append (by simp; decide)
  have hreturns : ∀ tail, literal "returns" (skipBlanks (' ' :: ("returns".toList ++ tail))) =
      some tail := fun tail => literal_eq_some_iff.2 (by simp [skipBlanks, isBlank, isAscii])
  have houtput : ∀ tail, dottedWord (skipBlanks (method.outputType.toList ++ ')' :: tail)) =
      some (method.outputType.toList, ')' :: tail) := fun tail => by
    rw [skipBlanks_eq_self (h.outputType.head_not_blank _)]
    exact h.outputType.dottedWord_append (by simp; decide)
  have hopen : isBlank '(' = false := by decide
  have hclose : isBlank ')' = false := by decide
  have hbrace : isBlank '\x7b' = false := by decide
  have hblank : isBlank ' ' = true := by decide
  rw [htext]
  simp only [methodHead, hkeyword, hspace, hname, hinput, hreturns, houtput, sign_cons hopen,
    sign_cons hclose, sign_blank_cons hblank hopen, sign_blank_cons hblank hbrace,
    Option.bind_eq_bind, Option.bind_some, pure]

/-- The first line of a service is read as its head, and its body is the region after it. -/
theorem serviceHead_headLine {service : ServiceDefinition} (h : IsName service.name)
    (rest : List Char) :
    serviceHead (service.headLine.toList ++ rest) =
      some ({ name := service.name.toList, body := balancedRegion rest }, rest) := by
  have htext : service.headLine.toList ++ rest =
      "service".toList ++ ' ' :: (service.name.toList ++ ' ' :: '\x7b' :: rest) := by
    simp [ServiceDefinition.headLine]
  have hkeyword := literal_eq_some_iff.2
    (@rfl _ ("service".toList ++ ' ' :: (service.name.toList ++ ' ' :: '\x7b' :: rest)))
  have hspace := someBlanks_cons (c := ' ') (by decide)
    (h.isDottedName.head_not_blank (' ' :: '\x7b' :: rest))
  have hname : word (service.name.toList ++ ' ' :: '\x7b' :: rest) =
      some (service.name.toList, ' ' :: '\x7b' :: rest) := h.word_append (by simp; decide)
  have hbrace : sign '\x7b' (' ' :: '\x7b' :: rest) = some rest :=
    sign_blank_cons (by decide) (by decide)
  rw [htext]
  simp only [serviceHead, hkeyword, hspace, hname, hbrace, Option.bind_eq_bind, Option.bind_some,
    pure]

/-- The head of a method opens with its keyword. -/
theorem opens_methodHead : Opens "rpc" methodHead := opens_bind

/-- The head of a service opens with its keyword. -/
theorem opens_serviceHead : Opens "service" serviceHead := opens_bind

/-! ## Blocks

What follows the head of a declaration is a block: a line feed, the lines inside, and the line with
the closing brace. -/

/-- The region that a block begins with is what stands before its closing brace. -/
theorem balancedRegion_block {text : List Char} (h : Balanced text) (rest : List Char) :
    balancedRegion ('\n' :: text ++ "\x7d\n".toList ++ rest) = '\n' :: text := by
  have hfeed : Balanced ['\n'] := by decide
  rw [List.append_assoc]
  exact balancedRegion_append (hfeed.append h)

/-- A block ends in a line feed. -/
theorem getLast?_block {text : List Char} :
    ('\n' :: text ++ "\x7d\n".toList).getLast? = some '\n' := by
  rw [List.getLast?_append]
  rfl

/-- A search for the next declaration passes over a block. -/
theorem Declaration.Opens.silent_block {α : Type} {recognise : Recogniser α} {keyword : String}
    {letter : Char} {text : List Char} (hopens : Opens keyword recognise)
    (hletter : keyword.toList.getLast? = some letter)
    (hkeyword : keyword.toList.any isBlank = false) (h : NoBlankAfter letter text)
    (hne : '\n' ≠ letter ∧ '\x7d' ≠ letter) (rest : List Char) :
    Silent recognise ('\n' :: text ++ "\x7d\n".toList) rest := by
  have hend : NoBlankAfter letter "\x7d\n".toList :=
    .cons_cons (fun _ => by decide) (.cons_cons (fun heq => absurd heq hne.2) (.singleton _))
  exact hopens.silent hletter hkeyword hne.1 (h.append hend) ⟨'\n', getLast?_block, by decide⟩

/-! ## Methods -/

/-- A method is found where it is printed, with its binding. -/
theorem method?_headLine {method : Method} (h : method.Printable) (rest : List Char) :
    ∃ head, methodHead (method.headLine.toList ++
        ('\n' :: textOfLines method.binding.lines ++ "\x7d\n".toList ++ rest)) =
          some (head, '\n' :: textOfLines method.binding.lines ++ "\x7d\n".toList ++ rest) ∧
      head.method? = some method := by
  refine ⟨_, methodHead_headLine h _, ?_⟩
  simp only [MethodHead.method?, balancedRegion_block (HttpBinding.balanced_lines h.binding),
    findBinding_lines h.binding, Option.map_some, String.ofList_toList]

/-- The methods of a printed body are read back in their order. -/
theorem findMethods_lines {methods : List Method} (h : ∀ method ∈ methods, method.Printable) :
    findMethods ('\n' :: textOfLines (methods.flatMap Method.lines)) = methods := by
  have htext : '\n' :: textOfLines (methods.flatMap Method.lines) = ['\n'] ++
      methods.flatMap fun method => method.headLine.toList ++
        ('\n' :: textOfLines method.binding.lines ++ "\x7d\n".toList) := by
    rw [textOfLines_flatMap]
    simp only [Method.textOfLines_lines, List.singleton_append]
  have hfeed : ∀ rest, Silent methodHead ['\n'] rest := fun rest =>
    opens_methodHead.silent (rfl : _ = some 'c') (by decide) (by decide) (.of_forall nofun)
      ⟨'\n', rfl, by decide⟩
  have hsilent : ∀ method ∈ methods, ∀ rest, Silent methodHead
      ('\n' :: textOfLines method.binding.lines ++ "\x7d\n".toList) rest := fun method hm =>
    opens_methodHead.silent_block (by decide) (by decide)
      (HttpBinding.noBlankAfter_lines (h method hm).binding (.inl rfl)) (by decide)
  rw [findMethods, occurrences, htext, occurrencesFrom_silent (hfeed _)]
  refine (filterMap_occurrencesFrom (by decide) (fun method hm => ⟨?_, ?_⟩) hsilent
    fun method _ => ⟨'\n', getLast?_block, by decide⟩).trans (List.map_id _)
  · simp [Method.headLine]
  · intro rest
    exact method?_headLine (h method hm) rest

/-! ## Services -/

/-- A service is found where it is printed, with its methods. -/
theorem service?_headLine {service : ServiceDefinition} (h : service.Printable) (package : String)
    (rest : List Char) :
    ∃ block, serviceHead (service.headLine.toList ++
        ('\n' :: textOfLines (service.methods.flatMap Method.lines) ++ "\x7d\n".toList ++ rest)) =
          some (block, '\n' :: textOfLines (service.methods.flatMap Method.lines) ++
            "\x7d\n".toList ++ rest) ∧
      block.service? package.toList =
        some (Service.declared package service.name service.methods) := by
  have hbalanced : Balanced (textOfLines (service.methods.flatMap Method.lines)) := by
    rw [textOfLines_flatMap]
    exact .flatMap fun method hm => Method.balanced_lines (h.methods method hm)
  refine ⟨_, serviceHead_headLine h.name _, ?_⟩
  rw [ServiceBlock.service?, balancedRegion_block hbalanced, findMethods_lines h.methods,
    String.ofList_toList, String.ofList_toList]
  cases hmethods : service.methods with
  | nil => exact absurd hmethods h.methods_ne_nil
  | cons => rfl

/-- A search for services passes over the line of a package. The keyword of that line ends in the
same letter as that of a service, so it is passed over for its other letters. -/
theorem silent_packageLines {package : String} (h : IsPackageName package) (rest : List Char) :
    Silent serviceHead (textOfLines (packageLines package)) rest := by
  unfold packageLines
  split
  · exact fun tail ht hne => absurd (List.suffix_nil.1 ht) hne
  · next hne =>
    have htext : textOfLines ["package " ++ package ++ ";"] =
        "package".toList ++ ' ' :: (package.toList ++ ";\n".toList) := by simp
    have hname : NoBlankAfter 'e' (package.toList ++ ";\n".toList) :=
      .append (.of_forall (h.isDottedName hne).not_blank) (by decide)
    rw [htext]
    refine .append (opens_serviceHead.silent_of_not_mem (rfl : _ = some 's') (by decide)) ?_
    refine opens_serviceHead.silent rfl (by decide) (by decide) hname ⟨'\n', ?_, by decide⟩
    rw [← List.cons_append, List.getLast?_append]
    rfl

/-- The services of a printed definition are found in their order. -/
theorem filterMap_findServices {package : String} {services : List ServiceDefinition}
    (hpackage : IsPackageName package) (h : ∀ service ∈ services, service.Printable) :
    (findServices (definitionText package services).toList).filterMap
        (ServiceBlock.service? package.toList) =
      services.map fun service => Service.declared package service.name service.methods := by
  have htext : (definitionText package services).toList = textOfLines (packageLines package) ++
      services.flatMap fun service => service.headLine.toList ++
        ('\n' :: textOfLines (service.methods.flatMap Method.lines) ++ "\x7d\n".toList) := by
    rw [definitionText, String.toList_ofList, textOfLines_append, textOfLines_flatMap]
    simp only [ServiceDefinition.textOfLines_lines]
  have hstart : atWordStart ((textOfLines (packageLines package)).getLast?.or none) = true := by
    unfold packageLines
    split
    · rfl
    · rw [textOfLines_cons, textOfLines_nil, List.getLast?_concat]
      decide
  have hsilent : ∀ service ∈ services, ∀ rest, Silent serviceHead ('\n' ::
      textOfLines (service.methods.flatMap Method.lines) ++ "\x7d\n".toList) rest := by
    intro service hs
    refine opens_serviceHead.silent_block (rfl : _ = some 'e') (by decide) ?_ (by decide)
    rw [textOfLines_flatMap]
    exact .flatMap fun method hm => Method.noBlankAfter_lines ((h service hs).methods method hm)
  rw [findServices, occurrences, htext, occurrencesFrom_silent (silent_packageLines hpackage _)]
  refine filterMap_occurrencesFrom hstart (fun service hs => ⟨?_, ?_⟩) hsilent
    fun service _ => ⟨'\n', getLast?_block, by decide⟩
  · simp [ServiceDefinition.headLine]
  · intro rest
    exact service?_headLine (h service hs) package rest

/-- **A printed definition is read back.** The services that a printed definition declares are the
ones it was printed from: each service in its place with its package and its name, and with every
method, type, verb, path and selector. -/
theorem servicesOf_definitionText {package : String} {services : List ServiceDefinition}
    (hpackage : IsPackageName package) (h : ∀ service ∈ services, service.Printable) :
    servicesOf (definitionText package services) =
      services.map fun service => Service.declared package service.name service.methods := by
  rw [servicesOf, findPackage_definitionText hpackage h]
  exact filterMap_findServices hpackage h

/-- Services whose names, types and paths look like the text around them. -/
def lookalikes : List ServiceDefinition :=
  [{ name := "service"
     methods :=
      [{ name := "rpc", inputType := "service", outputType := ".returns.rpc"
         binding := { verb := .put, pathTemplate := "/get:x/\x7bname=post:*\x7d/service"
                      bodySelector := some "get:" } },
       { name := "returns", inputType := "rpc", outputType := "option"
         binding := { verb := .delete, pathTemplate := "body:\x7b\x7b\x7d\x7d" } }] },
   { name := "package"
     methods :=
      [{ name := "service", inputType := "body", outputType := "google.api.http"
         binding := { verb := .patch, pathTemplate := "service", bodySelector := some "*" } }] }]

/-- Names, types and paths that look like keywords and entries are read back all the same. -/
theorem servicesOf_definitionText_lookalikes :
    IsPackageName "service.package" ∧ (∀ service ∈ lookalikes, service.Printable) ∧
      servicesOf (definitionText "service.package" lookalikes) =
        lookalikes.map fun service =>
          Service.declared "service.package" service.name service.methods := by
  have hpackage : IsPackageName "service.package" := by decide +kernel
  have hservices : ∀ service ∈ lookalikes, service.Printable := by decide +kernel
  exact ⟨hpackage, hservices, servicesOf_definitionText hpackage hservices⟩

end Transcoding
