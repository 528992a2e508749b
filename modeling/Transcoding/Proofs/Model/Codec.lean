import Transcoding.Model.Codec
import Transcoding.Proofs.Json.Form

/-!
# The service model survives JSON

Each part of a model has its forms as JSON: a verb is its name or an object that maps the name to
null, a selector that is absent may be left out or be null, and a structure is a record
(`HttpBinding.Form`, `Method.Form`, `Service.Form`). Services are read from exactly their forms
(`servicesOfTree?_eq_some_iff`). What is written is one of them (`form_servicesToJson`), so a list
of services is read back from its text.
-/

namespace Transcoding

open Transcoding.Json Transcoding.Json.Tree

/-! ## Forms -/

/-- The tree is a form of the verb. -/
def HttpVerb.Form (verb : HttpVerb) (tree : Tree) : Prop :=
  tree = .string (some verb.name) ∨ tree = .object [(some verb.name, .null)]

/-- The value of a field is a form of the selector. -/
def SelectorForm : Option String → Option Tree → Prop
  | none, value => value = none ∨ value = some .null
  | some text, value => value = some (.string (some text))

/-- The tree is a form of the binding. -/
def HttpBinding.Form (binding : HttpBinding) (tree : Tree) : Prop :=
  ∃ verb selector,
    RecordForm ["verb", "path_template", "body_selector"]
      [some verb, some (.string (some binding.pathTemplate)), selector] tree ∧
    binding.verb.Form verb ∧ SelectorForm binding.bodySelector selector

/-- The tree is a form of the method. -/
def Method.Form (method : Method) (tree : Tree) : Prop :=
  ∃ binding,
    RecordForm ["name", "input_type", "output_type", "binding"]
      [some (.string (some method.name)), some (.string (some method.inputType)),
        some (.string (some method.outputType)), some binding] tree ∧
    method.binding.Form binding

/-- The tree is a form of the service. -/
def Service.Form (service : Service) (tree : Tree) : Prop :=
  ∃ methods,
    RecordForm ["package_name", "service_name", "full_name", "methods"]
      [some (.string (some service.packageName)), some (.string (some service.serviceName)),
        some (.string (some service.fullName)), some (.array methods)] tree ∧
    List.Forall₂ (fun item method => Method.Form method item) methods service.methods

/-- The tree is a form of the services: an array of their forms, in their order. -/
def ServicesForm (services : List Service) (tree : Tree) : Prop :=
  ∃ items, tree = .array items ∧
    List.Forall₂ (fun item service => Service.Form service item) items services

/-! ## Reading -/

section
variable {tree : Tree}

/-- A verb is read from its name alone. -/
theorem HttpVerb.ofName?_eq_some_iff {verb : HttpVerb} {name : String} :
    HttpVerb.ofName? name = some verb ↔ name = verb.name := by
  rw [HttpVerb.ofName?]
  constructor
  · intro h
    have hname := List.find?_some h
    exact (eq_of_beq hname).symm
  · rintro rfl
    cases verb <;> rfl

/-- A verb is read from each form of it. -/
theorem HttpVerb.ofTree?_eq_some_iff {verb : HttpVerb} :
    HttpVerb.ofTree? tree = some verb ↔ verb.Form tree := by
  rw [HttpVerb.ofTree?, HttpVerb.Form, ← caseName?_eq_some_iff, Option.bind_eq_bind,
    Option.bind_eq_some_iff]
  simp only [HttpVerb.ofName?_eq_some_iff]
  constructor
  · rintro ⟨name, hname, rfl⟩
    exact hname
  · intro h
    exact ⟨verb.name, h, rfl⟩

/-- A selector is read from each form of it, which may be that there is none. -/
theorem readOr_eq_some_iff_selectorForm {selector : Option String} {value : Option Tree} :
    Tree.readOr Tree.textOrNull? none value = some selector ↔ SelectorForm selector value := by
  cases value with
  | none => cases selector <;> simp [Tree.readOr, SelectorForm]
  | some tree =>
    rw [Tree.readOr, textOrNull?_eq_some_iff]
    cases selector <;> simp [SelectorForm]

/-- A binding is read from forms of its parts. -/
theorem HttpBinding.parts_iff {binding : HttpBinding} {verb path : Tree} {selector : Option Tree} :
    ((Tree.readOr Tree.textOrNull? none selector).bind fun bodySelector =>
      (HttpVerb.ofTree? verb).bind fun verb => path.text?.bind fun pathTemplate =>
        some ({ verb, pathTemplate, bodySelector } : HttpBinding)) = some binding ↔
      path = .string (some binding.pathTemplate) ∧ binding.verb.Form verb ∧
        SelectorForm binding.bodySelector selector := by
  simp only [Option.bind_eq_some_iff, readOr_eq_some_iff_selectorForm,
    HttpVerb.ofTree?_eq_some_iff, text?_eq_some_iff]
  constructor
  · rintro ⟨_, hselector, _, hverb, _, hpath, hbinding⟩
    cases hbinding
    exact ⟨hpath, hverb, hselector⟩
  · rintro ⟨hpath, hverb, hselector⟩
    exact ⟨_, hselector, _, hverb, _, hpath, rfl⟩

/-- A binding is read from each form of it. -/
theorem HttpBinding.ofTree?_eq_some_iff {binding : HttpBinding} :
    HttpBinding.ofTree? tree = some binding ↔ binding.Form tree := by
  have hnames : ["verb", "path_template", "body_selector"].Nodup := by decide
  rw [HttpBinding.ofTree?, Option.bind_eq_bind, Option.bind_eq_some_iff]
  simp only [record?_eq_some_iff hnames]
  constructor
  · rintro ⟨values, hrecord, h⟩
    split at h
    · next verb path selector =>
      obtain ⟨rfl, hverb, hselector⟩ : path = .string (some binding.pathTemplate) ∧
          binding.verb.Form verb ∧ SelectorForm binding.bodySelector selector := by
        rw [← HttpBinding.parts_iff]
        cases selector <;> exact h
      exact ⟨verb, selector, hrecord, hverb, hselector⟩
    · cases h
  · rintro ⟨verb, selector, hrecord, hverb, hselector⟩
    have h := HttpBinding.parts_iff.2 ⟨rfl, hverb, hselector⟩
    refine ⟨_, hrecord, ?_⟩
    cases selector <;> exact h

/-- A method is read from each form of it. -/
theorem Method.ofTree?_eq_some_iff {method : Method} :
    Method.ofTree? tree = some method ↔ method.Form tree := by
  have hnames : ["name", "input_type", "output_type", "binding"].Nodup := by decide
  rw [Method.ofTree?, Option.bind_eq_bind, Option.bind_eq_some_iff]
  simp only [record?_eq_some_iff hnames]
  constructor
  · rintro ⟨values, hrecord, h⟩
    split at h
    · next name input output binding =>
      simp only [Option.bind_eq_bind, Option.pure_def, Option.bind_eq_some_iff, text?_eq_some_iff,
        HttpBinding.ofTree?_eq_some_iff] at h
      obtain ⟨_, rfl, _, rfl, _, rfl, _, hbinding, hmethod⟩ := h
      cases hmethod
      exact ⟨binding, hrecord, hbinding⟩
    · cases h
  · rintro ⟨binding, hrecord, hbinding⟩
    refine ⟨_, hrecord, ?_⟩
    simp only [Option.bind_eq_bind, Option.pure_def, Option.bind_eq_some_iff, text?_eq_some_iff,
      HttpBinding.ofTree?_eq_some_iff]
    exact ⟨_, rfl, _, rfl, _, rfl, _, hbinding, rfl⟩

/-- A service is read from each form of it. -/
theorem Service.ofTree?_eq_some_iff {service : Service} :
    Service.ofTree? tree = some service ↔ service.Form tree := by
  have hnames : ["package_name", "service_name", "full_name", "methods"].Nodup := by decide
  rw [Service.ofTree?, Option.bind_eq_bind, Option.bind_eq_some_iff]
  simp only [record?_eq_some_iff hnames]
  constructor
  · rintro ⟨values, hrecord, h⟩
    split at h
    · next package name fullName methods =>
      simp only [Option.bind_eq_bind, Option.pure_def, Option.bind_eq_some_iff, text?_eq_some_iff,
        list?_eq_some_iff, Method.ofTree?_eq_some_iff] at h
      obtain ⟨_, rfl, _, rfl, _, rfl, _, ⟨items, rfl, hmethods⟩, hservice⟩ := h
      cases hservice
      exact ⟨items, hrecord, hmethods⟩
    · cases h
  · rintro ⟨items, hrecord, hmethods⟩
    refine ⟨_, hrecord, ?_⟩
    simp only [Option.bind_eq_bind, Option.pure_def, Option.bind_eq_some_iff, text?_eq_some_iff,
      list?_eq_some_iff, Method.ofTree?_eq_some_iff]
    exact ⟨_, rfl, _, rfl, _, rfl, _, ⟨items, rfl, hmethods⟩, rfl⟩

/-- Services are read from their forms. -/
theorem servicesOfTree?_eq_some_iff {services : List Service} :
    servicesOfTree? tree = some services ↔ ServicesForm services tree := by
  rw [servicesOfTree?, list?_eq_some_iff, ServicesForm]
  simp only [Service.ofTree?_eq_some_iff]

/-- Services are read from a text that is read as a form of them. -/
theorem servicesOfText?_eq_some_iff {text : String} {services : List Service} :
    servicesOfText? text = some services ↔
      ∃ tree, readTreeOf text = .ok tree ∧ ServicesForm services tree := by
  rw [servicesOfText?, Option.bind_eq_bind, Option.bind_eq_some_iff]
  simp only [servicesOfTree?_eq_some_iff]
  cases readTreeOf text <;> simp [Except.toOption]

end

/-! ## Writing -/

/-- An object of the declared fields is a form of its record. -/
theorem recordForm_declaredFields {names : List String} {values : List (Option Tree)}
    (hlength : names.length = values.length) :
    RecordForm names values (.object (declaredFields names values)) := by
  refine @RecordForm.object _ _ _ [] hlength ?_ fun _ hfield => absurd hfield List.not_mem_nil
  rw [List.append_nil]

/-- The fields that are written for a binding are a form of it. -/
theorem HttpBinding.form_fields (binding : HttpBinding) :
    binding.Form (.ofValue (.object binding.fields)) := by
  obtain ⟨verb, path, selector⟩ := binding
  refine ⟨.string (some verb.name), selector.map fun text => .string (some text), ?_, .inl rfl, ?_⟩
  · cases selector <;> exact recordForm_declaredFields rfl
  · cases selector with
    | none => exact .inl rfl
    | some text => rfl

/-- What is written for a method is a form of it. -/
theorem Method.form_toJson (method : Method) : method.Form (.ofValue method.toJson) :=
  ⟨_, recordForm_declaredFields rfl, method.binding.form_fields⟩

/-- What is written for items is a form of each of them. -/
theorem forall₂_ofValues {α : Type} {write : α → Json} {form : Tree → α → Prop}
    (h : ∀ a, form (.ofValue (write a)) a) (items : List α) :
    List.Forall₂ form (Tree.ofValues (items.map write)) items := by
  induction items with
  | nil => exact .nil
  | cons a items ih => exact .cons (h a) ih

/-- What is written for a service is a form of it. -/
theorem Service.form_toJson (service : Service) : service.Form (.ofValue service.toJson) :=
  ⟨_, recordForm_declaredFields rfl, forall₂_ofValues Method.form_toJson service.methods⟩

/-- Services are written in one of their forms. -/
theorem form_servicesToJson (services : List Service) :
    ServicesForm services (.ofValue (servicesToJson services)) :=
  ⟨_, rfl, forall₂_ofValues Service.form_toJson services⟩

/-- What is written for services is exact. -/
theorem exact_servicesToJson (services : List Service) : Exact (servicesToJson services) := by
  have hbinding : ∀ binding : HttpBinding, Exact (.object binding.fields) := by
    rintro ⟨verb, path, selector⟩
    cases selector with
    | none => exact ⟨trivial, trivial, trivial⟩
    | some text => exact ⟨trivial, trivial, trivial, trivial⟩
  have hmethod : ∀ method : Method, Exact method.toJson := fun method =>
    ⟨trivial, trivial, trivial, hbinding method.binding, trivial⟩
  have hservice : ∀ service : Service, Exact service.toJson := fun service =>
    ⟨trivial, trivial, trivial, exact_array_map hmethod service.methods, trivial⟩
  exact exact_array_map hservice services

/-! ## Both ways -/

/-- Services are read back from each written form of their JSON. -/
theorem servicesOfText?_of_written {text : String} {services : List Service}
    (h : Written text.toList (servicesToJson services)) : servicesOfText? text = some services :=
  servicesOfText?_eq_some_iff.2 ⟨_, h.readTreeOf_eq, form_servicesToJson services⟩

/-- Services are read back from what is written without blanks. -/
theorem servicesOfText?_render (services : List Service) :
    servicesOfText? (servicesToJson services).render = some services := by
  refine servicesOfText?_of_written ?_
  rw [Json.render, String.toList_ofList]
  exact written_compact _ (exact_servicesToJson services)

/-- Services are read back from what is written with one item to a line. -/
theorem servicesOfText?_renderPretty (services : List Service) :
    servicesOfText? (servicesToJson services).renderPretty = some services := by
  refine servicesOfText?_of_written ?_
  rw [Json.renderPretty, String.toList_ofList]
  exact written_pretty 0 _ (exact_servicesToJson services)

/-- The text of the services that a text is read as. -/
def rewritten? (write : Json → String) (text : String) : Option String :=
  (servicesOfText? text).map fun services => write (servicesToJson services)

/-- **Services survive JSON.** Services are read back from what is written, without blanks or with
one item to a line. A text is read as the services that it is a form of. To write what was read
keeps the services, and to do so again changes nothing. -/
theorem services_survive_json :
    (∀ services : List Service,
      servicesOfText? (servicesToJson services).render = some services ∧
        servicesOfText? (servicesToJson services).renderPretty = some services) ∧
    (∀ text services, servicesOfText? text = some services ↔
      ∃ tree, readTreeOf text = .ok tree ∧ ServicesForm services tree) ∧
    ∀ write, write = Json.render ∨ write = Json.renderPretty →
      ∀ text written, rewritten? write text = some written →
        servicesOfText? written = servicesOfText? text ∧
          rewritten? write written = some written := by
  refine ⟨fun services => ⟨servicesOfText?_render services, servicesOfText?_renderPretty services⟩,
    fun text services => servicesOfText?_eq_some_iff, ?_⟩
  intro write hwrite text written h
  obtain ⟨services, hread, rfl⟩ := Option.map_eq_some_iff.1 h
  have hback : servicesOfText? (write (servicesToJson services)) = some services := by
    rcases hwrite with rfl | rfl
    · exact servicesOfText?_render services
    · exact servicesOfText?_renderPretty services
  refine ⟨hback.trans hread.symm, ?_⟩
  rw [rewritten?, hback, Option.map_some]

/-- A service with its fields out of order, an unknown field, a method as an array, a verb as an
object, and a selector that is null. -/
def unusualText : String :=
  "[\x7b\"methods\":[[\"M\",\"I\",\"O\",\x7b\"path_template\":\"/m\",\"note\":[1,\x7b\x7d]," ++
    "\"verb\":\x7b\"GET\":null\x7d,\"body_selector\":null\x7d]],\"service_name\":\"S\"," ++
    "\"full_name\":\"p.S\",\"package_name\":\"p\"\x7d]"

/-- The services of the text. -/
def unusualServices : List Service :=
  [.declared "p" "S" [{ name := "M", inputType := "I", outputType := "O"
                        binding := { verb := .get, pathTemplate := "/m" } }]]

/-- The services of an unusual text are read, and they are the same after they have been written. -/
theorem services_survive_json_unusual :
    (∃ tree, readTreeOf unusualText = .ok tree ∧ ServicesForm unusualServices tree) ∧
      servicesOfText? (servicesToJson unusualServices).renderPretty = some unusualServices ∧
      rewritten? Json.renderPretty (servicesToJson unusualServices).renderPretty =
        some (servicesToJson unusualServices).renderPretty := by
  obtain ⟨-, hforms, hrewritten⟩ := services_survive_json
  have hread : servicesOfText? unusualText = some unusualServices := by decide +kernel
  have hwritten : rewritten? Json.renderPretty unusualText =
      some (servicesToJson unusualServices).renderPretty := by
    rw [rewritten?, hread, Option.map_some]
  obtain ⟨hsame, hagain⟩ := hrewritten _ (.inr rfl) unusualText _ hwritten
  exact ⟨(hforms _ _).1 hread, hsame.trans hread, hagain⟩

end Transcoding
