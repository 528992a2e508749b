import Transcoding.CommandLine.Program
import Transcoding.Proofs.Adapter.Validation
import Transcoding.Proofs.CommandLine.Session
import Transcoding.Proofs.Json.Record
import Transcoding.Proofs.Text.Utf8
import Mathlib.Algebra.BigOperators.Group.List.Basic

/-!
# One response for each request

A response is read back from its text (`PluginResponse.ofText?_render`), and a request from each of
its written forms (`PluginRequest.ofText?_of_written`). A response has an error and nothing else, or
it covers the services of the request (`respondTo_answers`). The plugin writes that response and
nothing else to its output, whatever text it is given (`runPlugin_answers`).
-/

namespace Transcoding

open Transcoding.Json Transcoding.Text

/-! ## Records -/

/-- A file is read back from what is written for it. -/
theorem PluginFile.ofTree?_toJson (file : PluginFile) :
    PluginFile.ofTree? (.ofValue file.toJson) = some file :=
  rfl

namespace PluginResponse

/-- A response is read back from what is written for it. -/
theorem ofTree?_toJson (response : PluginResponse) :
    ofTree? (.ofValue response.toJson) = some response := by
  obtain ⟨files, services, methodCount, error⟩ := response
  have hrecord : Tree.record? false ["files", "services", "method_count", "error"]
      (.ofValue (toJson { files, services, methodCount, error })) =
      some [some (.ofValue (.array (files.map PluginFile.toJson))),
        some (.ofValue (.array (services.map .string))), some (.ofValue (.ofNat methodCount)),
        error.map fun s => .ofValue (.string s)] := by
    cases error <;> rfl
  have hfiles := Tree.list?_ofValue PluginFile.ofTree?_toJson files
  have hname : ∀ name, Tree.text? (.ofValue (.string name)) = some name := fun _ => rfl
  have hservices := Tree.list?_ofValue hname services
  have hcount : Tree.natural? (.ofValue (.ofNat methodCount)) = some methodCount := rfl
  simp [ofTree?, hrecord, hfiles, hservices, hcount, Tree.readOr_textOrNull?]

/-- What is written for a response is exact if its count can be written. -/
theorem exact_toJson {response : PluginResponse} (h : response.methodCount ≤ maxNatural) :
    response.toJson.Exact := by
  have hfile : ∀ file : PluginFile, file.toJson.Exact := fun _ => ⟨trivial, trivial, trivial⟩
  have hname : ∀ name : String, Exact (.string name) := fun _ => trivial
  have hfiles := exact_array_map hfile response.files
  have hservices := exact_array_map hname response.services
  have hcount : Exact (.ofNat response.methodCount) := h
  unfold toJson
  cases response.error with
  | none => exact ⟨hfiles, hservices, hcount, trivial⟩
  | some error => exact ⟨hfiles, hservices, hcount, trivial, trivial⟩

/-- A response is read back from its text, if 64 bits hold its count. -/
theorem ofText?_render {response : PluginResponse} (h : response.methodCount ≤ maxNatural) :
    ofText? response.toJson.render = some response := by
  rw [ofText?, readTreeOf_render (exact_toJson h)]
  exact ofTree?_toJson response

end PluginResponse

namespace PluginRequest

/-- A request as a record. The parameter is left out if there is none. -/
def toJson (request : PluginRequest) : Json :=
  .object <|
    [("files", .array (request.files.map PluginFile.toJson))] ++
    match request.parameter with
    | none => []
    | some parameter => [("parameter", .string parameter)]

/-- A request is read from each of its written forms. -/
theorem ofText?_of_written {request : PluginRequest} {text : String}
    (h : Written text.toList request.toJson) : ofText? text = some request := by
  obtain ⟨files, parameter⟩ := request
  have hrecord : Tree.record? false ["files", "parameter"]
      (.ofValue (toJson { files, parameter })) =
      some [some (.ofValue (.array (files.map PluginFile.toJson))),
        parameter.map fun s => .ofValue (.string s)] := by
    cases parameter <;> rfl
  have hfiles : Tree.readOr (Tree.list? PluginFile.ofTree?) []
      (some (.ofValue (.array (files.map PluginFile.toJson)))) = some files :=
    Tree.list?_ofValue PluginFile.ofTree?_toJson files
  simp [ofText?, h.readTreeOf_eq, Except.toOption, ofTree?, hrecord, hfiles,
    Tree.readOr_textOrNull?]

end PluginRequest

/-! ## Models -/

/-- Every service that is found has a method. -/
theorem Declaration.methods_ne_nil {texts : List String} {service : Service}
    (h : service ∈ servicesOfAll texts) : service.methods ≠ [] := by
  obtain ⟨text, -, h⟩ := List.mem_flatMap.1 h
  obtain ⟨block, -, h⟩ := List.mem_filterMap.1 h
  unfold ServiceBlock.service? at h
  split at h
  · cases h
  · next hmethods =>
    cases h
    exact hmethods

/-- The count of a summary is the number of the methods of all services. -/
theorem ModelSummary.methodCount_ofServices (services : List Service) :
    (ofServices services).methodCount = (services.map (·.methods.length)).sum := by
  rw [List.sum_eq_foldr, List.foldr_map]
  rfl

/-- The name and the summary of an adapter. -/
theorem generateAdapter_eq_ok {settings : Settings} {services : List Service} {adapter : Adapter}
    (h : generateAdapter settings services = .ok adapter) :
    adapter.fileName = settings.outputFile ∧
      adapter.summary = ModelSummary.ofServices services := by
  obtain ⟨modules, -, h⟩ := bind_eq_ok_iff.1 (generateAdapter_eq_ok_iff.1 h)
  cases h
  exact ⟨rfl, rfl⟩

/-! ## Answers -/

namespace PluginRequest

/-- The parameter of the request is rejected. -/
def ParameterRejected (request : PluginRequest) : Prop :=
  ∃ parameter error, request.parameter = some parameter ∧
    (({} : Settings).apply parameter).2 = some error

/-- A path template in the files of the request is rejected. -/
def TemplateRejected (request : PluginRequest) : Prop :=
  ∃ service ∈ Declaration.servicesOfAll (request.files.map (·.content)),
    ∃ method ∈ service.methods,
      ∃ fault, PathTemplate.parse method.binding.pathTemplate = .error fault

/-- The settings of a request cannot be read if its parameter is rejected. -/
theorem exists_settings_eq_error_iff {request : PluginRequest} :
    (∃ error, request.settings = .error error) ↔ request.ParameterRejected := by
  unfold settings ParameterRejected
  cases request.parameter with
  | none => simp
  | some parameter =>
    dsimp only
    split
    · next h => simp [h]
    · next h => simp [h]

/-- The adapter of a request is that of its settings and its services. -/
theorem adapter_eq (request : PluginRequest) :
    request.adapter =
      request.settings >>= fun settings => generateAdapter settings request.services :=
  rfl

/-- A request has no adapter if its parameter is rejected or one of its templates is. -/
theorem exists_adapter_eq_error_iff {request : PluginRequest} :
    (∃ error, request.adapter = .error error) ↔
      request.ParameterRejected ∨ request.TemplateRejected := by
  have htemplate : ∀ settings,
      (∃ error, generateAdapter settings request.services = .error error) ↔
        request.TemplateRejected := fun _ => exists_generateAdapter_eq_error_iff
  simp only [adapter_eq, bind_eq_error_iff, ← exists_settings_eq_error_iff]
  cases hsettings : request.settings with
  | error error => simp
  | ok settings =>
    rw [← htemplate settings]
    simp

/-- A request whose adapter is not generated is answered with the error. -/
theorem respond_of_error {request : PluginRequest} {error : GeneratorError}
    (h : request.adapter = .error error) : request.respond = .failed error.message := by
  rw [respond, h]

/-- The response to a request that has an adapter. -/
theorem respond_of_ok {request : PluginRequest} {settings : Settings} {adapter : Adapter}
    (hsettings : request.settings = .ok settings)
    (h : generateAdapter settings request.services = .ok adapter) :
    request.respond = {
      files := if request.services.isEmpty then []
        else [{ name := settings.outputFile, content := adapter.content }]
      services := request.services.map (·.fullName)
      methodCount := (request.services.map (·.methods.length)).sum } := by
  have hadapter : request.adapter = .ok adapter := bind_eq_ok_iff.2 ⟨settings, hsettings, h⟩
  obtain ⟨hname, hsummary⟩ := generateAdapter_eq_ok h
  rw [respond, hadapter]
  dsimp only
  rw [hname, hsummary, ModelSummary.methodCount_ofServices]
  simp [ModelSummary.isEmpty, ModelSummary.ofServices]

end PluginRequest

namespace PluginResponse

/-- The response covers the services and has the document of the settings for them, if there is
any. -/
structure Covers (response : PluginResponse) (settings : Settings) (services : List Service) :
    Prop where
  names : response.services = services.map (·.fullName)
  count : response.methodCount = (services.map (·.methods.length)).sum
  length_le : response.services.length ≤ response.methodCount
  files_eq_nil_iff : response.files = [] ↔ response.services = []
  files : response.services ≠ [] → ∃ adapter, generateAdapter settings services = .ok adapter ∧
    response.files = [{ name := settings.outputFile, content := adapter.content }]

/-- The response answers the text. -/
structure Answers (response : PluginResponse) (text : String) : Prop where
  error_iff : response.error ≠ none ↔ PluginRequest.ofText? text = none ∨
    ∃ request, PluginRequest.ofText? text = some request ∧
      (request.ParameterRejected ∨ request.TemplateRejected)
  failed : response.error ≠ none →
    response.files = [] ∧ response.services = [] ∧ response.methodCount = 0
  covers : response.error = none →
    ∃ request settings, PluginRequest.ofText? text = some request ∧
      request.settings = .ok settings ∧
      response.Covers settings (Declaration.servicesOfAll (request.files.map (·.content)))

end PluginResponse

/-- The response to a request whose adapter is generated covers its services. -/
theorem PluginRequest.respond_covers {request : PluginRequest} {settings : Settings}
    {adapter : Adapter} (hsettings : request.settings = .ok settings)
    (h : generateAdapter settings request.services = .ok adapter) :
    request.respond.Covers settings request.services := by
  rw [respond_of_ok hsettings h]
  refine ⟨rfl, rfl, ?_, ?_, fun hnames => ⟨adapter, h, ?_⟩⟩
  · have hmethods : ∀ count ∈ request.services.map (·.methods.length), 1 ≤ count := by
      rw [List.forall_mem_map]
      exact fun service hservice =>
        List.length_pos_iff.2 (Declaration.methods_ne_nil hservice)
    simpa using List.length_le_sum_of_one_le _ hmethods
  · cases request.services <;> simp
  · refine if_neg fun hempty => hnames ?_
    rw [List.isEmpty_iff.1 hempty, List.map_nil]

/-- The response to a text answers it. -/
theorem respondTo_answers (text : String) : (respondTo text).Answers text := by
  unfold respondTo
  cases htext : PluginRequest.ofText? text with
  | none =>
    exact ⟨by simp [PluginResponse.failed, htext], fun _ => ⟨rfl, rfl, rfl⟩, nofun⟩
  | some request =>
    dsimp only
    cases hadapter : request.adapter with
    | error error =>
      have hrejected := PluginRequest.exists_adapter_eq_error_iff.1 ⟨error, hadapter⟩
      rw [PluginRequest.respond_of_error hadapter]
      refine ⟨?_, fun _ => ⟨rfl, rfl, rfl⟩, nofun⟩
      simp [PluginResponse.failed, htext, hrejected]
    | ok adapter =>
      obtain ⟨settings, hsettings, h⟩ := bind_eq_ok_iff.1 hadapter
      have hcovers := PluginRequest.respond_covers hsettings h
      have hnone : request.respond.error = none := by rw [PluginRequest.respond_of_ok hsettings h]
      have haccepted : ¬ (request.ParameterRejected ∨ request.TemplateRejected) := by
        rw [← PluginRequest.exists_adapter_eq_error_iff, hadapter]
        simp
      refine ⟨?_, fun herror => absurd hnone herror, fun _ =>
        ⟨request, settings, htext, hsettings, hcovers⟩⟩
      simp [hnone, htext, haccepted]

/-! ## Exchanges -/

namespace CommandLine

/-- The plugin writes the response to a text and nothing else to its output. -/
theorem runOn_runPlugin (text : String) (verbose : Bool) (volume : Volume) :
    ∃ diagnostics, runOn (runPlugin (toOctets text.toList) verbose) {} volume =
      ((.ok (), { output := (respondTo text).toJson.render, diagnostics }), volume) := by
  suffices h : ∃ diagnostics, runOn (runPlugin (toOctets text.toList) verbose) {} volume =
      ((.ok (), { output := "" ++ (respondTo text).toJson.render, diagnostics }), volume) by
    rwa [String.empty_append] at h
  rw [runPlugin, ofOctets?_toOctets, String.ofList_toList]
  dsimp only
  split
  · split
    · exact ⟨_, rfl⟩
    · split
      · exact ⟨_, rfl⟩
      · exact ⟨_, rfl⟩
  · split
    · exact ⟨_, rfl⟩
    · split
      · exact ⟨_, rfl⟩
      · exact ⟨_, rfl⟩

/-- A session that ends well ends the program with status zero. -/
theorem ending_of_runOn {session : Session (StateM Volume) Unit} {transcript : Transcript}
    {volume volume' : Volume} (h : runOn session {} volume = ((.ok (), transcript), volume')) :
    (ending (m := StateM Volume) session).run volume = ({ status := 0, transcript }, volume') := by
  unfold runOn at h
  simp only [ending, StateT.run_bind, h]
  rfl

/-- **Every text is answered.** Each text in UTF-8 is answered with one response, which is read back
from the output. A text that is a written form of a request is read as that request. -/
theorem runPlugin_answers (text : String) (verbose : Bool) (volume : Volume) :
    ∃ (response : PluginResponse) (diagnostics : String),
      (ending (m := StateM Volume) (runPlugin (toOctets text.toList) verbose)).run volume =
        ({ status := 0, transcript := { output := response.toJson.render, diagnostics } },
          volume) ∧
      response.Answers text ∧
      (response.methodCount ≤ maxNatural →
        PluginResponse.ofText? response.toJson.render = some response) ∧
      ∀ request : PluginRequest, Written text.toList request.toJson →
        PluginRequest.ofText? text = some request := by
  obtain ⟨diagnostics, hrun⟩ := runOn_runPlugin text verbose volume
  exact ⟨respondTo text, diagnostics, ending_of_runOn hrun, respondTo_answers text,
    PluginResponse.ofText?_render, fun _ => PluginRequest.ofText?_of_written⟩

end CommandLine

/-- A definition with one method. -/
def PluginRequest.getUserText : String :=
  "service Users \x7b\n  rpc Get(Request) returns (Item) \x7b\n" ++
    "    option (google.api.http) = \x7b get: \"/v1/users/\x7bid\x7d\" \x7d;\n  \x7d\n\x7d\n"

/-- A request for the adapter of one method, under a name of its own. -/
def PluginRequest.getUser : PluginRequest where
  files := [{ name := "users.proto", content := getUserText }]
  parameter := some "output_file=users.rs"

/-- The service of the definition. -/
def PluginRequest.getUserService : Service :=
  Service.single "" "Users" "/v1/users/\x7bid\x7d"

/-- The model of the request. -/
theorem PluginRequest.services_getUser :
    Declaration.servicesOfAll (getUser.files.map (·.content)) = [getUserService] := by
  decide +kernel

/-- The request is accepted. -/
theorem PluginRequest.getUser_accepted :
    ¬ (getUser.ParameterRejected ∨ getUser.TemplateRejected) := by
  rintro (⟨parameter, error, hparameter, herror⟩ | ⟨service, hservice, method, hmethod, fault, h⟩)
  · cases hparameter
    have hnone : (({} : Settings).apply "output_file=users.rs").2 = none := by decide +kernel
    cases hnone.symm.trans herror
  · rw [services_getUser, List.mem_singleton] at hservice
    subst hservice
    rw [getUserService, Service.single, Service.declared, List.mem_singleton] at hmethod
    subst hmethod
    have hok : (PathTemplate.parse "/v1/users/\x7bid\x7d").toBool = true := by decide +kernel
    rw [h] at hok
    cases hok

/-- The response to a request for one method. -/
theorem CommandLine.runPlugin_answers_getUser :
    ∃ (response : PluginResponse) (content : String),
      PluginRequest.ofText? PluginRequest.getUser.toJson.render = some .getUser ∧
        PluginResponse.ofText? response.toJson.render = some response ∧
        response.services = ["Users"] ∧ response.methodCount = 1 ∧
        response.files = [{ name := "users.rs", content }] := by
  obtain ⟨response, -, -, hanswers, hread, hrequest⟩ :=
    runPlugin_answers PluginRequest.getUser.toJson.render false (.emptyAt [])
  have htext : PluginRequest.ofText? PluginRequest.getUser.toJson.render = some .getUser := by
    refine hrequest .getUser ?_
    rw [render, String.toList_ofList]
    exact written_compact _ ⟨⟨⟨trivial, trivial, trivial⟩, trivial⟩, trivial, trivial⟩
  have herror : response.error = none := by
    by_contra hne
    rcases hanswers.error_iff.1 hne with h | ⟨request, h, hrejected⟩
    · cases h.symm.trans htext
    · cases h.symm.trans htext
      exact PluginRequest.getUser_accepted hrejected
  obtain ⟨request, settings, h, hsettings, hcovers⟩ := hanswers.covers herror
  cases h.symm.trans htext
  rw [PluginRequest.services_getUser] at hcovers
  obtain ⟨adapter, -, hfiles⟩ := hcovers.files (by rw [hcovers.names]; decide)
  have hparameter : PluginRequest.getUser.settings = .ok { outputFile := "users.rs" } := by
    decide +kernel
  cases hsettings.symm.trans hparameter
  exact ⟨response, adapter.content, htext, hread (by rw [hcovers.count]; decide), hcovers.names,
    hcovers.count, hfiles⟩

end Transcoding
