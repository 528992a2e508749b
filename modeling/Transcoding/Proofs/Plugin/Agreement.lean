import Transcoding.Proofs.CommandLine.Generate
import Transcoding.Proofs.Plugin.Response

/-!
# Plugin exchanges and local generation

The plugin and the `generate` command give the same document for the same definitions and the same
settings (`PluginRequest.respond_agrees`). They differ where there is nothing to generate: that is a
response without files, but an error of the command.
-/

namespace Transcoding

open Transcoding.CommandLine

namespace PluginRequest

/-- The settings of a request are those that its parameter gives. -/
theorem settings_of_apply {request : PluginRequest} {parameter : String} {settings : Settings}
    (hrequest : request.parameter = some parameter)
    (h : ({} : Settings).apply parameter = (settings, none)) :
    request.settings = .ok settings := by
  rw [PluginRequest.settings, hrequest]
  dsimp only
  rw [h]

/-- A response has no error if the adapter of the request is generated. -/
theorem respond_error_eq_none_iff {request : PluginRequest} {settings : Settings}
    (hsettings : request.settings = .ok settings) :
    request.respond.error = none ↔
      ∃ adapter, generateAdapter settings request.services = .ok adapter := by
  cases h : generateAdapter settings request.services with
  | error error =>
    have hadapter : request.adapter = .error error := by
      rw [adapter_eq, hsettings]
      exact h
    simp [respond_of_error hadapter, PluginResponse.failed]
  | ok adapter => simp [respond_of_ok hsettings h]

/-- The response to a request that has services and an adapter. -/
theorem respond_of_ne_nil {request : PluginRequest} {settings : Settings} {adapter : Adapter}
    (hsettings : request.settings = .ok settings) (hne : request.services ≠ [])
    (h : generateAdapter settings request.services = .ok adapter) :
    request.respond = {
      files := [{ name := settings.outputFile, content := adapter.content }]
      services := adapter.summary.services
      methodCount := adapter.summary.methodCount } := by
  obtain ⟨-, hsummary⟩ := generateAdapter_eq_ok h
  rw [respond_of_ok hsettings h, if_neg (by simpa using hne), hsummary,
    ModelSummary.methodCount_ofServices]
  rfl

/-- The response to a request without services. -/
theorem respond_of_eq_nil {request : PluginRequest} {settings : Settings}
    (hsettings : request.settings = .ok settings) (hempty : request.services = []) :
    request.respond = {} := by
  obtain ⟨adapter, h⟩ : ∃ adapter, generateAdapter settings request.services = .ok adapter := by
    rw [hempty]
    exact ⟨_, rfl⟩
  rw [respond_of_ok hsettings h, hempty]
  rfl

/-- **The plugin agrees with the command.** The plugin gives the document that is written locally.
Without services it gives no document and no error, and the command fails: it has nothing to
generate, or not even a file. -/
theorem respond_agrees {request : PluginRequest} {parameter : String} {settings : Settings}
    {volume : Volume} {paths : List String} (hrequest : request.parameter = some parameter)
    (hparameter : ({} : Settings).apply parameter = (settings, none))
    (hfiles : List.Forall₂ volume.Holds paths (request.files.map (·.content))) :
    ∃ services,
      (∀ console, EndsOn (loadServices Volume.access console paths) volume (.ok services)
        volume) ∧
      (services ≠ [] →
        (request.respond.error = none ↔
          ∃ adapter, generateAdapter settings services = .ok adapter) ∧
        ∀ adapter, generateAdapter settings services = .ok adapter →
          request.respond = {
            files := [{ name := settings.outputFile, content := adapter.content }]
            services := adapter.summary.services
            methodCount := adapter.summary.methodCount } ∧
          WritesAdapter settings services adapter) ∧
      (services = [] →
        request.respond = {} ∧
        GenerationFails volume paths
          (if paths = [] then .noDefinitions else .nothingToGenerate .noServices)) := by
  have hsettings := settings_of_apply hrequest hparameter
  refine ⟨request.services, endsOn_loadServices hfiles, fun hne => ?_, fun hempty => ?_⟩
  · exact ⟨respond_error_eq_none_iff hsettings, fun adapter h =>
      ⟨respond_of_ne_nil hsettings hne h, writesAdapter_of_generate h⟩⟩
  · refine ⟨respond_of_eq_nil hsettings hempty, ?_⟩
    split
    · next hpaths =>
      rw [hpaths]
      exact generationFails_nil volume
    · next hpaths => exact generationFails_of_empty hfiles hpaths hempty

/-- A volume with the file of the request. -/
def getUserVolume : Volume := ((Volume.emptyAt []).writeText "users.proto" getUserText).1

/-- The file of the volume holds the text. -/
theorem getUserVolume_holds : getUserVolume.Holds "users.proto" getUserText := by
  have h : ((Volume.emptyAt []).writeText "users.proto" getUserText).2 = .ok () := by
    decide +kernel
  exact Volume.find_of_writeOctets (Prod.ext rfl h)

/-- The document of one method, as a response and as a file. -/
theorem respond_agrees_getUser :
    ∃ (adapter : Adapter) (finish : Volume),
      getUser.respond.files = [{ name := "users.rs", content := adapter.content }] ∧
        (writeAdapter Volume.access { outputFile := "users.rs" } [getUserService] "out").run.run
          getUserVolume = (.ok adapter, finish) ∧
        finish.Holds "out/users.rs" adapter.content := by
  have hparameter : ({} : Settings).apply "output_file=users.rs" =
      ({ outputFile := "users.rs" }, none) := by
    decide +kernel
  have hfiles : List.Forall₂ getUserVolume.Holds ["users.proto"]
      (getUser.files.map (·.content)) :=
    .cons getUserVolume_holds .nil
  obtain ⟨services, hload, hserved, -⟩ := respond_agrees rfl hparameter hfiles
  obtain rfl : services = [getUserService] := by
    obtain ⟨_, hleft⟩ := hload { stream := .output, verbose := false } {}
    obtain ⟨_, hright⟩ := endsOn_loadServices hfiles { stream := .output, verbose := false } {}
    rw [services_getUser] at hright
    cases hleft.symm.trans hright
    rfl
  obtain ⟨-, hserved⟩ := hserved (by decide)
  have hgenerated : (generateAdapter { outputFile := "users.rs" } [getUserService]).toBool := by
    decide +kernel
  have hwritten : ((writeAdapter Volume.access { outputFile := "users.rs" } [getUserService]
      "out").run.run getUserVolume).1.toBool := by
    decide +kernel
  have hpath : ({ outputFile := "users.rs" } : Settings).outputPath "out" = "out/users.rs" := by
    decide +kernel
  cases hadapter : generateAdapter { outputFile := "users.rs" } [getUserService] with
  | error error =>
    rw [hadapter] at hgenerated
    cases hgenerated
  | ok adapter =>
    obtain ⟨hresponse, hwrites⟩ := hserved adapter hadapter
    obtain ⟨result, finish, hrun⟩ : ∃ result finish,
        (writeAdapter Volume.access { outputFile := "users.rs" } [getUserService] "out").run.run
          getUserVolume = (result, finish) := ⟨_, _, rfl⟩
    rw [hrun] at hwritten
    rcases hwrites "out" getUserVolume result finish hrun with ⟨rfl, hholds⟩ | ⟨_, rfl | rfl⟩
    · rw [hpath] at hholds
      exact ⟨adapter, finish, by rw [hresponse], hrun, hholds⟩
    · cases hwritten
    · cases hwritten

end PluginRequest

/-- A command that finds no file says so: a model without services is not what it fails for. -/
theorem runGenerate_without_files :
    ∃ (volume : Volume) (options : GenerateOptions),
      PluginRequest.respond { files := [], parameter := some "" } = {} ∧
        Declaration.servicesOfAll [] = [] ∧
        EndsOn (runGenerate Volume.access options false) volume (.error .noDefinitions) volume := by
  refine ⟨{ root := .directory [("protos", .empty)], working := [] },
    { source := .directory "protos" }, by decide +kernel, rfl, ?_⟩
  refine generationFails_nil _ _ false {} ?_ (endsOn_pure _ _)
  exact fun before => ⟨_, rfl⟩

end Transcoding
