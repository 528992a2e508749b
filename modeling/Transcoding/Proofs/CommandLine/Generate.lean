import Transcoding.CommandLine.Program
import Transcoding.Proofs.Adapter.Output
import Transcoding.Proofs.CommandLine.Session
import Transcoding.Proofs.Result

/-!
# Local generation

The services of files are those of their texts, one file after the other (`endsOn_loadServices`).
Where that gives no service, the `generate` command fails before it writes anything
(`generationFails_of_empty`).
-/

namespace Transcoding.CommandLine

/-- The text of a definition file. -/
def sourceTextOn (volume : Volume) (path : String) : Except CommandError String :=
  (volume.readText path).mapError fun fault => .sourceNotLoaded path (.unreadableSource path fault)

/-- Files are read in their order, up to the first one that cannot be read. -/
theorem endsOn_services (console : Console) (paths : List String) (volume : Volume) :
    EndsOn (loadServices Volume.access console paths) volume
      ((paths.mapM (sourceTextOn volume)).map Declaration.servicesOfAll) volume := by
  induction paths with
  | nil => exact endsOn_pure [] volume
  | cons path paths ih =>
    have hread := endsOn_attempt (.sourceNotLoaded path) (readSource_run volume path)
    rw [List.mapM_cons, sourceTextOn]
    cases htext : volume.readText path with
    | error fault =>
      rw [htext] at hread
      exact hread.bind_error
    | ok text =>
      rw [htext] at hread
      refine hread.bind ((endsOn_detail console _ volume).bind ?_)
      cases htexts : paths.mapM (sourceTextOn volume) with
      | error error =>
        rw [htexts] at ih
        exact ih.bind_error
      | ok texts =>
        rw [htexts] at ih
        exact ih.bind (endsOn_pure _ volume)

/-- The services of files that hold texts are those of the texts. -/
theorem endsOn_loadServices {volume : Volume} {paths texts : List String}
    (h : List.Forall₂ volume.Holds paths texts) (console : Console) :
    EndsOn (loadServices Volume.access console paths) volume
      (.ok (Declaration.servicesOfAll texts)) volume := by
  have htexts : paths.mapM (sourceTextOn volume) = .ok texts := by
    refine mapM_eq_ok_iff.2 (h.imp fun path text hfile => ?_)
    rw [sourceTextOn, hfile.readText_eq]
    rfl
  have hends := endsOn_services console paths volume
  rw [htexts] at hends
  exact hends

/-! ## Models without services -/

/-- The `generate` command fails with the error and leaves the volume as it is, for all options that
name the files and whose settings can be read. -/
def GenerationFails (volume : Volume) (paths : List String) (error : CommandError) : Prop :=
  ∀ (options : GenerateOptions) (verbose : Bool) (chosen : Settings),
    EndsOn (chosenSources Volume.access { stream := .output, verbose } options.source) volume
      (.ok paths) volume →
    EndsOn (chosenSettings Volume.access options) volume (.ok chosen) volume →
    EndsOn (runGenerate Volume.access options verbose) volume (.error error) volume

/-- The announcement of a command leaves the volume as it is. -/
theorem endsOn_announce (console : Console) (volume : Volume) :
    EndsOn (announce console) volume (.ok ()) volume := by
  unfold announce
  split
  · exact endsOn_writeLine console.stream _ volume
  · exact endsOn_pure () volume

/-- The command needs a file. -/
theorem generationFails_nil (volume : Volume) : GenerationFails volume [] .noDefinitions := by
  intro options verbose chosen hsources _
  refine (endsOn_announce _ volume).bind (hsources.bind ?_)
  exact endsOn_throw .noDefinitions volume

/-- The command needs a service. -/
theorem generationFails_of_empty {volume : Volume} {paths texts : List String}
    (hfiles : List.Forall₂ volume.Holds paths texts) (hpaths : paths ≠ [])
    (hempty : Declaration.servicesOfAll texts = []) :
    GenerationFails volume paths (.nothingToGenerate .noServices) := by
  intro options verbose chosen hsources hsettings
  have hloaded := endsOn_loadServices hfiles { stream := .output, verbose }
  rw [hempty] at hloaded
  refine (endsOn_announce _ volume).bind (hsources.bind ?_)
  rw [if_neg (by simpa using hpaths)]
  refine hsettings.bind ?_
  refine (endsOn_detail _ _ volume).bind ((endsOn_detail _ _ volume).bind ?_)
  refine (endsOn_detail _ _ volume).bind ((endsOn_writeLine _ _ volume).bind ?_)
  exact hloaded.bind (endsOn_throw (.nothingToGenerate .noServices) volume)

end Transcoding.CommandLine
