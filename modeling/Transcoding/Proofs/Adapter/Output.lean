import Transcoding.Adapter.Output
import Transcoding.Proofs.Disk.Volume

/-!
# Definitions and documents on a volume

The text of a definition is what is read from its file (`readSource_run`). An adapter that can be
generated is what is written into a directory, unless the disk is in the way of it
(`writesAdapter_of_generate`).
-/

namespace Transcoding

/-- An action on the volume that comes first in a run hands its value and its volume on. -/
theorem run_liftM_bind {ε α β : Type} {action : StateM Volume α}
    {next : α → ExceptT ε (StateM Volume) β} {value : α} {volume volume' : Volume}
    (h : action.run volume = (value, volume')) :
    (liftM action >>= next).run.run volume = (next value).run.run volume' := by
  show (next (action.run volume).1).run.run (action.run volume).2 = _
  rw [h]

/-- Reading a text leaves the volume as it is. -/
theorem readText_run (volume : Volume) (path : String) :
    (Volume.access.readText path).run volume = (volume.readText path, volume) :=
  rfl

/-- Reading a source gives the text at the path or the reason why there is none, and it leaves the
volume as it is. -/
theorem readSource_run (volume : Volume) (path : String) :
    (readSource Volume.access path).run.run volume =
      (((volume.readText path).map fun text => { origin := path, text }).mapError
        (.unreadableSource path), volume) := by
  refine (run_liftM_bind (readText_run volume path)).trans ?_
  cases volume.readText path <;> rfl

/-- What is done with an adapter that was generated: only the disk can be in the way of it. -/
theorem writeAdapter_run {settings : Settings} {services : List Service} {adapter : Adapter}
    (h : generateAdapter settings services = .ok adapter) (directory : String) (volume : Volume) :
    (writeAdapter Volume.access settings services directory).run.run volume =
      match volume.makeDirectories directory with
      | (middle, .error fault) => (.error (.directoryNotMade fault), middle)
      | (middle, .ok ()) =>
        match middle.writeText (settings.outputPath directory) adapter.content with
        | (volume', .error fault) =>
          (.error (.documentNotWritten (settings.outputPath directory) fault), volume')
        | (volume', .ok ()) => (.ok adapter, volume') := by
  have hmade : (Volume.access.makeDirectories directory).run volume =
      (volume.makeDirectories directory).swap := rfl
  rcases hmake : volume.makeDirectories directory with ⟨middle, made⟩
  rw [hmake] at hmade
  rw [writeAdapter, h, writeAdapter.liftExcept, pure_bind]
  refine (run_liftM_bind hmade).trans ?_
  cases made with
  | error fault => rfl
  | ok _ =>
    dsimp only
    have hwritten : (Volume.access.writeText (settings.outputPath directory) adapter.content).run
        middle = (middle.writeText (settings.outputPath directory) adapter.content).swap := rfl
    rcases hwrite : middle.writeText (settings.outputPath directory) adapter.content with
      ⟨volume', written⟩
    rw [hwrite] at hwritten
    refine (run_liftM_bind hwritten).trans ?_
    cases written <;> rfl

/-- The adapter is what is written into a directory, unless the disk is in the way of it. -/
def WritesAdapter (settings : Settings) (services : List Service) (adapter : Adapter) : Prop :=
  ∀ directory start result finish,
    (writeAdapter Volume.access settings services directory).run.run start = (result, finish) →
    result = .ok adapter ∧ finish.Holds (settings.outputPath directory) adapter.content ∨
      ∃ fault, result = .error (.directoryNotMade fault) ∨
        result = .error (.documentNotWritten (settings.outputPath directory) fault)

/-- An adapter that can be generated is what is written. -/
theorem writesAdapter_of_generate {settings : Settings} {services : List Service}
    {adapter : Adapter} (h : generateAdapter settings services = .ok adapter) :
    WritesAdapter settings services adapter := by
  intro directory start result finish hrun
  rw [writeAdapter_run h] at hrun
  split at hrun
  · next fault _ =>
    cases hrun
    exact .inr ⟨fault, .inl rfl⟩
  · split at hrun
    · next fault _ =>
      cases hrun
      exact .inr ⟨fault, .inr rfl⟩
    · next hwrite =>
      cases hrun
      exact .inl ⟨rfl, Volume.find_of_writeOctets hwrite⟩

end Transcoding
