import Transcoding.CommandLine.Session
import Transcoding.Disk.Basic

/-!
# Sessions on a volume

What a session gives on a volume (`runOn`), step by step. Where the result counts and not what was
written on the way to it, `EndsOn` leaves the transcripts out.
-/

namespace Transcoding.CommandLine

variable {α β : Type}

/-- What a session gives on a volume after a transcript, with the transcript and the volume at its
end. -/
def runOn (session : Session (StateM Volume) α) (before : Transcript) (volume : Volume) :
    (Except CommandError α × Transcript) × Volume :=
  ((session.run).run before).run volume

variable {session : Session (StateM Volume) α} {next : α → Session (StateM Volume) β}
  {before after : Transcript} {volume volume' : Volume}

/-- A session that ends with a value goes on with it, where the first part has left the streams and
the volume. -/
theorem runOn_bind_of_ok {value : α}
    (h : runOn session before volume = ((.ok value, after), volume')) :
    runOn (session >>= next) before volume = runOn (next value) after volume' := by
  simp only [runOn, ExceptT.run_bind, StateT.run_bind] at h ⊢
  rw [h]
  rfl

/-- The session ends with the result and turns the one volume into the other, whatever was written
before it. -/
def EndsOn (session : Session (StateM Volume) α) (volume : Volume)
    (result : Except CommandError α) (volume' : Volume) : Prop :=
  ∀ before, ∃ after, runOn session before volume = ((result, after), volume')

/-- A session that ends with a value and goes on with it ends as its second part does. -/
theorem EndsOn.bind {volume'' : Volume} {value : α} {result : Except CommandError β}
    (h : EndsOn session volume (.ok value) volume')
    (hnext : EndsOn (next value) volume' result volume'') :
    EndsOn (session >>= next) volume result volume'' := by
  intro before
  obtain ⟨middle, h⟩ := h before
  obtain ⟨after, hnext⟩ := hnext middle
  exact ⟨after, (runOn_bind_of_ok h).trans hnext⟩

/-- What fails first ends a session. -/
theorem EndsOn.bind_error {error : CommandError}
    (h : EndsOn session volume (.error error) volume') :
    EndsOn (session >>= next) volume (.error error) volume' := by
  intro before
  obtain ⟨after, h⟩ := h before
  refine ⟨after, ?_⟩
  simp only [runOn, ExceptT.run_bind, StateT.run_bind] at h ⊢
  rw [h]
  rfl

/-- A value leaves the volume as it is. -/
theorem endsOn_pure (value : α) (volume : Volume) :
    EndsOn (pure value) volume (.ok value) volume :=
  fun before => ⟨before, rfl⟩

/-- An error leaves the volume as it is. -/
theorem endsOn_throw (error : CommandError) (volume : Volume) :
    EndsOn (throw error : Session (StateM Volume) α) volume (.error error) volume :=
  fun before => ⟨before, rfl⟩

/-- A line on a stream leaves the volume as it is. -/
theorem endsOn_writeLine (stream : Stream) (text : String) (volume : Volume) :
    EndsOn (writeLine stream text) volume (.ok ()) volume :=
  fun _ => ⟨_, rfl⟩

/-- A detail leaves the volume as it is, whether it is written or not. -/
theorem endsOn_detail (console : Console) (text : String) (volume : Volume) :
    EndsOn (console.detail text) volume (.ok ()) volume := by
  unfold Console.detail
  split
  · exact endsOn_writeLine console.stream _ volume
  · exact endsOn_pure () volume

/-- A loop leaves the volume as it is if each of its rounds does and goes on. -/
theorem endsOn_forIn {body : α → PUnit → Session (StateM Volume) (ForInStep PUnit)}
    {volume : Volume} (h : ∀ item, EndsOn (body item ⟨⟩) volume (.ok (.yield ⟨⟩)) volume)
    (items : List α) : EndsOn (forIn items ⟨⟩ body) volume (.ok ⟨⟩) volume := by
  induction items with
  | nil => exact endsOn_pure _ volume
  | cons item items ih =>
    rw [List.forIn_cons]
    exact (h item).bind ih

/-- An action on the volume is a session that does the same. -/
theorem endsOn_liftM {action : StateM Volume α} {value : α}
    (h : action.run volume = (value, volume')) :
    EndsOn (liftM action : Session (StateM Volume) α) volume (.ok value) volume' := by
  intro before
  refine ⟨before, ?_⟩
  show ((Except.ok (action.run volume).1, before), (action.run volume).2) = _
  rw [h]

/-- An action on the disk ends a session as it ends itself. -/
theorem endsOn_attempt {action : ExceptT GeneratorError (StateM Volume) α}
    {result : Except GeneratorError α} (wrap : GeneratorError → CommandError)
    (h : action.run.run volume = (result, volume')) :
    EndsOn (attempt wrap action) volume (result.mapError wrap) volume' := by
  refine (endsOn_liftM h).bind ?_
  cases result with
  | ok value => exact endsOn_pure value volume'
  | error error => exact endsOn_throw (wrap error) volume'

end Transcoding.CommandLine
