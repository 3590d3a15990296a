import PictureReconstruct.Library.Runs

/-! # The thread of a `CameraCapture`

`start`, `stop` and the destructor on one side, `captureLoop` on the other, step by step.  What the
loop does with an image touches neither `running_` nor `worker_` and is left out.

* `step`: the steps of both threads.
* `Sound`, `step_sound`: what `running_` says about `worker_`, in every state.
* `unjoinable_iff`: `worker_` is never joinable when it is assigned or destroyed, exactly as long as
  no start and no destruction follows a `captureLoop` that could not open the camera.
* `opened_never_terminates`: a camera that can be opened is never the reason for `std::terminate`.
-/

namespace PictureReconstruct.Capture

open Library.Runs

/-- Where `captureLoop` is. -/
inductive CaptureLoop
  | opening
  /-- the camera could not be opened; `running_ = false` is next -/
  | unopened
  /-- has returned without the camera -/
  | gaveUp
  /-- has read `reads` images to warm up -/
  | warming (reads : Nat)
  | looping
  /-- has left the loop; `running_ = false` is next -/
  | releasing
  | ended
deriving DecidableEq

/-- Where the thread is that owns the `CameraCapture`. -/
inductive OwnerCall
  /-- between two calls -/
  | idle
  /-- `start` has read `running_` -/
  | starting
  /-- `start` assigns `worker_` next -/
  | assigning
  /-- `stop` has read `running_` -/
  | stopping (destructor : Bool)
  | joining (destructor : Bool)
  /-- `worker_` is destroyed next -/
  | destroying
  | destroyed
  /-- `std::terminate` has been called -/
  | terminated
deriving DecidableEq

structure CameraCapture where
  running : Bool := false
  /-- the thread of `worker_`, as long as that is joinable -/
  worker : Option CaptureLoop := none
  owner : OwnerCall := .idle
deriving DecidableEq

inductive CameraEvent
  | start
  | stop
  | destroy
  /-- the owner takes the next step of its call -/
  | proceed
  | openCamera (opened : Bool)
  /-- `captureLoop` takes its next step -/
  | work
deriving DecidableEq

namespace CameraCapture

/-- The test of `running_` that `stop` begins with; a destructor behind it destroys the members. -/
def testStop (destructor : Bool) (camera : CameraCapture) : CameraCapture :=
  if camera.running then { camera with owner := .stopping destructor }
  else { camera with owner := if destructor then .destroying else .idle }

/-- A thread that can be joined at once. -/
def finished : Option CaptureLoop → Bool
  | none | some .gaveUp | some .ended => true
  | _ => false

def proceed (camera : CameraCapture) : CameraCapture :=
  match camera.owner with
  | .starting => { camera with owner := .assigning, running := true }
  | .assigning =>
    match camera.worker with
    | none => { camera with owner := .idle, worker := some .opening }
    | some _ => { camera with owner := .terminated }
  | .stopping destructor => { camera with owner := .joining destructor, running := false }
  | .joining destructor =>
    -- `join` returns when the thread has ended, and is left out without one
    if finished camera.worker then
      { camera with owner := if destructor then .destroying else .idle, worker := none }
    else camera
  | .destroying =>
    match camera.worker with
    | none => { camera with owner := .destroyed }
    | some _ => { camera with owner := .terminated }
  | _ => camera

def work (camera : CameraCapture) : CameraCapture :=
  match camera.worker with
  | some .unopened => { camera with worker := some .gaveUp, running := false }
  | some (.warming reads) =>
    -- `i < 10 && running_`
    if reads < 10 ∧ camera.running then { camera with worker := some (.warming (reads + 1)) }
    else { camera with worker := some .looping }
  | some .looping =>
    if camera.running then camera else { camera with worker := some .releasing }
  | some .releasing => { camera with worker := some .ended, running := false }
  | _ => camera

/-- The state after a step, or the same state where the step cannot be taken. -/
def step : CameraEvent → CameraCapture → CameraCapture
  | .start, camera =>
    if camera.owner = .idle ∧ camera.running = false then { camera with owner := .starting }
    else camera
  | .stop, camera => if camera.owner = .idle then camera.testStop false else camera
  | .destroy, camera => if camera.owner = .idle then camera.testStop true else camera
  | .proceed, camera => camera.proceed
  | .openCamera opened, camera =>
    match camera.worker with
    | some .opening =>
      { camera with worker := some (if opened then .warming 0 else .unopened) }
    | _ => camera
  | .work, camera => camera.work

end CameraCapture

/-! ## What `running_` says about `worker_` -/

/-- `running_` as it is for a thread of which no `stop` is in progress. -/
def Attached (running : Bool) : Option CaptureLoop → Prop
  | none | some .gaveUp => running = false
  | some .releasing | some .ended => False
  | some _ => running = true

/-- No thread is left to set `running_` to `false`. -/
def Quiet (worker : Option CaptureLoop) : Prop := worker = none ∨ worker = some .gaveUp

def Sound (camera : CameraCapture) : Prop :=
  match camera.owner with
  | .idle | .stopping _ => Attached camera.running camera.worker
  | .starting | .destroying => Quiet camera.worker
  | .assigning => camera.running = true ∧ Quiet camera.worker
  | .joining _ => camera.running = false
  | .destroyed | .terminated => True

section Sound

variable {camera : CameraCapture}

theorem Attached.quiet {worker : Option CaptureLoop} (attached : Attached false worker) :
    Quiet worker := by
  unfold Attached at attached
  split at attached
  · exact .inl rfl
  · exact .inr rfl
  · exact attached.elim
  · exact attached.elim
  · cases attached

/-- A thread that has given up takes no further step. -/
theorem Quiet.work (quiet : Quiet camera.worker) : camera.work = camera := by
  unfold CameraCapture.work
  cases quiet with
  | inl none => rw [none]
  | inr gaveUp => rw [gaveUp]

theorem Attached.work (attached : Attached camera.running camera.worker) :
    Attached camera.work.running camera.work.worker := by
  unfold CameraCapture.work
  cases held : camera.worker with
  | none => rwa [held] at attached ⊢
  | some position =>
    rw [held] at attached
    cases position with
    | unopened => rfl
    | warming reads =>
      dsimp only
      split <;> exact attached
    | looping =>
      -- no `stop` is in progress, so the loop goes on
      have running : camera.running = true := attached
      dsimp only
      rw [if_pos running, held]
      exact attached
    | releasing | ended => exact attached.elim
    | opening | gaveUp =>
      rw [held]
      exact attached

/-- No step of `captureLoop` sets `running_`. -/
theorem work_running (stopped : camera.running = false) : camera.work.running = false := by
  unfold CameraCapture.work
  split
  · rfl
  · split <;> exact stopped
  · split <;> exact stopped
  · rfl
  · exact stopped

@[simp] theorem work_owner (camera : CameraCapture) : camera.work.owner = camera.owner := by
  unfold CameraCapture.work
  split
  · rfl
  · split <;> rfl
  · split <;> rfl
  · rfl
  · rfl

theorem work_sound (sound : Sound camera) : Sound camera.work := by
  unfold Sound at sound ⊢
  rw [work_owner]
  cases position : camera.owner with
  | idle | stopping =>
    simp only [position] at sound
    exact sound.work
  | starting | destroying =>
    -- `captureLoop` has returned already, if there is one
    simp only [position] at sound
    exact sound.work.symm ▸ sound
  | assigning =>
    simp only [position] at sound
    exact sound.2.work.symm ▸ sound
  | joining =>
    simp only [position] at sound
    exact work_running sound
  | destroyed | terminated => trivial

theorem proceed_sound (sound : Sound camera) : Sound camera.proceed := by
  unfold Sound at sound
  unfold CameraCapture.proceed
  cases position : camera.owner with
  | idle => simpa only [Sound, position] using sound
  | starting =>
    simp only [position] at sound
    exact ⟨rfl, sound⟩
  | assigning =>
    -- nobody was left to clear the flag between the two steps of `start`
    simp only [position] at sound
    cases camera.worker with
    | none => exact sound.1
    | some => trivial
  | stopping => rfl
  | joining destructor =>
    simp only [position] at sound
    dsimp only
    split
    · cases destructor with
      | false => exact sound
      | true => exact .inl rfl
    · simpa only [Sound, position] using sound
  | destroying =>
    cases camera.worker with
    | none => trivial
    | some => trivial
  | destroyed | terminated => simp only [Sound, position]

theorem testStop_sound (destructor : Bool) (idle : camera.owner = .idle) (sound : Sound camera) :
    Sound (camera.testStop destructor) := by
  simp only [Sound, idle] at sound
  unfold CameraCapture.testStop
  split
  · exact sound
  · next stopped =>
    cases destructor with
    | false => exact sound
    | true =>
      rw [Bool.not_eq_true] at stopped
      exact (stopped ▸ sound).quiet

theorem openCamera_sound {opened : Bool} (sound : Sound camera) :
    Sound (camera.step (.openCamera opened)) := by
  simp only [CameraCapture.step]
  split
  · next opening =>
    unfold Sound at sound ⊢
    rw [opening] at sound
    cases position : camera.owner with
    | idle | stopping =>
      simp only [position] at sound ⊢
      cases opened <;> exact sound
    | starting | destroying | assigning => simp [position, Quiet] at sound
    | joining =>
      simp only [position] at sound ⊢
      exact sound
    | destroyed | terminated => trivial
  · exact sound

theorem step_sound (event : CameraEvent) (camera : CameraCapture) (sound : Sound camera) :
    Sound (camera.step event) := by
  cases event with
  | start =>
    simp only [CameraCapture.step]
    split
    · next stopped =>
      simp only [Sound, stopped.1, stopped.2] at sound
      exact sound.quiet
    · exact sound
  | stop | destroy =>
    simp only [CameraCapture.step]
    split
    · next idle => exact testStop_sound _ idle sound
    · exact sound
  | proceed => exact proceed_sound sound
  | openCamera opened => exact openCamera_sound sound
  | work => exact work_sound sound

end Sound

/-! ## Assignments and the destruction -/

/-- `worker_` is not joinable when it is assigned or destroyed. -/
def Unjoinable (camera : CameraCapture) : Prop :=
  camera.owner = .assigning ∨ camera.owner = .destroying → camera.worker = none

/-- Neither does a `start` go on behind its test of `running_` nor does a destruction begin while
    `worker_` is a thread that could not open the camera. -/
def Released (event : CameraEvent) (camera : CameraCapture) : Prop :=
  match event, camera.owner with
  | .proceed, .starting | .destroy, .idle => camera.worker ≠ some .gaveUp
  | _, _ => True

instance (camera : CameraCapture) : Decidable (Unjoinable camera) :=
  inferInstanceAs (Decidable (_ ∨ _ → _))

section Released

variable {camera : CameraCapture}

theorem unjoinable_of_owner (assigning : camera.owner ≠ .assigning)
    (destroying : camera.owner ≠ .destroying) : Unjoinable camera := by
  rintro (same | same)
  · exact absurd same assigning
  · exact absurd same destroying

theorem Quiet.none_iff {worker : Option CaptureLoop} (quiet : Quiet worker) :
    worker = none ↔ worker ≠ some .gaveUp := by
  cases quiet with
  | inl none => simp [none]
  | inr gaveUp => simp [gaveUp]

theorem testStop_unjoinable_iff (destructor : Bool) (idle : camera.owner = .idle)
    (sound : Sound camera) :
    Unjoinable (camera.testStop destructor) ↔
      (destructor = true → camera.worker ≠ some .gaveUp) := by
  simp only [Sound, idle] at sound
  unfold CameraCapture.testStop
  split
  · next running =>
    -- a thread that has given up has set `running_` to `false`
    refine iff_of_true (unjoinable_of_owner nofun nofun) fun _ gaveUp => ?_
    rw [running, gaveUp] at sound
    cases sound
  · next stopped =>
    rw [Bool.not_eq_true] at stopped
    rw [stopped] at sound
    cases destructor with
    | false => exact iff_of_true (unjoinable_of_owner nofun nofun) nofun
    | true =>
      rw [← sound.quiet.none_iff]
      exact ⟨fun unjoinable _ => unjoinable (.inr rfl), fun joined _ => joined rfl⟩

theorem proceed_unjoinable_iff (sound : Sound camera) (unjoinable : Unjoinable camera) :
    Unjoinable camera.proceed ↔ Released .proceed camera := by
  unfold Released CameraCapture.proceed
  unfold Sound at sound
  cases position : camera.owner with
  | starting =>
    simp only [position] at sound ⊢
    rw [← sound.none_iff]
    exact ⟨fun unjoinable => unjoinable (.inl rfl), fun joined _ => joined⟩
  | assigning | destroying =>
    dsimp only
    split <;> exact iff_of_true (unjoinable_of_owner nofun nofun) trivial
  | stopping => exact iff_of_true (unjoinable_of_owner nofun nofun) trivial
  | joining =>
    dsimp only
    split
    · -- the thread was joined
      exact iff_of_true (fun _ => rfl) trivial
    · exact iff_of_true unjoinable trivial
  | idle | destroyed | terminated => exact iff_of_true unjoinable trivial

theorem work_unjoinable (unjoinable : Unjoinable camera) : Unjoinable camera.work := by
  intro called
  rw [work_owner] at called
  have joined := unjoinable called
  have quiet : Quiet camera.worker := .inl joined
  rw [quiet.work]
  exact joined

theorem openCamera_unjoinable {opened : Bool} (unjoinable : Unjoinable camera) :
    Unjoinable (camera.step (.openCamera opened)) := by
  simp only [CameraCapture.step]
  split
  · next opening =>
    intro called
    rw [unjoinable called] at opening
    cases opening
  · exact unjoinable

theorem step_unjoinable_iff (event : CameraEvent) (camera : CameraCapture) (sound : Sound camera)
    (unjoinable : Unjoinable camera) :
    Unjoinable (camera.step event) ↔ Released event camera := by
  cases event with
  | start =>
    simp only [CameraCapture.step, Released]
    split
    · exact iff_of_true (unjoinable_of_owner nofun nofun) trivial
    · exact iff_of_true unjoinable trivial
  | stop =>
    simp only [CameraCapture.step, Released]
    split
    · next idle => exact iff_of_true ((testStop_unjoinable_iff false idle sound).mpr nofun) trivial
    · exact iff_of_true unjoinable trivial
  | destroy =>
    simp only [CameraCapture.step]
    split
    · next idle =>
      rw [testStop_unjoinable_iff true idle sound]
      simp only [Released, idle, true_imp_iff]
    · next busy =>
      refine iff_of_true unjoinable ?_
      unfold Released
      split
      · next same _ => cases same
      · next idle => exact absurd idle busy
      · trivial
  | proceed => exact proceed_unjoinable_iff sound unjoinable
  | openCamera opened => exact iff_of_true (openCamera_unjoinable unjoinable) trivial
  | work => exact iff_of_true (work_unjoinable unjoinable) trivial

end Released

/-- For every interleaving of the calls with `captureLoop`: `worker_` is not joinable whenever it is
    assigned or destroyed, exactly when no start and no destruction finds it with a thread that
    could not open the camera. -/
theorem unjoinable_iff (events : List CameraEvent) :
    (∀ earlier later, events = earlier ++ later → Unjoinable (run CameraCapture.step earlier {})) ↔
      Admits CameraCapture.step Released events {} := by
  have sound : Sound ({} : CameraCapture) := rfl
  have unjoinable : Unjoinable ({} : CameraCapture) := fun _ => rfl
  rw [every_kept_state_iff step_sound step_unjoinable_iff events {} sound]
  exact and_iff_right unjoinable

/-- The camera cannot be opened, and the object is destroyed. -/
theorem destroyed_joinable :
    ¬ Unjoinable (run CameraCapture.step
      [.start, .proceed, .proceed, .openCamera false, .work, .destroy] {}) := by
  decide

/-! ## A camera that can be opened -/

/-- No thread has failed to open the camera. -/
def Unfailing (worker : Option CaptureLoop) : Prop :=
  worker ≠ some .unopened ∧ worker ≠ some .gaveUp

/-- No thread has given up or is about to, and `std::terminate` has not been called. -/
structure Opens (camera : CameraCapture) : Prop where
  sound : Sound camera
  unjoinable : Unjoinable camera
  unfailing : Unfailing camera.worker
  alive : camera.owner ≠ .terminated

section Opens

variable {camera : CameraCapture} {event : CameraEvent}

theorem work_unfailing (unfailing : Unfailing camera.worker) :
    Unfailing camera.work.worker := by
  unfold CameraCapture.work
  split
  · next unopened => exact absurd unopened unfailing.1
  · split <;> exact ⟨nofun, nofun⟩
  · split
    · exact unfailing
    · exact ⟨nofun, nofun⟩
  · exact ⟨nofun, nofun⟩
  · exact unfailing

theorem proceed_unfailing (unfailing : Unfailing camera.worker) :
    Unfailing camera.proceed.worker := by
  unfold CameraCapture.proceed
  split
  · exact unfailing
  · split
    · exact ⟨nofun, nofun⟩
    · exact unfailing
  · exact unfailing
  · split
    · exact ⟨nofun, nofun⟩
    · exact unfailing
  · split <;> exact unfailing
  · exact unfailing

theorem step_unfailing (opens : event ≠ .openCamera false)
    (unfailing : Unfailing camera.worker) :
    Unfailing (camera.step event).worker := by
  cases event with
  | start =>
    simp only [CameraCapture.step]
    split <;> exact unfailing
  | stop | destroy =>
    simp only [CameraCapture.step, CameraCapture.testStop]
    split
    · split <;> exact unfailing
    · exact unfailing
  | proceed => exact proceed_unfailing unfailing
  | openCamera success =>
    cases success with
    | false => exact absurd rfl opens
    | true =>
      simp only [CameraCapture.step]
      split
      · exact ⟨nofun, nofun⟩
      · exact unfailing
  | work => exact work_unfailing unfailing

/-- Only an assignment to a joinable thread or its destruction ends in `std::terminate`. -/
theorem proceed_alive (unjoinable : Unjoinable camera) (alive : camera.owner ≠ .terminated) :
    camera.proceed.owner ≠ .terminated := by
  unfold CameraCapture.proceed
  cases position : camera.owner with
  | assigning =>
    rw [unjoinable (.inl position)]
    exact nofun
  | destroying =>
    rw [unjoinable (.inr position)]
    exact nofun
  | joining destructor =>
    dsimp only
    split
    · cases destructor <;> exact nofun
    · rw [position]
      exact nofun
  | terminated => exact absurd position alive
  | starting | stopping => exact nofun
  | idle | destroyed =>
    dsimp only
    rw [position]
    exact nofun

theorem step_alive (unjoinable : Unjoinable camera) (alive : camera.owner ≠ .terminated) :
    (camera.step event).owner ≠ .terminated := by
  cases event with
  | start =>
    simp only [CameraCapture.step]
    split
    · exact nofun
    · exact alive
  | stop | destroy =>
    simp only [CameraCapture.step, CameraCapture.testStop]
    split
    · split <;> exact nofun
    · exact alive
  | proceed => exact proceed_alive unjoinable alive
  | openCamera =>
    simp only [CameraCapture.step]
    split <;> exact alive
  | work =>
    simp only [CameraCapture.step, work_owner]
    exact alive

theorem Unfailing.released (unfailing : Unfailing camera.worker) : Released event camera := by
  unfold Released
  split
  · exact unfailing.2
  · exact unfailing.2
  · trivial

theorem Opens.step (event : CameraEvent) (camera : CameraCapture)
    (success : event ≠ .openCamera false) (opens : Opens camera) : Opens (camera.step event) where
  sound := step_sound event camera opens.sound
  unjoinable := (step_unjoinable_iff event camera opens.sound opens.unjoinable).mpr
    opens.unfailing.released
  unfailing := step_unfailing success opens.unfailing
  alive := step_alive opens.unjoinable opens.alive

end Opens

/-- As long as the camera can be opened, `std::terminate` is never called. -/
theorem opened_never_terminates (events : List CameraEvent)
    (opens : ∀ event ∈ events, event ≠ .openCamera false) :
    (run CameraCapture.step events {}).owner ≠ .terminated := by
  have start : Opens {} := ⟨rfl, fun _ => rfl, ⟨nofun, nofun⟩, nofun⟩
  exact (run_keeps_of Opens.step events {} opens start).alive

end PictureReconstruct.Capture
