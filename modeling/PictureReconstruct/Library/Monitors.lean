import Mathlib.Logic.Function.Basic
import PictureReconstruct.Library.Runs

/-! # Monitors

An object behind a mutex and a condition variable.  Any number of threads call the operation that
waits and the others, in their visible micro-steps: lock, evaluate the predicate, unlock and park at
once, change the object, notify, unlock.  A parked thread may wake up spuriously, and one whose wait
is timed may give up.

* `Enabled`, `effect`: the micro-steps; `Inner`: those that neither begin a call nor are spurious.
* `Consistent`: mutual exclusion, and what a thread that holds the mutex knows.
* `carries_on`: a call that has begun can be carried on, by its thread or by the one that holds the
  mutex.
-/

namespace Library.Monitors

open Library.Runs

/-- What an operation notifies. -/
inductive Signal
  | none
  | one
  | all
deriving DecidableEq

structure Monitor (σ κ : Type) where
  /-- what the waiting operation waits for -/
  ready : σ → Bool
  /-- the waiting operation behind its wait -/
  take : σ → σ
  /-- an operation that does not wait -/
  change : κ → σ → σ
  signal : κ → σ → Signal
  /-- the operation notifies before it unlocks -/
  inside : κ → Bool

/-- Where a thread is in its call. -/
inductive Position (κ : Type)
  | outside
  /-- has locked the mutex; the predicate comes next -/
  | checking
  /-- has found the predicate false -/
  | refused
  | parked
  /-- was woken; it locks next -/
  | notified
  /-- has found the predicate true -/
  | granted
  /-- has locked the mutex for an operation that does not wait -/
  | entered (operation : κ)
  /-- notifies before it unlocks -/
  | signalling (signal : Signal)
  /-- unlocks next -/
  | changed (signal : Signal)
  /-- notifies next -/
  | unlocked (signal : Signal)
deriving DecidableEq

namespace Position

variable {κ : Type}

/-- A thread in this position owns the mutex. -/
def holds : Position κ → Bool
  | checking | refused | granted | entered _ | signalling _ | changed _ => true
  | outside | parked | notified | unlocked _ => false

/-- What a thread in this position will notify. -/
def pending : Position κ → Signal
  | signalling signal | changed signal | unlocked signal => signal
  | _ => .none

/-- A thread in this position will evaluate the predicate or wake one that will. -/
def weight : Position κ → Nat
  | checking | refused | notified | granted => 1
  | signalling .one | changed .one | unlocked .one => 1
  | _ => 0

def wake (position : Position κ) : Position κ :=
  match position with
  | parked => notified
  | _ => position

/-- A thread in this position notifies next. -/
def Notifies (position : Position κ) (signal : Signal) : Prop :=
  position = signalling signal ∨ position = unlocked signal

theorem Notifies.pending {position : Position κ} {signal : Signal}
    (notifies : position.Notifies signal) : position.pending = signal := by
  cases notifies with
  | inl signalling => rw [signalling]; rfl
  | inr unlocked => rw [unlocked]; rfl

theorem Notifies.ne_parked {position : Position κ} {signal : Signal}
    (notifies : position.Notifies signal) : position ≠ parked := by
  cases notifies with
  | inl signalling => rw [signalling]; exact nofun
  | inr unlocked => rw [unlocked]; exact nofun

/-- It counts for the one thread that it wakes. -/
theorem Notifies.weight {position : Position κ} {signal : Signal}
    (notifies : position.Notifies signal) :
    position.weight = (unlocked signal : Position κ).weight := by
  cases notifies with
  | inl signalling => rw [signalling]; cases signal <;> rfl
  | inr unlocked => rw [unlocked]

end Position

structure MonitorState (τ σ κ : Type) where
  object : σ
  mutex : Option τ := none
  position : τ → Position κ := fun _ => .outside

inductive MonitorAction (τ κ : Type)
  /-- a call begins: of the waiting operation, or of another one -/
  | call (thread : τ) (operation : Option κ)
  | relock (thread : τ)
  | check (thread : τ)
  | park (thread : τ)
  /-- the time of a timed wait is over -/
  | expire (thread : τ)
  | take (thread : τ)
  | change (thread : τ)
  | unlock (thread : τ)
  /-- a notification, with the thread that `notify_one` wakes -/
  | notify (thread : τ) (woken : Option τ)
  | spurious (thread : τ)

/-- The action carries on a call. -/
def MonitorAction.Inner {τ κ : Type} : MonitorAction τ κ → Prop
  | call _ _ | spurious _ => False
  | _ => True

section Steps

variable {τ σ κ : Type} [DecidableEq τ] (monitor : Monitor σ κ)

def initial (object : σ) : MonitorState τ σ κ where
  object := object

def MonitorState.setPosition (state : MonitorState τ σ κ) (thread : τ) (position : Position κ) :
    MonitorState τ σ κ :=
  { state with position := Function.update state.position thread position }

/-- The notification can wake `woken`. -/
def Wakes (state : MonitorState τ σ κ) : Signal → Option τ → Prop
  | .one, some woken => state.position woken = .parked
  | .one, none => ∀ thread, state.position thread ≠ .parked
  | _, woken => woken = none

def Enabled : MonitorAction τ κ → MonitorState τ σ κ → Prop
  | .call thread _, state => state.mutex = none ∧ state.position thread = .outside
  | .relock thread, state => state.mutex = none ∧ state.position thread = .notified
  | .check thread, state => state.position thread = .checking
  | .park thread, state | .expire thread, state => state.position thread = .refused
  | .take thread, state => state.position thread = .granted
  | .change thread, state => ∃ operation, state.position thread = .entered operation
  | .unlock thread, state => ∃ signal, state.position thread = .changed signal
  | .notify thread woken, state => ∃ signal, (state.position thread = .signalling signal ∨
      state.position thread = .unlocked signal) ∧ Wakes state signal woken
  | .spurious thread, state => state.position thread = .parked

/-- The waiting threads behind a notification. -/
def notified (state : MonitorState τ σ κ) (woken : Option τ) : Signal → τ → Position κ
  | .all => fun thread => (state.position thread).wake
  | _ => match woken with
    | some woken => Function.update state.position woken .notified
    | none => state.position

/-- The state after an action. -/
def effect : MonitorAction τ κ → MonitorState τ σ κ → MonitorState τ σ κ
  | .call thread none, state =>
    { state.setPosition thread .checking with mutex := some thread }
  | .call thread (some operation), state =>
    { state.setPosition thread (.entered operation) with mutex := some thread }
  | .relock thread, state => { state.setPosition thread .checking with mutex := some thread }
  | .check thread, state =>
    state.setPosition thread (if monitor.ready state.object then .granted else .refused)
  | .park thread, state => { state.setPosition thread .parked with mutex := none }
  | .expire thread, state => state.setPosition thread (.changed .none)
  | .take thread, state =>
    { state.setPosition thread (.changed .none) with object := monitor.take state.object }
  | .change thread, state =>
    match state.position thread with
    | .entered operation =>
      let signal := monitor.signal operation state.object
      { state.setPosition thread
          (if monitor.inside operation then .signalling signal else .changed signal) with
        object := monitor.change operation state.object }
    | _ => state
  | .unlock thread, state =>
    { state.setPosition thread (.unlocked (state.position thread).pending) with mutex := none }
  | .notify thread woken, state =>
    { state with
      position := Function.update (notified state woken (state.position thread).pending) thread
        (if (state.position thread).holds then .changed .none else .outside) }
  | .spurious thread, state => state.setPosition thread .notified

@[simp] theorem setPosition_position (state : MonitorState τ σ κ) (thread : τ)
    (position : Position κ) : (state.setPosition thread position).position =
      Function.update state.position thread position := rfl

end Steps

/-! ## Mutual exclusion -/

/-- What the threads know of each other and of the object. -/
structure Consistent {τ σ κ : Type} (monitor : Monitor σ κ) (state : MonitorState τ σ κ) :
    Prop where
  owner : ∀ thread, (state.position thread).holds = true ↔ state.mutex = some thread
  granted : ∀ thread, state.position thread = .granted → monitor.ready state.object = true
  refused : ∀ thread, state.position thread = .refused → monitor.ready state.object = false

section Exclusion

variable {τ σ κ : Type} {monitor : Monitor σ κ} {state after : MonitorState τ σ κ}
  {thread : τ} {next : Position κ} {action : MonitorAction τ κ}

theorem Consistent.initial (object : σ) :
    Consistent monitor (initial object : MonitorState τ σ κ) where
  owner _ := by simp [Monitors.initial, Position.holds]
  granted _ is := nomatch is
  refused _ is := nomatch is

theorem Consistent.mine (consistent : Consistent monitor state)
    (holds : (state.position thread).holds = true) : state.mutex = some thread :=
  (consistent.owner thread).mp holds

theorem Consistent.idle (consistent : Consistent monitor state)
    (waits : (state.position thread).holds = false) : state.mutex ≠ some thread := by
  intro mine
  rw [(consistent.owner thread).mpr mine] at waits
  cases waits

/-- A thread that wakes up holds nothing and knows nothing. -/
theorem Consistent.woken (consistent : Consistent monitor state) {position : τ → Position κ}
    (wakes : ∀ other, position other = state.position other ∨
      (state.position other = .parked ∧ position other = .notified)) :
    Consistent monitor { state with position } := by
  refine ⟨fun other => ?_, fun other is => ?_, fun other is => ?_⟩
  · rw [← consistent.owner]
    cases wakes other with
    | inl same => simp only [same]
    | inr woken => simp only [woken.1, woken.2, Position.holds]
  · cases wakes other with
    | inl same => exact consistent.granted other (same ▸ is)
    | inr woken => exact absurd (woken.2.symm.trans is) nofun
  · cases wakes other with
    | inl same => exact consistent.refused other (same ▸ is)
    | inr woken => exact absurd (woken.2.symm.trans is) nofun

theorem wake_cases (position : Position κ) :
    position.wake = position ∨ (position = .parked ∧ position.wake = .notified) := by
  cases position <;> first | exact .inl rfl | exact .inr ⟨rfl, rfl⟩

theorem exists_wakes (state : MonitorState τ σ κ) (signal : Signal) :
    ∃ woken, Wakes state signal woken := by
  cases signal with
  | none | all => exact ⟨none, rfl⟩
  | one =>
    by_cases parked : ∃ thread, state.position thread = .parked
    · obtain ⟨thread, asleep⟩ := parked
      exact ⟨some thread, asleep⟩
    · exact ⟨none, fun thread asleep => parked ⟨thread, asleep⟩⟩

/-- Some step carries on a call, unless every thread is outside or parked. -/
theorem carries_on (consistent : Consistent monitor state)
    (busy : state.position thread ≠ .outside ∧ state.position thread ≠ .parked) :
    ∃ action, Enabled action state ∧ action.Inner := by
  -- whoever holds the mutex can go on
  have holder : ∀ other, (state.position other).holds = true →
      ∃ action, Enabled action state ∧ action.Inner := by
    intro other holds
    cases place : state.position other with
    | checking => exact ⟨.check other, place, trivial⟩
    | refused => exact ⟨.park other, place, trivial⟩
    | granted => exact ⟨.take other, place, trivial⟩
    | entered operation => exact ⟨.change other, ⟨operation, place⟩, trivial⟩
    | changed signal => exact ⟨.unlock other, ⟨signal, place⟩, trivial⟩
    | signalling signal =>
      obtain ⟨woken, wakes⟩ := exists_wakes state signal
      exact ⟨.notify other woken, ⟨signal, .inl place, wakes⟩, trivial⟩
    | outside | parked | notified | unlocked signal =>
      rw [place] at holds
      cases holds
  cases place : state.position thread with
  | outside => exact absurd place busy.1
  | parked => exact absurd place busy.2
  | unlocked signal =>
    obtain ⟨woken, wakes⟩ := exists_wakes state signal
    exact ⟨.notify thread woken, ⟨signal, .inr place, wakes⟩, trivial⟩
  | notified =>
    cases mutex : state.mutex with
    | none => exact ⟨.relock thread, ⟨mutex, place⟩, trivial⟩
    | some other => exact holder other ((consistent.owner other).mpr mutex)
  | checking | refused | granted | entered operation | changed signal | signalling signal =>
    exact holder thread (by rw [place]; rfl)

variable [DecidableEq τ]

/-- One thread moves on; only with the mutex does it change the object. -/
theorem Consistent.moves (consistent : Consistent monitor state)
    (moves : after.position = Function.update state.position thread next)
    (holds : next.holds = true ↔ after.mutex = some thread)
    (others : ∀ other, other ≠ thread → (after.mutex = some other ↔ state.mutex = some other))
    (object : after.object = state.object ∨ state.mutex = some thread)
    (granted : next = .granted → monitor.ready after.object = true)
    (refused : next = .refused → monitor.ready after.object = false) :
    Consistent monitor after := by
  have here : after.position thread = next := by rw [moves, Function.update_self]
  have there : ∀ other, other ≠ thread → after.position other = state.position other :=
    fun other differs => by rw [moves, Function.update_of_ne differs]
  -- while another thread holds the mutex, the object stays as it is
  have kept : ∀ other, other ≠ thread → (state.position other).holds = true →
      after.object = state.object := by
    intro other differs owns
    cases object with
    | inl same => exact same
    | inr mine =>
      have theirs := (consistent.owner other).mp owns
      exact absurd (Option.some.inj (theirs.symm.trans mine)) differs
  refine ⟨fun other => ?_, fun other is => ?_, fun other is => ?_⟩
  · by_cases same : other = thread
    · rw [same, here, holds]
    · rw [there other same, others other same, consistent.owner]
  · by_cases same : other = thread
    · exact granted (by rw [← here, ← same, is])
    · rw [there other same] at is
      rw [kept other same (by rw [is]; rfl)]
      exact consistent.granted other is
  · by_cases same : other = thread
    · exact refused (by rw [← here, ← same, is])
    · rw [there other same] at is
      rw [kept other same (by rw [is]; rfl)]
      exact consistent.refused other is

/-- A thread moves on under the mutex. -/
theorem Consistent.keeps (consistent : Consistent monitor state)
    (mine : state.mutex = some thread) (object : σ) (holds : next.holds = true)
    (granted : next = .granted → monitor.ready object = true)
    (refused : next = .refused → monitor.ready object = false) :
    Consistent monitor { state.setPosition thread next with object } :=
  consistent.moves rfl (iff_of_true holds mine) (fun _ _ => Iff.rfl) (.inr mine) granted refused

theorem Consistent.locks (consistent : Consistent monitor state) (free : state.mutex = none)
    (holds : next.holds = true) (granted : next ≠ .granted) (refused : next ≠ .refused) :
    Consistent monitor { state.setPosition thread next with mutex := some thread } := by
  refine consistent.moves rfl (iff_of_true holds rfl) (fun other differs => ?_) (.inl rfl)
    (fun is => absurd is granted) (fun is => absurd is refused)
  rw [free]
  exact iff_of_false (fun same => differs (Option.some.inj same).symm) nofun

theorem Consistent.unlocks (consistent : Consistent monitor state)
    (mine : state.mutex = some thread) (releases : next.holds = false) :
    Consistent monitor { state.setPosition thread next with mutex := none } := by
  refine consistent.moves rfl ?_ (fun other differs => ?_) (.inl rfl) (fun is => ?_) (fun is => ?_)
  · rw [releases]
    exact iff_of_false Bool.false_ne_true nofun
  · rw [mine]
    exact iff_of_false nofun fun same => differs (Option.some.inj same).symm
  · rw [is] at releases
    cases releases
  · rw [is] at releases
    cases releases

theorem notified_cases {woken : Option τ} {signal : Signal} (wakes : Wakes state signal woken)
    (other : τ) : notified state woken signal other = state.position other ∨
      (state.position other = .parked ∧ notified state woken signal other = .notified) := by
  cases signal with
  | all => exact wake_cases _
  | none =>
    obtain rfl : woken = none := wakes
    exact .inl rfl
  | one =>
    cases woken with
    | none => exact .inl rfl
    | some woken =>
      by_cases same : other = woken
      · subst same
        exact .inr ⟨wakes, Function.update_self ..⟩
      · exact .inl (Function.update_of_ne same ..)

/-- Who is parked behind a notification was parked before it. -/
theorem notified_parked {woken : Option τ} {signal : Signal} {sleeper : τ}
    (wakes : Wakes state signal woken) (awake : next ≠ .parked)
    (parked : Function.update (notified state woken signal) thread next sleeper = .parked) :
    sleeper ≠ thread ∧ notified state woken signal sleeper = .parked ∧
      state.position sleeper = .parked := by
  have differs : sleeper ≠ thread := by
    intro same
    rw [same, Function.update_self] at parked
    exact awake parked
  rw [Function.update_of_ne differs] at parked
  refine ⟨differs, parked, ?_⟩
  cases notified_cases wakes sleeper with
  | inl same => rw [← same, parked]
  | inr woken => exact woken.1

theorem notify_consistent {woken : Option τ} (consistent : Consistent monitor state)
    (enabled : Enabled (.notify thread woken) state) :
    Consistent monitor (effect monitor (.notify thread woken) state) := by
  obtain ⟨signal, place, wakes⟩ := enabled
  have woken := consistent.woken (notified_cases wakes)
  rw [effect, Position.Notifies.pending place]
  cases place with
  | inl signalling =>
    have holds : (state.position thread).holds = true := by rw [signalling]; rfl
    rw [if_pos holds]
    exact woken.moves rfl (iff_of_true rfl (consistent.mine holds)) (fun _ _ => Iff.rfl) (.inl rfl)
      nofun nofun
  | inr unlocked =>
    have waits : (state.position thread).holds = false := by rw [unlocked]; rfl
    rw [waits, if_neg Bool.false_ne_true]
    exact woken.moves rfl (iff_of_false nofun (consistent.idle waits)) (fun _ _ => Iff.rfl)
      (.inl rfl) nofun nofun

theorem effect_consistent (consistent : Consistent monitor state)
    (enabled : Enabled action state) : Consistent monitor (effect monitor action state) := by
  cases action with
  | call thread operation =>
    cases operation with
    | none => exact consistent.locks enabled.1 rfl nofun nofun
    | some operation => exact consistent.locks enabled.1 rfl nofun nofun
  | relock thread => exact consistent.locks enabled.1 rfl nofun nofun
  | check thread =>
    have checking : state.position thread = .checking := enabled
    have mine : state.mutex = some thread := consistent.mine (by rw [checking]; rfl)
    cases ready : monitor.ready state.object with
    | true =>
      simp only [effect, ready, if_true]
      exact consistent.keeps mine state.object rfl (fun _ => ready) nofun
    | false =>
      simp only [effect, ready, Bool.false_eq_true, if_false]
      exact consistent.keeps mine state.object rfl nofun fun _ => ready
  | park thread =>
    have refused : state.position thread = .refused := enabled
    exact consistent.unlocks (consistent.mine (by rw [refused]; rfl)) rfl
  | expire thread =>
    have refused : state.position thread = .refused := enabled
    exact consistent.keeps (consistent.mine (by rw [refused]; rfl)) state.object rfl nofun nofun
  | take thread =>
    have granted : state.position thread = .granted := enabled
    exact consistent.keeps (consistent.mine (by rw [granted]; rfl)) _ rfl nofun nofun
  | change thread =>
    obtain ⟨operation, entered⟩ := enabled
    have mine : state.mutex = some thread := consistent.mine (by rw [entered]; rfl)
    simp only [effect, entered]
    split
    · exact consistent.keeps mine _ rfl nofun nofun
    · exact consistent.keeps mine _ rfl nofun nofun
  | unlock thread =>
    obtain ⟨signal, changed⟩ := enabled
    exact consistent.unlocks (consistent.mine (by rw [changed]; rfl)) rfl
  | notify thread woken => exact notify_consistent consistent enabled
  | spurious thread =>
    have parked : state.position thread = .parked := enabled
    have idle : state.mutex ≠ some thread := consistent.idle (by rw [parked]; rfl)
    exact consistent.moves rfl (iff_of_false nofun idle) (fun _ _ => Iff.rfl) (.inl rfl)
      nofun nofun

end Exclusion

end Library.Monitors
