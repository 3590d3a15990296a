import PictureReconstruct.Library.Runs
import Mathlib.Data.Fintype.Basic
import Mathlib.Logic.Function.Basic

/-! # `BoundedQueue`

The object with its two predicates, and the threads that call `push` and `pop` in their visible
micro-steps: lock, evaluate the predicate, unlock and park at once, move an item, unlock, notify.
`setFinished` stores the flag and then notifies; it does not take the mutex.

* `Enabled`, `effect`: the micro-steps; a run is a list of actions, each taken where it is enabled.
* `Consistent`: mutual exclusion, and what a thread that holds the mutex knows.
* `effect_object`: the object changes by whole operations only.
-/

namespace PictureReconstruct.Reconstruct

open Library.Runs

/-- A `BoundedQueue` without its mutex and its condition variables. -/
structure BoundedQueue (α : Type) where
  queue : List α := []
  maxSize : Nat
  finished : Bool := false
deriving DecidableEq

namespace BoundedQueue

variable {α : Type}

/-- What `push` waits for. -/
def notFull (object : BoundedQueue α) : Bool := object.queue.length < object.maxSize

/-- What `pop` waits for. -/
def notEmptyOrFinished (object : BoundedQueue α) : Bool := !object.queue.isEmpty || object.finished

/-- `push` behind its wait. -/
def push (item : α) (object : BoundedQueue α) : BoundedQueue α :=
  { object with queue := object.queue ++ [item] }

/-- `pop` behind its wait: the item, or nothing for `false`. -/
def pop (object : BoundedQueue α) : Option α × BoundedQueue α :=
  if object.queue.isEmpty && object.finished then (none, object)
  else (object.queue.head?, { object with queue := object.queue.tail })

def setFinished (object : BoundedQueue α) : BoundedQueue α := { object with finished := true }

/-- Behind its wait, `pop` finds an item, or the end. -/
theorem pop_cases {object : BoundedQueue α} (waited : object.notEmptyOrFinished = true) :
    (∃ item rest, object.queue = item :: rest ∧
      object.pop = (some item, { object with queue := rest })) ∨
    (object.queue = [] ∧ object.finished = true ∧ object.pop = (none, object)) := by
  cases held : object.queue with
  | nil =>
    have finished : object.finished = true := by simpa [notEmptyOrFinished, held] using waited
    exact .inr ⟨rfl, finished, by simp [pop, held, finished]⟩
  | cons item rest => exact .inl ⟨item, rest, rfl, by simp [pop, held]⟩

end BoundedQueue

/-! ## The threads -/

inductive Thread (consumers producers : Nat)
  | consumer (i : Fin consumers)
  | producer (j : Fin producers)
deriving DecidableEq

/-- Where a thread is in `push` or `pop`. -/
inductive Position
  /-- between two calls -/
  | outside
  /-- has locked the mutex; the predicate comes next -/
  | checking
  /-- has found the predicate false; it unlocks and parks next -/
  | refused
  /-- waits for a notification -/
  | parked
  /-- was notified; it locks next -/
  | notified
  /-- has found the predicate true -/
  | granted
  /-- has moved its item -/
  | moved
  /-- has found the queue empty and finished -/
  | leaving
  /-- has unlocked; it notifies next -/
  | unlocked
  /-- `pop` has returned `false` -/
  | ended
deriving DecidableEq

/-- A thread in this position owns the mutex. -/
def Position.holds : Position → Bool
  | checking | refused | granted | moved | leaving => true
  | outside | parked | notified | unlocked | ended => false

/-- Where the call of `setFinished` is. -/
inductive Finisher
  | before
  /-- `finished_` is stored -/
  | stored
  | returned
deriving DecidableEq

structure QueueState (consumers producers : Nat) (α : Type) where
  object : BoundedQueue α
  mutex : Option (Thread consumers producers) := none
  position : Thread consumers producers → Position := fun _ => .outside
  /-- what each producer has not pushed yet -/
  toPush : Fin producers → List α
  /-- what `pop` has given to each consumer -/
  popped : Fin consumers → List α := fun _ => []
  finisher : Finisher := .before

inductive QueueAction (consumers producers : Nat)
  | lock (thread : Thread consumers producers)
  | check (thread : Thread consumers producers)
  | park (thread : Thread consumers producers)
  | move (thread : Thread consumers producers)
  | unlock (thread : Thread consumers producers)
  /-- `notify_one`, which wakes a thread if there is one to wake -/
  | notify (thread : Thread consumers producers) (woken : Option (Thread consumers producers))
  | store
  | notifyAll
deriving DecidableEq

namespace QueueState

variable {c p : Nat} {α : Type}

/-- Before the first call. -/
def initial (maxSize : Nat) (items : Fin p → List α) : QueueState c p α where
  object := { maxSize }
  toPush := items

def setPosition (state : QueueState c p α) (thread : Thread c p) (position : Position) :
    QueueState c p α :=
  { state with position := Function.update state.position thread position }

/-- The predicate that a thread waits for. -/
def predicate (state : QueueState c p α) : Thread c p → Bool
  | .consumer _ => state.object.notEmptyOrFinished
  | .producer _ => state.object.notFull

/-- A thread between two calls has another one to make. -/
def Calls (state : QueueState c p α) : Thread c p → Prop
  | .consumer _ => True
  | .producer j => state.toPush j ≠ []

/-- `other` waits on the condition variable that `thread` notifies. -/
def Waits (state : QueueState c p α) (thread other : Thread c p) : Prop :=
  match thread, other with
  | .consumer _, .producer _ | .producer _, .consumer _ => state.position other = .parked
  | _, _ => False

/-- Nobody waits on the condition variable that `thread` notifies. -/
def Unawaited (state : QueueState c p α) : Thread c p → Prop
  | .consumer _ => ∀ j, state.position (.producer j) ≠ .parked
  | .producer _ => ∀ i, state.position (.consumer i) ≠ .parked

def Enabled : QueueAction c p → QueueState c p α → Prop
  | .lock thread, state => state.mutex = none ∧ (state.position thread = .notified ∨
      (state.position thread = .outside ∧ state.Calls thread))
  | .check thread, state => state.position thread = .checking
  | .park thread, state => state.position thread = .refused
  | .move thread, state => state.position thread = .granted
  | .unlock thread, state => state.position thread = .moved ∨ state.position thread = .leaving
  | .notify thread (some woken), state =>
    state.position thread = .unlocked ∧ state.Waits thread woken
  | .notify thread none, state => state.position thread = .unlocked ∧ state.Unawaited thread
  | .store, state => state.finisher = .before
  | .notifyAll, state => state.finisher = .stored

/-- The item is moved out of the queue, or into it. -/
def moveItem (state : QueueState c p α) : Thread c p → QueueState c p α
  | .consumer i =>
    match state.object.pop with
    | (some item, object) =>
      { state.setPosition (.consumer i) .moved with
        object, popped := Function.update state.popped i (state.popped i ++ [item]) }
    | (none, object) => { state.setPosition (.consumer i) .leaving with object }
  | .producer j =>
    match state.toPush j with
    | item :: items =>
      { state.setPosition (.producer j) .moved with
        object := state.object.push item, toPush := Function.update state.toPush j items }
    | [] => state

def wake (position : Position) : Position := if position = .parked then .notified else position

/-- The state after an action. -/
def effect : QueueAction c p → QueueState c p α → QueueState c p α
  | .lock thread, state => { state.setPosition thread .checking with mutex := some thread }
  | .check thread, state =>
    state.setPosition thread (if state.predicate thread then .granted else .refused)
  | .park thread, state => { state.setPosition thread .parked with mutex := none }
  | .move thread, state => state.moveItem thread
  | .unlock thread, state =>
    -- `pop` returns `false` without a notification
    { state.setPosition thread (if state.position thread = .leaving then .ended else .unlocked) with
      mutex := none }
  | .notify thread (some woken), state =>
    (state.setPosition thread .outside).setPosition woken .notified
  | .notify thread none, state => state.setPosition thread .outside
  | .store, state => { state with object := state.object.setFinished, finisher := .stored }
  | .notifyAll, state =>
    { state with
      position := fun
        | .consumer i => wake (state.position (.consumer i))
        | .producer j => state.position (.producer j)
      finisher := .returned }

instance (state : QueueState c p α) (thread : Thread c p) : Decidable (state.Calls thread) :=
  match thread with
  | .consumer _ => inferInstanceAs (Decidable True)
  | .producer j => match h : state.toPush j with
    | [] => isFalse fun calls => calls h
    | _ :: _ => isTrue fun absurd => by simp [h] at absurd

instance (state : QueueState c p α) (thread other : Thread c p) :
    Decidable (state.Waits thread other) :=
  match thread, other with
  | .consumer _, .producer j => inferInstanceAs (Decidable (state.position (.producer j) = .parked))
  | .producer _, .consumer i => inferInstanceAs (Decidable (state.position (.consumer i) = .parked))
  | .consumer _, .consumer _ => inferInstanceAs (Decidable False)
  | .producer _, .producer _ => inferInstanceAs (Decidable False)

instance (state : QueueState c p α) (thread : Thread c p) : Decidable (state.Unawaited thread) :=
  match thread with
  | .consumer _ => inferInstanceAs (Decidable (∀ j, state.position (.producer j) ≠ .parked))
  | .producer _ => inferInstanceAs (Decidable (∀ i, state.position (.consumer i) ≠ .parked))

instance (action : QueueAction c p) (state : QueueState c p α) :
    Decidable (Enabled action state) :=
  match action with
  | .lock _ => inferInstanceAs (Decidable (_ ∧ (_ ∨ (_ ∧ _))))
  | .check _ | .park _ | .move _ => inferInstanceAs (Decidable (_ = _))
  | .unlock _ => inferInstanceAs (Decidable (_ ∨ _))
  | .notify _ (some _) | .notify _ none => inferInstanceAs (Decidable (_ ∧ _))
  | .store | .notifyAll => inferInstanceAs (Decidable (_ = _))

section Steps

variable {state after : QueueState c p α} {thread other : Thread c p} {position next : Position}
  {action : QueueAction c p}

@[simp] theorem setPosition_position : (state.setPosition thread position).position =
    Function.update state.position thread position := rfl

@[simp] theorem setPosition_toPush :
    (state.setPosition thread position).toPush = state.toPush := rfl

theorem predicate_of_object (same : after.object = state.object) (thread : Thread c p) :
    after.predicate thread = state.predicate thread := by
  cases thread <;> simp only [predicate, same]

end Steps

end QueueState

/-- A producer in this position has an item to push. -/
def Position.unserved : Position → Bool
  | checking | refused | parked | notified | granted => true
  | outside | moved | leaving | unlocked | ended => false

/-- What the threads know of each other and of the queue. -/
structure Consistent {c p : Nat} {α : Type} (state : QueueState c p α) : Prop where
  owner : ∀ thread, (state.position thread).holds = true ↔ state.mutex = some thread
  granted : ∀ thread, state.position thread = .granted → state.predicate thread = true
  refused : ∀ i, state.position (.consumer i) = .refused → state.object.queue = []
  unserved : ∀ j, (state.position (.producer j)).unserved = true → state.toPush j ≠ []
  bound : state.object.queue.length ≤ state.object.maxSize

section Steps

open QueueState

variable {c p : Nat} {α : Type} {state after : QueueState c p α} {thread : Thread c p}
  {next : Position} {action : QueueAction c p}

theorem Consistent.initial (maxSize : Nat) (items : Fin p → List α) :
    Consistent (QueueState.initial maxSize items : QueueState c p α) where
  owner _ := by simp [QueueState.initial, Position.holds]
  granted := nofun
  refused := nofun
  unserved := nofun
  bound := Nat.zero_le maxSize

theorem wake_holds (position : Position) : (wake position).holds = position.holds := by
  cases position <;> rfl

/-- A notification moves no thread that holds the mutex. -/
theorem eq_of_wake {position woken : Position} (holds : woken.holds = true)
    (same : wake position = woken) : position = woken := by
  cases position with
  | parked =>
    subst same
    exact absurd holds nofun
  | _ => exact same

/-- One thread moves on; only with the mutex does it change the queue, and only a producer changes
    what it has to push. -/
theorem Consistent.moves (consistent : Consistent state)
    (moves : after.position = Function.update state.position thread next)
    (holds : next.holds = true ↔ after.mutex = some thread)
    (others : ∀ other, other ≠ thread → (after.mutex = some other ↔ state.mutex = some other))
    (object : after.object = state.object ∨ state.mutex = some thread)
    (toPush : ∀ j, after.toPush j = state.toPush j ∨ thread = .producer j)
    (granted : next = .granted → after.predicate thread = true)
    (refused : ∀ i, thread = .consumer i → next = .refused → after.object.queue = [])
    (unserved : ∀ j, thread = .producer j → next.unserved = true → after.toPush j ≠ [])
    (bound : after.object.queue.length ≤ after.object.maxSize) : Consistent after := by
  have here : after.position thread = next := by rw [moves, Function.update_self]
  have there : ∀ other, other ≠ thread → after.position other = state.position other :=
    fun other differs => by rw [moves, Function.update_of_ne differs]
  -- while another thread holds the mutex, the queue stays as it is
  have kept : ∀ other, other ≠ thread → (state.position other).holds = true →
      after.object = state.object := by
    intro other differs owns
    cases object with
    | inl same => exact same
    | inr mine =>
      have theirs := (consistent.owner other).mp owns
      exact absurd (Option.some.inj (theirs.symm.trans mine)) differs
  refine ⟨fun other => ?_, fun other is => ?_, fun i is => ?_, fun j is => ?_, bound⟩
  · by_cases same : other = thread
    · rw [same, here, holds]
    · rw [there other same, others other same, consistent.owner]
  · by_cases same : other = thread
    · rw [same] at is ⊢
      exact granted (here.symm.trans is)
    · rw [there other same] at is
      rw [predicate_of_object (kept other same (by rw [is]; rfl))]
      exact consistent.granted other is
  · by_cases same : .consumer i = thread
    · rw [same] at is
      exact refused i same.symm (here.symm.trans is)
    · rw [there _ same] at is
      rw [kept _ same (by rw [is]; rfl)]
      exact consistent.refused i is
  · by_cases same : .producer j = thread
    · rw [same, here] at is
      exact unserved j same.symm is
    · rw [there _ same] at is
      cases toPush j with
      | inl kept => exact kept ▸ consistent.unserved j is
      | inr mine => exact absurd mine.symm same

/-- A thread moves on without touching the queue or what there is to push. -/
theorem Consistent.setPosition (consistent : Consistent state) (thread : Thread c p)
    {mutex : Option (Thread c p)} (holds : next.holds = true ↔ mutex = some thread)
    (others : ∀ other, other ≠ thread → (mutex = some other ↔ state.mutex = some other))
    (granted : next = .granted → state.predicate thread = true)
    (refused : ∀ i, thread = .consumer i → next = .refused → state.object.queue = [])
    (unserved : ∀ j, thread = .producer j → next.unserved = true → state.toPush j ≠ []) :
    Consistent { state.setPosition thread next with mutex } :=
  consistent.moves rfl holds others (.inl rfl) (fun _ => .inl rfl)
    (fun is => (predicate_of_object rfl thread).trans (granted is)) refused unserved
    consistent.bound

/-- A thread gives the mutex back. -/
theorem Consistent.release (consistent : Consistent state) (mine : state.mutex = some thread)
    (releases : next.holds = false)
    (unserved : ∀ j, thread = .producer j → next.unserved = true → state.toPush j ≠ []) :
    Consistent { state.setPosition thread next with mutex := none } := by
  refine consistent.setPosition thread ?_ (fun other differs => ?_) (fun is => ?_)
    (fun _ _ is => ?_) unserved
  · rw [releases]
    exact iff_of_false Bool.false_ne_true nofun
  · rw [mine]
    exact iff_of_false nofun fun same => differs (Option.some.inj same).symm
  · rw [is] at releases
    cases releases
  · rw [is] at releases
    cases releases

theorem Consistent.owns (consistent : Consistent state)
    (holds : (state.position thread).holds = true) : state.mutex = some thread :=
  (consistent.owner thread).mp holds

theorem Consistent.idle (consistent : Consistent state)
    (waits : (state.position thread).holds = false) : ¬ state.mutex = some thread := by
  intro mine
  rw [(consistent.owner thread).mpr mine] at waits
  cases waits

/-- A consumer that was granted the queue finds an item, or the end. -/
theorem moveItem_consumer (consistent : Consistent state) {i : Fin c}
    (granted : state.position (.consumer i) = .granted) :
    (∃ item rest, state.object.queue = item :: rest ∧
      state.moveItem (.consumer i) = { state.setPosition (.consumer i) .moved with
        object := { state.object with queue := rest }
        popped := Function.update state.popped i (state.popped i ++ [item]) }) ∨
    (state.object.queue = [] ∧ state.object.finished = true ∧
      state.moveItem (.consumer i) = state.setPosition (.consumer i) .leaving) := by
  obtain ⟨item, rest, held, pops⟩ | ⟨nothing, finished, pops⟩ :=
    BoundedQueue.pop_cases (consistent.granted _ granted)
  · exact .inl ⟨item, rest, held, by simp only [moveItem, pops]⟩
  · exact .inr ⟨nothing, finished, by simp only [moveItem, pops, QueueState.setPosition]⟩

theorem moveItem_producer (consistent : Consistent state) {j : Fin p}
    (granted : state.position (.producer j) = .granted) :
    state.object.notFull = true ∧ ∃ item items, state.toPush j = item :: items ∧
      state.moveItem (.producer j) = { state.setPosition (.producer j) .moved with
        object := state.object.push item
        toPush := Function.update state.toPush j items } := by
  refine ⟨consistent.granted _ granted, ?_⟩
  obtain ⟨item, items, given⟩ :=
    List.exists_cons_of_ne_nil (consistent.unserved j (by rw [granted]; rfl))
  exact ⟨item, items, given, by simp only [moveItem, given]⟩

theorem moveItem_consistent (consistent : Consistent state)
    (granted : state.position thread = .granted) : Consistent (state.moveItem thread) := by
  have mine : state.mutex = some thread := consistent.owns (by rw [granted]; rfl)
  have owns : ∀ {next : Position}, next.holds = true →
      (next.holds = true ↔ state.mutex = some thread) := fun holds => iff_of_true holds mine
  cases thread with
  | consumer i =>
    obtain ⟨item, rest, held, same⟩ | ⟨_, _, same⟩ := moveItem_consumer consistent granted
    · rw [same]
      refine consistent.moves rfl (owns rfl) (fun _ _ => Iff.rfl) (.inr mine) (fun _ => .inl rfl)
        nofun nofun nofun ?_
      have bound := consistent.bound
      rw [held, List.length_cons] at bound
      exact Nat.le_of_succ_le bound
    · rw [same]
      exact consistent.setPosition _ (owns rfl) (fun _ _ => Iff.rfl)
        nofun nofun nofun
  | producer j =>
    obtain ⟨notFull, item, items, given, same⟩ := moveItem_producer consistent granted
    rw [same]
    refine consistent.moves rfl (owns rfl) (fun _ _ => Iff.rfl) (.inr mine) (fun other => ?_)
      nofun nofun nofun ?_
    · by_cases this : other = j
      · exact .inr (by rw [this])
      · exact .inl (Function.update_of_ne this _ _)
    · have room : state.object.queue.length < state.object.maxSize := of_decide_eq_true notFull
      simp only [BoundedQueue.push, List.length_append, List.length_singleton]
      exact room

theorem lock_consistent (consistent : Consistent state) (enabled : Enabled (.lock thread) state) :
    Consistent (effect (.lock thread) state) := by
  obtain ⟨free, calling⟩ := enabled
  refine consistent.setPosition thread (iff_of_true rfl rfl) (fun other differs => ?_) nofun nofun
    (fun j this _ => ?_)
  · rw [free]
    exact iff_of_false (fun same => differs (Option.some.inj same).symm) nofun
  · subst this
    cases calling with
    | inl notified => exact consistent.unserved j (by rw [notified]; rfl)
    | inr outside => exact outside.2

theorem check_consistent (consistent : Consistent state) (enabled : Enabled (.check thread) state) :
    Consistent (effect (.check thread) state) := by
  have checking : state.position thread = .checking := enabled
  have mine : state.mutex = some thread := consistent.owns (by rw [checking]; rfl)
  have unserved : ∀ j, thread = .producer j → state.toPush j ≠ [] := by
    intro j this
    subst this
    exact consistent.unserved j (by rw [checking]; rfl)
  cases holds : state.predicate thread with
  | true =>
    simp only [effect, holds, if_true]
    exact consistent.setPosition thread (iff_of_true rfl mine) (fun _ _ => Iff.rfl)
      (fun _ => holds) nofun fun j this _ => unserved j this
  | false =>
    simp only [effect, holds, Bool.false_eq_true, if_false]
    refine consistent.setPosition thread (iff_of_true rfl mine) (fun _ _ => Iff.rfl) nofun
      (fun i this _ => ?_) fun j this _ => unserved j this
    subst this
    simpa [QueueState.predicate, BoundedQueue.notEmptyOrFinished] using
      (Bool.or_eq_false_iff.mp holds).1

theorem notify_consistent {woken : Option (Thread c p)} (consistent : Consistent state)
    (enabled : Enabled (.notify thread woken) state) :
    Consistent (effect (.notify thread woken) state) := by
  have unlocked : state.position thread = .unlocked := by
    cases woken with
    | none => exact enabled.1
    | some other => exact enabled.1
  have idle : ¬ state.mutex = some thread := consistent.idle (by rw [unlocked]; rfl)
  have back : Consistent (state.setPosition thread .outside) :=
    consistent.setPosition thread (iff_of_false nofun idle) (fun _ _ => Iff.rfl) nofun nofun nofun
  cases woken with
  | none => exact back
  | some other =>
    -- the thread that is woken has parked, without the mutex
    have parked : state.position other = .parked := by
      have waits := enabled.2
      cases thread <;> cases other <;> first | exact waits | exact waits.elim
    have differs : other ≠ thread := by
      intro same
      rw [same, unlocked] at parked
      cases parked
    have still : (state.setPosition thread .outside).position other = .parked := by
      rw [setPosition_position, Function.update_of_ne differs, parked]
    have asleep : ¬ state.mutex = some other := back.idle (by rw [still]; rfl)
    refine back.setPosition other (iff_of_false nofun asleep) (fun _ _ => Iff.rfl) nofun nofun
      (fun j this _ => ?_)
    subst this
    exact back.unserved j (by rw [still]; rfl)

/-- Whatever the next action, mutual exclusion survives. -/
theorem effect_consistent (enabled : Enabled action state) (consistent : Consistent state) :
    Consistent (effect action state) := by
  cases action with
  | lock thread => exact lock_consistent consistent enabled
  | check thread => exact check_consistent consistent enabled
  | park thread =>
    have refused : state.position thread = .refused := enabled
    refine consistent.release (consistent.owns (by rw [refused]; rfl)) rfl fun j this _ => ?_
    subst this
    exact consistent.unserved j (by rw [refused]; rfl)
  | move thread => exact moveItem_consistent consistent enabled
  | unlock thread =>
    have mine : state.mutex = some thread := by
      apply consistent.owns
      cases enabled with
      | inl moved => rw [moved]; rfl
      | inr leaving => rw [leaving]; rfl
    by_cases leaving : state.position thread = .leaving
    · simp only [effect, if_pos leaving]
      exact consistent.release mine rfl nofun
    · simp only [effect, if_neg leaving]
      exact consistent.release mine rfl nofun
  | notify thread woken => exact notify_consistent consistent enabled
  | store =>
    refine ⟨consistent.owner, fun thread granted => ?_, consistent.refused, consistent.unserved,
      consistent.bound⟩
    have predicate := consistent.granted thread granted
    cases thread with
    | consumer i => simp [effect, QueueState.predicate, BoundedQueue.setFinished,
        BoundedQueue.notEmptyOrFinished]
    | producer j => exact predicate
  | notifyAll =>
    refine ⟨fun thread => ?_, fun thread granted => ?_, fun i refused => ?_, consistent.unserved,
      consistent.bound⟩
    · cases thread with
      | consumer i => exact (Bool.eq_iff_iff.mp (wake_holds _)).trans (consistent.owner _)
      | producer j => exact consistent.owner _
    · cases thread with
      | consumer i => exact consistent.granted _ (eq_of_wake rfl granted)
      | producer j => exact consistent.granted _ granted
    · exact consistent.refused i (eq_of_wake rfl refused)

/-- What an action does to the object. -/
inductive Operates (object : BoundedQueue α) : BoundedQueue α → Prop
  | none : Operates object object
  | push (item) : object.notFull = true → Operates object (object.push item)
  | pop (item rest) : object.queue = item :: rest →
    Operates object { object with queue := rest }
  | setFinished : Operates object object.setFinished

/-- Between the micro-steps, the queue changes by its operations only. -/
theorem effect_object (enabled : Enabled action state) (consistent : Consistent state) :
    Operates state.object (effect action state).object := by
  cases action with
  | move thread =>
    cases thread with
    | consumer i =>
      obtain ⟨item, rest, held, same⟩ | ⟨_, _, same⟩ := moveItem_consumer consistent enabled
      · simp only [effect, same]
        exact .pop item rest held
      · simp only [effect, same]
        exact .none
    | producer j =>
      obtain ⟨notFull, item, items, _, same⟩ := moveItem_producer consistent enabled
      simp only [effect, same]
      exact .push item notFull
  | store => exact .setFinished
  | notify thread woken => cases woken <;> exact .none
  | _ => exact .none

end Steps

end PictureReconstruct.Reconstruct
