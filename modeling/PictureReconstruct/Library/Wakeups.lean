import Mathlib.Algebra.Order.BigOperators.Group.Finset
import PictureReconstruct.Library.Monitors

/-! # No wake-up is lost

* `Signals`: what the operations of a monitor have to notify.
* `Awaited`: who is parked while there is something to take can count on a thread that is awake.
* `total`: a bound on the steps that the calls underway still take.
* `run_settles`: the calls that have begun come to their ends or park, and who is then parked waits
  for something that is not there.
-/

namespace Library.Monitors

open Library.Runs

/-! ## Who is awake -/

/-- An operation that makes the waiting one possible once more notifies a thread, and one that lets
    every thread through notifies them all. -/
structure Signals {σ κ : Type} (monitor : Monitor σ κ) (grants : σ → Nat) (closed : σ → Bool) :
    Prop where
  ready : ∀ object, monitor.ready object = true ↔ closed object = true ∨ 0 < grants object
  take : ∀ object, monitor.ready object = true → closed object = false →
    closed (monitor.take object) = false ∧ grants (monitor.take object) + 1 ≤ grants object
  silent : ∀ operation object, monitor.signal operation object = .none → closed object = false →
    closed (monitor.change operation object) = false ∧
      grants (monitor.change operation object) ≤ grants object
  one : ∀ operation object, monitor.signal operation object = .one → closed object = false →
    closed (monitor.change operation object) = false ∧
      grants (monitor.change operation object) ≤ grants object + 1

/-- While a thread is parked, there is no more to take than there are threads that are awake. -/
def Awaited {τ σ κ : Type} [Fintype τ] (grants : σ → Nat) (closed : σ → Bool)
    (state : MonitorState τ σ κ) : Prop :=
  (∃ thread, state.position thread = .parked) →
    (∃ thread, (state.position thread).pending = .all) ∨
    (closed state.object = false ∧
      grants state.object ≤ ∑ thread, (state.position thread).weight)

section Awake

variable {τ σ κ : Type} [Fintype τ] {monitor : Monitor σ κ}
  {grants : σ → Nat} {closed : σ → Bool} {state after : MonitorState τ σ κ} {thread : τ}
  {next : Position κ} {action : MonitorAction τ κ}

theorem weight_of_one {position : Position κ} (one : position.pending = .one) :
    position.weight = 1 := by
  cases position with
  | signalling signal | changed signal | unlocked signal =>
    obtain rfl : signal = .one := one
    rfl
  | _ => cases one

/-- Nothing is there to take. -/
theorem Awaited.nothing (refused : monitor.ready state.object = false)
    (signals : Signals monitor grants closed) (object : after.object = state.object) :
    Awaited grants closed after := by
  have neither : ¬ (closed state.object = true ∨ 0 < grants state.object) := by
    rw [← signals.ready, refused]
    exact Bool.false_ne_true
  have empty : grants after.object = 0 := by
    rw [object]
    exact Nat.eq_zero_of_not_pos fun positive => neither (.inr positive)
  refine fun _ => .inr ⟨?_, empty ▸ Nat.zero_le _⟩
  rw [object]
  exact Bool.eq_false_iff.mpr fun closing => neither (.inl closing)

variable [DecidableEq τ]

/-- One thread moves on. -/
theorem Awaited.moves (awaited : Awaited grants closed state)
    (moves : after.position = Function.update state.position thread next) (awake : next ≠ .parked)
    (pending : (state.position thread).pending = .all → next.pending = .all)
    (accounted : closed state.object = false → next.pending ≠ .all →
      closed after.object = false ∧ grants after.object + (state.position thread).weight ≤
        grants state.object + next.weight) :
    Awaited grants closed after := by
  rintro ⟨sleeper, parked⟩
  have asleep : state.position sleeper = .parked := by
    rw [moves] at parked
    by_cases same : sleeper = thread
    · rw [same, Function.update_self] at parked
      exact absurd parked awake
    · rwa [Function.update_of_ne same] at parked
  by_cases all : next.pending = .all
  · exact .inl ⟨thread, by rw [moves, Function.update_self, all]⟩
  · cases awaited ⟨sleeper, asleep⟩ with
    | inl coming =>
      obtain ⟨other, its⟩ := coming
      have differs : other ≠ thread := fun same => all (pending (same ▸ its))
      exact .inl ⟨other, by rw [moves, Function.update_of_ne differs, its]⟩
    | inr enough =>
      obtain ⟨opened, bound⟩ := accounted enough.1 all
      have sum := sum_update Position.weight state.position thread next
      have enough := enough.2
      refine .inr ⟨opened, ?_⟩
      rw [moves]
      omega

/-- A thread moves on and leaves the object as it is. -/
theorem Awaited.stays (awaited : Awaited grants closed state)
    (moves : after.position = Function.update state.position thread next)
    (object : after.object = state.object) (awake : next ≠ .parked)
    (pending : (state.position thread).pending = .all → next.pending = .all)
    (weight : (state.position thread).weight ≤ next.weight) : Awaited grants closed after :=
  awaited.moves moves awake pending fun opened _ =>
    ⟨object ▸ opened, by rw [object]; exact Nat.add_le_add_left weight _⟩

/-- The thread that is woken takes the place of the one that wakes it. -/
theorem weight_handed {woken : τ} (asleep : state.position woken = .parked)
    (weighs : (state.position thread).weight = 1) (done : next.weight = 0) :
    ∑ other, (Function.update (Function.update state.position woken .notified) thread next
      other).weight = ∑ other, (state.position other).weight := by
  have differs : thread ≠ woken := by
    intro same
    rw [same, asleep] at weighs
    cases weighs
  have first := sum_update Position.weight state.position woken .notified
  have second := sum_update Position.weight
    (Function.update state.position woken .notified) thread next
  rw [Function.update_of_ne differs, weighs, done] at second
  have sleeping : (state.position woken).weight = 0 := by rw [asleep]; rfl
  have waking : (Position.notified : Position κ).weight = 1 := rfl
  omega

theorem notify_awaited {woken : Option τ} (awaited : Awaited grants closed state)
    (enabled : Enabled (.notify thread woken) state) :
    Awaited grants closed (effect monitor (.notify thread woken) state) := by
  obtain ⟨signal, place, wakes⟩ := enabled
  have notifies : (state.position thread).Notifies signal := place
  rw [effect, notifies.pending]
  generalize back : (if (state.position thread).holds then Position.changed .none
    else Position.outside) = next
  have through : next ≠ .parked ∧ next.weight = 0 := by
    rw [← back]
    split <;> exact ⟨(fun same => by cases same), rfl⟩
  rintro ⟨sleeper, parked⟩
  obtain ⟨differs, parked, asleep⟩ := notified_parked wakes through.1 parked
  cases signal with
  | all =>
    -- nobody is parked any more
    have waking : (state.position sleeper).wake = .parked := parked
    rw [asleep] at waking
    cases waking
  | none =>
    obtain rfl : woken = none := wakes
    have same : Awaited grants closed
        { state with position := Function.update state.position thread next } :=
      awaited.moves rfl through.1 (fun all => by cases notifies.pending.symm.trans all)
        fun opened _ => ⟨opened, by rw [notifies.weight, through.2]; exact Nat.le_refl _⟩
    exact same ⟨sleeper, (Function.update_of_ne differs ..).trans asleep⟩
  | one =>
    cases woken with
    | none => exact absurd asleep (wakes sleeper)
    | some woken =>
      have asleep' : state.position woken = .parked := wakes
      cases awaited ⟨sleeper, asleep⟩ with
      | inl coming =>
        -- who wakes all of them still does
        obtain ⟨third, its⟩ := coming
        have differs : third ≠ thread := by
          intro same
          rw [same, notifies.pending] at its
          cases its
        have differs' : third ≠ woken := by
          intro same
          rw [same, asleep'] at its
          cases its
        refine .inl ⟨third, ?_⟩
        simp only [notified, Function.update_of_ne differs, Function.update_of_ne differs', its]
      | inr enough =>
        refine .inr ⟨enough.1, ?_⟩
        simp only [notified]
        rw [weight_handed asleep' notifies.weight through.2]
        exact enough.2

/-- An operation that does not wait changes the object. -/
theorem change_awaited (signals : Signals monitor grants closed)
    (awaited : Awaited grants closed state) (enabled : Enabled (.change thread) state) :
    Awaited grants closed (effect monitor (.change thread) state) := by
  obtain ⟨operation, entered⟩ := enabled
  have next : ∀ next : Position κ, next ≠ .parked →
      next.pending = monitor.signal operation state.object →
      (next.pending = .one → next.weight = 1) →
      Awaited grants closed { state.setPosition thread next with
        object := monitor.change operation state.object } := by
    intro next awake pending weighs
    refine awaited.moves rfl awake (fun all => ?_) (fun opened some => ?_)
    · rw [entered] at all
      cases all
    · rw [entered]
      -- what there is more to take is what it notifies
      cases signal : monitor.signal operation state.object with
      | none =>
        obtain ⟨opened, bound⟩ := signals.silent operation _ signal opened
        exact ⟨opened, Nat.le_trans bound (Nat.le_add_right _ _)⟩
      | one =>
        rw [weighs (pending.trans signal)]
        exact signals.one operation _ signal opened
      | all => exact absurd (pending.trans signal) some
  simp only [effect, entered]
  split
  · exact next _ (fun same => by cases same) rfl weight_of_one
  · exact next _ (fun same => by cases same) rfl weight_of_one

theorem effect_awaited (signals : Signals monitor grants closed)
    (consistent : Consistent monitor state) (awaited : Awaited grants closed state)
    (enabled : Enabled action state) : Awaited grants closed (effect monitor action state) := by
  cases action with
  | call thread operation =>
    have outside : state.position thread = .outside := enabled.2
    have next : ∀ next : Position κ, next ≠ .parked →
        Awaited grants closed { state.setPosition thread next with mutex := some thread } :=
      fun next awake => awaited.stays rfl rfl awake (fun all => by rw [outside] at all; cases all)
        (by rw [outside]; exact Nat.zero_le _)
    cases operation with
    | none => exact next .checking nofun
    | some operation => exact next (.entered operation) nofun
  | relock thread =>
    have woken : state.position thread = .notified := enabled.2
    refine awaited.stays rfl rfl nofun (fun all => ?_) ?_
    · rw [woken] at all
      cases all
    · rw [woken]
      exact Nat.le_refl 1
  | check thread =>
    have checking : state.position thread = .checking := enabled
    refine awaited.stays rfl rfl ?_ (fun all => ?_) ?_
    · split <;> exact nofun
    · rw [checking] at all
      cases all
    · rw [checking]
      split <;> exact Nat.le_refl 1
  | park thread | expire thread =>
    -- the predicate that the thread has found false still is
    exact .nothing (consistent.refused thread enabled) signals rfl
  | take thread =>
    have granted : state.position thread = .granted := enabled
    refine awaited.moves rfl nofun (fun all => ?_) (fun opened _ => ?_)
    · rw [granted] at all
      cases all
    · rw [granted]
      exact signals.take state.object (consistent.granted thread granted) opened
  | change thread => exact change_awaited signals awaited enabled
  | unlock thread =>
    obtain ⟨signal, changed⟩ := enabled
    refine awaited.stays rfl rfl nofun ?_ ?_
    · rw [changed]
      exact id
    · rw [changed]
      cases signal <;> exact Nat.le_refl _
  | notify thread woken => exact notify_awaited awaited enabled
  | spurious thread =>
    have parked : state.position thread = .parked := enabled
    refine awaited.stays rfl rfl nofun (fun all => ?_) ?_
    · rw [parked] at all
      cases all
    · rw [parked]
      exact Nat.zero_le _

end Awake

/-! ## Calls come to their ends -/

/-- How many threads, of `threads`, a notification wakes at most. -/
def Signal.reach (threads : Nat) : Signal → Nat
  | none => 0
  | one => 1
  | all => threads

/-- A bound on the steps that are left, of the thread itself and of those it wakes. -/
def Position.potential {κ : Type} (threads : Nat) : Position κ → Nat
  | outside | parked => 0
  | checking => 4
  | refused | granted => 3
  | notified => 5
  | entered _ => 9 + 5 * threads
  | signalling signal => 3 + 5 * signal.reach threads
  | changed signal => 2 + 5 * signal.reach threads
  | unlocked signal => 1 + 5 * signal.reach threads

/-- The potential of all threads. -/
def total {τ σ κ : Type} [Fintype τ] (state : MonitorState τ σ κ) : Nat :=
  ∑ thread, (state.position thread).potential (Fintype.card τ)

/-- Who is in no call, or sleeps in front of nothing to take. -/
def Settled {τ σ κ : Type} (monitor : Monitor σ κ) (state : MonitorState τ σ κ) : Prop :=
  ∀ thread, state.position thread = .outside ∨
    (state.position thread = .parked ∧ monitor.ready state.object = false)

section Ends

variable {τ σ κ : Type} [Fintype τ] {monitor : Monitor σ κ}
  {grants : σ → Nat} {closed : σ → Bool} {state after : MonitorState τ σ κ} {thread : τ}
  {next : Position κ} {action : MonitorAction τ κ}

/-- When no call can be carried on, nobody sleeps in front of something to take. -/
theorem settled (signals : Signals monitor grants closed) (consistent : Consistent monitor state)
    (awaited : Awaited grants closed state)
    (quiet : ∀ action, Enabled action state → ¬ action.Inner) : Settled monitor state := by
  have resting : ∀ thread, state.position thread = .outside ∨ state.position thread = .parked := by
    intro thread
    by_contra busy
    obtain ⟨action, enabled, inner⟩ := carries_on consistent (not_or.mp busy)
    exact quiet action enabled inner
  intro thread
  refine (resting thread).imp_right fun parked => ⟨parked, ?_⟩
  have weightless : ∑ other, (state.position other).weight = 0 := by
    refine Finset.sum_eq_zero fun other _ => ?_
    cases resting other with
    | inl outside => rw [outside]; rfl
    | inr parked => rw [parked]; rfl
  cases awaited ⟨thread, parked⟩ with
  | inl coming =>
    obtain ⟨other, all⟩ := coming
    cases resting other with
    | inl outside => rw [outside] at all; cases all
    | inr parked => rw [parked] at all; cases all
  | inr enough =>
    rw [Bool.eq_false_iff]
    intro ready
    have bound := enough.2
    cases (signals.ready state.object).mp ready with
    | inl closing => exact Bool.false_ne_true (enough.1.symm.trans closing)
    | inr some => omega

variable [DecidableEq τ]

theorem total_moves (moves : after.position = Function.update state.position thread next)
    (less : next.potential (Fintype.card τ) <
      (state.position thread).potential (Fintype.card τ)) : total after < total state := by
  have sum := sum_update (Position.potential (Fintype.card τ)) state.position thread next
  simp only [total, moves]
  omega

/-- A notification costs what the threads that it wakes have ahead of them. -/
theorem total_notified {woken : Option τ} {signal : Signal} (wakes : Wakes state signal woken) :
    (∑ other, (notified state woken signal other).potential (Fintype.card τ)) ≤
      total state + 5 * signal.reach (Fintype.card τ) := by
  cases signal with
  | none =>
    obtain rfl : woken = none := wakes
    exact Nat.le_add_right _ _
  | one =>
    cases woken with
    | none => exact Nat.le_add_right _ _
    | some woken =>
      have sum := sum_update (Position.potential (Fintype.card τ)) state.position woken .notified
      have waking : (Position.notified : Position κ).potential (Fintype.card τ) = 5 := rfl
      simp only [total, notified, Signal.reach]
      omega
  | all =>
    have each : ∀ other, (state.position other).wake.potential (Fintype.card τ) ≤
        (state.position other).potential (Fintype.card τ) + 5 := by
      intro other
      cases wake_cases (state.position other) with
      | inl same => rw [same]; exact Nat.le_add_right _ _
      | inr woken => rw [woken.1]; exact Nat.le_refl 5
    calc ∑ other, (state.position other).wake.potential (Fintype.card τ)
        ≤ ∑ other, ((state.position other).potential (Fintype.card τ) + 5) :=
          Finset.sum_le_sum fun other _ => each other
      _ = total state + 5 * Fintype.card τ := by
          rw [Finset.sum_add_distrib, Finset.sum_const, Finset.card_univ, Nat.nsmul_eq_mul,
            Nat.mul_comm, total]

theorem total_notify {woken : Option τ} (enabled : Enabled (.notify thread woken) state) :
    total (effect monitor (.notify thread woken) state) < total state := by
  obtain ⟨signal, place, wakes⟩ := enabled
  have bound := total_notified wakes
  have awake : notified state woken signal thread = state.position thread := by
    cases notified_cases wakes thread with
    | inl same => exact same
    | inr asleep => exact absurd asleep.1 (Position.Notifies.ne_parked place)
  have sum := sum_update (Position.potential (Fintype.card τ)) (notified state woken signal) thread
    (if (state.position thread).holds then .changed .none else .outside)
  rw [awake] at sum
  cases place with
  | inl signalling =>
    rw [signalling] at sum
    simp only [effect, total, signalling, Position.pending, Position.holds, if_true,
      Position.potential, Signal.reach] at sum bound ⊢
    omega
  | inr unlocked =>
    rw [unlocked] at sum
    simp only [effect, total, unlocked, Position.pending, Position.holds, Bool.false_eq_true,
      if_false, Position.potential] at sum bound ⊢
    omega

theorem reach_le (signal : Signal) (threads : Nat) : signal.reach threads ≤ threads + 1 := by
  cases signal with
  | none => exact Nat.zero_le _
  | one => exact Nat.le_add_left 1 threads
  | all => exact Nat.le_succ threads

/-- A step that carries on a call lowers the bound. -/
theorem total_lt (enabled : Enabled action state) (inner : action.Inner) :
    total (effect monitor action state) < total state := by
  cases action with
  | call thread operation | spurious thread => exact inner.elim
  | relock thread =>
    have woken : state.position thread = .notified := enabled.2
    exact total_moves rfl (by rw [woken]; exact Nat.lt_succ_self 4)
  | check thread =>
    have checking : state.position thread = .checking := enabled
    refine total_moves rfl ?_
    rw [checking]
    split <;> exact Nat.lt_succ_self 3
  | park thread =>
    have refused : state.position thread = .refused := enabled
    exact total_moves rfl (by rw [refused]; exact Nat.zero_lt_succ 2)
  | expire thread =>
    have refused : state.position thread = .refused := enabled
    exact total_moves rfl (by rw [refused]; exact Nat.lt_succ_self 2)
  | take thread =>
    have granted : state.position thread = .granted := enabled
    exact total_moves rfl (by rw [granted]; exact Nat.lt_succ_self 2)
  | change thread =>
    obtain ⟨operation, entered⟩ := enabled
    have reach := reach_le (monitor.signal operation state.object) (Fintype.card τ)
    simp only [effect, entered]
    refine total_moves rfl ?_
    rw [entered]
    split
    · simp only [Position.potential]
      omega
    · simp only [Position.potential]
      omega
  | unlock thread =>
    obtain ⟨signal, changed⟩ := enabled
    refine total_moves rfl ?_
    rw [changed]
    simp only [Position.potential, Position.pending]
    omega
  | notify thread woken => exact total_notify enabled

/-- The calls that have begun are bounded together, whatever order they are carried on in. -/
theorem inner_length_le (actions : List (MonitorAction τ κ)) (state : MonitorState τ σ κ)
    (admits : Admits (effect monitor) (fun action state => Enabled action state ∧ action.Inner)
      actions state) : actions.length ≤ total state :=
  length_le (I := fun _ => True)
    (fun _ _ _ carried => ⟨trivial, total_lt carried.1 carried.2⟩) actions state trivial admits

/-- What is underway comes to an end, whatever order it is carried on in. -/
structure Settles (monitor : Monitor σ κ) (state : MonitorState τ σ κ) : Prop where
  bounded : ∀ actions, Admits (effect monitor) (fun action state => Enabled action state ∧
    action.Inner) actions state → actions.length ≤ total state
  settled : ∀ actions, Admits (effect monitor) (fun action state => Enabled action state ∧
    action.Inner) actions state →
    (∀ action, Enabled action (run (effect monitor) actions state) → ¬ action.Inner) →
    Settled monitor (run (effect monitor) actions state)

/-- At every moment of every run with any calls. -/
theorem run_settles (signals : Signals monitor grants closed) (object : σ)
    (actions : List (MonitorAction τ κ))
    (admits : Admits (effect monitor) Enabled actions (initial object)) :
    Settles monitor (run (effect monitor) actions (initial object)) := by
  have step : ∀ (action : MonitorAction τ κ) (state : MonitorState τ σ κ), Enabled action state →
      Consistent monitor state ∧ Awaited grants closed state →
      Consistent monitor (effect monitor action state) ∧
        Awaited grants closed (effect monitor action state) :=
    fun action state enabled kept => ⟨effect_consistent kept.1 enabled,
      effect_awaited signals kept.1 kept.2 enabled⟩
  have start : Consistent monitor (initial object : MonitorState τ σ κ) ∧
      Awaited grants closed (initial object : MonitorState τ σ κ) :=
    ⟨.initial object, fun parked => parked.elim fun thread is => nomatch is⟩
  have here := run_invariant
    (I := fun _ state => Consistent monitor state ∧ Awaited grants closed state)
    (fun action _ state kept enabled => step action state enabled kept) actions _ start admits
  refine ⟨fun inner => inner_length_le inner _, fun inner carries quiet => ?_⟩
  have there := run_invariant
    (I := fun _ state => Consistent monitor state ∧ Awaited grants closed state)
    (fun action _ state kept carried => step action state carried.1 kept) inner _ here carries
  exact settled signals there.1 there.2 quiet

end Ends

end Library.Monitors
