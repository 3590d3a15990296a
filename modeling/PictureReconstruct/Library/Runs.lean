import Mathlib.Algebra.BigOperators.Group.Finset.Piecewise

/-! # Runs of a labelled transition system

`next label s` is the state after the step `label`; what the step depends on besides the state
is part of `next`.

* `run_invariant`: what every admitted step preserves holds in every state of a run whose steps
  are all admitted.
* `run_keeps`: what every step preserves holds in every state of a run.
* `length_le`: where every step takes from a measure, runs are bounded.  `attempt` takes the steps
  of a partial function, and `attempts_length_le` is the same for them.
* `sum_update`: a measure of many threads, one of which moves.
* `run_translated`: where every step is matched by a run of another system, every run is.
* `every_state_iff`: where a step from a good state leads to a good one exactly when it is admitted,
  all states of a run are good exactly when all its steps are admitted.  `every_kept_state_iff` is
  the same next to an invariant that every step keeps.
-/

namespace Library.Runs

variable {σ ι : Type} (next : ι → σ → σ)

/-- The state after the steps `labels`. -/
def run : List ι → σ → σ
  | [], s => s
  | label :: labels, s => run labels (next label s)

/-- Every step of the run is taken in a state that admits it. -/
def Admits (admitted : ι → σ → Prop) : List ι → σ → Prop
  | [], _ => True
  | label :: labels, s => admitted label s ∧ Admits admitted labels (next label s)

instance decidableAdmits {admitted : ι → σ → Prop} [∀ label s, Decidable (admitted label s)] :
    ∀ labels s, Decidable (Admits next admitted labels s)
  | [], _ => isTrue trivial
  | label :: labels, s =>
    have _ : Decidable (Admits next admitted labels (next label s)) :=
      decidableAdmits labels (next label s)
    inferInstanceAs (Decidable (admitted label s ∧ Admits next admitted labels (next label s)))

variable {next}

theorem run_append : ∀ (labels labels' : List ι) (s : σ),
    run next (labels ++ labels') s = run next labels' (run next labels s)
  | [], _, _ => rfl
  | label :: labels, labels', s => run_append labels labels' (next label s)

/-- An invariant that may depend on the steps still to come. -/
theorem run_invariant {admitted : ι → σ → Prop} {I : List ι → σ → Prop}
    (step : ∀ label labels s, I (label :: labels) s → admitted label s → I labels (next label s)) :
    ∀ labels s, I labels s → Admits next admitted labels s → I [] (run next labels s)
  | [], _, start, _ => start
  | label :: labels, s, start, admits =>
    run_invariant step labels (next label s) (step label labels s start admits.1) admits.2

theorem every_kept_state_iff {admitted : ι → σ → Prop} {J I : σ → Prop}
    (keeps : ∀ label s, J s → J (next label s))
    (step : ∀ label s, J s → I s → (I (next label s) ↔ admitted label s)) (labels : List ι) (s : σ)
    (kept : J s) :
    (∀ earlier later, labels = earlier ++ later → I (run next earlier s)) ↔
      I s ∧ Admits next admitted labels s := by
  induction labels generalizing s with
  | nil =>
    constructor
    · intro every
      exact ⟨every [] [] rfl, trivial⟩
    · rintro ⟨start, _⟩ earlier later split
      rw [(List.append_eq_nil_iff.mp split.symm).1]
      exact start
  | cons label labels ih =>
    have kept' : J (next label s) := keeps label s kept
    constructor
    · intro every
      have start : I s := every [] (label :: labels) rfl
      have rest : I (next label s) ∧ Admits next admitted labels (next label s) :=
        (ih (next label s) kept').mp fun earlier later split =>
          every (label :: earlier) later (by rw [split, List.cons_append])
      exact ⟨start, (step label s kept start).mp rest.1, rest.2⟩
    · rintro ⟨start, first, rest⟩ earlier later split
      cases earlier with
      | nil => exact start
      | cons label' earlier =>
        obtain ⟨rfl, remaining⟩ := List.cons_eq_cons.mp split
        have good : I (next label s) := (step label s kept start).mpr first
        exact (ih (next label s) kept').mpr ⟨good, rest⟩ earlier later remaining

theorem every_state_iff {admitted : ι → σ → Prop} {I : σ → Prop}
    (step : ∀ label s, I s → (I (next label s) ↔ admitted label s)) (labels : List ι) (s : σ) :
    (∀ earlier later, labels = earlier ++ later → I (run next earlier s)) ↔
      I s ∧ Admits next admitted labels s :=
  @every_kept_state_iff σ ι next admitted (fun _ => True) I (fun _ _ _ => trivial)
    (fun label s _ good => step label s good) labels s trivial

/-- An invariant that every step of the run keeps. -/
theorem run_keeps_of {allowed : ι → Prop} {I : σ → Prop}
    (step : ∀ label s, allowed label → I s → I (next label s)) :
    ∀ labels s, (∀ label ∈ labels, allowed label) → I s → I (run next labels s)
  | [], _, _, start => start
  | label :: labels, s, all, start =>
    have kept : I (next label s) := step label s (all label List.mem_cons_self) start
    run_keeps_of step labels (next label s)
      (fun label' member => all label' (List.mem_cons_of_mem label member)) kept

theorem run_keeps {I : σ → Prop} (step : ∀ label s, I s → I (next label s)) (labels : List ι)
    (s : σ) : I s → I (run next labels s) :=
  run_keeps_of (fun label s _ => step label s) labels s fun _ _ => trivial

/-- Where every step takes from a measure, no run is longer than the measure. -/
theorem length_le {admitted : ι → σ → Prop} {I : σ → Prop} {measure : σ → Nat}
    (step : ∀ label s, I s → admitted label s →
      I (next label s) ∧ measure (next label s) < measure s) :
    ∀ labels s, I s → Admits next admitted labels s → labels.length ≤ measure s
  | [], _, _, _ => Nat.zero_le _
  | label :: labels, s, start, admits => by
    obtain ⟨kept, less⟩ := step label s start admits.1
    have rest : labels.length ≤ measure (next label s) :=
      length_le step labels (next label s) kept admits.2
    exact Nat.lt_of_le_of_lt rest less

/-! ## Steps that cannot always be taken -/

section Attempts

variable {step : ι → σ → Option σ} {I : σ → Prop}

/-- A step that cannot be taken leaves the state as it is. -/
def attempt (step : ι → σ → Option σ) (label : ι) (s : σ) : σ := (step label s).getD s

theorem attempt_keeps (moves : ∀ label s after, I s → step label s = some after → I after)
    (label : ι) (s : σ) (kept : I s) : I (attempt step label s) := by
  rw [attempt]
  cases stepped : step label s with
  | none => exact kept
  | some after => exact moves label s after kept stepped

theorem attempts_length_le {measure : σ → Nat}
    (moves : ∀ label s after, I s → step label s = some after →
      I after ∧ measure after < measure s) (labels : List ι) (s : σ) (start : I s)
    (admits : Admits (attempt step) (fun label s => (step label s).isSome) labels s) :
    labels.length ≤ measure s := by
  refine length_le (fun label s kept stepping => ?_) labels s start admits
  obtain ⟨after, stepped⟩ := Option.isSome_iff_exists.mp stepping
  have same : attempt step label s = after := by rw [attempt, stepped, Option.getD_some]
  exact same ▸ moves label s after kept stepped

end Attempts

/-! ## Measures of many threads -/

theorem sum_update {τ α : Type} [Fintype τ] [DecidableEq τ] (measure : α → Nat)
    (position : τ → α) (thread : τ) (next : α) :
    (∑ other, measure (Function.update position thread next other)) + measure (position thread) =
      (∑ other, measure (position other)) + measure next := by
  have changed : (fun other => measure (Function.update position thread next other)) =
      Function.update (fun other => measure (position other)) thread (measure next) := by
    funext other
    exact Function.apply_update (fun _ => measure) position thread next other
  have rest := Finset.add_sum_erase Finset.univ (fun other => measure (position other))
    (Finset.mem_univ thread)
  rw [changed, Finset.sum_update_of_mem (Finset.mem_univ thread), Finset.sdiff_singleton_eq_erase]
  omega

/-! ## Runs of another system -/

section Translation

variable {τ κ : Type} {next' : κ → τ → τ} {events : ι → σ → List κ}

/-- The steps of another system for a run, where `events label s` are those for one step. -/
def translate (next : ι → σ → σ) (events : ι → σ → List κ) : List ι → σ → List κ
  | [], _ => []
  | label :: labels, s => events label s ++ translate next events labels (next label s)

theorem mem_translate {event : κ} : ∀ {labels : List ι} {s : σ},
    event ∈ translate next events labels s → ∃ label ∈ labels, ∃ s', event ∈ events label s'
  | [], _, member => nomatch member
  | label :: labels, s, member => by
    cases List.mem_append.mp member with
    | inl here => exact ⟨label, List.mem_cons_self, s, here⟩
    | inr behind =>
      obtain ⟨label', member', found⟩ := mem_translate behind
      exact ⟨label', List.mem_cons_of_mem label member', found⟩

theorem run_translated {R : σ → τ → Prop}
    (step : ∀ label s t, R s t → R (next label s) (run next' (events label s) t)) :
    ∀ labels s t, R s t → R (run next labels s) (run next' (translate next events labels s) t)
  | [], _, _, related => related
  | label :: labels, s, t, related => by
    rw [translate, run_append]
    exact run_translated step labels (next label s) _ (step label s t related)

end Translation

end Library.Runs
