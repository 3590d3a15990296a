import PictureReconstruct.Library.Procedure
import PictureReconstruct.Library.Runs

/-! # Procedures and runs seen through a view

A view maps the states of one system to those of another one.

* `Follows`: seen through the view, a procedure does what another one does; `Follows.pure`,
  `Follows.bind`, …: one rule for each construct.
* `observed`: what a run shows step by step.
* `observed_eq`: where each step shows the same and the view commutes with it, runs do.
-/

namespace Library.Views

open Library.Procedure Library.Runs

variable {ε σ τ ι α β γ : Type}

/-- A result, its state seen through `view`. -/
def seen (view : σ → τ) : EStateM.Result ε σ α → EStateM.Result ε τ α
  | .ok a s => .ok a (view s)
  | .error e s => .error e (view s)

/-- Seen through `view`, `m` does what `m'` does. -/
def Follows (view : σ → τ) (m : EStateM ε σ α) (m' : EStateM ε τ α) : Prop :=
  ∀ s, seen view (m s) = m' (view s)

section Rules

variable {view : σ → τ}

theorem Follows.pure (a : α) :
    Follows view (Pure.pure a : EStateM ε σ α) (Pure.pure a : EStateM ε τ α) :=
  fun _ => rfl

theorem Follows.throw (e : ε) :
    Follows view (MonadExcept.throw e : EStateM ε σ α) (MonadExcept.throw e : EStateM ε τ α) :=
  fun _ => rfl

theorem Follows.modify {f : σ → σ} {f' : τ → τ} (commutes : ∀ s, view (f s) = f' (view s)) :
    Follows view (modify f : EStateM ε σ PUnit) (modify f' : EStateM ε τ PUnit) := by
  intro s
  exact congrArg (EStateM.Result.ok PUnit.unit) (commutes s)

theorem Follows.bind {m : EStateM ε σ β} {m' : EStateM ε τ β} {f : β → EStateM ε σ α}
    {f' : β → EStateM ε τ α} (first : Follows view m m') (rest : ∀ b, Follows view (f b) (f' b)) :
    Follows view (m >>= f) (m' >>= f') := by
  intro s
  have same := first s
  rw [run_bind, run_bind, ← same]
  cases m s with
  | ok b after => exact rest b after
  | error e after => rfl

/-- The state is read, and what follows depends on a part of it only. -/
theorem Follows.read {part : σ → γ} {part' : τ → γ} {f : γ → EStateM ε σ α}
    {f' : γ → EStateM ε τ α} (same : ∀ s, part s = part' (view s))
    (rest : ∀ c, Follows view (f c) (f' c)) :
    Follows view (get >>= fun s => f (part s)) (get >>= fun t => f' (part' t)) := by
  intro s
  rw [run_get_bind, run_get_bind, ← same]
  exact rest (part s) s

theorem Follows.ite {c c' : Prop} [Decidable c] [Decidable c'] {m n : EStateM ε σ α}
    {m' n' : EStateM ε τ α} (same : c ↔ c') (left : Follows view m m')
    (right : Follows view n n') :
    Follows view (if c then m else n) (if c' then m' else n') := by
  by_cases h : c
  · rw [if_pos h, if_pos (same.mp h)]
    exact left
  · rw [if_neg h, if_neg fun h' => h (same.mpr h')]
    exact right

end Rules

/-- What the steps show, where `shows label s` is what the step `label` shows in `s`. -/
def observed (next : ι → σ → σ) (shows : ι → σ → β) : List ι → σ → List β
  | [], _ => []
  | label :: labels, s => shows label s :: observed next shows labels (next label s)

theorem observed_eq {next : ι → σ → σ} {next' : ι → τ → τ} {shows : ι → σ → β}
    {shows' : ι → τ → β} {view : σ → τ} (same : ∀ label s, shows label s = shows' label (view s))
    (commutes : ∀ label s, view (next label s) = next' label (view s)) :
    ∀ labels s, observed next shows labels s = observed next' shows' labels (view s)
  | [], _ => rfl
  | label :: labels, s => by
    rw [observed, observed, same, ← commutes, observed_eq same commutes labels (next label s)]

end Library.Views
