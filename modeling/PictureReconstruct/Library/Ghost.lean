import PictureReconstruct.Library.Procedure

/-! # Procedures that are watched

A watched procedure runs on the state with a ghost beside it, in which it notes what the state is
at the moments of interest.

* `lift`, `note`: a part of the procedure itself, and a note.
* `Erases`: without its ghost, the watched procedure is the procedure.
-/

namespace Library.Ghost

open Library.Procedure

/-- A state with a ghost beside it. -/
structure Watched (σ γ : Type) where
  state : σ
  ghost : γ

variable {ε σ γ α β : Type}

/-- `m`, which knows nothing of the ghost. -/
def lift (m : EStateM ε σ α) : EStateM ε (Watched σ γ) α :=
  zoom Watched.state (fun state watched => { watched with state }) m

/-- The ghost changes as the state at this moment says. -/
def note (f : σ → γ → γ) : EStateM ε (Watched σ γ) PUnit :=
  modify fun watched => { watched with ghost := f watched.state watched.ghost }

theorem wp_lift {m : EStateM ε σ α} {Q : α → Watched σ γ → Prop} {E : ε → Watched σ γ → Prop}
    {watched : Watched σ γ} : wp (lift m) Q E watched ↔
      wp m (fun a state => Q a { watched with state }) (fun e state => E e { watched with state })
        watched.state := wp_zoom

theorem wp_note {f : σ → γ → γ} {Q : PUnit → Watched σ γ → Prop} {E : ε → Watched σ γ → Prop}
    {watched : Watched σ γ} : wp (note f) Q E watched ↔
      Q ⟨⟩ { watched with ghost := f watched.state watched.ghost } := Iff.rfl

/-- A result without its ghost. -/
def forget : EStateM.Result ε (Watched σ γ) α → EStateM.Result ε σ α
  | .ok a watched => .ok a watched.state
  | .error e watched => .error e watched.state

/-- Whatever is noted, `m'` does what `m` does. -/
def Erases (m' : EStateM ε (Watched σ γ) α) (m : EStateM ε σ α) : Prop :=
  ∀ watched, forget (m' watched) = m watched.state

theorem Erases.pure (a : α) :
    Erases (Pure.pure a : EStateM ε (Watched σ γ) α) (Pure.pure a : EStateM ε σ α) :=
  fun _ => rfl

theorem Erases.lift (m : EStateM ε σ α) :
    Erases (Ghost.lift m : EStateM ε (Watched σ γ) α) m := by
  intro watched
  unfold Ghost.lift zoom
  cases m watched.state <;> rfl

theorem Erases.bind {m' : EStateM ε (Watched σ γ) β} {m : EStateM ε σ β}
    {f' : β → EStateM ε (Watched σ γ) α} {f : β → EStateM ε σ α} (first : Erases m' m)
    (rest : ∀ b, Erases (f' b) (f b)) : Erases (m' >>= f') (m >>= f) := by
  intro watched
  have same := first watched
  rw [run_bind, run_bind]
  cases run : m' watched with
  | ok b after =>
    rw [run] at same
    rw [← same]
    exact rest b after
  | error e after =>
    rw [run] at same
    rw [← same]
    rfl

theorem Erases.ite {c : Prop} [Decidable c] {m' n' : EStateM ε (Watched σ γ) α}
    {m n : EStateM ε σ α} (left : Erases m' m) (right : Erases n' n) :
    Erases (if c then m' else n') (if c then m else n) := by
  by_cases h : c
  · simpa only [if_pos h] using left
  · simpa only [if_neg h] using right

theorem Erases.note {f : σ → γ → γ} {m' : EStateM ε (Watched σ γ) α} {m : EStateM ε σ α}
    (erases : Erases m' m) : Erases (Ghost.note f >>= fun _ => m') m :=
  fun watched => erases { watched with ghost := f watched.state watched.ghost }

theorem Erases.allM {p' : β → EStateM ε (Watched σ γ) Bool} {p : β → EStateM ε σ Bool}
    (erases : ∀ b, Erases (p' b) (p b)) : ∀ bs : List β, Erases (bs.allM p') (bs.allM p)
  | [] => .pure true
  | b :: bs => by
    simp only [List.allM]
    apply Erases.bind (erases b)
    intro continues
    cases continues with
    | true => exact Erases.allM erases bs
    | false => exact .pure false

end Library.Ghost
