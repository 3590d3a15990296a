import Mathlib.Logic.Basic

/-! # Weakest preconditions of stateful procedures

A procedure with state `σ` that may end abnormally is an `EStateM ε σ α`: the state reached
survives an abnormal end.  `wp m Q E s` says that `m`, started in `s`, ends normally in `Q`
or abnormally in `E`.

* `wp_pure`, `wp_bind`, `wp_ite`, …: one rule for each construct.
* `wp.mono`, `wp.post`: consequence.
* `wp_allM`, `wp_forM`: the rules for a loop over a list, stopped by `false` or not at all;
  the invariant is indexed by the elements still to come.
* `wp_zoom`: a procedure on a part of the state.
-/

namespace Library.Procedure

variable {ε σ τ α β : Type}

/-- `m` started in `s` ends normally in `Q` or abnormally in `E`. -/
def wp (m : EStateM ε σ α) (Q : α → σ → Prop) (E : ε → σ → Prop) (s : σ) : Prop :=
  match m s with
  | .ok a s' => Q a s'
  | .error e s' => E e s'

instance {m : EStateM ε σ α} {Q : α → σ → Prop} {E : ε → σ → Prop} {s : σ}
    [∀ a s', Decidable (Q a s')] [∀ e s', Decidable (E e s')] : Decidable (wp m Q E s) :=
  match run : m s with
  | .ok a s' => decidable_of_iff (Q a s') (by simp only [wp, run])
  | .error e s' => decidable_of_iff (E e s') (by simp only [wp, run])

theorem wp.mono {m : EStateM ε σ α} {Q Q' : α → σ → Prop} {E E' : ε → σ → Prop} {s : σ}
    (h : wp m Q E s) (normal : ∀ a s', Q a s' → Q' a s') (abnormal : ∀ e s', E e s' → E' e s') :
    wp m Q' E' s := by
  unfold wp at h ⊢
  cases run : m s with
  | ok a s' => rw [run] at h; exact normal a s' h
  | error e s' => rw [run] at h; exact abnormal e s' h

/-- Consequence for the normal end. -/
theorem wp.post {m : EStateM ε σ α} {Q Q' : α → σ → Prop} {E : ε → σ → Prop} {s : σ}
    (h : wp m Q E s) (normal : ∀ a s', Q a s' → Q' a s') : wp m Q' E s :=
  h.mono normal fun _ _ abnormal => abnormal

theorem wp.and {m : EStateM ε σ α} {Q Q' : α → σ → Prop} {E E' : ε → σ → Prop} {s : σ}
    (left : wp m Q E s) (right : wp m Q' E' s) :
    wp m (fun a s' => Q a s' ∧ Q' a s') (fun e s' => E e s' ∧ E' e s') s := by
  unfold wp at *
  cases run : m s with
  | ok a s' => rw [run] at left right; exact ⟨left, right⟩
  | error e s' => rw [run] at left right; exact ⟨left, right⟩

theorem wp_congr {m : EStateM ε σ α} {Q Q' : α → σ → Prop} {E : ε → σ → Prop} {s : σ}
    (same : ∀ a s', Q a s' ↔ Q' a s') : wp m Q E s ↔ wp m Q' E s :=
  ⟨fun h => h.post fun a s' => (same a s').mp, fun h => h.post fun a s' => (same a s').mpr⟩

theorem wp.ok {m : EStateM ε σ α} {Q : α → σ → Prop} {E : ε → σ → Prop} {s s' : σ} {a : α}
    (h : wp m Q E s) (run : m s = .ok a s') : Q a s' := by
  simpa only [wp, run] using h

theorem wp.error {m : EStateM ε σ α} {Q : α → σ → Prop} {E : ε → σ → Prop} {s s' : σ} {e : ε}
    (h : wp m Q E s) (run : m s = .error e s') : E e s' := by
  simpa only [wp, run] using h

/-! ## Runs of the constructs -/

theorem run_bind (m : EStateM ε σ β) (f : β → EStateM ε σ α) (s : σ) :
    (m >>= f) s =
      match m s with
      | .ok b s' => f b s'
      | .error e s' => .error e s' := rfl

theorem run_get_bind (f : σ → EStateM ε σ α) (s : σ) :
    ((get : EStateM ε σ σ) >>= f) s = f s s := rfl

/-! ## One rule for each construct -/

section Rules

variable (Q : α → σ → Prop) (E : ε → σ → Prop) (s : σ)

@[simp] theorem wp_pure (a : α) : wp (pure a : EStateM ε σ α) Q E s ↔ Q a s := Iff.rfl

@[simp] theorem wp_throw (e : ε) : wp (throw e : EStateM ε σ α) Q E s ↔ E e s := Iff.rfl

@[simp] theorem wp_get (Q : σ → σ → Prop) :
    wp (get : EStateM ε σ σ) Q E s ↔ Q s s := Iff.rfl

@[simp] theorem wp_modify (f : σ → σ) (Q : PUnit → σ → Prop) :
    wp (modify f : EStateM ε σ PUnit) Q E s ↔ Q ⟨⟩ (f s) := Iff.rfl

@[simp] theorem wp_bind (m : EStateM ε σ β) (f : β → EStateM ε σ α) :
    wp (m >>= f) Q E s ↔ wp m (fun b => wp (f b) Q E) E s := by
  unfold wp
  rw [run_bind]
  cases m s <;> rfl

theorem wp_ite (c : Prop) [Decidable c] (m n : EStateM ε σ α) :
    wp (if c then m else n) Q E s ↔ (c → wp m Q E s) ∧ (¬ c → wp n Q E s) := by
  split <;> simp_all

end Rules

/-! ## Loops over a list -/

/-- `for (a : as) if (!p(a)) return false; return true;` -/
theorem wp_allM {p : α → EStateM ε σ Bool} {Q : Bool → σ → Prop} {E : ε → σ → Prop}
    (I : List α → σ → Prop)
    (done : ∀ s, I [] s → Q true s)
    (step : ∀ a as s, I (a :: as) s →
      wp (p a) (fun continues s' => if continues then I as s' else Q false s') E s) :
    ∀ as s, I as s → wp (as.allM p) Q E s
  | [], s, start => done s start
  | a :: as, s, start => by
    simp only [List.allM, wp_bind]
    apply (step a as s start).post
    intro continues s' next
    -- `false` leaves the loop with the postcondition of the step
    cases continues with
    | true => exact wp_allM I done step as s' next
    | false => exact next

/-- `for (a : as) f(a);` -/
theorem wp_forM {f : α → EStateM ε σ PUnit} {Q : PUnit → σ → Prop} {E : ε → σ → Prop}
    (I : List α → σ → Prop)
    (done : ∀ s, I [] s → Q ⟨⟩ s)
    (step : ∀ a as s, I (a :: as) s → wp (f a) (fun _ s' => I as s') E s) :
    ∀ as s, I as s → wp (as.forM f) Q E s
  | [], s, start => done s start
  | a :: as, s, start => by
    simp only [List.forM_eq_forM, List.forM_cons, wp_bind]
    apply (step a as s start).post
    intro _ s' next
    exact wp_forM I done step as s' next

/-! ## A procedure on a part of the state -/

/-- `m` run on the part of the state that `part` reads and `update` writes. -/
def zoom (part : σ → τ) (update : τ → σ → σ) (m : EStateM ε τ α) : EStateM ε σ α := fun s =>
  match m (part s) with
  | .ok a t => .ok a (update t s)
  | .error e t => .error e (update t s)

@[simp] theorem wp_zoom {part : σ → τ} {update : τ → σ → σ} {m : EStateM ε τ α}
    {Q : α → σ → Prop} {E : ε → σ → Prop} {s : σ} :
    wp (zoom part update m) Q E s ↔
      wp m (fun a t => Q a (update t s)) (fun e t => E e (update t s)) (part s) := by
  unfold wp zoom
  cases m (part s) <;> rfl

/-- A loop on the part is a loop of procedures on the part. -/
theorem wp_allM_zoom (part : σ → τ) (update : τ → σ → σ) (reads : ∀ t s, part (update t s) = t)
    (writes : ∀ t t' s, update t (update t' s) = update t s) (keeps : ∀ s, update (part s) s = s)
    {m : β → EStateM ε τ Bool} {Q : Bool → σ → Prop} {E : ε → σ → Prop} (bs : List β) : ∀ s : σ,
    wp (bs.allM m) (fun all t => Q all (update t s)) (fun e t => E e (update t s)) (part s) →
      wp (bs.allM fun b => zoom part update (m b)) Q E s := by
  induction bs with
  | nil =>
    intro s start
    simp only [List.allM, wp_pure, keeps] at start ⊢
    exact start
  | cons b bs ih =>
    intro s start
    simp only [List.allM, wp_bind, wp_zoom] at start ⊢
    refine start.post fun continues t next => ?_
    cases continues with
    | false => exact next
    | true => exact ih _ (by simpa only [reads, writes] using next)

end Library.Procedure
