import PictureReconstruct.Library.Procedure
import PictureReconstruct.Library.Streams

/-! # Procedures that read a stream

* `readExact`: the next elements, or an abnormal end where they do not come.
* `Incremental`: on the first part of a stream a procedure does what it does on the whole, or ends
  because something is missing.
* `Incremental.starves`: so it ends that way on every part of what it would read.
-/

namespace Library.Streams

open Library.Procedure

variable {α β γ ε : Type} {split : Nat → Nat} {missing : ε → Prop}

/-- The next `size` elements. -/
def readExact (split : Nat → Nat) (size : Nat) (cause : ε) : EStateM ε (Stream α) (List α) :=
  fun stream =>
    let ((complete, elements), stream) := readLoop split size size stream
    if complete then .ok elements stream else .error cause stream

theorem readExact_eq (split : Nat → Nat) (size : Nat) (cause : ε) (stream : Stream α) :
    ∃ calls, readExact split size cause stream =
      if size ≤ stream.incoming.length then
        .ok (stream.incoming.take size) ⟨stream.incoming.drop size, calls⟩
      else .error cause ⟨stream.incoming.drop size, calls⟩ := by
  obtain ⟨calls, read⟩ := readLoop_spec split size size stream (Nat.le_refl size)
  refine ⟨calls, ?_⟩
  simp only [readExact, read, decide_eq_true_eq]

theorem wp_readExact {size : Nat} {cause : ε} {stream : Stream α}
    {Q : List α → Stream α → Prop} {E : ε → Stream α → Prop}
    (short : ∀ after, stream.incoming.length < size → E cause after)
    (long : ∀ calls, size ≤ stream.incoming.length →
      Q (stream.incoming.take size) ⟨stream.incoming.drop size, calls⟩) :
    wp (readExact split size cause) Q E stream := by
  obtain ⟨calls, read⟩ := readExact_eq split size cause stream
  rw [wp, read]
  by_cases enough : size ≤ stream.incoming.length
  · rw [if_pos enough]
    exact long calls enough
  · rw [if_neg enough]
    exact short _ (Nat.lt_of_not_le enough)

/-! ## More or less of the stream -/

/-- On a part of a stream, however either is cut: the same end as on the whole, with the rest still
    to be read, or an end because something is missing. -/
def Incremental (missing : ε → Prop) (m : EStateM ε (Stream α) β) : Prop :=
  ∀ part rest calls calls',
    (∃ result left after after', m ⟨part, calls⟩ = .ok result ⟨left, after⟩ ∧
      m ⟨part ++ rest, calls'⟩ = .ok result ⟨left ++ rest, after'⟩) ∨
    ∃ cause after, m ⟨part, calls⟩ = .error cause after ∧
      (missing cause ∨ ∃ after', m ⟨part ++ rest, calls'⟩ = .error cause after')

theorem incremental_pure (result : β) :
    Incremental missing (pure result : EStateM ε (Stream α) β) :=
  fun part _ calls calls' => .inl ⟨result, part, calls, calls', rfl, rfl⟩

theorem incremental_throw (cause : ε) :
    Incremental missing (throw cause : EStateM ε (Stream α) β) :=
  fun _ _ _ _ => .inr ⟨cause, _, rfl, .inr ⟨_, rfl⟩⟩

theorem incremental_readExact {size : Nat} {cause : ε} (lacks : missing cause) :
    Incremental missing (readExact split size cause : EStateM ε (Stream α) (List α)) := by
  intro part rest calls calls'
  obtain ⟨after, less⟩ := readExact_eq split size cause ⟨part, calls⟩
  obtain ⟨after', more⟩ := readExact_eq split size cause ⟨part ++ rest, calls'⟩
  by_cases enough : size ≤ part.length
  · refine .inl ⟨part.take size, part.drop size, after, after', ?_, ?_⟩
    · rw [less, if_pos enough]
    · rw [more, if_pos (by rw [List.length_append]; omega), List.take_append_of_le_length enough,
        List.drop_append_of_le_length enough]
  · exact .inr ⟨cause, _, by rw [less, if_neg enough], .inl lacks⟩

theorem Incremental.bind {m : EStateM ε (Stream α) γ} {f : γ → EStateM ε (Stream α) β}
    (first : Incremental missing m) (second : ∀ result, Incremental missing (f result)) :
    Incremental missing (m >>= f) := by
  intro part rest calls calls'
  simp only [run_bind]
  obtain ⟨result, left, after, after', less, more⟩ | ⟨cause, after, less, ended⟩ :=
    first part rest calls calls'
  · rw [less, more]
    exact second result left rest after after'
  · rw [less]
    refine .inr ⟨cause, after, rfl, ended.imp_right ?_⟩
    rintro ⟨after', more⟩
    exact ⟨after', by rw [more]⟩

/-- A test whose failure is an abnormal end. -/
theorem Incremental.unless {c : Prop} [Decidable c] {m : EStateM ε (Stream α) β} {cause : ε}
    (incremental : Incremental missing m) :
    Incremental missing (if c then throw cause >>= fun _ : PUnit => m else m) := by
  split
  · exact (incremental_throw cause).bind fun _ => incremental
  · exact incremental

section Consequences

variable {m : EStateM ε (Stream α) β} {whole part : List α} {result : β} {calls after : Nat}

/-- What is behind stays where it is. -/
theorem Incremental.more (incremental : Incremental missing m) {left : List α}
    (run : m ⟨part, calls⟩ = .ok result ⟨left, after⟩) (rest : List α) (calls' : Nat) :
    ∃ after', m ⟨part ++ rest, calls'⟩ = .ok result ⟨left ++ rest, after'⟩ := by
  obtain ⟨_, _, _, after', less, more⟩ | ⟨_, _, less, _⟩ := incremental part rest calls calls'
  · rw [run] at less
    cases less
    exact ⟨after', more⟩
  · rw [run] at less
    cases less

/-- Something is missing on a part of what it reads. -/
theorem Incremental.starves (incremental : Incremental missing m)
    (run : m ⟨whole, calls⟩ = .ok result ⟨[], after⟩) (begins : part <+: whole)
    (shorter : part.length < whole.length) (calls' : Nat) :
    ∃ cause after', m ⟨part, calls'⟩ = .error cause after' ∧ missing cause := by
  obtain ⟨rest, rfl⟩ := begins
  obtain ⟨_, left, _, _, -, more⟩ | ⟨cause, after', less, lacks | ⟨_, more⟩⟩ :=
    incremental part rest calls' calls
  · rw [run] at more
    injection more with _ same
    injection same with nothing _
    -- nothing is left of the whole, so the part was all of it
    obtain ⟨-, rfl⟩ := List.append_eq_nil_iff.mp nothing.symm
    rw [List.append_nil] at shorter
    exact absurd shorter (Nat.lt_irrefl _)
  · exact ⟨cause, after', less, lacks⟩
  · rw [run] at more
    cases more

end Consequences

end Library.Streams
