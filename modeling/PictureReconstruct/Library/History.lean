import Mathlib.Data.List.Basic

/-! # Histories

A history is the list of what has happened, and grows at its end.

* `Justified`: every entry is allowed by the entries before it.
* `justified_snoc`: what a new entry has to satisfy.
-/

namespace Library.History

variable {α : Type}

/-- Every entry of the history is one that `allowed` admits behind the entries before it. -/
def Justified (allowed : List α → α → Prop) (history : List α) : Prop :=
  ∀ before entry after, history = before ++ entry :: after → allowed before entry

variable {allowed : List α → α → Prop}

theorem justified_nil : Justified allowed [] := by
  intro before entry after split
  cases (List.append_eq_nil_iff.mp split.symm).2

theorem justified_snoc {history : List α} {entry : α} :
    Justified allowed (history ++ [entry]) ↔ Justified allowed history ∧ allowed history entry := by
  constructor
  · intro justified
    constructor
    · intro before earlier after split
      exact justified before earlier (after ++ [entry]) (by simp [split])
    · exact justified history entry [] rfl
  · rintro ⟨justified, last⟩ before earlier after split
    cases after.eq_nil_or_concat with
    | inl none =>
      subst none
      obtain ⟨rfl, same⟩ := List.append_inj' split rfl
      cases same
      exact last
    | inr some =>
      obtain ⟨rest, newest, rfl⟩ := some
      rw [List.concat_eq_append, ← List.cons_append, ← List.append_assoc] at split
      exact justified before earlier rest (List.append_inj' split rfl).1

end Library.History
