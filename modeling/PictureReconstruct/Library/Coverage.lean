import Mathlib.Data.Set.Basic

/-! # When intervals cover a range

Half-open intervals `[first, past)` cover the range `[0, n)` exactly when they leave no gap behind
the start and behind each of their own ends.

* `covers_iff`: so only finitely many positions have to be looked at.
-/

namespace Library.Coverage

/-- The interval `[first, past)` contains `p`. -/
def Contains (interval : Nat × Nat) (p : Nat) : Prop := interval.1 ≤ p ∧ p < interval.2

/-- Every position below `n` is contained in one of the intervals. -/
def Covers (intervals : Set (Nat × Nat)) (n : Nat) : Prop :=
  ∀ p < n, ∃ interval ∈ intervals, Contains interval p

theorem covers_iff {intervals : Set (Nat × Nat)} {n : Nat} :
    Covers intervals n ↔
      ∀ q < n, (q = 0 ∨ ∃ interval ∈ intervals, interval.2 = q) →
        ∃ interval ∈ intervals, Contains interval q := by
  constructor
  · exact fun covers q inside _ => covers q inside
  · intro edges p inside
    -- by induction on the position: the interval of the one before goes on or ends here
    induction p with
    | zero => exact edges 0 inside (.inl rfl)
    | succ p ih =>
      obtain ⟨interval, member, first, past⟩ := ih (Nat.lt_of_succ_lt inside)
      cases Nat.eq_or_lt_of_le (Nat.succ_le_of_lt past) with
      | inl ends => exact edges (p + 1) inside (.inr ⟨interval, member, ends.symm⟩)
      | inr further => exact ⟨interval, member, Nat.le_succ_of_le first, further⟩

end Library.Coverage
