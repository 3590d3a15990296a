import Mathlib.Order.Defs.LinearOrder
import Mathlib.Data.List.FinRange

/-! # Nearest neighbour orders

* `NearestNext`: a list in which each element is followed by a cheapest one of those behind it.
* `NearestNext.cons`: choosing a cheapest one in front of such a list.
* `NearestNext.map`, `NearestNext.mono`: along a map, and for costs that compare alike.
* `remaining`: the indices that are not marked, one less with each mark.
-/

namespace Library.Greedy

/-! ## The order -/

section Order

variable {α β D D' : Type} [LE D] [LE D'] {cost : β → β → D}

/-- Each element is followed by a cheapest one of those behind it. -/
def NearestNext (cost : β → β → D) : List β → Prop
  | current :: next :: rest =>
    (∀ other ∈ rest, cost current next ≤ cost current other) ∧ NearestNext cost (next :: rest)
  | _ => True

theorem NearestNext.cons {current next : β} {rest : List β}
    (cheapest : ∀ other ∈ rest, cost current next ≤ cost current other)
    (tail : NearestNext cost (next :: rest)) : NearestNext cost (current :: next :: rest) :=
  ⟨cheapest, tail⟩

theorem NearestNext.map (f : α → β) {order : List α}
    (nearest : NearestNext (fun a b => cost (f a) (f b)) order) :
    NearestNext cost (order.map f) := by
  induction order with
  | nil => trivial
  | cons current order ih =>
    cases order with
    | nil => trivial
    | cons next rest =>
      obtain ⟨cheapest, tail⟩ := nearest
      refine NearestNext.cons ?_ (ih tail)
      intro other member
      obtain ⟨index, behind, rfl⟩ := List.mem_map.mp member
      exact cheapest index behind

theorem NearestNext.mono {cost' : β → β → D'}
    (alike : ∀ a b c, cost a b ≤ cost a c → cost' a b ≤ cost' a c) {order : List β}
    (nearest : NearestNext cost order) : NearestNext cost' order := by
  induction order with
  | nil => trivial
  | cons current order ih =>
    cases order with
    | nil => trivial
    | cons next rest =>
      obtain ⟨cheapest, tail⟩ := nearest
      exact NearestNext.cons (fun other member => alike _ _ _ (cheapest other member)) (ih tail)

end Order

/-! ## Marks -/

section Marks

variable {n : Nat} {used : Fin n → Bool} {i : Fin n}

/-- The indices without a mark. -/
def remaining (used : Fin n → Bool) : List (Fin n) := (List.finRange n).filter fun i => !used i

theorem mem_remaining : i ∈ remaining used ↔ used i = false := by
  simp [remaining]

theorem remaining_none : remaining (fun _ : Fin n => false) = List.finRange n := by
  simp [remaining]

theorem remaining_mark (used : Fin n → Bool) (i : Fin n) :
    remaining (Function.update used i true) = (remaining used).erase i := by
  have unique : (remaining used).Nodup := (List.nodup_finRange n).filter _
  rw [unique.erase_eq_filter, remaining, remaining, List.filter_filter]
  refine List.filter_congr fun j _ => ?_
  by_cases same : j = i
  · simp [same]
  · simp [same]

end Marks

end Library.Greedy
