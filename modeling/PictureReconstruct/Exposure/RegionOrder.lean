import Mathlib.Analysis.Real.Sqrt
import PictureReconstruct.Library.Greedy

/-! # The order of the regions

`planRegionOrder` of `opencv_demo.cc`.

* `visit_spec`: the outer loop marks one region after the other, each a nearest one of those that
  are left.
* `region_order_greedy`: a permutation from the first region on.
-/

namespace PictureReconstruct.Exposure

open Library.Greedy

/-- A finite `double` is a fraction. -/
structure Point2d where
  x : ℚ
  y : ℚ

structure Rect where
  x : Nat
  y : Nat
  width : Nat
  height : Nat
deriving DecidableEq

structure RegionInfo where
  label : Nat
  bbox : Rect
  centroid : Point2d
  /-- `x` and `y` -/
  pixels : List (Nat × Nat)

/-- `dx * dx + dy * dy` -/
def squaredDist (region current : RegionInfo) : ℚ :=
  let dx := region.centroid.x - current.centroid.x
  let dy := region.centroid.y - current.centroid.y
  dx * dx + dy * dy

/-- `1e18`, squared: roots compare as their squares, `dist_lt_iff` and `dist_lt_far`. -/
def farSquared : ℚ := 10 ^ 36

/-- `dist` -/
noncomputable def centroidDist (region current : RegionInfo) : ℝ :=
  √(squaredDist region current : ℝ)

/-! ## The loops -/

section Loops

variable (regions : List RegionInfo)

/-- The inner loop; `none` is the index -1. -/
def nearestUnused (used : Fin regions.length → Bool) (current : Fin regions.length) :
    List (Fin regions.length) → (bestIdx : Option (Fin regions.length)) → (bestDist : ℚ) →
      Option (Fin regions.length)
  | [], bestIdx, _ => bestIdx
  | i :: indices, bestIdx, bestDist =>
    if used i then nearestUnused used current indices bestIdx bestDist
    else
      let dist := squaredDist (regions.get i) (regions.get current)
      if dist < bestDist then nearestUnused used current indices (some i) dist
      else nearestUnused used current indices bestIdx bestDist

/-- The outer loop: the indices pushed behind `current`, nothing when -1 is an index. -/
def visit : (steps : Nat) → (Fin regions.length → Bool) → Fin regions.length →
    Option (List (Fin regions.length))
  | 0, _, _ => some []
  | steps + 1, used, current => do
    let next ← nearestUnused regions used current (List.finRange regions.length) none farSquared
    let behind ← visit steps (Function.update used next true) next
    return next :: behind

end Loops

def planRegionOrder (regions : List RegionInfo) : Option (List RegionInfo) :=
  if nonempty : 0 < regions.length then do
    let first : Fin regions.length := ⟨0, nonempty⟩
    let behind ← visit regions (regions.length - 1) (Function.update (fun _ => false) first true)
      first
    return (first :: behind).map regions.get
  else some []

/-! ## Distances -/

theorem squaredDist_nonneg (region current : RegionInfo) : 0 ≤ squaredDist region current :=
  add_nonneg (mul_self_nonneg _) (mul_self_nonneg _)

theorem squaredDist_comm (region current : RegionInfo) :
    squaredDist region current = squaredDist current region := by
  simp only [squaredDist]
  ring

theorem dist_lt_iff (region current region' current' : RegionInfo) :
    centroidDist region current < centroidDist region' current' ↔
      squaredDist region current < squaredDist region' current' := by
  rw [centroidDist, centroidDist, Real.sqrt_lt_sqrt_iff
    (by exact_mod_cast squaredDist_nonneg region current)]
  exact Rat.cast_lt

theorem dist_lt_far (region current : RegionInfo) :
    centroidDist region current < 1e18 ↔ squaredDist region current < farSquared := by
  have far : ((farSquared : ℚ) : ℝ) = 1e18 ^ 2 := by norm_num [farSquared]
  rw [centroidDist, Real.sqrt_lt' (by norm_num), ← far]
  exact Rat.cast_lt

/-! ## The order -/

section Order

variable {regions : List RegionInfo}

/-- The inner loop finds the first nearest region below the distance it starts with. -/
theorem nearestUnused_cases (used : Fin regions.length → Bool) (current : Fin regions.length)
    (indices : List (Fin regions.length)) (bestIdx : Option (Fin regions.length)) (bestDist : ℚ) :
    (nearestUnused regions used current indices bestIdx bestDist = bestIdx ∧
      ∀ j ∈ indices, used j = false →
        bestDist ≤ squaredDist (regions.get j) (regions.get current)) ∨
    ∃ i ∈ indices, used i = false ∧
      nearestUnused regions used current indices bestIdx bestDist = some i ∧
      squaredDist (regions.get i) (regions.get current) < bestDist ∧
      ∀ j ∈ indices, used j = false → squaredDist (regions.get i) (regions.get current) ≤
        squaredDist (regions.get j) (regions.get current) := by
  induction indices generalizing bestIdx bestDist with
  | nil => exact .inl ⟨rfl, by simp⟩
  | cons i indices ih =>
    simp only [nearestUnused, List.forall_mem_cons, List.exists_mem_cons_iff]
    by_cases marked : used i = true
    · rw [if_pos marked]
      obtain ⟨same, further⟩ | ⟨best, member, unused, found, closer, nearest⟩ := ih bestIdx bestDist
      · exact .inl ⟨same, by simp [marked], further⟩
      · exact .inr (.inr ⟨best, member, unused, found, closer, by simp [marked], nearest⟩)
    rw [if_neg marked]
    by_cases near : squaredDist (regions.get i) (regions.get current) < bestDist
    · rw [if_pos near]
      have unmarked : used i = false := by simpa using marked
      obtain ⟨same, further⟩ | ⟨best, member, unused, found, closer, nearest⟩ :=
        ih (some i) (squaredDist (regions.get i) (regions.get current))
      · exact .inr (.inl ⟨unmarked, same, near, fun _ => le_rfl, further⟩)
      · exact .inr (.inr ⟨best, member, unused, found, closer.trans near,
          fun _ => closer.le, nearest⟩)
    · rw [if_neg near]
      obtain ⟨same, further⟩ | ⟨best, member, unused, found, closer, nearest⟩ := ih bestIdx bestDist
      · exact .inl ⟨same, fun _ => not_lt.mp near, further⟩
      · exact .inr (.inr ⟨best, member, unused, found, closer,
          fun _ => (closer.trans_le (not_lt.mp near)).le, nearest⟩)

/-- No two regions are as far apart as the distance that the inner loop starts with. -/
def Close (regions : List RegionInfo) : Prop :=
  ∀ i j : Fin regions.length, i ≠ j →
    squaredDist (regions.get i) (regions.get j) < farSquared

/-- While a region is left, the index is not -1. -/
theorem nearestUnused_found (close : Close regions) {used : Fin regions.length → Bool}
    {current : Fin regions.length} (marked : used current = true)
    (left : 0 < (remaining used).length) :
    ∃ next, used next = false ∧
      nearestUnused regions used current (List.finRange regions.length) none farSquared =
        some next ∧
      ∀ j, used j = false → squaredDist (regions.get next) (regions.get current) ≤
        squaredDist (regions.get j) (regions.get current) := by
  obtain ⟨-, further⟩ | ⟨next, -, unused, found, -, nearest⟩ :=
    nearestUnused_cases used current (List.finRange regions.length) none farSquared
  · -- a region that is left is too near for that
    obtain ⟨i, member⟩ := List.exists_mem_of_length_pos left
    have unused := mem_remaining.mp member
    have other : i ≠ current := by
      rintro rfl
      simp [marked] at unused
    exact absurd (further i (List.mem_finRange i) unused) (not_le.mpr (close i current other))
  · exact ⟨next, unused, found, fun j => nearest j (List.mem_finRange j)⟩

/-- What is left is visited, from one region to a nearest one. -/
theorem visit_spec (close : Close regions) (steps : Nat) (used : Fin regions.length → Bool)
    (current : Fin regions.length) (marked : used current = true)
    (left : (remaining used).length = steps) :
    ∃ behind, visit regions steps used current = some behind ∧ behind.Perm (remaining used) ∧
      NearestNext (fun i j => squaredDist (regions.get j) (regions.get i)) (current :: behind) := by
  induction steps generalizing used current with
  | zero =>
    refine ⟨[], rfl, ?_, trivial⟩
    rw [List.length_eq_zero_iff.mp left]
  | succ steps ih =>
    obtain ⟨next, unused, found, nearest⟩ := nearestUnused_found close marked (by omega)
    have member : next ∈ remaining used := mem_remaining.mpr unused
    have fewer := remaining_mark used next
    obtain ⟨behind, visited, all, order⟩ := ih (Function.update used next true) next
      (by simp) (by rw [fewer, List.length_erase_of_mem member]; omega)
    rw [fewer] at all
    refine ⟨next :: behind, by simp [visit, found, visited], ?_, NearestNext.cons ?_ order⟩
    · exact (all.cons next).trans (List.perm_cons_erase member).symm
    · intro other later
      exact nearest other (mem_remaining.mp (List.mem_of_mem_erase (all.mem_iff.mp later)))

/-- The order of a list without regions that are too far apart. -/
theorem planRegionOrder_spec (close : Close regions) :
    ∃ ordered, planRegionOrder regions = some ordered ∧ ordered.Perm regions ∧
      ordered.head? = regions.head? ∧ NearestNext (fun a b => squaredDist b a) ordered := by
  by_cases nonempty : 0 < regions.length
  swap
  · obtain rfl := List.length_eq_zero_iff.mp (by omega : regions.length = 0)
    exact ⟨[], rfl, List.Perm.refl _, rfl, trivial⟩
  let first : Fin regions.length := ⟨0, nonempty⟩
  have others := remaining_mark (fun _ => false) first
  rw [remaining_none] at others
  have member : first ∈ List.finRange regions.length := List.mem_finRange first
  obtain ⟨behind, visited, all, order⟩ := visit_spec close (regions.length - 1)
    (Function.update (fun _ => false) first true) first (by simp)
    (by rw [others, List.length_erase_of_mem member, List.length_finRange])
  rw [others] at all
  refine ⟨(first :: behind).map regions.get, ?_, ?_, ?_, ?_⟩
  · rw [planRegionOrder, dif_pos nonempty]
    simp only [first] at visited ⊢
    rw [visited]
    rfl
  · have indices := (all.cons first).trans (List.perm_cons_erase member).symm
    simpa using indices.map regions.get
  · rw [List.map_cons, List.head?_cons, List.head?_eq_getElem?]
    simp [first]
  · exact NearestNext.map regions.get order

end Order

/-- The index is never -1, and the regions come in an order that starts with the first one and goes
    on with one of the nearest of those not yet in it. -/
theorem region_order_greedy (regions : List RegionInfo)
    (near : regions.Pairwise fun region current => centroidDist region current < 1e18) :
    ∃ ordered, planRegionOrder regions = some ordered ∧ ordered.Perm regions ∧
      ordered.head? = regions.head? ∧ NearestNext (fun a b => centroidDist b a) ordered := by
  have close : Close regions := by
    intro i j other
    have pairwise := List.pairwise_iff_get.mp near
    cases lt_or_gt_of_ne other with
    | inl before => exact (dist_lt_far _ _).mp (pairwise i j before)
    | inr behind =>
      rw [squaredDist_comm]
      exact (dist_lt_far _ _).mp (pairwise j i behind)
  obtain ⟨ordered, planned, all, first, order⟩ := planRegionOrder_spec close
  refine ⟨ordered, planned, all, first, order.mono fun a b c nearer => ?_⟩
  exact not_lt.mp fun farther => not_lt.mpr nearer ((dist_lt_iff _ _ _ _).mp farther)

/-- Two regions in one place and one beside them. -/
theorem region_order_greedy_three :
    let regions : List RegionInfo := [⟨1, ⟨0, 0, 4, 4⟩, ⟨0, 0⟩, []⟩, ⟨2, ⟨0, 0, 9, 9⟩, ⟨3, 4⟩, []⟩,
      ⟨3, ⟨0, 0, 5, 5⟩, ⟨0, 0⟩, []⟩]
    ∃ ordered, planRegionOrder regions = some ordered ∧ ordered.Perm regions ∧
      ordered.head? = regions.head? ∧ NearestNext (fun a b => centroidDist b a) ordered :=
  region_order_greedy _ (by simp [dist_lt_far, squaredDist, farSquared]; norm_num)

end PictureReconstruct.Exposure
