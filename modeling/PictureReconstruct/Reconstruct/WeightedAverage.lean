import Mathlib.Algebra.BigOperators.Fin
import Mathlib.Algebra.BigOperators.Ring.Finset
import Mathlib.Algebra.Order.Field.Basic
import Mathlib.Tactic.GCongr
import Mathlib.Tactic.Linarith
import Mathlib.Tactic.Ring
import PictureReconstruct.Reconstruct.Accumulation

/-! # The reconstruction is a weighted average

* `Averaged low high`: the two images are sums of samples between `low` and `high` with weights that
  are not negative.
* `totalWeight_dot`: an `addOne` adds its weight once, or nothing at the border.
* `reconstruction_averages`: so `normalizeByWeight` stays between the samples.
-/

namespace PictureReconstruct.Reconstruct

variable {rows cols : Nat}

def normalizeByWeight (sums : Sums rows cols) : Image rows cols := fun y x =>
  let w := sums.2 y x
  if w > 1e-6 then sums.1 y x / w else 0

/-- The sum over all pixels. -/
def totalWeight (weight : Image rows cols) : ℚ := ∑ y, ∑ x, weight y x

/-! ## Between the samples -/

/-- `accum` is a sum of values between `low` and `high`, each with its share in `weight`. -/
structure Averaged (low high : ℚ) (sums : Sums rows cols) : Prop where
  positive : ∀ y x, 0 ≤ sums.2 y x
  above : ∀ y x, low * sums.2 y x ≤ sums.1 y x
  below : ∀ y x, sums.1 y x ≤ high * sums.2 y x

section Averaged

variable {low high value : ℚ} {sums sums' : Sums rows cols}

theorem Averaged.zero : Averaged low high (0 : Sums rows cols) :=
  ⟨fun _ _ => le_rfl, fun _ _ => by simp, fun _ _ => by simp⟩

theorem Averaged.add (averaged : Averaged low high sums) (averaged' : Averaged low high sums') :
    Averaged low high (sums + sums') where
  positive y x := add_nonneg (averaged.positive y x) (averaged'.positive y x)
  above y x := by
    have first := averaged.above y x
    have second := averaged'.above y x
    simp only [Prod.fst_add, Prod.snd_add, Pi.add_apply, mul_add]
    exact add_le_add first second
  below y x := by
    have first := averaged.below y x
    have second := averaged'.below y x
    simp only [Prod.fst_add, Prod.snd_add, Pi.add_apply, mul_add]
    exact add_le_add first second

theorem Averaged.stampOne (above : low ≤ value) (below : value ≤ high) (px py : Int) {w : ℚ}
    (positive : 0 ≤ w) : Averaged low high (stampOne value px py w : Sums rows cols) where
  positive y x := by
    simp only [Reconstruct.stampOne, dot]
    split <;> simp [positive]
  above y x := by
    simp only [Reconstruct.stampOne, dot]
    split
    · exact mul_le_mul_of_nonneg_right above positive
    · simp
  below y x := by
    simp only [Reconstruct.stampOne, dot]
    split
    · exact mul_le_mul_of_nonneg_right below positive
    · simp

/-- The parts of a coordinate behind its floor. -/
theorem fraction_bounds (x : ℚ) : 0 ≤ x - ⌊x⌋ ∧ 0 ≤ 1 - (x - ⌊x⌋) := by
  have below := Int.floor_le x
  have above := Int.lt_floor_add_one x
  constructor <;> linarith

theorem Averaged.stamp (above : low ≤ value) (below : value ≤ high) (x y : ℚ) :
    Averaged low high (stamp x y value : Sums rows cols) := by
  obtain ⟨dx, dx'⟩ := fraction_bounds x
  obtain ⟨dy, dy'⟩ := fraction_bounds y
  refine Averaged.add (Averaged.add (Averaged.add ?_ ?_) ?_) ?_
  · exact .stampOne above below _ _ (mul_nonneg dx' dy')
  · exact .stampOne above below _ _ (mul_nonneg dx dy')
  · exact .stampOne above below _ _ (mul_nonneg dx' dy)
  · exact .stampOne above below _ _ (mul_nonneg dx dy)

theorem Averaged.accumulate {signals : List SpotSignal}
    (bounds : ∀ sig ∈ signals, low ≤ sig.intensity ∧ sig.intensity ≤ high)
    (averaged : Averaged low high sums) : Averaged low high (accumulate sums signals) := by
  induction signals generalizing sums with
  | nil => exact averaged
  | cons sig signals ih =>
    obtain ⟨above, below⟩ := bounds sig List.mem_cons_self
    change Averaged low high (Reconstruct.accumulate
      (addBilinearSample sums sig.sampleX sig.sampleY sig.intensity) signals)
    rw [addBilinearSample_eq]
    exact ih (fun sig' member => bounds sig' (List.mem_cons_of_mem sig member))
      (averaged.add (.stamp above below _ _))

/-- So is a pixel with weight, once it is divided by it. -/
theorem Averaged.normalized (averaged : Averaged low high sums) {y : Fin rows} {x : Fin cols}
    (weighs : sums.2 y x > 1e-6) :
    low ≤ normalizeByWeight sums y x ∧ normalizeByWeight sums y x ≤ high := by
  have positive : 0 < sums.2 y x := lt_trans (by norm_num) weighs
  simp only [normalizeByWeight, if_pos weighs]
  exact ⟨(le_div_iff₀ positive).mpr (averaged.above y x),
    (div_le_iff₀ positive).mpr (averaged.below y x)⟩

end Averaged

/-! ## The total weight -/

theorem totalWeight_add (weight weight' : Image rows cols) :
    totalWeight (weight + weight') = totalWeight weight + totalWeight weight' := by
  simp only [totalWeight, Pi.add_apply, Finset.sum_add_distrib]

/-- The pixel is inside of the image. -/
def Inside (rows cols : Nat) (px py : Int) : Prop := (0 ≤ px ∧ px < cols) ∧ 0 ≤ py ∧ py < rows

instance (rows cols : Nat) (px py : Int) : Decidable (Inside rows cols px py) :=
  inferInstanceAs (Decidable ((0 ≤ px ∧ px < cols) ∧ 0 ≤ py ∧ py < rows))

theorem totalWeight_dot (px py : Int) (w : ℚ) :
    totalWeight (dot px py w : Image rows cols) = if Inside rows cols px py then w else 0 := by
  split
  · next inside =>
    obtain ⟨⟨left, right⟩, top, bottom⟩ := inside
    rw [totalWeight, Finset.sum_eq_single ⟨py.toNat, by omega⟩,
      Finset.sum_eq_single ⟨px.toNat, by omega⟩]
    · exact if_pos ⟨Int.toNat_of_nonneg top, Int.toNat_of_nonneg left⟩
    · intro x _ other
      refine if_neg fun here => other ?_
      ext
      simp only
      omega
    · exact fun absent => (absent (Finset.mem_univ _)).elim
    · intro y _ other
      refine Finset.sum_eq_zero fun x _ => if_neg fun here => other ?_
      ext
      simp only
      omega
    · exact fun absent => (absent (Finset.mem_univ _)).elim
  · next outside =>
    have weightless : (dot px py w : Image rows cols) = 0 := by
      apply dot_outside
      simp only [Inside] at outside
      omega
    simp [weightless, totalWeight]

/-- What the image takes of the weight of an `addOne`. -/
theorem taken_le {px py : Int} {w : ℚ} (positive : 0 ≤ w) :
    (if Inside rows cols px py then w else 0) ≤ w := by
  split
  · exact le_rfl
  · exact positive

theorem taken_eq {px py : Int} {w : ℚ} (whole : Inside rows cols px py ∨ w = 0) :
    (if Inside rows cols px py then w else 0) = w := by
  split
  · rfl
  · next outside => exact (whole.resolve_left outside).symm

theorem totalWeight_stamp (x y value : ℚ) :
    totalWeight (stamp x y value : Sums rows cols).2 =
      (if Inside rows cols ⌊x⌋ ⌊y⌋ then (1 - (x - ⌊x⌋)) * (1 - (y - ⌊y⌋)) else 0) +
      (if Inside rows cols (⌊x⌋ + 1) ⌊y⌋ then (x - ⌊x⌋) * (1 - (y - ⌊y⌋)) else 0) +
      (if Inside rows cols ⌊x⌋ (⌊y⌋ + 1) then (1 - (x - ⌊x⌋)) * (y - ⌊y⌋) else 0) +
      (if Inside rows cols (⌊x⌋ + 1) (⌊y⌋ + 1) then (x - ⌊x⌋) * (y - ⌊y⌋) else 0) := by
  simp only [stamp, Prod.snd_add, stampOne, totalWeight_add, totalWeight_dot]

/-- The four weights of a sample. -/
theorem weights_sum (dx dy : ℚ) :
    (1 - dx) * (1 - dy) + dx * (1 - dy) + (1 - dx) * dy + dx * dy = 1 := by
  ring

theorem totalWeight_stamp_le (x y value : ℚ) :
    totalWeight (stamp x y value : Sums rows cols).2 ≤ 1 := by
  obtain ⟨dx, dx'⟩ := fraction_bounds x
  obtain ⟨dy, dy'⟩ := fraction_bounds y
  rw [totalWeight_stamp]
  refine le_trans ?_ (weights_sum (x - ⌊x⌋) (y - ⌊y⌋)).le
  gcongr
  · exact taken_le (mul_nonneg dx' dy')
  · exact taken_le (mul_nonneg dx dy')
  · exact taken_le (mul_nonneg dx' dy)
  · exact taken_le (mul_nonneg dx dy)

/-- Behind a coordinate inside of the image comes a pixel, or nothing is due to it. -/
theorem neighbour {n : Nat} {x : ℚ} (low : 0 ≤ x) (high : x ≤ n - 1) :
    (0 ≤ ⌊x⌋ ∧ ⌊x⌋ < n) ∧ (⌊x⌋ + 1 < n ∨ x - ⌊x⌋ = 0) := by
  have start : 0 ≤ ⌊x⌋ := Int.floor_nonneg.mpr low
  have last : ⌊x⌋ ≤ (n : Int) - 1 := by
    have := (Int.floor_le x).trans high
    exact_mod_cast this
  refine ⟨⟨start, by omega⟩, ?_⟩
  cases last.lt_or_eq with
  | inl before => exact .inl (by omega)
  | inr border =>
    refine .inr (le_antisymm ?_ (fraction_bounds x).1)
    rw [border]
    push_cast
    linarith

theorem totalWeight_stamp_inside {x y : ℚ} (left : 0 ≤ x) (right : x ≤ (cols : ℚ) - 1)
    (top : 0 ≤ y) (bottom : y ≤ (rows : ℚ) - 1) (value : ℚ) :
    totalWeight (stamp x y value : Sums rows cols).2 = 1 := by
  obtain ⟨column, nextColumn⟩ := neighbour left right
  obtain ⟨row, nextRow⟩ := neighbour top bottom
  have first : Inside rows cols ⌊x⌋ ⌊y⌋ := ⟨column, row⟩
  have right : Inside rows cols (⌊x⌋ + 1) ⌊y⌋ ∨ (x - ⌊x⌋) * (1 - (y - ⌊y⌋)) = 0 := by
    cases nextColumn with
    | inl inside => exact .inl ⟨⟨by omega, inside⟩, row⟩
    | inr none => exact .inr (by rw [none, zero_mul])
  have below : Inside rows cols ⌊x⌋ (⌊y⌋ + 1) ∨ (1 - (x - ⌊x⌋)) * (y - ⌊y⌋) = 0 := by
    cases nextRow with
    | inl inside => exact .inl ⟨column, by omega, inside⟩
    | inr none => exact .inr (by rw [none, mul_zero])
  have last : Inside rows cols (⌊x⌋ + 1) (⌊y⌋ + 1) ∨ (x - ⌊x⌋) * (y - ⌊y⌋) = 0 := by
    cases nextColumn with
    | inl inside =>
      cases nextRow with
      | inl inside' => exact .inl ⟨⟨by omega, inside⟩, by omega, inside'⟩
      | inr none => exact .inr (by rw [none, mul_zero])
    | inr none => exact .inr (by rw [none, zero_mul])
  rw [totalWeight_stamp, taken_eq (.inl first), taken_eq right, taken_eq below, taken_eq last,
    weights_sum]

/-! ## The reconstruction -/

/-- The pixel lies between two of the samples, the least and the greatest of all. -/
def BetweenSamples (signals : List SpotSignal) (pixel : ℚ) : Prop :=
  ∃ least ∈ signals, ∃ greatest ∈ signals,
    (∀ sig ∈ signals, least.intensity ≤ sig.intensity ∧ sig.intensity ≤ greatest.intensity) ∧
    least.intensity ≤ pixel ∧ pixel ≤ greatest.intensity

structure WeightedAverage (rows cols : Nat) (signals : List SpotSignal) : Prop where
  between : ∀ y x, (accumulate (0 : Sums rows cols) signals).2 y x > 1e-6 →
    BetweenSamples signals (normalizeByWeight (accumulate (0 : Sums rows cols) signals) y x)
  empty : ∀ y x, ¬ (accumulate (0 : Sums rows cols) signals).2 y x > 1e-6 →
    normalizeByWeight (accumulate (0 : Sums rows cols) signals) y x = 0
  nonneg : ∀ y x, 0 ≤ (accumulate (0 : Sums rows cols) signals).2 y x
  /-- what the sample behind `earlier` adds to the total weight -/
  grows : ∀ earlier sig later, signals = earlier ++ sig :: later →
    ∃ grown, totalWeight (accumulate (0 : Sums rows cols) (earlier ++ [sig])).2 =
        totalWeight (accumulate (0 : Sums rows cols) earlier).2 + grown ∧ grown ≤ 1 ∧
      (0 ≤ sig.sampleX → sig.sampleX ≤ (cols : ℚ) - 1 → 0 ≤ sig.sampleY →
        sig.sampleY ≤ (rows : ℚ) - 1 →
        grown = 1)

theorem exists_extremes {signals : List SpotSignal} (sampled : signals ≠ []) :
    ∃ least ∈ signals, ∃ greatest ∈ signals, ∀ sig ∈ signals,
      least.intensity ≤ sig.intensity ∧ sig.intensity ≤ greatest.intensity := by
  have nonempty : signals.toFinset.Nonempty := List.toFinset_nonempty_iff signals |>.mpr sampled
  obtain ⟨least, leastIn, above⟩ :=
    signals.toFinset.exists_min_image SpotSignal.intensity nonempty
  obtain ⟨greatest, greatestIn, below⟩ :=
    signals.toFinset.exists_max_image SpotSignal.intensity nonempty
  simp only [List.mem_toFinset] at *
  exact ⟨least, leastIn, greatest, greatestIn, fun sig member =>
    ⟨above sig member, below sig member⟩⟩

/-- For every size and every list of samples, wherever they lie. -/
theorem reconstruction_averages (rows cols : Nat) (signals : List SpotSignal) :
    WeightedAverage rows cols signals where
  between y x weighs := by
    have sampled : signals ≠ [] := by
      rintro rfl
      exact absurd weighs (by norm_num [accumulate])
    obtain ⟨least, leastIn, greatest, greatestIn, extremes⟩ := exists_extremes sampled
    have averaged : Averaged least.intensity greatest.intensity
        (accumulate (0 : Sums rows cols) signals) := Averaged.zero.accumulate extremes
    exact ⟨least, leastIn, greatest, greatestIn, extremes, averaged.normalized weighs⟩
  empty y x light := if_neg light
  nonneg y x := by
    by_cases unsampled : signals = []
    · rw [unsampled]
      exact le_rfl
    · obtain ⟨least, _, greatest, _, extremes⟩ := exists_extremes unsampled
      exact (Averaged.zero.accumulate extremes).positive y x
  grows earlier sig later _ := by
    refine ⟨totalWeight (stamp sig.sampleX sig.sampleY sig.intensity : Sums rows cols).2, ?_,
      totalWeight_stamp_le _ _ _, fun left right top bottom =>
        totalWeight_stamp_inside left right top bottom _⟩
    rw [accumulate_append, ← totalWeight_add, ← Prod.snd_add, ← addBilinearSample_eq]
    rfl

end PictureReconstruct.Reconstruct
