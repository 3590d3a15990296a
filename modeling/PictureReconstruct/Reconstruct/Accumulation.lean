import Mathlib.Algebra.BigOperators.Group.List.Basic
import Mathlib.Algebra.Group.Pi.Basic
import Mathlib.Algebra.Group.Prod
import Mathlib.Data.Rat.Floor

/-! # Bilinear accumulation

The images of the reconstruction over the rationals, and the samples that are added to them.

* `addBilinearSample_eq`: a sample adds its own stamp, whatever the images hold.
* `accumulate_perm`: samples may be added in any order.
-/

namespace PictureReconstruct.Reconstruct

/-- A `cv::Mat` of type `CV_32FC1`, by row and column. -/
abbrev Image (rows cols : Nat) := Fin rows → Fin cols → ℚ

/-- The images `accum` and `weight`, which have one size. -/
abbrev Sums (rows cols : Nat) := Image rows cols × Image rows cols

structure SpotSignal where
  frameId : Int
  spotId : Int
  sampleX : ℚ
  sampleY : ℚ
  intensity : ℚ
deriving DecidableEq

variable {rows cols : Nat}

/-- `image.at(py, px) += value` -/
def addAt (image : Image rows cols) (px py : Int) (value : ℚ) : Image rows cols := fun i j =>
  if (i : Int) = py ∧ (j : Int) = px then image i j + value else image i j

/-- The lambda `addOne` of `addBilinearSample`. -/
def addOne (value : ℚ) (sums : Sums rows cols) (px py : Int) (w : ℚ) : Sums rows cols :=
  if px < 0 ∨ py < 0 ∨ (cols : Int) ≤ px ∨ (rows : Int) ≤ py then sums
  else (addAt sums.1 px py (value * w), addAt sums.2 px py w)

def addBilinearSample (sums : Sums rows cols) (x y value : ℚ) : Sums rows cols :=
  let x0 := ⌊x⌋
  let y0 := ⌊y⌋
  let x1 := x0 + 1
  let y1 := y0 + 1
  let dx := x - x0
  let dy := y - y0
  let sums := addOne value sums x0 y0 ((1 - dx) * (1 - dy))
  let sums := addOne value sums x1 y0 (dx * (1 - dy))
  let sums := addOne value sums x0 y1 ((1 - dx) * dy)
  addOne value sums x1 y1 (dx * dy)

/-- The loop of the accumulator over the signals of a packet. -/
def accumulate (sums : Sums rows cols) (signals : List SpotSignal) : Sums rows cols :=
  signals.foldl (fun sums sig => addBilinearSample sums sig.sampleX sig.sampleY sig.intensity) sums

/-! ## Stamps -/

/-- A single pixel, if it is inside of the image. -/
def dot (px py : Int) (value : ℚ) : Image rows cols := fun i j =>
  if (i : Int) = py ∧ (j : Int) = px then value else 0

theorem addAt_eq (image : Image rows cols) (px py : Int) (value : ℚ) :
    addAt image px py value = image + dot px py value := by
  funext i j
  simp only [addAt, dot, Pi.add_apply]
  split
  · rfl
  · rw [add_zero]

theorem dot_outside {px py : Int}
    (outside : px < 0 ∨ py < 0 ∨ (cols : Int) ≤ px ∨ (rows : Int) ≤ py) (value : ℚ) :
    (dot px py value : Image rows cols) = 0 := by
  funext i j
  have inside : ¬ ((i : Int) = py ∧ (j : Int) = px) := by omega
  simp only [dot, if_neg inside, Pi.zero_apply]

/-- What `addOne` adds. -/
def stampOne (value : ℚ) (px py : Int) (w : ℚ) : Sums rows cols :=
  (dot px py (value * w), dot px py w)

theorem addOne_eq (value : ℚ) (sums : Sums rows cols) (px py : Int) (w : ℚ) :
    addOne value sums px py w = sums + stampOne value px py w := by
  unfold addOne stampOne
  split
  · next outside =>
    rw [dot_outside outside, dot_outside outside]
    exact (add_zero sums).symm
  · rw [addAt_eq, addAt_eq]
    rfl

/-- What a sample adds. -/
def stamp (x y value : ℚ) : Sums rows cols :=
  stampOne value ⌊x⌋ ⌊y⌋ ((1 - (x - ⌊x⌋)) * (1 - (y - ⌊y⌋))) +
    stampOne value (⌊x⌋ + 1) ⌊y⌋ ((x - ⌊x⌋) * (1 - (y - ⌊y⌋))) +
    stampOne value ⌊x⌋ (⌊y⌋ + 1) ((1 - (x - ⌊x⌋)) * (y - ⌊y⌋)) +
    stampOne value (⌊x⌋ + 1) (⌊y⌋ + 1) ((x - ⌊x⌋) * (y - ⌊y⌋))

/-- A sample does not depend on what the images hold. -/
theorem addBilinearSample_eq (sums : Sums rows cols) (x y value : ℚ) :
    addBilinearSample sums x y value = sums + stamp x y value := by
  simp only [addBilinearSample, addOne_eq, stamp, add_assoc]

theorem accumulate_eq (sums : Sums rows cols) (signals : List SpotSignal) :
    accumulate sums signals =
      sums + (signals.map fun sig => stamp sig.sampleX sig.sampleY sig.intensity).sum := by
  induction signals generalizing sums with
  | nil => exact (add_zero sums).symm
  | cons sig signals ih =>
    change accumulate (addBilinearSample sums sig.sampleX sig.sampleY sig.intensity) signals = _
    rw [ih, addBilinearSample_eq, List.map_cons, List.sum_cons, add_assoc]

theorem accumulate_append (sums : Sums rows cols) (signals signals' : List SpotSignal) :
    accumulate sums (signals ++ signals') = accumulate (accumulate sums signals) signals' :=
  List.foldl_append

/-- The order of the samples is of no concern. -/
theorem accumulate_perm (sums : Sums rows cols) {signals signals' : List SpotSignal}
    (perm : signals.Perm signals') : accumulate sums signals = accumulate sums signals' := by
  rw [accumulate_eq, accumulate_eq, (perm.map _).sum_eq]

end PictureReconstruct.Reconstruct
