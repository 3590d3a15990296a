import Mathlib.Algebra.Order.Field.Basic
import Mathlib.Data.Finset.Max
import Mathlib.Data.List.ProdSigma
import Mathlib.Data.Rat.Lemmas
import Mathlib.Tactic.IntervalCases
import Mathlib.Tactic.Linarith
import Mathlib.Tactic.NormNum
import Mathlib.Tactic.Ring
import PictureReconstruct.Library.DataParallel

/-! # The kernels of the preprocessing

`runPreprocessAndBlurCuda` over the rationals: what each thread of the two launches computes, with
the index arithmetic as written.  A device rejects a grid of more than 65535 rows of blocks.

* `pixel_unique`, `exists_pixel`: every pixel belongs to one thread of the grid.
* `runPreprocessAndBlurCuda_eq`: the run has no fault, and its result is that of `clamped` and
  `blurred` on the image.
* `preprocessing_covers`: for a grid that the device takes, both launches store every pixel once,
  and the result keeps the bounds.
* `tall_not_preprocessed`: the image of a taller one is not stored at all.
-/

namespace PictureReconstruct.Reconstruct

open Library.DataParallel

/-! ## Threads -/

/-- `blockIdx` and `threadIdx` -/
structure GpuThread where
  blockX : UInt32
  blockY : UInt32
  threadX : UInt32
  threadY : UInt32
deriving DecidableEq

namespace GpuThread

/-- `int x = blockIdx.x * blockDim.x + threadIdx.x`, an unsigned sum narrowed to `int` -/
def x (thread : GpuThread) : Int := (thread.blockX * 16 + thread.threadX).toInt32.toInt

def y (thread : GpuThread) : Int := (thread.blockY * 16 + thread.threadY).toInt32.toInt

end GpuThread

/-- A component of `numBlocks`, where the `int` is converted to `unsigned`. -/
def numBlocks (size : Int) : UInt32 := (UInt32.ofInt size + 16 - 1) / 16

/-- The thread is part of the grid. -/
structure InGrid (width height : Int) (thread : GpuThread) : Prop where
  blockX : thread.blockX < numBlocks width
  blockY : thread.blockY < numBlocks height
  threadX : thread.threadX < 16
  threadY : thread.threadY < 16

/-! ## Kernels -/

/-- `y * width + x` -/
def flatten (y width x : Int) : Except Fault Int := do
  let row ← int32 (y * width)
  int32 (row + x)

def preprocessKernel (input : Cells ℚ) (width height : Int) (bg_value : ℚ) (thread : GpuThread) :
    Except Fault (Option (Int × ℚ)) := do
  let x := thread.x
  let y := thread.y
  if x < width ∧ y < height then
    let idx ← flatten y width x
    let val := (← load input idx) - bg_value
    return some (idx, if val > 0 then val else 0)
  else
    return none

def d_gaussianKernel : Cells ℚ :=
  [some 0.0625, some 0.125, some 0.0625,
   some 0.125, some 0.25, some 0.125,
   some 0.0625, some 0.125, some 0.0625]

/-- The values of `dy` and `dx` in the two loops. -/
def taps : List (Int × Int) :=
  [-1, 0, 1].flatMap fun dy => [-1, 0, 1].map fun dx => (dy, dx)

/-- The body of the loops, with `sum` and `k`. -/
def tap (input : Cells ℚ) (width x y : Int) (state : ℚ × Int) (offset : Int × Int) :
    Except Fault (ℚ × Int) := do
  let px := x + offset.2
  let py := y + offset.1
  let value ← load input (← flatten py width px)
  let factor ← load d_gaussianKernel state.2
  return (state.1 + value * factor, state.2 + 1)

def gaussianBlurKernel (input : Cells ℚ) (width height : Int) (thread : GpuThread) :
    Except Fault (Option (Int × ℚ)) := do
  let x := thread.x
  let y := thread.y
  if x ≥ 1 ∧ x < width - 1 ∧ y ≥ 1 ∧ y < height - 1 then
    let (sum, _) ← taps.foldlM (tap input width x y) (0, 0)
    return some (← flatten y width x, sum)
  else if x < width ∧ y < height then
    -- a pixel at the border is copied
    return some (← flatten y width x, ← load input (← flatten y width x))
  else
    return none

/-- The largest `gridDim.y` that a device takes; in `x` it takes whatever an `int` can ask for. -/
def maxGridDimY : UInt32 := 65535

/-- `kernel<<<numBlocks, threadsPerBlock>>>`.  Where the device rejects the grid no thread runs,
    and the error waits for a `cudaGetLastError` that never comes. -/
def launchGrid {width height : Int} (kernel : GpuThread → Except Fault (Option (Int × ℚ)))
    (schedule : Schedule (InGrid width height)) (cells : Cells ℚ) : Except Fault (Cells ℚ) :=
  if numBlocks height ≤ maxGridDimY then launch kernel schedule.order cells else .ok cells

/-- The contents of `d_temp` and `d_output`. -/
def runPreprocessAndBlurCuda (d_input d_temp d_output : Cells ℚ) (width height : Int)
    (bg_value : ℚ) (first second : Schedule (InGrid width height)) :
    Except Fault (Cells ℚ × Cells ℚ) := do
  let d_temp ← launchGrid (preprocessKernel d_input width height bg_value) first d_temp
  let d_output ← launchGrid (gaussianBlurKernel d_temp width height) second d_output
  return (d_temp, d_output)

/-! ## Images -/

/-- The value at row `y` and column `x`. -/
abbrev Plane := Int → Int → ℚ

/-- An image whose rows of `width` pixels follow each other. -/
def rowMajor (width : Nat) (plane : Plane) (index : Nat) : ℚ :=
  plane (index / width : Nat) (index % width : Nat)

/-- A buffer that holds `n` values. -/
def filled (n : Nat) (value : Nat → ℚ) : Cells ℚ := (List.range n).map fun i => some (value i)

/-- A pixel without the background. -/
def clamp (bg value : ℚ) : ℚ := if value - bg > 0 then value - bg else 0

def clamped (bg : ℚ) (plane : Plane) : Plane := fun y x => clamp bg (plane y x)

/-- Each pixel that has all its neighbours is mixed with them. -/
def blurred (width height : Int) (plane : Plane) : Plane := fun y x =>
  if 0 < x ∧ x < width - 1 ∧ 0 < y ∧ y < height - 1 then
    plane (y - 1) (x - 1) / 16 + plane (y - 1) x / 8 + plane (y - 1) (x + 1) / 16 +
      plane y (x - 1) / 8 + plane y x / 4 + plane y (x + 1) / 8 +
      plane (y + 1) (x - 1) / 16 + plane (y + 1) x / 8 + plane (y + 1) (x + 1) / 16
  else plane y x

/-! ## The threads of the grid -/

section Grid

variable {width height : Nat}

/-- The pixel of a thread, as an index. -/
def GpuThread.pixel (width height : Nat) (thread : GpuThread) : Option Nat :=
  let column := thread.blockX.toNat * 16 + thread.threadX.toNat
  let row := thread.blockY.toNat * 16 + thread.threadY.toNat
  if column < width ∧ row < height then some (row * width + column) else none

theorem numBlocks_toNat {size : Nat} (fits : size < 2 ^ 31) :
    (numBlocks size).toNat = (size + 15) / 16 := by
  have converted : (UInt32.ofInt (size : Int)).toNat = size := by
    rw [UInt32.ofInt, UInt32.toNat_ofNat']
    omega
  have sixteen : (16 : UInt32).toNat = 16 := rfl
  have one : (1 : UInt32).toNat = 1 := rfl
  have rounded : (UInt32.ofInt (size : Int) + 16 - 1).toNat = size + 15 := by
    rw [UInt32.toNat_sub_of_le, UInt32.toNat_add, converted, sixteen, one]
    · omega
    · rw [UInt32.le_iff_toNat_le, UInt32.toNat_add, converted, sixteen, one]
      omega
  rw [numBlocks, UInt32.toNat_div, rounded, sixteen]

/-- A coordinate of a thread of the grid: the sum does not wrap, and the `int` is not negative. -/
theorem coordinate {size : Nat} (fits : size < 2 ^ 31) {block thread : UInt32}
    (inBlocks : block < numBlocks size) (inBlock : thread < 16) :
    (block * 16 + thread).toInt32.toInt = (block.toNat * 16 + thread.toNat : Nat) := by
  rw [UInt32.lt_iff_toNat_lt, numBlocks_toNat fits] at inBlocks
  rw [UInt32.lt_iff_toNat_lt] at inBlock
  have sixteen : (16 : UInt32).toNat = 16 := rfl
  rw [sixteen] at inBlock
  have sum : (block * 16 + thread).toNat = block.toNat * 16 + thread.toNat := by
    rw [UInt32.toNat_add, UInt32.toNat_mul, sixteen]
    omega
  have small : 2 * (block * 16 + thread).toBitVec.toNat < 2 ^ 32 := by
    rw [UInt32.toNat_toBitVec, sum]
    omega
  calc (block * 16 + thread).toInt32.toInt
      = (block * 16 + thread).toBitVec.toInt := rfl
    _ = ((block * 16 + thread).toBitVec.toNat : Int) := BitVec.toInt_eq_toNat_of_lt small
    _ = (block.toNat * 16 + thread.toNat : Nat) := by rw [UInt32.toNat_toBitVec, sum]

variable {thread : GpuThread}

theorem pixel_some {index : Nat} (aim : thread.pixel width height = some index) :
    thread.blockX.toNat * 16 + thread.threadX.toNat = index % width ∧
      thread.blockY.toNat * 16 + thread.threadY.toNat = index / width ∧
      index % width < width ∧ index / width < height := by
  simp only [GpuThread.pixel] at aim
  split at aim
  · next inside =>
    obtain ⟨column, row⟩ := inside
    cases aim
    rw [Nat.add_comm (_ * width), Nat.mul_comm _ width, Nat.add_mul_mod_self_left,
      Nat.mod_eq_of_lt column, Nat.add_mul_div_left _ _ (by omega), Nat.div_eq_of_lt column,
      Nat.zero_add]
    exact ⟨rfl, rfl, column, row⟩
  · cases aim

/-- No two threads of the grid have a pixel in common. -/
theorem pixel_unique {thread' : GpuThread} (member : InGrid width height thread)
    (member' : InGrid width height thread') {index : Nat}
    (aim : thread.pixel width height = some index)
    (aim' : thread'.pixel width height = some index) : thread = thread' := by
  obtain ⟨column, row, _, _⟩ := pixel_some aim
  obtain ⟨column', row', _, _⟩ := pixel_some aim'
  have bounds := And.intro member.threadX member.threadY
  have bounds' := And.intro member'.threadX member'.threadY
  simp only [UInt32.lt_iff_toNat_lt] at bounds bounds'
  have sixteen : (16 : UInt32).toNat = 16 := rfl
  rw [sixteen] at bounds bounds'
  obtain ⟨blockX, blockY, threadX, threadY⟩ := thread
  obtain ⟨blockX', blockY', threadX', threadY'⟩ := thread'
  simp only [GpuThread.mk.injEq, ← UInt32.toNat_inj] at *
  omega

/-- Every pixel belongs to a thread of the grid, however the sizes are rounded up. -/
theorem exists_pixel (width_fits : width < 2 ^ 31) (height_fits : height < 2 ^ 31) {index : Nat}
    (inside : index < width * height) :
    ∃ thread, InGrid width height thread ∧ thread.pixel width height = some index := by
  have positive : 0 < width := Nat.pos_of_mul_pos_right (Nat.zero_lt_of_lt inside)
  have column : index % width < width := Nat.mod_lt index positive
  have row : index / width < height := Nat.div_lt_of_lt_mul inside
  have small : ∀ n < 2 ^ 31, (UInt32.ofNat n).toNat = n := fun n bound => by
    rw [UInt32.toNat_ofNat']
    omega
  have sixteen : (16 : UInt32).toNat = 16 := rfl
  refine ⟨⟨.ofNat (index % width / 16), .ofNat (index / width / 16), .ofNat (index % width % 16),
    .ofNat (index / width % 16)⟩, ⟨?_, ?_, ?_, ?_⟩, ?_⟩
  · rw [UInt32.lt_iff_toNat_lt, numBlocks_toNat width_fits, small _ (by omega)]
    omega
  · rw [UInt32.lt_iff_toNat_lt, numBlocks_toNat height_fits, small _ (by omega)]
    omega
  · rw [UInt32.lt_iff_toNat_lt, small _ (by omega), sixteen]
    omega
  · rw [UInt32.lt_iff_toNat_lt, small _ (by omega), sixteen]
    omega
  · simp only [GpuThread.pixel]
    rw [small _ (by omega), small _ (by omega), small _ (by omega), small _ (by omega),
      Nat.div_add_mod' , Nat.div_add_mod', if_pos ⟨column, row⟩, Nat.div_add_mod']

/-- The coordinates that a thread computes. -/
theorem InGrid.coordinates (member : InGrid width height thread) (width_fits : width < 2 ^ 31)
    (height_fits : height < 2 ^ 31) :
    thread.x = (thread.blockX.toNat * 16 + thread.threadX.toNat : Nat) ∧
      thread.y = (thread.blockY.toNat * 16 + thread.threadY.toNat : Nat) :=
  ⟨coordinate width_fits member.blockX member.threadX,
    coordinate height_fits member.blockY member.threadY⟩

end Grid

/-! ## What a thread computes -/

section Threads

variable {width height : Nat} {plane : Plane} {thread : GpuThread}

theorem load_filled {n index : Nat} (inside : index < n) (value : Nat → ℚ) :
    load (filled n value) index = .ok (value index) :=
  load_ok (by simp [filled, inside])

theorem rowMajor_at (plane : Plane) {x : Nat} (column : x < width) (y : Nat) :
    rowMajor width plane (y * width + x) = plane y x := by
  rw [rowMajor, Nat.add_comm, Nat.mul_comm, Nat.add_mul_mod_self_left, Nat.mod_eq_of_lt column,
    Nat.add_mul_div_left _ _ (by omega), Nat.div_eq_of_lt column, Nat.zero_add]

theorem index_lt {x y : Nat} (column : x < width) (row : y < height) :
    y * width + x < width * height :=
  calc y * width + x < y * width + width := Nat.add_lt_add_left column _
    _ = (y + 1) * width := (Nat.add_one_mul y width).symm
    _ ≤ height * width := Nat.mul_le_mul_right width row
    _ = width * height := Nat.mul_comm _ _

theorem flatten_ok (fits : width * height < 2 ^ 31) {x y : Nat} (column : x < width)
    (row : y < height) : flatten y width x = .ok (y * width + x : Nat) := by
  have bound := index_lt column row
  have first : int32 ((y : Int) * width) = .ok (y * width : Nat) := by
    rw [← Int.natCast_mul]
    exact int32_ok (by omega) (by omega)
  rw [flatten, first, ok_bind, ← Int.natCast_add]
  exact int32_ok (by omega) (by omega)

theorem load_pixel {x y : Nat} (column : x < width) (row : y < height) :
    load (filled (width * height) (rowMajor width plane)) (y * width + x : Nat) =
      .ok (plane y x) := by
  rw [load_filled (index_lt column row), rowMajor_at plane column]

theorem preprocessKernel_runs (fits : width * height < 2 ^ 31) (width_fits : width < 2 ^ 31)
    (height_fits : height < 2 ^ 31) (bg : ℚ) (member : InGrid width height thread) :
    preprocessKernel (filled (width * height) (rowMajor width plane)) width height bg thread =
      .ok ((thread.pixel width height).map fun (index : Nat) =>
        ((index : Int), rowMajor width (clamped bg plane) index)) := by
  obtain ⟨x, y⟩ := member.coordinates width_fits height_fits
  simp only [preprocessKernel, GpuThread.pixel, x, y, Int.ofNat_lt]
  split
  · next inside =>
    obtain ⟨column, row⟩ := inside
    rw [flatten_ok fits column row, ok_bind, load_pixel column row, ok_bind]
    simp only [Option.map_some, rowMajor_at _ column]
    rfl
  · rfl

/-- The entry of the kernel with number `k`, over 16. -/
def factor (k : Nat) : ℚ := [1, 2, 1, 2, 4, 2, 1, 2, 1].getD k 0 / 16

theorem load_factor {k : Nat} (entry : k < 9) : load d_gaussianKernel k = .ok (factor k) := by
  apply load_ok
  interval_cases k <;> norm_num [d_gaussianKernel, factor]

theorem tap_ok (fits : width * height < 2 ^ 31) {x y : Int} {offset : Int × Int}
    (column : 0 ≤ x + offset.2 ∧ x + offset.2 < width)
    (row : 0 ≤ y + offset.1 ∧ y + offset.1 < height) {k : Nat} (entry : k < 9) (sum : ℚ) :
    tap (filled (width * height) (rowMajor width plane)) width x y (sum, k) offset =
      .ok (sum + plane (y + offset.1) (x + offset.2) * factor k, (k + 1 : Nat)) := by
  obtain ⟨px, atColumn⟩ := Int.eq_ofNat_of_zero_le column.1
  obtain ⟨py, atRow⟩ := Int.eq_ofNat_of_zero_le row.1
  rw [atColumn] at column
  rw [atRow] at row
  simp only [tap, atColumn, atRow]
  rw [flatten_ok fits (by omega) (by omega), ok_bind, load_pixel (by omega) (by omega), ok_bind,
    load_factor entry]
  rfl

/-- The loops, from entry `k` of the kernel on. -/
theorem taps_ok (plane : Plane) (fits : width * height < 2 ^ 31) {x y : Int}
    (offsets : List (Int × Int))
    (inside : ∀ offset ∈ offsets, (0 ≤ x + offset.2 ∧ x + offset.2 < width) ∧
      0 ≤ y + offset.1 ∧ y + offset.1 < height)
    (k : Nat) (entries : k + offsets.length ≤ 9) (sum : ℚ) :
    offsets.foldlM (tap (filled (width * height) (rowMajor width plane)) width x y) (sum, k) =
      .ok (sum + ((offsets.zipIdx k).map fun tap =>
        plane (y + tap.1.1) (x + tap.1.2) * factor tap.2).sum, (k + offsets.length : Nat)) := by
  induction offsets generalizing k sum with
  | nil => simp [pure, Except.pure]
  | cons offset offsets ih =>
    rw [List.length_cons] at entries
    obtain ⟨column, row⟩ := inside offset List.mem_cons_self
    rw [List.foldlM_cons, tap_ok fits column row (by omega), ok_bind,
      ih (fun offset' member => inside offset' (List.mem_cons_of_mem offset member)) (k + 1)
        (by omega)]
    simp only [List.zipIdx_cons, List.map_cons, List.sum_cons, List.length_cons, add_assoc,
      Nat.add_comm 1]

/-- The sum that the nine taps come to. -/
theorem taps_sum (x y : Int) :
    ((taps.zipIdx 0).map fun tap => plane (y + tap.1.1) (x + tap.1.2) * factor tap.2).sum =
      plane (y - 1) (x - 1) / 16 + plane (y - 1) x / 8 + plane (y - 1) (x + 1) / 16 +
        plane y (x - 1) / 8 + plane y x / 4 + plane y (x + 1) / 8 +
        plane (y + 1) (x - 1) / 16 + plane (y + 1) x / 8 + plane (y + 1) (x + 1) / 16 := by
  simp only [taps, factor, List.flatMap_cons, List.map_cons, List.map_nil, List.flatMap_nil,
    List.cons_append, List.nil_append, List.append_nil, List.zipIdx_cons, List.zipIdx_nil,
    List.sum_cons, List.sum_nil, Int.add_zero, ← Int.sub_eq_add_neg]
  norm_num
  ring

/-- Away from the borders the loops come to the blurred pixel. -/
theorem taps_interior (fits : width * height < 2 ^ 31) {x y : Int}
    (interior : x ≥ 1 ∧ x < width - 1 ∧ y ≥ 1 ∧ y < height - 1) :
    taps.foldlM (tap (filled (width * height) (rowMajor width plane)) width x y) (0, 0) =
      .ok (blurred width height plane y x, 9) := by
  -- all nine neighbours are pixels
  have inside : ∀ offset ∈ taps, (0 ≤ x + offset.2 ∧ x + offset.2 < width) ∧
      0 ≤ y + offset.1 ∧ y + offset.1 < height := by
    intro offset member
    simp only [taps, List.mem_flatMap, List.mem_map, List.mem_cons, List.not_mem_nil,
      or_false] at member
    obtain ⟨dy, vertical, dx, horizontal, rfl⟩ := member
    simp only
    omega
  have sum := taps_ok plane fits taps inside 0 (by decide) 0
  have blur : blurred width height plane y x = plane (y - 1) (x - 1) / 16 +
      plane (y - 1) x / 8 + plane (y - 1) (x + 1) / 16 + plane y (x - 1) / 8 + plane y x / 4 +
      plane y (x + 1) / 8 + plane (y + 1) (x - 1) / 16 + plane (y + 1) x / 8 +
      plane (y + 1) (x + 1) / 16 := if_pos (by omega)
  rw [zero_add, taps_sum, ← blur] at sum
  exact sum

theorem gaussianBlurKernel_runs (fits : width * height < 2 ^ 31) (width_fits : width < 2 ^ 31)
    (height_fits : height < 2 ^ 31) (member : InGrid width height thread) :
    gaussianBlurKernel (filled (width * height) (rowMajor width plane)) width height thread =
      .ok ((thread.pixel width height).map fun (index : Nat) =>
        ((index : Int), rowMajor width (blurred width height plane) index)) := by
  obtain ⟨atX, atY⟩ := member.coordinates width_fits height_fits
  simp only [gaussianBlurKernel, GpuThread.pixel, atX, atY]
  generalize thread.blockX.toNat * 16 + thread.threadX.toNat = x
  generalize thread.blockY.toNat * 16 + thread.threadY.toNat = y
  by_cases interior : (x : Int) ≥ 1 ∧ (x : Int) < width - 1 ∧ (y : Int) ≥ 1 ∧ (y : Int) < height - 1
  · have column : x < width := by omega
    have row : y < height := by omega
    rw [if_pos interior, if_pos ⟨column, row⟩, taps_interior fits interior, ok_bind]
    simp only
    rw [flatten_ok fits column row, ok_bind, Option.map_some, rowMajor_at _ column]
    rfl
  · rw [if_neg interior]
    simp only [Int.ofNat_lt]
    by_cases inside : x < width ∧ y < height
    · obtain ⟨column, row⟩ := inside
      have copy : blurred width height plane y x = plane y x := if_neg (by omega)
      rw [if_pos ⟨column, row⟩, if_pos ⟨column, row⟩, flatten_ok fits column row, ok_bind, ok_bind,
        load_pixel column row, ok_bind, Option.map_some, rowMajor_at _ column, copy]
      rfl
    · rw [if_neg inside, if_neg inside]
      rfl

end Threads

/-! ## The two launches -/

section Launches

variable {width height : Nat} {plane : Plane}

theorem sizes_fit (columns : 0 < width) (rows : 0 < height) (fits : width * height < 2 ^ 31) :
    width < 2 ^ 31 ∧ height < 2 ^ 31 :=
  ⟨(Nat.le_mul_of_pos_right width rows).trans_lt fits,
    (Nat.le_mul_of_pos_left height columns).trans_lt fits⟩

/-- The device takes the grid of an image of up to 65535 blocks. -/
theorem numBlocks_le_iff (fits : height < 2 ^ 31) :
    numBlocks height ≤ maxGridDimY ↔ height ≤ 1048560 := by
  have most : maxGridDimY.toNat = 65535 := rfl
  rw [UInt32.le_iff_toNat_le, numBlocks_toNat fits, most]
  omega

/-- A launch whose threads store the pixels of an image fills the buffer with it. -/
theorem launch_fills (columns : 0 < width) (rows : 0 < height) (fits : width * height < 2 ^ 31)
    (short : height ≤ 1048560) (schedule : Schedule (InGrid width height)) {cells : Cells ℚ}
    (size : cells.length = width * height) {kernel : GpuThread → Except Fault (Option (Int × ℚ))}
    {value : Nat → ℚ}
    (runs : ∀ thread, InGrid width height thread → kernel thread =
      .ok ((thread.pixel width height).map fun (index : Nat) => ((index : Int), value index))) :
    launchGrid kernel schedule cells = .ok (filled (width * height) value) := by
  obtain ⟨width_fits, height_fits⟩ := sizes_fit columns rows fits
  rw [launchGrid, if_pos ((numBlocks_le_iff height_fits).mpr short), filled, ← size]
  apply launch_covers schedule cells runs
  · intro thread _ index aim
    obtain ⟨_, _, column, row⟩ := pixel_some aim
    rw [size, ← Nat.div_add_mod' index width]
    exact index_lt column row
  · intro index inside
    exact exists_pixel width_fits height_fits (size ▸ inside)

/-- Without a fault, and whatever the two buffers held. -/
theorem runPreprocessAndBlurCuda_eq (plane : Plane) (columns : 0 < width) (rows : 0 < height)
    (fits : width * height < 2 ^ 31) (short : height ≤ 1048560) (bg : ℚ)
    (first second : Schedule (InGrid width height))
    {d_temp d_output : Cells ℚ} (temp_size : d_temp.length = width * height)
    (output_size : d_output.length = width * height) :
    runPreprocessAndBlurCuda (filled (width * height) (rowMajor width plane)) d_temp d_output
        width height bg first second =
      .ok (filled (width * height) (rowMajor width (clamped bg plane)),
        filled (width * height) (rowMajor width (blurred width height (clamped bg plane)))) := by
  obtain ⟨width_fits, height_fits⟩ := sizes_fit columns rows fits
  rw [runPreprocessAndBlurCuda, launch_fills columns rows fits short first temp_size
    fun _ member => preprocessKernel_runs fits width_fits height_fits bg member, ok_bind,
    launch_fills columns rows fits short second output_size
    fun _ member => gaussianBlurKernel_runs fits width_fits height_fits member]
  rfl

/-! ## Bounds -/

/-- What holds of all pixels holds of their mixtures. -/
theorem blurred_bounds {low high : ℚ}
    (bounds : ∀ y x : Int, 0 ≤ x ∧ x < width → 0 ≤ y ∧ y < height →
      low ≤ plane y x ∧ plane y x ≤ high) (y x : Int) (column : 0 ≤ x ∧ x < width)
    (row : 0 ≤ y ∧ y < height) :
    low ≤ blurred width height plane y x ∧ blurred width height plane y x ≤ high := by
  unfold blurred
  split
  · next interior =>
    obtain ⟨left, right, top, bottom⟩ := interior
    have a := bounds (y - 1) (x - 1) (by omega) (by omega)
    have b := bounds (y - 1) x (by omega) (by omega)
    have c := bounds (y - 1) (x + 1) (by omega) (by omega)
    have d := bounds y (x - 1) (by omega) (by omega)
    have e := bounds y x (by omega) (by omega)
    have f := bounds y (x + 1) (by omega) (by omega)
    have g := bounds (y + 1) (x - 1) (by omega) (by omega)
    have h := bounds (y + 1) x (by omega) (by omega)
    have i := bounds (y + 1) (x + 1) (by omega) (by omega)
    constructor
    · linarith only [a.1, b.1, c.1, d.1, e.1, f.1, g.1, h.1, i.1]
    · linarith only [a.2, b.2, c.2, d.2, e.2, f.2, g.2, h.2, i.2]
  · exact bounds y x column row

end Launches

/-- All words below `n`. -/
def words (n : UInt32) : List UInt32 := (List.range n.toNat).map UInt32.ofNat

theorem mem_words {n word : UInt32} : word ∈ words n ↔ word < n := by
  rw [words, List.mem_map, UInt32.lt_iff_toNat_lt]
  constructor
  · rintro ⟨i, member, rfl⟩
    have below := List.mem_range.mp member
    have small := n.toNat_lt
    rwa [UInt32.toNat_ofNat_of_lt' (show i < 2 ^ 32 by omega)]
  · intro below
    exact ⟨word.toNat, List.mem_range.mpr below, UInt32.ofNat_toNat⟩

theorem words_nodup (n : UInt32) : (words n).Nodup := by
  refine List.nodup_range.map_on fun i member j member' same => ?_
  have below := List.mem_range.mp member
  have below' := List.mem_range.mp member'
  have small := n.toNat_lt
  have equal := congrArg UInt32.toNat same
  rwa [UInt32.toNat_ofNat_of_lt' (show i < 2 ^ 32 by omega),
    UInt32.toNat_ofNat_of_lt' (show j < 2 ^ 32 by omega)] at equal

/-- The threads of the grid, block by block. -/
def blockByBlock (width height : Int) : Schedule (InGrid width height) where
  order := ((words (numBlocks width) ×ˢ words (numBlocks height)) ×ˢ (words 16 ×ˢ words 16)).map
    fun place => ⟨place.1.1, place.1.2, place.2.1, place.2.2⟩
  nodup := by
    refine List.Nodup.map ?_ (((words_nodup _).product (words_nodup _)).product
      ((words_nodup _).product (words_nodup _)))
    rintro ⟨⟨blockX, blockY⟩, threadX, threadY⟩ ⟨⟨blockX', blockY'⟩, threadX', threadY'⟩ same
    cases same
    rfl
  complete thread := by
    rw [List.mem_map]
    constructor
    · rintro ⟨⟨⟨blockX, blockY⟩, threadX, threadY⟩, member, rfl⟩
      simp only [List.mem_product, mem_words] at member
      exact ⟨member.1.1, member.1.2, member.2.1, member.2.2⟩
    · intro member
      refine ⟨((thread.blockX, thread.blockY), thread.threadX, thread.threadY), ?_, rfl⟩
      simp only [List.mem_product, mem_words]
      exact ⟨⟨member.blockX, member.blockY⟩, member.threadX, member.threadY⟩

/-! ## Every image -/

/-- The thread stores a value at `index`. -/
def Stores (kernel : GpuThread → Except Fault (Option (Int × ℚ))) (thread : GpuThread)
    (index : Nat) : Prop :=
  ∃ value, kernel thread = .ok (some ((index : Int), value))

/-- Nothing was stored to the buffer yet. -/
def unwritten (n : Nat) : Cells ℚ := List.replicate n none

/-- Both launches come to their end without a fault, with `temp` and `output` behind them. -/
structure Preprocesses (width height : Nat) (input : List ℚ) (bg : ℚ)
    (first second : Schedule (InGrid width height)) (temp output : List ℚ) : Prop where
  run : runPreprocessAndBlurCuda (input.map some) (unwritten (width * height))
    (unwritten (width * height)) width height bg first second =
      .ok (temp.map some, output.map some)
  temp_once : ∀ index < width * height, ∃! thread, thread ∈ first.order ∧
    Stores (preprocessKernel (input.map some) width height bg) thread index
  output_once : ∀ index < width * height, ∃! thread, thread ∈ second.order ∧
    Stores (gaussianBlurKernel (temp.map some) width height) thread index
  clamped : temp = input.map (clamp bg)
  bounds : ∃ peak ∈ input, (∀ value ∈ input, value ≤ peak) ∧
    ∀ value ∈ output, 0 ≤ value ∧ value ≤ max 0 (peak - bg)
  constant : ∀ c, temp = List.replicate (width * height) c → output = temp

section Images

variable {width height : Nat}

/-- The image that a list of pixels stands for. -/
def planeOf (width : Nat) (pixels : List ℚ) : Plane := fun y x =>
  pixels.getD (y * width + x).toNat 0

theorem rowMajor_planeOf (pixels : List ℚ) (index : Nat) :
    rowMajor width (planeOf width pixels) index = pixels.getD index 0 := by
  rw [rowMajor, planeOf, ← Int.natCast_mul, ← Int.natCast_add, Int.toNat_natCast,
    Nat.div_add_mod']

/-- The values of an image, row by row. -/
def pixels (width height : Nat) (plane : Plane) : List ℚ :=
  (List.range (width * height)).map (rowMajor width plane)

theorem map_some_pixels (width height : Nat) (plane : Plane) :
    (pixels width height plane).map some = filled (width * height) (rowMajor width plane) :=
  List.map_map

theorem pixels_planeOf {input : List ℚ} (size : input.length = width * height) :
    pixels width height (planeOf width input) = input := by
  apply List.ext_getElem
  · simp [pixels, size]
  · intro index inside inside'
    simp [pixels, rowMajor_planeOf, inside']

theorem mem_pixels {plane : Plane} {value : ℚ} (member : value ∈ pixels width height plane) :
    ∃ y x : Int, (0 ≤ x ∧ x < width) ∧ (0 ≤ y ∧ y < height) ∧ value = plane y x := by
  obtain ⟨index, inside, rfl⟩ := List.mem_map.mp member
  have inside := List.mem_range.mp inside
  have positive : 0 < width := Nat.pos_of_mul_pos_right (Nat.zero_lt_of_lt inside)
  have column : index % width < width := Nat.mod_lt index positive
  have row : index / width < height := Nat.div_lt_of_lt_mul inside
  exact ⟨(index / width : Nat), (index % width : Nat),
    ⟨Int.natCast_nonneg _, Int.ofNat_lt.mpr column⟩, ⟨Int.natCast_nonneg _, Int.ofNat_lt.mpr row⟩,
    rfl⟩

theorem pixels_mem (plane : Plane) {y x : Int} (column : 0 ≤ x ∧ x < width)
    (row : 0 ≤ y ∧ y < height) : plane y x ∈ pixels width height plane := by
  obtain ⟨x, rfl⟩ := Int.eq_ofNat_of_zero_le column.1
  obtain ⟨y, rfl⟩ := Int.eq_ofNat_of_zero_le row.1
  refine List.mem_map.mpr ⟨y * width + x, ?_, rowMajor_at plane (by omega) y⟩
  exact List.mem_range.mpr (index_lt (by omega) (by omega))

/-- A thread of a launch whose threads store the pixels stores its own. -/
theorem stores_once (columns : 0 < width) (rows : 0 < height) (fits : width * height < 2 ^ 31)
    (schedule : Schedule (InGrid width height))
    {kernel : GpuThread → Except Fault (Option (Int × ℚ))} {value : Nat → ℚ}
    (runs : ∀ thread, InGrid width height thread → kernel thread =
      .ok ((thread.pixel width height).map fun (index : Nat) => ((index : Int), value index)))
    {index : Nat} (inside : index < width * height) :
    ∃! thread, thread ∈ schedule.order ∧ Stores kernel thread index := by
  obtain ⟨width_fits, height_fits⟩ := sizes_fit columns rows fits
  have aims : ∀ thread, InGrid width height thread → Stores kernel thread index →
      thread.pixel width height = some index := by
    rintro thread member ⟨stored, run⟩
    rw [runs thread member] at run
    cases aim : thread.pixel width height with
    | none => simp [aim] at run
    | some here =>
      simp only [aim, Option.map_some, Except.ok.injEq, Option.some.injEq, Prod.mk.injEq] at run
      rw [Int.ofNat_inj.mp run.1]
  obtain ⟨thread, member, aim⟩ := exists_pixel width_fits height_fits inside
  refine ⟨thread, ⟨(schedule.complete thread).mpr member, value index, ?_⟩, ?_⟩
  · rw [runs thread member, aim]
    rfl
  · rintro thread' ⟨listed, stores⟩
    have member' := (schedule.complete thread').mp listed
    exact pixel_unique member' member (aims thread' member' stores) aim

theorem clamp_bounds {bg value peak : ℚ} (below : value ≤ peak) :
    0 ≤ clamp bg value ∧ clamp bg value ≤ max 0 (peak - bg) := by
  unfold clamp
  split
  · next positive => exact ⟨positive.le, le_max_of_le_right (by linarith)⟩
  · exact ⟨le_rfl, le_max_left _ _⟩

theorem nonempty_max {input : List ℚ} (nonempty : input ≠ []) :
    ∃ peak ∈ input, ∀ value ∈ input, value ≤ peak := by
  obtain ⟨peak, member, above⟩ :=
    input.toFinset.exists_max_image id (List.toFinset_nonempty_iff input |>.mpr nonempty)
  simp only [List.mem_toFinset, id] at member above
  exact ⟨peak, member, above⟩

/-- No pixel of the result is above what the background leaves of the input. -/
theorem result_bounds {input : List ℚ} (size : input.length = width * height) {peak : ℚ}
    (above : ∀ value ∈ input, value ≤ peak) {bg value : ℚ}
    (stored : value ∈ pixels width height
      (blurred width height (clamped bg (planeOf width input)))) :
    0 ≤ value ∧ value ≤ max 0 (peak - bg) := by
  obtain ⟨y, x, column, row, rfl⟩ := mem_pixels stored
  apply blurred_bounds _ y x column row
  intro y x column row
  apply clamp_bounds
  apply above
  have listed := pixels_mem (planeOf width input) column row
  rwa [pixels_planeOf size] at listed

theorem blurred_constant {plane : Plane} {c : ℚ}
    (same : pixels width height plane = List.replicate (width * height) c) :
    pixels width height (blurred width height plane) = List.replicate (width * height) c := by
  have constant : ∀ y x : Int, 0 ≤ x ∧ x < width → 0 ≤ y ∧ y < height →
      c ≤ plane y x ∧ plane y x ≤ c := by
    intro y x column row
    have listed := pixels_mem plane column row
    rw [same] at listed
    rw [List.eq_of_mem_replicate listed]
    exact ⟨le_rfl, le_rfl⟩
  rw [List.eq_replicate_iff]
  refine ⟨by simp [pixels], fun value stored => ?_⟩
  obtain ⟨y, x, column, row, rfl⟩ := mem_pixels stored
  obtain ⟨above, below⟩ := blurred_bounds constant y x column row
  exact le_antisymm below above

/-- Every image whose grid a device takes, whatever the order of the threads. -/
theorem preprocessing_covers (width height : Nat) (columns : 1 ≤ width) (lines : 1 ≤ height)
    (fits : width * height < 2 ^ 31) (short : height ≤ 1048560) (input : List ℚ)
    (size : input.length = width * height)
    (bg : ℚ) (first second : Schedule (InGrid width height)) :
    ∃ temp output, Preprocesses width height input bg first second temp output := by
  obtain ⟨width_fits, height_fits⟩ := sizes_fit columns lines fits
  have source : input.map some =
      filled (width * height) (rowMajor width (planeOf width input)) := by
    rw [← map_some_pixels, pixels_planeOf size]
  have temp : pixels width height (clamped bg (planeOf width input)) = input.map (clamp bg) := by
    conv_rhs => rw [← pixels_planeOf size, pixels, List.map_map]
    rfl
  refine ⟨pixels width height (clamped bg (planeOf width input)),
    pixels width height (blurred width height (clamped bg (planeOf width input))),
    ?_, ?_, ?_, temp, ?_, ?_⟩
  · rw [source, map_some_pixels, map_some_pixels]
    exact runPreprocessAndBlurCuda_eq _ columns lines fits short bg first second
      List.length_replicate List.length_replicate
  · intro index inside
    rw [source]
    exact stores_once columns lines fits first
      (fun _ member => preprocessKernel_runs fits width_fits height_fits bg member) inside
  · intro index inside
    rw [map_some_pixels]
    exact stores_once columns lines fits second
      (fun _ member => gaussianBlurKernel_runs fits width_fits height_fits member) inside
  · have nonempty : input ≠ [] := by
      rw [← List.length_pos_iff, size]
      exact Nat.mul_pos columns lines
    obtain ⟨peak, member, above⟩ := nonempty_max nonempty
    exact ⟨peak, member, above, fun value stored => result_bounds size above stored⟩
  · intro c same
    rw [same, blurred_constant same]

/-- An image of two rows and three columns has no interior. -/
theorem preprocessing_covers_border :
    ∃ temp output, Preprocesses 3 2 [9, 1, 5, 4, 2, 8] 3 (blockByBlock 3 2) (blockByBlock 3 2)
      temp output :=
  preprocessing_covers 3 2 (by decide) (by decide) (by decide) (by decide) [9, 1, 5, 4, 2, 8] rfl 3
    (blockByBlock 3 2) (blockByBlock 3 2)

/-- A taller image leaves both buffers as they were. -/
theorem runPreprocessAndBlurCuda_rejected {d_input d_temp d_output : Cells ℚ} {bg : ℚ}
    {first second : Schedule (InGrid width height)} (fits : height < 2 ^ 31)
    (tall : 1048560 < height) :
    runPreprocessAndBlurCuda d_input d_temp d_output width height bg first second =
      .ok (d_temp, d_output) := by
  have rejected : ¬ numBlocks height ≤ maxGridDimY := by
    rw [numBlocks_le_iff fits]
    exact Nat.not_le.mpr tall
  simp only [runPreprocessAndBlurCuda, launchGrid, if_neg rejected]
  rfl

/-- A single column of 1048561 pixels takes 65536 rows of blocks. -/
theorem tall_not_preprocessed :
    ¬ ∀ (width height : Nat), 1 ≤ width → 1 ≤ height → width * height < 2 ^ 31 →
      ∀ input : List ℚ, input.length = width * height →
      ∀ (bg : ℚ) (first second : Schedule (InGrid width height)),
      ∃ temp output, Preprocesses width height input bg first second temp output := by
  intro covers
  obtain ⟨temp, output, preprocesses⟩ := covers 1 1048561 (by decide) (by decide) (by decide)
    (List.replicate (1 * 1048561) 5) List.length_replicate 3 (blockByBlock 1 1048561)
    (blockByBlock 1 1048561)
  have run := preprocesses.run
  rw [runPreprocessAndBlurCuda_rejected (by decide) (by decide)] at run
  -- what nothing was stored to would have to be the values of `temp`
  obtain ⟨left, _⟩ := Prod.mk.inj (Except.ok.inj run)
  have stored : (none : Option ℚ) ∈ temp.map some := by
    rw [← left]
    exact List.mem_replicate.mpr ⟨by decide, rfl⟩
  simp at stored

end Images

end PictureReconstruct.Reconstruct
