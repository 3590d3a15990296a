import Mathlib.Data.List.Sort
import PictureReconstruct.Reconstruct.CudaKernels

/-! # What a worker makes of a decoded image

The buffers of a worker have the size of the reconstruction, whatever the size of the image.

* `preprocess`: the worker from the decoded image to `pre`.
* `preprocess_outside`: a smaller image is read behind its end.
* `preprocess_respects_iff`: an image is processed in its own geometry when it has the size of the
  reconstruction.
-/

namespace PictureReconstruct.Reconstruct

open Library.DataParallel

/-- A `cv::Mat` of type `CV_32FC1`, its rows one after the other. -/
structure Mat where
  rows : Nat
  cols : Nat
  data : List ℚ

/-- A decoded image: not empty, and without padding. -/
structure DecodedImage extends Mat where
  rows_pos : 0 < rows
  cols_pos : 0 < cols
  sized : data.length = rows * cols

/-- `image.at<float>(y, x)` -/
def Mat.at (image : Mat) (y x : Nat) : ℚ := image.data.getD (y * image.cols + x) 0

/-- The median of the pixels that are close to a border. -/
def estimateBorderBackground (image : Mat) (borderWidth : Int) : ℚ :=
  let values := (List.range image.rows).flatMap fun (y : Nat) =>
    (List.range image.cols).filterMap fun (x : Nat) =>
      if (x : Int) < borderWidth ∨ (y : Int) < borderWidth ∨ (x : Int) ≥ image.cols - borderWidth ∨
          (y : Int) ≥ image.rows - borderWidth then some (image.at y x)
      else none
  if values.isEmpty then 0
  -- `nth_element` puts there what sorting would
  else values.mergeSort.getD (values.length / 2) 0

def outputWidth : Nat := 512

def outputHeight : Nat := 512

/-- `d_temp` and `d_output`, which a worker keeps from image to image. -/
structure DeviceBuffers where
  temp : Cells ℚ
  output : Cells ℚ
  temp_size : temp.length = outputWidth * outputHeight
  output_size : output.length = outputWidth * outputHeight

/-- The body of the loop of a worker, from `f` to `pre`. -/
def preprocess (f : Mat) (buffers : DeviceBuffers)
    (first second : Schedule (InGrid outputWidth outputHeight)) : Except Fault Mat := do
  let width := outputWidth
  let height := outputHeight
  let bg := estimateBorderBackground f 20
  let d_input ← copy (width * height) (f.data.map some)
  let (_, d_output) ← runPreprocessAndBlurCuda (d_input.map some) buffers.temp buffers.output
    width height bg first second
  let data ← copy (width * height) d_output
  return { rows := height, cols := width, data }

/-! ## In the geometry of the image -/

/-- Background subtraction, clamping and blur on the image as it is. -/
def preprocessed (f : Mat) : Plane :=
  blurred f.cols f.rows (clamped (estimateBorderBackground f 20) (planeOf f.cols f.data))

/-- The worker reads nothing but the image, and `pre` is the image, processed in its geometry. -/
def Respects (f : Mat) (pre : Except Fault Mat) : Prop :=
  ∃ image, pre = .ok image ∧ image.rows = f.rows ∧ image.cols = f.cols ∧
    ∀ y x, y < f.rows → x < f.cols → image.at y x = preprocessed f y x

theorem at_pixels {width height x y : Nat} {plane : Plane} (column : x < width)
    (row : y < height) :
    Mat.at { rows := height, cols := width, data := pixels width height plane } y x =
      plane y x := by
  have inside : y * width + x < width * height := index_lt column row
  simp only [Mat.at, pixels]
  simp [List.getD_eq_getElem?_getD, inside, rowMajor_at plane column]

section Geometry

variable (f : DecodedImage) (buffers : DeviceBuffers)
  (first second : Schedule (InGrid outputWidth outputHeight))

/-- The copy to the device reads as many pixels as the reconstruction has. -/
theorem preprocess_outside (short : f.rows * f.cols < outputWidth * outputHeight) :
    preprocess f.toMat buffers first second = .error .outside := by
  have outside : copy (outputWidth * outputHeight) (f.data.map some) = .error .outside :=
    copy_outside (f.sized ▸ short)
  rw [preprocess, outside]
  rfl

theorem preprocess_size {f : Mat} {image : Mat}
    (run : preprocess f buffers first second = .ok image) :
    image.rows = outputHeight ∧ image.cols = outputWidth := by
  obtain ⟨d_input, _, run⟩ := bind_ok run
  obtain ⟨⟨d_temp, d_output⟩, _, run⟩ := bind_ok run
  obtain ⟨data, _, run⟩ := bind_ok run
  cases run
  exact ⟨rfl, rfl⟩

/-- An image of the size of the reconstruction. -/
theorem preprocess_fits (rows : f.rows = outputHeight) (cols : f.cols = outputWidth) :
    preprocess f.toMat buffers first second =
      .ok ⟨outputHeight, outputWidth, pixels outputWidth outputHeight (preprocessed f.toMat)⟩ := by
  have size : f.data.length = outputWidth * outputHeight := by
    rw [f.sized, rows, cols, Nat.mul_comm]
  have input : copy (outputWidth * outputHeight) (f.data.map some) = .ok f.data := by
    rw [copy_ok size.ge, ← size, List.take_length]
  have source : f.data.map some = filled (outputWidth * outputHeight)
      (rowMajor outputWidth (planeOf outputWidth f.data)) := by
    rw [← map_some_pixels, pixels_planeOf size]
  have result : copy (outputWidth * outputHeight) (filled (outputWidth * outputHeight)
      (rowMajor outputWidth (preprocessed f.toMat))) =
      .ok (pixels outputWidth outputHeight (preprocessed f.toMat)) := by
    have whole : (pixels outputWidth outputHeight (preprocessed f.toMat)).length =
        outputWidth * outputHeight := by simp [pixels]
    rw [← map_some_pixels, copy_ok whole.ge, ← whole, List.take_length]
  have run := runPreprocessAndBlurCuda_eq (planeOf outputWidth f.data)
    (by decide : 0 < outputWidth) (by decide : 0 < outputHeight) (by decide) (by decide)
    (estimateBorderBackground f.toMat 20) first second buffers.temp_size buffers.output_size
  simp only [preprocess]
  rw [input, ok_bind, source, run, ok_bind]
  simp only [preprocessed, rows, cols] at result ⊢
  rw [result]
  rfl

/-- The worker respects the geometry of the image exactly when it is that of the reconstruction. -/
theorem preprocess_respects_iff :
    Respects f.toMat (preprocess f.toMat buffers first second) ↔ f.rows = 512 ∧ f.cols = 512 := by
  constructor
  · rintro ⟨image, run, rows, cols, _⟩
    obtain ⟨height, width⟩ := preprocess_size buffers first second run
    exact ⟨rows.symm.trans height, cols.symm.trans width⟩
  · rintro ⟨rows, cols⟩
    refine ⟨_, preprocess_fits f buffers first second rows cols, rows.symm, cols.symm, ?_⟩
    intro y x line column
    rw [rows] at line
    rw [cols] at column
    exact at_pixels column line

end Geometry

/-- The buffers of a worker that has processed no image yet. -/
def newBuffers : DeviceBuffers where
  temp := unwritten (outputWidth * outputHeight)
  output := unwritten (outputWidth * outputHeight)
  temp_size := List.length_replicate
  output_size := List.length_replicate

/-- An image of a single pixel. -/
def singlePixel : DecodedImage where
  rows := 1
  cols := 1
  data := [7]
  rows_pos := Nat.one_pos
  cols_pos := Nat.one_pos
  sized := rfl

theorem singlePixel_not_respected :
    ¬ ∀ (f : DecodedImage) (buffers : DeviceBuffers)
      (first second : Schedule (InGrid outputWidth outputHeight)),
      Respects f.toMat (preprocess f.toMat buffers first second) := by
  intro respects
  obtain ⟨image, run, _⟩ := respects singlePixel newBuffers (blockByBlock _ _) (blockByBlock _ _)
  rw [preprocess_outside _ _ _ _ (by decide)] at run
  cases run

end PictureReconstruct.Reconstruct
