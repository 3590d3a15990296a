import PictureReconstruct.Library.Rounding
import PictureReconstruct.Reconstruct.Deconvolution
import PictureReconstruct.Reconstruct.WeightedAverage

/-! # From the sums to the saved images

What `main` does behind the joins of its threads.  What is documented of the functions of OpenCV
that it calls is in `OpenCv`.

* `fillHoles_monotone`, `fillHoles_contrast`: the pixels that have weight keep their order, and
  those that differ by more than a grey level are still told apart.
* `postprocessing_keeps`: that and the ranges of all images, whatever was accumulated.
-/

namespace PictureReconstruct.Reconstruct

open Library.Rounding

/-- An image of type `CV_8UC1` or `CV_16UC1`. -/
abbrev Levels (rows cols : Nat) := Fin rows → Fin cols → Nat

/-- `DBL_EPSILON` -/
def dblEpsilon : ℚ := 1 / 2 ^ 52

/-- The functions outside of the repository. -/
structure OpenCv (rows cols : Nat) extends Filter rows cols where
  /-- `cv::normalize` with `NORM_MINMAX` -/
  normalize : ℚ → ℚ → Image rows cols → Image rows cols
  affine : ∀ low high image, low ≤ high → ∃ scale shift, 0 ≤ scale ∧
    ∀ y x, normalize low high image y x = scale * image y x + shift
  inside : ∀ low high image, low ≤ high →
    ∀ y x, low ≤ normalize low high image y x ∧ normalize low high image y x ≤ high
  /-- an image with less contrast is made constant -/
  reaches : ∀ low high image, (∃ y x y' x', dblEpsilon < image y' x' - image y x) →
    (∃ y x, normalize low high image y x = low) ∧ ∃ y x, normalize low high image y x = high
  /-- `cv::inpaint`; the mask says where -/
  inpaint : Levels rows cols → (Fin rows → Fin cols → Bool) → Levels rows cols
  unmasked : ∀ image mask y x, mask y x = false → inpaint image mask y x = image y x
  /-- `cv::GaussianBlur` -/
  gaussianBlur : Image rows cols → Image rows cols
  blurs : ∀ image low high, (∀ y x, low ≤ image y x ∧ image y x ≤ high) →
    ∀ y x, low ≤ gaussianBlur image y x ∧ gaussianBlur image y x ≤ high

variable {rows cols : Nat}

/-- `convertTo` an unsigned type. -/
def quantized (top : Nat) (image : Image rows cols) : Levels rows cols :=
  fun y x => saturate top (image y x)

def fillHolesByInpaint (cv : OpenCv rows cols) (image weight : Image rows cols) :
    Image rows cols :=
  let image8u := quantized 255 (cv.normalize 0 255 image)
  let filled8u := cv.inpaint image8u fun y x => weight y x ≤ 1e-6
  cv.normalize 0 1 fun y x => filled8u y x

def normalizeTo16U (cv : OpenCv rows cols) (src : Image rows cols) : Levels rows cols :=
  quantized 65535 (cv.normalize 0 65535 src)

/-- The images of `main`. -/
structure Reconstructions (rows cols : Nat) where
  reconRaw : Image rows cols
  reconFilled : Image rows cols
  reconFiltered : Image rows cols
  reconDeconv : Image rows cols

/-- `psfSigma` -/
def psfSigma : Width := ⟨1.6, by norm_num⟩

def postprocess (cv : OpenCv rows cols) (exp : Exponential) (sums : Sums rows cols) :
    Reconstructions rows cols :=
  let reconRaw := normalizeByWeight sums
  let reconFilled := fillHolesByInpaint cv reconRaw sums.2
  let reconFiltered := cv.gaussianBlur reconFilled
  let psf := makeGaussianPsf exp 15 psfSigma
  { reconRaw, reconFilled, reconFiltered
    reconDeconv := lucyRichardsonDeconvolution cv.toFilter reconFiltered psf 15 }

/-! ## Quantization -/

section Quantization

variable (cv : OpenCv rows cols)

theorem normalize_monotone {low high : ℚ} (ordered : low ≤ high) (image : Image rows cols)
    {y y' : Fin rows} {x x' : Fin cols} (le : image y x ≤ image y' x') :
    cv.normalize low high image y x ≤ cv.normalize low high image y' x' := by
  obtain ⟨scale, shift, nonneg, affine⟩ := cv.affine low high image ordered
  rw [affine, affine]
  have scaled := mul_le_mul_of_nonneg_left le nonneg
  linarith

/-- An image with contrast is spread over the whole range. -/
theorem normalize_spread {low high : ℚ} (ordered : low < high) (image : Image rows cols)
    {y y' : Fin rows} {x x' : Fin cols} (apart : dblEpsilon < image y' x' - image y x) :
    ∃ scale shift, 0 < scale ∧
      (∀ y x, cv.normalize low high image y x = scale * image y x + shift) ∧
      ∃ p q r s, scale * (image r s - image p q) = high - low := by
  obtain ⟨scale, shift, nonneg, affine⟩ := cv.affine low high image ordered.le
  obtain ⟨⟨p, q, bottom⟩, r, s, top⟩ := cv.reaches low high image ⟨y, x, y', x', apart⟩
  rw [affine] at bottom top
  refine ⟨scale, shift, lt_of_le_of_ne nonneg fun zero => ?_, affine, p, q, r, s, by linarith⟩
  rw [← zero, zero_mul] at bottom top
  linarith

theorem normalizeTo16U_monotone (src : Image rows cols) {y y' : Fin rows} {x x' : Fin cols}
    (le : src y x ≤ src y' x') : normalizeTo16U cv src y x ≤ normalizeTo16U cv src y' x' :=
  saturate_mono 65535 (normalize_monotone cv (by norm_num) src le)

/-- What is apart stays apart. -/
theorem normalize_strict {low high : ℚ} (ordered : low < high) (image : Image rows cols)
    {y y' : Fin rows} {x x' : Fin cols} (apart : dblEpsilon < image y' x' - image y x) :
    cv.normalize low high image y x < cv.normalize low high image y' x' := by
  obtain ⟨scale, shift, positive, affine, -⟩ := normalize_spread cv ordered image apart
  have less : image y x < image y' x' := by
    have tiny : 0 < dblEpsilon := by norm_num [dblEpsilon]
    linarith
  have scaled := mul_lt_mul_of_pos_left less positive
  rw [affine, affine]
  linarith

/-- More than a grey level of the whole range apart. -/
theorem normalize_contrast (image : Image rows cols) {y y' : Fin rows} {x x' : Fin cols}
    (apart : dblEpsilon < image y' x' - image y x)
    (level : ∀ p q r s, image r s - image p q < 255 * (image y' x' - image y x)) :
    cv.normalize 0 255 image y x + 1 < cv.normalize 0 255 image y' x' := by
  obtain ⟨scale, shift, positive, affine, p, q, r, s, whole⟩ :=
    normalize_spread cv (show (0 : ℚ) < 255 by norm_num) image apart
  have scaled := mul_lt_mul_of_pos_left (level p q r s) positive
  rw [affine, affine]
  linarith

theorem quantized_contrast {top : Nat} {image : Image rows cols}
    (inside : ∀ y x, 0 ≤ image y x ∧ image y x ≤ top) {y y' : Fin rows} {x x' : Fin cols}
    (apart : image y x + 1 < image y' x') :
    quantized top image y x < quantized top image y' x' := by
  have error := abs_le.mp (saturate_error (inside y x).1 (inside y x).2)
  have error' := abs_le.mp (saturate_error (inside y' x').1 (inside y' x').2)
  have less : ((saturate top (image y x) : Nat) : ℚ) < saturate top (image y' x') := by linarith
  exact_mod_cast less

end Quantization

/-! ## Holes -/

/-- A pixel that is no hole. -/
def Covered (weight : Image rows cols) (y : Fin rows) (x : Fin cols) : Prop := 1e-6 < weight y x

section Holes

variable (cv : OpenCv rows cols) {image weight : Image rows cols} {y y' : Fin rows}
  {x x' : Fin cols}

/-- Where there is weight, nothing is inpainted. -/
theorem inpaint_covered (image8u : Levels rows cols) (covered : Covered weight y x) :
    cv.inpaint image8u (fun y x => weight y x ≤ 1e-6) y x = image8u y x :=
  cv.unmasked _ _ _ _ (decide_eq_false (not_le.mpr covered))

theorem fillHoles_monotone (covered : Covered weight y x) (covered' : Covered weight y' x')
    (le : image y x ≤ image y' x') :
    fillHolesByInpaint cv image weight y x ≤ fillHolesByInpaint cv image weight y' x' := by
  refine normalize_monotone cv zero_le_one _ ?_
  rw [inpaint_covered cv _ covered, inpaint_covered cv _ covered']
  exact_mod_cast saturate_mono 255 (normalize_monotone cv (by norm_num) image le)

theorem fillHoles_contrast (covered : Covered weight y x) (covered' : Covered weight y' x')
    (apart : dblEpsilon < image y' x' - image y x)
    (level : ∀ p q r s, image r s - image p q < 255 * (image y' x' - image y x)) :
    fillHolesByInpaint cv image weight y x < fillHolesByInpaint cv image weight y' x' := by
  refine normalize_strict cv zero_lt_one _ ?_
  rw [inpaint_covered cv _ covered, inpaint_covered cv _ covered']
  have higher : quantized 255 (cv.normalize 0 255 image) y x + 1 ≤
      quantized 255 (cv.normalize 0 255 image) y' x' :=
    quantized_contrast (cv.inside 0 255 image (by norm_num))
      (normalize_contrast cv image apart level)
  have higher' : ((quantized 255 (cv.normalize 0 255 image) y x : Nat) : ℚ) + 1 ≤
      quantized 255 (cv.normalize 0 255 image) y' x' := by exact_mod_cast higher
  have tiny : dblEpsilon < 1 := by norm_num [dblEpsilon]
  linarith

end Holes

/-! ## All of it -/

/-- What the images of `main` have to do with each other. -/
structure Keeps (cv : OpenCv rows cols) (sums : Sums rows cols)
    (images : Reconstructions rows cols) : Prop where
  /-- between pixels that have weight, up to the file -/
  order : ∀ y x y' x', Covered sums.2 y x → Covered sums.2 y' x' →
    images.reconRaw y x ≤ images.reconRaw y' x' →
    images.reconFilled y x ≤ images.reconFilled y' x' ∧
      normalizeTo16U cv images.reconFilled y x ≤ normalizeTo16U cv images.reconFilled y' x'
  contrast : ∀ y x y' x', Covered sums.2 y x → Covered sums.2 y' x' →
    dblEpsilon < images.reconRaw y' x' - images.reconRaw y x →
    (∀ p q r s, images.reconRaw r s - images.reconRaw p q <
      255 * (images.reconRaw y' x' - images.reconRaw y x)) →
    images.reconFilled y x < images.reconFilled y' x'
  filled : ∀ y x, 0 ≤ images.reconFilled y x ∧ images.reconFilled y x ≤ 1
  filtered : ∀ y x, 0 ≤ images.reconFiltered y x ∧ images.reconFiltered y x ≤ 1
  deconvolved : ∀ y x, 1e-6 ≤ images.reconDeconv y x ∧ images.reconDeconv y x ≤ 225

/-- Whatever was accumulated: filling the holes keeps the order of the pixels that have weight and
    all contrast between them of more than a grey level, and no image behind it leaves its range. -/
theorem postprocessing_keeps (cv : OpenCv rows cols) (exp : Exponential) (sums : Sums rows cols) :
    Keeps cv sums (postprocess cv exp sums) := by
  have filled := cv.inside 0 1 (fun y x => ((cv.inpaint
    (quantized 255 (cv.normalize 0 255 (normalizeByWeight sums))) fun y x => sums.2 y x ≤ 1e-6) y x
      : ℚ)) zero_le_one
  have filtered := cv.blurs _ 0 1 filled
  refine ⟨fun y x y' x' covered covered' le => ?_,
    fun y x y' x' covered covered' => fillHoles_contrast cv covered covered', filled, filtered,
    fun y x => ?_⟩
  · have monotone := fillHoles_monotone cv covered covered' le
    exact ⟨monotone, normalizeTo16U_monotone cv _ monotone⟩
  have averages := @makeGaussianPsf_averages exp psfSigma 15
  have grown := deconvolution_le cv.toFilter averages makeGaussianPsf_symmetric
    makeGaussianPsf_unimodal (by norm_num [eps]) (fun y x => (filtered y x).2) 15 y x
  refine ⟨eps_le_deconvolution _ _ _ _ _, grown.trans ?_⟩
  norm_num [makeGaussianPsf]

/-! ## OpenCV on images without holes -/

def lowest (image : Image (rows + 1) (cols + 1)) : ℚ :=
  Finset.univ.inf' Finset.univ_nonempty fun p : Fin (rows + 1) × Fin (cols + 1) => image p.1 p.2

def highest (image : Image (rows + 1) (cols + 1)) : ℚ :=
  Finset.univ.sup' Finset.univ_nonempty fun p : Fin (rows + 1) × Fin (cols + 1) => image p.1 p.2

/-- `NORM_MINMAX` -/
def minMaxScale (low high : ℚ) (image : Image (rows + 1) (cols + 1)) : ℚ :=
  if dblEpsilon < highest image - lowest image then (high - low) / (highest image - lowest image)
  else 0

theorem lowest_le (image : Image (rows + 1) (cols + 1)) (y : Fin (rows + 1)) (x : Fin (cols + 1)) :
    lowest image ≤ image y x :=
  Finset.inf'_le (fun p : Fin (rows + 1) × Fin (cols + 1) => image p.1 p.2) (Finset.mem_univ (y, x))

theorem le_highest (image : Image (rows + 1) (cols + 1)) (y : Fin (rows + 1))
    (x : Fin (cols + 1)) : image y x ≤ highest image :=
  Finset.le_sup' (fun p : Fin (rows + 1) × Fin (cols + 1) => image p.1 p.2) (Finset.mem_univ (y, x))

theorem minMaxScale_nonneg {low high : ℚ} (ordered : low ≤ high)
    (image : Image (rows + 1) (cols + 1)) : 0 ≤ minMaxScale low high image := by
  rw [minMaxScale]
  split
  · exact div_nonneg (by linarith) (by linarith [lowest_le image 0 0, le_highest image 0 0])
  · exact le_refl 0

theorem minMaxScale_range {low high : ℚ} (ordered : low ≤ high)
    (image : Image (rows + 1) (cols + 1)) :
    minMaxScale low high image * (highest image - lowest image) ≤ high - low := by
  have tiny : 0 < dblEpsilon := by norm_num [dblEpsilon]
  rw [minMaxScale]
  split
  · next apart => exact (div_mul_cancel₀ _ (tiny.trans apart).ne').le
  · linarith

/-- `BORDER_REFLECT_101`: behind the border the pixels follow in reverse, without the last one. -/
def reflect {n : Nat} (i : Fin (n + 1)) (d : Int) : Fin (n + 1) :=
  let p := ((i + d) % (2 * n)).toNat
  ⟨min p (2 * n - p), by omega⟩

/-- `Size(0, 0)` with a width of 0.8 makes a kernel of 7 x 7. -/
noncomputable def blurKernel : Psf := makeGaussianPsf roundedExp 7 ⟨0.8, by norm_num⟩

noncomputable def blur (image : Image (rows + 1) (cols + 1)) : Image (rows + 1) (cols + 1) :=
  fun y x => ∑ i : Fin blurKernel.size, ∑ j : Fin blurKernel.size, blurKernel.weights i j *
    image (reflect y (i - (blurKernel.size / 2 : Nat)))
      (reflect x (j - (blurKernel.size / 2 : Nat)))

/-- A blurred pixel lies between the pixels around it. -/
theorem blur_inside {image : Image (rows + 1) (cols + 1)} {low high : ℚ}
    (inside : ∀ y x, low ≤ image y x ∧ image y x ≤ high) (y : Fin (rows + 1))
    (x : Fin (cols + 1)) : low ≤ blur image y x ∧ blur image y x ≤ high := by
  have averages : blurKernel.Averages := makeGaussianPsf_averages
  have constant : ∀ c : ℚ, ∑ i, ∑ j, blurKernel.weights i j * c = c := by
    intro c
    simp only [← Finset.sum_mul, averages.sum, one_mul]
  constructor
  · calc low = ∑ i, ∑ j, blurKernel.weights i j * low := (constant low).symm
      _ ≤ blur image y x := Finset.sum_le_sum fun i _ => Finset.sum_le_sum fun j _ =>
          mul_le_mul_of_nonneg_left (inside _ _).1 (averages.nonneg i j)
  · calc blur image y x
      _ ≤ ∑ i, ∑ j, blurKernel.weights i j * high := Finset.sum_le_sum fun i _ =>
          Finset.sum_le_sum fun j _ =>
            mul_le_mul_of_nonneg_left (inside _ _).2 (averages.nonneg i j)
      _ = high := constant high

/-- Only what has no hole is inpainted. -/
noncomputable def directCv (rows cols : Nat) : OpenCv (rows + 1) (cols + 1) where
  toFilter := directFilter (rows + 1) (cols + 1)
  normalize low high image y x := minMaxScale low high image * (image y x - lowest image) + low
  affine low high image ordered := ⟨minMaxScale low high image,
    low - minMaxScale low high image * lowest image, minMaxScale_nonneg ordered image,
    fun _ _ => by rw [mul_sub]; linarith⟩
  inside low high image ordered y x := by
    have nonneg := minMaxScale_nonneg ordered image
    have bottom := mul_nonneg nonneg (sub_nonneg.mpr (lowest_le image y x))
    have top := mul_le_mul_of_nonneg_left
      (sub_le_sub_right (le_highest image y x) (lowest image)) nonneg
    have whole := minMaxScale_range ordered image
    constructor <;> linarith
  reaches low high image contrast := by
    obtain ⟨y, x, y', x', apart⟩ := contrast
    have tiny : 0 < dblEpsilon := by norm_num [dblEpsilon]
    have wide : dblEpsilon < highest image - lowest image := by
      linarith [lowest_le image y x, le_highest image y' x']
    obtain ⟨p, -, least⟩ := Finset.exists_mem_eq_inf' (s := Finset.univ) Finset.univ_nonempty
      fun p : Fin (rows + 1) × Fin (cols + 1) => image p.1 p.2
    obtain ⟨q, -, most⟩ := Finset.exists_mem_eq_sup' (s := Finset.univ) Finset.univ_nonempty
      fun p : Fin (rows + 1) × Fin (cols + 1) => image p.1 p.2
    refine ⟨⟨p.1, p.2, ?_⟩, q.1, q.2, ?_⟩
    · rw [show image p.1 p.2 = lowest image from least.symm]
      linarith
    · rw [show image q.1 q.2 = highest image from most.symm, minMaxScale, if_pos wide,
        div_mul_cancel₀ _ (tiny.trans wide).ne']
      linarith
  inpaint image _ := image
  unmasked _ _ _ _ _ := rfl
  gaussianBlur := blur
  blurs _ _ _ inside := blur_inside inside

/-- The samples 1 and 3, and no hole. -/
theorem postprocessing_keeps_samples :
    let sums : Sums 1 2 := (fun _ x => ![1, 3] x, fun _ _ => 1)
    let images := postprocess (directCv 0 1) roundedExp sums
    images.reconFilled 0 0 < images.reconFilled 0 1 ∧ images.reconDeconv 0 1 ≤ 225 := by
  intro sums images
  have keeps := postprocessing_keeps (directCv 0 1) roundedExp sums
  refine ⟨keeps.contrast 0 0 0 1 ?_ ?_ ?_ ?_, (keeps.deconvolved 0 1).2⟩
  · norm_num [Covered, sums]
  · norm_num [Covered, sums]
  · norm_num [postprocess, normalizeByWeight, sums, dblEpsilon]
  · show ∀ (p : Fin 1) (q : Fin 2) (r : Fin 1) (s : Fin 2),
      normalizeByWeight sums r s - normalizeByWeight sums p q <
        255 * (normalizeByWeight sums 0 1 - normalizeByWeight sums 0 0)
    decide +kernel

end PictureReconstruct.Reconstruct
