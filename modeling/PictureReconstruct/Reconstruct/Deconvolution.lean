import Mathlib.Algebra.BigOperators.Field
import Mathlib.Algebra.BigOperators.Fin
import Mathlib.Algebra.Order.BigOperators.Group.Finset
import Mathlib.Analysis.Complex.Exponential
import Mathlib.Data.Int.Order.Lemmas
import Mathlib.Logic.Function.Iterate
import PictureReconstruct.Reconstruct.Accumulation

/-! # Deconvolution

`makeGaussianPsf` and `lucyRichardsonDeconvolution` over the rationals.  What is documented of
`cv::filter2D` is in `Filter`, what the kernel needs of `std::exp` in `Exponential`.

* `makeGaussianPsf_averages`, `makeGaussianPsf_symmetric`, `makeGaussianPsf_unimodal`: the kernel.
* `filter_constant`, `filter_mirrored`, `weight_mul_le_filter`: a filter with such a kernel.
* `deconvolution_unbiased`: the deconvolution moves nothing and keeps what needs no correction.
* `deconvolution_bounded`: however long it goes on, no pixel grows beyond a bound.
-/

namespace PictureReconstruct.Reconstruct

/-- A kernel of floats; it is square. -/
structure Psf where
  size : Nat
  weights : Fin size → Fin size → ℚ

/-- `BORDER_REPLICATE`: the pixel that is `d` further, or the last one before the border. -/
def replicate {n : Nat} (i : Fin n) (d : Int) : Fin n :=
  ⟨min (n - 1) (i + d).toNat, by omega⟩

/-- `cv::filter2D` with the anchor in the middle of the kernel. -/
structure Filter (rows cols : Nat) where
  filter2D : Image rows cols → Psf → Image rows cols
  correlates : ∀ image psf y x, filter2D image psf y x = ∑ i : Fin psf.size, ∑ j : Fin psf.size,
    psf.weights i j * image (replicate y (i - (psf.size / 2 : Nat)))
      (replicate x (j - (psf.size / 2 : Nat)))

/-- The filter by its formula. -/
def directFilter (rows cols : Nat) : Filter rows cols where
  filter2D image psf y x := ∑ i : Fin psf.size, ∑ j : Fin psf.size,
    psf.weights i j * image (replicate y (i - (psf.size / 2 : Nat)))
      (replicate x (j - (psf.size / 2 : Nat)))
  correlates _ _ _ _ := rfl

/-- `std::exp`; the values may be rounded, down to 0 for the smallest. -/
structure Exponential where
  exp : ℚ → ℚ
  nonneg : ∀ x, 0 ≤ exp x
  pos : 0 < exp 0
  monotone : Monotone exp

/-- The width of a bell curve. -/
structure Width where
  sigma : ℚ
  positive : 0 < sigma

/-- `v` in the loops of `makeGaussianPsf` -/
def gaussian (exp : Exponential) (width : Width) {size : Nat} (y x : Fin size) : ℚ :=
  let c := size / 2
  let dx : Int := x - c
  let dy : Int := y - c
  exp.exp (-(dx * dx + dy * dy : Int) / (2 * width.sigma * width.sigma))

def makeGaussianPsf (exp : Exponential) (size : Nat) (width : Width) : Psf :=
  let size := if size % 2 = 0 then size + 1 else size
  let sum := ∑ y : Fin size, ∑ x, gaussian exp width y x
  { size, weights := fun y x => gaussian exp width y x / sum }

/-- `cv::flip` about both axes. -/
def flipPsf (psf : Psf) : Psf where
  size := psf.size
  weights i j := psf.weights i.rev j.rev

/-- `1e-6f` -/
def eps : ℚ := 1e-6

variable {rows cols : Nat}

/-- `cv::max` with a number. -/
def atLeast (bound : ℚ) (image : Image rows cols) : Image rows cols :=
  fun y x => max (image y x) bound

/-- The body of the loop. -/
def correctEstimate (cv : Filter rows cols) (psf psfFlipped : Psf) (image : Image rows cols)
    (estimate : Image rows cols) : Image rows cols :=
  let blurred := atLeast eps (cv.filter2D estimate psf)
  let ratio : Image rows cols := fun y x => image y x / blurred y x
  let correction := cv.filter2D ratio psfFlipped
  atLeast eps fun y x => estimate y x * correction y x

def lucyRichardsonDeconvolution (cv : Filter rows cols) (input : Image rows cols) (psf : Psf)
    (iterations : Nat) : Image rows cols :=
  let image := atLeast eps input
  (correctEstimate cv psf (flipPsf psf) image)^[iterations] image

/-! ## Kernels -/

/-- What a kernel computes lies between the values it is computed from. -/
structure Psf.Averages (psf : Psf) : Prop where
  nonneg : ∀ i j, 0 ≤ psf.weights i j
  sum : ∑ i, ∑ j, psf.weights i j = 1

/-- The kernel has a middle, and looks the same from all sides. -/
structure Psf.Symmetric (psf : Psf) : Prop where
  odd : psf.size % 2 = 1
  vertical : ∀ i j, psf.weights i.rev j = psf.weights i j
  horizontal : ∀ i j, psf.weights i j.rev = psf.weights i j

/-- How far a row or a column of a kernel is from its middle. -/
def fromMiddle {size : Nat} (i : Fin size) : Nat := ((i : Nat) - (size / 2 : Nat) : Int).natAbs

/-- The weights do not grow on the way out. -/
def Psf.Unimodal (psf : Psf) : Prop :=
  ∀ i j i' j', fromMiddle i' ≤ fromMiddle i → fromMiddle j' ≤ fromMiddle j →
    psf.weights i j ≤ psf.weights i' j'

/-- The opposite position, as seen from the middle. -/
theorem offset_rev {size : Nat} (odd : size % 2 = 1) (i : Fin size) :
    ((i.rev : Nat) : Int) - (size / 2 : Nat) = -((i : Nat) - (size / 2 : Nat)) := by
  rw [Fin.val_rev]
  omega

section Gaussian

variable {exp : Exponential} {width : Width} {size : Nat}

theorem gaussian_rev (odd : size % 2 = 1) (y x : Fin size) :
    gaussian exp width y.rev x = gaussian exp width y x ∧
      gaussian exp width y x.rev = gaussian exp width y x := by
  constructor
  · simp only [gaussian, offset_rev odd, neg_mul_neg]
  · simp only [gaussian, offset_rev odd, neg_mul_neg]

theorem gaussian_middle (inside : size / 2 < size) :
    0 < gaussian exp width ⟨size / 2, inside⟩ ⟨size / 2, inside⟩ := by
  simpa [gaussian] using exp.pos

theorem gaussian_unimodal {y x y' x' : Fin size} (rows : fromMiddle y' ≤ fromMiddle y)
    (cols : fromMiddle x' ≤ fromMiddle x) : gaussian exp width y x ≤ gaussian exp width y' x' := by
  have row := Int.natAbs_le_iff_mul_self_le.mp rows
  have col := Int.natAbs_le_iff_mul_self_le.mp cols
  apply exp.monotone
  have positive : 0 < 2 * width.sigma * width.sigma :=
    mul_pos (mul_pos two_pos width.positive) width.positive
  refine (div_le_div_iff_of_pos_right positive).mpr (neg_le_neg ?_)
  exact_mod_cast add_le_add col row

theorem makeGaussianPsf_odd : (makeGaussianPsf exp size width).size % 2 = 1 := by
  show (if size % 2 = 0 then size + 1 else size) % 2 = 1
  split <;> omega

theorem makeGaussianPsf_total :
    0 < ∑ y : Fin (makeGaussianPsf exp size width).size, ∑ x, gaussian exp width y x := by
  have inside : (makeGaussianPsf exp size width).size / 2 <
      (makeGaussianPsf exp size width).size := by
    have odd := @makeGaussianPsf_odd exp width size
    omega
  have rows : ∀ y : Fin (makeGaussianPsf exp size width).size,
      0 ≤ ∑ x, gaussian exp width y x := fun y => Finset.sum_nonneg fun x _ => exp.nonneg _
  refine Finset.sum_pos' (fun y _ => rows y) ⟨⟨_, inside⟩, Finset.mem_univ _, ?_⟩
  exact Finset.sum_pos' (fun x _ => exp.nonneg _)
    ⟨⟨_, inside⟩, Finset.mem_univ _, gaussian_middle inside⟩

theorem makeGaussianPsf_averages : (makeGaussianPsf exp size width).Averages where
  nonneg _ _ := div_nonneg (exp.nonneg _) makeGaussianPsf_total.le
  sum := by
    show ∑ y, ∑ x, gaussian exp width y x / _ = (1 : ℚ)
    simp only [← Finset.sum_div]
    exact div_self makeGaussianPsf_total.ne'

theorem makeGaussianPsf_symmetric : (makeGaussianPsf exp size width).Symmetric where
  odd := makeGaussianPsf_odd
  vertical i j := congrArg (· / _) (gaussian_rev makeGaussianPsf_odd i j).1
  horizontal i j := congrArg (· / _) (gaussian_rev makeGaussianPsf_odd i j).2

theorem makeGaussianPsf_unimodal : (makeGaussianPsf exp size width).Unimodal :=
  fun _ _ _ _ rows cols => (div_le_div_iff_of_pos_right makeGaussianPsf_total).mpr
    (gaussian_unimodal rows cols)

end Gaussian

theorem flipPsf_symmetric {psf : Psf} (symmetric : psf.Symmetric) : flipPsf psf = psf := by
  obtain ⟨size, weights⟩ := psf
  refine congrArg (Psf.mk size) ?_
  funext i j
  rw [symmetric.vertical i j.rev, symmetric.horizontal i j]

/-! ## Filters -/

/-- The border is the same on both sides. -/
theorem replicate_rev {n : Nat} (i : Fin n) (d : Int) :
    replicate i.rev d = (replicate i (-d)).rev := by
  apply Fin.ext
  simp only [replicate, Fin.val_rev]
  omega

section Filters

variable {psf : Psf} (cv : Filter rows cols)

theorem filter_constant (averages : psf.Averages) (c : ℚ) :
    cv.filter2D (fun _ _ => c) psf = fun _ _ => c := by
  funext y x
  rw [cv.correlates]
  simp only [← Finset.sum_mul, averages.sum, one_mul]

/-- A filter commutes with a mirror that exchanges top and bottom, or left and right. -/
theorem filter_flipped (symmetric : psf.Symmetric) (image : Image rows cols) :
    cv.filter2D (fun y x => image y.rev x) psf = fun y x => cv.filter2D image psf y.rev x := by
  funext y x
  rw [cv.correlates, cv.correlates, ← Equiv.sum_comp Fin.revPerm]
  refine Finset.sum_congr rfl fun i _ => Finset.sum_congr rfl fun j _ => ?_
  rw [Fin.revPerm_apply, symmetric.vertical, replicate_rev, offset_rev symmetric.odd]

theorem filter_mirrored (symmetric : psf.Symmetric) (image : Image rows cols) :
    cv.filter2D (fun y x => image y x.rev) psf = fun y x => cv.filter2D image psf y x.rev := by
  funext y x
  rw [cv.correlates, cv.correlates]
  refine Finset.sum_congr rfl fun i _ => ?_
  rw [← Equiv.sum_comp Fin.revPerm]
  refine Finset.sum_congr rfl fun j _ => ?_
  rw [Fin.revPerm_apply, symmetric.horizontal, replicate_rev, offset_rev symmetric.odd]

end Filters

/-! ## The iteration -/

section Iteration

variable {psf : Psf} (cv : Filter rows cols)

/-- Whatever commutes with the filter commutes with a correction. -/
theorem correctEstimate_moved {f : Fin rows → Fin rows} {g : Fin cols → Fin cols}
    (moved : ∀ image, cv.filter2D (fun y x => image (f y) (g x)) psf =
      fun y x => cv.filter2D image psf (f y) (g x)) (image estimate : Image rows cols) :
    correctEstimate cv psf psf (fun y x => image (f y) (g x)) (fun y x => estimate (f y) (g x)) =
      fun y x => correctEstimate cv psf psf image estimate (f y) (g x) := by
  have blurred : atLeast eps (cv.filter2D (fun y x => estimate (f y) (g x)) psf) =
      fun y x => atLeast eps (cv.filter2D estimate psf) (f y) (g x) := by
    rw [moved]
    rfl
  have correction := moved fun y x => image y x / atLeast eps (cv.filter2D estimate psf) y x
  simp only [correctEstimate, blurred, correction]
  rfl

theorem deconvolution_moved {f : Fin rows → Fin rows} {g : Fin cols → Fin cols}
    (symmetric : psf.Symmetric)
    (moved : ∀ image, cv.filter2D (fun y x => image (f y) (g x)) psf =
      fun y x => cv.filter2D image psf (f y) (g x)) (input : Image rows cols) (iterations : Nat) :
    lucyRichardsonDeconvolution cv (fun y x => input (f y) (g x)) psf iterations =
      fun y x => lucyRichardsonDeconvolution cv input psf iterations (f y) (g x) := by
  simp only [lucyRichardsonDeconvolution, flipPsf_symmetric symmetric]
  induction iterations with
  | zero => rfl
  | succ iterations ih =>
    rw [Function.iterate_succ_apply', Function.iterate_succ_apply', ih]
    exact correctEstimate_moved cv moved (atLeast eps input) _

theorem le_atLeast (bound : ℚ) (image : Image rows cols) (y : Fin rows) (x : Fin cols) :
    bound ≤ atLeast bound image y x := le_max_right _ _

theorem atLeast_eq {bound : ℚ} {image : Image rows cols} (large : ∀ y x, bound ≤ image y x) :
    atLeast bound image = image := by
  funext y x
  exact max_eq_left (large y x)

/-- No estimate falls below `eps`. -/
theorem eps_le_deconvolution (input : Image rows cols) (iterations : Nat) (y : Fin rows)
    (x : Fin cols) : eps ≤ lucyRichardsonDeconvolution cv input psf iterations y x := by
  cases iterations with
  | zero => exact le_atLeast _ _ _ _
  | succ iterations =>
    rw [lucyRichardsonDeconvolution, Function.iterate_succ_apply']
    exact le_atLeast _ _ _ _

/-- An estimate that explains the image is not corrected. -/
theorem correctEstimate_explained (averages : psf.Averages) {image estimate : Image rows cols}
    (bright : ∀ y x, eps ≤ image y x) (positive : ∀ y x, eps ≤ estimate y x)
    (explains : cv.filter2D estimate psf = image) :
    correctEstimate cv psf psf image estimate = estimate := by
  have ratio : (fun y x => image y x / image y x : Image rows cols) = fun _ _ => 1 := by
    funext y x
    exact div_self (lt_of_lt_of_le (by norm_num [eps]) (bright y x)).ne'
  simp only [correctEstimate, explains, atLeast_eq bright, ratio, filter_constant cv averages,
    mul_one]
  exact atLeast_eq positive

theorem deconvolution_explained (averages : psf.Averages) (symmetric : psf.Symmetric)
    {input : Image rows cols} {n : Nat}
    (explains : cv.filter2D (lucyRichardsonDeconvolution cv input psf n) psf = atLeast eps input)
    {m : Nat} (later : n ≤ m) :
    lucyRichardsonDeconvolution cv input psf m = lucyRichardsonDeconvolution cv input psf n := by
  have fixed := correctEstimate_explained cv averages (le_atLeast eps input)
    (eps_le_deconvolution cv input n) explains
  induction m, later using Nat.le_induction with
  | base => rfl
  | succ m later ih =>
    have next : lucyRichardsonDeconvolution cv input psf (m + 1) =
        correctEstimate cv psf (flipPsf psf) (atLeast eps input)
          (lucyRichardsonDeconvolution cv input psf m) := Function.iterate_succ_apply' _ _ _
    rw [next, ih, flipPsf_symmetric symmetric, fixed]

end Iteration

/-- The exponential function, to 60 binary places. -/
noncomputable def roundedExp : Exponential where
  exp x := ⌊Real.exp x * 2 ^ 60⌋ / 2 ^ 60
  -- no digit of a positive number is negative, and more is not cut down to less
  nonneg x := by
    have digits : 0 ≤ ⌊Real.exp x * 2 ^ 60⌋ := Int.floor_nonneg.mpr (by positivity)
    positivity
  pos := by
    have one : ⌊Real.exp ((0 : ℚ) : ℝ) * 2 ^ 60⌋ = 2 ^ 60 := by
      rw [Rat.cast_zero, Real.exp_zero, one_mul]
      exact_mod_cast Int.floor_natCast (2 ^ 60)
    rw [one]
    norm_num
  monotone a b le := by
    have grown : Real.exp a ≤ Real.exp b := Real.exp_le_exp.mpr (Rat.cast_le.mpr le)
    have digits : ⌊Real.exp a * 2 ^ 60⌋ ≤ ⌊Real.exp b * 2 ^ 60⌋ :=
      Int.floor_le_floor (mul_le_mul_of_nonneg_right grown (by positivity))
    exact div_le_div_of_nonneg_right (Int.cast_le.mpr digits) (by positivity)

/-- With the kernel of the source, whatever its size and width: the deconvolution of a mirrored
    image is the mirrored deconvolution, no estimate that explains the image is changed any more,
    and an image without any contrast stays as it is. -/
theorem deconvolution_unbiased (cv : Filter rows cols) (exp : Exponential) (size : Nat)
    (width : Width) (input : Image rows cols) (iterations : Nat) :
    let psf := makeGaussianPsf exp size width
    let deconvolution := lucyRichardsonDeconvolution cv input psf
    (lucyRichardsonDeconvolution cv (fun y x => input y.rev x) psf iterations =
      fun y x => deconvolution iterations y.rev x) ∧
    (lucyRichardsonDeconvolution cv (fun y x => input y x.rev) psf iterations =
      fun y x => deconvolution iterations y x.rev) ∧
    (cv.filter2D (deconvolution iterations) psf = atLeast eps input →
      ∀ later, iterations ≤ later → deconvolution later = deconvolution iterations) ∧
    ∀ c, eps ≤ c → (input = fun _ _ => c) → deconvolution iterations = input := by
  intro psf deconvolution
  have averages : psf.Averages := makeGaussianPsf_averages
  have symmetric : psf.Symmetric := makeGaussianPsf_symmetric
  refine ⟨?_, ?_, fun explains later passed => ?_, fun c bright flat => ?_⟩
  · exact deconvolution_moved (g := fun x => x) cv symmetric (filter_flipped cv symmetric) input
      iterations
  · exact deconvolution_moved (f := fun y => y) cv symmetric (filter_mirrored cv symmetric) input
      iterations
  · exact deconvolution_explained cv averages symmetric explains passed
  · have first : deconvolution 0 = input := by
      subst flat
      exact atLeast_eq fun _ _ => bright
    have explains : cv.filter2D (deconvolution 0) psf = atLeast eps input := by
      rw [first]
      subst flat
      rw [filter_constant cv averages, atLeast_eq fun _ _ => bright]
    rw [← first]
    exact deconvolution_explained cv averages symmetric explains (Nat.zero_le _)

/-- Images of two pixels: one with its mirror image, a dark and a grey one. -/
theorem deconvolution_unbiased_pixels :
    let psf := makeGaussianPsf roundedExp 2 ⟨1, one_pos⟩
    let deconvolution input := lucyRichardsonDeconvolution (directFilter 1 2) input psf
    (deconvolution (fun _ x => x.rev) 3 = fun y x => deconvolution (fun _ x => x) 3 y x.rev) ∧
    deconvolution (fun _ _ => 0) 5 = deconvolution (fun _ _ => 0) 0 ∧
    deconvolution (fun _ _ => 7) 3 = fun _ _ => 7 := by
  intro psf deconvolution
  have unbiased := deconvolution_unbiased (directFilter 1 2) roundedExp 2 ⟨1, one_pos⟩
  -- the dark image is raised to `eps`, which the kernel averages to itself
  have dark : deconvolution (fun _ _ => 0) 0 = fun _ _ => eps := by
    funext y x
    exact max_eq_right (by norm_num [eps])
  have explains : (directFilter 1 2).filter2D (deconvolution (fun _ _ => 0) 0) psf =
      deconvolution (fun _ _ => 0) 0 := by
    rw [dark]
    exact filter_constant _ makeGaussianPsf_averages eps
  exact ⟨(unbiased (fun _ x => x) 3).2.1, (unbiased (fun _ _ => 0) 0).2.2.1 explains 5 (by decide),
    (unbiased (fun _ _ => 7) 3).2.2.2 7 (by norm_num [eps]) rfl⟩

/-! ## Growth -/

/-- Where a kernel reaches from a position, it reaches back from there. -/
theorem replicate_back {n size : Nat} (odd : size % 2 = 1) (y : Fin n) (i : Fin size) :
    ∃ i' : Fin size, fromMiddle i' ≤ fromMiddle i ∧
      replicate (replicate y (i - (size / 2 : Nat))) (i' - (size / 2 : Nat)) = y := by
  have inside := y.isLt
  have reach := i.isLt
  -- the way back is as long, or shorter where the border was in the way
  refine ⟨⟨((size / 2 : Nat) + (y - (replicate y (i - (size / 2 : Nat)) : Nat)) : Int).toNat, ?_⟩,
    ?_, Fin.ext ?_⟩
  · simp only [replicate]
    omega
  · simp only [fromMiddle, replicate]
    omega
  · simp only [replicate]
    omega

theorem single_le_sum_sum {m n : Nat} {f : Fin m → Fin n → ℚ} (nonneg : ∀ i j, 0 ≤ f i j)
    (i : Fin m) (j : Fin n) : f i j ≤ ∑ i, ∑ j, f i j :=
  calc f i j ≤ ∑ j, f i j := Finset.single_le_sum (fun j _ => nonneg i j) (Finset.mem_univ j)
    _ ≤ ∑ i, ∑ j, f i j := Finset.single_le_sum (f := fun i => ∑ j, f i j)
        (fun i _ => Finset.sum_nonneg fun j _ => nonneg i j) (Finset.mem_univ i)

section Growth

variable {psf : Psf} (cv : Filter rows cols) {estimate : Image rows cols}

/-- A filter spreads a pixel at least as far as it collects others there. -/
theorem weight_mul_le_filter (averages : psf.Averages) (symmetric : psf.Symmetric)
    (unimodal : psf.Unimodal) (nonneg : ∀ y x, 0 ≤ estimate y x) (y : Fin rows) (x : Fin cols)
    (i j : Fin psf.size) :
    psf.weights i j * estimate y x ≤ cv.filter2D estimate psf
      (replicate y (i - (psf.size / 2 : Nat))) (replicate x (j - (psf.size / 2 : Nat))) := by
  obtain ⟨i', nearer, back⟩ := replicate_back symmetric.odd y i
  obtain ⟨j', nearer', back'⟩ := replicate_back symmetric.odd x j
  have term : ∀ k l, 0 ≤ psf.weights k l * estimate
      (replicate (replicate y (i - (psf.size / 2 : Nat))) (k - (psf.size / 2 : Nat)))
      (replicate (replicate x (j - (psf.size / 2 : Nat))) (l - (psf.size / 2 : Nat))) :=
    fun k l => mul_nonneg (averages.nonneg k l) (nonneg _ _)
  have heavier : psf.weights i j * estimate y x ≤ psf.weights i' j' * estimate y x :=
    mul_le_mul_of_nonneg_right (unimodal i j i' j' nearer nearer') (nonneg y x)
  have summand := single_le_sum_sum term i' j'
  rw [back, back'] at summand
  rw [cv.correlates]
  exact heavier.trans summand

/-- Each weight of the correction takes at most one pixel of the image. -/
theorem estimate_mul_share_le (averages : psf.Averages) (symmetric : psf.Symmetric)
    (unimodal : psf.Unimodal) {image : Image rows cols} (dark : ∀ y x, 0 ≤ image y x)
    (nonneg : ∀ y x, 0 ≤ estimate y x) (y : Fin rows) (x : Fin cols) (i j : Fin psf.size) :
    let y' := replicate y (i - (psf.size / 2 : Nat))
    let x' := replicate x (j - (psf.size / 2 : Nat))
    estimate y x * (psf.weights i j * (image y' x' /
      atLeast eps (cv.filter2D estimate psf) y' x')) ≤ image y' x' := by
  intro y' x'
  let blurred := atLeast eps (cv.filter2D estimate psf) y' x'
  have positive : 0 < blurred := lt_of_lt_of_le (by norm_num [eps]) (le_atLeast eps _ y' x')
  have spread : psf.weights i j * estimate y x ≤ blurred :=
    (weight_mul_le_filter cv averages symmetric unimodal nonneg y x i j).trans (le_max_left _ _)
  calc estimate y x * (psf.weights i j * (image y' x' / blurred))
      = psf.weights i j * estimate y x * (image y' x' / blurred) := by
        rw [mul_left_comm, mul_assoc]
    _ ≤ blurred * (image y' x' / blurred) :=
        mul_le_mul_of_nonneg_right spread (div_nonneg (dark y' x') positive.le)
    _ = image y' x' := mul_div_cancel₀ _ positive.ne'

theorem correctEstimate_le (averages : psf.Averages) (symmetric : psf.Symmetric)
    (unimodal : psf.Unimodal) {image : Image rows cols} {bound : ℚ}
    (visible : eps ≤ psf.size * psf.size * bound) (dark : ∀ y x, 0 ≤ image y x)
    (bright : ∀ y x, image y x ≤ bound) (nonneg : ∀ y x, 0 ≤ estimate y x) (y : Fin rows)
    (x : Fin cols) :
    correctEstimate cv psf psf image estimate y x ≤ psf.size * psf.size * bound := by
  refine max_le ?_ visible
  simp only [cv.correlates _ psf y x, Finset.mul_sum]
  calc _ ≤ ∑ _i : Fin psf.size, ∑ _j : Fin psf.size, bound :=
        Finset.sum_le_sum fun i _ => Finset.sum_le_sum fun j _ =>
          (estimate_mul_share_le cv averages symmetric unimodal dark nonneg y x i j).trans
            (bright _ _)
    _ = psf.size * psf.size * bound := by simp [mul_assoc]

theorem deconvolution_le (averages : psf.Averages) (symmetric : psf.Symmetric)
    (unimodal : psf.Unimodal) {input : Image rows cols} {bound : ℚ} (visible : eps ≤ bound)
    (bright : ∀ y x, input y x ≤ bound) (iterations : Nat) (y : Fin rows) (x : Fin cols) :
    lucyRichardsonDeconvolution cv input psf iterations y x ≤ psf.size * psf.size * bound := by
  have positive : 0 < eps := by norm_num [eps]
  have weights : 1 ≤ (psf.size * psf.size : ℚ) := by
    have odd := symmetric.odd
    have nonempty : 1 ≤ psf.size := by omega
    exact_mod_cast Nat.mul_le_mul nonempty nonempty
  have room : bound ≤ psf.size * psf.size * bound :=
    le_mul_of_one_le_left (positive.le.trans visible) weights
  have image : ∀ y x, atLeast eps input y x ≤ bound := fun y x => max_le (bright y x) visible
  cases iterations with
  | zero => exact (image y x).trans room
  | succ iterations =>
    rw [lucyRichardsonDeconvolution, flipPsf_symmetric symmetric, Function.iterate_succ_apply']
    refine correctEstimate_le cv averages symmetric unimodal (visible.trans room)
      (fun y x => positive.le.trans (le_atLeast eps input y x)) image (fun y x => ?_) y x
    have estimate : eps ≤ lucyRichardsonDeconvolution cv input psf iterations y x :=
      eps_le_deconvolution cv input iterations y x
    rw [lucyRichardsonDeconvolution, flipPsf_symmetric symmetric] at estimate
    exact positive.le.trans estimate

end Growth

/-- From an image that is nowhere brighter than `bound`, and however long it goes on: no pixel
    falls below `eps` or grows beyond `bound` times the number of weights. -/
theorem deconvolution_bounded (cv : Filter rows cols) (exp : Exponential) (size : Nat)
    (width : Width) (input : Image rows cols) (bound : ℚ) (visible : eps ≤ bound)
    (bright : ∀ y x, input y x ≤ bound) (iterations : Nat) (y : Fin rows) (x : Fin cols) :
    let psf := makeGaussianPsf exp size width
    eps ≤ lucyRichardsonDeconvolution cv input psf iterations y x ∧
      lucyRichardsonDeconvolution cv input psf iterations y x ≤ psf.size * psf.size * bound :=
  ⟨eps_le_deconvolution cv input iterations y x, deconvolution_le cv makeGaussianPsf_averages
    makeGaussianPsf_symmetric makeGaussianPsf_unimodal visible bright iterations y x⟩

/-- Five iterations on two pixels. -/
theorem deconvolution_bounded_pixels :
    let psf := makeGaussianPsf roundedExp 2 ⟨1, one_pos⟩
    let estimate := lucyRichardsonDeconvolution (directFilter 1 2) (fun _ x => x) psf 5
    eps ≤ estimate 0 1 ∧ estimate 0 1 ≤ psf.size * psf.size * 1 :=
  deconvolution_bounded (directFilter 1 2) roundedExp 2 ⟨1, one_pos⟩ (fun _ x => x) 1
    (by norm_num [eps]) (by decide) 5 0 1

end PictureReconstruct.Reconstruct
