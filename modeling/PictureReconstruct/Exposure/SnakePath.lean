import Mathlib.Data.Fintype.Prod
import Mathlib.Data.List.Nodup
import Mathlib.Logic.Relation
import Mathlib.Tactic.IntervalCases
import PictureReconstruct.Exposure.RegionOrder

/-! # The path of the exposure

`extractRegions`, `generateSnakePathForRegion` and the path of `main` in `opencv_demo.cc`.  What is
assumed of `connectedComponentsWithStats` is in `ConnectedComponents`.

* `snakePoints_nodup`, `mem_snakePoints`: the path of a region visits each point of its box once.
* `fullPath_spec`: how often a point is exposed.
* `exposed_once_iff`: the boxes are what has to be clear of other components.
-/

namespace PictureReconstruct.Exposure

/-- An image of bytes; its sides are of type `int`. -/
structure Mat where
  rows : Nat
  cols : Nat
  data : Fin rows → Fin cols → UInt8
  rows_int : rows < 2 ^ 31
  cols_int : cols < 2 ^ 31

namespace Mat

variable (binary : Mat)

/-- A row and a column. -/
abbrev Pixel : Type := Fin binary.rows × Fin binary.cols

/-- `binary.at<uchar>(y, x)`; `none` outside of the image. -/
def pixelAt (y x : Nat) : Option UInt8 :=
  if inside : y < binary.rows ∧ x < binary.cols then
    some (binary.data ⟨y, inside.1⟩ ⟨x, inside.2⟩)
  else none

def Foreground (p : binary.Pixel) : Prop := 0 < binary.data p.1 p.2

instance : DecidablePred binary.Foreground :=
  fun p => inferInstanceAs (Decidable (0 < binary.data p.1 p.2))

/-- One of the eight neighbours, or the pixel itself. -/
def Adjacent (p q : binary.Pixel) : Prop :=
  binary.Foreground p ∧ binary.Foreground q ∧
    (p.1.val ≤ q.1.val + 1 ∧ q.1.val ≤ p.1.val + 1) ∧
    p.2.val ≤ q.2.val + 1 ∧ q.2.val ≤ p.2.val + 1

instance (p q : binary.Pixel) : Decidable (binary.Adjacent p q) :=
  inferInstanceAs (Decidable (_ ∧ _))

def EightConnected : binary.Pixel → binary.Pixel → Prop := Relation.ReflTransGen binary.Adjacent

end Mat

/-! ## Components -/

def Rect.Contains (bbox : Rect) (y x : Nat) : Prop :=
  (bbox.x ≤ x ∧ x < bbox.x + bbox.width) ∧ bbox.y ≤ y ∧ y < bbox.y + bbox.height

instance (bbox : Rect) (y x : Nat) : Decidable (bbox.Contains y x) :=
  inferInstanceAs (Decidable (_ ∧ _))

/-- The box contains the pixels, and each of its sides has one. -/
structure Tight {binary : Mat} (bbox : Rect) (pixels : Finset binary.Pixel) : Prop where
  contains : ∀ p ∈ pixels, bbox.Contains p.1 p.2
  left : ∃ p ∈ pixels, p.2.val = bbox.x
  right : ∃ p ∈ pixels, p.2.val + 1 = bbox.x + bbox.width
  top : ∃ p ∈ pixels, p.1.val = bbox.y
  bottom : ∃ p ∈ pixels, p.1.val + 1 = bbox.y + bbox.height

/-- A row of `stats`. -/
structure Stats where
  left : Nat
  top : Nat
  width : Nat
  height : Nat
  area : Nat

def Stats.bbox (stats : Stats) : Rect := ⟨stats.left, stats.top, stats.width, stats.height⟩

/-- The pixels with a label. -/
def labelled {binary : Mat} (labels : binary.Pixel → Nat) (label : Nat) : Finset binary.Pixel :=
  Finset.univ.filter fun p => labels p = label

/-- A result of `connectedComponentsWithStats`: the label 0 is the background, each other one is
    an 8-connected component. -/
structure ConnectedComponents (binary : Mat) where
  numLabels : Nat
  labels : binary.Pixel → Nat
  stats : Nat → Stats
  centroids : Nat → Point2d
  bounded : ∀ p, labels p < numLabels
  background : ∀ p, labels p = 0 ↔ ¬ binary.Foreground p
  components : ∀ p q, binary.Foreground p → binary.Foreground q →
    (labels p = labels q ↔ binary.EightConnected p q)
  area : ∀ label, 0 < label → label < numLabels →
    (stats label).area = (labelled labels label).card
  tight : ∀ label, 0 < label → label < numLabels →
    Tight (stats label).bbox (labelled labels label)
  /-- the mean of the pixels, rounded -/
  centroid : ∀ label, 0 < label → label < numLabels →
    ((stats label).left ≤ (centroids label).x ∧
      (centroids label).x ≤ (stats label).left + (stats label).width) ∧
    (stats label).top ≤ (centroids label).y ∧
      (centroids label).y ≤ (stats label).top + (stats label).height

instance (binary : Mat) : Std.Symm binary.Adjacent where
  symm := by
    rintro p q ⟨first, second, ⟨up, down⟩, left, right⟩
    exact ⟨second, first, ⟨down, up⟩, right, left⟩

/-- Labels that do not change between neighbours, with a tree of neighbours for each label. -/
theorem components_of_trees {binary : Mat} {labels : binary.Pixel → Nat}
    (keeps : ∀ p q, binary.Adjacent p q → labels p = labels q) (root : Nat → binary.Pixel)
    (parent : binary.Pixel → binary.Pixel) (depth : binary.Pixel → Nat)
    (climbs : ∀ p, binary.Foreground p → p = root (labels p) ∨
      binary.Adjacent p (parent p) ∧ depth (parent p) < depth p)
    (p q : binary.Pixel) (first : binary.Foreground p) (second : binary.Foreground q) :
    labels p = labels q ↔ binary.EightConnected p q := by
  have up : ∀ n p, depth p = n → binary.Foreground p →
      binary.EightConnected p (root (labels p)) := by
    intro n
    induction n using Nat.strong_induction_on with
    | _ n ih =>
      rintro p rfl foreground
      obtain top | ⟨adjacent, lower⟩ := climbs p foreground
      · rw [← top]
        exact .refl
      · rw [keeps _ _ adjacent]
        exact .head adjacent (ih _ lower _ rfl adjacent.2.1)
  constructor
  · intro same
    have down := Relation.ReflTransGen.stdSymm.symm _ _ (up _ q rfl second)
    rw [← same] at down
    exact (up _ p rfl first).trans down
  · intro connected
    clear first second
    induction connected with
    | refl => rfl
    | tail _ adjacent ih => exact ih.trans (keeps _ _ adjacent)

/-! ## The program -/

structure MotionPoint where
  x : Nat
  y : Nat
  laserOn : Bool
deriving DecidableEq

section Program

variable {binary : Mat} (found : ConnectedComponents binary)

/-- The loops of `extractRegions` that collect the pixels of a region. -/
def pixelsOf (label : Nat) : List (Nat × Nat) :=
  (List.finRange binary.rows).flatMap fun y =>
    ((List.finRange binary.cols).filter fun x => found.labels (y, x) = label).map fun x =>
      (x.val, y.val)

def regionOf (label : Nat) : RegionInfo where
  label
  bbox := (found.stats label).bbox
  centroid := found.centroids label
  pixels := pixelsOf found label

/-- The labels that are not skipped. -/
def keptLabels : List Nat :=
  (List.range' 1 (found.numLabels - 1)).filter fun label => ¬ (found.stats label).area < 10

def extractRegions : List RegionInfo := (keptLabels found).map (regionOf found)

/-- The columns of a row, from the left or from the right. -/
def rowColumns (bbox : Rect) (y : Nat) : List Nat :=
  if (y - bbox.y) % 2 = 0 then List.range' bbox.x bbox.width
  else (List.range' bbox.x bbox.width).reverse

/-- The points of a box in the order of the loops. -/
def snakePoints (bbox : Rect) : List (Nat × Nat) :=
  (List.range' bbox.y bbox.height).flatMap fun y => (rowColumns bbox y).map fun x => (x, y)

/-- Nothing when a pixel outside of the image is read. -/
def generateSnakePathForRegion (binary : Mat) (region : RegionInfo) : Option (List MotionPoint) :=
  (snakePoints region.bbox).mapM fun point => do
    let value ← binary.pixelAt point.2 point.1
    return ⟨point.1, point.2, decide (0 < value)⟩

/-- The point between two regions, with the laser off. -/
def jumpPoint : (fullPath regionPath : List MotionPoint) → List MotionPoint
  | _ :: _, first :: _ => [{ first with laserOn := false }]
  | _, _ => []

/-- The body of the loop of `main`. -/
def appendRegion (binary : Mat) (fullPath : List MotionPoint) (region : RegionInfo) :
    Option (List MotionPoint) := do
  let regionPath ← generateSnakePathForRegion binary region
  return fullPath ++ jumpPoint fullPath regionPath ++ regionPath

def fullPath : Option (List MotionPoint) := do
  let orderedRegions ← planRegionOrder (extractRegions found)
  orderedRegions.foldlM (appendRegion binary) []

/-! ## What it should do -/

/-- A component that is no noise. -/
def Kept (label : Nat) : Prop :=
  0 < label ∧ label < found.numLabels ∧ 10 ≤ (labelled found.labels label).card

instance : DecidablePred (Kept found) := fun _ => inferInstanceAs (Decidable (_ ∧ _))

/-- The laser is on once at every pixel of these components and nowhere else. -/
def ExposedOnce : Prop :=
  ∃ path, fullPath found = some path ∧
    (∀ p, Kept found (found.labels p) → path.count ⟨p.2, p.1, true⟩ = 1) ∧
    ∀ x y, (∀ p : binary.Pixel, p.1.val = y → p.2.val = x → ¬ Kept found (found.labels p)) →
      path.count ⟨x, y, true⟩ = 0

/-- The box of such a component has no foreground of another component in it. -/
def BoxesClear : Prop :=
  ∀ label, Kept found label → ∀ p, binary.Foreground p →
    (found.stats label).bbox.Contains p.1 p.2 → found.labels p = label

end Program

/-! ## The path of a region -/

theorem mem_rowColumns {bbox : Rect} {y x : Nat} :
    x ∈ rowColumns bbox y ↔ bbox.x ≤ x ∧ x < bbox.x + bbox.width := by
  unfold rowColumns
  split <;> simp

theorem rowColumns_nodup (bbox : Rect) (y : Nat) : (rowColumns bbox y).Nodup := by
  unfold rowColumns
  split
  · exact List.nodup_range'
  · exact List.nodup_reverse.mpr List.nodup_range'

theorem mem_snakePoints {bbox : Rect} {x y : Nat} :
    (x, y) ∈ snakePoints bbox ↔ bbox.Contains y x := by
  simp [snakePoints, mem_rowColumns, Rect.Contains, and_comm, and_left_comm, and_assoc]

theorem snakePoints_nodup (bbox : Rect) : (snakePoints bbox).Nodup := by
  refine List.nodup_flatMap.mpr ⟨fun y _ => ?_, ?_⟩
  · refine (rowColumns_nodup bbox y).map ?_
    intro x x' same
    exact congrArg Prod.fst same
  · refine List.Pairwise.imp ?_ (List.nodup_range' (s := bbox.y))
    intro y y' differ point row row'
    obtain ⟨x, -, rfl⟩ := List.mem_map.mp row
    obtain ⟨x', -, same⟩ := List.mem_map.mp row'
    exact differ (congrArg Prod.snd same).symm

theorem mapM_some {α β : Type} {f : α → Option β} {g : α → β} {items : List α}
    (all : ∀ item ∈ items, f item = some (g item)) : items.mapM f = some (items.map g) := by
  induction items with
  | nil => rfl
  | cons item items ih =>
    obtain ⟨first, rest⟩ := List.forall_mem_cons.mp all
    simp [List.mapM_cons, first, ih rest]

section Paths

variable {binary : Mat}

/-- The point is exposed on the path of a region. -/
def lit (binary : Mat) (region : RegionInfo) (x y : Nat) : Bool :=
  region.bbox.Contains y x && (binary.pixelAt y x).any (0 < ·)

/-- The box is in the image. -/
def Inside (binary : Mat) (bbox : Rect) : Prop :=
  bbox.x + bbox.width ≤ binary.cols ∧ bbox.y + bbox.height ≤ binary.rows

theorem pixelAt_inside {bbox : Rect} (inside : Inside binary bbox) {x y : Nat}
    (contained : bbox.Contains y x) : ∃ value, binary.pixelAt y x = some value := by
  obtain ⟨⟨-, column⟩, -, row⟩ := contained
  exact ⟨_, dif_pos ⟨row.trans_le inside.2, column.trans_le inside.1⟩⟩

/-- Each point of the box is visited once, and exposed when it is foreground. -/
theorem generateSnakePathForRegion_spec {region : RegionInfo}
    (inside : Inside binary region.bbox) :
    ∃ path, generateSnakePathForRegion binary region = some path ∧
      ∀ x y, path.count ⟨x, y, true⟩ = if lit binary region x y then 1 else 0 := by
  let visit (point : Nat × Nat) : MotionPoint :=
    ⟨point.1, point.2, (binary.pixelAt point.2 point.1).any (0 < ·)⟩
  have visited : generateSnakePathForRegion binary region =
      some ((snakePoints region.bbox).map visit) := by
    refine mapM_some fun point member => ?_
    obtain ⟨value, read⟩ := pixelAt_inside inside (mem_snakePoints.mp member)
    simp [visit, read]
  refine ⟨_, visited, fun x y => ?_⟩
  have once : ((snakePoints region.bbox).map visit).Nodup := by
    refine (snakePoints_nodup region.bbox).map fun point point' same => ?_
    injection same with column row
    exact Prod.ext column row
  have member : ⟨x, y, true⟩ ∈ (snakePoints region.bbox).map visit ↔
      lit binary region x y = true := by
    rw [List.mem_map, lit, Bool.and_eq_true, decide_eq_true_eq, ← mem_snakePoints]
    constructor
    · rintro ⟨⟨x', y'⟩, visits, same⟩
      injection same with column row on
      subst column row
      exact ⟨visits, on⟩
    · rintro ⟨visits, on⟩
      exact ⟨(x, y), visits, by simp only [visit, on]⟩
  by_cases exposed : lit binary region x y = true
  · rw [if_pos exposed]
    exact List.count_eq_one_of_mem once (member.mpr exposed)
  · rw [if_neg exposed]
    exact List.count_eq_zero_of_not_mem fun visits => exposed (member.mp visits)

/-! ## The whole path -/

theorem jumpPoint_off (path regionPath : List MotionPoint) (x y : Nat) :
    (jumpPoint path regionPath).count ⟨x, y, true⟩ = 0 := by
  cases path with
  | nil => rfl
  | cons point path =>
    cases regionPath with
    | nil => rfl
    | cons first regionPath => simp [jumpPoint]

/-- Between the regions nothing is exposed. -/
theorem appendRegion_spec {region : RegionInfo} (inside : Inside binary region.bbox)
    (path : List MotionPoint) :
    ∃ path', appendRegion binary path region = some path' ∧ ∀ x y,
      path'.count ⟨x, y, true⟩ =
        path.count ⟨x, y, true⟩ + if lit binary region x y then 1 else 0 := by
  obtain ⟨regionPath, generated, exposed⟩ := generateSnakePathForRegion_spec inside
  refine ⟨path ++ jumpPoint path regionPath ++ regionPath, by simp [appendRegion, generated], ?_⟩
  intro x y
  rw [List.count_append, List.count_append, jumpPoint_off, exposed, Nat.add_zero]

/-- A point is exposed as often as the regions expose it. -/
theorem appendRegions_spec (regions : List RegionInfo)
    (inside : ∀ region ∈ regions, Inside binary region.bbox) (path : List MotionPoint) :
    ∃ path', regions.foldlM (appendRegion binary) path = some path' ∧ ∀ x y,
      path'.count ⟨x, y, true⟩ =
        path.count ⟨x, y, true⟩ + regions.countP (fun region => lit binary region x y) := by
  induction regions generalizing path with
  | nil => exact ⟨path, rfl, fun _ _ => rfl⟩
  | cons region regions ih =>
    obtain ⟨first, rest⟩ := List.forall_mem_cons.mp inside
    obtain ⟨path', appended, exposed⟩ := appendRegion_spec first path
    obtain ⟨path'', whole, exposed'⟩ := ih rest path'
    refine ⟨path'', by simp [List.foldlM_cons, appended, whole], fun x y => ?_⟩
    rw [exposed', exposed, List.countP_cons]
    omega

end Paths

section Results

variable {binary : Mat} {found : ConnectedComponents binary}

/-! ## The regions -/

theorem mem_keptLabels {label : Nat} : label ∈ keptLabels found ↔ Kept found label := by
  have area := found.area label
  simp only [keptLabels, List.mem_filter, List.mem_range'_1, Kept, decide_eq_true_eq, not_lt]
  constructor
  · rintro ⟨⟨positive, below⟩, large⟩
    rw [area (by omega) (by omega)] at large
    exact ⟨by omega, by omega, large⟩
  · rintro ⟨positive, below, large⟩
    rw [area positive below]
    exact ⟨⟨by omega, by omega⟩, large⟩

theorem keptLabels_nodup : (keptLabels found).Nodup := (List.nodup_range').filter _

/-- A region carries the pixels of its component. -/
theorem mem_pixelsOf {label x y : Nat} : (x, y) ∈ pixelsOf found label ↔
    ∃ p ∈ labelled found.labels label, p.2.val = x ∧ p.1.val = y := by
  simp [pixelsOf, labelled]

theorem bbox_inside {label : Nat} (kept : Kept found label) :
    Inside binary (found.stats label).bbox := by
  have tight := found.tight label kept.1 kept.2.1
  obtain ⟨p, -, right⟩ := tight.right
  obtain ⟨q, -, bottom⟩ := tight.bottom
  exact ⟨right ▸ p.2.isLt, bottom ▸ q.1.isLt⟩

/-- The centroids are in the image. -/
theorem centroid_bounds {label : Nat} (kept : Kept found label) :
    (0 ≤ (found.centroids label).x ∧ (found.centroids label).x ≤ 2 ^ 31) ∧
      0 ≤ (found.centroids label).y ∧ (found.centroids label).y ≤ 2 ^ 31 := by
  obtain ⟨column, row⟩ := bbox_inside kept
  obtain ⟨⟨left, right⟩, top, bottom⟩ := found.centroid label kept.1 kept.2.1
  have width : ((found.stats label).left + (found.stats label).width : ℚ) ≤ 2 ^ 31 := by
    exact_mod_cast column.trans binary.cols_int.le
  have height : ((found.stats label).top + (found.stats label).height : ℚ) ≤ 2 ^ 31 := by
    exact_mod_cast row.trans binary.rows_int.le
  exact ⟨⟨(Nat.cast_nonneg _).trans left, right.trans width⟩,
    (Nat.cast_nonneg _).trans top, bottom.trans height⟩

theorem extractRegions_close (found : ConnectedComponents binary) :
    Close (extractRegions found) := by
  have bounds : ∀ region ∈ extractRegions found,
      (0 ≤ region.centroid.x ∧ region.centroid.x ≤ 2 ^ 31) ∧
        0 ≤ region.centroid.y ∧ region.centroid.y ≤ 2 ^ 31 := by
    intro region member
    obtain ⟨label, kept, rfl⟩ := List.mem_map.mp member
    exact centroid_bounds (mem_keptLabels.mp kept)
  intro i j _
  obtain ⟨⟨left, right⟩, top, bottom⟩ := bounds _ ((extractRegions found).get_mem i)
  obtain ⟨⟨left', right'⟩, top', bottom'⟩ := bounds _ ((extractRegions found).get_mem j)
  have square : ∀ {a b : ℚ}, 0 ≤ a → a ≤ 2 ^ 31 → 0 ≤ b → b ≤ 2 ^ 31 →
      (a - b) * (a - b) ≤ 2 ^ 31 * 2 ^ 31 := by
    intro a b low high low' high'
    apply abs_le_iff_mul_self_le.mp
    rw [abs_of_pos (by norm_num : (0 : ℚ) < 2 ^ 31), abs_le]
    constructor <;> linarith
  calc squaredDist _ _ ≤ 2 ^ 31 * 2 ^ 31 + 2 ^ 31 * 2 ^ 31 :=
        add_le_add (square left right left' right') (square top bottom top' bottom')
    _ < farSquared := by norm_num [farSquared]

/-- How often a point is exposed: once for each region that exposes it. -/
theorem fullPath_spec (found : ConnectedComponents binary) :
    ∃ path, fullPath found = some path ∧ ∀ x y,
    path.count ⟨x, y, true⟩ =
      (keptLabels found).countP fun label => lit binary (regionOf found label) x y := by
  obtain ⟨ordered, planned, all, -⟩ := planRegionOrder_spec (extractRegions_close found)
  have inside : ∀ region ∈ ordered, Inside binary region.bbox := by
    intro region member
    obtain ⟨label, kept, rfl⟩ := List.mem_map.mp (all.mem_iff.mp member)
    exact bbox_inside (mem_keptLabels.mp kept)
  obtain ⟨path, appended, exposed⟩ := appendRegions_spec ordered inside []
  refine ⟨path, by simp [fullPath, planned, appended], fun x y => ?_⟩
  rw [exposed, List.count_nil, Nat.zero_add, all.countP_eq, extractRegions, List.countP_map]
  rfl

/-! ## When each pixel is exposed once -/

theorem lit_iff {region : RegionInfo} {x y : Nat} : lit binary region x y = true ↔
    ∃ p : binary.Pixel, p.1.val = y ∧ p.2.val = x ∧ binary.Foreground p ∧
      region.bbox.Contains y x := by
  rw [lit, Bool.and_eq_true, decide_eq_true_eq, Mat.pixelAt]
  constructor
  · rintro ⟨contained, on⟩
    split at on
    next inside =>
      exact ⟨(⟨y, inside.1⟩, ⟨x, inside.2⟩), rfl, rfl, of_decide_eq_true on, contained⟩
    next => cases on
  · rintro ⟨p, rfl, rfl, foreground, contained⟩
    rw [dif_pos ⟨p.1.isLt, p.2.isLt⟩]
    exact ⟨contained, decide_eq_true foreground⟩

/-- A pixel of a component is in its box. -/
theorem lit_own {p : binary.Pixel} (kept : Kept found (found.labels p)) :
    lit binary (regionOf found (found.labels p)) p.2 p.1 = true := by
  have foreground : binary.Foreground p := by
    by_contra dark
    exact kept.1.ne' ((found.background p).mpr dark)
  have contained := (found.tight _ kept.1 kept.2.1).contains p (by simp [labelled])
  exact lit_iff.mpr ⟨p, rfl, rfl, foreground, contained⟩

/-- With clear boxes a region exposes its own pixels only. -/
theorem BoxesClear.own (clear : BoxesClear found) {label x y : Nat} (kept : Kept found label)
    (shown : lit binary (regionOf found label) x y = true) :
    ∃ p : binary.Pixel, p.1.val = y ∧ p.2.val = x ∧ found.labels p = label := by
  obtain ⟨p, rfl, rfl, foreground, contained⟩ := lit_iff.mp shown
  exact ⟨p, rfl, rfl, clear label kept p foreground contained⟩

theorem eq_of_countP_eq_one {α : Type} {p : α → Bool} {items : List α}
    (single : items.countP p = 1) {a b : α} (first : a ∈ items) (first' : p a = true)
    (second : b ∈ items) (second' : p b = true) : a = b := by
  rw [List.countP_eq_length_filter, List.length_eq_one_iff] at single
  obtain ⟨only, all⟩ := single
  have same : a ∈ [only] := all ▸ List.mem_filter.mpr ⟨first, first'⟩
  have same' : b ∈ [only] := all ▸ List.mem_filter.mpr ⟨second, second'⟩
  rw [List.mem_singleton.mp same, List.mem_singleton.mp same']

theorem boxesClear_of_exposedOnce (once : ExposedOnce found) : BoxesClear found := by
  obtain ⟨path, built, once, dark⟩ := once
  obtain ⟨path', built', exposed⟩ := fullPath_spec found
  obtain rfl : path' = path := Option.some.inj (built'.symm.trans built)
  intro label kept p foreground contained
  have member := mem_keptLabels.mpr kept
  have shown : lit binary (regionOf found label) p.2 p.1 = true :=
    lit_iff.mpr ⟨p, rfl, rfl, foreground, contained⟩
  by_cases own : Kept found (found.labels p)
  · -- the region of the pixel exposes it already
    have single := exposed p.2 p.1 ▸ once p own
    exact eq_of_countP_eq_one single (mem_keptLabels.mpr own) (lit_own own) member shown
  · have uncovered := exposed p.2 p.1 ▸ dark p.2 p.1 fun q row column => by
      obtain rfl : q = p := Prod.ext (Fin.ext row) (Fin.ext column)
      exact own
    exact absurd shown (List.countP_eq_zero.mp uncovered label member)

theorem exposedOnce_of_boxesClear (clear : BoxesClear found) : ExposedOnce found := by
  obtain ⟨path, built, exposed⟩ := fullPath_spec found
  refine ⟨path, built, fun p kept => ?_, fun x y others => ?_⟩
  · have same : ∀ label ∈ keptLabels found,
        lit binary (regionOf found label) p.2 p.1 = true ↔ (label == found.labels p) = true := by
      intro label member
      rw [beq_iff_eq]
      constructor
      · intro shown
        obtain ⟨q, row, column, own⟩ := clear.own (mem_keptLabels.mp member) shown
        obtain rfl : q = p := Prod.ext (Fin.ext row) (Fin.ext column)
        exact own.symm
      · rintro rfl
        exact lit_own kept
    rw [exposed, List.countP_congr same]
    exact List.count_eq_one_of_mem keptLabels_nodup (mem_keptLabels.mpr kept)
  · rw [exposed, List.countP_eq_zero]
    intro label member shown
    have kept := mem_keptLabels.mp member
    obtain ⟨p, row, column, own⟩ := clear.own kept shown
    exact others p row column (own ▸ kept)

end Results

/-- The path reads the whole image in the boxes, not the pixels of the region: each pixel of the
    components that are kept is exposed once, and nothing else is, exactly if the box of none of
    them has a pixel of another component in it. -/
theorem exposed_once_iff (binary : Mat) (found : ConnectedComponents binary) :
    ExposedOnce found ↔ BoxesClear found :=
  ⟨boxesClear_of_exposedOnce, exposedOnce_of_boxesClear⟩

/-- The first column and the last row are a region in the shape of an L.  The last pixel of the
    first row is a speck in its box. -/
def speckInBox : Mat where
  rows := 3
  cols := 8
  data y x := if x.val = 0 ∨ y.val = 2 ∨ (y.val = 0 ∧ x.val = 7) then 255 else 0
  rows_int := by decide
  cols_int := by decide

def speckLabels (p : speckInBox.Pixel) : Nat :=
  if p.2.val = 0 ∨ p.1.val = 2 then 1 else if p.1.val = 0 ∧ p.2.val = 7 then 2 else 0

/-- The centroid of the L is at 2.8 and 1.7. -/
def speckFound : ConnectedComponents speckInBox where
  numLabels := 3
  labels := speckLabels
  stats label := if label = 1 then ⟨0, 0, 8, 3, 10⟩ else ⟨7, 0, 1, 1, 1⟩
  centroids label := if label = 1 then ⟨28 / 10, 17 / 10⟩ else ⟨7, 0⟩
  bounded := by decide
  background := by decide
  components := components_of_trees (by decide)
    (fun label => if label = 2 then (⟨0, by decide⟩, ⟨7, by decide⟩)
      else (⟨2, by decide⟩, ⟨0, by decide⟩))
    (fun p => if p.1.val = 0 then (⟨1, by decide⟩, p.2)
      else if p.1.val = 1 then (⟨2, by decide⟩, p.2)
      else (p.1, ⟨p.2.val - 1, (Nat.sub_le _ _).trans_lt p.2.isLt⟩))
    (fun p => (2 - p.1.val) + p.2.val) (by decide)
  area := by
    intro label positive below
    interval_cases label <;> decide
  tight := by
    intro label positive below
    interval_cases label <;> exact ⟨by decide, by decide, by decide, by decide, by decide⟩
  centroid := by
    intro label positive below
    interval_cases label <;> norm_num

/-- The speck is exposed. -/
theorem speck_exposed : ¬ ExposedOnce speckFound := by
  rintro ⟨path, built, -, dark⟩
  have exposed : (fullPath speckFound).map (List.count ⟨7, 0, true⟩) = some 1 := by decide
  rw [built, Option.map_some, Option.some.injEq, dark 7 0] at exposed
  · cases exposed
  · decide

end PictureReconstruct.Exposure
