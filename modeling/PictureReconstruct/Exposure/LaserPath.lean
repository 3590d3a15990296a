import Mathlib.Data.List.Chain
import PictureReconstruct.Exposure.SnakePath

/-! # The laser is off between the regions

* `snakePoints_chain`: on the path of a region the stage moves by one pixel at a time.
* `LaserPath`: the laser is off wherever it moves further, and on at foreground only.
* `laser_path`: so it is for every image, in a path as long as the boxes and the jumps.
-/

namespace PictureReconstruct.Exposure

/-- The same point, or the next one along a row or down a column. -/
def Adjoining (p q : Nat × Nat) : Prop :=
  (p.2 = q.2 ∧ (p.1 = q.1 ∨ p.1 + 1 = q.1 ∨ q.1 + 1 = p.1)) ∨ (p.1 = q.1 ∧ p.2 + 1 = q.2)

/-- `x` and `y` -/
def MotionPoint.place (point : MotionPoint) : Nat × Nat := (point.x, point.y)

structure LaserPath (binary : Mat) (path : List MotionPoint) : Prop where
  /-- the laser is not on where the stage comes from further away -/
  dark : path.IsChain fun p q => q.laserOn = true → Adjoining p.place q.place
  inside : ∀ point ∈ path, point.y < binary.rows ∧ point.x < binary.cols
  exposes : ∀ point ∈ path, point.laserOn = true →
    ∃ p : binary.Pixel, p.1.val = point.y ∧ p.2.val = point.x ∧ binary.Foreground p

/-! ## One region -/

section Rows

variable {bbox : Rect} {y : Nat}

theorem rowColumns_chain (bbox : Rect) (y : Nat) :
    (rowColumns bbox y).IsChain fun x x' => x + 1 = x' ∨ x' + 1 = x := by
  have ascending : (List.range' bbox.x bbox.width).IsChain fun x x' => x' = x + 1 :=
    List.isChain_range' _ _ 1
  unfold rowColumns
  split
  · exact ascending.imp fun x x' next => .inl next.symm
  · rw [List.isChain_reverse]
    exact ascending.imp fun x x' next => .inr next.symm

/-- A row ends in the column in which the next one begins. -/
theorem rowColumns_turn (below : bbox.y ≤ y) :
    (rowColumns bbox y).getLast? = (rowColumns bbox (y + 1)).head? := by
  have turn : (y - bbox.y) % 2 = 0 ↔ ¬ (y + 1 - bbox.y) % 2 = 0 := by omega
  unfold rowColumns
  by_cases even : (y - bbox.y) % 2 = 0
  · rw [if_pos even, if_neg (turn.mp even), List.head?_reverse]
  · rw [if_neg even, if_pos (by omega), List.getLast?_reverse]

theorem rows_chain (bbox : Rect) (height : Nat) : ∀ y, bbox.y ≤ y →
    ((List.range' y height).flatMap fun y => (rowColumns bbox y).map fun x => (x, y)).IsChain
      Adjoining := by
  induction height with
  | zero => exact fun _ _ => List.isChain_nil
  | succ height ih =>
    intro y below
    rw [List.range'_succ, List.flatMap_cons]
    refine List.IsChain.append ?_ (ih (y + 1) (Nat.le_succ_of_le below)) ?_
    · refine (List.isChain_map _).mpr ((rowColumns_chain bbox y).imp fun x x' next => ?_)
      exact .inl ⟨rfl, .inr next⟩
    · intro p last q first
      cases height with
      | zero => cases first
      | succ height =>
        rw [List.range'_succ, List.flatMap_cons, List.head?_append, List.head?_map,
          ← rowColumns_turn below] at first
        rw [List.getLast?_map, Option.mem_def, Option.map_eq_some_iff] at last
        obtain ⟨x, last, rfl⟩ := last
        rw [last, Option.map_some, Option.some_or, Option.mem_some_iff] at first
        subst first
        exact .inr ⟨rfl, rfl⟩

theorem snakePoints_chain (bbox : Rect) : (snakePoints bbox).IsChain Adjoining :=
  rows_chain bbox bbox.height bbox.y (Nat.le_refl _)

theorem rowColumns_length (bbox : Rect) (y : Nat) : (rowColumns bbox y).length = bbox.width := by
  unfold rowColumns
  split <;> simp

theorem snakePoints_length (bbox : Rect) :
    (snakePoints bbox).length = bbox.width * bbox.height := by
  simp [snakePoints, List.length_flatMap, rowColumns_length, Nat.mul_comm]

end Rows

/-! ## The whole path -/

section Paths

variable {binary : Mat} {path regionPath : List MotionPoint} {region : RegionInfo}

/-- The path of a region: its points one after the other, lit where they are foreground. -/
theorem generateSnakePathForRegion_path (inside : Inside binary region.bbox) :
    ∃ path, generateSnakePathForRegion binary region = some path ∧
      path.map MotionPoint.place = snakePoints region.bbox ∧ LaserPath binary path := by
  let visit (point : Nat × Nat) : MotionPoint :=
    ⟨point.1, point.2, (binary.pixelAt point.2 point.1).any (0 < ·)⟩
  have visited : generateSnakePathForRegion binary region =
      some ((snakePoints region.bbox).map visit) := by
    refine mapM_some fun point member => ?_
    obtain ⟨value, read⟩ := pixelAt_inside inside (mem_snakePoints.mp member)
    simp [visit, read]
  refine ⟨_, visited, by simp [visit, Function.comp_def, MotionPoint.place], ?_, ?_, ?_⟩
  · exact (List.isChain_map visit).mpr ((snakePoints_chain region.bbox).imp fun p q next _ => next)
  · intro point member
    obtain ⟨⟨x, y⟩, visits, rfl⟩ := List.mem_map.mp member
    obtain ⟨⟨-, column⟩, -, row⟩ := mem_snakePoints.mp visits
    exact ⟨row.trans_le inside.2, column.trans_le inside.1⟩
  · intro point member on
    obtain ⟨⟨x, y⟩, visits, rfl⟩ := List.mem_map.mp member
    have shown : lit binary region x y = true := by
      rw [lit, Bool.and_eq_true, decide_eq_true_eq]
      exact ⟨mem_snakePoints.mp visits, on⟩
    obtain ⟨p, row, column, foreground, -⟩ := lit_iff.mp shown
    exact ⟨p, row, column, foreground⟩

theorem LaserPath.append {path' : List MotionPoint} (first : LaserPath binary path)
    (second : LaserPath binary path')
    (joint : ∀ p ∈ path.getLast?, ∀ q ∈ path'.head?, q.laserOn = true →
      Adjoining p.place q.place) : LaserPath binary (path ++ path') where
  dark := first.dark.append second.dark joint
  inside := List.forall_mem_append.mpr ⟨first.inside, second.inside⟩
  exposes := List.forall_mem_append.mpr ⟨first.exposes, second.exposes⟩

/-- The stage comes to a region with the laser off. -/
theorem LaserPath.jumps (first : LaserPath binary path) (second : LaserPath binary regionPath) :
    LaserPath binary (path ++ jumpPoint path regionPath ++ regionPath) := by
  cases path with
  | nil =>
    cases regionPath with
    | nil => exact first
    | cons point points => exact second
  | cons start points =>
    cases regionPath with
    | nil =>
      have stays : jumpPoint (start :: points) [] = [] := rfl
      rw [stays, List.append_nil, List.append_nil]
      exact first
    | cons point later =>
      have jump : LaserPath binary [{ point with laserOn := false }] := by
        refine ⟨List.isChain_singleton _, ?_, ?_⟩
        · rw [List.forall_mem_singleton]
          exact second.inside point List.mem_cons_self
        · rw [List.forall_mem_singleton]
          exact fun on => Bool.noConfusion on
      refine (first.append jump fun p _ q head on => ?_).append second fun p last q head _ => ?_
      · cases head
        cases on
      · -- the jump ends at the point at which the region begins
        cases head
        rw [List.getLast?_append, List.getLast?_singleton, Option.some_or,
          Option.mem_some_iff] at last
        subst last
        exact .inl ⟨rfl, .inl rfl⟩

theorem length_jump (nonempty : regionPath ≠ []) :
    (path ++ jumpPoint path regionPath ++ regionPath).length =
      path.length + regionPath.length + if path = [] then 0 else 1 := by
  obtain ⟨point, later, rfl⟩ := List.exists_cons_of_ne_nil nonempty
  cases path with
  | nil => simp [jumpPoint]
  | cons start points =>
    simp only [jumpPoint, List.length_append, List.length_singleton, if_neg (List.cons_ne_nil _ _)]
    omega

/-- The number of points of a box. -/
def Rect.size (bbox : Rect) : Nat := bbox.width * bbox.height

theorem appendRegion_path (inside : Inside binary region.bbox) (large : 0 < region.bbox.size)
    (safe : LaserPath binary path) :
    ∃ path', appendRegion binary path region = some path' ∧ LaserPath binary path' ∧ path' ≠ [] ∧
      path'.length = path.length + region.bbox.size + if path = [] then 0 else 1 := by
  obtain ⟨regionPath, generated, places, exposes⟩ := generateSnakePathForRegion_path inside
  have length : regionPath.length = region.bbox.size := by
    rw [← List.length_map (f := MotionPoint.place), places, snakePoints_length]
    rfl
  have nonempty : regionPath ≠ [] := List.ne_nil_of_length_pos (length ▸ large)
  refine ⟨path ++ jumpPoint path regionPath ++ regionPath, by simp [appendRegion, generated],
    safe.jumps exposes, ?_, ?_⟩
  · simp [nonempty]
  · rw [length_jump nonempty, length]

theorem appendRegions_path {regions : List RegionInfo}
    (inside : ∀ region ∈ regions, Inside binary region.bbox ∧ 0 < region.bbox.size)
    (safe : LaserPath binary path) (started : path ≠ []) :
    ∃ path', regions.foldlM (appendRegion binary) path = some path' ∧ LaserPath binary path' ∧
      path'.length =
        path.length + (regions.map fun region => region.bbox.size + 1).sum := by
  induction regions generalizing path with
  | nil => exact ⟨path, rfl, safe, rfl⟩
  | cons region regions ih =>
    obtain ⟨⟨first, large⟩, rest⟩ := List.forall_mem_cons.mp inside
    obtain ⟨path', appended, safe', started', length⟩ := appendRegion_path first large safe
    obtain ⟨path'', whole, safe'', length'⟩ := ih rest safe' started'
    refine ⟨path'', by simp [List.foldlM_cons, appended, whole], safe'', ?_⟩
    rw [length', length, if_neg started, List.map_cons, List.sum_cons]
    omega

end Paths

section Results

variable {binary : Mat} {found : ConnectedComponents binary}

/-- The box of a component has a pixel. -/
theorem bbox_size_pos {label : Nat} (kept : Kept found label) :
    0 < (found.stats label).bbox.size := by
  have tight := found.tight label kept.1 kept.2.1
  obtain ⟨p, member, -⟩ := tight.left
  obtain ⟨⟨left, right⟩, top, bottom⟩ := tight.contains p member
  exact Nat.mul_pos (by omega) (by omega)

/-- The number of points of the path: those of the boxes, and one between two of them. -/
def pathLength (found : ConnectedComponents binary) : Nat :=
  ((keptLabels found).map fun label => (found.stats label).bbox.size).sum +
    ((keptLabels found).length - 1)

theorem sum_size (regions : List RegionInfo) :
    (regions.map fun region => region.bbox.size + 1).sum =
      (regions.map fun region => region.bbox.size).sum + regions.length := by
  rw [List.sum_map_add]
  simp

end Results

/-- Where the laser is on there is foreground, and the stage was at that pixel, beside it or above
    it: a jump between two regions exposes nothing. -/
theorem laser_path (binary : Mat) (found : ConnectedComponents binary) :
    ∃ path, fullPath found = some path ∧ LaserPath binary path ∧
      path.length = pathLength found := by
  obtain ⟨ordered, planned, all, -⟩ := planRegionOrder_spec (extractRegions_close found)
  have good : ∀ region ∈ ordered, Inside binary region.bbox ∧ 0 < region.bbox.size := by
    intro region member
    obtain ⟨label, listed, rfl⟩ := List.mem_map.mp (all.mem_iff.mp member)
    have kept := mem_keptLabels.mp listed
    exact ⟨bbox_inside kept, bbox_size_pos kept⟩
  have dark : LaserPath binary [] := ⟨List.isChain_nil, by simp, by simp⟩
  have sizes : (ordered.map fun region => region.bbox.size).sum =
      ((keptLabels found).map fun label => (found.stats label).bbox.size).sum := by
    rw [(all.map _).sum_eq, extractRegions, List.map_map]
    rfl
  have count : ordered.length = (keptLabels found).length := by
    rw [all.length_eq, extractRegions, List.length_map]
  cases ordered with
  | nil => exact ⟨[], by simp [fullPath, planned], dark, by simp [pathLength, ← sizes, ← count]⟩
  | cons region regions =>
    obtain ⟨⟨inside, large⟩, rest⟩ := List.forall_mem_cons.mp good
    obtain ⟨path, appended, safe, started, length⟩ := appendRegion_path inside large dark
    obtain ⟨path', whole, safe', length'⟩ := appendRegions_path rest safe started
    refine ⟨path', by simp [fullPath, planned, List.foldlM_cons, appended, whole], safe', ?_⟩
    rw [pathLength, ← sizes, ← count, length', length, sum_size]
    simp only [List.map_cons, List.sum_cons, List.length_cons, List.length_nil, if_true]
    omega

/-- The box of the L; the speck in it is too small for a region of its own. -/
theorem laser_path_speck : ∃ path, fullPath speckFound = some path ∧
    LaserPath speckInBox path ∧ path.length = 8 * 3 := by
  obtain ⟨path, built, safe, length⟩ := laser_path speckInBox speckFound
  exact ⟨path, built, safe, length.trans (by decide)⟩

end PictureReconstruct.Exposure
