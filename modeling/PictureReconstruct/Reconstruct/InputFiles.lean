import PictureReconstruct.Library.Csv
import PictureReconstruct.Reconstruct.Pipeline

/-! # The files that the reconstruction reads

`io_utils.cpp`: the positions of a scan and the spots as comma separated values, and where the
frames are.  The conversions of floating point numbers are parameters.

* `readRows_eq`: the rows that are not skipped are converted one after the other.
* `readCsv_csvText`: rows that were written are read back.
* `makeFramePath_injective`: no two frames share a file.
-/

namespace PictureReconstruct.Reconstruct

open Library.Text

/-- How a reader ends without a result. -/
inductive ReadError
  /-- `std::runtime_error` -/
  | runtime (what : List Char)
  /-- an exception of a conversion -/
  | conversion
deriving DecidableEq

/-- The numbers are the bits of a `double`. -/
structure StagePos where
  frameId : Int
  x : UInt64
  y : UInt64
deriving DecidableEq

def splitCsvLine (line : List Char) : List (List Char) := getlines ',' line

section Reading

variable {α : Type} (columns : Nat) (convert : List (List Char) → Option α)

/-- The loop over the lines behind the header: empty ones and short ones are skipped. -/
def readRows : List (List Char) → Option (List α)
  | [] => some []
  | line :: lines =>
    if line = [] then readRows lines
    else
      let tokens := splitCsvLine line
      if tokens.length < columns then readRows lines
      else do
        let row ← convert tokens
        let rows ← readRows lines
        return row :: rows

/-- What `readScanPositions` and `readSpots` have in common; `file` is nothing where the file cannot
    be opened. -/
def readCsv (cannotOpen : List Char) (file : Option (List Char)) : Except ReadError (List α) :=
  match file with
  | none => .error (.runtime cannotOpen)
  | some text =>
    match readRows columns convert (lines text).tail with
    | none => .error .conversion
    | some rows => .ok rows

end Reading

/-- `std::stod` and `std::stof`, nothing where they throw. -/
structure Conversions where
  stod : List Char → Option UInt64
  stof : List Char → Option ℚ

section Readers

variable (conversions : Conversions)

/-- The row of at least three tokens. -/
def stagePos : List (List Char) → Option StagePos
  | frameId :: x :: y :: _ => do
    let frameId ← stoi frameId
    let x ← conversions.stod x
    let y ← conversions.stod y
    return { frameId, x, y }
  | _ => none

def readScanPositions (path : List Char) (file : Option (List Char)) :
    Except ReadError (List StagePos) :=
  readCsv 3 (stagePos conversions) ("Cannot open scan position file: ".toList ++ path) file

/-- The row of at least seven tokens; a gain of nearly nothing is taken as 1. -/
def spotInfo : List (List Char) → Option SpotInfo
  | id :: cameraX :: cameraY :: offsetX :: offsetY :: radius :: gain :: _ => do
    let id ← stoi id
    let cameraX ← conversions.stof cameraX
    let cameraY ← conversions.stof cameraY
    let offsetX ← conversions.stof offsetX
    let offsetY ← conversions.stof offsetY
    let radius ← conversions.stof radius
    let gain ← conversions.stof gain
    return { id, cameraCenter := (cameraX, cameraY), sampleOffset := (offsetX, offsetY), radius,
             gain := if gain ≤ 1e-6 then 1 else gain }
  | _ => none

def readSpots (path : List Char) (file : Option (List Char)) : Except ReadError (List SpotInfo) :=
  readCsv 7 (spotInfo conversions) ("Cannot open spot file: ".toList ++ path) file

end Readers

/-- `operator/` of `std::filesystem::path`, and `os.path.join`, of a relative name. -/
def pathJoin (dir name : List Char) : List Char :=
  if dir = [] ∨ dir.getLast? = some '/' then dir ++ name else dir ++ '/' :: name

/-- `"frame_%05d.tif"` -/
def frameName (frameId : Int) : List Char :=
  "frame_".toList ++ zeroPadded 5 frameId ++ ".tif".toList

def makeFramePath (frameDir : List Char) (frameId : Int) : List Char :=
  pathJoin frameDir (frameName frameId)

/-! ## Rows -/

section Rows

variable {α : Type} {columns : Nat} {convert : List (List Char) → Option α}

theorem readRows_eq (lines : List (List Char)) : readRows columns convert lines =
    ((lines.filter fun line => line ≠ [] ∧ columns ≤ (splitCsvLine line).length).map
      splitCsvLine).mapM convert := by
  induction lines with
  | nil => rfl
  | cons line lines ih =>
    rw [readRows, ih]
    by_cases empty : line = []
    · simp [empty]
    · by_cases short : (splitCsvLine line).length < columns
      · rw [if_neg empty, if_pos short, List.filter_cons_of_neg (by simp [short])]
      · rw [if_neg empty, if_neg short, List.filter_cons_of_pos (by simp [empty]; omega),
          List.map_cons, List.mapM_cons]

/-- Rows each of which is converted. -/
theorem mapM_rows {β : Type} {items : List β} {row : β → List (List Char)} {value : β → α}
    (converts : ∀ item ∈ items, convert (row item) = some (value item)) :
    (items.map row).mapM convert = some (items.map value) := by
  induction items with
  | nil => rfl
  | cons item items ih =>
    obtain ⟨here, later⟩ := List.forall_mem_cons.mp converts
    simp [List.mapM_cons, here, ih later]

/-- A field that stands for itself. -/
def Plain (field : List Char) : Prop := field ≠ [] ∧ ',' ∉ field ∧ '\n' ∉ field

/-- A file of comma separated values. -/
def csvText (header : List Char) (rows : List (List (List Char))) : List Char :=
  unlines (header :: rows.map (joined ','))

theorem lines_unlines {rows : List (List Char)} (unbroken : ∀ row ∈ rows, '\n' ∉ row) :
    lines (unlines rows) = rows := by
  induction rows with
  | nil => rfl
  | cons row rows ih =>
    obtain ⟨here, later⟩ := List.forall_mem_cons.mp unbroken
    have shape : unlines (row :: rows) = row ++ '\n' :: unlines rows := by simp [unlines]
    rw [shape, lines_line here, ih later]

theorem joined_unbroken {row : List (List Char)} (plain : ∀ field ∈ row, Plain field) :
    '\n' ∉ joined ',' row := by
  intro member
  obtain same | ⟨field, listed, inside⟩ := mem_joined member
  · exact absurd same (by decide)
  · exact (plain field listed).2.2 inside

theorem readCsv_csvText {header cannotOpen : List Char} {rows : List (List (List Char))}
    (broken : '\n' ∉ header) (positive : 0 < columns) (wide : ∀ row ∈ rows, columns ≤ row.length)
    (plain : ∀ row ∈ rows, ∀ field ∈ row, Plain field) {values : List α}
    (converted : rows.mapM convert = some values) :
    readCsv columns convert cannotOpen (some (csvText header rows)) = .ok values := by
  have unbroken : ∀ row ∈ header :: rows.map (joined ','), '\n' ∉ row := by
    refine List.forall_mem_cons.mpr ⟨broken, fun line member => ?_⟩
    obtain ⟨row, listed, rfl⟩ := List.mem_map.mp member
    exact joined_unbroken (plain row listed)
  have nonempty : ∀ row ∈ rows, row ≠ [] := fun row member =>
    List.ne_nil_of_length_pos (positive.trans_le (wide row member))
  have split : ∀ row ∈ rows, splitCsvLine (joined ',' row) = row := fun row member =>
    getlines_joined (nonempty row member) fun field listed =>
      ⟨(plain row member field listed).2.1, (plain row member field listed).1⟩
  have kept : (rows.map (joined ',')).filter
      (fun line => line ≠ [] ∧ columns ≤ (splitCsvLine line).length) = rows.map (joined ',') := by
    rw [List.filter_eq_self]
    intro line member
    obtain ⟨row, listed, rfl⟩ := List.mem_map.mp member
    rw [split row listed]
    exact decide_eq_true ⟨joined_ne_nil (nonempty row listed)
      fun field inside => (plain row listed field inside).1, wide row listed⟩
  have back : (rows.map (joined ',')).map splitCsvLine = rows := by
    rw [List.map_map]
    exact (List.map_congr_left split).trans (List.map_id rows)
  rw [readCsv, csvText, lines_unlines unbroken, List.tail_cons, readRows_eq, kept, back, converted]

end Rows

theorem pathJoin_injective (dir : List Char) : Function.Injective (pathJoin dir) := by
  intro name name' same
  unfold pathJoin at same
  split at same
  · exact List.append_cancel_left same
  · exact (List.cons_eq_cons.mp (List.append_cancel_left same)).2

theorem frameName_injective : Function.Injective frameName := by
  intro frameId frameId' same
  have padded := List.append_cancel_right same
  exact zeroPadded_injective 5 (List.append_cancel_left padded)

/-- No two frames share a file. -/
theorem makeFramePath_injective (frameDir : List Char) :
    Function.Injective (makeFramePath frameDir) :=
  (pathJoin_injective frameDir).comp frameName_injective

end PictureReconstruct.Reconstruct
