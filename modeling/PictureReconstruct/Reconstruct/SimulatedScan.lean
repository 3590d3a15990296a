import PictureReconstruct.Common.Disk
import PictureReconstruct.Reconstruct.InputFiles
import PictureReconstruct.Reconstruct.MockSender

/-! # A simulated scan on its way to the reconstruction

The `main` of `multifocus_reconstruct_harder.cpp` writes the frames and their positions, which the
sender of `mock_sender.py` and `readScanPositions` read.  What an image looks like, the text of a
`double` and the Python library are parameters.

* `simulate_spec`: the files and the rows that the simulator leaves behind.
* `simulated_scan_found`: both readers get the positions as they were, and under each of them the
  image that was taken there.
* `written_spots_read`: `spots.csv` is read with the centre and the radius that were written.
-/

namespace PictureReconstruct.Reconstruct

open Library.Text

/-! ## The simulator -/

/-- The constants of `main`. -/
structure Grid where
  scanStartX : Nat
  scanEndX : Nat
  scanStartY : Nat
  scanEndY : Nat
  scanStep : Nat

/-- Those of the source. -/
def standardGrid : Grid := ⟨220, 460, 220, 460, 2⟩

/-- `for (int s = start; s < stop; s += step)` -/
def scanLine (start stop step : Nat) : List Nat :=
  List.range' start ((stop - start + step - 1) / step) step

/-- The positions of the stage in the order of the loops. -/
def Grid.stages (grid : Grid) : List (Nat × Nat) :=
  (scanLine grid.scanStartY grid.scanEndY grid.scanStep).flatMap fun sy =>
    (scanLine grid.scanStartX grid.scanEndX grid.scanStep).map fun sx => (sx, sy)

/-- What the language does with a `double`. -/
structure Doubles where
  ofInt : Int → UInt64
  /-- `operator<<` -/
  print : UInt64 → List Char

structure Simulation where
  files : Directory
  /-- what was written into `scan_positions.csv` -/
  scanCsv : List Char
  frameId : Nat

def framesDir : List Char := "frames".toList

section Simulator

-- what `simulateFrame` and `imwrite` make of a frame and its position
variable (doubles : Doubles) (image : Nat → Nat × Nat → List UInt8)

/-- The row of a frame. -/
def scanRow (frameId : Nat) (stage : Nat × Nat) : List (List Char) :=
  [decimal frameId, doubles.print (doubles.ofInt stage.1), doubles.print (doubles.ofInt stage.2)]

/-- The body of the loops. -/
def simulateStage (simulation : Simulation) (stage : Nat × Nat) : Simulation where
  files := simulation.files.insert ("frames/".toList ++ frameName simulation.frameId)
    (image simulation.frameId stage)
  scanCsv := simulation.scanCsv ++ joined ',' (scanRow doubles simulation.frameId stage) ++ ['\n']
  frameId := simulation.frameId + 1

def scanHeader : List (List Char) := ["frame_id".toList, "stage_x".toList, "stage_y".toList]

def simulate (grid : Grid) (files : Directory) : Simulation :=
  grid.stages.foldl (simulateStage doubles image)
    { files, scanCsv := joined ',' scanHeader ++ ['\n'], frameId := 0 }

end Simulator

/-! ## The sender -/

/-- The part of the Python library that the sender uses; nothing where it raises an exception. -/
structure Python where
  /-- `csv.reader` -/
  csvReader : List Char → List (List (List Char))
  int : List Char → Option Int
  float : List Char → Option UInt64

section Sender

variable (python : Python)

def senderPosition : List (List Char) → Option StagePos
  | frameId :: x :: y :: _ => do
    let frameId ← python.int frameId
    let x ← python.float x
    let y ← python.float y
    return { frameId, x, y }
  | _ => none

/-- The positions that `send_stream_async` reads. -/
def senderPositions (scanCsv : List Char) : Option (List StagePos) :=
  match python.csvReader scanCsv with
  -- `next(reader)` has nothing to skip
  | [] => none
  | _ :: rows => (rows.filter fun row => 3 ≤ row.length).mapM (senderPosition python)

/-- What `disk_reader_worker` finds. -/
def senderFrames (files : Directory) (frameDir : List Char) (positions : List StagePos) :
    List MockSender.Frame :=
  positions.map fun position =>
    { frameId := position.frameId
      stageX := position.x
      stageY := position.y
      file := files.lookup (pathJoin frameDir (frameName position.frameId)) }

end Sender

/-! ## What the simulator leaves behind -/

section Simulated

variable {doubles : Doubles} {image : Nat → Nat × Nat → List UInt8}

/-- The simulation of some stages, the first of which has the number `simulation.frameId`. -/
theorem simulate_spec (stages : List (Nat × Nat)) (simulation : Simulation) :
    (stages.foldl (simulateStage doubles image) simulation).scanCsv = simulation.scanCsv ++
      unlines (((stages.zipIdx simulation.frameId).map fun each =>
        joined ',' (scanRow doubles each.2 each.1))) ∧
    (∀ name, (∀ frameId, simulation.frameId ≤ frameId → name ≠ makeFramePath framesDir frameId) →
      (stages.foldl (simulateStage doubles image) simulation).files.lookup name =
        simulation.files.lookup name) ∧
    ∀ stage frameId, (stage, frameId) ∈ stages.zipIdx simulation.frameId →
      (stages.foldl (simulateStage doubles image) simulation).files.lookup
        (makeFramePath framesDir frameId) = some (image frameId stage) := by
  induction stages generalizing simulation with
  | nil => simp [unlines]
  | cons stage stages ih =>
    obtain ⟨rows, others, found⟩ := ih (simulateStage doubles image simulation stage)
    simp only [List.foldl_cons, List.zipIdx_cons]
    refine ⟨?_, fun name other => ?_, fun stage' frameId member => ?_⟩
    · rw [rows, List.map_cons]
      simp [simulateStage, unlines]
    · have here : name ≠ makeFramePath framesDir simulation.frameId := other _ (Nat.le_refl _)
      rw [others name fun frameId later => other frameId (Nat.le_of_succ_le later)]
      exact AList.lookup_insert_ne here
    · obtain same | later := List.mem_cons.mp member
      · obtain ⟨rfl, rfl⟩ := Prod.mk.inj same
        -- no later frame is written into the file
        have alone : ∀ frameId, simulation.frameId + 1 ≤ frameId →
            makeFramePath framesDir simulation.frameId ≠ makeFramePath framesDir frameId := by
          intro frameId later same
          have same := Int.ofNat_inj.mp (makeFramePath_injective framesDir same)
          omega
        rw [others _ alone]
        exact AList.lookup_insert _
      · exact found stage' frameId later

/-- The numbers of a loop, one after the other. -/
theorem scanLine_eq {start stop step : Nat} (moves : 0 < step) : scanLine start stop step =
    if start < stop then start :: scanLine (start + step) stop step else [] := by
  unfold scanLine
  split
  · next inside =>
    have count : (stop - start + step - 1) / step =
        (stop - (start + step) + step - 1) / step + 1 := by
      rcases Nat.lt_or_ge stop (start + step) with last | more
      · have once : stop - (start + step) + step - 1 = step - 1 := by omega
        rw [once, Nat.div_eq_of_lt (Nat.sub_one_lt moves.ne')]
        exact Nat.div_eq_of_lt_le (by omega) (by omega)
      · rw [← Nat.add_div_right _ moves]
        congr 1
        omega
    rw [count, List.range'_succ]
  · next outside =>
    have stepless : (stop - start + step - 1) / step = 0 := Nat.div_eq_of_lt (by omega)
    rw [stepless]
    rfl

theorem mem_scanLine {start stop step s : Nat} (moves : 0 < step)
    (member : s ∈ scanLine start stop step) : s < stop := by
  obtain ⟨i, few, rfl⟩ := List.mem_range'.mp member
  have covered : (i + 1) * step ≤ stop - start + step - 1 :=
    (Nat.mul_le_mul_right step few).trans (Nat.div_mul_le_self _ _)
  rw [Nat.succ_mul, Nat.mul_comm] at covered
  omega

end Simulated

/-! ## What the readers find -/

/-- The constants are small enough for what is printed, and there are steps. -/
structure Grid.Fits (grid : Grid) : Prop where
  step : 0 < grid.scanStep
  width : grid.scanEndX ≤ 10 ^ 6
  height : grid.scanEndY ≤ 10 ^ 6
  /-- `frameId` is an `int` -/
  count : grid.stages.length < 2 ^ 31

/-- The positions that the simulator had. -/
def Grid.positions (doubles : Doubles) (grid : Grid) : List StagePos :=
  grid.stages.zipIdx.map fun each =>
    { frameId := each.2
      x := doubles.ofInt each.1.1
      y := doubles.ofInt each.1.2 }

/-- A field that a writer does not put into quotes. -/
def Unquoted (field : List Char) : Prop := Plain field ∧ '"' ∉ field ∧ '\r' ∉ field

/-- What is documented of the text of small integers. -/
structure Conforms (doubles : Doubles) (conversions : Conversions) (python : Python) : Prop where
  /-- six digits are printed -/
  print : ∀ n : Nat, n < 10 ^ 6 → doubles.print (doubles.ofInt n) = decimal n
  stod : ∀ n : Nat, n < 10 ^ 6 → conversions.stod (decimal n) = some (doubles.ofInt n)
  float : ∀ n : Nat, n < 10 ^ 6 → python.float (decimal n) = some (doubles.ofInt n)
  int : ∀ n : Nat, n < 2 ^ 31 → python.int (decimal n) = some n
  csvReader : ∀ rows, (∀ row ∈ rows, row ≠ [] ∧ ∀ field ∈ row, Unquoted field) →
    python.csvReader (unlines (rows.map (joined ','))) = rows

section Found

variable {doubles : Doubles} {image : Nat → Nat × Nat → List UInt8} {conversions : Conversions}
  {python : Python} {grid : Grid}

theorem decimal_unquoted (n : Nat) : Unquoted (decimal n) := by
  have digits : ∀ c : Char, c.isDigit = false → c ∉ decimal n := fun c other member =>
    absurd (isDigit_of_mem_decimal member) (by simp [other])
  exact ⟨⟨decimal_ne_nil n, digits ',' rfl, digits '\n' rfl⟩, digits '"' rfl, digits '\r' rfl⟩

theorem Grid.Fits.mem_stages (fits : grid.Fits) {stage : Nat × Nat}
    (member : stage ∈ grid.stages) : stage.1 < 10 ^ 6 ∧ stage.2 < 10 ^ 6 := by
  obtain ⟨sy, row, inside⟩ := List.mem_flatMap.mp member
  obtain ⟨sx, column, rfl⟩ := List.mem_map.mp inside
  exact ⟨(mem_scanLine fits.step column).trans_le fits.width,
    (mem_scanLine fits.step row).trans_le fits.height⟩

/-- The row of a frame, as it is printed. -/
def printedRow (each : (Nat × Nat) × Nat) : List (List Char) :=
  [decimal each.2, decimal each.1.1, decimal each.1.2]

theorem printedRow_unquoted {each : (Nat × Nat) × Nat} :
    ∀ field ∈ printedRow each, Unquoted field := by
  simp [printedRow, decimal_unquoted]

theorem scanHeader_unquoted : ∀ field ∈ scanHeader, Unquoted field := by
  unfold Unquoted Plain
  decide

theorem simulate_scanCsv (conforms : Conforms doubles conversions python) (fits : grid.Fits)
    (files : Directory) : (simulate doubles image grid files).scanCsv =
      csvText (joined ',' scanHeader) (grid.stages.zipIdx.map printedRow) := by
  have rows : ∀ each ∈ grid.stages.zipIdx,
      joined ',' (scanRow doubles each.2 each.1) = joined ',' (printedRow each) := by
    intro each member
    obtain ⟨x, y⟩ := fits.mem_stages (List.fst_mem_of_mem_zipIdx member)
    rw [scanRow, conforms.print _ x, conforms.print _ y]
    rfl
  rw [simulate, (simulate_spec grid.stages _).1, List.map_congr_left rows, csvText, List.map_map]
  simp [unlines, Function.comp_def]

/-- Both readers convert a row that was written. -/
theorem printedRow_converted (conforms : Conforms doubles conversions python) (fits : grid.Fits)
    {each : (Nat × Nat) × Nat} (member : each ∈ grid.stages.zipIdx) :
    stagePos conversions (printedRow each) =
        some ⟨each.2, doubles.ofInt each.1.1, doubles.ofInt each.1.2⟩ ∧
      senderPosition python (printedRow each) =
        some ⟨each.2, doubles.ofInt each.1.1, doubles.ofInt each.1.2⟩ := by
  obtain ⟨x, y⟩ := fits.mem_stages (List.fst_mem_of_mem_zipIdx member)
  have number : each.2 < 2 ^ 31 := (List.snd_lt_of_mem_zipIdx member).trans fits.count
  constructor
  · simp [printedRow, stagePos, stoi_decimal number, conforms.stod _ x, conforms.stod _ y]
  · simp [printedRow, senderPosition, conforms.int _ number, conforms.float _ x,
      conforms.float _ y]

theorem readScanPositions_simulated (conforms : Conforms doubles conversions python)
    (fits : grid.Fits) (files : Directory) (path : List Char) :
    readScanPositions conversions path (some (simulate doubles image grid files).scanCsv) =
      .ok (grid.positions doubles) := by
  rw [simulate_scanCsv conforms fits, readScanPositions]
  refine readCsv_csvText (by decide) (by decide) ?_ ?_ ?_
  · intro row member
    obtain ⟨each, -, rfl⟩ := List.mem_map.mp member
    exact Nat.le_refl 3
  · intro row member field listed
    obtain ⟨each, -, rfl⟩ := List.mem_map.mp member
    exact (printedRow_unquoted field listed).1
  · exact mapM_rows fun each member => (printedRow_converted conforms fits member).1

theorem senderPositions_simulated (conforms : Conforms doubles conversions python)
    (fits : grid.Fits) (files : Directory) :
    senderPositions python (simulate doubles image grid files).scanCsv =
      some (grid.positions doubles) := by
  have unquoted : ∀ row ∈ scanHeader :: grid.stages.zipIdx.map printedRow,
      row ≠ [] ∧ ∀ field ∈ row, Unquoted field := by
    refine List.forall_mem_cons.mpr ⟨⟨by decide, scanHeader_unquoted⟩, fun row member => ?_⟩
    obtain ⟨each, -, rfl⟩ := List.mem_map.mp member
    exact ⟨List.cons_ne_nil _ _, printedRow_unquoted⟩
  have wide : (grid.stages.zipIdx.map printedRow).filter (fun row => 3 ≤ row.length) =
      grid.stages.zipIdx.map printedRow := by
    rw [List.filter_eq_self]
    intro row member
    obtain ⟨each, -, rfl⟩ := List.mem_map.mp member
    rfl
  have read := conforms.csvReader _ unquoted
  rw [List.map_cons] at read
  rw [simulate_scanCsv conforms fits, csvText, senderPositions, read]
  simp only [wide]
  exact mapM_rows fun each member => (printedRow_converted conforms fits member).2

end Found

/-! ## Small numbers -/

/-- The bits of a small natural number: its exponent, and what is behind the leading bit. -/
def smallBits (n : Int) : UInt64 :=
  if n.toNat = 0 then 0
  else UInt64.ofNat ((n.toNat.log2 + 1023) * 2 ^ 52 +
    (n.toNat - 2 ^ n.toNat.log2) * 2 ^ (52 - n.toNat.log2))

def printSmall (bits : UInt64) : List Char :=
  if bits = 0 then decimal 0
  else
    let exponent := bits.toNat / 2 ^ 52 - 1023
    decimal (2 ^ exponent + bits.toNat % 2 ^ 52 / 2 ^ (52 - exponent))

theorem printSmall_smallBits (n : Nat) (small : n < 10 ^ 6) :
    printSmall (smallBits n) = decimal n := by
  rcases Nat.eq_zero_or_pos n with rfl | positive
  · rfl
  obtain ⟨e, exponent⟩ : ∃ e, n.log2 = e := ⟨_, rfl⟩
  have leading : 2 ^ e ≤ n := exponent ▸ Nat.log2_self_le positive.ne'
  have rest : n - 2 ^ e < 2 ^ e := by
    have below : n < 2 ^ (e + 1) := exponent ▸ Nat.lt_log2_self
    rw [Nat.pow_succ] at below
    omega
  have few : e < 20 := by
    by_contra many
    have := Nat.pow_le_pow_right (by decide : 0 < 2) (Nat.le_of_not_lt many)
    omega
  have room : 2 ^ e * 2 ^ (52 - e) = 2 ^ 52 := by
    rw [← Nat.pow_add]
    congr 1
    omega
  have fraction : (n - 2 ^ e) * 2 ^ (52 - e) < 2 ^ 52 := by
    rw [← room]
    exact Nat.mul_lt_mul_of_pos_right rest (Nat.two_pow_pos _)
  have bits : (smallBits n).toNat = (e + 1023) * 2 ^ 52 + (n - 2 ^ e) * 2 ^ (52 - e) := by
    rw [smallBits, Int.toNat_natCast, if_neg positive.ne', exponent, UInt64.toNat_ofNat']
    exact Nat.mod_eq_of_lt (by omega)
  have nonempty : smallBits n ≠ 0 := by
    intro zero
    rw [zero, UInt64.toNat_zero] at bits
    omega
  have high : (smallBits n).toNat / 2 ^ 52 - 1023 = e := by
    rw [bits, Nat.mul_comm, Nat.mul_add_div (by decide), Nat.div_eq_of_lt fraction]
    omega
  have low : (smallBits n).toNat % 2 ^ 52 = (n - 2 ^ e) * 2 ^ (52 - e) := by
    rw [bits, Nat.mul_comm, Nat.mul_add_mod, Nat.mod_eq_of_lt fraction]
  rw [printSmall, if_neg nonempty]
  simp only [high, low]
  rw [Nat.mul_div_cancel _ (Nat.two_pow_pos _), Nat.add_sub_cancel' leading]

/-- A number without a sign. -/
def readSmall (text : List Char) : Option Int :=
  if IsNumeral text then some (magnitude text : Int) else none

def smallDoubles : Doubles := ⟨smallBits, printSmall⟩

def smallConversions : Conversions where
  stod text := (readSmall text).map smallBits
  stof text := (readSmall text).map Int.cast

/-- The library for numbers without a sign and fields without quotes. -/
def smallPython : Python where
  csvReader text := (lines text).map (getlines ',')
  int := readSmall
  float text := (readSmall text).map smallBits

theorem readSmall_decimal (n : Nat) : readSmall (decimal n) = some (n : Int) := by
  rw [readSmall, if_pos (decimal_isNumeral n), magnitude_decimal]

theorem small_conforms : Conforms smallDoubles smallConversions smallPython where
  print := printSmall_smallBits
  stod n _ := congrArg (Option.map smallBits) (readSmall_decimal n)
  float n _ := congrArg (Option.map smallBits) (readSmall_decimal n)
  int n _ := readSmall_decimal n
  csvReader rows unquoted := by
    have unbroken : ∀ row ∈ rows.map (joined ','), '\n' ∉ row := by
      intro line member
      obtain ⟨row, listed, rfl⟩ := List.mem_map.mp member
      exact joined_unbroken fun field inside => ((unquoted row listed).2 field inside).1
    have split : ∀ row ∈ rows, getlines ',' (joined ',' row) = row := fun row member =>
      getlines_joined (unquoted row member).1 fun field inside =>
        ⟨((unquoted row member).2 field inside).1.2.1, ((unquoted row member).2 field inside).1.1⟩
    simp only [smallPython]
    rw [lines_unlines unbroken, List.map_map]
    exact (List.map_congr_left split).trans (List.map_id rows)

/-! ## The scan -/

/-- Whatever the images look like and whatever was in the directory before: the sender and
    `readScanPositions` read the positions that the simulator had, in their order, and the file of
    each of them is the image that was taken there. -/
theorem simulated_scan_found (doubles : Doubles) (conversions : Conversions) (python : Python)
    (conforms : Conforms doubles conversions python) (image : Nat → Nat × Nat → List UInt8)
    (grid : Grid) (fits : grid.Fits) (files : Directory) (path : List Char) :
    let simulation := simulate doubles image grid files
    readScanPositions conversions path (some simulation.scanCsv) = .ok (grid.positions doubles) ∧
    senderPositions python simulation.scanCsv = some (grid.positions doubles) ∧
    senderFrames simulation.files framesDir (grid.positions doubles) =
      grid.stages.zipIdx.map fun each =>
        { frameId := each.2
          stageX := doubles.ofInt each.1.1
          stageY := doubles.ofInt each.1.2
          file := some (image each.2 each.1) } := by
  refine ⟨readScanPositions_simulated conforms fits files path,
    senderPositions_simulated conforms fits files, ?_⟩
  obtain ⟨-, -, found⟩ := @simulate_spec doubles image grid.stages
    { files, scanCsv := joined ',' scanHeader ++ ['\n'], frameId := 0 }
  rw [senderFrames, Grid.positions, List.map_map]
  refine List.map_congr_left fun each member => ?_
  exact congrArg (MockSender.Frame.mk _ _ _) (found each.1 each.2 member)

theorem standardGrid_fits : standardGrid.Fits where
  step := by decide
  width := by decide
  height := by decide
  count := by simp [Grid.stages, standardGrid, scanLine]

/-- The scan of the source. -/
theorem simulated_scan_found_standard :
    let simulation := simulate smallDoubles (fun frameId _ => [UInt8.ofNat frameId]) standardGrid ∅
    readScanPositions smallConversions "scan_positions.csv".toList (some simulation.scanCsv) =
      .ok (standardGrid.positions smallDoubles) ∧
    senderPositions smallPython simulation.scanCsv = some (standardGrid.positions smallDoubles) ∧
    senderFrames simulation.files framesDir (standardGrid.positions smallDoubles) =
      standardGrid.stages.zipIdx.map fun each =>
        { frameId := each.2
          stageX := smallDoubles.ofInt each.1.1
          stageY := smallDoubles.ofInt each.1.2
          file := some [UInt8.ofNat each.2] } :=
  simulated_scan_found _ _ _ small_conforms (fun frameId _ => [UInt8.ofNat frameId])
    standardGrid standardGrid_fits ∅ "scan_positions.csv".toList

/-! ## The spots -/

/-- What the language does with a `float`. -/
structure Floats where
  /-- `operator<<` -/
  print : ℚ → List Char
  /-- the number that the text stands for -/
  rounded : ℚ → ℚ

def spotRow (floats : Floats) (spot : SpotInfo) : List (List Char) :=
  [signed spot.id, floats.print spot.cameraCenter.1, floats.print spot.cameraCenter.2,
    floats.print spot.sampleOffset.1, floats.print spot.sampleOffset.2, floats.print spot.radius,
    floats.print spot.gain]

def spotHeader : List (List Char) :=
  ["spot_id".toList, "camera_x".toList, "camera_y".toList, "sample_offset_x".toList,
    "sample_offset_y".toList, "radius".toList, "gain".toList]

/-- What the simulator writes into `spots.csv`. -/
def spotsCsv (floats : Floats) (spots : List SpotInfo) : List Char :=
  csvText (joined ',' spotHeader) (spots.map (spotRow floats))

/-- The numbers of a spot. -/
def SpotInfo.numbers (spot : SpotInfo) : List ℚ :=
  [spot.cameraCenter.1, spot.cameraCenter.2, spot.sampleOffset.1, spot.sampleOffset.2, spot.radius,
    spot.gain]

/-- A spot of which only the digits that are printed are left. -/
def SpotInfo.readBack (rounded : ℚ → ℚ) (spot : SpotInfo) : SpotInfo where
  id := spot.id
  cameraCenter := (rounded spot.cameraCenter.1, rounded spot.cameraCenter.2)
  sampleOffset := (rounded spot.sampleOffset.1, rounded spot.sampleOffset.2)
  radius := rounded spot.radius
  gain := if rounded spot.gain ≤ 1e-6 then 1 else rounded spot.gain

theorem signed_plain (n : Int) : Plain (signed n) := by
  obtain ⟨plain, -⟩ := decimal_unquoted n.natAbs
  by_cases negative : n < 0
  · rw [signed_of_neg negative]
    exact ⟨List.cons_ne_nil _ _, by simp [plain.2.1], by simp [plain.2.2]⟩
  · rw [signed_of_nonneg (Int.not_lt.mp negative)]
    exact plain

/-- The spots that the simulator writes are read back, up to the digits that are not printed and a
    gain of nearly nothing. -/
theorem written_spots_read (conversions : Conversions) (floats : Floats) (path : List Char)
    (spots : List SpotInfo) (ids : ∀ spot ∈ spots, -2 ^ 31 ≤ spot.id ∧ spot.id < 2 ^ 31)
    (reads : ∀ spot ∈ spots, ∀ number ∈ spot.numbers, Plain (floats.print number) ∧
      conversions.stof (floats.print number) = some (floats.rounded number)) :
    readSpots conversions path (some (spotsCsv floats spots)) =
      .ok (spots.map (SpotInfo.readBack floats.rounded)) := by
  refine readCsv_csvText (by decide) (by decide) ?_ ?_ (mapM_rows fun spot member => ?_)
  · intro row member
    obtain ⟨spot, -, rfl⟩ := List.mem_map.mp member
    exact Nat.le_refl 7
  · intro row member
    obtain ⟨spot, listed, rfl⟩ := List.mem_map.mp member
    have shape : spotRow floats spot = signed spot.id :: spot.numbers.map floats.print := rfl
    rw [shape, List.forall_mem_cons, List.forall_mem_map]
    exact ⟨signed_plain spot.id, fun number inside => (reads spot listed number inside).1⟩
  · obtain ⟨low, high⟩ := ids spot member
    have back := fun number inside => (reads spot member number inside).2
    simp only [SpotInfo.numbers, List.forall_mem_cons] at back
    simp [spotRow, spotInfo, stoi_signed low high, back, SpotInfo.readBack]

/-- Natural numbers only. -/
def smallFloats : Floats := ⟨fun number => decimal number.num.toNat, id⟩

theorem smallFloats_reads {number : ℚ} (natural : ((number.num.toNat : Int) : ℚ) = number) :
    Plain (smallFloats.print number) ∧
      smallConversions.stof (smallFloats.print number) = some (smallFloats.rounded number) := by
  refine ⟨(decimal_unquoted _).1, ?_⟩
  show (readSmall (decimal _)).map Int.cast = some number
  rw [readSmall_decimal, Option.map_some, natural]

/-- A gain of 0 is read as 1. -/
theorem written_spots_read_two :
    readSpots smallConversions "spots.csv".toList (some (spotsCsv smallFloats
        [⟨0, (135, 222), (0, 0), 8, 2⟩, ⟨1, (193, 222), (42, 0), 8, 0⟩])) =
      .ok ([⟨0, (135, 222), (0, 0), 8, 2⟩, ⟨1, (193, 222), (42, 0), 8, 0⟩].map
        (SpotInfo.readBack smallFloats.rounded)) :=
  written_spots_read smallConversions smallFloats _ _ (by decide) fun spot member number inside =>
    smallFloats_reads (by revert spot number; decide)

end PictureReconstruct.Reconstruct
