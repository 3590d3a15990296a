import PictureReconstruct.Common.Disk
import PictureReconstruct.Library.Text

/-! # `ProcessingResumeState` and the text it is saved as

A state is saved as nine lines `key=value`.  The loader takes the lines in any order, the last
one for each key, and ends with an exception where a conversion does.

* `loaded_take_iff`: a text that lost at most its last line break is loaded as the state it was
  written for, and one that was cut off earlier is not loaded.
-/

namespace PictureReconstruct.ProtocolV2

open Library.Text

/-- `ProcessingPhase`; a cast can give it any value of the underlying `uint8_t`. -/
structure ProcessingPhase where
  value : UInt8
deriving DecidableEq

namespace ProcessingPhase

def idle : ProcessingPhase := ⟨0⟩
def running : ProcessingPhase := ⟨1⟩
def aborted : ProcessingPhase := ⟨2⟩
def committed : ProcessingPhase := ⟨3⟩

/-- `static_cast<ProcessingPhase>` of an `int`. -/
def ofInt (phase : Int) : ProcessingPhase := ⟨UInt8.ofInt phase⟩

@[simp] theorem ofInt_toNat (phase : ProcessingPhase) :
    ofInt (phase.value.toNat : Int) = phase := by
  have bound := phase.value.toNat_lt
  have small : ((phase.value.toNat : Int) % 2 ^ 8).toNat = phase.value.toNat := by omega
  rw [ofInt, UInt8.ofInt, small, UInt8.ofNat_toNat]

end ProcessingPhase

structure ProcessingResumeState where
  taskId : UInt64 := 0
  lineId : UInt32 := 0
  attemptId : UInt32 := 0
  frameIndex : UInt64 := 0
  lastFrameSeq : UInt64 := 0
  lastAckedFrameSeq : UInt64 := 0
  phase : ProcessingPhase := .idle
  aborted : Bool := false
  committed : Bool := false
deriving DecidableEq

namespace ProcessingResumeState

def beginNew (taskId : UInt64) (lineId attemptId : UInt32) : ProcessingResumeState where
  taskId := taskId
  lineId := lineId
  attemptId := attemptId
  frameIndex := 0
  lastFrameSeq := 0
  lastAckedFrameSeq := 0
  phase := .running
  aborted := false
  committed := false

/-- The task, the line and the attempt that a state is about. -/
def attempt (state : ProcessingResumeState) : UInt64 × UInt32 × UInt32 :=
  (state.taskId, state.lineId, state.attemptId)

/-- `matches`. -/
def matching (state : ProcessingResumeState) (expectedLineId expectedAttemptId : UInt32) : Bool :=
  state.lineId == expectedLineId && state.attemptId == expectedAttemptId

def isStaleFor (state : ProcessingResumeState) (expectedLineId expectedAttemptId : UInt32) :
    Bool :=
  !state.matching expectedLineId expectedAttemptId

end ProcessingResumeState

/-! ## The text -/

/-- The lines of a state file. -/
inductive Field
  | taskId
  | lineId
  | attemptId
  | frameIndex
  | lastFrameSeq
  | lastAckedFrameSeq
  | phase
  | aborted
  | committed
deriving DecidableEq

namespace Field

def key : Field → List Char
  | taskId => "taskId".toList
  | lineId => "lineId".toList
  | attemptId => "attemptId".toList
  | frameIndex => "frameIndex".toList
  | lastFrameSeq => "lastFrameSeq".toList
  | lastAckedFrameSeq => "lastAckedFrameSeq".toList
  | phase => "phase".toList
  | aborted => "aborted".toList
  | committed => "committed".toList

/-- The number that is written behind the key. -/
def number (state : ProcessingResumeState) : Field → Nat
  | taskId => state.taskId.toNat
  | lineId => state.lineId.toNat
  | attemptId => state.attemptId.toNat
  | frameIndex => state.frameIndex.toNat
  | lastFrameSeq => state.lastFrameSeq.toNat
  | lastAckedFrameSeq => state.lastAckedFrameSeq.toNat
  | phase => state.phase.value.toNat
  | aborted => if state.aborted then 1 else 0
  | committed => if state.committed then 1 else 0

/-- The line without its break. -/
def row (state : ProcessingResumeState) (field : Field) : List Char :=
  field.key ++ '=' :: decimal (field.number state)

/-- The lines before the last one. -/
def first : List Field :=
  [taskId, lineId, attemptId, frameIndex, lastFrameSeq, lastAckedFrameSeq, phase, aborted]

def all : List Field := first ++ [committed]

end Field

/-- What `saveState` writes. -/
def stateText (state : ProcessingResumeState) : List Char :=
  unlines (Field.all.map (Field.row state))

/-! ## The loader -/

/-- The `values` of `loadState`, as the lines that have a `=`. -/
def readValues (text : List Char) : List (List Char × List Char) :=
  (lines text).filterMap (splitFirst '=')

/-- The value under a key, which a later line replaces. -/
def findValue (values : List (List Char × List Char)) (field : Field) : Option (List Char) :=
  values.reverse.lookup field.key

/-- A value, converted: nothing for a missing key, an exception where the conversion throws. -/
def readField {α : Type} (convert : List Char → Option α) (values : List (List Char × List Char))
    (field : Field) : OptionT (Except Abort) α :=
  OptionT.mk <|
    match findValue values field with
    | none => .ok none
    | some value =>
      match convert value with
      | none => .error .threw
      | some converted => .ok (some converted)

def readU64 : List (List Char × List Char) → Field → OptionT (Except Abort) UInt64 :=
  readField stoull

def readU32 : List (List Char × List Char) → Field → OptionT (Except Abort) UInt32 :=
  readField fun value => (stoul value).map UInt64.toUInt32

def readInt : List (List Char × List Char) → Field → OptionT (Except Abort) Int :=
  readField stoi

/-- `loadState` from the open file on; nothing for its `return false`. -/
def parseState (text : List Char) : OptionT (Except Abort) ProcessingResumeState := do
  let values := readValues text
  let taskId ← readU64 values .taskId
  let lineId ← readU32 values .lineId
  let attemptId ← readU32 values .attemptId
  let frameIndex ← readU64 values .frameIndex
  let lastFrameSeq ← readU64 values .lastFrameSeq
  let lastAckedFrameSeq ← readU64 values .lastAckedFrameSeq
  let phase ← readInt values .phase
  let aborted ← readInt values .aborted
  let committed ← readInt values .committed
  return { taskId, lineId, attemptId, frameIndex, lastFrameSeq, lastAckedFrameSeq,
           phase := .ofInt phase, aborted := aborted != 0, committed := committed != 0 }

/-- The text is loaded as `state`. -/
def Loaded (text : List Char) (state : ProcessingResumeState) : Prop :=
  (parseState text).run = .ok (some state)

instance (text : List Char) (state : ProcessingResumeState) : Decidable (Loaded text state) :=
  decidable_of_iff ((parseState text).run.toOption.join = some state) <| by
    unfold Loaded
    cases (parseState text).run with
    | error cause => simp [Except.toOption]
    | ok result => simp [Except.toOption]

/-! ## Reading -/

theorem bind_loaded {α β : Type} {x : OptionT (Except Abort) α} {f : α → OptionT (Except Abort) β}
    {b : β} : (x >>= f).run = .ok (some b) ↔
      ∃ a, x.run = .ok (some a) ∧ (f a).run = .ok (some b) := by
  rw [OptionT.run_bind]
  -- an exception, a `return false`, a value
  rcases x.run with _ | _ | a
  · simp [Option.elimM, bind, Except.bind]
  · simp [Option.elimM, bind, Except.bind, pure, Except.pure]
  · simp [Option.elimM, bind, Except.bind]

theorem readField_loaded {α : Type} {convert : List Char → Option α}
    {values : List (List Char × List Char)} {field : Field} {a : α} :
    (readField convert values field).run = .ok (some a) ↔
      ∃ value, findValue values field = some value ∧ convert value = some a := by
  unfold readField
  cases findValue values field with
  | none => simp [OptionT.run, OptionT.mk]
  | some value => cases converted : convert value <;> simp [OptionT.run, OptionT.mk, converted]

/-- The values of a saved state under their keys. -/
theorem findValue_all (state : ProcessingResumeState) (field : Field) :
    findValue (Field.all.map fun f => (f.key, decimal (f.number state))) field =
      some (decimal (field.number state)) := by
  cases field <;> rfl

theorem Field.key_unbroken (field : Field) : '=' ∉ field.key ∧ '\n' ∉ field.key := by
  cases field <;> decide

theorem Field.row_unbroken (state : ProcessingResumeState) (field : Field) :
    '\n' ∉ field.row state := by
  rw [Field.row, List.mem_append, not_or, List.mem_cons, not_or]
  refine ⟨field.key_unbroken.2, by decide, fun member => ?_⟩
  exact absurd (isDigit_of_mem_decimal member) (by decide)

theorem readValues_rows (state : ProcessingResumeState) (fields : List Field) :
    (fields.map (Field.row state)).filterMap (splitFirst '=') =
      fields.map fun f => (f.key, decimal (f.number state)) := by
  rw [List.filterMap_map, ← List.filterMap_eq_map]
  refine List.filterMap_congr fun field _ => ?_
  exact splitFirst_append field.key_unbroken.1 _

theorem stateText_rows (state : ProcessingResumeState) : stateText state =
    unlines (Field.first.map (Field.row state) ++ [Field.committed.row state]) := by
  rw [stateText, Field.all, List.map_append, List.map_singleton]

theorem rows_unbroken (state : ProcessingResumeState) :
    ∀ row ∈ Field.first.map (Field.row state) ++ [Field.committed.row state], '\n' ∉ row := by
  intro row member
  rw [← List.map_singleton, ← List.map_append] at member
  obtain ⟨field, _, rfl⟩ := List.mem_map.mp member
  exact field.row_unbroken state

/-- The state whose fields are the given numbers. -/
def ProcessingResumeState.ofNumbers (numbers : Field → Int) : ProcessingResumeState where
  taskId := UInt64.ofNat (numbers .taskId).toNat
  lineId := UInt32.ofNat (numbers .lineId).toNat
  attemptId := UInt32.ofNat (numbers .attemptId).toNat
  frameIndex := UInt64.ofNat (numbers .frameIndex).toNat
  lastFrameSeq := UInt64.ofNat (numbers .lastFrameSeq).toNat
  lastAckedFrameSeq := UInt64.ofNat (numbers .lastAckedFrameSeq).toNat
  phase := .ofInt (numbers .phase)
  aborted := numbers .aborted != 0
  committed := numbers .committed != 0

/-- The value is converted to the number `n`. -/
def Field.Yields (value : List Char) (n : Int) : Field → Prop
  | .taskId | .frameIndex | .lastFrameSeq | .lastAckedFrameSeq =>
    stoull value = some (UInt64.ofNat n.toNat)
  | .lineId | .attemptId => (stoul value).map UInt64.toUInt32 = some (UInt32.ofNat n.toNat)
  | .phase | .aborted | .committed => stoi value = some n

theorem loaded_of_yields {text : List Char} {numbers : Field → Int}
    (yields : ∀ field, ∃ value, findValue (readValues text) field = some value ∧
      field.Yields value (numbers field)) : Loaded text (.ofNumbers numbers) := by
  simp only [Loaded, parseState, bind_loaded]
  exact ⟨_, readField_loaded.mpr (yields .taskId), _, readField_loaded.mpr (yields .lineId),
    _, readField_loaded.mpr (yields .attemptId), _, readField_loaded.mpr (yields .frameIndex),
    _, readField_loaded.mpr (yields .lastFrameSeq),
    _, readField_loaded.mpr (yields .lastAckedFrameSeq), _, readField_loaded.mpr (yields .phase),
    _, readField_loaded.mpr (yields .aborted), _, readField_loaded.mpr (yields .committed), rfl⟩

theorem Field.yields_decimal (state : ProcessingResumeState) (field : Field) :
    field.Yields (decimal (field.number state)) (field.number state) := by
  have small : ∀ b : Bool, (if b then 1 else 0 : Nat) < 2 ^ 31 := by decide
  have phase : state.phase.value.toNat < 2 ^ 31 := state.phase.value.toNat_lt.trans (by decide)
  cases field with
  | taskId | frameIndex | lastFrameSeq | lastAckedFrameSeq =>
    simp only [Field.Yields, Field.number, stoull_decimal, Int.toNat_natCast, UInt64.ofNat_toNat]
  | lineId | attemptId =>
    simp only [Field.Yields, Field.number, stoul_decimal, Int.toNat_natCast, UInt32.ofNat_toNat]
  | phase => exact stoi_decimal phase
  | aborted => exact stoi_decimal (small state.aborted)
  | committed => exact stoi_decimal (small state.committed)

theorem ofNumbers_number (state : ProcessingResumeState) :
    ProcessingResumeState.ofNumbers (fun field => field.number state) = state := by
  have flag : ∀ b : Bool, (((if b then 1 else 0 : Nat) : Int) != 0) = b := by decide
  simp only [ProcessingResumeState.ofNumbers, Field.number, Int.toNat_natCast, UInt64.ofNat_toNat,
    UInt32.ofNat_toNat, ProcessingPhase.ofInt_toNat, flag]

/-- A text that lost at most its last line break is loaded as the state it was written for. -/
theorem loaded_of_whole {state : ProcessingResumeState} {n : Nat}
    (whole : (stateText state).length ≤ n + 1) : Loaded ((stateText state).take n) state := by
  rw [stateText_rows] at whole ⊢
  have values : readValues ((unlines (Field.first.map (Field.row state) ++
      [Field.committed.row state])).take n) =
        Field.all.map fun f => (f.key, decimal (f.number state)) := by
    rw [← readValues_rows, readValues,
      lines_take_unlines_of_le (rows_unbroken state) (by simp [Field.row]) whole,
      ← List.map_singleton, ← List.map_append, Field.all]
  have loaded := loaded_of_yields fun field =>
    ⟨_, (congrArg (findValue · field) values).trans (findValue_all state field),
      field.yields_decimal state⟩
  rwa [ofNumbers_number] at loaded

/-- A state that is loaded has a value behind the key `committed`. -/
theorem Loaded.committed {text : List Char} {state : ProcessingResumeState}
    (loaded : Loaded text state) :
    ∃ value, (Field.committed.key, value) ∈ readValues text ∧ value ≠ [] := by
  simp only [Loaded, parseState, bind_loaded] at loaded
  obtain ⟨_, _, _, _, _, _, _, _, _, _, _, _, _, _, _, _, _, read, _⟩ := loaded
  obtain ⟨value, found, converted⟩ := readField_loaded.mp read
  obtain ⟨_, _, listed, _⟩ := List.lookup_eq_some_iff.mp found
  refine ⟨value, List.mem_reverse.mp (listed ▸ by simp), ?_⟩
  rintro rfl
  exact absurd (stoi_nil.symm.trans converted) (by simp)

/-- A text that was cut off earlier is not loaded: nothing stands behind `committed=`, or that
    line is missing. -/
theorem not_loaded_of_cut {state loaded : ProcessingResumeState} {n : Nat}
    (cut : n + 1 < (stateText state).length) : ¬ Loaded ((stateText state).take n) loaded := by
  intro isLoaded
  obtain ⟨value, member, nonempty⟩ := isLoaded.committed
  obtain ⟨line, isLine, split⟩ := List.mem_filterMap.mp member
  have length : (Field.committed.row state).length = Field.committed.key.length + 2 := by
    have digit : ∀ b : Bool, (decimal (if b then 1 else 0)).length = 1 := by decide
    simp only [Field.row, Field.number, List.length_append, List.length_cons, digit]
  have empty : ∀ value, splitFirst '=' line = .some (Field.committed.key, value) → value = [] := by
    rw [stateText_rows] at isLine cut
    refine lines_take_unlines (P := fun line => ∀ value,
        splitFirst '=' line = .some (Field.committed.key, value) → value = [])
      (rows_unbroken state) ?_ ?_ ?_ line isLine
    · intro row inside m value split
      obtain ⟨field, earlier, rfl⟩ := List.mem_map.mp inside
      have other : ∀ field ∈ Field.first, field.key ≠ Field.committed.key := by decide
      rw [Field.row, splitFirst_take field.key_unbroken.1] at split
      split at split
      · exact absurd split (by simp)
      · simp only [Option.some.injEq, Prod.mk.injEq] at split
        exact absurd split.1 (other field earlier)
    · intro m short value split
      rw [Field.row, splitFirst_take Field.committed.key_unbroken.1] at split
      split at split
      · exact absurd split (by simp)
      · simp only [Option.some.injEq, Prod.mk.injEq] at split
        have nothing : m - Field.committed.key.length - 1 = 0 := by omega
        rw [← split.2, nothing, List.take_zero]
    · simp only [unlines, List.flatMap_append, List.flatMap_singleton, List.length_append,
        List.length_singleton] at cut ⊢
      omega
  exact nonempty (empty value split)

theorem loaded_take_iff {state loaded : ProcessingResumeState} {n : Nat} :
    Loaded ((stateText state).take n) loaded ↔
      (stateText state).length ≤ n + 1 ∧ loaded = state := by
  constructor
  · intro isLoaded
    -- whether more than the last line break is missing
    cases Nat.lt_or_ge (n + 1) (stateText state).length with
    | inl cut => exact absurd isLoaded (not_loaded_of_cut cut)
    | inr whole =>
      have same : Except.ok (some loaded) = Except.ok (some state) :=
        isLoaded.symm.trans (loaded_of_whole whole)
      exact ⟨whole, Option.some.inj (Except.ok.inj same)⟩
  · rintro ⟨whole, rfl⟩
    exact loaded_of_whole whole

end PictureReconstruct.ProtocolV2
