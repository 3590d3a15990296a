import PictureReconstruct.Protocol.ProcessingStateMachine

/-! # What a state file does to a machine

The loader looks the nine keys up one after the other and leaves it to the conversions of the
standard library what a value may look like.

* `parseState_reading`: how a load ends depends on the first key whose value is missing or cannot be
  converted.
* `parsed_defensively_iff`: the files on which the loader accepts nothing but numbers in range and
  does not throw.
* `state_text_round_trips`: what was saved is loaded.
* `rejection_keeps_state_iff`: when a resume that is turned down leaves the state alone.
-/

namespace PictureReconstruct.ProtocolV2

open Library.Procedure Library.Text

/-! ## How a load ends -/

/-- The conversion of the field does not throw. -/
def Field.converts (value : List Char) : Field → Bool
  | .phase | .aborted | .committed => (stoi value).isSome
  | _ => (stoull value).isSome

/-- What reading some fields comes to. -/
inductive Reading
  | complete
  /-- a key is missing -/
  | missing
  /-- a value cannot be converted -/
  | threw
deriving DecidableEq

def reading (values : List (List Char × List Char)) : List Field → Reading
  | [] => .complete
  | field :: fields =>
    match findValue values field with
    | none => .missing
    | some value => if field.converts value then reading values fields else .threw

/-- The result of the loader from some field on is what reading comes to. -/
def Reading.Ends {α : Type} : Reading → Except Abort (Option α) → Prop
  | complete, result => ∃ a, result = .ok (some a)
  | missing, result => result = .ok none
  | threw, result => result = .error .threw

theorem readField_bind {α β : Type} {convert : List Char → Option α}
    {values : List (List Char × List Char)} {field : Field} {f : α → OptionT (Except Abort) β} :
    (readField convert values field >>= f).run =
      match findValue values field with
      | none => .ok none
      | some value =>
        match convert value with
        | none => .error .threw
        | some a => (f a).run := by
  rw [OptionT.run_bind, readField]
  cases findValue values field with
  | none => rfl
  | some value =>
    cases converted : convert value with
    | none => simp [OptionT.run, OptionT.mk, Option.elimM, bind, Except.bind, converted]
    | some a => simp [OptionT.run, OptionT.mk, Option.elimM, bind, Except.bind, converted]

theorem Reading.Ends.field {α β : Type} {convert : List Char → Option α}
    {values : List (List Char × List Char)} {field : Field} {fields : List Field}
    {f : α → OptionT (Except Abort) β}
    (converts : ∀ value, field.converts value = (convert value).isSome)
    (rest : ∀ a, (reading values fields).Ends (f a).run) :
    (reading values (field :: fields)).Ends (readField convert values field >>= f).run := by
  rw [readField_bind, reading]
  cases findValue values field with
  | none => rfl
  | some value =>
    simp only [converts value]
    cases convert value with
    | none => rfl
    | some a => exact rest a

theorem parseState_reading (text : List Char) :
    (reading (readValues text) Field.all).Ends (parseState text).run := by
  have narrowed : ∀ value, (stoull value).isSome =
      ((stoul value).map UInt64.toUInt32).isSome := fun value => by rw [Option.isSome_map, stoul]
  unfold parseState
  refine .field (fun _ => rfl) fun taskId => ?_
  refine .field narrowed fun lineId => ?_
  refine .field narrowed fun attemptId => ?_
  refine .field (fun _ => rfl) fun frameIndex => ?_
  refine .field (fun _ => rfl) fun lastFrameSeq => ?_
  refine .field (fun _ => rfl) fun lastAckedFrameSeq => ?_
  refine .field (fun _ => rfl) fun phase => ?_
  refine .field (fun _ => rfl) fun aborted => ?_
  refine .field (fun _ => rfl) fun committed => ?_
  exact ⟨_, rfl⟩

/-- A key is missing, and the values of all keys before it are converted. -/
inductive MissingFirst (values : List (List Char × List Char)) : List Field → Prop
  | missing {field fields} : findValue values field = none → MissingFirst values (field :: fields)
  | later {field fields value} : findValue values field = some value →
    field.converts value = true → MissingFirst values fields →
    MissingFirst values (field :: fields)

theorem reading_missing_iff {values : List (List Char × List Char)} {fields : List Field} :
    reading values fields = .missing ↔ MissingFirst values fields := by
  constructor
  · intro missing
    induction fields with
    | nil => cases missing
    | cons field fields ih =>
      rw [reading] at missing
      split at missing
      · next absent => exact .missing absent
      · next value found =>
        split at missing
        · next converts => exact .later found converts (ih missing)
        · cases missing
  · intro missing
    induction missing with
    | missing absent => rw [reading, absent]
    | later found converts _ ih => simp only [reading, found, converts, if_true, ih]

/-! ## Numbers in range -/

/-- The numbers that a field can hold. -/
def Field.InRange (n : Int) : Field → Prop
  | .taskId | .frameIndex | .lastFrameSeq | .lastAckedFrameSeq => 0 ≤ n ∧ n < 2 ^ 64
  | .lineId | .attemptId => 0 ≤ n ∧ n < 2 ^ 32
  | .phase => 0 ≤ n ∧ n < 4
  | .aborted | .committed => -2 ^ 31 ≤ n ∧ n < 2 ^ 31

/-- The flags are integers. -/
def Field.signed : Field → Bool
  | .aborted | .committed => true
  | _ => false

/-- The value is the decimal text of a number. -/
inductive Field.Spells (field : Field) : List Char → Int → Prop
  | digits {value} : IsNumeral value → Spells field value (magnitude value)
  | negative {value} : field.signed = true → IsNumeral value →
    Spells field ('-' :: value) (-magnitude value)

/-- The value under the key is the decimal text of `n`, which is in range. -/
def WellFormed (values : List (List Char × List Char)) (field : Field) (n : Int) : Prop :=
  ∃ value, findValue values field = some value ∧ field.Spells value n ∧ field.InRange n

theorem Field.Spells.unsigned {field : Field} {value : List Char} {n : Int}
    (spells : field.Spells value n) (unsigned : field.signed = false) :
    IsNumeral value ∧ n = magnitude value := by
  cases spells with
  | digits numeral => exact ⟨numeral, rfl⟩
  | negative signed _ => exact absurd (unsigned.symm.trans signed) Bool.noConfusion

theorem Field.Spells.stoi {field : Field} {value : List Char} {n : Int}
    (spells : field.Spells value n) (lower : -2 ^ 31 ≤ n) (upper : n < 2 ^ 31) :
    Library.Text.stoi value = some n := by
  cases spells with
  | digits numeral => exact stoi_numeral numeral (by omega)
  | negative _ numeral => exact stoi_negative numeral (by omega)

theorem WellFormed.yields {values : List (List Char × List Char)} {field : Field} {n : Int}
    (wellFormed : WellFormed values field n) :
    ∃ value, findValue values field = some value ∧ field.Yields value n := by
  obtain ⟨value, found, spells, range⟩ := wellFormed
  refine ⟨value, found, ?_⟩
  cases field with
  | taskId | frameIndex | lastFrameSeq | lastAckedFrameSeq =>
    obtain ⟨numeral, rfl⟩ := spells.unsigned rfl
    exact stoull_numeral numeral (by simp only [Field.InRange] at range; omega)
  | lineId | attemptId =>
    obtain ⟨numeral, rfl⟩ := spells.unsigned rfl
    simp only [Field.InRange] at range
    simp only [Field.Yields, stoul, stoull_numeral numeral (by omega), Option.map_some,
      Int.toNat_natCast, UInt64.toUInt32_ofNat']
  | phase =>
    simp only [Field.InRange] at range
    exact spells.stoi (by omega) (by omega)
  | aborted | committed => exact spells.stoi range.1 range.2

/-! ## Parsing defensively -/

/-- The loader takes the state from nine well-formed values and leaves the machine as it was
    otherwise. -/
def ParsedDefensively (text : List Char) : Prop :=
  ∀ state,
    (∃ numbers, (∀ field, WellFormed (readValues text) field (numbers field)) ∧
      ProcessingStateMachine.loadState ⟨state, some text⟩ =
        .ok true ⟨.ofNumbers numbers, some text⟩) ∨
    ((¬ ∃ numbers : Field → Int, ∀ field, WellFormed (readValues text) field (numbers field)) ∧
      ProcessingStateMachine.loadState ⟨state, some text⟩ = .ok false ⟨state, some text⟩)

theorem loadState_ends (state : ProcessingResumeState) (text : List Char) :
    ProcessingStateMachine.loadState ⟨state, some text⟩ =
      match (parseState text).run with
      | .error _ => .error .threw ⟨state, some text⟩
      | .ok none => .ok false ⟨state, some text⟩
      | .ok (some loaded) => .ok true ⟨loaded, some text⟩ := by
  rw [ProcessingStateMachine.loadState, run_get_bind]
  dsimp only
  cases (parseState text).run with
  | error _ => rfl
  | ok result =>
    cases result with
    | none => rfl
    | some _ => rfl

/-- The loader parses a text defensively if and only if all values are well formed or it finds a key
    missing before it comes to a value that it cannot convert. -/
theorem parsed_defensively_iff (text : List Char) :
    ParsedDefensively text ↔
      (∃ numbers : Field → Int, ∀ field, WellFormed (readValues text) field (numbers field)) ∨
        MissingFirst (readValues text) Field.all := by
  have ends := parseState_reading text
  constructor
  · intro defensive
    obtain ⟨numbers, wellFormed, _⟩ | ⟨_, refused⟩ := defensive (.beginNew 0 0 0)
    · exact .inl ⟨numbers, wellFormed⟩
    · right
      rw [← reading_missing_iff]
      rw [loadState_ends] at refused
      cases comes : reading (readValues text) Field.all with
      | missing => rfl
      | complete =>
        rw [comes] at ends
        obtain ⟨state, loaded⟩ := ends
        rw [loaded] at refused
        cases refused
      | threw =>
        rw [comes] at ends
        rw [show (parseState text).run = .error .threw from ends] at refused
        cases refused
  · rintro (⟨numbers, wellFormed⟩ | missing) state
    · left
      have loaded : Loaded text (.ofNumbers numbers) :=
        loaded_of_yields fun field => (wellFormed field).yields
      refine ⟨numbers, wellFormed, ?_⟩
      rw [loadState_ends, show (parseState text).run = _ from loaded]
    · right
      have comes := reading_missing_iff.mpr missing
      rw [comes] at ends
      refine ⟨?_, by rw [loadState_ends, show (parseState text).run = .ok none from ends]⟩
      rintro ⟨numbers, wellFormed⟩
      have loaded : Loaded text (.ofNumbers numbers) :=
        loaded_of_yields fun field => (wellFormed field).yields
      cases (show (parseState text).run = .ok none from ends).symm.trans loaded

/-- What is left of a state file behind the first key makes the loader throw. -/
theorem cut_file_throws : ¬ ParsedDefensively "taskId=".toList := by
  intro defensive
  have thrown : ProcessingStateMachine.loadState ⟨.beginNew 0 0 0, some "taskId=".toList⟩ =
      .error .threw ⟨.beginNew 0 0 0, some "taskId=".toList⟩ := by
    rw [loadState_ends]
    rfl
  obtain ⟨_, _, loaded⟩ | ⟨_, refused⟩ := defensive (.beginNew 0 0 0)
  · cases thrown.symm.trans loaded
  · cases thrown.symm.trans refused

/-! ## Saving and loading -/

namespace ProcessingStateMachine

theorem loaded_stateText (state : ProcessingResumeState) : Loaded (stateText state) state := by
  have loaded := @loaded_of_whole state (stateText state).length (Nat.le_succ _)
  rwa [List.take_length] at loaded

/-- The file that a machine in `state` writes, over any other, brings any machine into `state`. -/
theorem state_text_round_trips (state old : ProcessingResumeState) (file : Option (List Char)) :
    ∃ saved, saveState .none ⟨state, file⟩ = .ok true ⟨state, saved⟩ ∧
      loadState ⟨old, saved⟩ = .ok true ⟨state, saved⟩ := by
  refine ⟨some (stateText state), ?_, ?_⟩
  · have whole :
        landed ⟨state, file⟩ (stateText state).length = ⟨state, some (stateText state)⟩ := by
      rw [landed, List.take_length]
    exact congrArg (EStateM.Result.ok true) whole
  · rw [loadState_ends, show (parseState (stateText state)).run = _ from loaded_stateText state]

/-! ## Resuming -/

/-- `resumeFromDisk` accepts the state. -/
def IsCurrent (state : ProcessingResumeState) (expectedTaskId : UInt64)
    (expectedLineId expectedAttemptId : UInt32) : Prop :=
  state.taskId = expectedTaskId ∧ state.lineId = expectedLineId ∧
    state.attemptId = expectedAttemptId

instance (state : ProcessingResumeState) (expectedTaskId : UInt64)
    (expectedLineId expectedAttemptId : UInt32) :
    Decidable (IsCurrent state expectedTaskId expectedLineId expectedAttemptId) :=
  inferInstanceAs (Decidable (_ ∧ _ ∧ _))

section Resuming

variable {fault : DiskFault} {expectedTaskId : UInt64} {expectedLineId expectedAttemptId : UInt32}
  {machine : ProcessingStateMachine}

theorem resumeFromDisk_loaded {text : List Char} {state : ProcessingResumeState}
    (file : machine.file = some text) (loaded : Loaded text state) :
    resumeFromDisk fault expectedTaskId expectedLineId expectedAttemptId machine =
      if IsCurrent state expectedTaskId expectedLineId expectedAttemptId then
        mutate fault .resumed { machine with state }
      else .ok false { machine with state } := by
  obtain ⟨memory, file'⟩ := machine
  subst file
  have load := loadState_ends memory text
  rw [show (parseState text).run = _ from loaded] at load
  have tests : (state.taskId != expectedTaskId ||
      state.isStaleFor expectedLineId expectedAttemptId) =
        !decide (IsCurrent state expectedTaskId expectedLineId expectedAttemptId) := by
    rw [ProcessingResumeState.isStaleFor, ProcessingResumeState.matching, bne, ← Bool.not_and]
    congr 1
    rw [Bool.eq_iff_iff, decide_eq_true_eq, Bool.and_eq_true, Bool.and_eq_true, beq_iff_eq,
      beq_iff_eq, beq_iff_eq, IsCurrent]
  rw [resumeFromDisk, run_bind, load]
  dsimp only
  simp only [Bool.not_true, Bool.false_eq_true, if_false]
  rw [run_get_bind, tests]
  by_cases current : IsCurrent state expectedTaskId expectedLineId expectedAttemptId
  · simp [current]
  · simp only [current, decide_false, Bool.not_false, if_true, if_false]
    rfl

theorem resumeFromDisk_unloaded
    (unloaded : ∀ text state, machine.file = some text → ¬ Loaded text state) :
    wp (resumeFromDisk fault expectedTaskId expectedLineId expectedAttemptId)
      (fun resumed after => resumed = false ∧ after = machine) (fun _ _ => True) machine := by
  apply wp_resumeFromDisk
  · exact ⟨rfl, rfl⟩
  · trivial
  · intro text state file loaded
    exact absurd loaded (unloaded text state file)
  · intro text state file loaded
    exact absurd loaded (unloaded text state file)

/-- A call that returns `false` leaves the state in memory as it was. -/
def RejectionKeepsState (fault : DiskFault) (expectedTaskId : UInt64)
    (expectedLineId expectedAttemptId : UInt32) (machine : ProcessingStateMachine) : Prop :=
  ∀ after, resumeFromDisk fault expectedTaskId expectedLineId expectedAttemptId machine =
    .ok false after → after.state = machine.state

/-- A rejection keeps the state if and only if the state in the file, if one can be loaded, is the
    one in memory when it is rejected as stale, and is resumed as the one in memory when it is
    accepted and the file cannot be opened to save it. -/
theorem rejection_keeps_state_iff (fault : DiskFault) (expectedTaskId : UInt64)
    (expectedLineId expectedAttemptId : UInt32) (machine : ProcessingStateMachine) :
    RejectionKeepsState fault expectedTaskId expectedLineId expectedAttemptId machine ↔
      ∀ text state, machine.file = some text → Loaded text state →
        if IsCurrent state expectedTaskId expectedLineId expectedAttemptId then
          fault = .open → state.resumed = machine.state
        else state = machine.state := by
  constructor
  · intro keeps text state file loaded
    have run := @resumeFromDisk_loaded fault expectedTaskId expectedLineId expectedAttemptId
      machine text state file loaded
    split
    · next current =>
      rw [if_pos current] at run
      rintro rfl
      exact keeps _ run
    · next stale =>
      rw [if_neg stale] at run
      exact keeps _ run
  · intro condition after rejected
    by_cases loads : ∃ text state, machine.file = some text ∧ Loaded text state
    · obtain ⟨text, state, file, loaded⟩ := loads
      have holds := condition text state file loaded
      rw [resumeFromDisk_loaded file loaded] at rejected
      split at rejected
      · next current =>
        rw [if_pos current] at holds
        cases fault with
        | «open» =>
          cases rejected
          exact holds rfl
        | none | write _ | kill _ => cases rejected
      · next stale =>
        rw [if_neg stale] at holds
        cases rejected
        exact holds
    · have ends := @resumeFromDisk_unloaded fault expectedTaskId expectedLineId expectedAttemptId
        machine fun text state file loaded => loads ⟨text, state, file, loaded⟩
      rw [(ends.ok rejected).2]

/-- The file holds attempt 1 and attempt 2 is asked for. -/
theorem stale_attempt_taken_over :
    ¬ RejectionKeepsState .none 1001 7 2
      (construct (some (stateText (.beginNew 1001 7 1)))) := by
  intro keeps
  have run := @resumeFromDisk_loaded .none 1001 7 2
    (construct (some (stateText (.beginNew 1001 7 1)))) _ _ rfl (loaded_stateText _)
  rw [if_neg (by decide)] at run
  exact absurd (keeps _ run) (by decide)

end Resuming

end ProcessingStateMachine

end PictureReconstruct.ProtocolV2
