import PictureReconstruct.Protocol.StateFiles

/-! # What a load makes of a state file that was cut off

* `readValues_cut`: the keys and values in a text that was cut off somewhere.
* `reading_cut`: how reading them ends.
* `parseState_cut`: a text that was cut off makes the loader throw exactly when the cut is right
  behind a `=`; it is loaded when at most the last line break is missing.
-/

namespace PictureReconstruct.ProtocolV2

open Library.Text

/-- The keys and values in the lines of `fields` when their text is cut off behind `n`
    characters. -/
def cutValues (state : ProcessingResumeState) :
    List Field → Nat → List (List Char × List Char)
  | [], _ => []
  | field :: fields, n =>
    if n ≤ field.key.length then []
    else if n ≤ (field.row state).length then
      [(field.key, (decimal (field.number state)).take (n - field.key.length - 1))]
    else (field.key, decimal (field.number state)) ::
      cutValues state fields (n - (field.row state).length - 1)

/-- Where the values begin in the text of `fields`. -/
def valueStarts (state : ProcessingResumeState) : List Field → List Nat
  | [] => []
  | field :: fields =>
    (field.key.length + 1) ::
      (valueStarts state fields).map fun start => (field.row state).length + 1 + start

section Cuts

variable {state : ProcessingResumeState} {field : Field} {fields : List Field} {n : Nat}

theorem Field.row_length :
    (field.row state).length = field.key.length + 1 + (decimal (field.number state)).length := by
  rw [Field.row, List.length_append, List.length_cons]
  omega

theorem readValues_cut (state : ProcessingResumeState) (fields : List Field) (n : Nat) :
    readValues ((unlines (fields.map (Field.row state))).take n) = cutValues state fields n := by
  induction fields generalizing n with
  | nil => simp [unlines, readValues, lines, cutValues]
  | cons field fields ih =>
    have split := splitFirst_take field.key_unbroken.1 (decimal (field.number state)) n
    rw [← Field.row] at split
    rw [readValues, List.map_cons, lines_take_unlines_cons (field.row_unbroken state), cutValues]
    by_cases inside : n ≤ (field.row state).length
    · rw [if_pos inside]
      by_cases early : n ≤ field.key.length
      -- without its `=` the line is skipped
      · rw [if_pos early] at split ⊢
        split
        · rfl
        · rw [List.filterMap_cons_none split, List.filterMap_nil]
      · have nonempty : (field.row state).take n ≠ [] := by
          rw [Ne, List.take_eq_nil_iff]
          rintro (rfl | empty)
          · exact early (Nat.zero_le _)
          · simp [Field.row] at empty
        rw [if_neg nonempty, if_neg early, if_pos inside]
        rw [if_neg early] at split
        rw [List.filterMap_cons_some split, List.filterMap_nil]
    · have late : ¬ n ≤ field.key.length := by
        rw [Field.row_length] at inside
        omega
      have whole := splitFirst_append field.key_unbroken.1 (decimal (field.number state))
      rw [← Field.row] at whole
      rw [if_neg inside, if_neg late, if_neg inside, List.filterMap_cons_some whole, ← ih]
      rfl

theorem Field.key_injective {field field' : Field} (same : field.key = field'.key) :
    field = field' := by
  revert same
  cases field <;> cases field' <;> decide

theorem findValue_cons_self (value : List Char) {values : List (List Char × List Char)}
    (absent : findValue values field = none) :
    findValue ((field.key, value) :: values) field = some value := by
  rw [findValue] at absent ⊢
  rw [List.reverse_cons, List.lookup_append, absent]
  simp

theorem findValue_cons_other {field field' : Field} (other : field' ≠ field) (value : List Char)
    (values : List (List Char × List Char)) :
    findValue ((field.key, value) :: values) field' = findValue values field' := by
  have differ : (field'.key == field.key) = false :=
    beq_false_of_ne fun same => other (Field.key_injective same)
  rw [findValue, findValue, List.reverse_cons, List.lookup_append]
  simp [List.lookup_cons, differ]

/-- No value is found under the key of a line that is not there. -/
theorem findValue_cut (absent : field ∉ fields) (n : Nat) :
    findValue (cutValues state fields n) field = none := by
  induction fields generalizing n with
  | nil => rfl
  | cons other fields ih =>
    rw [List.mem_cons, not_or] at absent
    rw [cutValues]
    split
    · rfl
    · split
      · exact findValue_cons_other absent.1 _ []
      · rw [findValue_cons_other absent.1]
        exact ih absent.2 _

/-! ## How reading ends -/

theorem ofDigitChars_le (text : List Char) (n : Nat) : n ≤ Nat.ofDigitChars 10 text n := by
  induction text generalizing n with
  | nil => exact Nat.le_of_eq Nat.ofDigitChars_nil.symm
  | cons c text ih =>
    rw [Nat.ofDigitChars_cons]
    exact le_trans (by omega) (ih _)

/-- The first digits of a number spell a number that is not greater. -/
theorem magnitude_take_le (text : List Char) (n : Nat) :
    magnitude (text.take n) ≤ magnitude text := by
  have whole : magnitude text =
      Nat.ofDigitChars 10 (text.drop n) (Nat.ofDigitChars 10 (text.take n) 0) := by
    rw [← Nat.ofDigitChars_append, List.take_append_drop, magnitude]
  rw [whole]
  exact ofDigitChars_le _ _

theorem Field.number_lt (state : ProcessingResumeState) (field : Field) :
    field.number state < 2 ^ 64 := by
  cases field with
  | taskId => exact state.taskId.toNat_lt
  | lineId => exact state.lineId.toNat_lt.trans (by decide)
  | attemptId => exact state.attemptId.toNat_lt.trans (by decide)
  | frameIndex => exact state.frameIndex.toNat_lt
  | lastFrameSeq => exact state.lastFrameSeq.toNat_lt
  | lastAckedFrameSeq => exact state.lastAckedFrameSeq.toNat_lt
  | phase => exact state.phase.value.toNat_lt.trans (by decide)
  | aborted | committed =>
    rw [Field.number]
    split <;> decide

/-- Of a saved number any number of digits can be converted, but not none. -/
theorem Field.converts_take (state : ProcessingResumeState) (field : Field) (n : Nat) :
    field.converts ((decimal (field.number state)).take n) = decide (0 < n) := by
  cases n with
  | zero => cases field <;> rfl
  | succ n =>
    have numeral : IsNumeral ((decimal (field.number state)).take (n + 1)) := by
      constructor
      · simp [decimal_ne_nil]
      · exact fun c member => isDigit_of_mem_decimal (List.mem_of_mem_take member)
    have le := magnitude_take_le (decimal (field.number state)) (n + 1)
    rw [magnitude_decimal] at le
    have wide := stoull_numeral numeral (le.trans_lt (field.number_lt state))
    have narrow : field.number state < 2 ^ 31 →
        (stoi ((decimal (field.number state)).take (n + 1))).isSome = true := fun small => by
      rw [stoi_numeral numeral (le.trans_lt small)]
      rfl
    cases field with
    | taskId | lineId | attemptId | frameIndex | lastFrameSeq | lastAckedFrameSeq =>
      simp [Field.converts, wide]
    | phase =>
      simpa [Field.converts] using narrow (state.phase.value.toNat_lt.trans (by decide))
    | aborted | committed =>
      refine (narrow ?_).trans (by simp)
      rw [Field.number]
      split <;> decide

/-- A key that is missing ends the reading without an exception. -/
theorem reading_absent {values : List (List Char × List Char)}
    (absent : ∀ field ∈ fields, findValue values field = none) :
    reading values fields ≠ .threw := by
  cases fields with
  | nil => simp [reading]
  | cons field fields => simp [reading, absent field List.mem_cons_self]

/-- The loader throws at a value of which nothing is left. -/
theorem reading_cut {values : List (List Char × List Char)} (distinct : fields.Nodup)
    (agree : ∀ field ∈ fields,
      findValue values field = findValue (cutValues state fields n) field) :
    reading values fields = .threw ↔ n ∈ valueStarts state fields := by
  induction fields generalizing n with
  | nil => simp [reading, valueStarts]
  | cons field fields ih =>
    obtain ⟨fresh, distinct⟩ := List.nodup_cons.mp distinct
    obtain ⟨first, later⟩ := List.forall_mem_cons.mp agree
    have others : ∀ field' ∈ fields, field' ≠ field := fun field' member same =>
      fresh (same ▸ member)
    have row := @Field.row_length state field
    rw [reading, valueStarts, List.mem_cons, List.mem_map]
    rw [cutValues] at first
    by_cases early : n ≤ field.key.length
    · -- the key is cut
      rw [if_pos early] at first
      rw [show findValue [] field = none from rfl] at first
      rw [first]
      refine iff_of_false (by simp) ?_
      rintro (start | ⟨start, _, later⟩) <;> omega
    · rw [if_neg early] at first
      by_cases inside : n ≤ (field.row state).length
      · -- the value is cut
        rw [if_pos inside, findValue_cons_self _ rfl] at first
        have absent : ∀ field' ∈ fields, findValue values field' = none := by
          intro field' member
          rw [later field' member, cutValues, if_neg early, if_pos inside,
            findValue_cons_other (others field' member)]
          rfl
        rw [first]
        simp only [Field.converts_take, decide_eq_true_eq]
        by_cases start : n = field.key.length + 1
        · rw [if_neg (by omega)]
          exact iff_of_true rfl (.inl start)
        · rw [if_pos (by omega)]
          refine iff_of_false (reading_absent absent) ?_
          rintro (same | ⟨start', _, later⟩) <;> omega
      · -- the line is whole, and the cut is in one of those behind it
        rw [if_neg inside, findValue_cons_self _ (findValue_cut fresh _)] at first
        have whole : field.converts (decimal (field.number state)) = true := by
          rw [← List.take_length (l := decimal (field.number state)), Field.converts_take]
          simp [List.length_pos_iff.mpr (decimal_ne_nil _)]
        rw [first]
        simp only [whole, if_true]
        rw [ih distinct fun field' member => by
          rw [later field' member, cutValues, if_neg early, if_neg inside,
            findValue_cons_other (others field' member)]]
        constructor
        · exact fun start => .inr ⟨_, start, by omega⟩
        · rintro (start | ⟨start, member, rfl⟩)
          · omega
          · have back : (field.row state).length + 1 + start - (field.row state).length - 1 =
                start := by omega
            rwa [back]

end Cuts

/-- What the loader makes of the first `n` characters of a state file. -/
theorem parseState_cut (state : ProcessingResumeState) (n : Nat) :
    (parseState ((stateText state).take n)).run =
      if (stateText state).length ≤ n + 1 then .ok (some state)
      else if n ∈ valueStarts state Field.all then .error .threw
      else .ok none := by
  split
  · next whole => exact loaded_of_whole whole
  · next cut =>
    have ends := parseState_reading ((stateText state).take n)
    have threw : reading (readValues ((stateText state).take n)) Field.all = .threw ↔
        n ∈ valueStarts state Field.all := by
      rw [stateText, readValues_cut]
      exact reading_cut (by decide) fun _ _ => rfl
    cases comes : reading (readValues ((stateText state).take n)) Field.all with
    | complete =>
      rw [comes] at ends
      obtain ⟨loaded, same⟩ := ends
      exact absurd (loaded_take_iff.mp same).1 cut
    | missing =>
      rw [comes] at ends threw
      rw [if_neg fun start => by cases threw.mpr start]
      exact ends
    | threw =>
      rw [comes] at ends threw
      rw [if_pos (threw.mp rfl)]
      exact ends

end PictureReconstruct.ProtocolV2
