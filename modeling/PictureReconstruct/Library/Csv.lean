import PictureReconstruct.Library.Text

/-! # Fields with a delimiter between them

* `getlines`: the successive results of `std::getline` with a delimiter of its own.
* `getlines_joined`: the fields of a line that was put together from them.
* `zeroPadded`: an integer as `%0*d` writes it.
* `zeroPadded_injective`: no two integers are written the same.
* `stoi_signed`: an integer that was written is read back.
-/

namespace Library.Text

/-! ## Fields -/

/-- The pieces between the delimiters; an empty one at the end is not read. -/
def getlines (delimiter : Char) (text : List Char) : List (List Char) :=
  let pieces := text.splitOn delimiter
  if pieces.getLast? = some [] then pieces.dropLast else pieces

/-- The fields with the delimiter between them. -/
def joined (delimiter : Char) (fields : List (List Char)) : List Char :=
  [delimiter].intercalate fields

theorem getlines_joined {delimiter : Char} {fields : List (List Char)}
    (nonempty : fields ≠ []) (unbroken : ∀ field ∈ fields, delimiter ∉ field ∧ field ≠ []) :
    getlines delimiter (joined delimiter fields) = fields := by
  have pieces : (joined delimiter fields).splitOn delimiter = fields :=
    List.splitOn_intercalate delimiter (fun field member => (unbroken field member).1) nonempty
  have last : fields.getLast? ≠ some [] := fun empty =>
    (unbroken [] (List.mem_of_getLast? empty)).2 rfl
  rw [getlines, pieces, if_neg last]

theorem mem_joined {delimiter c : Char} {fields : List (List Char)}
    (member : c ∈ joined delimiter fields) : c = delimiter ∨ ∃ field ∈ fields, c ∈ field := by
  induction fields with
  | nil => simp [joined, List.intercalate] at member
  | cons field fields ih =>
    cases fields with
    | nil =>
      rw [joined, List.intercalate_singleton] at member
      exact .inr ⟨field, List.mem_singleton_self field, member⟩
    | cons field' fields =>
      rw [joined, List.intercalate_cons_cons, List.mem_append, List.mem_append,
        List.mem_singleton] at member
      obtain (here | same) | later := member
      · exact .inr ⟨field, List.mem_cons_self, here⟩
      · exact .inl same
      · cases ih later with
        | inl same => exact .inl same
        | inr found =>
          obtain ⟨other, member, inside⟩ := found
          exact .inr ⟨other, List.mem_cons_of_mem _ member, inside⟩

theorem joined_ne_nil {delimiter : Char} {fields : List (List Char)} (nonempty : fields ≠ [])
    (filled : ∀ field ∈ fields, field ≠ []) : joined delimiter fields ≠ [] := by
  obtain ⟨field, fields, rfl⟩ := List.exists_cons_of_ne_nil nonempty
  have here := filled field List.mem_cons_self
  cases fields with
  | nil => rwa [joined, List.intercalate_singleton]
  | cons field' fields =>
    rw [joined, List.intercalate_cons_cons]
    simp [here]

/-! ## Padding -/

/-- `%0*d`: the sign counts as well. -/
def zeroPadded (width : Nat) (n : Int) : List Char :=
  let digits := decimal n.natAbs
  if n < 0 then '-' :: (List.replicate (width - 1 - digits.length) '0' ++ digits)
  else List.replicate (width - digits.length) '0' ++ digits

theorem magnitude_padded (zeros n : Nat) :
    magnitude (List.replicate zeros '0' ++ decimal n) = n := by
  rw [magnitude, Nat.ofDigitChars_append, Nat.ofDigitChars_replicate_zero, Nat.mul_zero,
    ← magnitude, magnitude_decimal]

theorem not_minus_of_mem_padded {zeros n : Nat} :
    '-' ∉ List.replicate zeros '0' ++ decimal n := by
  rw [List.mem_append, not_or]
  refine ⟨fun member => ?_, fun member => ?_⟩
  · exact absurd (List.eq_of_mem_replicate member) (by decide)
  · exact absurd (isDigit_of_mem_decimal member) (by decide)

theorem zeroPadded_injective (width : Nat) : Function.Injective (zeroPadded width) := by
  intro n n' same
  simp only [zeroPadded] at same
  split at same
  · next negative =>
    split at same
    · next negative' =>
      have size := congrArg magnitude (List.cons_eq_cons.mp same).2
      rw [magnitude_padded, magnitude_padded] at size
      omega
    · exact absurd (same ▸ List.mem_cons_self) not_minus_of_mem_padded
  · next natural =>
    split at same
    · exact absurd (same.symm ▸ List.mem_cons_self) not_minus_of_mem_padded
    · next natural' =>
      have size := congrArg magnitude same
      rw [magnitude_padded, magnitude_padded] at size
      omega

/-- `operator<<` of an integer. -/
def signed (n : Int) : List Char := zeroPadded 0 n

theorem signed_of_neg {n : Int} (negative : n < 0) : signed n = '-' :: decimal n.natAbs := by
  simp [signed, zeroPadded, negative]

theorem signed_of_nonneg {n : Int} (natural : 0 ≤ n) : signed n = decimal n.natAbs := by
  simp [signed, zeroPadded, Int.not_lt.mpr natural]

theorem stoi_signed {n : Int} (low : -2 ^ 31 ≤ n) (high : n < 2 ^ 31) :
    stoi (signed n) = some n := by
  by_cases negative : n < 0
  · rw [signed_of_neg negative, stoi_negative (decimal_isNumeral _) (by simp; omega),
      magnitude_decimal]
    congr 1
    omega
  · rw [signed_of_nonneg (by omega), stoi_decimal (by omega)]
    congr 1
    omega

end Library.Text
