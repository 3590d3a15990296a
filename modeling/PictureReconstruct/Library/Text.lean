import Mathlib.Data.List.TakeDrop
import Mathlib.Data.List.TakeWhile
import Mathlib.Data.UInt

/-! # Decimal text as the C++ standard library writes and reads it

Text is a list of characters.

* `decimal`: `std::to_string` and `operator<<` of an unsigned number.
* `stoull`, `stoul`, `stoi`: the conversions of `<string>`, `none` where they throw.
* `stoull_numeral`, `stoi_numeral`, `stoi_negative`: what they read in a number with no other text.
* `stoull_decimal`, `stoul_decimal`, `stoi_decimal`: reading back what was written.
* `lines`: the successive results of `std::getline`.
* `lines_take_unlines`, `lines_take_unlines_of_le`: what is read of a text that was cut off
  somewhere, or not at all.
* `splitFirst`: a line as a key and its value.
-/

namespace Library.Text

/-! ## Numbers -/

def decimal (n : Nat) : List Char := Nat.toDigits 10 n

theorem decimal_ne_nil (n : Nat) : decimal n ≠ [] := Nat.toDigits_ne_nil

theorem isDigit_of_mem_decimal {n : Nat} {c : Char} (member : c ∈ decimal n) : c.isDigit :=
  Nat.isDigit_of_mem_toDigits (by decide) (by decide) member

/-- `isspace` in the "C" locale. -/
def isSpace (c : Char) : Bool :=
  c = ' ' || c = '\t' || c = '\n' || c = '\x0b' || c = '\x0c' || c = '\r'

/-- The subject of a conversion: white space and a sign are skipped, then digits are taken. -/
def scanInteger (text : List Char) : Bool × List Char :=
  match text.dropWhile isSpace with
  -- at most one sign is skipped
  | '-' :: rest => (true, rest.takeWhile Char.isDigit)
  | '+' :: rest => (false, rest.takeWhile Char.isDigit)
  | rest => (false, rest.takeWhile Char.isDigit)

/-- `std::stoull`: a minus sign negates modulo `2 ^ 64`. -/
def stoull (text : List Char) : Option UInt64 :=
  let (negative, digits) := scanInteger text
  let magnitude := Nat.ofDigitChars 10 digits 0
  if digits.isEmpty || decide (2 ^ 64 ≤ magnitude) then none
  else some (if negative then -UInt64.ofNat magnitude else UInt64.ofNat magnitude)

/-- `std::stoul`, where `unsigned long` has 64 bits. -/
def stoul (text : List Char) : Option UInt64 := stoull text

/-- `std::stoi`, where `int` has 32 bits. -/
def stoi (text : List Char) : Option Int :=
  let (negative, digits) := scanInteger text
  let magnitude : Int := Nat.ofDigitChars 10 digits 0
  let value := if negative then -magnitude else magnitude
  if digits.isEmpty || decide (value < -2 ^ 31) || decide (2 ^ 31 ≤ value) then none
  else some value

/-- A digit is neither white space nor a sign. -/
theorem not_skipped_of_isDigit {c : Char} (digit : c.isDigit) :
    isSpace c = false ∧ c ≠ '-' ∧ c ≠ '+' := by
  refine ⟨?_, ?_, ?_⟩
  · rw [isSpace, ← Bool.not_eq_true]
    simp only [Bool.or_eq_true, decide_eq_true_eq]
    rintro (((((rfl | rfl) | rfl) | rfl) | rfl) | rfl) <;> exact absurd digit (by decide)
  · rintro rfl
    exact absurd digit (by decide)
  · rintro rfl
    exact absurd digit (by decide)

/-- The text is a number without a sign. -/
def IsNumeral (text : List Char) : Prop := text ≠ [] ∧ ∀ c ∈ text, c.isDigit

instance (text : List Char) : Decidable (IsNumeral text) :=
  inferInstanceAs (Decidable (_ ∧ _))

/-- The number that digits spell. -/
def magnitude (digits : List Char) : Nat := Nat.ofDigitChars 10 digits 0

theorem decimal_isNumeral (n : Nat) : IsNumeral (decimal n) :=
  ⟨decimal_ne_nil n, fun _ member => isDigit_of_mem_decimal member⟩

@[simp] theorem magnitude_decimal (n : Nat) : magnitude (decimal n) = n :=
  Nat.ofDigitChars_ten_toDigits

section Numerals

variable {text : List Char} (numeral : IsNumeral text)
include numeral

theorem scanInteger_numeral : scanInteger text = (false, text) := by
  obtain ⟨nonempty, digits⟩ := numeral
  obtain ⟨c, rest, shape⟩ := List.exists_cons_of_ne_nil nonempty
  have taken : text.takeWhile Char.isDigit = text := List.takeWhile_eq_self_iff.mpr digits
  rw [shape] at digits taken ⊢
  obtain ⟨graph, minus, plus⟩ := not_skipped_of_isDigit (digits c List.mem_cons_self)
  rw [scanInteger, List.dropWhile_cons_of_neg (by simp [graph])]
  split
  · simp_all
  · simp_all
  · rw [taken]

theorem scanInteger_negative : scanInteger ('-' :: text) = (true, text) := by
  have visible : isSpace '-' = false := by decide
  rw [scanInteger, List.dropWhile_cons_of_neg (by simp [visible])]
  exact congrArg (Prod.mk true) (List.takeWhile_eq_self_iff.mpr numeral.2)

theorem stoull_numeral (small : magnitude text < 2 ^ 64) :
    stoull text = some (UInt64.ofNat (magnitude text)) := by
  have nonempty : text.isEmpty = false := List.isEmpty_eq_false_iff.mpr numeral.1
  simp only [stoull, scanInteger_numeral numeral, nonempty, Bool.false_or, decide_eq_true_eq,
    Bool.false_eq_true, if_false]
  exact if_neg (Nat.not_le.mpr small)

theorem stoi_numeral (small : magnitude text < 2 ^ 31) :
    stoi text = some (magnitude text : Int) := by
  have nonempty : text.isEmpty = false := List.isEmpty_eq_false_iff.mpr numeral.1
  simp only [stoi, scanInteger_numeral numeral, nonempty, Bool.false_or, Bool.or_eq_true,
    decide_eq_true_eq, Bool.false_eq_true, if_false]
  rw [magnitude] at small ⊢
  exact if_neg (by omega)

theorem stoi_negative (small : magnitude text ≤ 2 ^ 31) :
    stoi ('-' :: text) = some (-(magnitude text : Int)) := by
  have nonempty : text.isEmpty = false := List.isEmpty_eq_false_iff.mpr numeral.1
  simp only [stoi, scanInteger_negative numeral, nonempty, Bool.false_or, Bool.or_eq_true,
    decide_eq_true_eq, if_true]
  rw [magnitude] at small ⊢
  exact if_neg (by omega)

end Numerals

theorem stoull_decimal (value : UInt64) : stoull (decimal value.toNat) = some value := by
  rw [stoull_numeral (decimal_isNumeral _) (by simpa using value.toNat_lt), magnitude_decimal,
    UInt64.ofNat_toNat]

theorem stoul_decimal (value : UInt32) :
    (stoul (decimal value.toNat)).map UInt64.toUInt32 = some value := by
  have wide := stoull_decimal value.toUInt64
  rw [UInt32.toNat_toUInt64] at wide
  rw [stoul, wide]
  simp

theorem stoi_decimal {n : Nat} (bound : n < 2 ^ 31) : stoi (decimal n) = some (n : Int) := by
  rw [stoi_numeral (decimal_isNumeral n) (by simpa using bound), magnitude_decimal]

theorem stoi_nil : stoi [] = none := rfl

/-! ## Lines -/

/-- What `std::getline` reads until it fails: a text that ends without a line break has a last
    line, unless that line is empty. -/
def lines : List Char → List (List Char)
  | [] => []
  | '\n' :: rest => [] :: lines rest
  | c :: rest =>
    match lines rest with
    | [] => [[c]]
    | line :: others => (c :: line) :: others

/-- The text with a line break behind each line. -/
def unlines (rows : List (List Char)) : List Char := rows.flatMap (· ++ ['\n'])

theorem lines_cons {c : Char} (same : c ≠ '\n') (rest : List Char) :
    lines (c :: rest) = match lines rest with
      | [] => [[c]]
      | line :: others => (c :: line) :: others := by
  rw [lines]
  exact same

theorem lines_line {line : List Char} (unbroken : '\n' ∉ line) (rest : List Char) :
    lines (line ++ '\n' :: rest) = line :: lines rest := by
  induction line with
  | nil => rw [List.nil_append, lines]
  | cons c line ih =>
    rw [List.mem_cons, not_or] at unbroken
    rw [List.cons_append, lines_cons (Ne.symm unbroken.1), ih unbroken.2]

theorem lines_last {line : List Char} (unbroken : '\n' ∉ line) :
    lines line = if line = [] then [] else [line] := by
  induction line with
  | nil => rfl
  | cons c line ih =>
    rw [List.mem_cons, not_or] at unbroken
    rw [lines_cons (Ne.symm unbroken.1), ih unbroken.2]
    cases line <;> simp

/-- A text cut off inside its first line, or behind it. -/
theorem lines_take_unlines_cons {row : List Char} (unbroken : '\n' ∉ row)
    (rows : List (List Char)) (n : Nat) :
    lines ((unlines (row :: rows)).take n) =
      if n ≤ row.length then (if row.take n = [] then [] else [row.take n])
      else row :: lines ((unlines rows).take (n - row.length - 1)) := by
  have shape : unlines (row :: rows) = row ++ '\n' :: unlines rows := by simp [unlines]
  rw [shape]
  split
  · next inside =>
    rw [List.take_append_of_le_length inside]
    exact lines_last (fun member => unbroken (List.mem_of_mem_take member))
  · next behind =>
    obtain ⟨further, beyond⟩ : ∃ further, n = row.length + (further + 1) :=
      ⟨n - row.length - 1, by omega⟩
    have left : n - row.length - 1 = further := by omega
    rw [left, beyond, List.take_length_add_append, List.take_succ_cons, lines_line unbroken]

/-- The lines of a text that was cut off before the end of its last line are whole lines before
    the last one, or a piece of a line. -/
theorem lines_take_unlines {rows : List (List Char)} {last : List Char} {n : Nat}
    {P : List Char → Prop} (unbroken : ∀ row ∈ rows ++ [last], '\n' ∉ row)
    (cut : ∀ row ∈ rows, ∀ m, P (row.take m)) (cutLast : ∀ m < last.length, P (last.take m))
    (short : n < (unlines rows).length + last.length) :
    ∀ line ∈ lines ((unlines (rows ++ [last])).take n), P line := by
  induction rows generalizing n with
  | nil =>
    intro line member
    -- only the last line is left, and it was cut
    have inside : n < last.length := by simpa [unlines] using short
    rw [List.nil_append, lines_take_unlines_cons (unbroken last (by simp)),
      if_pos (Nat.le_of_lt inside)] at member
    split at member
    · simp at member
    · rw [List.mem_singleton.mp member]
      exact cutLast n inside
  | cons row rows ih =>
    intro line member
    rw [List.cons_append, lines_take_unlines_cons (unbroken row (by simp))] at member
    split at member
    · split at member
      · simp at member
      · rw [List.mem_singleton.mp member]
        exact cut row List.mem_cons_self n
    · next behind =>
      rcases List.mem_cons.mp member with rfl | later
      · simpa using cut line List.mem_cons_self line.length
      · refine ih (fun other inside => unbroken other (List.mem_cons_of_mem _ inside))
          (fun other inside => cut other (List.mem_cons_of_mem _ inside)) ?_ line later
        simp only [unlines, List.flatMap_cons, List.length_append, List.length_cons,
          List.length_nil] at short ⊢
        omega

/-- A text that lost nothing but its last line break, or nothing at all. -/
theorem lines_take_unlines_of_le {rows : List (List Char)} {last : List Char} {n : Nat}
    (unbroken : ∀ row ∈ rows ++ [last], '\n' ∉ row) (ended : last ≠ [])
    (long : (unlines (rows ++ [last])).length ≤ n + 1) :
    lines ((unlines (rows ++ [last])).take n) = rows ++ [last] := by
  induction rows generalizing n with
  | nil =>
    have behind : last.length ≤ n := by simpa [unlines] using long
    rw [List.nil_append, lines_take_unlines_cons (unbroken last (by simp)),
      List.take_of_length_le behind, if_neg ended]
    split
    · rfl
    · simp [unlines, lines]
  | cons row rows ih =>
    rw [List.cons_append] at long ⊢
    have length : (unlines (row :: (rows ++ [last]))).length =
        row.length + 1 + (unlines (rows ++ [last])).length := by
      simp only [unlines, List.flatMap_cons, List.length_append, List.length_singleton]
    have nonempty : 0 < (unlines (rows ++ [last])).length := by
      simp only [unlines, List.flatMap_append, List.flatMap_singleton, List.length_append,
        List.length_singleton]
      omega
    rw [lines_take_unlines_cons (unbroken row (by simp)), if_neg (by omega),
      ih (fun other inside => unbroken other (List.mem_cons_of_mem _ inside)) (by omega)]

/-! ## Keys and values -/

/-- What stands before and behind the first `c` of a text. -/
def splitFirst (c : Char) (text : List Char) : Option (List Char × List Char) :=
  match text.span (· ≠ c) with
  | (_, []) => none
  | (front, _ :: back) => some (front, back)

theorem splitFirst_append {c : Char} {key : List Char} (absent : c ∉ key) (value : List Char) :
    splitFirst c (key ++ c :: value) = some (key, value) := by
  have passed : ∀ d ∈ key, decide (d ≠ c) = true := fun d member =>
    decide_eq_true fun same => absent (same ▸ member)
  rw [splitFirst, List.span_eq_takeWhile_dropWhile, List.takeWhile_append_of_pos passed,
    List.dropWhile_append_of_pos passed]
  simp

theorem splitFirst_none {c : Char} {text : List Char} (absent : c ∉ text) :
    splitFirst c text = none := by
  have passed : ∀ d ∈ text, decide (d ≠ c) = true := fun d member =>
    decide_eq_true fun same => absent (same ▸ member)
  have nothing : text.dropWhile (fun d => decide (d ≠ c)) = [] :=
    List.dropWhile_eq_nil_iff.mpr passed
  rw [splitFirst, List.span_eq_takeWhile_dropWhile, nothing]

/-- The line of a key and its value, cut off somewhere. -/
theorem splitFirst_take {c : Char} {key : List Char} (absent : c ∉ key) (value : List Char)
    (n : Nat) : splitFirst c ((key ++ c :: value).take n) =
      if n ≤ key.length then none else some (key, value.take (n - key.length - 1)) := by
  split
  · next inside =>
    rw [List.take_append_of_le_length inside]
    exact splitFirst_none fun member => absent (List.mem_of_mem_take member)
  · next behind =>
    obtain ⟨further, beyond⟩ : ∃ further, n = key.length + (further + 1) :=
      ⟨n - key.length - 1, by omega⟩
    have left : n - key.length - 1 = further := by omega
    rw [left, beyond, List.take_length_add_append, List.take_succ_cons, splitFirst_append absent]

end Library.Text
