import Mathlib.Data.List.Basic

/-! # Messages in a stream

* `Stream`: a stream that is received in pieces of any size.
* `readLoop_spec`: a loop that reads a number of elements gets the next ones, however the stream is
  cut, or all there are.
* `Cut`: the longest front of a stream that is made of whole messages.
* `Cut.unique`, `Cut.truncated`: there is one, and on a truncated stream of messages it is made of
  those that are left whole.
-/

namespace Library.Streams

variable {α β : Type}

/-! ## Receiving -/

/-- What the peer sends and was not received yet, with the number of reads so far. -/
structure Stream (α : Type) where
  incoming : List α
  calls : Nat := 0

-- how many elements each read hands over
variable (split : Nat → Nat)

/-- A read with room for `size` elements: at least one while there are any. -/
def readSome (size : Nat) (stream : Stream α) : List α × Stream α :=
  let n := min size (max 1 (split stream.calls))
  (stream.incoming.take n, { incoming := stream.incoming.drop n, calls := stream.calls + 1 })

/-- Reads until `size` elements have come or a read gives nothing.  Each read gives an element or
    ends the loop, so `size` rounds are enough. -/
def readLoop : (rounds size : Nat) → Stream α → (Bool × List α) × Stream α
  | _, 0, stream => ((true, []), stream)
  | 0, _, stream => ((false, []), stream)
  | rounds + 1, size, stream =>
    let (chunk, stream) := readSome split size stream
    if chunk.isEmpty then ((false, []), stream)
    else
      let ((complete, rest), stream) := readLoop rounds (size - chunk.length) stream
      ((complete, chunk ++ rest), stream)

/-- A read with room takes some of the elements that are left. -/
theorem readSome_spec {size : Nat} (room : 0 < size) {stream : Stream α}
    (left : 0 < stream.incoming.length) :
    ∃ m, 0 < m ∧ m ≤ size ∧ m ≤ stream.incoming.length ∧
      readSome split size stream = (stream.incoming.take m,
        { incoming := stream.incoming.drop m, calls := stream.calls + 1 }) := by
  let n := min size (max 1 (split stream.calls))
  refine ⟨min n stream.incoming.length, by simp only [n]; omega, by simp only [n]; omega,
    Nat.min_le_right _ _, ?_⟩
  have chunk : stream.incoming.take n =
      stream.incoming.take (min n stream.incoming.length) := by
    simp [List.take_eq_take_iff]
  have rest : stream.incoming.drop n =
      stream.incoming.drop (min n stream.incoming.length) := by
    cases Nat.le_total n stream.incoming.length with
    | inl short => rw [Nat.min_eq_left short]
    | inr long => rw [Nat.min_eq_right long, List.drop_eq_nil_of_le long, List.drop_length]
  rw [← chunk, ← rest]
  rfl

/-- However the stream is cut, the loop takes the next `size` elements, or all of them and
    fails. -/
theorem readLoop_spec (rounds size : Nat) (stream : Stream α) (enough : size ≤ rounds) :
    ∃ calls, readLoop split rounds size stream =
      ((decide (size ≤ stream.incoming.length), stream.incoming.take size),
        { incoming := stream.incoming.drop size, calls }) := by
  induction rounds generalizing size stream with
  | zero =>
    obtain rfl : size = 0 := by omega
    exact ⟨stream.calls, by simp [readLoop]⟩
  | succ rounds ih =>
    cases size with
    | zero => exact ⟨stream.calls, by simp [readLoop]⟩
    | succ size =>
      cases Nat.eq_zero_or_pos stream.incoming.length with
      | inl nothing =>
        -- the stream is exhausted: the read gives nothing
        have drained := List.length_eq_zero_iff.mp nothing
        exact ⟨stream.calls + 1, by simp [readLoop, readSome, drained]⟩
      | inr left =>
        obtain ⟨m, positive, atMost, within, read⟩ :=
          readSome_spec split (Nat.succ_pos size) left
        have received : (stream.incoming.take m).length = m := List.length_take_of_le within
        have nonempty : (stream.incoming.take m).isEmpty = false := by
          rw [← Bool.not_eq_true, List.isEmpty_iff_length_eq_zero, received]
          omega
        obtain ⟨calls, tail⟩ := ih (size + 1 - m)
          { incoming := stream.incoming.drop m, calls := stream.calls + 1 } (by omega)
        refine ⟨calls, ?_⟩
        simp only [readLoop, read, nonempty, received, Bool.false_eq_true, if_false, tail,
          List.length_drop, List.drop_drop]
        have whole : m + (size + 1 - m) = size + 1 := by omega
        have complete : (size + 1 - m ≤ stream.incoming.length - m) =
            (size + 1 ≤ stream.incoming.length) := by
          rw [eq_iff_iff]
          omega
        rw [← List.take_add, whole]
        simp only [complete]

/-! ## Whole messages -/

variable {encode : α → List β} {good : α → Prop}

/-- `stream` is made of the good messages `values`, and of a rest that none begins. -/
structure Cut (encode : α → List β) (good : α → Prop) (stream : List β) (values : List α)
    (rest : List β) : Prop where
  whole : stream = values.flatMap encode ++ rest
  all : ∀ value ∈ values, good value
  maximal : ∀ value, good value → ¬ encode value <+: rest

/-- At most one good message begins a stream. -/
def Delimited (encode : α → List β) (good : α → Prop) : Prop :=
  ∀ value value' stream, good value → good value' → encode value <+: stream →
    encode value' <+: stream → value = value'

section Cut

variable {stream rest rest' : List β} {value : α} {values values' : List α}

/-- The cut of a stream behind its first message. -/
theorem Cut.cons (first : good value) (cut : Cut encode good stream values rest) :
    Cut encode good (encode value ++ stream) (value :: values) rest where
  whole := by rw [cut.whole, List.flatMap_cons, List.append_assoc]
  all := by
    simp only [List.mem_cons, forall_eq_or_imp]
    exact ⟨first, cut.all⟩
  maximal := cut.maximal

theorem Cut.unique (delimited : Delimited encode good) (cut : Cut encode good stream values rest)
    (cut' : Cut encode good stream values' rest') : values = values' ∧ rest = rest' := by
  induction values generalizing stream values' with
  | nil =>
    cases values' with
    | nil => exact ⟨rfl, cut.whole.symm.trans cut'.whole⟩
    | cons value' values' =>
      -- where one cut ends, the other cannot go on
      refine (cut.maximal value' (cut'.all _ List.mem_cons_self) ⟨values'.flatMap encode ++ rest',
        ?_⟩).elim
      rw [← List.append_assoc, ← List.flatMap_cons, ← cut'.whole]
      exact cut.whole
  | cons value values ih =>
    have first : encode value <+: stream := by
      rw [cut.whole, List.flatMap_cons, List.append_assoc]
      exact List.prefix_append _ _
    cases values' with
    | nil =>
      rw [show stream = rest' from cut'.whole] at first
      exact (cut'.maximal value (cut.all _ List.mem_cons_self) first).elim
    | cons value' values' =>
      have first' : encode value' <+: stream := by
        rw [cut'.whole, List.flatMap_cons, List.append_assoc]
        exact List.prefix_append _ _
      obtain rfl := delimited value value' stream (cut.all _ List.mem_cons_self)
        (cut'.all _ List.mem_cons_self) first first'
      have tail : values.flatMap encode ++ rest = values'.flatMap encode ++ rest' := by
        have same := cut.whole.symm.trans cut'.whole
        rw [List.flatMap_cons, List.flatMap_cons, List.append_assoc, List.append_assoc] at same
        exact List.append_cancel_left same
      obtain ⟨same, rests⟩ := ih
        ⟨rfl, fun v member => cut.all v (List.mem_cons_of_mem _ member), cut.maximal⟩
        ⟨tail, fun v member => cut'.all v (List.mem_cons_of_mem _ member), cut'.maximal⟩
      exact ⟨by rw [same], rests⟩

/-- A truncated stream of good messages: those in front are whole, and the rest is a part of the
    next one. -/
theorem Cut.truncated (delimited : Delimited encode good) (nonempty : ∀ value, encode value ≠ [])
    (values : List α) (all : ∀ value ∈ values, good value) (n : Nat) :
    ∃ complete later rest, values = complete ++ later ∧
      Cut encode good ((values.flatMap encode).take n) complete rest ∧
      (complete.flatMap encode).length ≤ n ∧
      (later = [] → rest = []) ∧
      ∀ next ∈ later.head?, n < ((complete ++ [next]).flatMap encode).length ∧
        rest <+: encode next ∧ rest.length < (encode next).length := by
  induction values generalizing n with
  | nil =>
    refine ⟨[], [], [], rfl, ⟨by simp, by simp, fun value _ => ?_⟩, by simp, fun _ => rfl, by simp⟩
    rw [List.prefix_nil]
    exact nonempty value
  | cons value values ih =>
    have first := all value List.mem_cons_self
    by_cases fits : (encode value).length ≤ n
    · obtain ⟨complete, later, rest, split, cut, bound, done, next⟩ := ih
        (fun v member => all v (List.mem_cons_of_mem value member)) (n - (encode value).length)
      refine ⟨value :: complete, later, rest, by rw [split, List.cons_append], ?_, ?_, done, ?_⟩
      · rw [List.flatMap_cons, List.take_append, List.take_of_length_le fits]
        exact cut.cons first
      · rw [List.flatMap_cons, List.length_append]
        omega
      · intro behind head
        obtain ⟨beyond, part⟩ := next behind head
        refine ⟨?_, part⟩
        rw [List.cons_append, List.flatMap_cons, List.length_append]
        omega
    · have front : ((value :: values).flatMap encode).take n = (encode value).take n := by
        rw [List.flatMap_cons, List.take_append_of_le_length (by omega)]
      have short : ((encode value).take n).length = n := by
        rw [List.length_take]
        omega
      refine ⟨[], value :: values, (encode value).take n, rfl, ⟨front, by simp, ?_⟩, by simp,
        by simp, ?_⟩
      · intro value' isGood begins
        obtain rfl := delimited value' value (encode value) isGood first
          (begins.trans (List.take_prefix n _)) (List.prefix_refl _)
        have := begins.length_le
        omega
      · intro next head
        cases head
        refine ⟨?_, List.take_prefix n _, by omega⟩
        rw [List.nil_append, List.flatMap_singleton]
        omega

end Cut

end Library.Streams
