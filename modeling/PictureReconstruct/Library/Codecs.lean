import Mathlib.Data.List.Basic

/-! # Encoders and parsers of byte strings

A parser is given the bytes and the old value of its result, and returns whether it accepted them
with the new value.

* `Codec`: an encoder of fixed width and a parser that are inverse to each other.
* `Codec.disjoint`: encoders that differ in a byte string's front have parsers that never accept the
  same string.
* `concatenation_injective`: encodings that carry their own length can be told apart in a stream.
-/

namespace Library.Codecs

variable {α β : Type}

/-- `build` and `parse` are inverse to each other up to `normalise`, over the first `size` bytes,
    and a string that is not accepted leaves the result as it was. -/
structure Codec (build : α → List UInt8) (parse : List UInt8 → α → Bool × α) (size : Nat)
    (normalise : List UInt8 → List UInt8) : Prop where
  readsBack : ∀ value old rest, parse (build value ++ rest) old = (true, value)
  rebuilds : ∀ data old value, parse data old = (true, value) →
    size ≤ data.length ∧ build value = normalise (data.take size)
  keeps : ∀ data old, (parse data old).1 = false → (parse data old).2 = old

section Codec

variable {build : α → List UInt8} {parse : List UInt8 → α → Bool × α} {size : Nat}
  {normalise : List UInt8 → List UInt8}

/-- What a parser can do that looks at the length first and then at some fixed fields. -/
theorem guarded_cases {data : List UInt8} {old value : α} {Accepted : Prop}
    {decidable : Decidable Accepted} (short : data.length < size → parse data old = (false, old))
    (long : size ≤ data.length →
      parse data old = if Accepted then (true, value) else (false, old)) :
    (size ≤ data.length ∧ Accepted ∧ parse data old = (true, value)) ∨
      parse data old = (false, old) := by
  cases Nat.lt_or_ge data.length size with
  | inl shorter => exact .inr (short shorter)
  | inr longer =>
    rw [long longer]
    split
    · next accepted => exact .inl ⟨longer, accepted, rfl⟩
    · exact .inr rfl

/-- A string is accepted when the parser decides by `Accepted` and then reads `value`. -/
theorem Codec.of_cases {Accepted : List UInt8 → Prop} {value : List UInt8 → α}
    (cases : ∀ data old,
      (size ≤ data.length ∧ Accepted data ∧ parse data old = (true, value data)) ∨
        parse data old = (false, old))
    (readsBack : ∀ value old rest, parse (build value ++ rest) old = (true, value))
    (rebuilds : ∀ data, size ≤ data.length → Accepted data →
      build (value data) = normalise (data.take size)) :
    Codec build parse size normalise where
  readsBack := readsBack
  rebuilds data old result accepted := by
    obtain ⟨long, fixed, read⟩ | refused := cases data old
    · rw [read] at accepted
      rw [← (Prod.mk.inj accepted).2]
      exact ⟨long, rebuilds data long fixed⟩
    · rw [refused] at accepted
      exact absurd (Prod.mk.inj accepted).1 Bool.noConfusion
  keeps data old refused := by
    obtain ⟨_, _, read⟩ | kept := cases data old
    · rw [read] at refused
      exact absurd refused Bool.noConfusion
    · rw [kept]

/-- What is accepted is the encoding of something, up to `normalise`. -/
theorem Codec.accepted (codec : Codec build parse size normalise) {data : List UInt8} {old : α}
    (accepted : (parse data old).1 = true) : ∃ value, build value = normalise (data.take size) := by
  refine ⟨(parse data old).2, (codec.rebuilds data old _ ?_).2⟩
  rw [← accepted]

/-- Two parsers never accept the same string when the first `front` bytes tell the encodings
    apart. -/
theorem Codec.disjoint {build' : β → List UInt8} {parse' : List UInt8 → β → Bool × β} {size' : Nat}
    (codec : Codec build parse size id) (codec' : Codec build' parse' size' id) {front : Nat}
    (inside : front ≤ size) (inside' : front ≤ size')
    (apart : ∀ value value', (build value).take front ≠ (build' value').take front)
    (data : List UInt8) (old : α) (old' : β) :
    ¬ ((parse data old).1 = true ∧ (parse' data old').1 = true) := by
  rintro ⟨accepted, accepted'⟩
  obtain ⟨value, built⟩ := codec.accepted accepted
  obtain ⟨value', built'⟩ := codec'.accepted accepted'
  apply apart value value'
  rw [built, built', id, id, List.take_take, List.take_take, Nat.min_eq_left inside,
    Nat.min_eq_left inside']

end Codec

/-- Where the length of an encoding can be read off its own bytes, a stream of encodings can be cut
    in one way only. -/
theorem concatenation_injective {encode : α → List UInt8} (length : List UInt8 → Nat)
    (delimited : ∀ value rest, length (encode value ++ rest) = (encode value).length)
    (nonempty : ∀ value, encode value ≠ []) (injective : Function.Injective encode) :
    Function.Injective fun values : List α => values.flatMap encode := by
  intro values values' same
  induction values generalizing values' with
  | nil =>
    cases values' with
    | nil => rfl
    | cons value' values' =>
      have empty := List.append_eq_nil_iff.mp same.symm
      exact absurd empty.1 (nonempty value')
  | cons value values ih =>
    cases values' with
    | nil =>
      have empty := List.append_eq_nil_iff.mp same
      exact absurd empty.1 (nonempty value)
    | cons value' values' =>
      simp only [List.flatMap_cons] at same
      have lengths : (encode value).length = (encode value').length := by
        rw [← delimited value (values.flatMap encode), same, delimited]
      obtain ⟨first, rest⟩ := List.append_inj same lengths
      rw [injective first, ih rest]

end Library.Codecs
