import Mathlib.Algebra.Ring.Int.Defs
import Mathlib.Data.List.Basic

/-! # Data-parallel launches

A launch runs a kernel once for each of its threads.  A thread reads buffers that the launch leaves
alone and stores at most one value into the buffer that the launch fills, so the threads may come in
any order.

* `load`, `store`: an access outside of a buffer is a fault, and so is a read of a cell that nothing
  was stored to.
* `copy`: a copy from one memory to another, a fault where it leaves the buffer.
* `Schedule`: every thread once, in some order.
* `launch_covers`: when the threads store every cell, what is stored is all there is.
-/

namespace Library.DataParallel

variable {T α : Type}

inductive Fault
  | outside
  | unwritten
  | overflow
deriving DecidableEq

/-- The cells of a buffer, none where nothing was stored yet. -/
abbrev Cells (α : Type) := List (Option α)

/-- A result of signed 32-bit arithmetic. -/
def int32 (n : Int) : Except Fault Int :=
  if -2 ^ 31 ≤ n ∧ n < 2 ^ 31 then .ok n else .error .overflow

def load (cells : Cells α) (index : Int) : Except Fault α :=
  if 0 ≤ index then
    match cells[index.toNat]? with
    | some (some value) => .ok value
    | some none => .error .unwritten
    | none => .error .outside
  else .error .outside

def store (cells : Cells α) (index : Int) (value : α) : Except Fault (Cells α) :=
  if 0 ≤ index ∧ index < cells.length then .ok (cells.set index.toNat (some value))
  else .error .outside

/-- The first `count` values of a buffer. -/
def copy : (count : Nat) → Cells α → Except Fault (List α)
  | 0, _ => .ok []
  | _ + 1, [] => .error .outside
  | _ + 1, none :: _ => .error .unwritten
  | count + 1, some value :: cells => do
    let values ← copy count cells
    return value :: values

theorem ok_bind {ε β : Type} (value : α) (next : α → Except ε β) :
    (Except.ok value >>= next) = next value := rfl

/-- A computation in two steps has no fault in either. -/
theorem bind_ok {ε β : Type} {first : Except ε α} {next : α → Except ε β} {result : β}
    (run : first >>= next = .ok result) : ∃ value, first = .ok value ∧ next value = .ok result := by
  cases first with
  | error fault => cases run
  | ok value => exact ⟨value, rfl, run⟩

/-- The threads run the kernel one after the other. -/
def launch (kernel : T → Except Fault (Option (Int × α))) :
    List T → Cells α → Except Fault (Cells α)
  | [], cells => .ok cells
  | thread :: threads, cells => do
    match ← kernel thread with
    | none => launch kernel threads cells
    | some (index, value) => launch kernel threads (← store cells index value)

theorem int32_ok {n : Int} (low : -2 ^ 31 ≤ n) (high : n < 2 ^ 31) : int32 n = .ok n :=
  if_pos ⟨low, high⟩

/-- A read of a cell that something was stored to. -/
theorem load_ok {cells : Cells α} {index : Nat} {value : α}
    (held : cells[index]? = some (some value)) : load cells index = .ok value := by
  rw [load, if_pos (Int.natCast_nonneg index), Int.toNat_natCast, held]

theorem store_ok {cells : Cells α} {index : Nat} (inside : index < cells.length) (value : α) :
    store cells index value = .ok (cells.set index (some value)) := by
  rw [store, if_pos ⟨Int.natCast_nonneg index, Int.ofNat_lt.mpr inside⟩, Int.toNat_natCast]

theorem copy_ok {values : List α} {count : Nat} (enough : count ≤ values.length) :
    copy count (values.map some) = .ok (values.take count) := by
  induction values generalizing count with
  | nil =>
    rw [Nat.le_zero.mp enough]
    rfl
  | cons value values ih =>
    cases count with
    | zero => rfl
    | succ count =>
      rw [List.map_cons, copy, ih (Nat.le_of_succ_le_succ enough)]
      rfl

/-- A copy that is longer than the buffer reads outside of it. -/
theorem copy_outside {values : List α} {count : Nat} (short : values.length < count) :
    copy count (values.map some) = .error .outside := by
  induction values generalizing count with
  | nil =>
    obtain ⟨count, rfl⟩ := Nat.exists_eq_succ_of_ne_zero (Nat.ne_of_gt short)
    rfl
  | cons value values ih =>
    obtain ⟨count, rfl⟩ := Nat.exists_eq_succ_of_ne_zero (Nat.ne_of_gt (Nat.zero_lt_of_lt short))
    rw [List.map_cons, copy, ih (Nat.lt_of_succ_lt_succ short)]
    rfl

/-- Every thread of a launch once, in the order in which they run. -/
structure Schedule (member : T → Prop) where
  order : List T
  nodup : order.Nodup
  complete : ∀ thread, thread ∈ order ↔ member thread

section Launch

variable {kernel : T → Except Fault (Option (Int × α))} {target : T → Option Nat} {value : Nat → α}

/-- The cells some thread stores to hold its value, the others what they held before. -/
theorem launch_stores (kernel : T → Except Fault (Option (Int × α))) (threads : List T)
    (cells : Cells α)
    (runs : ∀ thread ∈ threads,
      kernel thread = .ok ((target thread).map fun (index : Nat) => ((index : Int), value index)))
    (inside : ∀ thread ∈ threads, ∀ index, target thread = some index → index < cells.length) :
    ∃ result, launch kernel threads cells = .ok result ∧ result.length = cells.length ∧
      ∀ index < cells.length,
        ((∃ thread ∈ threads, target thread = some index) →
          result[index]? = some (some (value index))) ∧
        ((¬ ∃ thread ∈ threads, target thread = some index) → result[index]? = cells[index]?) := by
  induction threads generalizing cells with
  | nil => exact ⟨cells, rfl, rfl, fun index _ => by simp⟩
  | cons thread threads ih =>
    have first := runs thread List.mem_cons_self
    have others := fun thread' member => runs thread' (List.mem_cons_of_mem thread member)
    have inside' := fun thread' member => inside thread' (List.mem_cons_of_mem thread member)
    cases aim : target thread with
    | none =>
      obtain ⟨result, run, length, stored⟩ := ih cells others inside'
      refine ⟨result, ?_, length, ?_⟩
      · simp only [launch, first, aim]
        exact run
      · intro index bound
        simpa [aim] using stored index bound
    | some here =>
      have bound := inside thread List.mem_cons_self here aim
      obtain ⟨result, run, length, stored⟩ :=
        ih (cells.set here (some (value here))) others (by simpa using inside')
      rw [List.length_set] at length stored
      refine ⟨result, ?_, length, ?_⟩
      · simp only [launch, first, aim, ok_bind, Option.map_some]
        rw [store_ok bound, ok_bind]
        exact run
      · intro index within
        obtain ⟨later, never⟩ := stored index within
        by_cases again : ∃ thread' ∈ threads, target thread' = some index
        · simp only [List.exists_mem_cons_iff]
          exact ⟨fun _ => later again, fun absent => (absent (.inr again)).elim⟩
        · simp only [List.exists_mem_cons_iff, again, or_false, aim, Option.some.injEq]
          rw [never again]
          constructor
          · rintro rfl
            simp [bound]
          · intro elsewhere
            rw [List.getElem?_set_ne elsewhere]

/-- When every cell is stored to, the order of the threads is of no concern, nor is what the buffer
    held before. -/
theorem launch_covers {member : T → Prop} (schedule : Schedule member) (cells : Cells α)
    (runs : ∀ thread, member thread →
      kernel thread = .ok ((target thread).map fun (index : Nat) => ((index : Int), value index)))
    (inside : ∀ thread, member thread → ∀ index, target thread = some index →
      index < cells.length)
    (each : ∀ index < cells.length, ∃ thread, member thread ∧ target thread = some index) :
    launch kernel schedule.order cells =
      .ok ((List.range cells.length).map fun index => some (value index)) := by
  obtain ⟨result, run, length, stored⟩ := launch_stores kernel schedule.order cells
    (fun thread listed => runs thread ((schedule.complete thread).mp listed))
    (fun thread listed => inside thread ((schedule.complete thread).mp listed))
  rw [run]
  congr 1
  apply List.ext_getElem?
  intro index
  by_cases within : index < cells.length
  · obtain ⟨thread, listed, aim⟩ := each index within
    rw [(stored index within).1 ⟨thread, (schedule.complete thread).mpr listed, aim⟩]
    simp [within]
  · rw [List.getElem?_eq_none (by omega), List.getElem?_eq_none (by simp; omega)]

end Launch

end Library.DataParallel
