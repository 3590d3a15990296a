import Mathlib.Algebra.GroupWithZero.Nat
import Mathlib.Data.List.AList

/-! # Files, and how a write of one can go wrong

* `weigh_insert`, `weigh_erase`: a weight of the files, added up, when one is written or removed.
* `totalSize_insert`, `totalSize_erase`: the same for their sizes.
-/

namespace PictureReconstruct

/-- The regular files of a directory in the order in which they are listed. -/
abbrev Directory := AList fun _ : List Char => List UInt8

/-- What a write of a file comes to. -/
inductive DiskFault
  | none
  /-- the file cannot be opened -/
  | open
  /-- a write or the close fails after `written` bytes have reached the file -/
  | write (written : Nat)
  /-- the process is killed after `written` bytes have reached the file -/
  | kill (written : Nat)
deriving DecidableEq

/-- Why a procedure does not return. -/
inductive Abort
  /-- the process was killed -/
  | died
  /-- an exception left the procedure -/
  | threw
deriving DecidableEq

/-! ## Sizes -/

/-- The size of a file, 0 if it does not exist. -/
def fileSize (files : Directory) (name : List Char) : Nat :=
  ((files.lookup name).getD []).length

/-- The sum of the sizes of the regular files. -/
def totalSize (files : Directory) : Nat := (files.entries.map fun file => file.2.length).sum

/-- The files with a weight for each, added up. -/
def weigh (weight : List Char → List UInt8 → Nat) (files : Directory) : Nat :=
  (files.entries.map fun file => weight file.1 file.2).sum

/-- The weight of a file, 0 if it does not exist. -/
def weightOf (weight : List Char → List UInt8 → Nat) (files : Directory) (name : List Char) : Nat :=
  ((files.lookup name).map (weight name)).getD 0

section Weights

variable (weight : List Char → List UInt8 → Nat)

theorem sum_kerase (name : List Char) : ∀ entries : List (Sigma fun _ : List Char => List UInt8),
    ((entries.kerase name).map fun file => weight file.1 file.2).sum +
      ((entries.dlookup name).map (weight name)).getD 0 =
        (entries.map fun file => weight file.1 file.2).sum
  | [] => rfl
  | ⟨other, bytes⟩ :: entries => by
    by_cases same : name = other
    · subst same
      have erased : List.kerase name (⟨name, bytes⟩ :: entries) = entries :=
        List.kerase_cons_eq rfl
      rw [erased, List.dlookup_cons_eq, Option.map_some, Option.getD_some, List.map_cons,
        List.sum_cons, Nat.add_comm]
    · have rest := sum_kerase name entries
      rw [List.kerase_cons_ne same, List.dlookup_cons_ne entries ⟨other, bytes⟩ same, List.map_cons,
        List.map_cons, List.sum_cons, List.sum_cons, Nat.add_assoc, rest]

theorem weigh_erase (files : Directory) (name : List Char) :
    weigh weight (files.erase name) + weightOf weight files name = weigh weight files :=
  sum_kerase weight name files.entries

theorem weigh_insert (files : Directory) (name : List Char) (bytes : List UInt8) :
    weigh weight (files.insert name bytes) + weightOf weight files name =
      weigh weight files + weight name bytes := by
  have erased := weigh_erase weight files name
  have inserted : weigh weight (files.insert name bytes) =
      weight name bytes + weigh weight (files.erase name) := by
    rw [weigh, AList.entries_insert, List.map_cons, List.sum_cons]
    rfl
  omega

/-- The files weigh something when one of them does. -/
theorem exists_weight {files : Directory} (positive : 0 < weigh weight files) :
    ∃ name bytes, files.lookup name = some bytes ∧ 0 < weight name bytes := by
  obtain ⟨each, listed, grown⟩ := List.sum_pos_iff_exists_pos_nat.mp positive
  obtain ⟨⟨name, bytes⟩, member, rfl⟩ := List.mem_map.mp listed
  exact ⟨name, bytes, AList.mem_lookup_iff.mpr member, grown⟩

end Weights

theorem fileSize_eq (files : Directory) (name : List Char) :
    fileSize files name = weightOf (fun _ bytes => bytes.length) files name := by
  rw [fileSize, weightOf]
  cases files.lookup name <;> rfl

theorem totalSize_erase (files : Directory) (name : List Char) :
    totalSize (files.erase name) + fileSize files name = totalSize files := by
  rw [fileSize_eq]
  exact weigh_erase (fun _ bytes => bytes.length) files name

theorem totalSize_insert (files : Directory) (name : List Char) (bytes : List UInt8) :
    totalSize (files.insert name bytes) + fileSize files name = totalSize files + bytes.length := by
  rw [fileSize_eq]
  exact weigh_insert (fun _ bytes => bytes.length) files name bytes

end PictureReconstruct
