import Mathlib.Logic.Function.Basic

/-! A file of registers after a list of writes: each holds what was written to it last. -/
namespace Registers
open Function

variable {ι κ α β : Type} [DecidableEq ι] [DecidableEq κ]

structure Write (ι α : Type) where
  place : ι
  value : α
  deriving DecidableEq, Repr

def run (file : ι → α) : List (Write ι α) → ι → α
  | [] => file
  | write :: rest => run (update file write.place write.value) rest

/-- The last value for a place. -/
def last : List (Write ι α) → ι → Option α
  | [], _ => none
  | write :: rest, place =>
      (last rest place).or (if write.place = place then some write.value else none)

theorem run_apply (file : ι → α) (writes : List (Write ι α)) (place : ι) :
    run file writes place = (last writes place).getD (file place) := by
  induction writes generalizing file with
  | nil => rfl
  | cons write rest ih =>
    rw [run, last, ih]
    cases last rest place with
    | some value => rfl
    | none =>
      by_cases here : write.place = place
      · subst here
        simp
      · simp [here, update_of_ne (Ne.symm here)]

/-- The same write to a file with other names and codes for its values. -/
def Write.encode (rename : ι → κ) (code : ι → α → β) (write : Write ι α) : Write κ β :=
  ⟨rename write.place, code write.place write.value⟩

theorem last_encode {rename : ι → κ} (injective : Injective rename) (code : ι → α → β)
    (writes : List (Write ι α)) (place : ι) :
    last (writes.map (·.encode rename code)) (rename place) = (last writes place).map
      (code place) := by
  induction writes with
  | nil => rfl
  | cons write rest ih =>
    rw [List.map_cons, last, last, ih]
    cases last rest place with
    | some value => rfl
    | none =>
      by_cases here : write.place = place
      · subst here
        simp [Write.encode]
      · have other : rename write.place ≠ rename place := fun same => here (injective same)
        simp [Write.encode, here, other]

end Registers
