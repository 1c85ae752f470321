import HiMaxGateway.Lib.CText
import HiMaxGateway.Lib.Fault

/-! C strings in memory: a text with its terminator, buffers from `calloc`, and `memcpy`
between them. An access outside a buffer is a fault. -/
namespace CBuffer
open CRun CText

abbrev Buffer := List Char

/-- A text in memory. -/
def stored (text : Text) : Buffer := text ++ ['\x00']

def calloc (size : Nat) : Buffer := List.replicate size '\x00'

def memcpy (dst src : Buffer) (n : Nat) : Result Buffer :=
  if n ≤ src.length ∧ n ≤ dst.length then .ok (src.take n ++ dst.drop n) else .error .outOfBounds

/-- The string a pointer to the buffer stands for. -/
def str (buf : Buffer) : Result Text :=
  if '\x00' ∈ buf then .ok (buf.takeWhile (· ≠ '\x00')) else .error .outOfBounds

@[simp] theorem length_stored (text : Text) : (stored text).length = text.length + 1 := by
  simp [stored]

@[simp] theorem length_calloc (size : Nat) : (calloc size).length = size := by
  simp [calloc]

theorem returns_memcpy {dst src : Buffer} :
    Returns (memcpy dst src n) ↔ n ≤ src.length ∧ n ≤ dst.length := by
  by_cases inside : n ≤ src.length ∧ n ≤ dst.length
  · rw [memcpy, if_pos inside]
    exact ⟨fun _ => inside, fun _ => .pure⟩
  · rw [memcpy, if_neg inside]
    exact ⟨fun returns => absurd returns returns_error, fun fits => absurd fits inside⟩

/-- The string ends at the first terminator. -/
theorem str_append {text : Text} (noNull : '\x00' ∉ text) (rest : Buffer) :
    str (text ++ '\x00' :: rest) = .ok text := by
  have plain : ∀ c ∈ text, decide (c ≠ '\x00') = true := by
    intro c member
    rw [decide_eq_true_eq]
    rintro rfl
    exact noNull member
  rw [str, if_pos (by simp), List.takeWhile_append_of_pos plain]
  simp

/-- What a copy of a text into a fresh buffer reads as. The terminator is either left from
`calloc` or copied. -/
theorem str_copy {text : Text} (noNull : '\x00' ∉ text) (reads : n ≤ text.length + 1)
    (room : n ≤ size) (ends : n < size ∨ text.length < n) :
    ∃ buf, memcpy (calloc size) (stored text) n = .ok buf ∧ str buf = .ok (text.take n) := by
  have inside : n ≤ (stored text).length ∧ n ≤ (calloc size).length := by simp [reads, room]
  refine ⟨_, if_pos inside, ?_⟩
  have front : '\x00' ∉ text.take n := fun member => noNull (List.mem_of_mem_take member)
  by_cases whole : text.length < n
  · have all : n = (stored text).length := by simp; omega
    have kept : text.take n = text := List.take_of_length_le (by omega)
    rw [all, List.take_length, ← all, kept, stored, List.append_assoc]
    exact str_append noNull _
  · have behind : (calloc size).drop n = '\x00' :: calloc (size - n - 1) := by
      obtain ⟨more, rfl⟩ : ∃ more, size = n + (more + 1) := ⟨size - n - 1, by omega⟩
      simp [calloc, List.replicate_succ]
    rw [stored, List.take_append_of_le_length (by omega), behind]
    exact str_append front _

end CBuffer
