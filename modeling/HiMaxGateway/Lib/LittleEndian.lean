import Mathlib.Data.List.Basic

/-! Words that are stored byte by byte, the low byte first, and joined again with `|=`. -/
namespace LittleEndian

variable {w : Nat}

/-- The `i`-th byte of a word. -/
def byteOf (word : BitVec w) (i : Nat) : UInt8 := ⟨(word >>> (8 * i)).setWidth 8⟩

/-- The loop that stores the bytes of a word from the `i`-th one on. -/
def storeFrom (word : BitVec w) (i : Nat) : Nat → List UInt8
  | 0 => []
  | n + 1 => byteOf word i :: storeFrom word (i + 1) n

def store (n : Nat) (word : BitVec w) : List UInt8 := storeFrom word 0 n

@[simp] theorem length_storeFrom (word : BitVec w) (i n : Nat) :
    (storeFrom word i n).length = n := by
  induction n generalizing i with
  | zero => rfl
  | succ n ih => rw [storeFrom, List.length_cons, ih]

@[simp] theorem length_store (n : Nat) (word : BitVec w) : (store n word).length = n :=
  length_storeFrom word 0 n

/-- The loop that joins bytes into a word. What the word held before stays in it. -/
def joinFrom (word : BitVec w) (i : Nat) : List UInt8 → BitVec w
  | [] => word
  | byte :: rest => joinFrom (word ||| (byte.toBitVec.setWidth w <<< (8 * i))) (i + 1) rest

def join (word : BitVec w) (bytes : List UInt8) : BitVec w := joinFrom word 0 bytes

/-- Each turn fills the eight bits of its byte. -/
theorem getLsbD_turn (word value : BitVec w) (i k : Nat) :
    (word ||| ((byteOf value i).toBitVec.setWidth w <<< (8 * i))).getLsbD k =
      (word.getLsbD k || (value.getLsbD k && decide (8 * i ≤ k ∧ k < 8 * (i + 1)))) := by
  have beyond : w ≤ k → value.getLsbD k = false := BitVec.getLsbD_of_ge value k
  rw [BitVec.getLsbD_or, BitVec.getLsbD_shiftLeft, BitVec.getLsbD_setWidth, byteOf,
    BitVec.getLsbD_setWidth, BitVec.getLsbD_ushiftRight]
  by_cases inside : k < w
  · by_cases reached : 8 * i ≤ k
    · have place : 8 * i + (k - 8 * i) = k := by omega
      have last : k - 8 * i < 8 ↔ k < 8 * (i + 1) := by omega
      have within : k - 8 * i < w := by omega
      have notBefore : ¬k < 8 * i := by omega
      simp [inside, reached, notBefore, place, last, within, Bool.and_comm]
    · simp [reached, show k < 8 * i by omega]
  · simp [inside, beyond (by omega)]

theorem getLsbD_joinFrom (word value : BitVec w) (i n k : Nat) :
    (joinFrom word i (storeFrom value i n)).getLsbD k =
      (word.getLsbD k || (value.getLsbD k && decide (8 * i ≤ k ∧ k < 8 * (i + n)))) := by
  induction n generalizing word i with
  | zero =>
    have none : ¬(8 * i ≤ k ∧ k < 8 * (i + 0)) := by omega
    rw [storeFrom, joinFrom, decide_eq_false none, Bool.and_false, Bool.or_false]
  | succ n ih =>
    rw [storeFrom, joinFrom, ih, getLsbD_turn, Bool.or_assoc, ← Bool.and_or_distrib_left,
      ← Bool.decide_or]
    have both : (8 * i ≤ k ∧ k < 8 * (i + 1) ∨ 8 * (i + 1) ≤ k ∧ k < 8 * (i + 1 + n)) ↔
        8 * i ≤ k ∧ k < 8 * (i + (n + 1)) := by omega
    rw [decide_eq_decide.mpr both]

/-- The bytes of a word come back on top of what was there. -/
theorem join_store {n : Nat} (fits : w ≤ 8 * n) (word value : BitVec w) :
    join word (store n value) = word ||| value := by
  apply BitVec.eq_of_getLsbD_eq
  intro k inside
  have all : 8 * 0 ≤ k ∧ k < 8 * (0 + n) := by omega
  rw [join, store, getLsbD_joinFrom, BitVec.getLsbD_or, decide_eq_true all, Bool.and_true]

end LittleEndian
