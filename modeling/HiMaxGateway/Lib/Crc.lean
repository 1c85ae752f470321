import Mathlib.Data.List.Basic

/-! A reflected cyclic redundancy check, a bit at a time. The register has any width and the
polynomial is given without its leading term. -/
namespace Crc

variable {w : Nat} (poly : BitVec w) {c : BitVec w} {k : Nat}

def shift (c : BitVec w) : BitVec w := if c.getLsbD 0 then (c >>> 1) ^^^ poly else c >>> 1

def shifts : Nat → BitVec w → BitVec w
  | 0, c => c
  | n + 1, c => shift poly (shifts n c)

/-- A byte enters the register at its low end. -/
def feed (c : BitVec w) (byte : UInt8) : BitVec w := shifts poly 8 (c ^^^ byte.toBitVec.setWidth w)

def check (init : BitVec w) (bytes : List UInt8) : BitVec w := bytes.foldl (feed poly) init

theorem check_append (init : BitVec w) (front back : List UInt8) :
    check poly init (front ++ back) = check poly (check poly init front) back :=
  List.foldl_append

-- The register is linear: a shift of a sum is the sum of the shifts.

theorem shift_xor (a b : BitVec w) : shift poly (a ^^^ b) = shift poly a ^^^ shift poly b := by
  unfold shift
  simp only [BitVec.getLsbD_xor, BitVec.ushiftRight_xor_distrib]
  cases a.getLsbD 0 <;> cases b.getLsbD 0 <;>
    simp only [Bool.xor_false, Bool.xor_true, Bool.not_false, Bool.not_true, Bool.false_eq_true,
      if_true, if_false]
  · ac_rfl
  · ac_rfl
  · -- Both halves bring the polynomial in, and the two cancel.
    calc (a >>> 1) ^^^ (b >>> 1)
        = (a >>> 1) ^^^ (b >>> 1) ^^^ (poly ^^^ poly) := by rw [BitVec.xor_self, BitVec.xor_zero]
      _ = ((a >>> 1) ^^^ poly) ^^^ ((b >>> 1) ^^^ poly) := by ac_rfl

theorem shifts_xor (n : Nat) (a b : BitVec w) :
    shifts poly n (a ^^^ b) = shifts poly n a ^^^ shifts poly n b := by
  induction n with
  | zero => rfl
  | succ n ih => simp only [shifts, ih, shift_xor]

/-- As long as no set bit leaves the register the polynomial stays out. -/
theorem shifts_of_clear (clear : ∀ i < k, c.getLsbD i = false) : shifts poly k c = c >>> k := by
  induction k with
  | zero => simp [shifts]
  | succ k ih =>
    have low : (c >>> k).getLsbD 0 = false := by
      simpa using clear k (Nat.lt_succ_self k)
    rw [shifts, ih (fun i lt => clear i (Nat.lt_succ_of_lt lt)), shift, low]
    simp only [Bool.false_eq_true, if_false, BitVec.shiftRight_add]

/-- A byte at a time: what the low byte becomes is all a table has to hold. -/
theorem feed_split (high : BitVec w) (low : UInt8) (clear : ∀ i < 8, high.getLsbD i = false)
    (byte : UInt8) :
    feed poly (high ^^^ low.toBitVec.setWidth w) byte =
      (high >>> 8) ^^^ shifts poly 8 ((low ^^^ byte).toBitVec.setWidth w) := by
  rw [feed, BitVec.xor_assoc, ← BitVec.setWidth_xor, shifts_xor, shifts_of_clear poly clear]
  rfl

-- What is left after the register has gone out itself, low byte first.

/-- The bytes of a register, the low one first. -/
def bytesOf : Nat → BitVec w → List UInt8
  | 0, _ => []
  | n + 1, c => ⟨c.setWidth 8⟩ :: bytesOf n (c >>> 8)

theorem feed_low (c : BitVec w) : feed poly c ⟨c.setWidth 8⟩ = c >>> 8 := by
  have clear : ∀ i < 8, (c ^^^ (c.setWidth 8).setWidth w).getLsbD i = false := by
    intro i lt
    by_cases inside : i < w
    · simp [lt, inside]
    · simp [BitVec.getLsbD_of_ge _ i (Nat.le_of_not_lt inside)]
  rw [feed, shifts_of_clear poly clear, BitVec.ushiftRight_xor_distrib]
  have gone : (c.setWidth 8).setWidth w >>> 8 = 0#w := by
    apply BitVec.eq_of_getLsbD_eq
    intro i _
    simp [BitVec.getLsbD_setWidth]
  rw [gone, BitVec.xor_zero]

theorem check_bytesOf (n : Nat) (c : BitVec w) : check poly c (bytesOf n c) = c >>> (8 * n) := by
  induction n generalizing c with
  | zero => simp [bytesOf, check]
  | succ n ih =>
    change check poly (feed poly c ⟨c.setWidth 8⟩) (bytesOf n (c >>> 8)) = _
    rw [feed_low, ih, ← BitVec.shiftRight_add, Nat.mul_succ, Nat.add_comm]

/-- A message followed by its own check leaves nothing. -/
theorem check_self {n : Nat} (fits : w ≤ 8 * n) (init : BitVec w) (bytes : List UInt8) :
    check poly init (bytes ++ bytesOf n (check poly init bytes)) = 0#w := by
  rw [check_append, check_bytesOf]
  exact BitVec.ushiftRight_eq_zero fits

end Crc
