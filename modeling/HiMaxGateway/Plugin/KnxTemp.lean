import HiMaxGateway.Lib.Truncate
import Mathlib.Data.Rat.Floor
import Mathlib.Data.BitVec
import Mathlib.Tactic.NormNum
import Mathlib.Tactic.Ring
import Mathlib.Tactic.Positivity

/-! The two-byte temperature of the KNX plugins (`KNX_Aircondition_STEC.c`, `KNX_Acd_General.c`,
`knx_acd_panel.c`, `KNX_Aircondition_Water.c`, `KNX_Aircondition_Sdk_H8C09.c`, `knx_heat_panel.c`,
`KNX_FloorHeating_Sdk_H8C09.c`): a sign, four bits of exponent and eleven of mantissa, in hundredths
of a degree. The files hold the same two functions. Quotients are exact here, where the source
rounds to `float` and `double`. -/
namespace HiMaxGateway.Plugin
open Truncate

/-- `temp / (1 << e) / 0.01`, cut to an integer. -/
def scaled (temp : ℚ) (e : Nat) : ℤ := truncate (temp / 2 ^ e / (1 / 100))

/-- The mantissa is kept in a `short`. -/
def mantissa (temp : ℚ) (e : Nat) : BitVec 16 := BitVec.ofInt 16 (scaled temp e)

def pack (m : BitVec 16) (e : Nat) : BitVec 16 :=
  if 0 ≤ m.toInt then m ||| BitVec.ofNat 16 (e <<< 11)
  else (m &&& 0x87ff#16) ||| BitVec.ofNat 16 (e <<< 11)

/-- The exponents are tried one after the other. -/
def convetTemp2Uint16 (temp : ℚ) : BitVec 16 :=
  ((List.range 16).findSome? fun e =>
    let m := mantissa temp e
    if -2048 < m.toInt ∧ m.toInt ≤ 2047 then some (pack m e) else none).getD 0xffff#16

/-- The branch of the negative words was left without the extension of the sign. -/
def convetUint162Temp (value : BitVec 16) : ℚ :=
  let e := ((value &&& 0x7800#16) >>> 11).toNat
  if value &&& 0x8000#16 = 0#16 then
    let m := (value &&& 0x07ff#16).toInt
    1 / 100 * m * 2 ^ e
  else
    let m := (value &&& 0x07ff#16).toInt
    1 / 100 * m * 2 ^ e

def wordExponent (w : BitVec 16) : Nat := w.toNat / 2048 % 16

def wordLow (w : BitVec 16) : Nat := w.toNat % 2048

/-- The eleven low bits and the sign in two's complement. -/
def wordMantissa (w : BitVec 16) : ℤ := wordLow w - if w.msb then 2048 else 0

def wordTemp (w : BitVec 16) : ℚ := 1 / 100 * wordMantissa w * 2 ^ wordExponent w

theorem exponent_bits (n : Nat) : (n &&& 0x7800) >>> 11 = n / 2048 % 16 := by
  rw [Nat.shiftRight_and_distrib, Nat.shiftRight_eq_div_pow]
  exact Nat.and_two_pow_sub_one_eq_mod _ 4

theorem mantissa_bits (n : Nat) : n &&& 0x07ff = n % 2048 := Nat.and_two_pow_sub_one_eq_mod _ 11

theorem convetUint162Temp_eq (w : BitVec 16) :
    convetUint162Temp w = 1 / 100 * wordLow w * 2 ^ wordExponent w := by
  have e : ((w &&& 0x7800#16) >>> 11).toNat = wordExponent w := by
    rw [BitVec.toNat_ushiftRight, BitVec.toNat_and]
    exact exponent_bits w.toNat
  have low : (w &&& 0x07ff#16).toNat = wordLow w := by
    rw [BitVec.toNat_and]
    exact mantissa_bits w.toNat
  have m : (w &&& 0x07ff#16).toInt = wordLow w := by
    rw [BitVec.toInt_eq_toNat_of_lt (by rw [low, wordLow]; omega), low]
  simp only [convetUint162Temp, e, m, ite_self, Int.cast_natCast]

theorem pack_exponent {m : BitVec 16} {e : Nat} (small : m.toInt ≤ 2047) (bound : e < 16) :
    wordExponent (pack m e) = e := by
  have shifted : (BitVec.ofNat 16 (e <<< 11)).toNat = e <<< 11 := by
    rw [BitVec.toNat_ofNat, Nat.shiftLeft_eq, Nat.mod_eq_of_lt (by omega)]
  have field (high : Nat) (clear : high &&& 15 = 0) {a : Nat} (top : a >>> 11 = high) :
      (a ||| e <<< 11) / 2048 % 16 = e := by
    have split : (a ||| e <<< 11) / 2048 = high ||| e := by
      rw [← Nat.shiftRight_eq_div_pow _ 11, Nat.shiftRight_or_distrib, top,
        Nat.shiftLeft_shiftRight]
    rw [split, ← Nat.and_two_pow_sub_one_eq_mod _ 4, Nat.and_or_distrib_right]
    rw [show 2 ^ 4 - 1 = 15 from rfl, clear, Nat.zero_or]
    exact (Nat.and_two_pow_sub_one_eq_mod e 4).trans (Nat.mod_eq_of_lt bound)
  rw [wordExponent, pack]
  split
  · rename_i nonneg
    have low : m.toNat < 2048 := by
      rw [BitVec.toInt_eq_toNat_cond] at small nonneg
      split at small <;> omega
    rw [BitVec.toNat_or, shifted]
    exact field 0 rfl (by rw [Nat.shiftRight_eq_div_pow]; omega)
  · rw [BitVec.toNat_or, BitVec.toNat_and, shifted]
    refine field (m.toNat >>> 11 &&& 16) ?_ ?_
    · rw [Nat.and_assoc]
      exact Nat.and_zero _
    · exact Nat.shiftRight_and_distrib

theorem pack_nonneg {m : BitVec 16} {e : Nat} (nonneg : 0 ≤ m.toInt) (small : m.toInt ≤ 2047)
    (bound : e < 16) : (pack m e).toNat = m.toInt.toNat + e * 2048 := by
  have value : m.toInt = m.toNat := by
    rw [BitVec.toInt_eq_toNat_cond] at small nonneg ⊢
    split at small <;> omega
  rw [pack, if_pos nonneg, BitVec.toNat_or, BitVec.toNat_ofNat, Nat.shiftLeft_eq,
    Nat.mod_eq_of_lt (by omega), Nat.or_comm, ← Nat.shiftLeft_eq,
    ← Nat.shiftLeft_add_eq_or_of_lt (by omega), Nat.shiftLeft_eq, value]
  omega

def Taken (temp : ℚ) (e : Nat) : Prop :=
  -2048 < (mantissa temp e).toInt ∧ (mantissa temp e).toInt ≤ 2047

instance (temp : ℚ) (e : Nat) : Decidable (Taken temp e) := inferInstanceAs (Decidable (_ ∧ _))

theorem findSome_range {α : Type} {f : Nat → Option α} {e n : Nat} {a : α} (bound : e < n)
    (here : f e = some a) (earlier : ∀ e' < e, f e' = none) :
    (List.range n).findSome? f = some a := by
  induction n with
  | zero => omega
  | succ n ih =>
    rw [List.range_succ, List.findSome?_append]
    by_cases before : e < n
    · rw [ih before, Option.some_or]
    · obtain rfl : e = n := by omega
      have none : (List.range e).findSome? f = none := by
        rw [List.findSome?_eq_none_iff]
        intro e' member
        exact earlier e' (List.mem_range.mp member)
      rw [none, Option.none_or]
      simp [here]

/-- The first exponent that is taken decides. -/
theorem convetTemp2Uint16_first {temp : ℚ} {e : Nat} (bound : e < 16) (taken : Taken temp e)
    (earlier : ∀ e' < e, ¬ Taken temp e') : convetTemp2Uint16 temp = pack (mantissa temp e) e := by
  have found := @findSome_range _ (fun e => let m := mantissa temp e
    if -2048 < m.toInt ∧ m.toInt ≤ 2047 then some (pack m e) else none) e 16 _ bound
    (if_pos taken) fun e' before => if_neg (earlier e' before)
  rw [convetTemp2Uint16, found]
  rfl

theorem exists_first {temp : ℚ} {e : Nat} (bound : e < 16) (taken : Taken temp e) :
    ∃ e' ≤ e, Taken temp e' ∧ convetTemp2Uint16 temp = pack (mantissa temp e') e' := by
  classical
  have some_ : ∃ e, Taken temp e := ⟨e, taken⟩
  have least := Nat.find_min' some_ taken
  exact ⟨Nat.find some_, least, Nat.find_spec some_, convetTemp2Uint16_first (by omega)
    (Nat.find_spec some_) fun e' before => Nat.find_min some_ before⟩

/-- The mantissa of the exact quotient fits its twelve bits. -/
def Fits (temp : ℚ) (e : Nat) : Prop := -2048 ≤ scaled temp e ∧ scaled temp e ≤ 2047

theorem scaled_eq (temp : ℚ) (e : Nat) : scaled temp e = truncate (100 * temp / 2 ^ e) := by
  rw [scaled]
  congr 1
  ring

theorem mantissa_of_fits {temp : ℚ} {e : Nat} (nonneg : 0 ≤ scaled temp e)
    (fits : scaled temp e ≤ 2047) :
    (mantissa temp e).toInt = scaled temp e := by
  rw [mantissa, BitVec.toInt_ofInt, Int.bmod_def]
  omega

/-- Only the low sixteen bits of the number count. -/
theorem taken_iff_wraps {temp : ℚ} {e : Nat} :
    Taken temp e ↔ ¬ (2048 ≤ scaled temp e % 65536 ∧ scaled temp e % 65536 ≤ 63488) := by
  rw [Taken, mantissa, BitVec.toInt_ofInt, Int.bmod_def]
  omega

theorem scaled_nonneg {temp : ℚ} (above : -1 / 100 < temp) (e : Nat) : 0 ≤ scaled temp e := by
  rw [scaled_eq]
  apply truncate_nonneg
  have positive : (1 : ℚ) ≤ 2 ^ e := one_le_pow₀ (by norm_num)
  rw [lt_div_iff₀ (by linarith)]
  linarith

theorem scaled_antitone {temp : ℚ} (above : -1 / 100 < temp) {e e' : Nat} (le : e ≤ e') :
    scaled temp e' ≤ scaled temp e := by
  by_cases nonneg : 0 ≤ temp
  · rw [scaled_eq, scaled_eq]
    apply truncate_mono
    have power : (2 : ℚ) ^ e ≤ 2 ^ e' := pow_le_pow_right₀ (by norm_num) le
    gcongr
  · have zero : scaled temp e' ≤ 0 := by
      rw [scaled_eq, ← truncate_intCast (K := ℚ) 0]
      apply truncate_mono
      rw [Int.cast_zero]
      exact div_nonpos_of_nonpos_of_nonneg (by linarith) (by positivity)
    exact zero.trans (scaled_nonneg above e)

/-- No number that is too large for the mantissa looks like one in sixteen bits. -/
def NoWrap (temp : ℚ) : Prop :=
  ∀ e < 16, 2048 ≤ scaled temp e → 2048 ≤ scaled temp e % 65536 ∧ scaled temp e % 65536 ≤ 63488

/-- A word with the smallest exponent, and less than one of its steps from the temperature. -/
structure EncodesExactly (temp : ℚ) : Prop where
  word : ∃ e, IsLeast {e | Fits temp e} e ∧ wordExponent (convetTemp2Uint16 temp) = e ∧
    wordMantissa (convetTemp2Uint16 temp) = scaled temp e ∧
    |convetUint162Temp (convetTemp2Uint16 temp) - temp| < 1 / 100 * 2 ^ e

/-- The word of the smallest exponent, where nothing wraps before. -/
theorem convetTemp2Uint16_least {temp : ℚ} {e : Nat} (above : -1 / 100 < temp) (whole : NoWrap temp)
    (bound : e < 16) (least : IsLeast {e | Fits temp e} e) :
    (convetTemp2Uint16 temp).toNat = (scaled temp e).toNat + e * 2048 := by
  have upper : scaled temp e ≤ 2047 := least.1.2
  have nonneg := scaled_nonneg above e
  have value := mantissa_of_fits nonneg upper
  have taken : Taken temp e := by
    rw [Taken, value]
    omega
  have earlier : ∀ e' < e, ¬ Taken temp e' := by
    intro e' before
    have unfit : ¬ Fits temp e' := fun fits => absurd (least.2 fits) (by omega)
    have nonneg' := scaled_nonneg above e'
    have large : 2048 ≤ scaled temp e' := by
      by_contra small
      exact unfit ⟨by omega, by omega⟩
    rw [taken_iff_wraps, not_not]
    exact whole e' (by omega) large
  rw [convetTemp2Uint16_first bound taken earlier, pack_nonneg (by omega) (by omega) bound, value]

theorem word_fields {w : BitVec 16} {m e : Nat} (value : w.toNat = m + e * 2048) (small : m ≤ 2047)
    (bound : e < 16) : wordExponent w = e ∧ wordMantissa w = m ∧
      convetUint162Temp w = 1 / 100 * m * 2 ^ e := by
  have positive : w.msb = false := by
    rw [BitVec.msb_eq_decide, decide_eq_false_iff_not]
    omega
  have exponent : wordExponent w = e := by
    rw [wordExponent]
    omega
  have low : wordLow w = m := by
    rw [wordLow]
    omega
  refine ⟨exponent, ?_, ?_⟩
  · rw [wordMantissa, low, positive, if_neg (by decide), sub_zero]
  · rw [convetUint162Temp_eq, exponent, low]

/-- The range of the format. -/
abbrev KnxTemp := { temp : ℚ // -671088.64 ≤ temp ∧ temp ≤ 670760.96 }

theorem fits_last (temp : KnxTemp) : Fits temp.1 15 := by
  obtain ⟨temp, low, high⟩ := temp
  have lower : truncate (((-2048 : ℤ) : ℚ)) ≤ scaled temp 15 := by
    rw [scaled_eq]
    apply truncate_mono
    rw [le_div_iff₀ (by norm_num)]
    norm_num at low ⊢
    linarith
  have upper : scaled temp 15 ≤ truncate (((2047 : ℤ) : ℚ)) := by
    rw [scaled_eq]
    apply truncate_mono
    rw [div_le_iff₀ (by norm_num)]
    norm_num at high ⊢
    linarith
  rw [truncate_intCast] at lower upper
  exact ⟨lower, upper⟩

theorem exists_least (temp : KnxTemp) : ∃ e < 16, IsLeast {e | Fits temp.1 e} e := by
  classical
  have some_ : ∃ e, Fits temp.1 e := ⟨15, fits_last temp⟩
  have bound := Nat.find_min' some_ (fits_last temp)
  exact ⟨Nat.find some_, by omega, Nat.find_spec some_, fun e fits => Nat.find_min' some_ fits⟩

/-- What is cut off is less than one step of the exponent. -/
theorem step_error (temp : ℚ) (e : Nat) :
    |1 / 100 * (scaled temp e : ℚ) * 2 ^ e - temp| < 1 / 100 * 2 ^ e := by
  have power : (0 : ℚ) < 2 ^ e := by positivity
  obtain ⟨below, above⟩ := truncate_bounds (100 * temp / 2 ^ e)
  rw [← scaled_eq] at below above
  have exact_ : temp = 1 / 100 * (100 * temp / 2 ^ e) * 2 ^ e := by
    field_simp
  rw [abs_lt]
  constructor
  · nlinarith
  · nlinarith

theorem exact_of_noWrap (temp : KnxTemp) (above : -1 / 100 < temp.1) (whole : NoWrap temp.1) :
    EncodesExactly temp.1 := by
  obtain ⟨e, bound, least⟩ := exists_least temp
  have value := convetTemp2Uint16_least above whole bound least
  have nonneg := scaled_nonneg above e
  have upper : scaled temp.1 e ≤ 2047 := least.1.2
  obtain ⟨exponent, mantissa, decoded⟩ := word_fields value (by omega) bound
  refine ⟨e, least, exponent, by omega, ?_⟩
  have same : (((scaled temp.1 e).toNat : Nat) : ℚ) = scaled temp.1 e := by
    rw [← Int.cast_natCast, Int.toNat_of_nonneg nonneg]
  rw [decoded, same]
  exact step_error temp.1 e

theorem convetUint162Temp_nonneg (w : BitVec 16) : 0 ≤ convetUint162Temp w := by
  rw [convetUint162Temp_eq]
  positivity

/-- The decoder gives no negative temperature, so only those that are cut to zero stay close. -/
theorem above_of_exact {temp : ℚ} (exactly : EncodesExactly temp) : -1 / 100 < temp := by
  obtain ⟨e, least, -, -, error⟩ := exactly
  have close := (abs_lt.mp error).2
  have decoded := convetUint162Temp_nonneg (convetTemp2Uint16 temp)
  by_contra below
  cases e with
  | zero => linarith
  | succ k =>
    -- the exponent before would have done
    have power : (0 : ℚ) < 2 ^ k := by positivity
    have fits : Fits temp k := by
      have lower : truncate (((-2 : ℤ) : ℚ)) ≤ scaled temp k := by
        rw [scaled_eq]
        apply truncate_mono
        rw [le_div_iff₀ power]
        rw [pow_succ] at close
        push_cast
        linarith
      have upper : scaled temp k ≤ truncate (((0 : ℤ) : ℚ)) := by
        rw [scaled_eq]
        apply truncate_mono
        rw [div_le_iff₀ power]
        push_cast
        linarith
      rw [truncate_intCast] at lower upper
      exact ⟨by omega, by omega⟩
    exact absurd (least.2 fits) (by omega)

theorem noWrap_of_exact {temp : ℚ} (exactly : EncodesExactly temp) : NoWrap temp := by
  have above := above_of_exact exactly
  obtain ⟨e₀, least, exponent, -⟩ := exactly
  intro e bound large
  by_contra wraps
  obtain ⟨e', le, taken, word⟩ := exists_first bound (taken_iff_wraps.mpr wraps)
  rw [word, pack_exponent taken.2 (by omega)] at exponent
  have upper : scaled temp e₀ ≤ 2047 := least.1.2
  have smaller := scaled_antitone above (exponent ▸ le : e₀ ≤ e)
  omega

structure DecodesExactly (w : BitVec 16) : Prop where
  meaning : convetUint162Temp w = wordTemp w
  again : convetUint162Temp (convetTemp2Uint16 (convetUint162Temp w)) = convetUint162Temp w

theorem meaning_iff (w : BitVec 16) : convetUint162Temp w = wordTemp w ↔ w.msb = false := by
  rw [convetUint162Temp_eq, wordTemp, wordMantissa]
  cases w.msb with
  | false => simp
  | true =>
    have power : (2 : ℚ) ^ wordExponent w ≠ 0 := by positivity
    have lost : (wordLow w : ℚ) ≠ wordLow w - 2048 := by
      intro same
      linarith
    simp [power, lost]

theorem wordLow_le (w : BitVec 16) : wordLow w ≤ 2047 := by
  rw [wordLow]
  omega

theorem wordTemp_range (w : BitVec 16) :
    0 ≤ convetUint162Temp w ∧ convetUint162Temp w ≤ 670760.96 := by
  refine ⟨convetUint162Temp_nonneg w, ?_⟩
  have low : (wordLow w : ℚ) ≤ 2047 := by exact_mod_cast wordLow_le w
  have power : (2 : ℚ) ^ wordExponent w ≤ 2 ^ 15 := by
    apply pow_le_pow_right₀ (by norm_num)
    rw [wordExponent]
    omega
  rw [convetUint162Temp_eq]
  calc 1 / 100 * (wordLow w : ℚ) * 2 ^ wordExponent w ≤ 1 / 100 * 2047 * 2 ^ 15 := by
        gcongr
    _ = 670760.96 := by norm_num

theorem scaled_word (w : BitVec 16) {e : Nat} (le : e ≤ wordExponent w) :
    scaled (convetUint162Temp w) e = wordLow w * 2 ^ (wordExponent w - e) := by
  have quotient : 100 * convetUint162Temp w / 2 ^ e =
      ((wordLow w * 2 ^ (wordExponent w - e) : ℤ) : ℚ) := by
    rw [convetUint162Temp_eq, div_eq_iff (by positivity)]
    push_cast
    have power : (2 : ℚ) ^ wordExponent w = 2 ^ (wordExponent w - e) * 2 ^ e := by
      rw [← pow_add]
      congr 1
      omega
    rw [power]
    ring
  rw [scaled_eq, quotient, truncate_intCast]

theorem again_of_noWrap (w : BitVec 16) (whole : NoWrap (convetUint162Temp w)) :
    convetUint162Temp (convetTemp2Uint16 (convetUint162Temp w)) = convetUint162Temp w := by
  obtain ⟨low, high⟩ := wordTemp_range w
  obtain ⟨e, bound, least⟩ := exists_least ⟨convetUint162Temp w, by linarith, high⟩
  have above : -1 / 100 < convetUint162Temp w := by linarith
  have own : Fits (convetUint162Temp w) (wordExponent w) := by
    have value := scaled_word w le_rfl
    have low := wordLow_le w
    rw [Nat.sub_self, pow_zero, mul_one] at value
    exact ⟨by omega, by omega⟩
  have value := convetTemp2Uint16_least above whole bound least
  have nonneg := scaled_nonneg above e
  have upper : scaled (convetUint162Temp w) e ≤ 2047 := least.1.2
  rw [(word_fields value (by omega) bound).2.2]
  have le : e ≤ wordExponent w := least.2 own
  have cast : (((scaled (convetUint162Temp w) e).toNat : Nat) : ℚ) =
      wordLow w * 2 ^ (wordExponent w - e) := by
    rw [← Int.cast_natCast, Int.toNat_of_nonneg nonneg, scaled_word w le]
    push_cast
    rfl
  rw [cast, convetUint162Temp_eq w, mul_assoc, mul_assoc, ← pow_add, Nat.sub_add_cancel le,
    mul_assoc]

theorem noWrap_of_again {w : BitVec 16}
    (again : convetUint162Temp (convetTemp2Uint16 (convetUint162Temp w)) = convetUint162Temp w) :
    NoWrap (convetUint162Temp w) := by
  intro e bound large
  by_contra wraps
  obtain ⟨e', le, taken, word⟩ := exists_first bound (taken_iff_wraps.mpr wraps)
  have above : -1 / 100 < convetUint162Temp w := by linarith [convetUint162Temp_nonneg w]
  have smaller := scaled_antitone above le
  -- the word that was made has eleven bits of mantissa
  generalize packed : pack (mantissa (convetUint162Temp w) e') e' = w' at word
  have exponent : wordExponent w' = e' := by rw [← packed, pack_exponent taken.2 (by omega)]
  rw [word] at again
  have value := scaled_word w' (le_refl (wordExponent w'))
  have low := wordLow_le w'
  rw [again, exponent, Nat.sub_self, pow_zero, mul_one] at value
  omega

theorem temp_exact_iff (temp : KnxTemp) (w : BitVec 16) :
    (EncodesExactly temp.1 ↔ -1 / 100 < temp.1 ∧ NoWrap temp.1) ∧
    (DecodesExactly w ↔ w.msb = false ∧ NoWrap (wordTemp w)) := by
  constructor
  · constructor
    · intro exactly
      exact ⟨above_of_exact exactly, noWrap_of_exact exactly⟩
    · rintro ⟨above, whole⟩
      exact exact_of_noWrap temp above whole
  · constructor
    · rintro ⟨meaning, again⟩
      exact ⟨(meaning_iff w).mp meaning, meaning ▸ noWrap_of_again again⟩
    · rintro ⟨positive, whole⟩
      have meaning := (meaning_iff w).mpr positive
      exact ⟨meaning, again_of_noWrap w (meaning ▸ whole)⟩

/-- Frost comes back as heat, and a value beyond the sixteen bits (in exact arithmetic) as zero. -/
theorem frost_decoded_wrong :
    convetUint162Temp (convetTemp2Uint16 (-5)) = 15.48 ∧ ¬ EncodesExactly (-5) ∧
      convetTemp2Uint16 655.36 = 0#16 ∧ ¬ DecodesExactly 0x860c#16 := by
  refine ⟨by decide +kernel, ?_, by decide +kernel, ?_⟩
  · intro exactly
    have above := above_of_exact exactly
    norm_num at above
  · intro exactly
    have positive := (meaning_iff _).mp exactly.meaning
    exact absurd positive (by decide)

end HiMaxGateway.Plugin
