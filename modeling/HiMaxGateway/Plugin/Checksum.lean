import HiMaxGateway.Lib.Crc
import HiMaxGateway.Plugin.Frame

/-! The two tables of `crc16` against the bitwise CRC-16/MODBUS. -/
namespace HiMaxGateway.Plugin

/-- What `crc16` returns. `crc16` of a buffer is what `htons` leaves of it. -/
def crc16Word (buf : List UInt8) : UInt16 :=
  let crc := buf.foldl crcRound (0xFF, 0xFF)
  (crc.1.toUInt16 <<< 8) ||| crc.2.toUInt16

/-- The reflected polynomial of CRC-16/MODBUS. -/
def modbusPoly : BitVec 16 := 0xA001#16

/-- CRC-16/MODBUS, a bit at a time. -/
def crcModbus (bytes : List UInt8) : BitVec 16 := Crc.check modbusPoly 0xFFFF#16 bytes

def swapBytes (word : UInt16) : UInt16 := (word <<< 8) ||| (word >>> 8)

/-- A standard slave compares the last two bytes, the low one first, with the check of those
before them. -/
def slaveAccepts (frame : List UInt8) : Bool :=
  2 ≤ frame.length &&
    frame.drop (frame.length - 2) == Crc.bytesOf 2 (crcModbus (frame.take (frame.length - 2)))

/-- `crcH` holds the low byte of the register. -/
def register (crc : UInt8 × UInt8) : BitVec 16 :=
  (crc.2.toBitVec.setWidth 16 <<< 8) ^^^ crc.1.toBitVec.setWidth 16

/-- Each entry of the tables is what eight shifts make of its index. -/
theorem tables_entries :
    List.zipWith (fun high low => register (high, low)) tableHigh.toList tableLow.toList =
      (List.range 256).map fun i => Crc.shifts modbusPoly 8 (BitVec.ofNat 16 i) := by
  decide +kernel

theorem tables_size : tableHigh.size = 256 ∧ tableLow.size = 256 := by
  decide +kernel

theorem tables_shifts (idx : UInt8) :
    Crc.shifts modbusPoly 8 (idx.toBitVec.setWidth 16) =
      register (tableHigh.getD idx.toNat 0, tableLow.getD idx.toNat 0) := by
  have inside : idx.toNat < 256 := idx.toNat_lt
  have high : idx.toNat < tableHigh.size := tables_size.1 ▸ inside
  have low : idx.toNat < tableLow.size := tables_size.2 ▸ inside
  have entry := congrArg (·[idx.toNat]?) tables_entries
  simp only [List.getElem?_zipWith, List.getElem?_map, List.getElem?_range inside,
    Array.getElem?_toList, Array.getElem?_eq_getElem high, Array.getElem?_eq_getElem low,
    Option.map_some, Option.some.injEq] at entry
  simp only [Array.getD_eq_getD_getElem?, Array.getElem?_eq_getElem high,
    Array.getElem?_eq_getElem low, Option.getD_some, entry]
  rw [← BitVec.ofNat_toNat, UInt8.toNat_toBitVec]

theorem shiftLeft_shiftRight_byte (byte : BitVec 8) :
    (byte.setWidth 16 <<< 8) >>> 8 = byte.setWidth 16 := by
  apply BitVec.eq_of_toNat_eq
  have := byte.isLt
  simp only [BitVec.toNat_ushiftRight, BitVec.toNat_shiftLeft, BitVec.toNat_setWidth,
    Nat.shiftLeft_eq, Nat.shiftRight_eq_div_pow]
  omega

theorem register_xor (low high more : UInt8) :
    register (more ^^^ low, high) = more.toBitVec.setWidth 16 ^^^ register (low, high) := by
  simp only [register, UInt8.toBitVec_xor, BitVec.setWidth_xor]
  ac_rfl

theorem register_crcRound (crc : UInt8 × UInt8) (byte : UInt8) :
    register (crcRound crc byte) = Crc.feed modbusPoly (register crc) byte := by
  have clear : ∀ i < 8, (crc.2.toBitVec.setWidth 16 <<< 8).getLsbD i = false := by
    intro i lt
    simp [lt]
  rw [register.eq_def crc, Crc.feed_split modbusPoly _ _ clear, tables_shifts,
    shiftLeft_shiftRight_byte, crcRound, register_xor]

theorem register_crc16 (buf : List UInt8) :
    register (buf.foldl crcRound (0xFF, 0xFF)) = crcModbus buf := by
  have rounds (start : UInt8 × UInt8) :
      register (buf.foldl crcRound start) = Crc.check modbusPoly (register start) buf := by
    induction buf generalizing start with
    | nil => rfl
    | cons byte rest ih => rw [List.foldl_cons, ih, register_crcRound]; rfl
  exact rounds (0xFF, 0xFF)

theorem getLsbD_register (crc : UInt8 × UInt8) (i : Nat) :
    (register crc).getLsbD i =
      if i < 8 then crc.1.toBitVec.getLsbD i else crc.2.toBitVec.getLsbD (i - 8) := by
  have low : 8 ≤ i → crc.1.toBitVec.getLsbD i = false := BitVec.getLsbD_of_ge _ i
  have high : 16 ≤ i → crc.2.toBitVec.getLsbD (i - 8) = false := fun ge =>
    BitVec.getLsbD_of_ge _ _ (by omega)
  grind [register]

theorem swapBytes_register (crc : UInt8 × UInt8) :
    swapBytes (UInt16.ofBitVec (register crc)) = (crc.1.toUInt16 <<< 8) ||| crc.2.toUInt16 := by
  apply UInt16.toBitVec_inj.mp
  apply BitVec.eq_of_getLsbD_eq
  intro i lt
  simp only [swapBytes, UInt16.toBitVec_or, UInt16.toBitVec_shiftLeft, UInt16.toBitVec_shiftRight,
    BitVec.getLsbD_or]
  by_cases low : i < 8
  · simp [getLsbD_register, low, lt]
  · have inside : i - 8 < 8 := by omega
    have gone : crc.2.toBitVec.getLsbD i = false := BitVec.getLsbD_of_ge _ i (by omega)
    have outside : (register crc).getLsbD (8 + i) = false := BitVec.getLsbD_of_ge _ _ (by omega)
    have kept : (register crc).getLsbD (i - 8) = crc.1.toBitVec.getLsbD (i - 8) := by
      rw [getLsbD_register, if_pos inside]
    rw [BitVec.getLsbD_eq_getElem (by omega), BitVec.getLsbD_eq_getElem inside] at kept
    simp [low, lt, inside, gone, outside, kept]

theorem bytesOf_register (crc : UInt8 × UInt8) : Crc.bytesOf 2 (register crc) = [crc.1, crc.2] := by
  have low : (register crc).setWidth 8 = crc.1.toBitVec := by
    apply BitVec.eq_of_getLsbD_eq
    intro i lt
    simp [getLsbD_register, lt]
  have high : (register crc >>> 8).setWidth 8 = crc.2.toBitVec := by
    apply BitVec.eq_of_getLsbD_eq
    intro i lt
    simp [getLsbD_register, lt]
  rw [Crc.bytesOf, Crc.bytesOf, Crc.bytesOf, low, high]

theorem htons_join (high low : UInt8) :
    htons ((high.toUInt16 <<< 8) ||| low.toUInt16) = [high, low] := by
  have first : (((high.toUInt16 <<< 8) ||| low.toUInt16) >>> 8).toUInt8 = high := by
    apply UInt8.toBitVec_inj.mp
    apply BitVec.eq_of_getLsbD_eq
    intro i lt
    simp [lt, Nat.lt_trans lt (by decide : 8 < 16), show 8 + i < 16 by omega]
  have second : ((high.toUInt16 <<< 8) ||| low.toUInt16).toUInt8 = low := by
    apply UInt8.toBitVec_inj.mp
    apply BitVec.eq_of_getLsbD_eq
    intro i lt
    simp [lt]
  rw [htons, first, second]

theorem htons_crc16Word (buf : List UInt8) : htons (crc16Word buf) = crc16 buf := by
  rw [crc16Word, crc16]
  exact htons_join _ _

/-- The bytes that are sent are those of the bitwise check, the low one first. -/
theorem crc16_bytesOf (buf : List UInt8) : crc16 buf = Crc.bytesOf 2 (crcModbus buf) := by
  rw [← register_crc16, bytesOf_register]
  rfl

theorem slaveAccepts_withCrc (buf : List UInt8) : slaveAccepts (withCrc buf) = true := by
  have length : (withCrc buf).length - 2 = buf.length := by simp [withCrc, crc16]
  rw [slaveAccepts, length]
  simp only [withCrc, List.drop_left', List.take_left', crc16_bytesOf, beq_self_eq_true]
  simp [Crc.bytesOf]

/-- The tables compute CRC-16/MODBUS with its bytes swapped, and a frame that ends with them is
one a standard slave takes. -/
theorem crc16_is_crcModbus (buf : List UInt8) :
    crc16Word buf = swapBytes (UInt16.ofBitVec (crcModbus buf)) ∧
      crcModbus (buf ++ htons (crc16Word buf)) = 0#16 ∧
      withCrc buf = buf ++ htons (crc16Word buf) ∧ slaveAccepts (withCrc buf) = true := by
  refine ⟨?_, ?_, ?_, slaveAccepts_withCrc buf⟩
  · rw [← register_crc16, swapBytes_register]
    rfl
  · rw [htons_crc16Word, crc16_bytesOf]
    exact Crc.check_self modbusPoly (by decide) _ buf
  · rw [htons_crc16Word, withCrc]

end HiMaxGateway.Plugin
