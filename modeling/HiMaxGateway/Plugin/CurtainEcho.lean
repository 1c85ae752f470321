import HiMaxGateway.Plugin.Curtain
import HiMaxGateway.Plugin.Memmatch

/-! What the curtain motors make of the echo of their own commands:
`Mbus_Curtain_Changming.c`, `Mbus_Curtain_HeChuang.c` and `Mbus_Curtain_Dooya.c`. -/
namespace HiMaxGateway.Plugin
open CRun FirstHit

-- Changming and HeChuang look for the address, which stands behind the header.

/-- The key `parseExt` looks for. -/
def motorKey (devId : UInt8) : UInt16 := (devId.toUInt16 <<< 8) ||| devId.toUInt16

theorem motorKey_bytes (devId : UInt8) :
    (motorKey devId >>> 8).toUInt8 = devId ∧ (motorKey devId).toUInt8 = devId := by
  revert devId
  apply forall_byte
  decide +kernel

section

variable {header devId : UInt8} {value : UInt32} {rest : List UInt8}

/-- The echo of a command and what was received behind it. -/
def motorEcho (header devId : UInt8) (value : UInt32) (rest : List UInt8) : List UInt8 :=
  motorBuild header devId.toUInt16 (some ⟨1, value⟩) ++ rest

theorem motorEcho_bytes (header devId : UInt8) (value : UInt32) (rest : List UInt8) :
    ∃ crc, motorEcho header devId value rest =
      [header, devId, devId, 0x3, controlByte value] ++ crc ++ rest ∧ crc.length = 2 := by
  refine ⟨crc16 [header, devId, devId, 0x3, controlByte value], ?_, rfl⟩
  simp [motorEcho, motorBuild, withCrc, DpObj.dpValue]

theorem frameLen_motorEcho (header devId : UInt8) (value : UInt32) (rest : List UInt8) :
    frameLen (motorEcho header devId value rest) = (7 + rest.length) % 65536 := by
  obtain ⟨crc, bytes, two⟩ := motorEcho_bytes header devId value rest
  rw [bytes, frameLen]
  congr 1
  simp only [List.length_append, List.length_cons, List.length_nil, two]

theorem motorEcho_located (other : devId ≠ header) (whole : 7 ≤ (7 + rest.length) % 65536) :
    findKey (motorKey devId) 6 (motorEcho header devId value rest) = some 1 := by
  obtain ⟨upper, lower⟩ := motorKey_bytes devId
  obtain ⟨crc, bytes, -⟩ := motorEcho_bytes header devId value rest
  have length := frameLen_motorEcho header devId value rest
  apply findKey_first
  · rw [upper, lower]
    refine ⟨by omega, by simp [Pair, bytes], fun j before => ?_⟩
    obtain rfl : j = 0 := by omega
    simpa [Pair, bytes] using fun same => absurd same.symm other
  · omega

/-- With the address of the header the search ends one byte too early. -/
theorem motorEcho_early (whole : 7 ≤ (7 + rest.length) % 65536) :
    findKey (motorKey header) 6 (motorEcho header header value rest) = some 0 := by
  obtain ⟨upper, lower⟩ := motorKey_bytes header
  obtain ⟨crc, bytes, -⟩ := motorEcho_bytes header header value rest
  have length := frameLen_motorEcho header header value rest
  apply findKey_first
  · rw [upper, lower]
    refine ⟨by omega, by simp [Pair, bytes], fun j before => ?_⟩
    exact absurd before (Nat.not_lt_zero j)
  · omega

theorem curtainObjs_control (known : value ≤ 2) :
    curtainObjs (if controlByte value = 1 then 0 else if controlByte value = 2 then 2
      else if controlByte value = 3 then 1 else (controlByte value).toUInt32) =
        curtainObjs value := by
  have three : value = 0 ∨ value = 1 ∨ value = 2 := by
    have bound : value.toNat ≤ 2 := known
    simp only [← UInt32.toNat_inj]
    change value.toNat = 0 ∨ value.toNat = 1 ∨ value.toNat = 2
    omega
  rcases three with rfl | rfl | rfl <;> rfl

/-- The echo of a command, with the rest of the buffer behind it, is found behind its header and
gives the value that was commanded. -/
structure MotorEchoed (buildExt : UInt16 → Option DpObj → List UInt8)
    (parseExt : UInt16 → List UInt8 → Parsed) (devId : UInt8) (value : UInt32)
    (rest : List UInt8) : Prop where
  located : findKey (motorKey devId) 6 (buildExt devId.toUInt16 (some ⟨1, value⟩) ++ rest) = some 1
  decoded : parseExt devId.toUInt16 (buildExt devId.toUInt16 (some ⟨1, value⟩) ++ rest) =
    .ok (some (curtainObjs value))

theorem motorEchoed_iff (known : value ≤ 2) :
    MotorEchoed (motorBuild header) motorParse devId value rest ↔
      devId ≠ header ∧ 7 ≤ (7 + rest.length) % 65536 := by
  have length := frameLen_motorEcho header devId value rest
  constructor
  · rintro ⟨located, -⟩
    change findKey _ 6 (motorEcho header devId value rest) = some 1 at located
    have whole : 7 ≤ (7 + rest.length) % 65536 := by
      have := (findKey_some located).1
      omega
    refine ⟨?_, whole⟩
    rintro rfl
    rw [motorEcho_early whole] at located
    cases located
  · rintro ⟨other, whole⟩
    have located : findKey (motorKey devId) 6 (motorEcho header devId value rest) = some 1 :=
      motorEcho_located other whole
    refine ⟨located, ?_⟩
    obtain ⟨crc, bytes, -⟩ := motorEcho_bytes header devId value rest
    have kind : byteAt (motorEcho header devId value rest) 1 2 = .ok 3 :=
      byteAt_eq_ok.mpr (by simp [bytes])
    have action : byteAt (motorEcho header devId value rest) 1 3 = .ok (controlByte value) :=
      byteAt_eq_ok.mpr (by simp [bytes])
    change motorParse devId.toUInt16 (motorEcho header devId value rest) = _
    rw [motorParse, if_neg (by omega), ← motorKey, located]
    simp only [kind, action, bind, Except.bind]
    rw [if_neg (by decide), if_pos trivial]
    exact congrArg (fun objs => Except.ok (some objs)) (curtainObjs_control known)

end

/-- The echo of a command, whatever follows it, gives the command back exactly when the address is
not the byte of the header and the length, cut to 16 bits, leaves the frame whole. -/
theorem motor_echo_iff (devId : UInt8) (value : UInt32) (known : value ≤ 2) (rest : List UInt8) :
    (MotorEchoed Changming.buildExt Changming.parseExt devId value rest ↔
        devId ≠ 0xAA ∧ 7 ≤ (7 + rest.length) % 65536) ∧
      (MotorEchoed HeChuang.buildExt HeChuang.parseExt devId value rest ↔
        devId ≠ 0x55 ∧ 7 ≤ (7 + rest.length) % 65536) :=
  ⟨motorEchoed_iff known, motorEchoed_iff known⟩

/-- Motors with the address of the header. -/
theorem motor_own_header :
    Changming.parseExt 0xAA (Changming.buildExt 0xAA (some ⟨1, 0⟩) ++ []) ≠
        .ok (some (curtainObjs 0)) ∧
      HeChuang.parseExt 0x55 (HeChuang.buildExt 0x55 (some ⟨1, 0⟩) ++ []) ≠
        .ok (some (curtainObjs 0)) := by
  decide

theorem motor_echo_one : MotorEchoed Changming.buildExt Changming.parseExt 1 2 [0xAA, 7] ∧
    MotorEchoed HeChuang.buildExt HeChuang.parseExt 1 2 [0xAA, 7] :=
  ⟨(motor_echo_iff 1 2 (by decide) [0xAA, 7]).1.mpr (by decide),
    (motor_echo_iff 1 2 (by decide) [0xAA, 7]).2.mpr (by decide)⟩

-- Dooya asks for as many bytes behind the header as the whole frame has.

namespace Dooya

/-- The number of the cloud for a state of the motor: it stops with 0, opens with 1. -/
def stateValue (state : UInt8) : UInt32 := if state = 0 then 1 else if state = 1 then 0 else 2

/-- Only an address that repeats the header is found in the echo, and then in the wrong place. -/
theorem parseExt_echo (devId : UInt16) (value : UInt32) :
    parseExt devId (buildExt devId (some ⟨1, value⟩)) =
      .ok (if devId = 0x5555 then some [{}] else none) := by
  let echo := buildExt devId (some ⟨1, value⟩)
  have length : frameLen echo = 7 := rfl
  have first : echo[0]? = some 0x55 := rfl
  have second : echo[1]? = some (devId >>> 8).toUInt8 := rfl
  have third : byteAt echo 0 2 = .ok devId.toUInt8 := rfl
  have found := findKey_whole devId length (by decide)
  simp only [first, second, Option.some.injEq] at found
  have repeated : ((0x55 : UInt8) = (devId >>> 8).toUInt8 ∧ (devId >>> 8).toUInt8 = devId.toUInt8) ↔
      devId = 0x5555 := by
    constructor
    · rintro ⟨high, low⟩
      rw [← ntohs_htons devId, ← low, ← high]
      decide
    · rintro rfl
      decide
  simp only [repeated] at found
  change parseExt devId echo = _
  rw [parseExt, if_neg (by omega), found]
  by_cases header : devId = 0x5555
  · subst header
    rw [if_pos rfl, if_pos rfl]
    simp only [third, bind, Except.bind]
    rw [if_neg (by decide), if_neg (by decide)]
    rfl
  · rw [if_neg header, if_neg header]
    rfl

/-- A status passes on the number of the motor. -/
theorem parseExt_status (found : findKey devId 7 buf = some pos)
    (status : byteAt buf pos 2 = .ok 1) (read : byteAt buf pos 4 = .ok state) :
    parseExt devId buf = .ok (some (curtainObjs state.toUInt32)) := by
  have enough := (findKey_some found).1
  rw [parseExt, if_neg (by omega), found]
  simp only [status, read, bind, Except.bind]
  rfl

/-- No echo of a command gives the command back. A status gives the number of the cloud for one of
the three states only. -/
theorem echo_never (devId : UInt16) (value : UInt32) :
    parseExt devId (buildExt devId (some ⟨1, value⟩)) ≠ .ok (some (curtainObjs value)) ∧
      ∀ buf pos state, findKey devId 7 buf = some pos → byteAt buf pos 2 = .ok 1 →
        byteAt buf pos 4 = .ok state → state ≤ 2 →
        (parseExt devId buf = .ok (some (curtainObjs (stateValue state))) ↔ state = 2) := by
  constructor
  · rw [parseExt_echo]
    split <;> simp [curtainObjs]
  · intro buf pos state found status read bound
    rw [parseExt_status found status read]
    have three : ∀ state : UInt8, state ≤ 2 → (state.toUInt32 = stateValue state ↔ state = 2) := by
      apply forall_byte
      decide +kernel
    simpa [curtainObjs] using three state bound

theorem echo_open_lost :
    parseExt 0x0101 (buildExt 0x0101 (some ⟨1, 0⟩)) ≠ .ok (some (curtainObjs 0)) := by
  decide

/-- A status of a motor that closes. -/
theorem echo_never_closing :
    parseExt 0x0101 (buildExt 0x0101 (some ⟨1, 2⟩)) ≠ .ok (some (curtainObjs 2)) ∧
      parseExt 0x0101 [0x55, 1, 1, 1, 1, 2, 0, 0] = .ok (some (curtainObjs 2)) :=
  ⟨(echo_never 0x0101 2).1,
    ((echo_never 0x0101 2).2 [0x55, 1, 1, 1, 1, 2, 0, 0] 1 2 rfl rfl rfl (by decide)).mpr rfl⟩

end Dooya

end HiMaxGateway.Plugin
