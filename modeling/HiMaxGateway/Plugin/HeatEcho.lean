import HiMaxGateway.Plugin.Heat
import HiMaxGateway.Plugin.Memmatch

/-! What the floor heatings make of the echo of their own commands: `Mbus_Heat_Honeywell.c` behind
noise on the line, `Modbus_FloorHeating_TOWWIRE.c` for each room. -/
namespace HiMaxGateway.Plugin
open CRun FirstHit

/-- The bytes of a frame stay what they are behind others. -/
theorem byteAt_behind (noise frame : List UInt8) (k : Nat) :
    byteAt (noise ++ frame) noise.length k = byteAt frame 0 k := by
  unfold byteAt
  rw [List.getElem?_append_right (by omega), Nat.zero_add, Nat.add_sub_cancel_left]

/-- A word of two bytes is the value they were taken from. -/
theorem word_of_bytes (value : UInt16) :
    ((value >>> 8).toUInt8.toUInt32 <<< 8) + value.toUInt8.toUInt32 = value.toUInt32 := by
  have := value.toNat_lt
  apply UInt32.toNat_inj.mp
  simp [Nat.shiftLeft_eq, Nat.shiftRight_eq_div_pow]
  omega

/-- Neither of two keys starts in the noise, the last byte of which may go with the frame. -/
def Quiet (devId readCode writeCode : UInt8) (noise frame : List UInt8) : Prop :=
  ∀ i < noise.length, ¬ Pair devId readCode (noise ++ frame) i ∧
    ¬ Pair devId writeCode (noise ++ frame) i

section

variable {devId readCode writeCode third : UInt8} {noise rest : List UInt8}

/-- The echo of a write is found behind noise: the answer to a read could only be found further
back, where too few bytes are left. -/
theorem findFrame_behind (codes : writeCode ≠ readCode) (notThird : third ≠ readCode)
    (eight : rest.length = 5) (short : noise.length + 8 < 65536)
    (quiet : Quiet devId readCode writeCode noise (devId :: writeCode :: third :: rest)) :
    findFrame devId readCode writeCode 7 7 (noise ++ devId :: writeCode :: third :: rest) =
      some noise.length := by
  unfold Quiet at quiet
  generalize whole : noise ++ devId :: writeCode :: third :: rest = buf at quiet ⊢
  have bytes : buf.length = noise.length + 8 := by
    rw [← whole]
    simp [eight]
  have length : frameLen buf = noise.length + 8 := by
    rw [frameLen, bytes, Nat.mod_eq_of_lt short]
  have here : Pair devId writeCode buf noise.length := by
    rw [← whole]
    simp [Pair]
  have second : buf[noise.length + 1]? = some writeCode := here.2
  have after : buf[noise.length + 1 + 1]? = some third := by
    rw [← whole, Nat.add_assoc, List.getElem?_append_right (by omega), Nat.add_sub_cancel_left]
    rfl
  have asked : (memmatch buf devId readCode (frameLen buf)).filter
      (fun pos => 7 ≤ frameLen buf - pos) = none := by
    rw [Option.filter_eq_none_iff]
    intro pos found enough
    have enough : 7 ≤ frameLen buf - pos := by simpa using enough
    obtain ⟨-, first, code⟩ := memmatch_some found
    have behind : noise.length ≤ pos := by
      by_contra inside
      exact (quiet pos (by omega)).1 ⟨first, code⟩
    obtain rfl | rfl : pos = noise.length ∨ pos = noise.length + 1 := by omega
    · exact codes (Option.some.inj (second.symm.trans code))
    · exact notThird (Option.some.inj (after.symm.trans code))
  have written : memmatch buf devId writeCode (frameLen buf) = some noise.length := by
    refine memmatch_first (frameLen_le buf) ⟨by omega, here, fun i before => ?_⟩
    exact (quiet i before).2
  unfold findFrame
  simp only [asked, written, Option.filter_some]
  rw [if_pos (by simp [length])]

end

namespace Honeywell

/-- The commands of the product. -/
inductive Command where
  | switch (on : Bool)
  | temp (degrees : Fin 6554)
  deriving DecidableEq, Repr

def Command.dpid : Command → UInt8
  | .switch _ => 1
  | .temp _ => 2

def Command.value : Command → UInt32
  | .switch on => if on then 1 else 0
  | .temp degrees => UInt32.ofNat degrees

def Command.point : Command → PointFeature
  | .switch _ => .heatSwitch
  | .temp _ => .heatTemp

def Command.frame (devId : UInt8) (cmd : Command) : List UInt8 :=
  build devId (some ⟨cmd.dpid, cmd.value⟩)

/-- The low byte of the register, and the two bytes of its value. -/
def Command.fields : Command → UInt8 × UInt8 × UInt8
  | .switch on => (1, 0, if on then 1 else 0)
  | .temp degrees =>
      let tenths := (UInt32.ofNat degrees * 10).toUInt16
      (4, (tenths >>> 8).toUInt8, tenths.toUInt8)

theorem frame_bytes (devId : UInt8) (cmd : Command) :
    cmd.frame devId = withCrc
      [devId, writeCode, 0, cmd.fields.1, cmd.fields.2.1, cmd.fields.2.2] := by
  cases cmd with
  | switch on => cases on <;> rfl
  | temp degrees => rfl

theorem tenths_back (degrees : Fin 6554) :
    (UInt32.ofNat degrees * 10).toUInt16.toUInt32 / 10 = UInt32.ofNat degrees := by
  have bound := degrees.isLt
  have tenths : degrees.val * 10 % 65536 = degrees.val * 10 := Nat.mod_eq_of_lt (by omega)
  apply UInt32.toNat_inj.mp
  simp [tenths]
  omega

/-- What the echo of a command gives, once it is found. -/
theorem parse_found (buf : List UInt8) (cmd : Command) (long : 7 ≤ frameLen buf)
    (found : findFrame devId readCode writeCode 7 7 buf = some pos)
    (echoed : ∀ k, byteAt buf pos k = byteAt (cmd.frame devId) 0 k) :
    parse devId buf = .ok (some [⟨cmd.point, cmd.value, 0⟩]) := by
  have words (k : Nat) : wordAt buf pos k = wordAt (cmd.frame devId) 0 k := by
    simp only [wordAt, echoed]
  have code : byteAt (cmd.frame devId) 0 1 = .ok writeCode := by
    rw [frame_bytes]
    rfl
  rw [parse, if_neg (by omega), found]
  simp only [echoed, words, code, bind, Except.bind]
  rw [if_neg (by decide), if_pos trivial]
  cases cmd with
  | switch on => cases on <;> rfl
  | temp degrees =>
    have register : wordAt (Command.frame devId (.temp degrees)) 0 2 = .ok wrTempAddr := rfl
    have value : wordAt (Command.frame devId (.temp degrees)) 0 4 =
        .ok (UInt32.ofNat degrees * 10).toUInt16.toUInt32 :=
      congrArg Except.ok (word_of_bytes (UInt32.ofNat degrees * 10).toUInt16)
    simp only [register, value]
    rw [if_neg (by decide), if_pos trivial, tenths_back]
    rfl

/-- Noise on the line before the echo of a command does not change what is decoded. The length goes
to `parse` as 16 bits. -/
theorem parse_behind_noise (devId : UInt8) (cmd : Command) (noise : List UInt8)
    (short : noise.length + (cmd.frame devId).length < 65536)
    (quiet : Quiet devId readCode writeCode noise (cmd.frame devId)) :
    parse devId (noise ++ cmd.frame devId) = .ok (some [⟨cmd.point, cmd.value, 0⟩]) := by
  have bytes := frame_bytes devId cmd
  have eight : (cmd.frame devId).length = 8 := by
    rw [bytes]
    rfl
  have found : findFrame devId readCode writeCode 7 7 (noise ++ cmd.frame devId) =
      some noise.length := by
    rw [bytes] at quiet ⊢
    exact findFrame_behind (by decide) (by decide) rfl (by omega) quiet
  refine parse_found (noise ++ cmd.frame devId) cmd ?_ found (byteAt_behind noise _)
  rw [frameLen, List.length_append, Nat.mod_eq_of_lt short]
  omega

theorem parse_behind_three : parse 1 ([1, 7, 9] ++ Command.frame 1 (.temp 26)) =
    .ok (some [⟨.heatTemp, 26, 0⟩]) :=
  parse_behind_noise 1 (.temp 26) [1, 7, 9] (by decide) (by unfold Quiet; decide)

end Honeywell

namespace Towwire

variable {devId : UInt8} {regAddr : UInt16}

/-- The commands of the product. -/
inductive Command where
  | switch (on : Bool)
  | temp (value : UInt16)
  deriving DecidableEq, Repr

def Command.dpid : Command → UInt8
  | .switch _ => 1
  | .temp _ => 2

def Command.value : Command → UInt32
  | .switch on => if on then 1 else 0
  | .temp value => value.toUInt32

def Command.point : Command → PointFeature
  | .switch _ => .heatSwitch
  | .temp _ => .heatTemp

/-- The first of the registers of a room a command is for. -/
def Command.first : Command → Nat
  | .switch _ => 4
  | .temp _ => 5

def Command.frame (devId : UInt8) (regAddr : UInt16) (cmd : Command) : Option (List UInt8) :=
  build devId regAddr (some ⟨cmd.dpid, cmd.value⟩)

/-- The register a command has to write: each room has seven. -/
def Command.register (regAddr : UInt16) (cmd : Command) : Nat := 7 * (regAddr.toNat - 1) + cmd.first

/-- Rooms are counted from 1 on, and their registers have 16 bits. -/
def Room (regAddr : UInt16) : Prop := 1 ≤ regAddr.toNat ∧ 4 + 7 * (regAddr.toNat - 1) + 1 < 65536

/-- The register a frame writes. -/
def registerOf (frame : List UInt8) : Option Nat := do
  let high ← frame[2]?
  let low ← frame[3]?
  pure (256 * high.toNat + low.toNat)

/-- The frame of a command writes its register, and its echo gives the command back. -/
structure Commanded (devId : UInt8) (regAddr : UInt16) (cmd : Command) (frame : List UInt8) :
    Prop where
  addressed : registerOf frame = some (cmd.register regAddr)
  echoed : parse devId frame = .ok (some [⟨cmd.point, cmd.value, 0⟩])

/-- The data of the frame. -/
def Command.data : Command → UInt8 × UInt8
  | .switch on => (0, on.toUInt8)
  | .temp value => ((value.toUInt32 >>> 8).toUInt8, value.toUInt32.toUInt8)

theorem frame_bytes (devId : UInt8) (regAddr : UInt16) (cmd : Command) :
    cmd.frame devId regAddr = some (withCrc [devId, writeCode, 0, registerByte regAddr cmd.first,
      cmd.data.1, cmd.data.2]) := by
  cases cmd with
  | switch on => cases on <;> rfl
  | temp value => rfl

/-- The register is cut to a byte. -/
theorem registerByte_toNat (room : Room regAddr) (cmd : Command) :
    (registerByte regAddr cmd.first).toNat = cmd.register regAddr % 256 := by
  obtain ⟨one, -⟩ := room
  have number : ((regAddr.toNat : Int) - 1) * 7 + cmd.first = (cmd.register regAddr : Nat) := by
    rw [Command.register]
    omega
  rw [registerByte, number, UInt8.ofInt, UInt8.toNat_ofNat']
  omega

/-- The room of a byte that was not cut is found again. -/
theorem dataPoint_switch (n : Fin 36) : dataPoint (UInt8.ofNat (7 * n + 4)) = 0 := by
  revert n
  decide

theorem dataPoint_temp (n : Fin 36) : dataPoint (UInt8.ofNat (7 * n + 5)) = 1 := by
  revert n
  decide

theorem checkCrc_echo (devId register high low : UInt8) :
    checkCrc [readCode, writeCode] devId
      (withCrc [devId, writeCode, 0, register, high, low]) = .ok true := by
  let body := [devId, writeCode, 0, register, high, low]
  let crc := body.foldl crcRound (0xFF, 0xFF)
  have length : byteLen (withCrc body) = 8 := rfl
  have sumHigh : byteAt (withCrc body) 0 6 = .ok crc.1 := rfl
  have sumLow : byteAt (withCrc body) 0 7 = .ok crc.2 := rfl
  have sum : crc16 ((withCrc body).take 6) = [crc.1, crc.2] := rfl
  have device : byteAt (withCrc body) 0 0 = .ok devId := rfl
  have code : byteAt (withCrc body) 0 1 = .ok writeCode := rfl
  change checkCrc [readCode, writeCode] devId (withCrc body) = .ok true
  unfold checkCrc
  simp only [length, sumHigh, sumLow, sum, device, code, bind, Except.bind, ne_eq, not_true,
    if_false]
  rfl

theorem parse_echo (room : Room regAddr) (small : regAddr.toNat ≤ 36) (cmd : Command) :
    parse devId (withCrc [devId, writeCode, 0, registerByte regAddr cmd.first, cmd.data.1,
      cmd.data.2]) = .ok (some [⟨cmd.point, cmd.value, 0⟩]) := by
  let frame := withCrc [devId, writeCode, 0, registerByte regAddr cmd.first, cmd.data.1, cmd.data.2]
  have checked : checkCrc [readCode, writeCode] devId frame = .ok true := checkCrc_echo ..
  have code : byteAt frame 0 1 = .ok writeCode := rfl
  have register : byteAt frame 0 3 = .ok (registerByte regAddr cmd.first) := rfl
  have number : registerByte regAddr cmd.first =
      UInt8.ofNat (7 * (regAddr.toNat - 1) + cmd.first) := by
    apply UInt8.toNat_inj.mp
    rw [registerByte_toNat room, UInt8.toNat_ofNat', Command.register]
  change parse devId frame = _
  rw [parse, checked]
  simp only [bind, Except.bind, code, register, number, Bool.not_true, Bool.false_eq_true, if_false]
  rw [if_neg (by decide)]
  have low : regAddr.toNat - 1 < 36 := by
    have := room.1
    omega
  cases cmd with
  | switch on =>
    have point := dataPoint_switch ⟨regAddr.toNat - 1, low⟩
    simp only [Command.first] at point ⊢
    simp only [point]
    cases on <;> rfl
  | temp value =>
    have point := dataPoint_temp ⟨regAddr.toNat - 1, low⟩
    have high : (value.toUInt32 >>> 8).toUInt8 = (value >>> 8).toUInt8 := by
      apply UInt8.toNat_inj.mp
      simp
    have word : wordAt frame 0 4 = .ok value.toUInt32 := by
      change Except.ok ((value.toUInt32 >>> 8).toUInt8.toUInt32 <<< 8 +
        value.toUInt32.toUInt8.toUInt32) = _
      rw [high, UInt16.toUInt8_toUInt32, word_of_bytes]
    simp only [Command.first] at point ⊢
    simp only [point, word]
    rfl

/-- The command is sent to its register and read back as it was exactly for the rooms whose
registers have one byte. -/
theorem room_commanded (room : Room regAddr) (sent : Command.frame devId regAddr cmd = some frame) :
    Commanded devId regAddr cmd frame ↔ regAddr.toNat ≤ 36 := by
  rw [frame_bytes] at sent
  cases sent
  have byte := registerByte_toNat room cmd
  have first : cmd.first = 4 ∨ cmd.first = 5 := by
    cases cmd
    · exact .inl rfl
    · exact .inr rfl
  have written : registerOf (withCrc [devId, writeCode, 0, registerByte regAddr cmd.first,
      cmd.data.1, cmd.data.2]) = some (256 * 0 + (registerByte regAddr cmd.first).toNat) := rfl
  rw [Nat.mul_zero, Nat.zero_add, byte] at written
  have one := room.1
  constructor
  · rintro ⟨addressed, -⟩
    have short := Option.some.inj (written.symm.trans addressed)
    rw [Command.register] at short
    omega
  · intro small
    refine ⟨?_, parse_echo room small cmd⟩
    rw [written, Nat.mod_eq_of_lt (by rw [Command.register]; omega)]

/-- The registers of two frames are told apart by one byte. -/
theorem registerOf_eq_iff {other : UInt16} {cmd otherCmd : Command} (room : Room regAddr)
    (otherRoom : Room other) (sent : cmd.frame devId regAddr = some frame)
    (otherSent : otherCmd.frame devId other = some otherFrame) :
    registerOf frame = registerOf otherFrame ↔
      cmd.register regAddr % 256 = otherCmd.register other % 256 := by
  rw [frame_bytes] at sent otherSent
  cases sent
  cases otherSent
  rw [← registerByte_toNat room cmd, ← registerByte_toNat otherRoom otherCmd]
  change some (256 * 0 + _) = some (256 * 0 + _) ↔ _
  rw [Option.some.injEq]
  omega

/-- Small rooms keep their registers to themselves. -/
theorem register_ne {other : UInt16} {cmd otherCmd : Command} (room : Room regAddr)
    (otherRoom : Room other) (small : regAddr.toNat ≤ 36) (otherSmall : other.toNat ≤ 36)
    (apart : other ≠ regAddr) :
    cmd.register regAddr % 256 ≠ otherCmd.register other % 256 := by
  have numbers : other.toNat ≠ regAddr.toNat := fun same => apart (UInt16.toNat_inj.mp same)
  obtain ⟨one, -⟩ := room
  obtain ⟨otherOne, -⟩ := otherRoom
  unfold Command.register
  cases cmd <;> cases otherCmd <;> simp only [Command.first] <;> omega

/-- The register of a room is right, and its command read back, exactly up to room 36. Two rooms
have one register where their registers are the same in the low byte, which needs a room above
36. -/
theorem room_registers_iff (devId : UInt8) (regAddr : UInt16) (room : Room regAddr)
    (cmd : Command) :
    (∃ frame, cmd.frame devId regAddr = some frame ∧
        (Commanded devId regAddr cmd frame ↔ regAddr.toNat ≤ 36)) ∧
      ∀ other otherCmd frame otherFrame, Room other → other ≠ regAddr →
        cmd.frame devId regAddr = some frame →
        Command.frame devId other otherCmd = some otherFrame →
        (registerOf frame ≠ registerOf otherFrame ↔
          cmd.register regAddr % 256 ≠ otherCmd.register other % 256) ∧
        (regAddr.toNat ≤ 36 → other.toNat ≤ 36 → registerOf frame ≠ registerOf otherFrame) := by
  refine ⟨⟨_, frame_bytes devId regAddr cmd, room_commanded room (frame_bytes ..)⟩, ?_⟩
  intro other otherCmd frame otherFrame otherRoom apart sent otherSent
  have same := registerOf_eq_iff room otherRoom sent otherSent
  refine ⟨not_congr same, fun small otherSmall => ?_⟩
  exact mt same.mp (register_ne room otherRoom small otherSmall apart)

/-- The switch of room 37 is written to register 0, that of room 257 to the register of room 1. -/
theorem room_register_wraps :
    (∃ frame, Command.frame 1 37 (.switch true) = some frame ∧ registerOf frame = some 0 ∧
        parse 1 frame = .ok none) ∧
      ∃ frame other, Command.frame 1 1 (.switch true) = some frame ∧
        Command.frame 1 257 (.switch true) = some other ∧ registerOf frame = registerOf other := by
  refine ⟨⟨_, rfl, ?_, ?_⟩, ⟨_, _, rfl, rfl, ?_⟩⟩ <;> decide +kernel

theorem room_registers_last : ∃ frame, Command.frame 1 36 (.temp 26) = some frame ∧
    Commanded 1 36 (.temp 26) frame := by
  obtain ⟨frame, sent, commanded⟩ :=
    (room_registers_iff 1 36 ⟨by decide, by decide⟩ (.temp 26)).1
  exact ⟨frame, sent, commanded.mpr (by decide)⟩

end Towwire

end HiMaxGateway.Plugin
