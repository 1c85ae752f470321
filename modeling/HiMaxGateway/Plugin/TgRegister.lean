import HiMaxGateway.Plugin.AcdTg
import HiMaxGateway.Plugin.Locate

/-! The control register of `Mbus_Acd_TG_A21MC.c`: what a command leaves of it, and what is read
back. -/
namespace HiMaxGateway.Plugin.Tg
open CRun

/-- The 16-bit register of two bytes. -/
def register (b0 b1 : UInt8) : UInt16 := (b0.toUInt16 <<< 8) ||| b1.toUInt16

/-- The commands of the product. Temperatures are counted from 16 on. -/
inductive Command where
  | switch (on : Bool)
  | temp (above : Fin 17)
  | mode (value : Fin 5)
  | speed (value : Fin 4)
  deriving DecidableEq, Repr

def Command.value : Command → UInt32
  | .switch on => if on then 1 else 0
  | .temp above => UInt32.ofNat (16 + above)
  | .mode value => UInt32.ofNat value
  | .speed value => UInt32.ofNat value

def Command.point : Command → PointFeature
  | .switch _ => .acdSwitch
  | .temp _ => .acdTemp
  | .mode _ => .acdMode
  | .speed _ => .acdSpeed

/-- The bits of the register a command is about. -/
def Command.bits : Command → UInt16
  | .switch _ => 0xC000
  | .mode _ => 0x3E00
  | .speed _ => 0x01E0
  | .temp _ => 0x001F

def Command.dp (cmd : Command) : DpObj :=
  match cmd with
  | .switch _ => ⟨1, cmd.value⟩
  | .temp _ => ⟨2, cmd.value⟩
  | .mode _ => ⟨4, cmd.value⟩
  | .speed _ => ⟨5, cmd.value⟩

/-- The objects of the last read with the commanded value in its place. -/
def Command.wanted (cmd : Command) (b0 b1 : UInt8) : List ParsedObj :=
  (objs b0 b1).map fun obj => if obj.localPoint = cmd.point then { obj with value := cmd.value }
    else obj

/-- The value fits into its field as it is encoded, and is read back as it was. -/
def Command.Fits : Command → Prop
  | .switch on => on = false
  | .temp above => above = 0
  | .mode _ => True
  | .speed value => value ≠ 3

/-- What a command has to do to a register. -/
def Command.Kept (cmd : Command) (b0 b1 : UInt8) : Prop :=
  let written := command cmd.dp b0 b1
  register written.1 written.2 &&& ~~~cmd.bits = register b0 b1 &&& ~~~cmd.bits ∧
    objs written.1 written.2 = cmd.wanted b0 b1

theorem getLsbD_register (b0 b1 : UInt8) (i : Nat) :
    (register b0 b1).toBitVec.getLsbD i =
      if i < 8 then b1.toBitVec.getLsbD i else b0.toBitVec.getLsbD (i - 8) := by
  have low : 8 ≤ i → b1.toBitVec.getLsbD i = false := BitVec.getLsbD_of_ge _ i
  have high : 16 ≤ i → b0.toBitVec.getLsbD (i - 8) = false := fun ge =>
    BitVec.getLsbD_of_ge _ _ (by omega)
  have bits : (register b0 b1).toBitVec =
      (b0.toBitVec.setWidth 16 <<< 8) ||| b1.toBitVec.setWidth 16 := by
    simp [register]
  rw [bits]
  grind

/-- A mask of the register is a mask of each of its bytes. -/
theorem register_masked {a b c d m n : UInt8} (high : a &&& m = c &&& m)
    (low : b &&& n = d &&& n) : register a b &&& register m n = register c d &&& register m n := by
  have split (x y : UInt8) : register x y &&& register m n = register (x &&& m) (y &&& n) := by
    apply UInt16.toBitVec_inj.mp
    apply BitVec.eq_of_getLsbD_eq
    intro i lt
    simp only [UInt16.toBitVec_and, UInt8.toBitVec_and, BitVec.getLsbD_and, getLsbD_register]
    split <;> rfl
  rw [split, split, high, low]

-- The fields of the register, as `parse` takes them from the two bytes.

def switchOf (b0 : UInt8) : UInt32 :=
  let switch := b0.toUInt32 >>> 14
  if switch = 1 then 0 else if switch = 2 then 1 else switch

def tempOf (b1 : UInt8) : UInt32 := (b1 &&& 0x1F).toUInt32 - 15

def modeOf (b0 : UInt8) : UInt32 :=
  let mode := ((b0 &&& 0x3E) >>> 1).toUInt32
  if mode = 8 then 2 else if mode = 2 then 3 else if mode = 16 then 0 else mode

/-- `carry` is the lowest bit of the high byte. -/
def speedOf (carry top : UInt8) : UInt32 :=
  let speed := (carry.toUInt32 <<< 4) + top.toUInt32
  if speed = 8 then 0 else if speed = 3 then 4 else speed

theorem objs_fields (b0 b1 : UInt8) :
    objs b0 b1 = [⟨.acdSwitch, switchOf b0, 0⟩, ⟨.acdTemp, tempOf b1, 0⟩, ⟨.acdMode, modeOf b0, 0⟩,
      ⟨.acdSpeed, speedOf (b0 &&& 1) (b1 >>> 5), 0⟩] :=
  rfl

/-- What the masks of the commands leave of a byte; it has no bits 15 and 14. -/
theorem byte_masks : ∀ b : UInt8, switchOf b = 0 ∧
    ((b &&& 0x3F) &&& 0x3F = b &&& 0x3F ∧ (b &&& 0x3F) &&& 1 = b &&& 1 ∧
    modeOf (b &&& 0x3F) = modeOf b) ∧
    ((b &&& 0xFE) &&& 0xFE = b &&& 0xFE ∧ (b &&& 0xFE) &&& 1 = 0 ∧ modeOf (b &&& 0xFE) = modeOf b) ∧
    (∃ k : Fin 8, b &&& 0xE0 = UInt8.ofNat (32 * k)) ∧
    ∃ k : Fin 8, b &&& 0xC1 = UInt8.ofNat (64 * (k / 2) + k % 2) := by
  apply forall_byte
  decide +kernel

theorem switchOf_eq (b0 : UInt8) : switchOf b0 = 0 := (byte_masks b0).1

theorem kept_switch_iff (on : Bool) (b0 b1 : UInt8) :
    (Command.switch on).Kept b0 b1 ↔ on = false := by
  have written : command (Command.switch on).dp b0 b1 = (b0 &&& 0x3F, b1) := by
    cases on <;> simp [command, Command.dp, Command.value, DpObj.dpBool, shifted]
  obtain ⟨kept, carry, mode⟩ := (byte_masks b0).2.1
  rw [Command.Kept, written]
  simp only [Command.wanted, objs_fields, Command.bits, switchOf_eq, carry, mode]
  have bits : register (b0 &&& 0x3F) b1 &&& ~~~0xC000 = register b0 b1 &&& ~~~0xC000 := by
    have mask : ~~~(0xC000 : UInt16) = register 0x3F 0xFF := by decide
    rw [mask]
    exact register_masked kept rfl
  cases on <;> simp [bits, Command.point, Command.value]

/-- The byte of a temperature command. From 17 on the sum runs over into the speed. -/
def tempByte (above : Fin 17) (b1 : UInt8) : UInt8 :=
  (b1 &&& 0xE0) + (UInt32.ofNat (16 + above)).toUInt8 + 15

/-- The bits that a temperature leaves have eight values. -/
theorem top_bits (b1 : UInt8) : ∃ k : Fin 8, b1 &&& 0xE0 = UInt8.ofNat (32 * k) :=
  (byte_masks b1).2.2.2.1

theorem tempOf_tempByte_iff (above : Fin 17) (b1 : UInt8) :
    tempOf (tempByte above b1) = UInt32.ofNat (16 + above) ↔ above = 0 := by
  obtain ⟨k, top⟩ := top_bits b1
  rw [tempByte, top]
  clear top
  revert above k
  decide +kernel

theorem tempByte_zero (b1 : UInt8) :
    tempByte 0 b1 &&& 0xE0 = b1 &&& 0xE0 ∧ tempByte 0 b1 >>> 5 = b1 >>> 5 := by
  revert b1
  apply forall_byte
  decide +kernel

theorem kept_temp_iff (above : Fin 17) (b0 b1 : UInt8) :
    (Command.temp above).Kept b0 b1 ↔ above = 0 := by
  have written : command (Command.temp above).dp b0 b1 = (b0, tempByte above b1) := rfl
  rw [Command.Kept, written]
  simp only [Command.wanted, objs_fields, Command.bits]
  constructor
  · rintro ⟨-, same⟩
    simp only [Command.point, Command.value, List.map_cons, List.map_nil, reduceCtorEq, if_false,
      if_true, List.cons.injEq, ParsedObj.mk.injEq, and_true, true_and] at same
    exact (tempOf_tempByte_iff above b1).mp same.1
  · rintro rfl
    obtain ⟨kept, speed⟩ := tempByte_zero b1
    refine ⟨?_, ?_⟩
    · have mask : ~~~(0x001F : UInt16) = register 0xFF 0xE0 := by decide
      rw [mask]
      exact register_masked rfl kept
    · have temp := (tempOf_tempByte_iff 0 b1).mpr rfl
      simp [Command.point, Command.value, temp, speed]

/-- The byte of a mode command. -/
def modeByte (value : Fin 5) (b0 : UInt8) : UInt8 :=
  (b0 &&& 0xC1) + if value = 1 then 2 else if value = 3 then 4 else if value = 4 then 8
    else if value = 2 then 16 else 32

/-- So have those that a mode leaves. -/
theorem outer_bits (b0 : UInt8) : ∃ k : Fin 8, b0 &&& 0xC1 = UInt8.ofNat (64 * (k / 2) + k % 2) :=
  (byte_masks b0).2.2.2.2

theorem modeByte_fields (value : Fin 5) (b0 : UInt8) :
    modeByte value b0 &&& 0xC1 = b0 &&& 0xC1 ∧ modeByte value b0 &&& 1 = b0 &&& 1 ∧
      modeOf (modeByte value b0) = UInt32.ofNat value := by
  have carry : b0 &&& 1 = (b0 &&& 0xC1) &&& 1 := by
    rw [UInt8.and_assoc]
    rfl
  obtain ⟨k, outer⟩ := outer_bits b0
  rw [modeByte, carry, outer]
  clear carry outer
  revert value k
  decide +kernel

theorem kept_mode (value : Fin 5) (b0 b1 : UInt8) : (Command.mode value).Kept b0 b1 := by
  have written : command (Command.mode value).dp b0 b1 = (modeByte value b0, b1) := by
    match value with
    | 0 | 1 | 2 | 3 | 4 => rfl
  obtain ⟨kept, carry, mode⟩ := modeByte_fields value b0
  rw [Command.Kept, written]
  simp only [Command.wanted, objs_fields, Command.bits, switchOf_eq, carry, mode]
  refine ⟨?_, ?_⟩
  · have mask : ~~~(0x3E00 : UInt16) = register 0xC1 0xFF := by decide
    rw [mask]
    exact register_masked kept rfl
  · simp [Command.point, Command.value]

/-- The low byte of a speed command. Of the speed auto nothing is left. -/
def speedByte (value : Fin 4) (b1 : UInt8) : UInt8 :=
  (b1 &&& 0x1F) + if value = 1 then 32 else if value = 3 then 128 else if value = 2 then 64 else 0

/-- The bits that a speed leaves are those of a number below 32. -/
theorem low_bits (b1 : UInt8) : ∃ k : Fin 32, b1 &&& 0x1F = UInt8.ofNat k := by
  have bound : (b1 &&& 0x1F).toNat < 32 := by
    rw [UInt8.toNat_and]
    exact Nat.lt_succ_of_le Nat.and_le_right
  exact ⟨⟨_, bound⟩, UInt8.ofNat_toNat.symm⟩

theorem speedByte_fields (value : Fin 4) (b1 : UInt8) :
    speedByte value b1 &&& 0x1F = b1 &&& 0x1F ∧ tempOf (speedByte value b1) = tempOf b1 ∧
      (speedOf 0 (speedByte value b1 >>> 5) = UInt32.ofNat value ↔ value ≠ 3) := by
  have temp : tempOf b1 = tempOf (b1 &&& 0x1F) := by
    rw [tempOf, tempOf, UInt8.and_assoc]
    rfl
  obtain ⟨k, low⟩ := low_bits b1
  rw [speedByte, temp, low]
  clear temp low
  revert value k
  decide +kernel

theorem cleared_carry (b0 : UInt8) :
    (b0 &&& 0xFE) &&& 0xFE = b0 &&& 0xFE ∧ (b0 &&& 0xFE) &&& 1 = 0 ∧
      modeOf (b0 &&& 0xFE) = modeOf b0 :=
  (byte_masks b0).2.2.1

theorem kept_speed_iff (value : Fin 4) (b0 b1 : UInt8) :
    (Command.speed value).Kept b0 b1 ↔ value ≠ 3 := by
  have written : command (Command.speed value).dp b0 b1 = (b0 &&& 0xFE, speedByte value b1) := by
    match value with
    | 0 | 1 | 2 | 3 => rfl
  obtain ⟨low, temp, speed⟩ := speedByte_fields value b1
  obtain ⟨high, carry, mode⟩ := cleared_carry b0
  rw [Command.Kept, written, ← speed]
  simp only [Command.wanted, objs_fields, Command.bits, switchOf_eq, carry, mode, temp]
  have bits : register (b0 &&& 0xFE) (speedByte value b1) &&& ~~~0x01E0 =
      register b0 b1 &&& ~~~0x01E0 := by
    have mask : ~~~(0x01E0 : UInt16) = register 0xFE 0x1F := by decide
    rw [mask]
    exact register_masked high low
  simp [bits, Command.point, Command.value]

theorem kept_iff (cmd : Command) (b0 b1 : UInt8) : cmd.Kept b0 b1 ↔ cmd.Fits := by
  cases cmd with
  | switch on => exact kept_switch_iff on b0 b1
  | temp above => exact kept_temp_iff above b0 b1
  | mode value => exact iff_of_true (kept_mode value b0 b1) trivial
  | speed value => exact kept_speed_iff value b0 b1

def sent (cache : Cache) (addr : Addr) (obj : DpObj) : Result (Reply × Cache) :=
  (build addr.devId addr.regAddr addr.regAddr (some obj)).map (Act.run cache)

def received (cache : Cache) (addr : Addr) (buf : List UInt8) : Result (Reply × Cache) :=
  (parse addr.devId addr.regAddr buf).map (Act.run cache)

/-- A command for one register; the unit sends it back. -/
def ctrlFrame (addr : Addr) (b0 b1 : UInt8) : List UInt8 :=
  withCrc ([addr.devId, writeCode] ++ htons (regBase + 2 * addr.regAddr) ++ [b0, b1])

/-- The registers that follow the one of the unit in an answer to a read. -/
structure Further where
  registers : List UInt16
  fits : registers.length ≤ 126

def statusReply (addr : Addr) (b0 b1 : UInt8) (further : Further) : List UInt8 :=
  withCrc ([addr.devId, readCode, UInt8.ofNat (2 + 2 * further.registers.length), b0, b1] ++
    further.registers.flatMap htons)

/-- The command changes its own field of the register last read, and the echo and every later
status reply with that register report so. -/
def Honoured (cache : Cache) (addr : Addr) (cmd : Command) (further : Further) : Prop :=
  let b0 := cache (high addr.regAddr.toNat)
  let b1 := cache (low addr.regAddr.toNat)
  ∃ c0 c1, sent cache addr cmd.dp = .ok (.frame (some (ctrlFrame addr c0 c1)), cache) ∧
    register c0 c1 &&& ~~~cmd.bits = register b0 b1 &&& ~~~cmd.bits ∧
    ∀ answer ∈ [ctrlFrame addr c0 c1, statusReply addr c0 c1 further], ∀ later : Cache,
      (received later addr answer).map (·.1) = .ok (.objs (some (cmd.wanted b0 b1)))

variable {addr : Addr}

theorem sent_eq (inside : addr.regAddr.toNat < 64) (cache : Cache) (obj : DpObj) :
    let written := command obj (cache (high addr.regAddr.toNat)) (cache (low addr.regAddr.toNat))
    sent cache addr obj = .ok (.frame (some (ctrlFrame addr written.1 written.2)), cache) := by
  simp only [sent, build, row, if_pos inside]
  rfl

theorem received_echo (cache : Cache) (addr : Addr) (c0 c1 : UInt8) :
    received cache addr (ctrlFrame addr c0 c1) = .ok (.objs (some (objs c0 c1)), cache) := by
  have length : frameLen (ctrlFrame addr c0 c1) = 8 := rfl
  have found : findFrame addr.devId readCode writeCode 8 8 (ctrlFrame addr c0 c1) = some 0 :=
    findFrame_echo length (by decide) rfl rfl (by decide)
  simp only [received, parse, length, found]
  rfl

theorem frameLen_statusReply (addr : Addr) (c0 c1 : UInt8) (further : Further) :
    frameLen (statusReply addr c0 c1 further) = 7 + 2 * further.registers.length := by
  have := further.fits
  have registers : (further.registers.flatMap htons).length = 2 * further.registers.length := by
    simp [List.length_flatMap, htons, Nat.mul_comm]
  simp only [frameLen, statusReply, withCrc, crc16, List.length_append, registers, List.length_cons,
    List.length_nil]
  omega

/-- One register alone makes a reply that is too short. -/
theorem received_reply (inside : addr.regAddr.toNat < 64) (cache : Cache) (c0 c1 : UInt8)
    (further : Further) :
    (received cache addr (statusReply addr c0 c1 further)).map (·.1) =
      .ok (.objs (if further.registers = [] then none else some (objs c0 c1))) := by
  have length := frameLen_statusReply addr c0 c1 further
  by_cases alone : further.registers = []
  · have short : frameLen (statusReply addr c0 c1 further) < 8 := by
      rw [length, alone]
      decide
    simp only [received, parse, if_pos short, if_pos alone]
    rfl
  · have more : 0 < further.registers.length := List.length_pos_iff.mpr alone
    have found : findFrame addr.devId readCode writeCode 8 8 (statusReply addr c0 c1 further) =
        some 0 :=
      findFrame_start (by omega) (by omega) rfl rfl
    simp only [received, parse, if_neg
      (show ¬frameLen (statusReply addr c0 c1 further) < 8 by omega), found, row, if_pos inside,
        if_neg alone]
    rfl

theorem ctrlFrame_inj (same : ctrlFrame addr c0 c1 = ctrlFrame addr d0 d1) : c0 = d0 ∧ c1 = d1 := by
  have first : some c0 = some d0 := congrArg (fun frame : List UInt8 => frame[4]?) same
  have second : some c1 = some d1 := congrArg (fun frame : List UInt8 => frame[5]?) same
  exact ⟨Option.some.inj first, Option.some.inj second⟩

theorem honoured_iff_kept (inside : addr.regAddr.toNat < 64) (cache : Cache) (cmd : Command)
    (further : Further) :
    Honoured cache addr cmd further ↔
      cmd.Kept (cache (high addr.regAddr.toNat)) (cache (low addr.regAddr.toNat)) ∧
        further.registers ≠ [] := by
  have built := sent_eq inside cache cmd.dp
  constructor
  · rintro ⟨c0, c1, frame, bits, answers⟩
    have same := Except.ok.inj (frame.symm.trans built)
    simp only [Prod.mk.injEq, Reply.frame.injEq, Option.some.injEq, and_true] at same
    obtain ⟨rfl, rfl⟩ := ctrlFrame_inj same
    have echo := answers _ List.mem_cons_self cache
    have reply := answers _ (List.mem_cons_of_mem _ List.mem_cons_self) cache
    rw [received_echo] at echo
    rw [received_reply inside] at reply
    refine ⟨⟨bits, by simpa [Except.map] using echo⟩, ?_⟩
    intro alone
    rw [if_pos alone] at reply
    cases reply
  · rintro ⟨⟨bits, back⟩, more⟩
    refine ⟨_, _, built, bits, ?_⟩
    intro answer known later
    obtain rfl | reply := List.mem_cons.mp known
    · rw [received_echo, back]
      rfl
    · rw [List.mem_singleton.mp reply, received_reply inside, if_neg more, back]

/-- A command is honoured exactly when its value fits its field and replies carry at least one
more register. -/
theorem honoured_iff (cache : Cache) (addr : Addr) (inside : addr.regAddr.toNat < 64)
    (cmd : Command) (further : Further) :
    Honoured cache addr cmd further ↔ cmd.Fits ∧ further.registers ≠ [] := by
  rw [honoured_iff_kept inside, kept_iff]

theorem honoured_mode_auto :
    Honoured (fun _ => 0) ⟨1, 5⟩ (.mode 0) ⟨[0x31A9], by decide⟩ :=
  (honoured_iff (fun _ => 0) ⟨1, 5⟩ (by decide) (.mode 0) ⟨[0x31A9], by decide⟩).mpr
    ⟨trivial, by decide⟩

/-- Switching on is read back as off. -/
theorem switch_on_not_honoured :
    ¬Honoured (fun _ => 0) ⟨1, 5⟩ (.switch true) ⟨[0x31A9], by decide⟩ := by
  rw [honoured_iff_kept (by decide), kept_switch_iff]
  simp

end HiMaxGateway.Plugin.Tg
