import HiMaxGateway.Lib.Run
import HiMaxGateway.Plugin.AcdDaikin
import HiMaxGateway.Plugin.Locate

/-! The commands of `Mbus_Acd_Daikin_DTA116A621.c` against every cache a run of calls leaves:
what the echo of a command reports, and what a switch command says of speed and direction. -/
namespace HiMaxGateway.Plugin.Daikin
open CRun Function

/-- A call of `build` or `parse` for some device that acts on the cache. -/
def Step (cache : Cache) (act : Act) (cache' : Cache) : Prop :=
  (∃ call, machine.decode call = .ok act) ∧ cache' = (act.run cache).2

/-- The two halves of the byte that carries speed and direction. -/
def speedBits (byte : UInt8) : UInt8 := (byte >>> 4) &&& 0x7

def dirBits (byte : UInt8) : UInt8 := byte &&& 0xF

/-- Speed and direction of an air conditioner, as its last answer has them: a status reply or the
acknowledgement of a switch or speed command. -/
def seenBy (air : Nat) (seen : UInt8 × UInt8) : Act → UInt8 × UInt8
  | .readAck row status => if row = air then (speedBits status.p3, dirBits status.p3) else seen
  | .switchAck row p4 _ => if row = air then (speedBits p4, dirBits p4) else seen
  | _ => seen

def lastSeen (air : Nat) (acts : List Act) : UInt8 × UInt8 := acts.foldl (seenBy air) (0, 0)

/-- The direction of its last status reply. -/
def readBy (air : Nat) (dir : UInt8) : Act → UInt8
  | .readAck row status => if row = air then dirBits status.p3 else dir
  | _ => dir

def lastRead (air : Nat) (acts : List Act) : UInt8 := acts.foldl (readBy air) 0

/-- What the cache keeps of these answers. -/
structure Kept (air : Nat) (seen : UInt8 × UInt8) (told : UInt8) (cache : Cache) : Prop where
  speed : cache (air, .speed) = seen.1.toUInt32
  dir : cache (air, .dir) = told.toUInt32
  speedMask : seen.1 &&& 0xF = seen.1
  dirMask : told &&& 0xF = told

theorem masked_bits (byte : UInt8) :
    speedBits byte &&& 0xF = speedBits byte ∧ dirBits byte &&& 0xF = dirBits byte := by
  revert byte
  apply forall_byte
  decide +kernel

theorem Kept.frame (kept : Kept air seen told cache)
    (speed : cache' (air, .speed) = cache (air, .speed))
    (dir : cache' (air, .dir) = cache (air, .dir)) : Kept air seen told cache' :=
  ⟨speed.trans kept.speed, dir.trans kept.dir, kept.speedMask, kept.dirMask⟩

theorem kept_step (kept : Kept air seen told cache) (act : Act) :
    Kept air (seenBy air seen act) (readBy air told act) (act.run cache).2 := by
  cases act with
  | readAck row status =>
    by_cases here : row = air
    · subst here
      obtain ⟨high, low⟩ := masked_bits status.p3
      simp only [seenBy, readBy, if_true]
      exact ⟨by simp [Act.run, Status.stored, speedBits], by simp [Act.run, Status.stored, dirBits],
        high, low⟩
    · have elsewhere : air ≠ row := fun same => here same.symm
      simp only [seenBy, readBy, if_neg here]
      exact kept.frame (by simp [Act.run, elsewhere]) (by simp [Act.run, elsewhere])
  | switchAck row p4 p5 =>
    by_cases here : row = air
    · subst here
      simp only [seenBy, readBy, if_true]
      exact ⟨by simp [Act.run, speedBits], by simpa [Act.run, update_apply] using kept.dir,
        (masked_bits p4).1, kept.dirMask⟩
    · have elsewhere : air ≠ row := fun same => here same.symm
      simp only [seenBy, readBy, if_neg here]
      exact kept.frame (by simp [Act.run, elsewhere]) (by simp [Act.run])
  | setMode devId regAddr row mode =>
    -- A mode command leaves the cache alone, whether it gives a frame or not.
    exact kept.frame (machine.frame cache _ _ List.not_mem_nil)
      (machine.frame cache _ _ List.not_mem_nil)
  | reply out | setSwitch devId regAddr group state => exact kept.frame rfl rfl
  | setSpeed devId regAddr group value | modeAck row p4 p5 | tempAck row p4 p5 =>
    exact kept.frame (by simp [Act.run]) (by simp [Act.run])

theorem kept_run (air : Nat) (reached : Run.Reaches Step (fun _ => 0) acts cache) :
    Kept air (lastSeen air acts) (lastRead air acts) cache := by
  refine Run.trace_invariant (fun acts => Kept air (lastSeen air acts) (lastRead air acts))
    ⟨rfl, rfl, by simp [lastSeen], by simp [lastRead]⟩ ?_ reached
  rintro acts cache act cache' kept ⟨-, rfl⟩
  simp only [lastSeen, lastRead, List.foldl_append]
  exact kept_step kept act

inductive Command where
  | switch (state : Bool)
  | temp (value : Fin 6554)
  | mode (value : Fin 5)
  | speed (value : Fin 8)
  deriving DecidableEq, Repr

def Command.value : Command → UInt32
  | .switch state => if state then 1 else 0
  | .temp value => UInt32.ofNat value
  | .mode value => UInt32.ofNat value
  | .speed value => UInt32.ofNat value

def Command.dp (cmd : Command) : DpObj :=
  match cmd with
  | .switch _ => ⟨1, cmd.value⟩
  | .temp _ => ⟨2, cmd.value⟩
  | .mode _ => ⟨4, cmd.value⟩
  | .speed _ => ⟨5, cmd.value⟩

/-- The commanded point with the commanded value. -/
def Command.obj (cmd : Command) : ParsedObj :=
  match cmd with
  | .switch _ => ⟨.acdSwitch, cmd.value, 0⟩
  | .temp _ => ⟨.acdTemp, cmd.value, 0⟩
  | .mode _ => ⟨.acdMode, cmd.value, 0⟩
  | .speed _ => ⟨.acdSpeed, cmd.value, 0⟩

/-- The outdoor unit's mode for cold and hot. -/
def outdoorMode : Fin 5 → Option UInt32
  | 1 => some 2
  | 2 => some 1
  | _ => none

/-- Cold or hot without the authority to choose, while the outdoor unit is in another mode. -/
def Command.Refused (cmd : Command) (cache : Cache) (air : Nat) : Prop :=
  ∃ value mode, cmd = .mode value ∧ outdoorMode value = some mode ∧
    cache (air, .authority) ≠ 2 ∧ cache (air, .modeOutdoor) ≠ mode

def sent (cache : Cache) (addr : Addr) (obj : DpObj) : Result (Reply × Cache) :=
  (build addr.devId addr.regAddr addr.regAddr (some obj)).map (Act.run cache)

def received (cache : Cache) (addr : Addr) (buf : List UInt8) : Result (Reply × Cache) :=
  (parse addr.devId addr.regAddr buf).map (Act.run cache)

/-- A frame, and what its echo does: the commanded value is reported, and no other row is touched
by the two calls. -/
def Echoed (cache cache' : Cache) (addr : Addr) (cmd : Command) (frame : List UInt8) : Prop :=
  frame.length = 8 ∧ ∃ objs cache'',
    received cache' addr frame = .ok (.objs (some objs), cache'') ∧ cmd.obj ∈ objs ∧
      ∀ cell, cell.1 ≠ addr.regAddr.toNat → cache'' cell = cache cell

/-- What a command has to do, with the speed and the direction last seen. -/
def Commanded (cache : Cache) (seen : UInt8 × UInt8) (addr : Addr) (cmd : Command) : Prop :=
  ∃ frame cache', sent cache addr cmd.dp = .ok (.frame frame, cache') ∧
    (frame = none ↔ cmd.Refused cache addr.regAddr.toNat) ∧
    ∀ bytes ∈ frame, Echoed cache cache' addr cmd bytes ∧
      ∀ state, cmd = .switch state → bytes[4]? = some ((seen.1 <<< 4) + seen.2)

/-- The bytes of a write of one of the three registers of an air conditioner. -/
def ctrlBytes (addr : Addr) (reg : UInt16) (p4 p5 : UInt8) : List UInt8 :=
  withCrc ([addr.devId, writeCode] ++ htons (regBase + 3 * addr.regAddr + reg) ++ [p4, p5])

variable {addr : Addr}

/-- What the echo of a write is taken as. -/
def ack (reg : UInt16) (air : Nat) (p4 p5 : UInt8) : Act :=
  if reg = 0 then .switchAck air p4 p5 else if reg = 1 then .modeAck air p4 p5
  else .tempAck air p4 p5

/-- The stride of the registers leads back to the air conditioner and to its register. -/
theorem register_back (inside : addr.regAddr.toNat < 16) {reg : UInt16} (small : reg.toNat < 3) :
    ((regBase + 3 * addr.regAddr + reg - regBase) / 3).toNat = addr.regAddr.toNat ∧
      (regBase + 3 * addr.regAddr + reg - regBase) % 3 = reg := by
  have offset : (regBase + 3 * addr.regAddr + reg - regBase).toNat =
      3 * addr.regAddr.toNat + reg.toNat := by
    simp [regBase, UInt16.toNat_sub]
    omega
  constructor
  · rw [UInt16.toNat_div, offset]
    simp
    omega
  · apply UInt16.toNat_inj.mp
    rw [UInt16.toNat_mod, offset]
    simp
    omega

/-- The echo of a frame is found at its start and taken as an acknowledgement. -/
theorem parse_ctrlBytes (inside : addr.regAddr.toNat < 16) {reg : UInt16} (small : reg.toNat < 3)
    (p4 p5 : UInt8) :
    parse addr.devId addr.regAddr (ctrlBytes addr reg p4 p5) =
      .ok (ack reg addr.regAddr.toNat p4 p5) := by
  obtain ⟨air, which⟩ := register_back inside small
  have length : frameLen (ctrlBytes addr reg p4 p5) = 8 := rfl
  have found : findFrame addr.devId readCode writeCode 8 8 (ctrlBytes addr reg p4 p5) = some 0 :=
    findFrame_echo length (by decide) rfl rfl (by decide)
  have code : byteAt (ctrlBytes addr reg p4 p5) 0 1 = .ok writeCode := rfl
  have high : byteAt (ctrlBytes addr reg p4 p5) 0 2 =
      .ok ((regBase + 3 * addr.regAddr + reg) >>> 8).toUInt8 := rfl
  have low : byteAt (ctrlBytes addr reg p4 p5) 0 3 =
      .ok (regBase + 3 * addr.regAddr + reg).toUInt8 := rfl
  have fourth : byteAt (ctrlBytes addr reg p4 p5) 0 4 = .ok p4 := rfl
  have fifth : byteAt (ctrlBytes addr reg p4 p5) 0 5 = .ok p5 := rfl
  have row : row ((regBase + 3 * addr.regAddr + reg - regBase) / 3) = .ok addr.regAddr.toNat := by
    rw [row, air, if_pos inside]
  rw [parse, length, found]
  simp only [code, high, low, fourth, fifth, bind, Except.bind, ntohs_htons, row, which]
  rw [if_neg (by decide), if_neg (by decide), if_pos trivial]
  unfold ack
  split_ifs <;> rfl

/-- The three kinds of acknowledgement store into their own row. -/
theorem ack_row (reg : UInt16) (cell : Cell) (elsewhere : cell.1 ≠ air) :
    ((ack reg air p4 p5).run cache).2 cell = cache cell := by
  obtain ⟨row, idx⟩ := cell
  have other (idx' : Idx) : (row, idx) ≠ (air, idx') := fun same => elsewhere (Prod.mk.inj same).1
  unfold ack
  split_ifs <;> simp [Act.run, update_of_ne (other _)]

/-- The echo of a frame, given the objects of its acknowledgement. -/
theorem echoed_ctrlBytes (inside : addr.regAddr.toNat < 16) {reg : UInt16} (small : reg.toNat < 3)
    (reports : ∃ objs, ((ack reg addr.regAddr.toNat p4 p5).run cache').1 = .objs (some objs) ∧
      cmd.obj ∈ objs)
    (row : ∀ cell : Cell, cell.1 ≠ addr.regAddr.toNat → cache' cell = cache cell) :
    Echoed cache cache' addr cmd (ctrlBytes addr reg p4 p5) := by
  obtain ⟨objs, given, contains⟩ := reports
  refine ⟨rfl, objs, ((ack reg addr.regAddr.toNat p4 p5).run cache').2, ?_, contains, ?_⟩
  · rw [received, parse_ctrlBytes inside small, ← given]
    rfl
  · intro cell elsewhere
    rw [ack_row reg cell elsewhere, row cell elsewhere]

theorem commanded_iff_of_sent (given : sent cache addr cmd.dp = .ok (.frame frame, cache')) :
    Commanded cache seen addr cmd ↔
      (frame = none ↔ cmd.Refused cache addr.regAddr.toNat) ∧
        ∀ bytes ∈ frame, Echoed cache cache' addr cmd bytes ∧
          ∀ state, cmd = .switch state → bytes[4]? = some ((seen.1 <<< 4) + seen.2) := by
  constructor
  · rintro ⟨frame', cache'', same, rest⟩
    cases given.symm.trans same
    exact rest
  · exact fun rest => ⟨frame, cache', given, rest⟩

/-- The commands that always give a frame and say nothing of the direction. -/
theorem commanded_of_echoed (given : sent cache addr cmd.dp = .ok (.frame (some bytes), cache'))
    (noSwitch : ∀ state, cmd ≠ .switch state) (accepted : ¬cmd.Refused cache addr.regAddr.toNat)
    (echoed : Echoed cache cache' addr cmd bytes) : Commanded cache seen addr cmd := by
  rw [commanded_iff_of_sent given]
  refine ⟨by simp [accepted], ?_⟩
  rintro bytes' ⟨⟩
  exact ⟨echoed, fun state isSwitch => absurd isSwitch (noSwitch state)⟩

/-- The second data byte of a switch command. -/
def switchByte (state : Bool) : UInt8 := (if state then 1 else 0) + shifted 6 4

theorem sent_switch (inside : addr.regAddr.toNat < 16)
    (kept : Kept addr.regAddr.toNat seen told cache) (state : Bool) :
    sent cache addr (Command.switch state).dp =
      .ok (.frame (some (ctrlBytes addr 0 ((seen.1 <<< 4) + told) (switchByte state))), cache) := by
  have speed : (cache (addr.regAddr.toNat, .speed)).toUInt8 &&& 0x0F = seen.1 := by
    rw [kept.speed, UInt8.toUInt8_toUInt32, kept.speedMask]
  have dir : (cache (addr.regAddr.toNat, .dir)).toUInt8 &&& 0x0F = told := by
    rw [kept.dir, UInt8.toUInt8_toUInt32, kept.dirMask]
  simp only [sent, build, row, if_pos inside]
  rw [← speed, ← dir]
  cases state <;> rfl

theorem commanded_switch_iff (inside : addr.regAddr.toNat < 16)
    (kept : Kept addr.regAddr.toNat seen told cache) (state : Bool) :
    Commanded cache seen addr (.switch state) ↔ told = seen.2 := by
  have echoed : Echoed cache cache addr (.switch state)
      (ctrlBytes addr 0 ((seen.1 <<< 4) + told) (switchByte state)) := by
    refine echoed_ctrlBytes inside (by decide) ⟨_, rfl, ?_⟩ fun _ _ => rfl
    cases state
    · exact List.mem_cons_self
    · exact List.mem_cons_self
  have accepted : ¬(Command.switch state).Refused cache addr.regAddr.toNat := by
    rintro ⟨value, mode, isMode, -⟩
    cases isMode
  rw [commanded_iff_of_sent (sent_switch inside kept state)]
  constructor
  · rintro ⟨-, rest⟩
    have fourth : some ((seen.1 <<< 4) + told) = some ((seen.1 <<< 4) + seen.2) :=
      (rest _ rfl).2 state rfl
    exact (UInt8.add_right_inj _).mp (Option.some.inj fourth)
  · rintro rfl
    refine ⟨by simp [accepted], ?_⟩
    rintro bytes ⟨⟩
    exact ⟨echoed, fun _ _ => rfl⟩

theorem word_htons (value : UInt16) :
    word (value >>> 8).toUInt8 value.toUInt8 = value.toUInt32 := by
  have := value.toNat_lt
  apply UInt32.toNat_inj.mp
  simp [word, Nat.shiftLeft_eq, Nat.shiftRight_eq_div_pow]
  omega

/-- The value of a temperature survives the tenths it is sent in. -/
theorem tenths_back (value : Fin 6554) :
    (UInt32.ofNat value * 10).toUInt16.toUInt32 / 10 = UInt32.ofNat value := by
  have := value.isLt
  have tenths : value.val * 10 % 65536 = value.val * 10 := Nat.mod_eq_of_lt (by omega)
  have whole : value.val % 4294967296 = value.val := Nat.mod_eq_of_lt (by omega)
  apply UInt32.toNat_inj.mp
  simp [tenths, whole]

theorem commanded_temp (inside : addr.regAddr.toNat < 16) (cache : Cache) (seen : UInt8 × UInt8)
    (value : Fin 6554) : Commanded cache seen addr (.temp value) := by
  have given : sent cache addr (Command.temp value).dp =
      .ok (.frame (some (ctrlBytes addr 2 ((UInt32.ofNat value * 10).toUInt16 >>> 8).toUInt8
        (UInt32.ofNat value * 10).toUInt16.toUInt8)), cache) := rfl
  refine commanded_of_echoed given (fun state isSwitch => nomatch isSwitch) ?_ ?_
  · rintro ⟨value, mode, isMode, -⟩
    cases isMode
  · refine echoed_ctrlBytes inside (by decide) ⟨_, rfl, ?_⟩ fun _ _ => rfl
    simp only [Command.obj, Command.value, word_htons, tenths_back, List.mem_singleton]

theorem speed_back (value : Fin 8) (dir : UInt8) (small : dir &&& 0xF = dir) :
    ((((UInt32.ofNat value <<< 4).toUInt8 + dir) >>> 4) &&& 0x7).toUInt32 = UInt32.ofNat value := by
  have masked : ∀ byte : UInt8, ((((UInt32.ofNat value <<< 4).toUInt8 + (byte &&& 0xF)) >>> 4) &&&
      0x7).toUInt32 = UInt32.ofNat value := by
    apply forall_byte
    revert value
    decide +kernel
  rw [← small]
  exact masked dir

theorem commanded_speed (inside : addr.regAddr.toNat < 16)
    (kept : Kept addr.regAddr.toNat seen told cache) (value : Fin 8) :
    Commanded cache seen addr (.speed value) := by
  have given : sent cache addr (Command.speed value).dp =
      .ok (.frame
        (some (ctrlBytes addr 0 ((UInt32.ofNat value <<< 4).toUInt8 + told) (1 + shifted 6 4))),
            update cache (addr.regAddr.toNat, .switch) 1) := by
    have dir : (cache (addr.regAddr.toNat, .dir)).toUInt8 = told := by
      rw [kept.dir, UInt8.toUInt8_toUInt32]
    simp only [sent, build, row, if_pos inside]
    rw [← dir]
    rfl
  refine commanded_of_echoed given (fun state isSwitch => nomatch isSwitch) ?_ ?_
  · rintro ⟨value, mode, isMode, -⟩
    cases isMode
  · refine echoed_ctrlBytes inside (by decide) ⟨_, rfl, ?_⟩ ?_
    · simp only [Command.obj, Command.value, speed_back value told kept.dirMask, List.mem_cons,
        List.not_mem_nil, or_false, or_true]
    · intro cell elsewhere
      exact update_of_ne (fun same => elsewhere (congrArg Prod.fst same)) _ _

theorem modeData_eq (value : Fin 5) (outdoor authority : UInt32) :
    modeData (UInt32.ofNat value) outdoor authority =
      match value with
      | 0 => some [outdoor.toUInt8, 3]
      | 1 => if authority ≠ 2 ∧ outdoor ≠ 2 then none else some [2, 2]
      | 2 => if authority ≠ 2 ∧ outdoor ≠ 1 then none else some [1, 1]
      | 3 => some [outdoor.toUInt8, 7]
      | 4 => some [0, 0] := by
  match value with
  | 0 | 1 | 2 | 3 | 4 => rfl

/-- The data of a mode command reads back as the mode. -/
theorem modeData_back (value : Fin 5)
    (given : modeData (UInt32.ofNat value) outdoor authority = some data) :
    ∃ p4 p5, data = [p4, p5] ∧ modeValue (p5 &&& 0xF).toUInt32 = UInt32.ofNat value := by
  rw [modeData_eq] at given
  match value with
  | 0 | 3 | 4 =>
    obtain rfl := Option.some.inj given
    exact ⟨_, _, rfl, by decide⟩
  | 1 | 2 =>
    simp only [Option.ite_none_left_eq_some, Option.some.injEq] at given
    obtain rfl := given.2
    exact ⟨_, _, rfl, by decide⟩

theorem modeData_eq_none_iff (value : Fin 5) (outdoor authority : UInt32) :
    modeData (UInt32.ofNat value) outdoor authority = none ↔
      ∃ mode, outdoorMode value = some mode ∧ authority ≠ 2 ∧ outdoor ≠ mode := by
  rw [modeData_eq]
  match value with
  | 0 | 3 | 4 => simp [outdoorMode]
  | 1 | 2 => simp [outdoorMode]

theorem commanded_mode (inside : addr.regAddr.toNat < 16) (cache : Cache) (seen : UInt8 × UInt8)
    (value : Fin 5) : Commanded cache seen addr (.mode value) := by
  have refused : (Command.mode value).Refused cache addr.regAddr.toNat ↔
      modeData (UInt32.ofNat value) (cache (addr.regAddr.toNat, .modeOutdoor))
        (cache (addr.regAddr.toNat, .authority)) = none := by
    rw [modeData_eq_none_iff]
    constructor
    · rintro ⟨value, mode, ⟨⟩, rest⟩
      exact ⟨mode, rest⟩
    · rintro ⟨mode, rest⟩
      exact ⟨value, mode, rfl, rest⟩
  have given : sent cache addr (Command.mode value).dp =
      .ok ((Act.setMode addr.devId addr.regAddr addr.regAddr.toNat (UInt32.ofNat value)).run
          cache) := by
    simp only [sent, build, row, if_pos inside]
    rfl
  cases frame : modeData (UInt32.ofNat value) (cache (addr.regAddr.toNat, .modeOutdoor))
      (cache (addr.regAddr.toNat, .authority)) with
  | none =>
    simp only [Act.run, frame] at given
    rw [commanded_iff_of_sent given]
    exact ⟨by simp [refused, frame], fun bytes none => nomatch none⟩
  | some data =>
    simp only [Act.run, frame] at given
    obtain ⟨p4, p5, rfl, back⟩ := modeData_back value frame
    refine commanded_of_echoed given (fun state isSwitch => nomatch isSwitch) ?_ ?_
    · rw [refused, frame]
      exact Option.some_ne_none _
    · refine echoed_ctrlBytes inside (by decide) ⟨_, rfl, ?_⟩ fun _ _ => rfl
      simp only [Command.obj, Command.value, back, List.mem_singleton]

/-- In every cache a run of calls leaves each command does what it says, but for the direction of a
switch command: it is the one of the last status reply, not of the last answer. -/
theorem commanded_iff (reached : Run.Reaches Step (fun _ => 0) acts cache) (addr : Addr)
    (inside : addr.regAddr.toNat < 16) (cmd : Command) :
    Commanded cache (lastSeen addr.regAddr.toNat acts) addr cmd ↔
      ((∃ state, cmd = .switch state) →
        lastRead addr.regAddr.toNat acts = (lastSeen addr.regAddr.toNat acts).2) := by
  have kept := kept_run addr.regAddr.toNat reached
  cases cmd with
  | switch state => simp [commanded_switch_iff inside kept state]
  | temp value => simp [commanded_temp inside]
  | mode value => simp [commanded_mode inside]
  | speed value => simp [commanded_speed inside kept]

/-- One answer to the device with bus address 1 and register address 0. -/
theorem reaches_answer (parsed : parse 1 0 buf = .ok act) :
    Run.Reaches Step (fun _ => 0) [act] (act.run fun _ => 0).2 :=
  .step .start ⟨⟨(⟨1, 0⟩, .parse true buf), parsed⟩, rfl⟩

/-- Speed 3 and direction 1 in a status reply. -/
def statusAnswer : Act := .readAck 0 ⟨0x31, 0xA9, 0x42, 0x02, 0x00, 0xAA, 0x00, 0x01, 0x0E⟩

theorem commanded_after_status :
    Commanded (statusAnswer.run fun _ => 0).2 (3, 1) ⟨1, 0⟩ (.switch true) := by
  have parsed : parse 1 0 (withCrc [0x01, 0x04, 0x0A, 0x31, 0xA9, 0x42, 0x02, 0x00, 0xAA, 0x00,
      0x00, 0x01, 0x0E]) = .ok statusAnswer := by
    decide
  exact (commanded_iff (reaches_answer parsed) ⟨1, 0⟩ (by decide) (.switch true)).mpr (by decide)

/-- The device acknowledges speed 2 and direction 3, and is then switched on with direction 0. -/
theorem not_commanded_after_ack :
    ∃ acts cache, Run.Reaches Step (fun _ => 0) acts cache ∧
      ¬Commanded cache (lastSeen 0 acts) ⟨1, 0⟩ (.switch true) := by
  have parsed : parse 1 0 (withCrc [0x01, 0x06, 0x07, 0xD0, 0x23, 0x61]) =
      .ok (.switchAck 0 0x23 0x61) := by
    decide
  have inside : (⟨1, 0⟩ : Addr).regAddr.toNat < 16 := by decide
  refine ⟨_, _, reaches_answer parsed, ?_⟩
  rw [commanded_switch_iff inside (kept_run 0 (reaches_answer parsed))]
  decide

end HiMaxGateway.Plugin.Daikin
