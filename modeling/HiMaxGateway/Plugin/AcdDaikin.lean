import HiMaxGateway.Lib.Sharing
import HiMaxGateway.Plugin.Frame

/-! `Mbus_Acd_Daikin_DTA116A621.c`. The points of an air conditioner are cached in
the row of its register address, whatever its bus address is. -/
namespace HiMaxGateway.Plugin.Daikin
open CRun Function

def readCode : UInt8 := 0x4

def writeCode : UInt8 := 0x6

def regBase : UInt16 := 0x07D0

/-- The columns of `MbusObj`. -/
inductive Idx where
  | switch
  | temp
  | mode
  | speed
  | envTemp
  | errorCode
  | dir
  | modeOutdoor
  | authority
  deriving DecidableEq, Repr

abbrev Cell := Nat × Idx

/-- `rcvValue` of each entry of `MbusObj[16][MAX_IDX]`. -/
abbrev Cache := Cell → UInt32

/-- The index of a row, when the array has it. -/
def row (index : UInt16) : Result Nat :=
  if index.toNat < 16 then .ok index.toNat else .error .outOfBounds

/-- The bytes of an answer to a read, from `pos[3]` on. -/
structure Status where
  (p3 p4 p5 p6 p7 p8 p10 p11 p12 : UInt8)
  deriving DecidableEq, Repr

inductive Act where
  | reply (out : Reply)
  | setSwitch (devId : UInt8) (regAddr : UInt16) (group : Nat) (state : Bool)
  | setMode (devId : UInt8) (regAddr : UInt16) (air : Nat) (mode : UInt32)
  | setSpeed (devId : UInt8) (regAddr : UInt16) (group : Nat) (speed : UInt32)
  | readAck (air : Nat) (status : Status)
  | switchAck (air : Nat) (p4 p5 : UInt8)
  | modeAck (air : Nat) (p4 p5 : UInt8)
  | tempAck (air : Nat) (p4 p5 : UInt8)
  deriving DecidableEq, Repr

/-- A write of one control register of the air conditioner. -/
def ctrlFrame (devId : UInt8) (regAddr reg : UInt16) (data : List UInt8) : Reply :=
  .frame (some (withCrc ([devId, writeCode] ++ htons (regBase + 3 * regAddr + reg) ++ data)))

def build (devId : UInt8) (regAddr groupAddr : UInt16) (pObj : Option DpObj) : Result Act :=
  match pObj with
  | none =>
      pure (.reply (.frame (some (withCrc ([devId, readCode] ++ htons (regBase + 6 * regAddr) ++
        [0x0, 0x5])))))
  | some obj =>
      if obj.dpid = 1 then do pure (.setSwitch devId regAddr (← row groupAddr) obj.dpBool)
      else if obj.dpid = 2 then
        pure (.reply (ctrlFrame devId regAddr 2 (htons (obj.dpValue * 10).toUInt16)))
      else if obj.dpid = 4 then do pure (.setMode devId regAddr (← row regAddr) obj.dpEnum)
      else if obj.dpid = 5 then do pure (.setSpeed devId regAddr (← row groupAddr) obj.dpEnum)
      else pure (.reply (.frame (some (withCrc [devId, writeCode, 0, 0, 0, 0]))))

def parse (devId : UInt8) (regAddr : UInt16) (buf : List UInt8) : Result Act :=
  if frameLen buf < 8 then pure (.reply (.objs none))
  else
    match findFrame devId readCode writeCode 8 8 buf with
    | none => pure (.reply (.objs none))
    | some pos => do
        let code ← byteAt buf pos 1
        if code = readCode then
          let air ← row regAddr
          -- Eight bytes were asked for, thirteen are read.
          pure (.readAck air ⟨← byteAt buf pos 3, ← byteAt buf pos 4, ← byteAt buf pos 5,
            ← byteAt buf pos 6, ← byteAt buf pos 7, ← byteAt buf pos 8, ← byteAt buf pos 10,
            ← byteAt buf pos 11, ← byteAt buf pos 12⟩)
        else if code = writeCode then
          let high ← byteAt buf pos 2
          let low ← byteAt buf pos 3
          let reg := (high.toUInt16 <<< 8) + low.toUInt16 - regBase
          let air ← row (reg / 3)
          let p4 ← byteAt buf pos 4
          let p5 ← byteAt buf pos 5
          if reg % 3 = 0 then pure (.switchAck air p4 p5)
          else if reg % 3 = 1 then pure (.modeAck air p4 p5)
          else pure (.tempAck air p4 p5)
        else pure (.reply (.objs none))

/-- The frame of a mode command: wind 0, hot 1, cold 2, wet 7, auto 3 for the device. Cold and
hot need the authority to choose, or the outdoor unit in that mode already. -/
def modeData (mode outdoor authority : UInt32) : Option (List UInt8) :=
  if mode = 1 then (if authority ≠ 2 ∧ outdoor ≠ 2 then none else some [2, 2])
  else if mode = 3 then some [outdoor.toUInt8, 7]
  else if mode = 4 then some [0, 0]
  else if mode = 2 then (if authority ≠ 2 ∧ outdoor ≠ 1 then none else some [1, 1])
  else if mode = 0 then some [outdoor.toUInt8, 3]
  else some [outdoor.toUInt8, 0]

/-- The mode reported for a mode of the device. -/
def modeValue (mode : UInt32) : UInt32 :=
  if mode = 0 then 4 else if mode = 1 then 2 else if mode = 2 then 1 else if mode = 7 then 3 else 0

def fault2 : Array Char := #['0', 'A', 'C', 'E', 'H', 'F', 'J', 'L', 'P', 'U', '9', '8', '7', '6',
  '5', '4', '3', '2', '1', 'G', 'K', 'M', 'N', 'R', 'T', 'V', 'W', 'X', 'Y', 'Z', '*', ' ']

def fault1 : Array Char := #['0', '1', '2', '3', '4', '5', '6', '7', '8', '9', 'A', 'B', 'C', 'D',
  'E', 'F']

def errorValue (code : UInt8) : UInt32 :=
  let f2 := (fault2.getD (code >>> 4).toNat ' ').val
  let f1 := (fault1.getD (code &&& 0x0F).toNat ' ').val
  (f2 <<< 8) + f1

/-- A 16-bit value of the device, high byte first. -/
def word (high low : UInt8) : UInt32 := (high.toUInt32 <<< 8) + low.toUInt32

/-- What an answer to a read stores into a row. -/
def Status.stored (status : Status) : Idx → UInt32
  | .switch => (status.p4 &&& 0x1).toUInt32
  | .dir => (status.p3 &&& 0xF).toUInt32
  | .speed => ((status.p3 >>> 4) &&& 0x7).toUInt32
  | .mode => (status.p6 &&& 0xF).toUInt32
  | .modeOutdoor => (status.p5 &&& 0x3).toUInt32
  | .authority => ((status.p5 >>> 6) &&& 0x3).toUInt32
  | .temp => word status.p7 status.p8
  | .envTemp => word status.p11 status.p12
  | .errorCode => status.p10.toUInt32

/-- The seventh object is left as it was allocated. -/
def Status.objs (status : Status) : List ParsedObj :=
  [⟨.acdSwitch, status.stored .switch, 0⟩, ⟨.acdTemp, status.stored .temp / 10, 0⟩,
    ⟨.acdMode, modeValue (status.stored .mode), 0⟩, ⟨.acdSpeed, status.stored .speed, 0⟩,
    ⟨.acdEnvTemp, status.stored .envTemp / 10, 0⟩, ⟨.acdErrorCode, errorValue status.p10, 0⟩, {}]

def Act.run (cache : Cache) : Act → Reply × Cache
  | .reply out => (out, cache)
  | .setSwitch devId regAddr group state =>
      let data := (((cache (group, .speed)).toUInt8 &&& 0x0F) <<< 4) +
        ((cache (group, .dir)).toUInt8 &&& 0x0F)
      (ctrlFrame devId regAddr 0 [data, (if state then 1 else 0) + shifted 6 4], cache)
  | .setMode devId regAddr air mode =>
      match modeData mode (cache (air, .modeOutdoor)) (cache (air, .authority)) with
      | none => (.frame none, cache)
      | some data => (ctrlFrame devId regAddr 1 data, cache)
  | .setSpeed devId regAddr group speed =>
      let data := (speed <<< 4).toUInt8 + (cache (group, .dir)).toUInt8
      (ctrlFrame devId regAddr 0 [data, 1 + shifted 6 4], update cache (group, .switch) 1)
  | .readAck air status =>
      (.objs (some status.objs), fun cell => if cell.1 = air then status.stored cell.2
        else cache cell)
  | .switchAck air p4 p5 =>
      let switch := (p5 &&& 0x1).toUInt32
      let speed := ((p4 >>> 4) &&& 0x7).toUInt32
      (.objs (some [⟨.acdSwitch, switch, 0⟩, ⟨.acdSpeed, speed, 0⟩]),
        update (update cache (air, .switch) switch) (air, .speed) speed)
  | .modeAck air p4 p5 =>
      let mode := (p5 &&& 0xF).toUInt32
      (.objs (some [⟨.acdMode, modeValue mode, 0⟩]),
        update (update cache (air, .mode) mode) (air, .modeOutdoor) (p4 &&& 0x3).toUInt32)
  | .tempAck air p4 p5 =>
      (.objs (some [⟨.acdTemp, word p4 p5 / 10, 0⟩]), update cache (air, .temp) (word p4 p5))

/-- The answer to a read has an object without a point, that to a write none. -/
theorem parse_points (devId : UInt8) (regAddr : UInt16) (buf : List UInt8) :
    Ends (fun act => ∀ cache objs, (act.run cache).1 = .objs (some objs) →
        let frame := frameAt buf (findFrame devId readCode writeCode 8 8 buf)
        frame[1]? = some readCode ∧ localPoints objs = [.acdSwitch, .acdTemp, .acdMode, .acdSpeed,
            .acdEnvTemp, .acdErrorCode, .unknown] ∨
          frame[1]? = some writeCode ∧
            localPoints objs ∈ [[.acdSwitch, .acdSpeed], [.acdMode], [.acdTemp]])
      (parse devId regAddr buf) := by
  unfold parse
  refine .ite (fun _ => .pure (by simp [Act.run])) fun _ => ?_
  cases findFrame devId readCode writeCode 8 8 buf with
  | none => exact .pure (by simp [Act.run])
  | some pos =>
    refine .bind fun code read => ?_
    have second := byteAt_frame read
    refine .ite (fun status => ?_) fun _ => .ite (fun echo => ?_) fun _ => ?_
    · refine .bind fun air _ => .bind fun p3 _ => .bind fun p4 _ => .bind fun p5 _ => ?_
      refine .bind fun p6 _ => .bind fun p7 _ => .bind fun p8 _ => .bind fun p10 _ => ?_
      refine .bind fun p11 _ => .bind fun p12 _ => .pure ?_
      rintro cache objs ⟨⟩
      exact .inl ⟨status ▸ second, rfl⟩
    · have written : (frameAt buf (some pos))[1]? = some writeCode := echo ▸ second
      refine .bind fun high _ => .bind fun low _ => .bind fun air _ => .bind fun p4 _ => ?_
      refine .bind fun p5 _ => .ite (fun _ => .pure ?_) fun _ => .ite (fun _ => .pure ?_) fun _ =>
        .pure ?_
      · rintro cache objs ⟨⟩
        exact .inr ⟨written, by simp [localPoints]⟩
      · rintro cache objs ⟨⟩
        exact .inr ⟨written, by simp [localPoints]⟩
      · rintro cache objs ⟨⟩
        exact .inr ⟨written, by simp [localPoints]⟩
    · exact .pure (by simp [Act.run])

def Act.reads : Act → List Cell
  | .setSwitch _ _ group _ => [(group, .speed), (group, .dir)]
  | .setMode _ _ air mode =>
      if mode = 1 ∨ mode = 2 then [(air, .modeOutdoor), (air, .authority)]
      else if mode = 4 then []
      else [(air, .modeOutdoor)]
  | .setSpeed _ _ group _ => [(group, .dir)]
  | .reply _ | .readAck .. | .switchAck .. | .modeAck .. | .tempAck .. => []

def Act.writes : Act → List Cell
  | .setSpeed _ _ group _ => [(group, .switch)]
  | .readAck air _ => [.switch, .temp, .mode, .speed, .envTemp, .errorCode, .dir, .modeOutdoor,
      .authority].map (air, ·)
  | .switchAck air _ _ => [(air, .switch), (air, .speed)]
  | .modeAck air _ _ => [(air, .mode), (air, .modeOutdoor)]
  | .tempAck air _ _ => [(air, .temp)]
  | .reply _ | .setSwitch .. | .setMode .. => []

theorem modeData_congr (outdoor : mode ≠ 4 → x = x')
    (authority : mode = 1 ∨ mode = 2 → y = y') : modeData mode x y = modeData mode x' y' := by
  unfold modeData
  by_cases cold : mode = 1
  · subst mode
    rw [outdoor (by decide), authority (by simp)]
  by_cases hot : mode = 2
  · subst mode
    rw [outdoor (by decide), authority (by simp)]
  by_cases wind : mode = 4
  · subst mode
    simp
  · simp [cold, hot, outdoor wind]

theorem readAck_writes (air : Nat) (status : Status) (cell : Cell) :
    cell ∈ (Act.readAck air status).writes ↔ cell.1 = air := by
  obtain ⟨row, idx⟩ := cell
  cases idx <;> simp [Act.writes, eq_comm]

def machine : Sharing.Machine (Addr × Request) Reply where
  Cell := Cell
  Value := UInt32
  Act := Act
  init _ := 0
  decode
    | (addr, .build groupAddr _ pObj) => build addr.devId addr.regAddr groupAddr pObj
    | (addr, .parse _ buf) => parse addr.devId addr.regAddr buf
  act := Act.run
  reads := Act.reads
  writes := Act.writes
  rests := by
    intro cache cache' act same
    cases act with
    | reply out => simp [Act.run, Act.writes]
    | setSwitch devId regAddr group state =>
      have speed := same (group, .speed) (by simp [Act.reads])
      have dir := same (group, .dir) (by simp [Act.reads])
      simp [Act.run, Act.writes, speed, dir]
    | setMode devId regAddr air mode =>
      have data : modeData mode (cache (air, .modeOutdoor)) (cache (air, .authority)) =
          modeData mode (cache' (air, .modeOutdoor)) (cache' (air, .authority)) := by
        apply modeData_congr
        · intro wind
          apply same
          by_cases choice : mode = 1 ∨ mode = 2 <;> simp [Act.reads, choice, wind]
        · intro choice
          apply same
          simp [Act.reads, choice]
      simp only [Act.run, Act.writes, data]
      cases modeData mode (cache' (air, .modeOutdoor)) (cache' (air, .authority)) <;> simp
    | setSpeed devId regAddr group speed =>
      have dir := same (group, .dir) (by simp [Act.reads])
      simp [Act.run, Act.writes, dir]
    | readAck air status =>
      refine ⟨rfl, ?_⟩
      intro cell written
      simp [Act.run, (readAck_writes air status cell).mp written]
    | switchAck air p4 p5 | modeAck air p4 p5 | tempAck air p4 p5 =>
      simp [Act.run, Act.writes, update_apply]
  frame := by
    intro cache act cell outside
    cases act with
    | reply out => rfl
    | setSwitch devId regAddr group state => rfl
    | setMode devId regAddr air mode =>
      simp only [Act.run]
      cases modeData mode (cache (air, .modeOutdoor)) (cache (air, .authority)) <;> rfl
    | readAck air status =>
      have elsewhere := mt (readAck_writes air status cell).mpr outside
      simp [Act.run, elsewhere]
    | setSpeed devId regAddr group speed => simp_all [Act.run, Act.writes]
    | switchAck air p4 p5 | modeAck air p4 p5 | tempAck air p4 p5 =>
      simp_all [Act.run, Act.writes]

end HiMaxGateway.Plugin.Daikin
