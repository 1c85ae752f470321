import HiMaxGateway.Lib.Sharing
import HiMaxGateway.Plugin.Frame

/-! `Mbus_Acd_TG_A21MC.c`. The control register of an air conditioner is cached in
the row of its register address, whatever its bus address is. -/
namespace HiMaxGateway.Plugin.Tg
open CRun Function

def readCode : UInt8 := 0x3

def writeCode : UInt8 := 0x6

def regBase : UInt16 := 0x64

/-- `AcdCache[64][2]`. -/
abbrev Cell := Nat × Bool

abbrev Cache := Cell → UInt8

/-- The two bytes of a row. -/
def high (row : Nat) : Cell := (row, false)

def low (row : Nat) : Cell := (row, true)

def row (index : UInt16) : Result Nat :=
  if index.toNat < 64 then .ok index.toNat else .error .outOfBounds

inductive Act where
  | reply (out : Reply)
  | control (devId : UInt8) (regAddr : UInt16) (group : Nat) (obj : DpObj)
  | readAck (air : Nat) (p3 p4 : UInt8)
  deriving DecidableEq, Repr

/-- The register after a command. Both values of the switch and the speed `8` are shifted
out of their byte. -/
def command (obj : DpObj) (b4 b5 : UInt8) : UInt8 × UInt8 :=
  if obj.dpid = 1 then ((b4 &&& 0x3F) + shifted (if obj.dpBool then 2 else 1) 14, b5)
  else if obj.dpid = 2 then (b4, (b5 &&& 0xE0) + obj.dpValue.toUInt8 + 15)
  else if obj.dpid = 4 then
    let mode :=
      if obj.dpEnum = 1 then shifted 1 1 else if obj.dpEnum = 3 then shifted 2 1
      else if obj.dpEnum = 4 then shifted 4 1 else if obj.dpEnum = 2 then shifted 8 1
      else if obj.dpEnum = 0 then shifted 16 1 else 0
    ((b4 &&& 0xC1) + mode, b5)
  else if obj.dpid = 5 then
    let speed :=
      if obj.dpEnum = 1 then shifted 1 5 else if obj.dpEnum = 3 then shifted 4 5
      else if obj.dpEnum = 2 then shifted 2 5 else if obj.dpEnum = 0 then shifted 8 5 else 0
    (b4 &&& 0xFE, (b5 &&& 0x1F) + speed)
  else (b4, b5)

/-- What is reported for the two bytes of a register. -/
def objs (b0 b1 : UInt8) : List ParsedObj :=
  let switch := b0.toUInt32 >>> 14
  let speed := ((b0 &&& 1).toUInt32 <<< 4) + (b1 >>> 5).toUInt32
  let mode := ((b0 &&& 0x3E) >>> 1).toUInt32
  [⟨.acdSwitch, if switch = 1 then 0 else if switch = 2 then 1 else switch, 0⟩,
    ⟨.acdTemp, (b1 &&& 0x1F).toUInt32 - 15, 0⟩,
    ⟨.acdMode, if mode = 8 then 2 else if mode = 2 then 3 else if mode = 16 then 0 else mode, 0⟩,
    ⟨.acdSpeed, if speed = 8 then 0 else if speed = 3 then 4 else speed, 0⟩]

def build (devId : UInt8) (regAddr groupAddr : UInt16) (pObj : Option DpObj) : Result Act :=
  match pObj with
  | none =>
      pure (.reply (.frame (some (withCrc ([devId, readCode] ++ htons (regBase + 2 * regAddr) ++
        [0x0, 0x1])))))
  | some obj => do pure (.control devId regAddr (← row groupAddr) obj)

def parse (devId : UInt8) (regAddr : UInt16) (buf : List UInt8) : Result Act :=
  if frameLen buf < 8 then pure (.reply (.objs none))
  else
    match findFrame devId readCode writeCode 8 8 buf with
    | none => pure (.reply (.objs none))
    | some pos => do
        let code ← byteAt buf pos 1
        if code = readCode then
          let air ← row regAddr
          pure (.readAck air (← byteAt buf pos 3) (← byteAt buf pos 4))
        else if code = writeCode then
          pure (.reply (.objs (some (objs (← byteAt buf pos 4) (← byteAt buf pos 5)))))
        else pure (.reply (.objs none))

def Act.run (cache : Cache) : Act → Reply × Cache
  | .reply out => (out, cache)
  | .control devId regAddr group obj =>
      let register := command obj (cache (high group)) (cache (low group))
      (.frame (some (withCrc ([devId, writeCode] ++ htons (regBase + 2 * regAddr) ++
        [register.1, register.2]))), cache)
  | .readAck air p3 p4 =>
      (.objs (some (objs p3 p4)), update (update cache (high air) p3) (low air) p4)

theorem parse_points (devId : UInt8) (regAddr : UInt16) (buf : List UInt8) :
    Ends (fun act => ∀ cache objs, (act.run cache).1 = .objs (some objs) →
        localPoints objs = [.acdSwitch, .acdTemp, .acdMode, .acdSpeed])
      (parse devId regAddr buf) := by
  unfold parse
  refine .ite (fun _ => .pure (by simp [Act.run])) fun _ => ?_
  cases findFrame devId readCode writeCode 8 8 buf with
  | none => exact .pure (by simp [Act.run])
  | some pos =>
    refine .bind fun code _ => .ite (fun status => ?_) fun _ => .ite (fun echo => ?_) fun _ => ?_
    · refine .bind fun air _ => .bind fun p3 _ => .bind fun p4 _ => .pure ?_
      rintro cache objs ⟨⟩
      rfl
    · refine .bind fun p4 _ => .bind fun p5 _ => .pure ?_
      rintro cache objs ⟨⟩
      rfl
    · exact .pure (by simp [Act.run])

def Act.reads : Act → List Cell
  | .control _ _ group _ => [high group, low group]
  | .reply _ | .readAck .. => []

def Act.writes : Act → List Cell
  | .readAck air _ _ => [high air, low air]
  | .reply _ | .control .. => []

def machine : Sharing.Machine (Addr × Request) Reply where
  Cell := Cell
  Value := UInt8
  Act := Act
  init _ := 0
  decode
    | (addr, .build groupAddr _ pObj) => build addr.devId addr.regAddr groupAddr pObj
    | (addr, .parse _ buf) => parse addr.devId addr.regAddr buf
  act := Act.run
  reads := Act.reads
  writes := Act.writes
  rests := by
    intro cache cache' act same
    cases act with
    | reply out => simp [Act.run, Act.writes]
    | control devId regAddr group obj =>
      have upper := same (high group) (by simp [Act.reads])
      have lower := same (low group) (by simp [Act.reads])
      simp [Act.run, Act.writes, upper, lower]
    | readAck air p3 p4 => simp [Act.run, Act.writes, update_apply]
  frame := by
    intro cache act cell outside
    cases act with
    | reply out => rfl
    | control devId regAddr group obj => rfl
    | readAck air p3 p4 => simp_all [Act.run, Act.writes]

end HiMaxGateway.Plugin.Tg
