import HiMaxGateway.Plugin.Frame

/-! `Mbus_Acd_ZhongHong.c`, an air conditioner behind a gateway with a protocol of its own. -/
namespace HiMaxGateway.Plugin.ZhongHong
open CRun

def writeCmdSwitch : UInt8 := 0x31

def writeCmdTemp : UInt8 := 0x32

def writeCmdMode : UInt8 := 0x33

def writeCmdSpeed : UInt8 := 0x34

def readCmdStatus : UInt8 := 0x50

/-- The first of the commands, in this order, of which a frame is found. -/
def findCmd (devId : UInt8) (buf : List UInt8) : Option Nat :=
  [writeCmdSwitch, writeCmdSpeed, writeCmdTemp, writeCmdMode, readCmdStatus].findSome? fun code =>
    findKey ((devId.toUInt16 <<< 8) + code.toUInt16) 7 buf

/-- Cold 1, wet 2, wind 4, hot 8 for the device. -/
def modeValue (mode : UInt8) : UInt32 :=
  if mode = 1 then 0 else if mode = 2 then 2 else if mode = 4 then 3 else if mode = 8 then 1 else 0

/-- Auto 0, high 1, middle 2, low 4 for the device. -/
def speedValue (speed : UInt8) : UInt32 :=
  if speed = 4 then 1 else if speed = 2 then 2 else if speed = 1 then 3 else 0

/-- In the answer to a write high and low have changed places. -/
def speedEcho (speed : UInt8) : UInt32 :=
  if speed = 4 then 3 else if speed = 2 then 2 else if speed = 1 then 1 else 0

def parse (devId : UInt8) (buf : List UInt8) : Parsed :=
  if frameLen buf < 7 then pure none
  else
    match findCmd devId buf with
    | none => pure none
    | some pos => do
        let code ← byteAt buf pos 1
        if code = readCmdStatus then
          -- Seven bytes were asked for, eleven are read.
          let switch ← byteAt buf pos 6
          let temp ← byteAt buf pos 7
          let roomTemp ← byteAt buf pos 10
          let mode ← byteAt buf pos 8
          let speed ← byteAt buf pos 9
          pure (some [⟨.acdSwitch, switch.toUInt32, 0⟩, ⟨.acdTemp, temp.toUInt32, 0⟩,
            ⟨.acdMode, modeValue mode, 0⟩, ⟨.acdSpeed, speedValue speed, 0⟩,
            ⟨.acdEnvTemp, roomTemp.toUInt32 * 10, 0⟩])
        else if code = writeCmdSwitch then
          pure (some [⟨.acdSwitch, (← byteAt buf pos 2).toUInt32, 0⟩])
        else if code = writeCmdTemp then
          pure (some [⟨.acdTemp, (← byteAt buf pos 2).toUInt32, 0⟩])
        else if code = writeCmdMode then
          pure (some [⟨.acdMode, modeValue (← byteAt buf pos 2), 0⟩])
        else if code = writeCmdSpeed then
          pure (some [⟨.acdSpeed, speedEcho (← byteAt buf pos 2), 0⟩])
        else pure none

/-- `cs` of `crc16.c`. -/
def cs (bytes : List UInt8) : UInt8 := bytes.foldl (· + ·) 0

/-- Cold, hot, wet, wind. For any other value the byte stays as it was allocated. -/
def modeByte (mode : UInt32) : UInt8 :=
  if mode = 0 then 1 else if mode = 1 then 8 else if mode = 2 then 2 else if mode = 3 then 4 else 0

/-- Auto, low, middle, high. -/
def speedByte (speed : UInt32) : UInt8 :=
  if speed = 0 then 0 else if speed = 1 then 4 else if speed = 2 then 2 else if speed = 3 then 1
  else 0

/-- A command for one unit, without its checksum. -/
def request (devId code value : UInt8) (regAddr : UInt16) : List UInt8 :=
  [devId, code, value, 1] ++ htons regAddr

def withCs (frame : List UInt8) : List UInt8 := frame ++ [cs frame]

def build (devId : UInt8) (regAddr : UInt16) (pObj : Option DpObj) : List UInt8 :=
  match pObj with
  | none => withCs (request devId readCmdStatus 1 regAddr)
  | some obj =>
      if obj.dpid = 1 then
        withCs (request devId writeCmdSwitch (if obj.dpBool then 1 else 0) regAddr)
      else if obj.dpid = 2 then withCs (request devId writeCmdTemp obj.dpValue.toUInt8 regAddr)
      else if obj.dpid = 4 then withCs (request devId writeCmdMode (modeByte obj.dpEnum) regAddr)
      else if obj.dpid = 5 then withCs (request devId writeCmdSpeed (speedByte obj.dpEnum) regAddr)
      else withCs [devId, 0, 0, 0, 0, 0]

theorem parse_points (devId : UInt8) (buf : List UInt8) :
    Gives (fun objs => localPoints objs ∈
        [[.acdSwitch, .acdTemp, .acdMode, .acdSpeed, .acdEnvTemp], [.acdSwitch], [.acdTemp],
          [.acdMode], [.acdSpeed]])
      (parse devId buf) := by
  unfold parse
  refine .ite (fun _ => gives_none) fun _ => ?_
  cases findCmd devId buf with
  | none => exact gives_none
  | some pos =>
    refine .bind fun code _ => .ite (fun status => ?_) fun _ => .ite (fun switch => ?_) fun _ => ?_
    · refine .bind fun switch _ => .bind fun temp _ => .bind fun roomTemp _ => ?_
      refine .bind fun mode _ => .bind fun speed _ => gives_some ?_
      simp [localPoints]
    · refine .bind fun value _ => gives_some ?_
      simp [localPoints]
    refine .ite (fun temp => .bind fun value _ => gives_some ?_) fun _ => ?_
    · simp [localPoints]
    refine .ite (fun mode => .bind fun value _ => gives_some ?_) fun _ => ?_
    · simp [localPoints]
    refine .ite (fun speed => .bind fun value _ => gives_some ?_) fun _ => gives_none
    simp [localPoints]

end HiMaxGateway.Plugin.ZhongHong
