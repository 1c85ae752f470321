import HiMaxGateway.Plugin.Frame

/-! The floor heatings: `Mbus_Heat_Honeywell.c` and `Modbus_FloorHeating_TOWWIRE.c`. -/
namespace HiMaxGateway.Plugin
open CRun

namespace Honeywell

def readCode : UInt8 := 0x3

def writeCode : UInt8 := 0x6

def wrSwitchAddr : UInt32 := 0x01

def wrTempAddr : UInt32 := 0x04

def regBase : UInt16 := 0x01

def build (devId : UInt8) (pObj : Option DpObj) : List UInt8 :=
  match pObj with
  | none => withCrc ([devId, readCode] ++ htons regBase ++ htons 4)
  | some obj =>
      if obj.dpid = 1 then
        withCrc ([devId, writeCode] ++ htons wrSwitchAddr.toUInt16 ++ htons obj.dpBool.toUInt16)
      else if obj.dpid = 2 then
        withCrc ([devId, writeCode] ++ htons wrTempAddr.toUInt16 ++ htons
          (obj.dpEnum * 10).toUInt16)
      else withCrc [devId, writeCode, 0, 0, 0, 0]

def parse (devId : UInt8) (buf : List UInt8) : Parsed :=
  if frameLen buf < 7 then pure none
  else
    match findFrame devId readCode writeCode 7 7 buf with
    | none => pure none
    | some pos => do
        let code ← byteAt buf pos 1
        if code = readCode then
          let switch ← byteAt buf pos 4
          -- Seven bytes were asked for, eleven are read.
          let temp ← wordAt buf pos 9
          let roomTemp ← wordAt buf pos 5
          pure (some [⟨.heatSwitch, switch.toUInt32, 0⟩, ⟨.heatTemp, temp / 10, 0⟩,
            ⟨.heatEnvTemp, roomTemp / 10, 0⟩])
        else if code = writeCode then
          let reg ← wordAt buf pos 2
          if reg = wrSwitchAddr then
            pure (some [⟨.heatSwitch, (← byteAt buf pos 5).toUInt32, 0⟩])
          else if reg = wrTempAddr then pure (some [⟨.heatTemp, (← wordAt buf pos 4) / 10, 0⟩])
          else pure none
        else pure none

theorem parse_points (devId : UInt8) (buf : List UInt8) :
    Gives (fun objs => localPoints objs ∈
        [[.heatSwitch, .heatTemp, .heatEnvTemp], [.heatSwitch], [.heatTemp]])
      (parse devId buf) := by
  unfold parse
  refine .ite (fun _ => gives_none) fun _ => ?_
  cases findFrame devId readCode writeCode 7 7 buf with
  | none => exact gives_none
  | some pos =>
    refine .bind fun code _ => .ite (fun status => ?_) fun _ => .ite (fun echo => ?_) fun _ => ?_
    · refine .bind fun switch _ => .bind fun temp _ => .bind fun roomTemp _ => gives_some ?_
      simp [localPoints]
    · refine .bind fun reg _ => .ite (fun _ => .bind fun switch _ => gives_some ?_) fun _ => ?_
      · simp [localPoints]
      · refine .ite (fun _ => .bind fun temp _ => gives_some ?_) fun _ => gives_none
        simp [localPoints]
    · exact gives_none

end Honeywell

namespace Towwire

def readCode : UInt8 := 3

def writeCode : UInt8 := 6

/-- The number of a room's register, cut to the byte it is stored in. -/
def registerByte (regAddr : UInt16) (first : Int) : UInt8 :=
  UInt8.ofInt (((regAddr.toNat : Int) - 1) * 7 + first)

def build (devId : UInt8) (regAddr : UInt16) (pObj : Option DpObj) : Option (List UInt8) :=
  match pObj with
  | none => some (withCrc [devId, readCode, 0, registerByte regAddr 4, 0, 5])
  | some obj =>
      if obj.dpid = 1 then
        some (withCrc [devId, writeCode, 0, registerByte regAddr 4, 0, obj.dpBool.toUInt8])
      else if obj.dpid = 2 then
        some (withCrc [devId, writeCode, 0, registerByte regAddr 5, (obj.dpValue >>> 8).toUInt8,
          obj.dpValue.toUInt8])
      else none

/-- Which of the seven registers of a room was written. The remainder keeps the sign of the
difference. -/
def dataPoint (register : UInt8) : UInt8 := UInt8.ofInt (((register.toNat : Int) - 3).tmod 7 - 1)

def parse (devId : UInt8) (buf : List UInt8) : Parsed := do
  if !(← checkCrc [readCode, writeCode] devId buf) then pure none
  else if (← byteAt buf 0 1) = readCode then
    let switch ← byteAt buf 0 4
    let temp ← wordAt buf 0 5
    let envTemp ← wordAt buf 0 7
    pure (some [⟨.heatSwitch, switch.toUInt32, 0⟩, ⟨.heatTemp, temp, 0⟩,
      ⟨.heatEnvTemp, envTemp, 0⟩])
  else
    let point := dataPoint (← byteAt buf 0 3)
    -- `HEAT_SWITCH + 2 * dataPoint`: between two points stands the status of the first.
    let localPoint := PointFeature.ofCode (300 + 2 * point.toNat)
    if point = 0 then pure (some [⟨localPoint, (← byteAt buf 0 5).toUInt32, 0⟩])
    else if point = 1 ∨ point = 2 then pure (some [⟨localPoint, ← wordAt buf 0 4, 0⟩])
    else pure none

theorem parse_points (devId : UInt8) (buf : List UInt8) :
    Gives (fun objs => localPoints objs ∈
        [[.heatSwitch, .heatTemp, .heatEnvTemp], [.heatSwitch], [.heatTemp], [.heatEnvTemp]])
      (parse devId buf) := by
  unfold parse
  refine .bind fun checked _ => .ite (fun _ => gives_none) fun _ => .bind fun code _ => ?_
  refine .ite (fun status => ?_) fun echo => ?_
  · refine .bind fun switch _ => .bind fun temp _ => .bind fun envTemp _ => gives_some ?_
    simp [localPoints]
  refine .bind fun register _ => .ite (fun first => .bind fun switch _ => gives_some ?_) fun _ => ?_
  · simp [localPoints, first, PointFeature.ofCode]
  refine .ite (fun other => .bind fun word _ => gives_some ?_) fun _ => gives_none
  rcases other with second | third
  · simp [localPoints, second, PointFeature.ofCode]
  · simp [localPoints, third, PointFeature.ofCode]

end Towwire

end HiMaxGateway.Plugin
