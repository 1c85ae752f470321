import HiMaxGateway.Plugin.AcdZhongHong
import HiMaxGateway.Plugin.Frame

/-! The ventilations whose `parse` gives the same objects whatever was called before:
`Mbus_Vent_Broan_DTouch.c`, `Mbus_Vent_Broan_ERDH45_500C.c`, `Mbus_Vent_Broan_noah.c`,
`Mbus_Vent_Daikin_DTA116A621.c`, `Mbus_Vent_Dpurat.c`, `Modbus_Ventilation_BROAN.c` and
`Modbus_Ventilation_TuoLi_TLCAA301R.c`. -/
namespace HiMaxGateway.Plugin
open CRun

namespace DTouch

def readCode : UInt8 := 3

def writeCode : UInt8 := 6

/-- Low and high, or fresh air and dehumidifier. -/
def levelByte (level : UInt32) : UInt8 := if level = 0 then 1 else if level = 1 then 3 else 0

/-- The write of a register. -/
def request (devId register value : UInt8) : List UInt8 :=
  withCrc [devId, writeCode, 0, register, 0, value]

def build (devId : UInt8) (points : Option Bool) (pObj : Option DpObj) : Option (List UInt8) :=
  match points with
  | none | some false => none
  | some true =>
      match pObj with
      | none => some (withCrc [devId, readCode, 0, 1, 0, 0x1F])
      | some obj =>
          if obj.dpid = 39 then some (request devId 1 (if obj.dpBool then 1 else 0))
          else if obj.dpid = 28 then some (request devId 3 (levelByte obj.dpEnum))
          else if obj.dpid = 101 then some (request devId 2 (levelByte obj.dpEnum))
          else some (request devId 0 0)

/-- The objects are given the data points of the cloud. -/
def objs (switch speed mode : UInt32) : List ParsedObj :=
  [⟨.ofCode 39, switch, 0⟩, ⟨.ofCode 28, speed, 0⟩, ⟨.ofCode 101, mode, 0⟩]

def parse (devId : UInt8) (points : Bool) (buf : List UInt8) : Parsed :=
  if frameLen buf < 8 then pure none
  else if !points then pure none
  else
    match findFrame devId readCode writeCode 14 14 buf with
    | none => pure none
    | some pos => do
        if (← byteAt buf pos 1) ≠ readCode then pure none
        else
          let p4 ← byteAt buf pos 4
          let p6 ← byteAt buf pos 6
          let p8 ← byteAt buf pos 8
          pure (some (objs (if p4 = 1 then 1 else 0) (if p6 = 3 then 1 else 0)
            (if p8 = 3 then 1 else 0)))

theorem parse_points (devId : UInt8) (points : Bool) (buf : List UInt8) :
    Gives (fun objs => localPoints objs = [.other 39, .other 28, .panelSwitchStatus])
      (parse devId points buf) := by
  unfold parse
  refine .ite (fun _ => gives_none) fun _ => .ite (fun _ => gives_none) fun _ => ?_
  cases findFrame devId readCode writeCode 14 14 buf with
  | none => exact gives_none
  | some pos =>
    refine .bind fun code _ => .ite (fun _ => gives_none) fun _ => ?_
    exact .bind fun p4 _ => .bind fun p6 _ => .bind fun p8 _ => gives_some rfl

end DTouch

namespace Erdh45

def readCode : UInt8 := 0x10

def writeCode : UInt8 := 0x11

/-- Which states a command sets, the states, and the humidity. -/
def command (obj : DpObj) : List UInt8 :=
  if obj.dpid = 8 then [2, 0, obj.dpValue.toUInt8]
  else if obj.dpid = 22 then [4, if obj.dpBool then 4 else 0, 0]
  else if obj.dpid = 28 then [8, if obj.dpValue ≠ 0 then 8 else 0, 0]
  else if obj.dpid = 39 then [5, if obj.dpBool then 5 else 0, 0]
  else if obj.dpid = 101 then [0x10, if obj.dpEnum = 1 then 0x10 else 0, 0]
  else [0, 0, 0]

def build (devId : UInt8) (points : Option Bool) (pObj : Option DpObj) : Option (List UInt8) :=
  match points with
  | none | some false => none
  | some true =>
      match pObj with
      | none => some (withCrc [devId, readCode, 0, 0, 0, 0])
      | some obj =>
          some (withCrc ([devId, writeCode, 0, 0] ++ htons 0x4 ++ command obj ++ [0]))

def parse (devId : UInt8) (points : Bool) (buf : List UInt8) : Parsed :=
  if frameLen buf < 15 then pure none
  else if !points then pure none
  else
    match findFrame devId readCode writeCode 14 14 buf with
    | none => pure none
    | some pos => do
        if (← byteAt buf pos 1) ≠ readCode then pure none
        else
          let states ← byteAt buf pos 6
          let humiditySet ← byteAt buf pos 8
          let humidityIndoor ← byteAt buf pos 9
          pure (some [⟨.ventSwitch, (states &&& 0x01).toUInt32, 0⟩,
            ⟨.ventSpeed, ((states &&& 0x04) >>> 2).toUInt32, 0⟩,
            ⟨.ventHumi, humiditySet.toUInt32, 0⟩, ⟨.ventEnvHumi, humidityIndoor.toUInt32, 0⟩,
            ⟨.ventValve, ((states &&& 0x02) >>> 1).toUInt32, 0⟩,
            ⟨.ventMode, ((states &&& 0x08) >>> 3).toUInt32, 0⟩])

theorem parse_points (devId : UInt8) (points : Bool) (buf : List UInt8) :
    Gives (fun objs => localPoints objs =
        [.ventSwitch, .ventSpeed, .ventHumi, .ventEnvHumi, .ventValve, .ventMode])
      (parse devId points buf) := by
  unfold parse
  refine .ite (fun _ => gives_none) fun _ => .ite (fun _ => gives_none) fun _ => ?_
  cases findFrame devId readCode writeCode 14 14 buf with
  | none => exact gives_none
  | some pos =>
    refine .bind fun code _ => .ite (fun _ => gives_none) fun _ => ?_
    exact .bind fun states _ => .bind fun set _ => .bind fun indoor _ => gives_some rfl

end Erdh45

/-- The mark of a command, and the states it sets. -/
def Noah.command : Option DpObj → List UInt8
  | none => [0, 0, 0]
  | some obj =>
      if obj.dpid = 39 then (if obj.dpBool then [1, 1, 1] else [1, 0, 0])
      else if obj.dpid = 28 ∨ obj.dpid = 101 then
        [1, 1, if obj.dpEnum = 1 then 1 else if obj.dpEnum = 2 then 3
          else if obj.dpEnum = 3 then 5 else 0]
      else [1, 0, 0]

def Noah.build (devId : UInt8) (points : Option Bool) (pObj : Option DpObj) : Option (List UInt8) :=
  match points with
  | none | some false => none
  | some true =>
      some (ZhongHong.withCs ([0xAA, 0x5A, devId] ++ Noah.command pObj ++ [0, 0, 0, 0]))

/-- The header of the frame is looked for, not the address. -/
def Noah.parse (points : Bool) (buf : List UInt8) : Parsed :=
  if frameLen buf < 23 then pure none
  else if !points then pure none
  else
    match findKey 0xAAA5 22 buf with
    | none => pure none
    | some pos => do
        let state ← byteAt buf pos 6
        pure (some [⟨.ventSwitch, if state = 0 then 0 else 1, 0⟩,
          ⟨.ventSpeed, if state ≤ 2 then 1 else if state = 3 then 2 else 3, 0⟩])

theorem Noah.parse_points (points : Bool) (buf : List UInt8) :
    Gives (fun objs => localPoints objs = [.ventSwitch, .ventSpeed]) (Noah.parse points buf) := by
  unfold Noah.parse
  refine .ite (fun _ => gives_none) fun _ => .ite (fun _ => gives_none) fun _ => ?_
  cases findKey 0xAAA5 22 buf with
  | none => exact gives_none
  | some pos => exact .bind fun state _ => gives_some rfl

namespace VentDaikin

def readCode : UInt8 := 0x4

def writeCode : UInt8 := 0x6

def regBase : UInt16 := 0x07D0

/-- The index of a row of `MbusObj[16][3]`, when the array has it. -/
def row (index : UInt16) : Result Nat :=
  if index.toNat < 16 then .ok index.toNat else .error .outOfBounds

/-- The columns of `MbusObj`. -/
inductive Idx where
  | switch
  | speed
  | dir
  deriving DecidableEq, Repr

/-- `rcvValue` of each entry of `MbusObj`. -/
abbrev Cache := Nat → Idx → UInt32

def statusRegLen : UInt16 := 6

def ctrlRegLen : UInt16 := 3

/-- A write of the first control register. -/
def request (devId : UInt8) (regAddr : UInt16) (data : List UInt8) : List UInt8 :=
  withCrc ([devId, writeCode] ++ htons (regBase + ctrlRegLen * regAddr) ++ data)

def build (cache : Cache) (devId : UInt8) (regAddr groupAddr : UInt16) (pObj : Option DpObj) :
    Result (List UInt8) :=
  match pObj with
  | none =>
      pure (withCrc ([devId, readCode] ++ htons (regBase + statusRegLen * regAddr) ++ [0x0, 0x1]))
  | some obj =>
      if obj.dpid = 39 then do
        let group ← row groupAddr
        pure (request devId regAddr
          [((cache group .speed) <<< 4).toUInt8 + (cache group .dir).toUInt8, if obj.dpBool then 1
            else 0])
      else if obj.dpid = 28 then do
        let group ← row groupAddr
        let speed : UInt8 := if obj.dpEnum = 0 then 0x10 else if obj.dpEnum = 1 then 0x50 else 0
        pure (request devId regAddr [speed + (cache group .dir).toUInt8,
          (cache group .switch).toUInt8])
      else pure (withCrc [devId, writeCode, 0, 0, 0, 0])

def speedValue (speed : UInt8) : UInt32 := if speed ≤ 3 then 0 else 1

/-- The control register a frame writes; each unit has three. -/
def register (high low : UInt8) : UInt16 := (high.toUInt16 <<< 8) + low.toUInt16 - regBase

/-- What is stored into the row is read by `build` alone. -/
def parse (devId : UInt8) (regAddr : UInt16) (buf : List UInt8) : Parsed :=
  if frameLen buf < 7 then pure none
  else
    match findFrame devId readCode writeCode 7 7 buf with
    | none => pure none
    | some pos => do
        let code ← byteAt buf pos 1
        if code = readCode then
          let _ ← row regAddr
          let p4 ← byteAt buf pos 4
          let p3 ← byteAt buf pos 3
          -- The value of the wind direction stays as it was allocated.
          pure (some [⟨.ventSwitch, (p4 &&& 0x1).toUInt32, 0⟩,
            ⟨.ventSpeed, speedValue ((p3 >>> 4) &&& 0x7), 0⟩, ⟨.ventWindDir, 0, 0⟩])
        else if code = writeCode then
          let high ← byteAt buf pos 2
          let low ← byteAt buf pos 3
          let reg := register high low
          if reg % 3 = 0 then
            let _ ← row (reg / 3)
            let p5 ← byteAt buf pos 5
            let p4 ← byteAt buf pos 4
            pure (some [⟨.ventSwitch, (p5 &&& 0x1).toUInt32, 0⟩,
              ⟨.ventSpeed, speedValue ((p4 >>> 4) &&& 0x7), 0⟩])
          else pure (some [{}, {}])
        else pure none

/-- The answer to a write of the first register of a unit. -/
def WritesFirst (frame : List UInt8) : Prop :=
  frame[1]? = some writeCode ∧
    ∃ high low, frame[2]? = some high ∧ frame[3]? = some low ∧ register high low % 3 = 0

theorem parse_points (devId : UInt8) (regAddr : UInt16) (buf : List UInt8) :
    Gives (fun objs =>
        let frame := frameAt buf (findFrame devId readCode writeCode 7 7 buf)
        WritesFirst frame ∧ localPoints objs = [.ventSwitch, .ventSpeed] ∨
          ¬ WritesFirst frame ∧ localPoints objs ∈
            [[.ventSwitch, .ventSpeed, .ventWindDir], [.unknown, .unknown]])
      (parse devId regAddr buf) := by
  unfold parse
  refine .ite (fun _ => gives_none) fun _ => ?_
  cases findFrame devId readCode writeCode 7 7 buf with
  | none => exact gives_none
  | some pos =>
    refine .bind fun code read => ?_
    have second := byteAt_frame read
    refine .ite (fun status => ?_) fun _ => .ite (fun echo => ?_) fun _ => gives_none
    · refine .bind fun _ _ => .bind fun p4 _ => .bind fun p3 _ => gives_some (.inr ⟨?_, ?_⟩)
      · rintro ⟨written, -⟩
        rw [second, status] at written
        exact absurd written (by decide)
      · simp [localPoints]
    refine .bind fun high readHigh => .bind fun low readLow => ?_
    have third := byteAt_frame readHigh
    have fourth := byteAt_frame readLow
    refine .ite (fun first => ?_) fun later => gives_some (.inr ⟨?_, ?_⟩)
    · refine .bind fun _ _ => .bind fun p5 _ => .bind fun p4 _ => gives_some (.inl ⟨?_, rfl⟩)
      exact ⟨echo ▸ second, high, low, third, fourth, first⟩
    · rintro ⟨-, high', low', third', fourth', first⟩
      cases third.symm.trans third'
      cases fourth.symm.trans fourth'
      exact later first
    · simp [localPoints]

end VentDaikin

namespace Dpurat

def readCode : UInt8 := 0x3

def writeCode : UInt8 := 0x6

def wrSwitchAddr : UInt32 := 0x01

def wrSpeedAddr : UInt32 := 0x02

def regBase : UInt16 := 0x0B

def build (devId : UInt8) (pObj : Option DpObj) : List UInt8 :=
  match pObj with
  | none => withCrc ([devId, readCode] ++ htons regBase ++ htons 3)
  | some obj =>
      if obj.dpid = 39 then
        withCrc ([devId, writeCode] ++ htons wrSwitchAddr.toUInt16 ++ htons obj.dpBool.toUInt16)
      else if obj.dpid = 101 then
        withCrc ([devId, writeCode] ++ htons wrSpeedAddr.toUInt16 ++ htons obj.dpEnum.toUInt16)
      else withCrc [devId, writeCode, 0, 0, 0, 0]

def parse (devId : UInt8) (buf : List UInt8) : Parsed :=
  if frameLen buf < 7 then pure none
  else
    match findFrame devId readCode writeCode 7 7 buf with
    | none => pure none
    | some pos => do
        let code ← byteAt buf pos 1
        if code = readCode then
          let switch ← byteAt buf pos 4
          let speed ← byteAt buf pos 6
          pure (some [⟨.ventSwitch, switch.toUInt32, 0⟩, ⟨.ventSpeed, speed.toUInt32, 0⟩])
        else if code = writeCode then
          let reg ← wordAt buf pos 2
          if reg = wrSwitchAddr then
            pure (some [⟨.ventSwitch, (← byteAt buf pos 5).toUInt32, 0⟩])
          else if reg = wrSpeedAddr then
            pure (some [⟨.ventSpeed, (← byteAt buf pos 5).toUInt32, 0⟩])
          else pure none
        else pure none

theorem parse_points (devId : UInt8) (buf : List UInt8) :
    Gives (fun objs => localPoints objs ∈ [[.ventSwitch, .ventSpeed], [.ventSwitch], [.ventSpeed]])
      (parse devId buf) := by
  unfold parse
  refine .ite (fun _ => gives_none) fun _ => ?_
  cases findFrame devId readCode writeCode 7 7 buf with
  | none => exact gives_none
  | some pos =>
    refine .bind fun code _ => .ite (fun status => ?_) fun _ => .ite (fun echo => ?_) fun _ => ?_
    · refine .bind fun switch _ => .bind fun speed _ => gives_some ?_
      simp [localPoints]
    · refine .bind fun reg _ => .ite (fun _ => .bind fun switch _ => gives_some ?_) fun _ => ?_
      · simp [localPoints]
      · refine .ite (fun _ => .bind fun speed _ => gives_some ?_) fun _ => gives_none
        simp [localPoints]
    · exact gives_none

end Dpurat

namespace VentilationBroan

def header : UInt8 := 0xAA

def footer : UInt8 := 0xF5

def hostId : UInt8 := 2

/-- The three states of a command and the mark of a command or a read. -/
def command : Option DpObj → Option (List UInt8)
  | none => some [0, 0, 0, 0xA5]
  | some obj =>
      if obj.dpid = 28 then
        some [if 0 < obj.dpEnum then 1 else 0, obj.dpEnum.toUInt8, obj.dpEnum.toUInt8, 0x5A]
      else if obj.dpid = 39 then
        some [obj.dpBool.toUInt8, obj.dpBool.toUInt8, obj.dpBool.toUInt8, 0x5A]
      else none

/-- `checkSum` of a frame that is sent: what stands between the header and the sum. -/
def sentSum (bytes : List UInt8) : UInt8 := bytes.foldl (· + ·) 0

def build (devId : UInt8) (pObj : Option DpObj) : Option (List UInt8) :=
  (command pObj).map fun states =>
    [header, devId, hostId] ++ states ++ [sentSum ([devId, hostId] ++ states), footer]

/-- A length whose low byte is zero puts the footer before the buffer. -/
def checkPackage (devId : UInt8) (buf : List UInt8) : Result Bool := do
  if (← byteAt buf 0 0) ≠ header then pure false
  else if byteLen buf = 0 then .error .outOfBounds
  else if (← byteAt buf 0 (byteLen buf - 1)) ≠ footer then pure false
  else if (← byteAt buf 0 1) ≠ devId then pure false
  else if (← byteAt buf 0 2) ≠ hostId then pure false
  else
    let check ← checkSum buf 9
    pure (check = (← byteAt buf 0 9))

def parse (devId : UInt8) (buf : List UInt8) : Parsed := do
  if !(← checkPackage devId buf) then pure none
  else
    let speed ← byteAt buf 0 4
    let switch ← byteAt buf 0 3
    let envTemp ← byteAt buf 0 6
    pure (some [⟨.ventSpeed, speed.toUInt32, 0⟩, ⟨.ventSwitch, switch.toUInt32, 0⟩,
      ⟨.ventEnvTemp, ~~~((envTemp &&& 0x7F).toUInt32 - 1), 0⟩])

theorem parse_points (devId : UInt8) (buf : List UInt8) :
    Gives (fun objs => localPoints objs = [.ventSpeed, .ventSwitch, .ventEnvTemp])
      (parse devId buf) := by
  unfold parse
  refine .bind fun checked _ => .ite (fun _ => gives_none) fun _ => ?_
  exact .bind fun speed _ => .bind fun switch _ => .bind fun envTemp _ => gives_some rfl

end VentilationBroan

namespace TuoLi

def readCode : UInt8 := 0x3

def writeCode : UInt8 := 0x10

/-- The switch and the speed of a command. -/
def command (obj : DpObj) : List UInt8 :=
  if obj.dpid = 39 then [obj.dpBool.toUInt8, 0]
  else if obj.dpid = 101 then [0x1, obj.dpEnum.toUInt8]
  else [0, 0]

def build (devId : UInt8) (pObj : Option DpObj) : List UInt8 :=
  match pObj with
  | none => withCrc ([devId, readCode] ++ [0, 0] ++ [0, 0, 0, 0])
  | some obj => withCrc ([devId, writeCode] ++ command obj ++ [0, 0, 0, 0])

def parse (devId : UInt8) (buf : List UInt8) : Parsed :=
  if frameLen buf < 14 then pure none
  else
    match findFrame devId readCode writeCode 14 14 buf with
    | none => pure none
    | some pos => do
        let switch ← byteAt buf pos 2
        let speed ← byteAt buf pos 3
        pure (some [⟨.ventSwitch, switch.toUInt32, 0⟩, ⟨.ventSpeed, speed.toUInt32, 0⟩])

theorem parse_points (devId : UInt8) (buf : List UInt8) :
    Gives (fun objs => localPoints objs = [.ventSwitch, .ventSpeed]) (parse devId buf) := by
  unfold parse
  refine .ite (fun _ => gives_none) fun _ => ?_
  cases findFrame devId readCode writeCode 14 14 buf with
  | none => exact gives_none
  | some pos => exact .bind fun switch _ => .bind fun speed _ => gives_some rfl

end TuoLi

end HiMaxGateway.Plugin
