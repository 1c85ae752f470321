import HiMaxGateway.Plugin.Frame

/-! The air sensor, the panel, the humidifier and the purifier: `Mbus_AQI_Ohosure.c`,
`Mbus_Panel_Ohosure.c`, `Modbus_Humidifier_SPTC.c` and `Modbus_Purifier.c`. -/
namespace HiMaxGateway.Plugin
open CRun

namespace AqiOhosure

def readCode : UInt8 := 0x42

def writeCode : UInt8 := 0x06

/-- The sensor takes no commands. -/
def build (_ : Option DpObj) : Option (List UInt8) := none

/-- The points are those of a floor heating, the same one twice. -/
def objs (temp humi pm25 co2 : UInt32) : List ParsedObj :=
  [⟨.heatTemp, temp, 0⟩, ⟨.heatSwitch, humi, 0⟩, ⟨.heatEnvTemp, pm25, 0⟩, ⟨.heatEnvTemp, co2, 0⟩]

def parse (devId : UInt8) (buf : List UInt8) : Parsed :=
  if frameLen buf < 7 then pure none
  else
    match findFrame devId readCode writeCode 7 7 buf with
    | none => pure none
    | some pos => do
        if (← byteAt buf pos 1) = readCode then
          let temp ← wordAt buf pos 11
          let humi ← wordAt buf pos 13
          let pm25 ← wordAt buf pos 15
          let co2 ← wordAt buf pos 19
          pure (some (objs (temp - 25) humi pm25 co2))
        else pure none

theorem parse_points (devId : UInt8) (buf : List UInt8) :
    Gives (fun objs => localPoints objs = [.heatTemp, .heatSwitch, .heatEnvTemp, .heatEnvTemp])
      (parse devId buf) := by
  unfold parse
  refine .ite (fun _ => gives_none) fun _ => ?_
  cases findFrame devId readCode writeCode 7 7 buf with
  | none => exact gives_none
  | some pos =>
    refine .bind fun code _ => .ite (fun _ => ?_) fun _ => gives_none
    refine .bind fun temp _ => .bind fun humi _ => .bind fun pm25 _ => .bind fun co2 _ => ?_
    exact gives_some rfl

end AqiOhosure

namespace PanelOhosure

def readCode : UInt8 := 0x3

def writeCode : UInt8 := 0x6

def build (devId : UInt8) (pObj : Option DpObj) : List UInt8 :=
  match pObj with
  | none => withCrc ([devId, readCode] ++ htons 0x100B ++ htons 0x0001)
  | some obj =>
      if obj.dpid = 1 then
        withCrc ([devId, writeCode] ++ htons 0x1008 ++ htons obj.dpBool.toUInt16)
      else withCrc [devId, writeCode, 0, 0, 0, 0]

def parse (devId : UInt8) (buf : List UInt8) : Parsed :=
  if frameLen buf < 8 then pure none
  else
    match findFrame devId readCode writeCode 8 8 buf with
    | none => pure none
    | some pos => do
        let code ← byteAt buf pos 1
        if code = readCode then pure (some [⟨.panelSwitch, (← byteAt buf pos 5).toUInt32, 0⟩])
        else if code = writeCode then
          pure (some [⟨.panelSwitch, (← byteAt buf pos 5).toUInt32, 0⟩])
        else pure none

theorem parse_points (devId : UInt8) (buf : List UInt8) :
    Gives (fun objs => localPoints objs = [.panelSwitch]) (parse devId buf) := by
  unfold parse
  refine .ite (fun _ => gives_none) fun _ => ?_
  cases findFrame devId readCode writeCode 8 8 buf with
  | none => exact gives_none
  | some pos =>
    refine .bind fun code _ => .ite (fun _ => .bind fun switch _ => gives_some rfl) fun _ => ?_
    exact .ite (fun _ => .bind fun switch _ => gives_some rfl) fun _ => gives_none

end PanelOhosure

namespace Humidifier

def readCoil : UInt8 := 1

def readRegister : UInt8 := 4

def writeCoil : UInt8 := 5

def writeRegister : UInt8 := 6

def targetPowerInputRegister : UInt8 := 0x91

/-- `count` is static: the switch and the power are asked for in turn. -/
def build (count devId : UInt8) (pObj : Option DpObj) : Option (List UInt8) × UInt8 :=
  match pObj with
  | none =>
      let request := if count &&& 1 = 1 then [devId, readCoil, 0, 0, 0, 1]
        else [devId, readRegister, 0, targetPowerInputRegister, 0, 1]
      (some (withCrc request), count + 1)
  | some obj =>
      if obj.dpid = 101 then
        (some (withCrc [devId, writeCoil, 0, 0, if obj.dpBool then 0xFF else 0, 0]), count)
      else if obj.dpid = 102 then
        (some (withCrc [devId, writeRegister, 0, 0x62, 0, obj.dpValue.toUInt8]), count)
      else (none, count)

/-- `HUMIDIFIER_SWITCH`, or the number after it for a register: their codes are even. -/
def localPoint (code : UInt8) : PointFeature := .ofCode (if code &&& 1 = 0 then 701 else 700)

def parse (devId : UInt8) (buf : List UInt8) : Parsed := do
  if !(← checkCrc [readRegister, readCoil, writeRegister, writeCoil] devId buf) then pure none
  else
    let code ← byteAt buf 0 1
    if code = readCoil then
      pure (some [⟨localPoint code, if (← byteAt buf 0 3) = 0xFF then 1 else 0, 0⟩])
    else if code = readRegister then
      pure (some [⟨localPoint code, (← byteAt buf 0 4).toUInt32, 0⟩])
    else if code = writeCoil then
      pure (some [⟨localPoint code, if (← byteAt buf 0 4) = 0xFF then 1 else 0, 0⟩])
    else if code = writeRegister then
      pure (some [⟨localPoint code, (← byteAt buf 0 5).toUInt32, 0⟩])
    else pure none

theorem parse_points (devId : UInt8) (buf : List UInt8) :
    Gives (fun objs => localPoints objs ∈ [[.humidifierSwitch], [.humidifierHumiditySet]])
      (parse devId buf) := by
  have named (code : UInt8) (value : UInt32) :
      localPoints [⟨localPoint code, value, 0⟩] ∈
        [[PointFeature.humidifierSwitch], [.humidifierHumiditySet]] := by
    by_cases even : code &&& 1 = 0
    · simp [localPoints, localPoint, even, PointFeature.ofCode]
    · simp [localPoints, localPoint, even, PointFeature.ofCode]
  unfold parse
  refine .bind fun checked _ => .ite (fun _ => gives_none) fun _ => .bind fun code _ => ?_
  refine .ite (fun _ => .bind fun coil _ => gives_some (named ..)) fun _ => ?_
  refine .ite (fun _ => .bind fun set _ => gives_some (named ..)) fun _ => ?_
  refine .ite (fun _ => .bind fun coil _ => gives_some (named ..)) fun _ => ?_
  exact .ite (fun _ => .bind fun set _ => gives_some (named ..)) fun _ => gives_none

end Humidifier

namespace Purifier

def header : UInt8 := 0xAA

def readCode : UInt8 := 0x04

def resetCode : UInt8 := 0x05

def readLength : UInt8 := 0x05

def resetLength : UInt8 := 0x09

/-- The header and the address are filled in after the checksum was taken, and the checksum is
taken up to the byte it goes to. -/
def package (devId : UInt8) (fields : List UInt8) : Result (List UInt8) := do
  let pBuf := [0, 0] ++ fields ++ [0]
  let check ← checkSum pBuf pBuf.length
  pure ([header, devId] ++ fields ++ [check])

def build (devId : UInt8) (pObj : Option DpObj) : Result (Option (List UInt8)) :=
  match pObj with
  | none => do pure (some (← package devId [readLength, readCode]))
  | some obj =>
      if obj.dpid = 104 then do
        pure (some (← package devId [resetLength, resetCode, 0x55, 0x55, 0x55, 0x55]))
      else pure none

def checkPackage (devId : UInt8) (buf : List UInt8) : Result Bool :=
  let length := byteLen buf
  if length < 3 then pure false
  else do
    if (← byteAt buf 0 0) ≠ header then pure false
    else if (← byteAt buf 0 1) ≠ devId then pure false
    else if (← byteAt buf 0 3) ≠ readCode ∧ (← byteAt buf 0 3) ≠ resetCode then pure false
    else if (← byteAt buf 0 2).toNat ≠ length then pure false
    else
      let check ← checkSum buf (length - 1)
      pure (check = (← byteAt buf 0 (length - 1)))

/-- A word of the device, low byte first. -/
def wordLow (buf : List UInt8) (k : Nat) : Result UInt32 := do
  let high ← byteAt buf 0 (k + 1)
  let low ← byteAt buf 0 k
  pure ((high.toUInt32 <<< 8) + low.toUInt32)

/-- The code is taken from the byte of the length. -/
def parse (devId : UInt8) (buf : List UInt8) : Parsed := do
  if !(← checkPackage devId buf) then pure none
  else
    let code ← byteAt buf 0 2
    if code = readCode then
      let total := (← wordLow buf 4) + (← wordLow buf 6) + (← wordLow buf 8) + (← wordLow buf 10)
      let tds ← wordLow buf 20
      let filterTime ← wordLow buf 12
      pure (some [⟨.purifierFlow, total % 65536, 0⟩, ⟨.purifierTds, tds, 0⟩,
        ⟨.purifierPpFilterTime, filterTime, 0⟩, ⟨.purifierReset, 0, 0⟩])
    else if code = resetCode then
      let result := [← byteAt buf 0 4, ← byteAt buf 0 5, ← byteAt buf 0 6, ← byteAt buf 0 7]
      if result = [0, 0, 0, 0] then pure (some [⟨.purifierReset, 1, 0⟩])
      else pure (some [{}])
    else pure none

/-- The four bytes that tell that the filter was reset. -/
def Cleared (buf : List UInt8) : Prop := ∀ k ∈ [4, 5, 6, 7], buf[k]? = some 0

theorem parse_points (devId : UInt8) (buf : List UInt8) :
    Gives (fun objs =>
        (buf[2]? = some readCode ∧ localPoints objs =
          [.purifierFlow, .purifierTds, .purifierPpFilterTime, .purifierReset]) ∨
        (Cleared buf ∧ localPoints objs = [.purifierReset]) ∨
        (buf[2]? = some resetCode ∧ ¬ Cleared buf ∧ localPoints objs = [.unknown]))
      (parse devId buf) := by
  unfold parse
  refine .bind fun checked _ => .ite (fun _ => gives_none) fun _ => .bind fun code read => ?_
  have third : buf[2]? = some code := byteAt_frame read
  refine .ite (fun status => ?_) fun _ => .ite (fun reset => ?_) fun _ => gives_none
  · refine .bind fun w4 _ => .bind fun w6 _ => .bind fun w8 _ => .bind fun w10 _ => ?_
    refine .bind fun tds _ => .bind fun filterTime _ => gives_some (.inl ⟨?_, rfl⟩)
    rw [third, status]
  refine .bind fun b4 r4 => .bind fun b5 r5 => .bind fun b6 r6 => .bind fun b7 r7 => ?_
  have bytes : Cleared buf ↔ [b4, b5, b6, b7] = [0, 0, 0, 0] := by
    have f4 : buf[4]? = some b4 := byteAt_frame r4
    have f5 : buf[5]? = some b5 := byteAt_frame r5
    have f6 : buf[6]? = some b6 := byteAt_frame r6
    have f7 : buf[7]? = some b7 := byteAt_frame r7
    simp [Cleared, f4, f5, f6, f7]
  refine .ite (fun zero => gives_some (.inr (.inl ⟨bytes.mpr zero, rfl⟩))) fun left => ?_
  exact gives_some (.inr (.inr ⟨reset ▸ third, mt bytes.mp left, rfl⟩))

end Purifier

end HiMaxGateway.Plugin
