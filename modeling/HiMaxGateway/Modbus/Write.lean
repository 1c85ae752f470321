import HiMaxGateway.Lib.Chain
import HiMaxGateway.Modbus.Serial

/-! The three operations that open a serial port: `ModbusDevWrite`,
`Mbus_SyncAllDevStatus` and `Modbus_DevHealth`, after the device was found. -/
namespace HiMaxGateway.Modbus
open Chain

section

variable (devs : Nat → MbusDev)

/-- What follows the build and the send to an opened device. -/
def receiveOrClose (id : Nat) (answers : Answers) : List Ev :=
  if (devs id).bFeedback then serialRead devs id answers
  else if !(devs id).bFullDuplex then serialClose devs id answers
  else []

/-- The report of a device that does not answer. -/
def echo (bActive : Bool) (id : Nat) : List Ev :=
  if (devs id).bFeedback then []
  else
    (if (devs id).bMaster && (devs id).linked then [.knxGroupWrite id] else []) ++
      (if bActive then [.report id, .hbFresh id] else [])

/-- `ModbusDevWrite` up to the group loop; a result when it returns before it. -/
def writeOwner (bActive : Bool) (id : Nat) (answers : Answers) : Option Int × List Ev :=
  if !(devs id).pIf || !(devs id).build then (some (-1), [])
  else if !(devs id).pSerial then (some (-1), [])
  else
    let (ret, opening) := serialOpen devs id answers
    if ret = 0 then
      match answers.built with
      | .null | .noBuffer | .zeroLength => (some (-1), opening ++ serialClose devs id answers)
      | .frame =>
          (none, opening ++ [.send id id answers.written] ++ receiveOrClose devs id answers ++
            echo devs bActive id)
    else (none, opening ++ echo devs bActive id)

/-- The message of a plugin that may have no `build`. -/
def msg (id : Nat) (answers : Answers) : Built :=
  if (devs id).build then answers.built else .null

/-- The group loop. The `n`-th member gets the `n`-th answers. A member without a serial object, or
without a plugin when its port is open, is a null pointer and, like a chain without end, gives no
result. -/
def writeMembers (pNext : Links Nat) (owner : Nat) (answers : Nat → Answers) :
    (fuel n : Nat) → Option Nat → Option (Int × List Ev)
  | 0, _, _ => none
  | _ + 1, _, none => some (0, [])
  | fuel + 1, n, some base =>
      if !(devs owner).pSerial then some (-1, [])
      else if !(devs base).pSerial then none
      else
        let (ret, opening) := serialOpen devs base (answers n)
        if ret = 0 then
          if !(devs base).pIf then none
          else
            match msg devs base (answers n) with
            | .null | .noBuffer | .zeroLength => some (-1, opening)
            | .frame =>
                (writeMembers pNext owner answers fuel (n + 1) (pNext base)).map fun (ret, rest) =>
                  (ret, opening ++ [.send owner base (answers n).written] ++
                    serialClose devs base (answers n) ++ rest)
        else
          (writeMembers pNext owner answers fuel (n + 1) (pNext base)).map fun (ret, rest) =>
            (ret, opening ++ rest)

def modbusDevWrite (pNext : Links Nat) (bActive : Bool) (id : Nat) (own : Answers)
    (answers : Nat → Answers) (fuel : Nat) : Option (Int × List Ev) :=
  match writeOwner devs bActive id own with
  | (some ret, evs) => some (ret, evs)
  | (none, evs) =>
      (writeMembers devs pNext id answers fuel 0 (pNext id)).map fun (ret, rest) =>
        (ret, evs ++ rest)

/-- One pass of the loop of `Mbus_SyncAllDevStatus`. -/
def syncDev (id : Nat) (answers : Answers) : List Ev :=
  if !(devs id).pIf || !(devs id).build then []
  else
    match answers.built with
    | .null | .noBuffer | .zeroLength => []
    | .frame =>
        if !(devs id).pSerial then []
        else
          let (ret, opening) := serialOpen devs id answers
          if ret = 0 then
            opening ++ [.send id id answers.written] ++ receiveOrClose devs id answers
          else opening

def mbusSyncAllDevStatus : List (Nat × Answers) → List Ev
  | [] => []
  | (id, answers) :: rest => syncDev devs id answers ++ mbusSyncAllDevStatus rest

/-- A frame of length zero is not sent, but the answer is waited for; `bFeedback` is not read.
The device is left alone five times out of six. -/
def modbusDevHealth (hbIgnore : Nat) (id : Nat) (answers : Answers) : List Ev :=
  let fresh : List Ev := if (devs id).bOnlineCheck then [] else [.hbFresh id]
  if hbIgnore < 5 then fresh
  else if !(devs id).pIf || !(devs id).build then fresh
  else
    match answers.built with
    | .null | .noBuffer => fresh
    | .zeroLength | .frame =>
        if !(devs id).pSerial then fresh
        else
          let (ret, opening) := serialOpen devs id answers
          if ret = 0 then
            fresh ++ opening ++ [.send id id (answers.written && answers.built == .frame)] ++
              serialRead devs id answers
          else fresh ++ opening

end

end HiMaxGateway.Modbus
