import HiMaxGateway.Lib.Fault
import HiMaxGateway.Xml.Cells

/-! `di_scan`: the thread that samples the dry contacts, debounces them and reports their
changes. -/
namespace HiMaxGateway.DiScan
open CText CRun Xml

def levelCode : DiLevel → Nat
  | .low => 0
  | .high => 1

/-- `DiDev_t`, as `ParseDiCfg` creates it. -/
structure DiDev where
  element : Element := {}
  body : DiBody := {}
  value : Nat := 0
  /-- There is none for −1. -/
  status : Option DiLevel := none
  retryNum : Int := 3
  retryCnt : Int := 0
  deriving DecidableEq

def DiDev.ofCell (cell : CellDev DiBody) : DiDev := { element := cell.element, body := cell.body }

/-- What a turn of the loop meets: what `fgets` left of the output of `cmd`, and `g_bActive`. -/
structure Reading where
  buf : Text
  bActive : Bool
  deriving DecidableEq

/-- A call of `tuya_user_iot_report_obj_dp`. -/
structure DiReport where
  pPrimaryKey : Option Text
  dpid : Nat
  value : DiLevel
  deriving DecidableEq

/-- A new status. What the call returns goes into the log only. -/
def DiDev.commit (dev : DiDev) (bActive : Bool) (level : DiLevel) : DiDev × List DiReport :=
  if dev.status ≠ some level then
    ({ dev with status := some level },
      if bActive then [⟨dev.element.pPrimaryKey, dev.body.dataPoint, level⟩] else [])
  else (dev, [])

def DiDev.debounce (dev : DiDev) (bActive : Bool) : DiDev × List DiReport :=
  if levelCode dev.body.eLevel = dev.value then
    if dev.retryCnt < dev.retryNum then ({ dev with retryCnt := dev.retryNum }, [])
    else if dev.retryCnt < dev.retryNum * 2 then ({ dev with retryCnt := dev.retryCnt + 1 }, [])
    else dev.commit bActive .low
  else
    if dev.retryCnt > dev.retryNum then ({ dev with retryCnt := dev.retryNum }, [])
    else if dev.retryCnt ≠ 0 then ({ dev with retryCnt := dev.retryCnt - 1 }, [])
    else dev.commit bActive .high

/-- A number out of range is stored and then skipped. -/
def DiDev.sample (dev : DiDev) (reading : Reading) : DiDev × List DiReport :=
  let dev := { dev with value := (number reading.buf % 2 ^ 8).toNat }
  if outOfRange reading.buf then (dev, []) else dev.debounce reading.bActive

/-- One channel over many turns. -/
def DiDev.samples (dev : DiDev) (readings : List Reading) : DiDev :=
  readings.foldl (fun dev reading => (dev.sample reading).1) dev

/-- A node of `pDioDevList`. -/
inductive DioDev where
  | input (dev : DiDev)
  | output (dev : CellDev DoBody)

/-- An entry that is taken for a `DiDev_t`. A `DoDev_t` has an empty command in its padding, and
ends 16 bytes behind the element; `value` of a `DiDev_t` is the byte 134. -/
def DioDev.asDi : DioDev → Result DiDev
  | .input dev => pure dev
  | .output _ => .error .outOfBounds

/-- The loop over the list from place `i` on. No entry is asked what it is. -/
def scan (readings : Nat → Reading) (i : Nat) : List DioDev → Result (List DioDev × List DiReport)
  | [] => pure ([], [])
  | node :: rest => do
      let dev ← node.asDi
      let (dev, reports) := dev.sample (readings i)
      let (rest, more) ← scan readings (i + 1) rest
      return (.input dev :: rest, reports ++ more)

/-- Some turns of the endless loop. -/
def diScan : List (Nat → Reading) → List DioDev → Result (List DioDev × List DiReport)
  | [], list => pure (list, [])
  | readings :: later, list => do
      let (list, reports) ← scan readings 0 list
      let (list, more) ← diScan later list
      return (list, reports ++ more)

/-- `pDioDevList` after `ParseDiCfg` and `ParseDoCfg`. -/
def dioDevList (inputs : List (CellDev DiBody)) (outputs : List (CellDev DoBody)) : List DioDev :=
  inputs.map (fun cell => .input (.ofCell cell)) ++ outputs.map .output

/-- What the thread does with a configuration: `ParseDiCfg` fails without a cell, and the thread is
started only where it does not. -/
def diThread (turns : List (Nat → Reading)) (inputs : List (CellDev DiBody))
    (outputs : List (CellDev DoBody)) : Result (List DioDev × List DiReport) :=
  if inputs.isEmpty then pure (dioDevList inputs outputs, [])
  else diScan turns (dioDevList inputs outputs)

end HiMaxGateway.DiScan
