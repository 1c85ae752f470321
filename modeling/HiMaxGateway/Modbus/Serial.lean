import Mathlib.Data.List.Basic

/-! Serial operations of `serialHandle.c` as their callers see them: the result
and what happens to the mutex of the port. What the system calls answer is input. -/
namespace HiMaxGateway.Modbus

/-- The fields of `MbusBase_t` the operations read. The parser sets the duplex
flag of the device and of its serial parameters together. -/
structure MbusDev where
  port : Nat
  bFeedback : Bool := true
  bFullDuplex : Bool := false
  /-- `pIf` is there. -/
  pIf : Bool := true
  /-- `pIf` has `build` or `buildExt`. -/
  build : Bool := true
  pSerial : Bool := true
  bMaster : Bool := false
  bOnlineCheck : Bool := true
  /-- `pvForeignKey` is set. -/
  linked : Bool := false
  deriving DecidableEq, Repr

inductive OpenOutcome where
  | opened
  | openFails
  | tcsetattrFails
  | epollFails
  deriving DecidableEq, Repr

/-- What a plugin's `build` returns. -/
inductive Built where
  | null
  | noBuffer
  | zeroLength
  | frame
  deriving DecidableEq, Repr

/-- The answers of the outside to the operations on one device. -/
structure Answers where
  /-- `pthread_mutex_trylock` finds the mutex free. -/
  mutexFree : Bool := true
  opened : OpenOutcome := .opened
  built : Built := .frame
  written : Bool := true
  addWork : Bool := true
  bRcvRun : Bool := false
  /-- `sfd` is not `-1` when a full-duplex device is closed. -/
  sfdOpen : Bool := true
  deriving DecidableEq, Repr

/-- What a call does, in order. Devices are places in the list. -/
inductive Ev where
  | lock (dev : Nat)
  | unlock (dev : Nat)
  /-- A receive job was put into the pool; it closes the device when it ends. -/
  | queued (dev : Nat)
  /-- A frame built for `dev` goes through the serial object of `via`. -/
  | send (via dev : Nat) (done : Bool)
  | knxGroupWrite (dev : Nat)
  | report (dev : Nat)
  | hbFresh (dev : Nat)
  deriving DecidableEq, Repr

section

variable (devs : Nat → MbusDev)

def serialOpen (id : Nat) (answers : Answers) : Int × List Ev :=
  if (devs id).bFullDuplex && !answers.mutexFree then (0, [])
  else
    match answers.opened with
    | .opened => (0, [.lock id])
    | .openFails | .tcsetattrFails | .epollFails => (-1, [.lock id, .unlock id])

/-- A half-duplex device is closed by the thread that opened it, so its descriptor is there. -/
def serialClose (id : Nat) (answers : Answers) : List Ev :=
  if (devs id).bFullDuplex && !answers.sfdOpen then [] else [.unlock id]

/-- A failure of `thpool_add_work` is only logged. -/
def serialRead (id : Nat) (answers : Answers) : List Ev :=
  if (devs id).bFullDuplex && answers.bRcvRun then []
  else if answers.addWork then [.queued id] else []

end

end HiMaxGateway.Modbus
