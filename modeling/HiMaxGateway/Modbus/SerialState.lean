import HiMaxGateway.Lib.Run
import HiMaxGateway.Modbus.Serial
import Mathlib.Logic.Function.Basic

/-! The state behind the serial operations: a mutex for each port, a descriptor
for each parameter block, and what the kernel has open. -/
namespace HiMaxGateway.Modbus
open Function

/-- The serial objects. A copied `Serial_t` shares the parameter block of its original. -/
structure SerialCfg where
  pParam : Nat → Nat
  port : Nat → Nat
  bFullDuplex : Nat → Bool

inductive Mutex where
  | free
  /-- The `SerialOpen` of an object holds it and has not returned. -/
  | opening (obj : Nat)
  /-- A parameter block holds it. -/
  | held (param : Nat)
  deriving DecidableEq, Repr

structure SerialState where
  mutex : Nat → Mutex
  /-- No descriptor is `-1`. -/
  sfd : Nat → Option Nat
  bRcvRun : Nat → Bool
  /-- The port each open descriptor belongs to. -/
  files : Nat → Option Nat
  /-- Receive jobs in the pool, for each object. -/
  waiting : Nat → Nat
  running : Nat → Nat

/-- After every `SerialInit`. -/
def SerialState.init : SerialState where
  mutex _ := .free
  sfd _ := none
  bRcvRun _ := false
  files _ := none
  waiting _ := 0
  running _ := 0

namespace SerialState

variable (cfg : SerialCfg)

/-- `SerialOpen` with the mutex taken. -/
def lock (s : SerialState) (obj : Nat) : SerialState :=
  { s with mutex := update s.mutex (cfg.port (cfg.pParam obj)) (.opening obj) }

/-- The rest of `SerialOpen`. The kernel gives the descriptor `fd`. -/
def configure (s : SerialState) (obj : Nat) (outcome : OpenOutcome) (fd : Nat) :
    Int × SerialState :=
  let param := cfg.pParam obj
  match outcome with
  | .opened =>
      (0, { s with
        sfd := update s.sfd param (some fd)
        files := update s.files fd (some (cfg.port param))
        mutex := update s.mutex (cfg.port param) (.held param) })
  | .openFails | .tcsetattrFails | .epollFails =>
      (-1, { s with
        sfd := update s.sfd param none
        mutex := update s.mutex (cfg.port param) .free })

def close (s : SerialState) (obj : Nat) : SerialState :=
  let param := cfg.pParam obj
  match s.sfd param with
  | none => s
  | some fd =>
      { s with
        sfd := update s.sfd param none
        files := update s.files fd none
        bRcvRun := update s.bRcvRun param false
        mutex := update s.mutex (cfg.port param) .free }

/-- The port `SerialWrite` writes to. -/
def write (s : SerialState) (obj : Nat) : Option Nat := (s.sfd (cfg.pParam obj)).bind s.files

def read (s : SerialState) (obj : Nat) (addWork : Bool) : SerialState :=
  if cfg.bFullDuplex (cfg.pParam obj) && s.bRcvRun (cfg.pParam obj) then s
  else if addWork then { s with waiting := update s.waiting obj (s.waiting obj + 1) } else s

/-- `SerialRcvEntry` up to its loop. -/
def jobStart (s : SerialState) (obj : Nat) : SerialState :=
  { s with
    waiting := update s.waiting obj (s.waiting obj - 1)
    running := update s.running obj (s.running obj + 1)
    bRcvRun := update s.bRcvRun (cfg.pParam obj) true }

def jobEnd (s : SerialState) (obj : Nat) : SerialState :=
  { s with running := update s.running obj (s.running obj - 1) }.close cfg obj

end SerialState

inductive SerialLabel where
  | locked (obj : Nat)
  /-- `SerialOpen` returns; it found the mutex as given. -/
  | opened (obj : Nat) (found : Mutex) (ret : Int)
  | sent (obj : Nat) (port : Option Nat)
  | read (obj : Nat)
  | closed (obj : Nat)
  | jobStarted (obj : Nat)
  | jobEnded (obj : Nat)
  deriving DecidableEq, Repr

/-- Any thread may call any operation at any time. A half-duplex `SerialOpen` waits
for a free mutex, a full-duplex one returns `0` when it is not free. -/
inductive SerialStep (cfg : SerialCfg) : SerialState → SerialLabel → SerialState → Prop where
  | locks (s : SerialState) (obj : Nat) : s.mutex (cfg.port (cfg.pParam obj)) = .free →
      SerialStep cfg s (.locked obj) (s.lock cfg obj)
  | repeats (s : SerialState) (obj : Nat) : cfg.bFullDuplex (cfg.pParam obj) = true →
      s.mutex (cfg.port (cfg.pParam obj)) ≠ .free →
      SerialStep cfg s (.opened obj (s.mutex (cfg.port (cfg.pParam obj))) 0) s
  | configures (s : SerialState) (obj : Nat) (outcome : OpenOutcome) (fd : Nat) :
      s.mutex (cfg.port (cfg.pParam obj)) = .opening obj → s.files fd = none →
      SerialStep cfg s (.opened obj .free (s.configure cfg obj outcome fd).1)
        (s.configure cfg obj outcome fd).2
  | sends (s : SerialState) (obj : Nat) : SerialStep cfg s (.sent obj (s.write cfg obj)) s
  | reads (s : SerialState) (obj : Nat) (addWork : Bool) :
      SerialStep cfg s (.read obj) (s.read cfg obj addWork)
  | closes (s : SerialState) (obj : Nat) : SerialStep cfg s (.closed obj) (s.close cfg obj)
  | jobStarts (s : SerialState) (obj : Nat) : 0 < s.waiting obj →
      SerialStep cfg s (.jobStarted obj) (s.jobStart cfg obj)
  | jobEnds (s : SerialState) (obj : Nat) : 0 < s.running obj →
      SerialStep cfg s (.jobEnded obj) (s.jobEnd cfg obj)

end HiMaxGateway.Modbus
