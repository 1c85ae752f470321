import HiMaxGateway.Lib.CText
import HiMaxGateway.Plugin.AcdDaikin

/-! The receive job of a serial port: `SerialRcvEntry` hands every read to the plugin
of its device and queues what the plugin makes of it. -/
namespace HiMaxGateway.Modbus
open CText CRun Plugin

/-- The fields of `MbusBase_t` the job reads. -/
structure RcvDev where
  pPrimaryKey : Text
  bFullDuplex : Bool := false
  delay : Nat := 0
  /-- `pIf` has `parse` or `parseExt`. -/
  parses : Bool := true
  deriving DecidableEq, Repr

/-- A report on the queue of `ModbusDevMonitor`. -/
structure Report where
  pPrimaryKey : Text
  localPoint : PointFeature
  value : UInt32
  deriving DecidableEq, Repr

/-- A `parse` with the memory of its plugin. -/
abbrev Parse (σ : Type) := σ → List UInt8 → Result (Option (List ParsedObj) × σ)

/-- What `epoll_wait` and the read after it give. -/
inductive Wake where
  | none
  | error
  | input (chunk : List UInt8)
  deriving DecidableEq, Repr

/-- One pass of the loop: whether the port was closed meanwhile, the microseconds since
the start, and what comes in. -/
structure Pass where
  bRcvRun : Bool := true
  timediff : Nat := 0
  wake : Wake
  deriving DecidableEq, Repr

section

variable {σ : Type} (dev : RcvDev)

def rcvTimeout : Nat := 500000 + dev.delay * 1000

def reports (objs : List ParsedObj) : List Report :=
  objs.map fun obj => ⟨dev.pPrimaryKey, obj.localPoint, obj.value⟩

/-- The reports of a pass, and whether the loop goes on. -/
def rcvPass (parse : Parse σ) (mem : σ) (pass : Pass) : Result (List Report × σ × Bool) :=
  if !pass.bRcvRun then pure ([], mem, false)
  else if !dev.bFullDuplex && rcvTimeout dev ≤ pass.timediff then pure ([], mem, false)
  else
    match pass.wake with
    | .none => pure ([], mem, true)
    | .error => pure ([], mem, dev.bFullDuplex)
    | .input chunk =>
        if !dev.parses then pure ([], mem, false)
        else do
          let (objs, mem) ← parse mem chunk
          pure (reports dev (objs.getD []), mem, dev.bFullDuplex)

/-- The job, as far as the passes go. -/
def serialRcvEntry (parse : Parse σ) : σ → List Pass → Result (List Report × σ)
  | mem, [] => pure ([], mem)
  | mem, pass :: rest => do
      let (queued, mem, goesOn) ← rcvPass dev parse mem pass
      if goesOn then
        let (more, mem) ← serialRcvEntry parse mem rest
        pure (queued ++ more, mem)
      else pure (queued, mem)

/-- A pass before the timeout. -/
def InTime (pass : Pass) : Prop := pass.bRcvRun = true ∧ pass.timediff < rcvTimeout dev

/-- The chunks come in by successive passes, in time, with empty ones between them. -/
inductive Delivers : List (List UInt8) → List Pass → Prop where
  | done : Delivers [] []
  | quiet (pass : Pass) : InTime dev pass → pass.wake = .none → Delivers chunks passes →
      Delivers chunks (pass :: passes)
  | chunk (pass : Pass) (chunk : List UInt8) : InTime dev pass → pass.wake = .input chunk →
      chunk ≠ [] → Delivers chunks passes → Delivers (chunk :: chunks) (pass :: passes)

end

variable {σ : Type} {dev : RcvDev} {parse : Parse σ} {mem : σ} {pass : Pass}

theorem rcvPass_quiet (inTime : InTime dev pass) (quiet : pass.wake = .none) :
    rcvPass dev parse mem pass = .ok ([], mem, true) := by
  obtain ⟨runs, soon⟩ := inTime
  simp [rcvPass, runs, Nat.not_le.mpr soon, quiet, pure, Except.pure]

/-- A half-duplex job ends with the first bytes it reads, accepted or not. -/
theorem rcvPass_half (half : dev.bFullDuplex = false) (parses : dev.parses = true)
    (inTime : InTime dev pass) (input : pass.wake = .input chunk) :
    rcvPass dev parse mem pass =
      (parse mem chunk).map fun (objs, mem) => (reports dev (objs.getD []), mem, false) := by
  obtain ⟨runs, soon⟩ := inTime
  cases parsed : parse mem chunk <;>
    simp [rcvPass, runs, half, Nat.not_le.mpr soon, input, parses, parsed, bind, Except.bind, pure,
      Except.pure, Except.map]

theorem serialRcvEntry_half (half : dev.bFullDuplex = false) (parses : dev.parses = true)
    (delivered : Delivers dev chunks passes) (first : chunks.head? = some chunk) :
    serialRcvEntry dev parse mem passes =
      (parse mem chunk).map fun (objs, mem) => (reports dev (objs.getD []), mem) := by
  induction delivered with
  | done => contradiction
  | quiet pass inTime quiet rest ih =>
    have later := ih first
    cases parsed : parse mem chunk <;>
      simp [serialRcvEntry, rcvPass_quiet inTime quiet, later, parsed, bind, Except.bind, pure,
        Except.pure, Except.map]
  | chunk pass chunk' inTime input nonempty rest ih =>
    cases Option.some.inj first
    cases parsed : parse mem chunk <;>
      simp [serialRcvEntry, rcvPass_half half parses inTime input, parsed, bind, Except.bind, pure,
        Except.pure, Except.map]

/-- However a reply is split, a half-duplex job queues what the plugin makes of the first
chunk alone; in one read that is the reply. -/
theorem replies_of_first_chunk (dev : RcvDev) (parse : Parse σ) (mem mem' : σ)
    (half : dev.bFullDuplex = false) (parses : dev.parses = true) (reply : List UInt8)
    (objs : List ParsedObj) (accepts : parse mem reply = .ok (some objs, mem')) :
    (∀ chunk chunks passes, (chunk :: chunks).flatten = reply →
      Delivers dev (chunk :: chunks) passes →
      serialRcvEntry dev parse mem passes =
        (parse mem chunk).map fun (objs, mem) => (reports dev (objs.getD []), mem)) ∧
    ∀ passes, Delivers dev [reply] passes →
      serialRcvEntry dev parse mem passes = .ok (reports dev objs, mem') := by
  constructor
  · intro chunk chunks passes _ delivered
    exact serialRcvEntry_half half parses delivered rfl
  · intro passes delivered
    rw [serialRcvEntry_half half parses delivered rfl, accepts]
    rfl

theorem inTime_start (dev : RcvDev) (wake : Wake) : InTime dev { wake := wake } := by
  have positive : 0 < rcvTimeout dev := by
    unfold rcvTimeout
    omega
  exact ⟨rfl, positive⟩

/-- The `parse` of a plugin with a cache. -/
def cachedParse (m : Sharing.Machine (Addr × Request) Reply) (addr : Addr) (points : Bool) :
    Parse (m.Cell → m.Value) := fun cells buf => do
  let (out, cells) ← m.call cells (addr, .parse points buf)
  match out with
  | .objs objs => pure (objs, cells)
  | .frame _ => pure (none, cells)

def sampleAcd : RcvDev := { pPrimaryKey := "aabbccddeeff21".toList }

def acdParse : Parse Daikin.Cache := cachedParse Daikin.machine ⟨1, 0⟩ true

def acdReply : List UInt8 :=
  withCrc [0x01, 0x04, 0x0A, 0x31, 0xA9, 0x42, 0x02, 0x00, 0xAA, 0x00, 0x00, 0x01, 0x0E]

def inOneRead : List Pass := [{ wake := .none }, { wake := .input acdReply }]

def inTwoReads : List Pass :=
  [{ wake := .input (acdReply.take 4) }, { wake := .none }, { wake := .input (acdReply.drop 4) }]

/-- The reply of an air conditioner is accepted as a whole and lost in two reads. -/
theorem split_reply_lost :
    (acdReply.take 4 ++ acdReply.drop 4 = acdReply) ∧
    Delivers sampleAcd [acdReply.take 4, acdReply.drop 4] inTwoReads ∧
    ((acdParse (fun _ => 0) acdReply).map fun out => (out.1.map List.length)) = .ok (some 7) ∧
    (serialRcvEntry sampleAcd acdParse (fun _ => 0) inTwoReads).map Prod.fst = .ok [] := by
  refine ⟨List.take_append_drop .., ?_, by decide +kernel, by decide +kernel⟩
  refine .chunk _ _ (inTime_start _ _) rfl (by decide) (.quiet _ (inTime_start _ _) rfl ?_)
  exact .chunk _ _ (inTime_start _ _) rfl (by decide +kernel) .done

theorem reply_in_one_read : ∃ objs mem, acdParse (fun _ => 0) acdReply = .ok (some objs, mem) ∧
    serialRcvEntry sampleAcd acdParse (fun _ => 0) inOneRead =
      .ok (reports sampleAcd objs, mem) := by
  refine ⟨_, _, rfl, ?_⟩
  apply (replies_of_first_chunk sampleAcd acdParse _ _ rfl rfl acdReply _ rfl).2
  exact .quiet _ (inTime_start _ _) rfl
    (.chunk _ _ (inTime_start _ _) rfl (by decide +kernel) .done)

end HiMaxGateway.Modbus
