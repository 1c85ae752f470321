import HiMaxGateway.Lib.Run
import HiMaxGateway.Plugin.Memmatch
import HiMaxGateway.Plugin.Vent
import HiMaxGateway.Plugin.VentBroan
import Mathlib.Data.List.Induction

/-! One protocol in two copies: what `Mbus_Vent_Broan_ERDH.c` and `Mbus_Vent_Broan_ERDH45_500C.c`
make of a status, after any calls. -/
namespace HiMaxGateway.Plugin.BroanErdh
open CRun Function

variable {devId states : UInt8} {buf : List UInt8} {pos : Nat}

abbrev Call := Addr × Request

abbrev Cache := Point → UInt32

/-- The points in the byte of the states. -/
def bits (states : UInt8) : Cache
  | .switch => (states &&& 0x01).toUInt32
  | .speed => ((states &&& 0x04) >>> 2).toUInt32
  | .mode => ((states &&& 0x08) >>> 3).toUInt32

/-- The place of a status reply. -/
def statusAt (devId : UInt8) (buf : List UInt8) : Option Nat :=
  if 15 ≤ frameLen buf then
    (memmatch buf devId readCode (frameLen buf)).filter fun pos => 14 ≤ frameLen buf - pos
  else none

/-- The byte of the states in a status reply. -/
def statusStates (devId : UInt8) (buf : List UInt8) : Option UInt8 :=
  (statusAt devId buf).bind fun pos => buf[pos + 6]?

/-- The same byte of a reply that is found as the answer to a write. -/
def ackStates (devId : UInt8) (buf : List UInt8) : Option UInt8 :=
  if 8 ≤ frameLen buf then
    (findFrame devId readCode writeCode 14 7 buf).bind fun pos =>
      if buf[pos + 1]? = some readCode then none else buf[pos + 6]?
  else none

/-- What a call stores. -/
def Call.stored : Call → Option UInt8
  | (addr, .parse true buf) => ackStates addr.devId buf
  | _ => none

theorem statusAt_some (found : statusAt devId buf = some pos) :
    15 ≤ frameLen buf ∧ pos + 14 ≤ frameLen buf ∧ buf[pos + 1]? = some readCode ∧
      ∀ writeMin, findFrame devId readCode writeCode 14 writeMin buf = some pos := by
  unfold statusAt at found
  split at found
  case isFalse => cases found
  case isTrue long =>
    obtain ⟨matched, enough⟩ := Option.filter_eq_some_iff.mp found
    obtain ⟨inside, -, second⟩ := memmatch_some matched
    have enough : 14 ≤ frameLen buf - pos := by simpa using enough
    refine ⟨long, by omega, second, fun writeMin => ?_⟩
    unfold findFrame
    simp only [found]

theorem statusStates_some (found : statusStates devId buf = some states) :
    ∃ pos, statusAt devId buf = some pos ∧ byteAt buf pos 6 = .ok states := by
  obtain ⟨pos, status, read⟩ := Option.bind_eq_some_iff.mp found
  exact ⟨pos, status, byteAt_eq_ok.mpr read⟩

/-- The test for the answer to a write comes first, so a status is answered from the cache. -/
theorem parse_status (found : statusStates devId buf = some states) :
    parse devId true buf = .ok .readAck := by
  obtain ⟨pos, status, -⟩ := statusStates_some found
  obtain ⟨long, -, second, frame⟩ := statusAt_some status
  have code : byteAt buf pos 1 = .ok readCode := byteAt_eq_ok.mpr second
  rw [parse, if_neg (by omega), if_neg (by simp), frame 7]
  simp only [code, bind, Except.bind]
  rfl

def points : List (PointFeature × Point) :=
  [(.ventSwitch, .switch), (.ventSpeed, .speed), (.ventMode, .mode)]

/-- The objects `Mbus_Vent_Broan_ERDH45_500C.c` makes of a status. -/
def status45 (states humiditySet humidityIndoor : UInt8) : List ParsedObj :=
  [⟨.ventSwitch, bits states .switch, 0⟩, ⟨.ventSpeed, bits states .speed, 0⟩,
    ⟨.ventHumi, humiditySet.toUInt32, 0⟩, ⟨.ventEnvHumi, humidityIndoor.toUInt32, 0⟩,
    ⟨.ventValve, ((states &&& 0x02) >>> 1).toUInt32, 0⟩, ⟨.ventMode, bits states .mode, 0⟩]

theorem erdh45_status (found : statusStates devId buf = some states) :
    ∃ objs, Erdh45.parse devId true buf = .ok (some objs) ∧
      ∀ point ∈ points, valueOf objs point.1 = some (bits states point.2) := by
  obtain ⟨pos, status, sixth⟩ := statusStates_some found
  obtain ⟨long, enough, second, frame⟩ := statusAt_some status
  have code : byteAt buf pos 1 = .ok Erdh45.readCode := byteAt_eq_ok.mpr second
  have length := frameLen_le buf
  obtain ⟨set, eighth⟩ := byteAt_inside (show pos + 8 < buf.length by omega)
  obtain ⟨indoor, ninth⟩ := byteAt_inside (show pos + 9 < buf.length by omega)
  have frame : findFrame devId Erdh45.readCode Erdh45.writeCode 14 14 buf = some pos := frame 14
  refine ⟨status45 states set indoor, ?_, by simp [points, valueOf, status45]⟩
  rw [Erdh45.parse, if_neg (by omega), if_neg (by simp), frame]
  simp only [code, sixth, eighth, ninth, bind, Except.bind]
  rfl

theorem run_writeAck (cache : Cache) (states : UInt8) :
    ((Act.writeAck states).run cache).2 = bits states := by
  funext point
  cases point <;> simp [Act.run, bits]

theorem build_stored (devId : UInt8) (points : Option Bool) (pObj : Option DpObj) (cache : Cache) :
    ((build devId points pObj).run cache).2 = cache := by
  unfold build
  match points, pObj with
  | none, _ => rfl
  | some false, _ => rfl
  | some true, none => rfl
  | some true, some obj => rfl

/-- No reply is read behind its end, and a reply to a write is the only one that is stored. -/
theorem parse_stored (devId : UInt8) (buf : List UInt8) :
    ∃ act, parse devId true buf = .ok act ∧
      ∀ cache, (act.run cache).2 = (ackStates devId buf).elim cache bits := by
  by_cases long : 8 ≤ frameLen buf
  case neg =>
    refine ⟨.reply (.objs none), by rw [parse, if_pos (by omega)]; rfl, fun cache => ?_⟩
    rw [ackStates, if_neg long]
    rfl
  rw [parse, if_neg (by omega), if_neg (by simp), ackStates, if_pos long]
  cases found : findFrame devId readCode writeCode 14 7 buf with
  | none => exact ⟨.reply (.objs none), rfl, fun _ => rfl⟩
  | some pos =>
    obtain ⟨-, -, codes⟩ := findFrame_some found
    have enough : pos + 6 < buf.length := by
      have length := frameLen_le buf
      rcases codes with ⟨-, enough⟩ | ⟨-, enough⟩ <;> omega
    obtain ⟨states, sixth⟩ := byteAt_inside enough
    rcases codes with ⟨second, -⟩ | ⟨second, -⟩
    · have code : byteAt buf pos 1 = .ok readCode := byteAt_eq_ok.mpr second
      refine ⟨.readAck, ?_, fun cache => ?_⟩
      · simp only [code, bind, Except.bind]
        rfl
      · simp only [Option.bind_some, second, if_true]
        rfl
    · have code : byteAt buf pos 1 = .ok writeCode := byteAt_eq_ok.mpr second
      refine ⟨.writeAck states, ?_, fun cache => ?_⟩
      · simp only [code, sixth, bind, Except.bind]
        rfl
      · rw [run_writeAck, Option.bind_some, second, if_neg (by decide), byteAt_eq_ok.mp sixth]
        rfl

/-- A call goes through, and leaves the cache unless it stores a reply to a write. -/
theorem call_stored (cache : Cache) (call : Call) :
    ∃ out, machine.call cache call = .ok (out, call.stored.elim cache bits) := by
  match call with
  | (addr, .build groupAddr points pObj) =>
    refine ⟨((build addr.devId points pObj).run cache).1,
      (Sharing.Machine.call_ok (m := machine) rfl cache).trans ?_⟩
    exact congrArg Except.ok (Prod.ext rfl (build_stored addr.devId points pObj cache))
  | (addr, .parse false buf) =>
    have decoded : machine.decode (addr, .parse false buf) = .ok (.reply (.objs none)) := by
      change parse addr.devId false buf = _
      unfold parse
      split <;> rfl
    exact ⟨_, Sharing.Machine.call_ok decoded cache⟩
  | (addr, .parse true buf) =>
    obtain ⟨act, decoded, stored⟩ := parse_stored addr.devId buf
    have decoded : machine.decode (addr, .parse true buf) = .ok act := decoded
    refine ⟨(act.run cache).1, (Sharing.Machine.call_ok decoded cache).trans ?_⟩
    exact congrArg Except.ok (Prod.ext rfl (stored cache))

/-- A call leads from one content of the cache to the next. -/
def Step (cache : Cache) (call : Call) (next : Cache) : Prop :=
  ∃ out, machine.call cache call = .ok (out, next)

theorem step_iff {cache next : Cache} {call : Call} :
    Step cache call next ↔ next = call.stored.elim cache bits := by
  obtain ⟨out, called⟩ := call_stored cache call
  constructor
  · rintro ⟨out', step⟩
    cases called.symm.trans step
    rfl
  · rintro rfl
    exact ⟨out, called⟩

/-- What both copies tell of a status, and what a reply to a write does to the cache. -/
structure Lawful (cache : Cache) (call : Call) : Prop where
  status : ∀ addr buf states, call = (addr, .parse true buf) →
    statusStates addr.devId buf = some states →
    ∃ one two next, machine.call cache call = .ok (.objs (some one), next) ∧
      Erdh45.parse addr.devId true buf = .ok (some two) ∧
      ∀ point ∈ points, valueOf one point.1 = valueOf two point.1
  ack : ∀ addr buf states, call = (addr, .parse true buf) →
    ackStates addr.devId buf = some states → ∀ next, Step cache call next → next = cache

/-- A status is answered right when the cache holds it already. -/
theorem status_iff (found : statusStates addr.devId buf = some states) (cache : Cache) :
    (∃ one two next, machine.call cache (addr, .parse true buf) = .ok (.objs (some one), next) ∧
      Erdh45.parse addr.devId true buf = .ok (some two) ∧
      ∀ point ∈ points, valueOf one point.1 = valueOf two point.1) ↔
    cache = bits states := by
  have decoded : machine.decode (addr, .parse true buf) = .ok .readAck := parse_status found
  have called := Sharing.Machine.call_ok decoded cache
  obtain ⟨objs, parsed, values⟩ := erdh45_status found
  have cached : ∀ point ∈ points, valueOf [⟨.ventSwitch, cache .switch, 0⟩,
      ⟨.ventSpeed, cache .speed, 0⟩, ⟨.ventMode, cache .mode, 0⟩] point.1 =
          some (cache point.2) := by
    simp [points, valueOf]
  have all : (∀ point ∈ points, cache point.2 = bits states point.2) ↔ cache = bits states := by
    constructor
    · intro same
      funext point
      cases point
      · exact same (.ventSwitch, .switch) (by simp [points])
      · exact same (.ventSpeed, .speed) (by simp [points])
      · exact same (.ventMode, .mode) (by simp [points])
    · rintro rfl point -
      rfl
  rw [← all]
  constructor
  · rintro ⟨one, two, next, replied, parsed', same⟩ point member
    cases called.symm.trans replied
    cases parsed.symm.trans parsed'
    have value := same point member
    rw [cached point member, values point member] at value
    exact Option.some.inj value
  · intro same
    refine ⟨_, objs, cache, called, parsed, fun point member => ?_⟩
    rw [cached point member, values point member, same point member]

/-- Switch, speed and mode are all zero in what a call receives. -/
def Idle : Call → Prop
  | (addr, .parse true buf) => ∀ states,
      statusStates addr.devId buf = some states ∨ ackStates addr.devId buf = some states →
      states &&& 0x0D = 0
  | _ => True

theorem bits_zero : (∀ point, bits states point = 0) ↔ states &&& 0x0D = 0 := by
  have each : ∀ states : UInt8, (bits states .switch = 0 ∧ bits states .speed = 0 ∧
      bits states .mode = 0) ↔ states &&& 0x0D = 0 := by
    apply forall_byte
    decide +kernel
  rw [← each]
  constructor
  · exact fun zero => ⟨zero .switch, zero .speed, zero .mode⟩
  · rintro ⟨switch, speed, mode⟩ point
    cases point
    · exact switch
    · exact speed
    · exact mode

/-- What the static variables hold at first. -/
def start : Cache := machine.init

/-- A cache that holds nothing is right for a call, and stays, when nothing is on in it. -/
theorem lawful_zero_iff (call : Call) : Lawful start call ↔ Idle call := by
  have zero (states : UInt8) : start = bits states ↔ states &&& 0x0D = 0 := by
    rw [← bits_zero, funext_iff]
    exact forall_congr' fun point => eq_comm
  constructor
  · intro lawful
    match call, lawful with
    | (_, .build ..), _ => trivial
    | (_, .parse false _), _ => trivial
    | (addr, .parse true buf), lawful =>
      rintro states (status | ack)
      · exact (zero states).mp ((status_iff status _).mp (lawful.status addr buf states rfl status))
      · have kept := lawful.ack addr buf states rfl ack _ (step_iff.mpr rfl)
        rw [Call.stored, ack] at kept
        exact (zero states).mp kept.symm
  · intro idle
    refine ⟨?_, ?_⟩
    · rintro addr buf states rfl status
      exact (status_iff status _).mpr ((zero states).mpr (idle states (.inl status)))
    · rintro addr buf states rfl ack next step
      rw [step_iff.mp step, Call.stored, ack]
      exact ((zero states).mpr (idle states (.inr ack))).symm

/-- An idle call leaves a cache that holds nothing. -/
theorem idle_step {call : Call} (idle : Idle call) : Step start call start := by
  rw [step_iff]
  have lawful := (lawful_zero_iff call).mpr idle
  match call, lawful with
  | (_, .build ..), _ => rfl
  | (_, .parse false _), _ => rfl
  | (addr, .parse true buf), lawful =>
    cases ack : ackStates addr.devId buf with
    | none => simp only [Call.stored, ack, Option.elim]
    | some states => exact (lawful.ack addr buf states rfl ack _ (step_iff.mpr rfl)).symm

/-- Along a run both copies tell the same of every status, and no reply to a write is stored over
what was cached. -/
def LawfulRun (calls : List Call) : Prop :=
  ∀ before call after cache, calls = before ++ call :: after →
    Run.Reaches Step start before cache → Lawful cache call

theorem idle_reaches {calls : List Call} {cache : Cache} (idle : ∀ call ∈ calls, Idle call)
    (reached : Run.Reaches Step start calls cache) : cache = start := by
  revert idle
  refine Run.trace_invariant (fun trace cache => (∀ call ∈ trace, Idle call) → cache = start)
    (fun _ => rfl) ?_ reached
  intro trace cache call next ih step idle
  obtain rfl : cache = start := ih fun earlier member => idle earlier (by simp [member])
  have stays := step_iff.mp (idle_step (idle call (by simp)))
  rw [step_iff.mp step, ← stays]

/-- A run that is lawful so far has stored nothing. -/
theorem lawful_reaches {calls : List Call} (lawful : LawfulRun calls) (before rest : List Call)
    (split : calls = before ++ rest) : Run.Reaches Step start before start := by
  induction before using List.reverseRecOn generalizing rest with
  | nil => exact .start
  | append_singleton before call ih =>
    have split : calls = before ++ call :: rest := by simpa using split
    have reached := ih (call :: rest) split
    have idle := (lawful_zero_iff call).mp (lawful before call rest start split reached)
    exact .step reached (idle_step idle)

/-- Both copies agree along a run exactly when neither a status nor a reply to a write in it tells
of anything that is on. -/
theorem status_agrees_iff (calls : List Call) :
    LawfulRun calls ↔ ∀ call ∈ calls, Idle call := by
  constructor
  · intro lawful call member
    obtain ⟨before, after, split⟩ := List.append_of_mem member
    have reached := lawful_reaches lawful before (call :: after) split
    exact (lawful_zero_iff call).mp (lawful before call after start split reached)
  · intro idle before call after cache split reached
    have earlier : ∀ call ∈ before, Idle call :=
      fun call member => idle call (by simp [split, member])
    rw [idle_reaches earlier reached]
    exact (lawful_zero_iff call).mpr (idle call (by simp [split]))

/-- The status of the source's own comment, which tells of a mode, right after the start; and its
reply to a write, where the byte taken for the states is one of the checksum. -/
theorem status_first_differs :
    ¬ LawfulRun [(⟨1, 0⟩, .parse true
        [1, 0x10, 0, 0, 0, 9, 8, 2, 0x3F, 0x36, 0x13, 0, 0, 0xFF, 0, 0xA8, 0xFF])] ∧
      ¬ LawfulRun [(⟨1, 0⟩, .parse true [1, 0x11, 0, 0, 0, 0, 0xFD, 0xC9])] := by
  constructor
  · intro lawful
    have idle := (lawful_zero_iff _).mp (lawful [] _ [] start rfl .start)
    exact absurd (idle 8 (.inl rfl)) (by decide)
  · intro lawful
    have idle := (lawful_zero_iff _).mp (lawful [] _ [] start rfl .start)
    exact absurd (idle 0xFD (.inr rfl)) (by decide)

end HiMaxGateway.Plugin.BroanErdh
