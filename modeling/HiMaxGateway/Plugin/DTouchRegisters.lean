import HiMaxGateway.Lib.Registers
import HiMaxGateway.Plugin.Locate
import HiMaxGateway.Plugin.Vent

/-! The registers of a controller behind `Mbus_Vent_Broan_DTouch.c`: what commands leave in them,
and what is read back. -/
namespace HiMaxGateway.Plugin.DTouch
open CRun Function Registers

abbrev File := UInt16 → UInt16

/-- A word of a frame. -/
def wordOf (high low : UInt8) : UInt16 := (high.toUInt16 <<< 8) + low.toUInt16

/-- The controller stores the value of a write, function 6, of its own. -/
def receive (devId : UInt8) (file : File) : List UInt8 → File
  | [id, code, r1, r0, v1, v0, c1, c0] =>
      if id = devId ∧ code = 6 ∧ crc16 [id, code, r1, r0, v1, v0] = [c1, c0] then
        update file (wordOf r1 r0) (wordOf v1 v0)
      else file
  | _ => file

/-- The registers a read, function 3, asks for, from the first one on. -/
def words (file : File) (first : UInt16) (count : Nat) : List UInt8 :=
  (List.range count).flatMap fun k => htons (file (first + UInt16.ofNat k))

/-- The controller answers a read of its own. -/
def answer (devId : UInt8) (file : File) : List UInt8 → Option (List UInt8)
  | [id, code, r1, r0, n1, n0, c1, c0] =>
      if id = devId ∧ code = 3 ∧ crc16 [id, code, r1, r0, n1, n0] = [c1, c0] then
        let count := (wordOf n1 n0).toNat
        some (withCrc ([id, code, UInt8.ofNat (2 * count)] ++ words file (wordOf r1 r0) count))
      else none
  | _ => none

inductive Point where
  | switch
  | speed
  | mode
  deriving DecidableEq, Repr

/-- On, high or dehumidify, where the value is true. -/
abbrev Command := Write Point Bool

def Point.dpid : Point → UInt8
  | .switch => 39
  | .speed => 28
  | .mode => 101

def Command.dp (cmd : Command) : DpObj := ⟨cmd.place.dpid, if cmd.value then 1 else 0⟩

/-- The file after the frame of a command has gone to the controller. -/
def obey (devId : UInt8) (file : File) (cmd : Command) : File :=
  match build devId (some true) (some cmd.dp) with
  | some frame => receive devId file frame
  | none => file

/-- The objects for the reply to the read. -/
def report (devId : UInt8) (file : File) : Parsed :=
  match (build devId (some true) none).bind (answer devId file) with
  | some reply => parse devId true reply
  | none => pure none

/-- The register `build` writes. -/
def Point.register : Point → UInt16
  | .switch => 1
  | .speed => 3
  | .mode => 2

/-- What it writes there. -/
def Point.code (point : Point) (value : Bool) : UInt16 :=
  match point with
  | .switch => if value then 1 else 0
  | .speed | .mode => if value then 3 else 1

theorem register_injective : Injective Point.register := by
  intro one two same
  cases one <;> cases two <;> simp_all [Point.register]

theorem obey_eq (devId : UInt8) (file : File) (cmd : Command) :
    obey devId file cmd = update file cmd.place.register (cmd.place.code cmd.value) := by
  obtain ⟨point, value⟩ := cmd
  cases point <;> cases value <;> exact if_pos ⟨rfl, rfl, rfl⟩

theorem obey_run (devId : UInt8) (file : File) (cmds : List Command) :
    cmds.foldl (obey devId) file = run file (cmds.map (·.encode Point.register Point.code)) := by
  induction cmds generalizing file with
  | nil => rfl
  | cons cmd rest ih =>
    rw [List.foldl_cons, ih, obey_eq]
    rfl

/-- A register holds the code of the last command for its point. -/
theorem obey_register (devId : UInt8) (file : File) (cmds : List Command) (point : Point) :
    cmds.foldl (obey devId) file point.register =
      ((last cmds point).map point.code).getD (file point.register) := by
  rw [obey_run, run_apply, last_encode register_injective]

/-- Speed and mode are read from the register of each other. -/
theorem report_eq (devId : UInt8) (file : File) :
    report devId file = .ok (some (objs (if (file 1).toUInt8 = 1 then 1 else 0)
      (if (file 2).toUInt8 = 3 then 1 else 0) (if (file 3).toUInt8 = 3 then 1 else 0))) := by
  let reply := withCrc ([devId, 3, 62] ++ words file 1 31)
  have answered : (build devId (some true) none).bind (answer devId file) = some reply :=
    if_pos ⟨rfl, rfl, rfl⟩
  have length : frameLen reply = 67 := rfl
  have found : findFrame devId readCode writeCode 14 14 reply = some 0 :=
    findFrame_start (by omega) (by omega) rfl rfl
  have code : byteAt reply 0 1 = .ok readCode := rfl
  have switch : byteAt reply 0 4 = .ok (file 1).toUInt8 := rfl
  have speed : byteAt reply 0 6 = .ok (file 2).toUInt8 := rfl
  have mode : byteAt reply 0 8 = .ok (file 3).toUInt8 := rfl
  rw [report, answered]
  change parse devId true reply = _
  rw [parse, if_neg (by omega), if_neg (by simp), found]
  simp only [code, switch, speed, mode, bind, Except.bind]
  rfl

/-- The number the cloud has for a value. -/
def number (value : Bool) : UInt32 := if value then 1 else 0

def Point.feature (point : Point) : PointFeature := .ofCode point.dpid.toNat

/-- Each point that was commanded is read back with its last value. -/
def Reported (devId : UInt8) (file : File) (cmds : List Command) : Prop :=
  ∃ objs, report devId (cmds.foldl (obey devId) file) = .ok (some objs) ∧
    ∀ point value, last cmds point = some value → valueOf objs point.feature = some (number value)

/-- What is read from a register that no command has written. -/
def atFirst (file : File) (point : Point) : Bool := (file point.register).toUInt8 = 3

/-- The last speed is as high as the last mode, and where one of them was not commanded its register
held the code of the other from the start. -/
def Masked (file : File) (cmds : List Command) : Prop :=
  (∀ value, last cmds .speed = some value → (last cmds .mode).getD (atFirst file .mode) = value) ∧
    ∀ value, last cmds .mode = some value → (last cmds .speed).getD (atFirst file .speed) = value

theorem valueOf_objs (switch speed mode : UInt32) :
    valueOf (objs switch speed mode) Point.switch.feature = some switch ∧
      valueOf (objs switch speed mode) Point.speed.feature = some speed ∧
      valueOf (objs switch speed mode) Point.mode.feature = some mode :=
  ⟨rfl, rfl, rfl⟩

/-- A speed or a mode as it is read from its own register. -/
theorem level_shown (devId : UInt8) (file : File) (cmds : List Command) (point : Point)
    (level : point ≠ .switch) :
    (if (cmds.foldl (obey devId) file point.register).toUInt8 = 3 then 1 else 0) =
      number ((last cmds point).getD (atFirst file point)) := by
  rw [obey_register]
  cases last cmds point with
  | none =>
    rw [Option.map_none, Option.getD_none, Option.getD_none, number, atFirst]
    simp only [decide_eq_true_eq]
  | some value =>
    cases point with
    | switch => contradiction
    | speed => cases value <;> rfl
    | mode => cases value <;> rfl

theorem switch_shown (devId : UInt8) (file : File) {cmds : List Command}
    (commanded : last cmds .switch = some value) :
    (if (cmds.foldl (obey devId) file Point.switch.register).toUInt8 = 1 then 1 else 0) =
      number value := by
  rw [obey_register, commanded]
  cases value <;> rfl

theorem number_inj {one two : Bool} : some (number one) = some (number two) ↔ one = two := by
  cases one <;> cases two <;> simp [number]

/-- Every command is read back with its last value exactly when speed and mode, which have changed
places between write and read, cannot be told apart. -/
theorem reported_iff (devId : UInt8) (file : File) (cmds : List Command) :
    Reported devId file cmds ↔ Masked file cmds := by
  have reported := report_eq devId (cmds.foldl (obey devId) file)
  have speed : (if (cmds.foldl (obey devId) file 2).toUInt8 = 3 then (1 : UInt32) else 0) = _ :=
    level_shown devId file cmds .mode (by simp)
  have mode : (if (cmds.foldl (obey devId) file 3).toUInt8 = 3 then (1 : UInt32) else 0) = _ :=
    level_shown devId file cmds .speed (by simp)
  rw [speed, mode] at reported
  obtain ⟨switchObj, speedObj, modeObj⟩ := valueOf_objs
    (if (cmds.foldl (obey devId) file 1).toUInt8 = 1 then 1 else 0)
    (number ((last cmds .mode).getD (atFirst file .mode)))
    (number ((last cmds .speed).getD (atFirst file .speed)))
  constructor
  · rintro ⟨objs, returned, values⟩
    cases reported.symm.trans returned
    refine ⟨fun value commanded => ?_, fun value commanded => ?_⟩
    · exact number_inj.mp (speedObj.symm.trans (values .speed value commanded))
    · exact number_inj.mp (modeObj.symm.trans (values .mode value commanded))
  · rintro ⟨sameSpeed, sameMode⟩
    refine ⟨_, reported, fun point value commanded => ?_⟩
    cases point with
    | switch => rw [switchObj, ← switch_shown devId file commanded, Point.register]
    | speed => rw [speedObj, sameSpeed value commanded]
    | mode => rw [modeObj, sameMode value commanded]

/-- A high speed in fresh air. -/
theorem high_speed_lost : ¬ Reported 1 (fun _ => 0) [⟨.mode, false⟩, ⟨.speed, true⟩] := by
  rintro ⟨objs, returned, values⟩
  rw [report_eq] at returned
  cases returned
  exact absurd (values .speed true rfl) (by decide +kernel)

end HiMaxGateway.Plugin.DTouch
