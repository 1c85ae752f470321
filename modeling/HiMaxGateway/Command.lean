import HiMaxGateway.Knx.Report
import HiMaxGateway.Lib.Fault

/-! `_dev_obj_cmd_cb` of `main.c`: the data points of a command from the cloud are executed one
after the other. -/
namespace HiMaxGateway.Command
open CText CRun Walk Knx

/-- `DEV_TP_*`; the other types are not supported. -/
inductive DevTp where
  | zigbee
  | rs485
  | knx
  | rf433
  | other
  deriving DecidableEq, Repr

structure KnxScene where
  remap : Int
  addr : Text
  value : Nat
  deriving DecidableEq, Repr

/-- `ParseZ3Cfg` leaves the key of a Zigbee device null. -/
structure Z3Dev where
  pPrimaryKey : Option Text := none
  deriving DecidableEq, Repr

/-- What comes of the frame of a data point. The list node is cast to `Z3Dev_t` instead of its
value, so the memory behind the node decides whether there is anything to call. -/
inductive Radio where
  | wild
  | idle
  | sent
  | failed
  deriving DecidableEq, Repr

structure Env where
  /-- `tuya_user_iot_misc_dev_desc_get`: the type of a bound device. -/
  desc : Text → Option DevTp
  scenes : Nodes KnxScene
  z3 : Nodes Z3Dev
  radio : Text → DpObj → Radio

inductive Act where
  | report (cid : Text) (obj : DpObj)
  | resetGw
  | knxWrite1Byte (addr : Text) (value : Nat)
  | zigSend (cid : Text) (obj : DpObj)
  | modbusDevWrite (cid : Text) (obj : DpObj)
  | knxGroupWrite (cid : Text) (obj : DpObj)
  deriving DecidableEq, Repr

/-- The echo to the cloud executes nothing. -/
def Act.executes : Act → Bool
  | .report _ _ => false
  | _ => true

/-- `listSearchKey` with `KnxSceneIdMatch`. -/
def scene (env : Env) (id : Int) : Option KnxScene :=
  env.scenes.findSome? fun node => node.bind fun s => if s.remap = id then some s else none

/-- `listSearchKey` with `Z3DevIdMatch`: `strcmp` is given the key of each device. -/
def searchZ3 (cid : Text) : Nodes Z3Dev → Result (Option Z3Dev)
  | [] => .ok none
  | none :: rest => searchZ3 cid rest
  | some dev :: rest =>
      match dev.pPrimaryKey with
      | none => .error .nullPointer
      | some key => if key = cid then .ok (some dev) else searchZ3 cid rest

/-- A data point for the gateway itself; 4, 32 and 45 are only logged, like unknown ones. -/
def gatewayPoint (env : Env) (dp : DpObj) : Visit DpObj Act :=
  if dp.dpid = 34 then { value := dp, acts := [.resetGw] }
  else if dp.dpid = 101 then
    match scene env dp.value with
    | none => { flow := .stop, value := dp }
    | some s => { value := dp, acts := [.knxWrite1Byte s.addr s.value] }
  else { value := dp }

def zigbeePoint (env : Env) (cid : Text) (dp : DpObj) : Visit DpObj Act :=
  match searchZ3 cid env.z3 with
  | .error _ => { flow := .crash, value := dp, acts := [.report cid dp] }
  | .ok none => { flow := .stop, value := dp, acts := [.report cid dp] }
  | .ok (some _) =>
      match env.radio cid dp with
      | .wild => { flow := .crash, value := dp, acts := [.report cid dp] }
      | .idle => { value := dp, acts := [.report cid dp] }
      | .sent => { value := dp, acts := [.report cid dp, .zigSend cid dp] }
      | .failed => { flow := .stop, value := dp, acts := [.report cid dp] }

/-- The results of the bus functions are not looked at. -/
def devicePoint (env : Env) (cid : Text) (dp : DpObj) : Visit DpObj Act :=
  match env.desc cid with
  | none => { flow := .stop, value := dp }
  | some .zigbee => zigbeePoint env cid dp
  | some .rs485 => { value := dp, acts := [.report cid dp, .modbusDevWrite cid dp] }
  | some .knx => { value := dp, acts := [.report cid dp, .knxGroupWrite cid dp] }
  | some .rf433 | some .other => { value := dp, acts := [.report cid dp] }

def cmdPoint (env : Env) (cid : Option Text) (dp : DpObj) : Visit DpObj Act :=
  match cid with
  | none => gatewayPoint env dp
  | some cid => devicePoint env cid dp

/-- The callback; it is left by `return -1` where a visit stops. -/
def devObjCmdCb (env : Env) (cid : Option Text) (dps : List DpObj) :
    Flow × List (DpObj × List Act) :=
  walk (cmdPoint env cid) dps

def executed (env : Env) (cid : Option Text) (dps : List DpObj) : List DpObj :=
  ((devObjCmdCb env cid dps).2.filter (·.2.any Act.executes)).map (·.1)

-- Which data points can be executed, which end the loop.

def Executable (env : Env) (cid : Option Text) (dp : DpObj) : Prop :=
  match cid with
  | none => dp.dpid = 34 ∨ dp.dpid = 101 ∧ (scene env dp.value).isSome = true
  | some cid =>
      env.desc cid = some .rs485 ∨ env.desc cid = some .knx ∨
        env.desc cid = some .zigbee ∧ (∃ dev, searchZ3 cid env.z3 = .ok (some dev)) ∧
          env.radio cid dp = .sent

/-- An unknown scene, device or Zigbee device, or a frame that cannot be sent. -/
def Refused (env : Env) (cid : Option Text) (dp : DpObj) : Prop :=
  match cid with
  | none => dp.dpid = 101 ∧ scene env dp.value = none
  | some cid =>
      env.desc cid = none ∨ env.desc cid = some .zigbee ∧
        (searchZ3 cid env.z3 = .ok none ∨
          (∃ dev, searchZ3 cid env.z3 = .ok (some dev)) ∧ env.radio cid dp = .failed)

/-- A Zigbee device without a key stands before the one looked for, or that one is found and the
memory behind its node leads astray. -/
def Astray (env : Env) (cid : Option Text) (dp : DpObj) : Prop :=
  ∃ id, cid = some id ∧ env.desc id = some .zigbee ∧
    ((∃ fault, searchZ3 id env.z3 = .error fault) ∨
      (∃ dev, searchZ3 id env.z3 = .ok (some dev)) ∧ env.radio id dp = .wild)

/-- What one data point does to the loop. -/
structure PointSpec (env : Env) (cid : Option Text) (dp : DpObj) (visit : Visit DpObj Act) :
    Prop where
  value : visit.value = dp
  executes : visit.acts.any Act.executes = true ↔ Executable env cid dp
  stop : visit.flow = .stop ↔ Refused env cid dp
  crash : visit.flow = .crash ↔ Astray env cid dp
  idle : visit.flow ≠ .next → visit.acts.any Act.executes = false

section

variable {env : Env} {cid : Option Text} {dps : List DpObj}

theorem gatewayPoint_spec (dp : DpObj) : PointSpec env none dp (gatewayPoint env dp) := by
  rw [gatewayPoint]
  split
  · rename_i reset
    constructor <;> simp [Act.executes, Executable, Refused, Astray, reset]
  · split
    · rename_i reset isScene
      cases found : scene env dp.value <;> constructor <;>
        simp [Act.executes, Executable, Refused, Astray, isScene, found]
    · rename_i reset other
      constructor <;> simp [Executable, Refused, Astray, reset, other]

theorem zigbeePoint_spec {id : Text} (type : env.desc id = some .zigbee) (dp : DpObj) :
    PointSpec env (some id) dp (zigbeePoint env id dp) := by
  rw [zigbeePoint]
  cases search : searchZ3 id env.z3 with
  | error fault =>
    constructor <;> simp [Act.executes, Executable, Refused, Astray, type, search]
  | ok found =>
    cases found with
    | none => constructor <;> simp [Act.executes, Executable, Refused, Astray, type, search]
    | some dev =>
      cases radio : env.radio id dp <;> constructor <;>
        simp [Act.executes, Executable, Refused, Astray, type, search, radio]

theorem cmdPoint_spec (dp : DpObj) : PointSpec env cid dp (cmdPoint env cid dp) := by
  cases cid with
  | none => exact gatewayPoint_spec dp
  | some id =>
    rw [cmdPoint, devicePoint]
    cases type : env.desc id with
    | none => constructor <;> simp [Executable, Refused, Astray, type]
    | some tp =>
      cases tp with
      | zigbee => exact zigbeePoint_spec type dp
      | rs485 | knx | rf433 | other =>
        constructor <;> simp [Act.executes, Executable, Refused, Astray, type]

instance (dp : DpObj) : Decidable (Executable env cid dp) :=
  decidable_of_iff _ (cmdPoint_spec dp).executes

theorem executed_next {dp : DpObj} (next : (cmdPoint env cid dp).flow = .next) (rest : List DpObj) :
    executed env cid (dp :: rest) =
      (if Executable env cid dp then [dp] else []) ++ executed env cid rest := by
  have spec := @cmdPoint_spec env cid dp
  rw [executed, devObjCmdCb, walk_cons_next _ next, ← if_congr spec.executes rfl rfl]
  cases acts : (cmdPoint env cid dp).acts.any Act.executes <;>
    simp [acts, spec.value, executed, devObjCmdCb]

theorem executed_left {dp : DpObj} (left : (cmdPoint env cid dp).flow ≠ .next) (rest : List DpObj) :
    executed env cid (dp :: rest) = [] := by
  have idle := (@cmdPoint_spec env cid dp).idle left
  rw [executed, devObjCmdCb, walk_cons_left _ left]
  simp [idle, List.filter_map, Function.comp_def]

theorem flow_next_iff (dp : DpObj) : (cmdPoint env cid dp).flow = .next ↔
    ¬ Refused env cid dp ∧ ¬ Astray env cid dp := by
  have spec := @cmdPoint_spec env cid dp
  rw [← spec.stop, ← spec.crash]
  cases (cmdPoint env cid dp).flow <;> simp

theorem executed_of_passes (passes : ∀ dp ∈ dps, (cmdPoint env cid dp).flow = .next) :
    executed env cid dps = dps.filter (Executable env cid ·) := by
  induction dps with
  | nil => rfl
  | cons dp rest ih =>
    rw [executed_next (passes dp (by simp)), ih fun d member => passes d (by simp [member])]
    by_cases executable : Executable env cid dp <;> simp [executable]

theorem executed_of_idle (idle : ∀ dp ∈ dps, ¬ Executable env cid dp) :
    executed env cid dps = [] := by
  induction dps with
  | nil => rfl
  | cons dp rest ih =>
    by_cases next : (cmdPoint env cid dp).flow = .next
    · rw [executed_next next, ih fun d member => idle d (by simp [member])]
      simp [idle dp (by simp)]
    · exact executed_left next rest

end

/-- In whatever order the data points stand, the callback survives and the data points it executes
are those that can be executed. -/
def OrderFree (env : Env) (cid : Option Text) (dps : List DpObj) : Prop :=
  ∀ order, order.Perm dps → (devObjCmdCb env cid order).1 ≠ .crash ∧
    executed env cid order = order.filter (Executable env cid ·)

/-- The order of the data points does not matter exactly when none leads the Zigbee branch astray,
and none is refused or none can be executed. -/
theorem order_free_iff (env : Env) (cid : Option Text) (dps : List DpObj) :
    OrderFree env cid dps ↔
      (∀ dp ∈ dps, ¬ Astray env cid dp) ∧
        ((∀ dp ∈ dps, ¬ Refused env cid dp) ∨ ∀ dp ∈ dps, ¬ Executable env cid dp) := by
  constructor
  · intro free
    have safe : ∀ dp ∈ dps, ¬ Astray env cid dp := by
      intro dp member astray
      have first := free (dp :: dps.erase dp) (List.perm_cons_erase member).symm
      have crash := (cmdPoint_spec dp).crash.mpr astray
      rw [devObjCmdCb, walk_cons_left _ (by simp [crash])] at first
      exact first.1 crash
    refine ⟨safe, ?_⟩
    by_contra mixed
    push Not at mixed
    obtain ⟨⟨refused, member, stops⟩, point, there, executable⟩ := mixed
    -- The refused data point is put first.
    have order := (List.perm_cons_erase member).symm
    have stop := (cmdPoint_spec refused).stop.mpr stops
    have all := (free (refused :: dps.erase refused) order).2
    rw [executed_left (by simp [stop])] at all
    have hidden : point ∈ (refused :: dps.erase refused).filter (Executable env cid ·) := by
      simpa [executable] using order.mem_iff.mpr there
    rw [← all] at hidden
    simp at hidden
  · rintro ⟨safe, passes⟩ order perm
    have safe : ∀ dp ∈ order, ¬ Astray env cid dp :=
      fun dp member => safe dp (perm.mem_iff.mp member)
    refine ⟨?_, ?_⟩
    · apply walk_safe
      intro dp member crash
      exact safe dp member ((cmdPoint_spec dp).crash.mp crash)
    rcases passes with passes | idle
    · apply executed_of_passes
      intro dp member
      exact (flow_next_iff dp).mpr ⟨passes dp (perm.mem_iff.mp member), safe dp member⟩
    · have idle : ∀ dp ∈ order, ¬ Executable env cid dp :=
        fun dp member => idle dp (perm.mem_iff.mp member)
      rw [executed_of_idle idle, eq_comm, List.filter_eq_nil_iff]
      simpa using idle

/-- Two scene commands, of which the first names a scene that is not configured. -/
def houseEnv : Env where
  desc := fun _ => none
  scenes := [some ⟨1, "0/0/1".toList, 5⟩]
  z3 := []
  radio := fun _ _ => .sent

theorem unknown_scene_hides_scene :
    executed houseEnv none [{ dpid := 101, value := 1 }, { dpid := 101, value := 2 }] =
        [{ dpid := 101, value := 1 }] ∧
      executed houseEnv none [{ dpid := 101, value := 2 }, { dpid := 101, value := 1 }] = [] ∧
      ¬ OrderFree houseEnv none [{ dpid := 101, value := 1 }, { dpid := 101, value := 2 }] := by
  refine ⟨by decide, by decide, ?_⟩
  intro free
  have swapped := (free [{ dpid := 101, value := 2 }, { dpid := 101, value := 1 }]
    (List.Perm.swap _ _ _)).2
  exact absurd swapped (by decide)

end HiMaxGateway.Command
