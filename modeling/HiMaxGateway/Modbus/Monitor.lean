import HiMaxGateway.Lib.Run
import HiMaxGateway.Modbus.Lookup
import HiMaxGateway.Modbus.Receive

/-! `ModbusDevMonitor`: a report from the queue is looked up, compared with what was
passed on last for its point, and passed on to the associated KNX device or not. -/
namespace HiMaxGateway.Modbus
open CText CRun Function

/-- The device classes of the monitor; all others are refused. -/
inductive PrimaryType where
  | airCondition
  | ventilation
  | floorHeating
  | aqi
  | humidifier
  | purifier
  | curtain
  | pannel
  | unsupported
  deriving DecidableEq, Repr

/-- The point members of the device structures. -/
inductive Slot where
  | pSwitch
  | pSpeed
  | pMode
  | pTemp
  | pEnvTemp
  | pErrorCode
  | pHumi
  | pPM25
  | pCO2
  | pHumidity
  | pFlow
  | pTDS
  | pFilterTime
  | pReset
  deriving DecidableEq, Repr

/-- The points of a class, in the order in which a report is compared with them. -/
def PrimaryType.slots : PrimaryType → List Slot
  | .airCondition => [.pSwitch, .pSpeed, .pMode, .pTemp, .pEnvTemp, .pErrorCode]
  | .ventilation => [.pSwitch, .pSpeed]
  | .floorHeating => [.pSwitch, .pTemp, .pEnvTemp]
  | .aqi => [.pHumi, .pTemp, .pPM25, .pCO2]
  | .humidifier => [.pHumidity, .pSwitch]
  | .purifier => [.pFlow, .pTDS, .pFilterTime, .pReset]
  | .curtain => [.pSwitch]
  | .pannel => [.pSwitch]
  | .unsupported => []

/-- `bReport`: some points are not reported to the cloud. -/
def bReport : PrimaryType → Slot → Bool
  | .airCondition, .pEnvTemp | .floorHeating, .pEnvTemp | .aqi, .pPM25 | .aqi, .pCO2 => false
  | _, _ => true

/-- The fields of `MbusObj_t` that the configuration sets. -/
structure PointCfg where
  localPoint : PointFeature
  cloudPoint : UInt8
  type : UInt8
  deriving DecidableEq, Repr

/-- The fields of `MbusObj_t` that the monitor changes. -/
structure PointState where
  value : UInt32
  valueOld : UInt32
  forceSync : Nat
  deriving DecidableEq, Repr

/-- As every configuration parser leaves it. -/
def PointState.init : PointState := ⟨0, 0xFFFFFFFF, 0⟩

structure MonitorDev where
  element : DeviceElement
  primaryType : PrimaryType
  /-- The points whose pointers are set. -/
  points : Slot → Option PointCfg
  /-- The primary key of the associated KNX device. -/
  pvForeignKey : Option Text := none

/-- A device of the list and one of its points. -/
abbrev Place := Nat × Slot

abbrev PointMem := Place → PointState

def MBUS_FORCE_SYNC_NUM : Nat := 3

/-- The comparison all points share; true when the report is passed on. `forceSync` counts up
only when the values are equal, also when it has reached its limit. -/
def PointState.receive (point : PointState) (value : UInt32) : PointState × Bool :=
  let point := { point with value := value }
  if point.valueOld = point.value then
    let before := point.forceSync
    let point := { point with forceSync := point.forceSync + 1 }
    if before < MBUS_FORCE_SYNC_NUM then (point, false)
    else ({ point with forceSync := 0, valueOld := point.value }, true)
  else ({ point with forceSync := 0, valueOld := point.value }, true)

inductive TyValue where
  | number (value : UInt32)
  | text (first second : UInt8)
  deriving DecidableEq, Repr

structure TyObj where
  dpid : UInt8
  type : UInt8
  value : TyValue
  deriving DecidableEq, Repr

def PROP_STR : UInt8 := 2

/-- The error code goes out as two characters. -/
def tyObj (slot : Slot) (cfg : PointCfg) (value : UInt32) : TyObj :=
  match slot with
  | .pErrorCode => ⟨cfg.cloudPoint, PROP_STR, .text (value >>> 8).toUInt8 (value &&& 0xFF).toUInt8⟩
  | _ => ⟨cfg.cloudPoint, cfg.type, .number value⟩

/-- What the cloud side answers during a report. -/
structure Cloud where
  g_bActive : Bool
  /-- `tuya_user_iot_misc_dev_desc_get` finds the device. -/
  described : Text → Bool

inductive MonitorEv where
  | knxGroupWrite (key : Text) (obj : TyObj)
  | report (key : Text) (obj : TyObj)
  | hbFresh (key : Text)
  deriving DecidableEq, Repr

/-- The point a report is for. -/
inductive Target where
  /-- The id cannot be read: the thread returns. -/
  | leaves
  | skipped
  | point (place : Place) (dev : MonitorDev) (cfg : PointCfg)

/-- The first point of the class with the feature of the report. -/
def findPoint (points : Slot → Option PointCfg) (localPoint : PointFeature) :
    List Slot → Result (Option (Slot × PointCfg))
  | [] => pure none
  | slot :: rest =>
      match points slot with
      | none => .error .nullPointer
      | some cfg =>
          if localPoint = cfg.localPoint then pure (some (slot, cfg))
          else findPoint points localPoint rest

def target (devs : List MonitorDev) (report : Report) : Result Target :=
  if report.pPrimaryKey.length < macLength then .error .outOfBounds
  else
    match suffixId report.pPrimaryKey with
    | none => pure .leaves
    | some devId =>
        match devs.zipIdx.find? (·.1.element.devId == devId) with
        | none => pure .skipped
        | some (dev, i) =>
            if !dev.element.bMaster then pure .skipped
            else do
              match ← findPoint dev.points report.localPoint dev.primaryType.slots with
              | none => pure .skipped
              | some (slot, cfg) => pure (.point (i, slot) dev cfg)

/-- What the monitor sends for a report. -/
def monitorEvs (cloud : Cloud) (dev : MonitorDev) (slot : Slot) (cfg : PointCfg) (report : Report)
    (forwarded : Bool) : List MonitorEv :=
  let obj := tyObj slot cfg report.value
  let knx :=
    match dev.pvForeignKey with
    | some key => if forwarded && dev.element.bMaster then [.knxGroupWrite key obj] else []
    | none => []
  let heartbeat :=
    if dev.element.bMaster && cloud.g_bActive && cloud.described dev.element.pPrimaryKey then
      (if bReport dev.primaryType slot then [.report report.pPrimaryKey obj] else []) ++
        [.hbFresh report.pPrimaryKey]
    else []
  knx ++ heartbeat

/-- How a report was taken. -/
inductive Handled where
  | skipped
  | taken (place : Place) (value : UInt32) (forwarded : Bool) (evs : List MonitorEv)
  deriving DecidableEq, Repr

/-- One report; no result when the thread leaves its loop. -/
def handleReport (devs : List MonitorDev) (cloud : Cloud) (mem : PointMem) (report : Report) :
    Result (Option (Handled × PointMem)) := do
  match ← target devs report with
  | .leaves => pure none
  | .skipped => pure (some (.skipped, mem))
  | .point place dev cfg =>
      let (point, forwarded) := (mem place).receive report.value
      pure (some (.taken place report.value forwarded
        (monitorEvs cloud dev place.2 cfg report forwarded), update mem place point))

/-- A report that came in, and what became of it. -/
structure Taking where
  cloud : Cloud
  report : Report
  handled : Handled

/-- The loop of `ModbusDevMonitor`. -/
def MonitorStep (devs : List MonitorDev) (mem : PointMem) (taking : Taking) (mem' : PointMem) :
    Prop :=
  handleReport devs taking.cloud mem taking.report = .ok (some (taking.handled, mem'))

end HiMaxGateway.Modbus
