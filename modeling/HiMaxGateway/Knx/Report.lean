import HiMaxGateway.Device
import HiMaxGateway.Knx.Address
import HiMaxGateway.Lib.Walk

/-! The report handlers of `knxHandle.c`: a telegram from the bus is stored in
the devices that listen to its group, reported to the cloud or passed on to the
associated Modbus device. -/
namespace HiMaxGateway.Knx
open CText Walk

inductive PropType where
  | bool
  | value
  | str
  | enum
  | bitmap
  deriving DecidableEq, Repr

/-- `TY_OBJ_DP_S` after `memset`; the union is the number it holds. -/
structure DpObj where
  dpid : Nat := 0
  type : PropType := .bool
  value : Int := 0
  deriving DecidableEq, Repr

/-- The status objects of the climate devices. -/
inductive Slot where
  | switchStatus
  | speedStatus
  | modeStatus
  | tempStatus
  | envTemp
  | valve
  | errorCode
  deriving DecidableEq, Repr

structure KnxObj where
  localPoint : Slot
  addr : Text
  cloudPoint : Nat
  value : Nat := 0
  timestamp : Nat := 0
  deriving DecidableEq, Repr

/-- `KnxPoints_t`: `pGroup` shares its place with `pCtrl`, `pFeedback` with `pStatus`. -/
structure KnxPoint where
  id : Nat
  pGroup : Option Text := none
  pFeedback : Option Text := none
  value : Nat := 0
  max : Nat := 0
  timestamp : Nat := 0
  deriving DecidableEq, Repr

structure DimmerPoint where
  key : KnxPoint
  bright : KnxPoint
  deriving DecidableEq, Repr

inductive Climate where
  | acd
  | vent
  | heat
  deriving DecidableEq, Repr

/-- The structure behind a list node; `primaryType` is taken to identify it, as it does for panels
of up to eight keys and for dimmers and smart panels of up to four channels. -/
inductive Body where
  | climate (kind : Climate) (objs : Slot → Option KnxObj)
  | panel (keys : List KnxPoint)
  | smartPanel (keys : List KnxPoint)
  | dimmer (chl : List DimmerPoint)
  | curtain (pOpen pClose pStop : Option KnxPoint)

structure KnxDevice where
  element : DeviceElement
  /-- `pvForeignKey`: the primary key of the associated Modbus device. -/
  foreign : Option Text := none
  /-- `pIf->report`; the plugins keep no state of their own. -/
  report : Option (KnxObj → DpObj → DpObj) := none
  body : Body

structure Telegram where
  groupAddr : Text
  value : Nat
  bRejected : Bool := false
  deriving DecidableEq, Repr

/-- What a handler reads besides the list and the telegram. -/
structure Env where
  bActive : Bool
  bound : Text → Bool
  ts : Nat

inductive Act where
  | report (key : Text) (obj : DpObj)
  | hbFresh (key : Text)
  | modbusDevWrite (key : Text) (obj : DpObj)
  | knxGroupWrite (addr : Text) (obj : DpObj)
  deriving DecidableEq, Repr

def listens (addr : Option Text) (telegram : Telegram) : Bool :=
  match addr with
  | some addr => knxCompareGroup addr telegram.groupAddr
  | none => false

/-- A report to the cloud with the heartbeat that follows it. -/
def cloudReport (env : Env) (key : Text) (obj : DpObj) : List Act :=
  if env.bActive then [.report key obj, .hbFresh key] else []

def unboundMaster (env : Env) (dev : KnxDevice) : Bool :=
  dev.element.bMaster && !env.bound dev.element.pPrimaryKey

/-- What the branch of a status object does besides storing the value: stamp the
object, copy the value into the report, mark it as read only. -/
structure Rule where
  slot : Slot
  stamps : Bool := true
  copies : Bool := true
  bFlag : Bool := false

/-- The branches in the order of the source. -/
def Climate.rules : Climate → List Rule
  | .acd =>
      [⟨.switchStatus, true, true, false⟩, ⟨.speedStatus, true, true, false⟩,
        ⟨.modeStatus, true, true, false⟩, ⟨.tempStatus, true, true, false⟩,
        ⟨.envTemp, true, true, true⟩, ⟨.errorCode, false, false, true⟩]
  | .vent =>
      [⟨.switchStatus, true, true, false⟩, ⟨.speedStatus, true, true, false⟩,
        ⟨.errorCode, false, false, true⟩, ⟨.envTemp, false, true, true⟩]
  | .heat =>
      [⟨.switchStatus, true, false, false⟩, ⟨.tempStatus, true, false, false⟩,
        ⟨.envTemp, false, false, false⟩, ⟨.valve, false, false, false⟩,
        ⟨.errorCode, false, false, false⟩]

structure Hit where
  rule : Rule
  obj : KnxObj

def hit (objs : Slot → Option KnxObj) (telegram : Telegram) (rules : List Rule) : Option Hit :=
  rules.findSome? fun rule =>
    match objs rule.slot with
    | some obj => if knxCompareGroup obj.addr telegram.groupAddr then some ⟨rule, obj⟩ else none
    | none => none

def Hit.stored (h : Hit) (env : Env) (telegram : Telegram) : KnxObj :=
  { h.obj with
    value := telegram.value
    timestamp := if h.rule.stamps then env.ts else h.obj.timestamp }

def Hit.dpObj (h : Hit) (telegram : Telegram) : DpObj :=
  { dpid := h.obj.cloudPoint % 256, value := if h.rule.copies then telegram.value else 0 }

def store (dev : KnxDevice) (kind : Climate) (objs : Slot → Option KnxObj) (slot : Slot)
    (obj : KnxObj) : KnxDevice :=
  { dev with body := .climate kind fun s => if s = slot then some obj else objs s }

/-- The common part of `Knx_AcdReport` and `Knx_VentReport` after the tests of
type and binding. -/
def climateVisit (kind : Climate) (objs : Slot → Option KnxObj) (env : Env) (telegram : Telegram)
    (dev : KnxDevice) : Visit KnxDevice Act :=
  match hit objs telegram kind.rules with
  | none => { value := dev }
  | some h =>
      let value := store dev kind objs h.rule.slot (h.stored env telegram)
      match dev.report with
      | none => { value }
      | some report =>
          let obj := report (h.stored env telegram) (h.dpObj telegram)
          if dev.element.bMaster then { value, acts := cloudReport env dev.element.pPrimaryKey obj }
          else if !h.rule.bFlag then
            match dev.foreign with
            | none => { flow := .crash, value }
            | some key => { value, acts := [.modbusDevWrite key obj] }
          else if env.bActive then
            match dev.foreign with
            | none => { flow := .crash, value }
            | some key => { value, acts := if env.bound key then [.report key obj] else [] }
          else { value }

def knxAcdReport (env : Env) (telegram : Telegram) (dev : KnxDevice) : Visit KnxDevice Act :=
  match dev.body with
  | .climate .acd objs =>
      if unboundMaster env dev then { flow := .stop, value := dev }
      else climateVisit .acd objs env telegram dev
  | _ => { value := dev }

def knxVentReport (env : Env) (telegram : Telegram) (dev : KnxDevice) : Visit KnxDevice Act :=
  match dev.body with
  | .climate .vent objs =>
      if unboundMaster env dev then { value := dev } else climateVisit .vent objs env telegram dev
  | _ => { value := dev }

/-- The plugin is called without a test. -/
def heatVisit (objs : Slot → Option KnxObj) (env : Env) (telegram : Telegram) (dev : KnxDevice) :
    Visit KnxDevice Act :=
  match hit objs telegram Climate.heat.rules with
  | none => { value := dev }
  | some h =>
      let value := store dev .heat objs h.rule.slot (h.stored env telegram)
      match dev.report with
      | none => { flow := .crash, value }
      | some report =>
          let obj := report (h.stored env telegram) (h.dpObj telegram)
          { value
            acts := if dev.element.bMaster then cloudReport env dev.element.pPrimaryKey obj
              else [] }

def knxHeatReport (env : Env) (telegram : Telegram) (dev : KnxDevice) : Visit KnxDevice Act :=
  match dev.body with
  | .climate .heat objs =>
      if unboundMaster env dev then { flow := .stop, value := dev }
      else if telegram.bRejected && dev.element.attri == .controller then { value := dev }
      else heatVisit objs env telegram dev
  | _ => { value := dev }

def boolValue (value : Nat) : Nat := if value = 0 then 0 else 1

def keyStored (env : Env) (telegram : Telegram) (key : KnxPoint) : KnxPoint :=
  { key with value := boolValue telegram.value, timestamp := env.ts }

/-- A controller passes the key on as a curtain command. -/
def panelKey (env : Env) (telegram : Telegram) (dev : KnxDevice) (key : KnxPoint) :
    Visit KnxPoint Act :=
  if listens key.pFeedback telegram then
    let value := keyStored env telegram key
    if dev.element.bMaster then
      let obj := { dpid := key.id % 256, type := .bool, value := telegram.value }
      { value, acts := cloudReport env dev.element.pPrimaryKey obj }
    else
      match dev.foreign with
      | none => { flow := .crash, value }
      | some foreign =>
          let obj :=
            { dpid := key.id % 256, type := .bool, value := if telegram.value = 0 then 2 else 0 }
          { value, acts := [.modbusDevWrite foreign obj] }
  else { value := key }

/-- The binding is tested before the type. -/
def knxPanelReport (env : Env) (telegram : Telegram) (dev : KnxDevice) : Visit KnxDevice Act :=
  if unboundMaster env dev then { flow := .stop, value := dev }
  else
    match dev.body with
    | .panel keys =>
        innerWalk (panelKey env telegram dev) (fun keys => { dev with body := .panel keys }) keys
    | _ => { value := dev }

def smartPanelKey (env : Env) (telegram : Telegram) (dev : KnxDevice) (key : KnxPoint) :
    Visit KnxPoint Act :=
  if listens key.pFeedback telegram then
    let obj := { dpid := key.id % 256, type := .bool, value := telegram.value }
    { value := keyStored env telegram key, acts := cloudReport env dev.element.pPrimaryKey obj }
  else { value := key }

def knxSmartPanelReport (env : Env) (telegram : Telegram) (dev : KnxDevice) :
    Visit KnxDevice Act :=
  if unboundMaster env dev then { flow := .stop, value := dev }
  else
    match dev.body with
    | .smartPanel keys =>
        innerWalk (smartPanelKey env telegram dev)
          (fun keys => { dev with body := .smartPanel keys }) keys
    | _ => { value := dev }

/-- `(uint16_t) (value * max / 255.0)`: the product is an `int`, the quotient is cut. -/
def brightness (value max : Nat) : Nat :=
  let product : Int := ((value * max : Nat) + 2 ^ 31) % 2 ^ 32 - 2 ^ 31
  (product.tdiv 255 % 2 ^ 16).toNat

/-- The second half of a channel's visit. -/
def dimmerKey (env : Env) (telegram : Telegram) (dev : KnxDevice) (chl : DimmerPoint) :
    Visit DimmerPoint Act :=
  if listens chl.key.pFeedback telegram then
    let obj : DpObj := { dpid := chl.key.id % 256, type := .bool, value := telegram.value }
    if telegram.bRejected then
      match chl.bright.pFeedback with
      | none => { flow := .crash, value := chl }
      | some addr => { flow := .stop, value := chl, acts := [.knxGroupWrite addr obj] }
    else
      let value := { chl with key := { chl.key with value := boolValue telegram.value } }
      if dev.element.attri = .actuator then
        if env.bActive then
          { flow := .stop, value, acts := cloudReport env dev.element.pPrimaryKey obj }
        else { value }
      else { value }
  else { value := chl }

def dimmerChannel (env : Env) (telegram : Telegram) (dev : KnxDevice) (chl : DimmerPoint) :
    Visit DimmerPoint Act :=
  if listens chl.bright.pFeedback telegram then
    let u16 := brightness telegram.value chl.bright.max
    let value := { chl with bright := { chl.bright with value := u16 } }
    let obj : DpObj := { dpid := chl.bright.id % 256, type := .value, value := u16 }
    if dev.element.attri = .actuator then
      if env.bActive then
        { flow := .stop, value, acts := cloudReport env dev.element.pPrimaryKey obj }
      else { value }
    else dimmerKey env telegram dev value
  else dimmerKey env telegram dev chl

def knxDimmerReport (env : Env) (telegram : Telegram) (dev : KnxDevice) : Visit KnxDevice Act :=
  if unboundMaster env dev then { flow := .stop, value := dev }
  else
    match dev.body with
    | .dimmer chl =>
        innerWalk (dimmerChannel env telegram dev) (fun chl => { dev with body := .dimmer chl }) chl
    | _ => { value := dev }

/-- One of the three points of a curtain: the stored point and the object so far. -/
def curtainPoint (telegram : Telegram) (accepts : Bool) (action : Int) (point : Option KnxPoint)
    (obj : DpObj) : Option KnxPoint × DpObj :=
  match point with
  | none => (none, obj)
  | some p =>
      if listens p.pGroup telegram && accepts then
        (some { p with value := telegram.value }, { obj with dpid := p.id % 256, value := action })
      else (some p, obj)

structure CurtainStep where
  pOpen : Option KnxPoint
  pClose : Option KnxPoint
  pStop : Option KnxPoint
  obj : DpObj

/-- The type set before `memset` is lost: the object goes out as a bool. -/
def curtainStep (telegram : Telegram) (pOpen pClose pStop : Option KnxPoint) : CurtainStep :=
  let (pOpen, obj) := curtainPoint telegram (telegram.value = 1) 0 pOpen {}
  let (pClose, obj) := curtainPoint telegram (telegram.value = 0) 2 pClose obj
  let (pStop, obj) := curtainPoint telegram true 1 pStop obj
  ⟨pOpen, pClose, pStop, obj⟩

def knxCurtainReport (env : Env) (telegram : Telegram) (dev : KnxDevice) : Visit KnxDevice Act :=
  match dev.body with
  | .curtain pOpen pClose pStop =>
      let step := curtainStep telegram pOpen pClose pStop
      let value := { dev with body := .curtain step.pOpen step.pClose step.pStop }
      if step.obj.dpid = 0 then { value }
      else
        match dev.element.attri with
        | .controller =>
            match dev.foreign with
            | none => { flow := .crash, value }
            | some foreign => { value, acts := [.modbusDevWrite foreign step.obj] }
        | .actuator =>
            { value
              acts := if dev.element.bMaster then cloudReport env dev.element.pPrimaryKey step.obj
                else [] }
  | _ => { value := dev }

inductive Handler where
  | acd
  | vent
  | heat
  | panel
  | smartPanel
  | dimmer
  | curtain
  deriving DecidableEq, Repr

def Handler.visit : Handler → Env → Telegram → KnxDevice → Visit KnxDevice Act
  | .acd => knxAcdReport
  | .vent => knxVentReport
  | .heat => knxHeatReport
  | .panel => knxPanelReport
  | .smartPanel => knxSmartPanelReport
  | .dimmer => knxDimmerReport
  | .curtain => knxCurtainReport

/-- A node without a value is skipped. -/
def Handler.visitNode (handler : Handler) (env : Env) (telegram : Telegram) :
    Option KnxDevice → Visit (Option KnxDevice) Act
  | none => { value := none }
  | some dev =>
      let step := handler.visit env telegram dev
      { flow := step.flow, value := some step.value, acts := step.acts }

/-- A handler on the whole list: for each node what is left of it and what was done for it. -/
def Handler.run (handler : Handler) (env : Env) (telegram : Telegram) (nodes : Nodes KnxDevice) :
    Flow × List (Option KnxDevice × List Act) :=
  walk (handler.visitNode env telegram) nodes

end HiMaxGateway.Knx
