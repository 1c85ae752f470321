import HiMaxGateway.Knx.Report
import HiMaxGateway.Lib.Loop

/-! The control handlers of `knxHandle.c`: a command of the write queue is stored in the point it
names and sent to the bus through `knxd`. -/
namespace HiMaxGateway.Knx
open CText Walk Loop

/-- `KnxWriteType_t`. -/
structure KnxWrite where
  pPrimaryKey : Text
  devId : Nat
  obj : DpObj
  deriving DecidableEq, Repr

/-- The control objects of the climate devices; the branch of the error code does nothing. -/
inductive CtrlSlot where
  | switch
  | speed
  | mode
  | temp
  deriving DecidableEq, Repr

structure CtrlObj where
  cloudPoint : Nat
  addr : Text
  value : Nat := 0
  deriving DecidableEq, Repr

/-- `KnxPoints_t` as the control handlers use it. -/
structure CtrlPoint where
  id : Nat
  pCtrl : Option Text := none
  value : Nat := 0
  max : Nat := 0
  /-- `point.mode == POINT_ATTR_WRITE_ONLY`. -/
  writeOnly : Bool := false
  deriving DecidableEq, Repr

structure SmartChannel where
  key : CtrlPoint
  scene : CtrlPoint
  mode : CtrlPoint
  deriving DecidableEq, Repr

structure DimmerChannel where
  key : CtrlPoint
  bright : CtrlPoint
  deriving DecidableEq, Repr

/-- The structure behind a list node; `primaryType` is taken to identify it, as it does for panels
of up to eight keys and for dimmers and smart panels of up to four channels. -/
inductive CtrlBody where
  | climate (kind : Climate) (objs : CtrlSlot → Option CtrlObj)
  | panel (keys : List CtrlPoint)
  | smartPanel (chl : List SmartChannel)
  | dimmer (chl : List DimmerChannel)
  | curtain (pOpen pClose pStop : Option CtrlPoint)

structure CtrlDevice where
  element : DeviceElement
  /-- `pIf->control`: the value the plugin stores in the object. -/
  control : Option (CtrlSlot → DpObj → CtrlObj → Nat) := none
  body : CtrlBody

/-- What the SDK and `knxd` answer to the calls of a command, by their number.
`EIBSendAPDU` gives `-1` or the transmitted length. -/
structure Replies where
  bActive : Bool
  report : Nat → Int
  hbFresh : Nat → Int
  eibSocketURL : Nat → Bool
  eibOpenTGroup : Nat → Bool
  eibSendAPDU : Nat → Int

inductive CtrlEvent where
  | report (key : Text) (obj : DpObj)
  | hbFresh (key : Text)
  /-- The group is unknown where it is read from an uninitialised buffer. -/
  | eibSendAPDU (gAddr : Option Nat) (apdu : List Nat) (ret : Int)
  | updateKnxSmartPanelMode (id : Int) (channel : Nat) (scene : Bool)
  deriving DecidableEq, Repr

def CtrlEvent.sent : CtrlEvent → Bool
  | .eibSendAPDU _ _ ret => ret ≠ -1
  | _ => false

/-- The variables of a handler; `knxBuf` and `data` are those of the dimmer, which live across its
channels. -/
structure CtrlState where
  calls : Nat
  ret : Int := -1
  bFound : Bool := false
  knxBuf : Nat := 0x80
  data : List Nat := []

def dpBool (obj : DpObj) : Nat := if obj.value = 0 then 0 else 1

/-- The calls of `knxd` at the end of each handler, and whether the telegram was sent. -/
def transmit (env : Replies) (gAddr : Option Nat) (apdu : List Nat) (s : CtrlState) :
    Bool × CtrlState × List CtrlEvent :=
  let after := { s with calls := s.calls + 1 }
  if env.eibSocketURL s.calls = false then (false, after, [])
  else if env.eibOpenTGroup s.calls = false then (false, after, [])
  else
    let ret := env.eibSendAPDU s.calls
    (ret ≠ -1, { after with ret }, [.eibSendAPDU gAddr apdu ret])

/-- The branches in the order of the source. -/
def Climate.ctrlSlots : Climate → List CtrlSlot
  | .acd => [.switch, .speed, .mode, .temp]
  | .vent => [.switch, .speed]
  | .heat => [.switch, .temp]

def ctrlHit (objs : CtrlSlot → Option CtrlObj) (dpid : Nat) (slots : List CtrlSlot) :
    Option (CtrlSlot × CtrlObj) :=
  slots.findSome? fun slot =>
    match objs slot with
    | some obj => if obj.cloudPoint = dpid then some (slot, obj) else none
    | none => none

def ctrlApdu (slot : CtrlSlot) (value : Nat) : List Nat :=
  match slot with
  | .switch => [0, 0x80 ||| (value &&& 0x3f)]
  | _ => [0, 0x80] ++ readBlock value

/-- The report of an actuator, which goes before the telegram. -/
def climateReport (env : Replies) (cmd : KnxWrite) (dev : CtrlDevice) (s : CtrlState) :
    CtrlState × List CtrlEvent :=
  if env.bActive && dev.element.attri == .actuator then
    ({ s with calls := s.calls + 1, ret := if env.report s.calls = 0 then 0 else -1 },
      [.report dev.element.pPrimaryKey cmd.obj, .hbFresh dev.element.pPrimaryKey])
  else (s, [])

/-- `Knx_AirconditionCtrl`, `Knx_VentilationCtrl` and `Knx_FloorHeatingCtrl`. -/
def climateCtrl (kind : Climate) (objs : CtrlSlot → Option CtrlObj) (env : Replies) (cmd : KnxWrite)
    (s : CtrlState) (dev : CtrlDevice) : Step CtrlState CtrlDevice CtrlEvent :=
  match dev.control, ctrlHit objs cmd.obj.dpid kind.ctrlSlots with
  | some control, some (slot, obj) =>
      let obj := { obj with value := control slot cmd.obj obj }
      let value := { dev with body := .climate kind fun t => if t = slot then some obj else objs t }
      let gAddr := readgaddr obj.addr
      -- The mark for "no branch taken" is also the group 0/0/255.
      if gAddr = 0xff then { state := s, value }
      else
        let (s, reports) := climateReport env cmd dev s
        let (done, s, sends) := transmit env (some gAddr) (ctrlApdu slot obj.value) s
        { flow := if done then .stop else .next, state := s, value, events := reports ++ sends }
  | _, _ => { state := s, value := dev }

/-- The report of a write-only point; `ret` is what the heartbeat answers. -/
def pointReport (env : Replies) (key : Text) (point : CtrlPoint) (obj : DpObj) (s : CtrlState) :
    CtrlState × List CtrlEvent :=
  if env.bActive && point.writeOnly then
    ({ s with calls := s.calls + 1, ret := env.hbFresh s.calls }, [.report key obj, .hbFresh key])
  else (s, [])

/-- A telegram for a point whose value was stored in `value`; a sent one ends the loop. -/
def pointSend (env : Replies) (gAddr : Nat) (apdu : List Nat) (s : CtrlState)
    (reports : List CtrlEvent) (value : α) : Step CtrlState α CtrlEvent :=
  let (done, s, sends) := transmit env (some gAddr) apdu s
  { flow := if done then .stop else .next
    state := if done then { s with bFound := true } else s
    value
    events := reports ++ sends }

def panelCtrlKey (env : Replies) (cmd : KnxWrite) (dev : CtrlDevice) (s : CtrlState)
    (key : CtrlPoint) : Step CtrlState CtrlPoint CtrlEvent :=
  if key.id = cmd.obj.dpid then
    let b1 := dpBool cmd.obj
    let value := { key with value := b1 }
    match key.pCtrl with
    | none => { flow := .crash, state := s, value }
    | some addr =>
        let obj := { dpid := key.id % 256, type := .bool, value := b1 }
        let (s, reports) := pointReport env dev.element.pPrimaryKey key obj s
        pointSend env (readgaddr addr) [0, 0x80 ||| b1] s reports value
  else { state := s, value := key }

/-- Left by `break` where the channel is in the other mode; `exit` and a null pointer end the
process, `return 0` leaves both loops. -/
def smartPanelCtrlChannel (env : Replies) (cmd : KnxWrite) (dev : CtrlDevice) (s : CtrlState)
    (indexed : Nat × SmartChannel) : Step CtrlState (Nat × SmartChannel) CtrlEvent :=
  let (i, chl) := indexed
  if chl.key.id = cmd.obj.dpid then
    if chl.mode.value = 0 then
      let b1 := dpBool cmd.obj
      let value := (i, { chl with key := { chl.key with value := b1 } })
      match chl.key.pCtrl with
      | none => { flow := .crash, state := s, value }
      | some addr => pointSend env (readgaddr addr) [0, 0x80 ||| b1] s [] value
    else { flow := .stop, state := s, value := indexed }
  else if chl.scene.id = cmd.obj.dpid then
    if chl.mode.value = 1 then
      match chl.scene.pCtrl with
      | none => { flow := .crash, state := s, value := indexed }
      | some addr =>
          pointSend env (readgaddr addr) ([0, 0x80] ++ readBlock chl.scene.value) s [] indexed
    else { flow := .stop, state := s, value := indexed }
  else if chl.mode.id = cmd.obj.dpid then
    let u8 := (cmd.obj.value % 256).toNat
    let value := (i, { chl with mode := { chl.mode with value := u8 } })
    match strtol (dev.element.pPrimaryKey.drop 13) with
    | none => { flow := .crash, state := s, value }
    | some id =>
        -- the `int` that keeps the number is as wide as a `long`
        if id.erange then { flow := .crash, state := s, value }
        else
          { flow := .stop
            state := { s with ret := 0, bFound := true }
            value
            events := [.updateKnxSmartPanelMode id.long (i + 1) (u8 ≠ 0),
              .report cmd.pPrimaryKey { cmd.obj with type := .enum }] }
  else { state := s, value := indexed }

/-- `dp_value * 255 / max`, an `int` cut to eight bits. -/
def brightValue (value : Int) (max : Nat) : Nat :=
  let product := (value * 255 + 2 ^ 31) % 2 ^ 32 - 2 ^ 31
  (product.tdiv max % 256).toNat

def dimmerCtrlChannel (env : Replies) (cmd : KnxWrite) (dev : CtrlDevice) (s : CtrlState)
    (chl : DimmerChannel) : Step CtrlState DimmerChannel CtrlEvent :=
  if chl.bright.id = cmd.obj.dpid then
    if chl.bright.max = 0 then { flow := .crash, state := s, value := chl }
    else
      let u8 := brightValue cmd.obj.value chl.bright.max
      let value := { chl with bright := { chl.bright with value := u8 } }
      match chl.bright.pCtrl with
      | none => { flow := .crash, state := s, value }
      | some addr =>
          let s := { s with data := readBlock u8 }
          let obj := { dpid := chl.bright.id % 256, type := .value, value := u8 }
          let (s, reports) := pointReport env dev.element.pPrimaryKey chl.bright obj s
          pointSend env (readgaddr addr) ([0, s.knxBuf] ++ s.data) s reports value
  else if chl.key.id = cmd.obj.dpid then
    let b1 := dpBool cmd.obj
    let value := { chl with key := { chl.key with value := b1 } }
    match chl.key.pCtrl with
    | none => { flow := .crash, state := s, value }
    | some addr =>
        let s := { s with knxBuf := s.knxBuf ||| b1 }
        let obj := { dpid := chl.key.id % 256, type := .bool, value := b1 }
        let (s, reports) := pointReport env dev.element.pPrimaryKey chl.key obj s
        pointSend env (readgaddr addr) ([0, s.knxBuf] ++ s.data) s reports value
  else { state := s, value := chl }

/-- The loop over the parts of a device, which is left when one was found. -/
def partsCtrl (visit : CtrlState → α → Step CtrlState α CtrlEvent) (rebuild : List α → CtrlDevice)
    (parts : List α) (s : CtrlState) : Step CtrlState CtrlDevice CtrlEvent :=
  let inner := loop visit { s with bFound := false, knxBuf := 0x80, data := [] } parts
  { flow := if inner.flow = .crash then .crash else if inner.state.bFound then .stop else .next
    state := inner.state
    value := rebuild inner.value
    events := inner.events }

/-- The point of a curtain that the command names, with the bit it sends; without a matching id
the address buffer stays uninitialised. -/
def curtainSend (env : Replies) (cmd : KnxWrite) (bit : Nat) (point : Option CtrlPoint)
    (store : CtrlPoint → CtrlDevice) (dev : CtrlDevice) (s : CtrlState) :
    Step CtrlState CtrlDevice CtrlEvent :=
  match point with
  | none => { flow := .crash, state := s, value := dev }
  | some p =>
      if p.id = cmd.obj.dpid then
        let value := store { p with value := bit }
        match p.pCtrl with
        | none => { flow := .crash, state := s, value }
        | some addr =>
            let (_, s, sends) := transmit env (some (readgaddr addr)) [0, 0x80 ||| bit] s
            { state := s, value, events := sends }
      else
        let (_, s, sends) := transmit env none [0, 0x80] s
        { state := s, value := dev, events := sends }

/-- The loop goes on after a telegram. -/
def knxCurtainCtrl (pOpen pClose pStop : Option CtrlPoint) (env : Replies) (cmd : KnxWrite)
    (s : CtrlState) (dev : CtrlDevice) : Step CtrlState CtrlDevice CtrlEvent :=
  if cmd.obj.value = 0 then
    curtainSend env cmd 0 pOpen (fun p => { dev with body := .curtain (some p) pClose pStop }) dev s
  else if cmd.obj.value = 2 then
    curtainSend env cmd 1 pClose (fun p => { dev with body := .curtain pOpen (some p) pStop }) dev s
  else if cmd.obj.value = 1 then
    curtainSend env cmd 0 pStop (fun p => { dev with body := .curtain pOpen pClose (some p) }) dev s
  else { state := s, value := dev }

/-- The handler that takes a structure. -/
def CtrlBody.handler : CtrlBody → Handler
  | .climate .acd _ => .acd
  | .climate .vent _ => .vent
  | .climate .heat _ => .heat
  | .panel _ => .panel
  | .smartPanel _ => .smartPanel
  | .dimmer _ => .dimmer
  | .curtain _ _ _ => .curtain

/-- What a handler does to a device of its class. -/
def ctrlDevice (env : Replies) (cmd : KnxWrite) (s : CtrlState) (dev : CtrlDevice) :
    Step CtrlState CtrlDevice CtrlEvent :=
  match dev.body with
  | .climate kind objs => climateCtrl kind objs env cmd s dev
  | .panel keys =>
      partsCtrl (panelCtrlKey env cmd dev) (fun keys => { dev with body := .panel keys }) keys s
  | .smartPanel chl =>
      partsCtrl (smartPanelCtrlChannel env cmd dev)
        (fun chl => { dev with body := .smartPanel (chl.map (·.2)) }) (chl.zipIdx.map Prod.swap) s
  | .dimmer chl =>
      partsCtrl (dimmerCtrlChannel env cmd dev) (fun chl => { dev with body := .dimmer chl }) chl s
  | .curtain pOpen pClose pStop => knxCurtainCtrl pOpen pClose pStop env cmd s dev

/-- The body of the list loop: the tests of type and id come first in every handler. -/
def Handler.ctrlNode (handler : Handler) (env : Replies) (cmd : KnxWrite) (s : CtrlState) :
    Option CtrlDevice → Step CtrlState (Option CtrlDevice) CtrlEvent
  | none => { state := s, value := none }
  | some dev =>
      if dev.body.handler = handler ∧ dev.element.devId = cmd.devId then
        let step := ctrlDevice env cmd s dev
        { flow := step.flow, state := step.state, value := some step.value, events := step.events }
      else { state := s, value := some dev }

/-- A handler on the whole list. -/
def Handler.ctrl (handler : Handler) (env : Replies) (cmd : KnxWrite) (calls : Nat)
    (nodes : Nodes CtrlDevice) : Step CtrlState (Nodes CtrlDevice) CtrlEvent :=
  loop (handler.ctrlNode env cmd) { calls } nodes

structure Written where
  nodes : Nodes CtrlDevice
  events : List CtrlEvent

/-- The handlers one after the other, until one returns `0`. -/
def dispatch (env : Replies) (cmd : KnxWrite) (calls : Nat) (nodes : Nodes CtrlDevice) :
    List Handler → Written
  | [] => ⟨nodes, []⟩
  | handler :: rest =>
      let step := handler.ctrl env cmd calls nodes
      if step.flow = .crash ∨ step.state.ret = 0 then ⟨step.value, step.events⟩
      else
        let more := dispatch env cmd step.state.calls step.value rest
        ⟨more.nodes, step.events ++ more.events⟩

/-- One turn of `KNX_DevWriteEntry`. -/
def knxDevWriteEntry (env : Replies) (cmd : KnxWrite) (nodes : Nodes CtrlDevice) : Written :=
  dispatch env cmd 0 nodes [.acd, .vent, .heat, .panel, .smartPanel, .dimmer, .curtain]

end HiMaxGateway.Knx
