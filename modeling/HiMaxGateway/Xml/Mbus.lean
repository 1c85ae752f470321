import HiMaxGateway.Xml.Cells

/-! The Modbus parsers: a template from the elements of a cell, and the devices that the key
functions copy from it. -/
namespace HiMaxGateway.Xml
open CText Turns Config Function

/-- The point members of the Modbus structures. -/
inductive Slot where
  | pSwitch
  | pSpeed
  | pMode
  | pTemp
  | pEnvTemp
  | pHumi
  | pEnvHumi
  | pValve
  | pErrorCode
  | pPM25
  | pCO2
  | pHumidity
  | pFlow
  | pTDS
  | pFilterTime
  | pReset
  deriving DecidableEq, Repr

/-- `ModbusDataType_e`. -/
inductive DataType where
  | bool
  | value
  | str
  | enum
  deriving DecidableEq, Repr

/-- The members of `MbusObj_t` that a parser sets. -/
structure MbusObj where
  localPoint : PointFeature
  type : DataType
  valueOld : Nat
  forceSync : Int
  cloudPoint : Int
  deriving DecidableEq, Repr

/-- The objects that were allocated, and the pointers of a structure to them. -/
structure PointMem where
  heap : List MbusObj
  points : Slot → Option Nat

/-- `calloc` of one object. -/
def PointMem.create (mem : PointMem) (slot : Slot) (obj : MbusObj) : PointMem where
  heap := mem.heap ++ [obj]
  points := update mem.points slot (some mem.heap.length)

/-- What the branch of a point element is about. -/
structure PointRule where
  name : String
  slot : Slot
  localPoint : PointFeature
  type : DataType
  /-- A data point without a content. -/
  null : Option (Stop Fault) := none
  /-- The point that the log line behind the element reads. -/
  logged : Slot

/-- As it is filled behind `calloc`. -/
def PointRule.obj (rule : PointRule) (text : Text) : MbusObj where
  localPoint := rule.localPoint
  type := rule.type
  valueOld := 2 ^ 32 - 1
  forceSync := 0
  cloudPoint := toInt (number text)

def PointRule.dataPoint (rule : PointRule) : Branch PointMem :=
  .content "DataPoint" { null := rule.null, refused := outOfRange } fun mem text =>
    mem.create rule.slot (rule.obj text)

/-- A point element: its data points, and then the log line. -/
def PointRule.turn (rule : PointRule) (mem : PointMem) (node : Node) : Parse PointMem := do
  let mem ← node.children.foldlM (chain [rule.dataPoint]) mem
  match mem.points rule.logged with
  | some _ => return mem
  | none => .error (.faults .point)

structure SerialParam where
  port : Int := 0
  baudrate : Int := 0
  databits : Int := 0
  parity : Option Char := none
  stopbits : Int := 0
  deriving DecidableEq

/-- `MbusBase_t`. -/
structure MbusBase where
  element : Element
  szPlugin : Option Text := none
  devAddr : Nat := 0
  regAddr : Nat := 0
  delay : Nat := 0
  bFeedback : Bool := true
  bOnlineCheck : Bool := true
  bFullDuplex : Bool := false
  bGroupMember : Bool := false
  serial : SerialParam := {}

structure MbusState where
  mem : PointMem
  base : MbusBase
  pForeignKey : Option Text := none
  pItem : Option Node := none

/-- A number for the serial line, which refuses those outside its bounds. -/
def serialNumber (name : String) (low high : Int) (set : SerialParam → Int → SerialParam) :
    Branch MbusBase :=
  .content name
    { refused := fun text =>
        outOfRange text || toInt (number text) < low || high < toInt (number text) }
    fun s text => { s with serial := set s.serial (toInt (number text)) }

/-- The elements of every Modbus cell. The air condition needs the text of its plugin, and may
switch the online check on. -/
def baseBranches (plugin : Option (Stop Fault)) (onlineYes : Bool) : List (Branch MbusBase) :=
  [.content "SharedLibrary" { null := plugin } fun s plugin => { s with szPlugin := some plugin },
    .content "ProductID" {} fun s product =>
      { s with element := { s.element with pProductId := some product, bMaster := true } },
    .number "DeviceAddr" true fun s addr => { s with devAddr := (addr % 2 ^ 16).toNat },
    serialNumber "Port" 1 4 fun s port => { s with port := port },
    serialNumber "Baudrate" 2400 115200 fun s baudrate => { s with baudrate := baudrate },
    serialNumber "Databit" 5 8 fun s databits => { s with databits := databits },
    .content "Parity" { refused := fun text => !startsWith ['n', 'N', 'o', 'O', 'e', 'E'] text }
      fun s parity => { s with serial := { s.serial with parity := parity.head? } },
    serialNumber "Stopbit" 1 2 fun s stopbits => { s with stopbits := stopbits },
    .content "Feedback" {} fun s cmd =>
      if startsWith ['N', 'n'] cmd then { s with bFeedback := false } else s,
    .content "OnlineCheck" {} fun s cmd =>
      if startsWith ['N', 'n'] cmd then { s with bOnlineCheck := false }
      else if onlineYes && startsWith ['Y', 'y'] cmd then { s with bOnlineCheck := true }
      else s,
    .content "FullDuplex" {} fun s cmd =>
      if startsWith ['Y', 'y'] cmd then { s with bFullDuplex := true } else s,
    .number "Delay" true fun s delay => { s with delay := (delay % 2 ^ 16).toNat }]

def baseLift : Branch MbusBase → Branch MbusState :=
  .lift MbusState.base fun s base => { s with base := base }

/-- The last item of a cell counts. -/
def itemBranch : Branch MbusState where
  name := "Item"
  act s node := .ok { s with pItem := some node }
  visits _ := []
  sound _ _ := rfl

/-- A foreign type that `memcmp` does not know is none. -/
def Element.resetForeignType (element : Element) (text : Text) : Element :=
  { element with foreignType := (Xml.foreignType text).getD .unknown }

/-- The keys of a device that has no items. -/
def keyElements (mac : Text) : List (Branch MbusState) :=
  [.content "PrimaryKey" {} fun s key =>
      { s with base := { s.base with
          element := s.base.element.setPrimaryKey mac .modbus true (some key) } },
    .content "ForeignKey" { null := some .stays } fun s key =>
      { s with
        pForeignKey := some key
        base := { s.base with element := { s.base.element with pForeignKey := some [] } } },
    .content "ForeignType" { null := some .exits } fun s type =>
      { s with base := { s.base with element := s.base.element.resetForeignType type } }]

structure MbusClass where
  primaryType : DeviceType
  points : List PointRule
  others : List (Branch MbusState)

/-- The branch of a point element. -/
def MbusClass.rule? (cls : MbusClass) (node : Node) : Option PointRule :=
  cls.points.find? fun rule => node.named rule.name

/-- One turn of the loop over the children of a cell. -/
def MbusClass.turn (cls : MbusClass) (s : MbusState) (node : Node) : Parse MbusState :=
  match cls.rule? node with
  | some rule => (rule.turn s.mem node).map fun mem => { s with mem := mem }
  | none => chain cls.others s node

def MbusClass.init (cls : MbusClass) (heap : List MbusObj) : MbusState where
  mem := { heap := heap, points := fun _ => none }
  base := { element := { primaryType := cls.primaryType.code } }

def MbusClass.template (cls : MbusClass) (heap : List MbusObj) (cell : Node) : Parse MbusState :=
  cell.children.foldlM cls.turn (cls.init heap)

/-- A template whose items give the devices. -/
def itemClass (primaryType : DeviceType) (points : List PointRule) : MbusClass where
  primaryType := primaryType
  points := points
  others := (baseBranches none false).map baseLift ++ [itemBranch]

/-- A cell that is a device itself. -/
def deviceClass (mac : Text) (primaryType : DeviceType) (points : List PointRule) : MbusClass where
  primaryType := primaryType
  points := points
  others := (baseBranches none false).map baseLift ++ keyElements mac

/-- `ParseMbusAcdCfg`. -/
def mbusAcd : MbusClass where
  primaryType := .modbusDeviceAircondition
  points :=
    [⟨"Switch", .pSwitch, .acdSwitch, .bool, some .exits, .pSwitch⟩,
      ⟨"Speed", .pSpeed, .acdSpeed, .enum, some .exits, .pSpeed⟩,
      ⟨"Mode", .pMode, .acdMode, .enum, some .exits, .pMode⟩,
      ⟨"Temp", .pTemp, .acdTemp, .value, some .exits, .pTemp⟩,
      ⟨"EnvTemp", .pEnvTemp, .acdEnvTemp, .value, none, .pEnvTemp⟩,
      ⟨"Fault", .pErrorCode, .acdErrorCode, .str, none, .pErrorCode⟩]
  others := (baseBranches (some .exits) true).map baseLift ++ [itemBranch]

def FREATURE_FAULT : PointFeature := .other 2

/-- `ParseMbusVentCfg`. Most log lines read the speed. -/
def mbusVent : MbusClass := itemClass .modbusDeviceVentilation
  [⟨"Switch", .pSwitch, .ventSwitch, .bool, none, .pSwitch⟩,
    ⟨"Speed", .pSpeed, .ventSpeed, .enum, none, .pSpeed⟩,
    ⟨"Humi", .pHumi, .ventHumi, .value, none, .pSpeed⟩,
    ⟨"Mode", .pMode, .ventMode, .enum, none, .pSpeed⟩,
    ⟨"Valve", .pValve, .ventValve, .bool, none, .pSpeed⟩,
    ⟨"EnvHumi", .pEnvHumi, .ventEnvHumi, .value, none, .pSpeed⟩,
    ⟨"Fault", .pErrorCode, FREATURE_FAULT, .str, none, .pSpeed⟩]

/-- `ParseMbusHeatCfg`. The error code has the local point and the log line of the temperature. -/
def mbusHeat : MbusClass := itemClass .modbusDeviceFloorheating
  [⟨"Switch", .pSwitch, .heatSwitch, .bool, none, .pSwitch⟩,
    ⟨"Temp", .pTemp, .heatTemp, .value, none, .pTemp⟩,
    ⟨"EnvTemp", .pEnvTemp, .heatEnvTemp, .value, none, .pEnvTemp⟩,
    ⟨"Fault", .pErrorCode, .heatEnvTemp, .value, none, .pEnvTemp⟩]

/-- `ParseMbusAqiCfg`. -/
def mbusAqi : MbusClass := itemClass .modbusDeviceAqi
  [⟨"Humi", .pHumi, .aqiHumi, .value, none, .pHumi⟩,
    ⟨"Temp", .pTemp, .aqiTemp, .value, none, .pTemp⟩,
    ⟨"PM25", .pPM25, .aqiPm25, .value, none, .pPM25⟩,
    ⟨"CO2", .pCO2, .aqiCo2, .value, none, .pCO2⟩]

/-- `ParseMbusPanelCfg`. -/
def mbusPanel : MbusClass := itemClass .modbusDevicePannel
  [⟨"Switch", .pSwitch, .panelSwitch, .bool, none, .pSwitch⟩]

/-- `ParseModbusHumidifierCfg`. -/
def mbusHumidifier (mac : Text) : MbusClass := deviceClass mac .modbusDeviceHumidifier
  [⟨"Switch", .pSwitch, .humidifierSwitch, .bool, none, .pSwitch⟩,
    ⟨"Humidity", .pHumidity, .humidifierHumiditySet, .value, none, .pHumidity⟩]

/-- `ParseModbusPurifierCfg`. -/
def mbusPurifier (mac : Text) : MbusClass := deviceClass mac .modbusDevicePurifier
  [⟨"Flow", .pFlow, .purifierFlow, .value, none, .pFlow⟩,
    ⟨"TDS", .pTDS, .purifierTds, .value, none, .pTDS⟩,
    ⟨"FilterTime", .pFilterTime, .purifierPpFilterTime, .value, none, .pFilterTime⟩,
    ⟨"Reset", .pReset, .purifierReset, .bool, none, .pReset⟩]

/-- A device of the list. -/
structure MbusDev where
  base : MbusBase
  points : Slot → Option Nat

structure KeyState where
  heap : List MbusObj
  list : List MbusDev
  dev : MbusDev
  pForeignKey : Option Text

/-- What they differ in. -/
structure KeyRule where
  primaryType : DeviceType
  /-- A primary key without a content. -/
  key : Option (Stop Fault)
  /-- A foreign type without a content. -/
  type : Option (Stop Fault)
  /-- Whether the attribute `group` is read. -/
  grouped : Bool
  /-- The points that are copied. -/
  copied : List Slot

/-- A copy of one point. -/
def copyPoint (template : Slot → Option Nat) (mem : PointMem) (slot : Slot) : PointMem :=
  match (template slot).bind (mem.heap[·]?) with
  | some obj => mem.create slot obj
  | none => mem

/-- The deep copy. -/
def KeyRule.enter (rule : KeyRule) (template : MbusState) (s : KeyState) (cell : Node) : KeyState :=
  let mem :=
    rule.copied.foldl (copyPoint template.mem.points) { heap := s.heap, points := fun _ => none }
  { s with
    heap := mem.heap
    dev :=
      { base :=
          if rule.grouped && (cell.prop "group").isSome then
            { template.base with bGroupMember := true }
          else template.base
        points := mem.points }
    pForeignKey := none }

def KeyState.setElement (s : KeyState) (element : Element) : KeyState :=
  { s with dev := { s.dev with base := { s.dev.base with element := element } } }

def KeyState.element (s : KeyState) : Element := s.dev.base.element

def KeyRule.branches (rule : KeyRule) (mac : Text) : List (Branch KeyState) :=
  [.content "PrimaryKey" { null := rule.key } fun s key =>
      s.setElement { s.element.setPrimaryKey mac .modbus true (some key) with
        primaryType := rule.primaryType.code },
    .content "ForeignKey" { null := some .stays } fun s key =>
      { s.setElement { s.element with pForeignKey := some [] } with pForeignKey := some key },
    .content "ForeignType" { null := rule.type } fun s type =>
      s.setElement (s.element.resetForeignType type),
    .content "RoomNo" { null := some .stays, refused := outOfRange } fun s room =>
      { s with dev := { s.dev with base := { s.dev.base with
          regAddr := (number room % 2 ^ 16).toNat } } }]

/-- The foreign key of a known type, and the new entry of the list. -/
def KeyState.close (mac : Text) (s : KeyState) : KeyState :=
  let dev :=
    match s.pForeignKey with
    | some key =>
        if s.element.foreignType = .unknown then s.dev
        else
          (s.setElement { s.element with
            pForeignKey := some (deviceKey mac s.element.foreignType key) }).dev
    | none => s.dev
  { s with list := s.list ++ [dev] }

def KeyRule.cell (rule : KeyRule) (mac : Text) (template : MbusState) : Branch KeyState :=
  .element "Cell" [] (rule.enter template) (rule.branches mac) fun s _ => s.close mac

/-- A key function. -/
def KeyRule.parse (rule : KeyRule) (mac : Text) (template : MbusState) (s : KeyState)
    (item : Node) :
    Parse KeyState :=
  item.children.foldlM (chain [rule.cell mac template]) s

/-- The objects and the list behind some cells. -/
structure MbusList where
  heap : List MbusObj
  list : List MbusDev

/-- One turn of the loop over the cells of a class with items. -/
def parseItemCell (cls : MbusClass) (rule : KeyRule) (mac : Text) (s : MbusList) (cell : Node) :
    Parse MbusList := do
  let template ← cls.template s.heap cell
  match template.pItem with
  | none => return { s with heap := template.mem.heap }
  | some item =>
      let keys ← rule.parse mac template
        { heap := template.mem.heap, list := s.list
          dev := { base := template.base, points := fun _ => none }, pForeignKey := none } item
      return { heap := keys.heap, list := keys.list }

/-- `ParseMbusAcdKey`. It compares a foreign type without a content. -/
def mbusAcdKey : KeyRule where
  primaryType := .modbusDeviceAircondition
  key := some .exits
  type := some (.faults .content)
  grouped := true
  copied := [.pSwitch, .pSpeed, .pMode, .pTemp, .pEnvTemp, .pErrorCode]

/-- `ParseMbusVentKey`. -/
def mbusVentKey : KeyRule where
  primaryType := .modbusDeviceVentilation
  key := some .exits
  type := some .exits
  grouped := true
  copied := [.pSwitch, .pSpeed, .pErrorCode]

/-- `ParseMbusHeatKey`. -/
def mbusHeatKey : KeyRule where
  primaryType := .modbusDeviceFloorheating
  key := none
  type := some .exits
  grouped := true
  copied := [.pSwitch, .pTemp, .pEnvTemp]

/-- `ParseMbusAqiKey`. -/
def mbusAqiKey : KeyRule where
  primaryType := .modbusDeviceFloorheating
  key := none
  type := some .exits
  grouped := false
  copied := [.pHumi, .pTemp, .pPM25, .pCO2]

/-- `ParseMbusPanelKey`. -/
def mbusPanelKey : KeyRule where
  primaryType := .modbusDeviceVentilation
  key := none
  type := some .exits
  grouped := false
  copied := [.pSwitch]

end HiMaxGateway.Xml
