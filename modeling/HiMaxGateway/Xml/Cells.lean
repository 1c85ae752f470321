import HiMaxGateway.Config
import HiMaxGateway.Device
import HiMaxGateway.Point
import HiMaxGateway.Xml.Branch

/-! `ParseKnxPanelCfg`, `ParseKnxSmartPanelCfg`, `ParseKnxDimmerCfg`, `ParseDiCfg` and `ParseDoCfg`:
one device for each cell. -/
namespace HiMaxGateway.Xml
open CText Turns

/-- The members of `DeviceElement_t` that they all set. -/
structure Element where
  pProductId : Option Text := none
  bMaster : Bool := false
  primaryType : Nat := 0
  pPrimaryKey : Option Text := none
  devId : Nat := 0
  /-- The buffer, once it is allocated. -/
  pForeignKey : Option Text := none
  foreignType : CommunicateMode := .unknown
  deriving DecidableEq

/-- The two variables that are declared before the loop over the cells. -/
structure Keys where
  pPrimaryKey : Option Text := none
  pForeignKey : Option Text := none
  deriving DecidableEq

structure CellState (β : Type) where
  keys : Keys
  element : Element := {}
  body : β

structure CellDev (β : Type) where
  element : Element
  body : β

/-- What they differ in. -/
structure CellClass (β : Type) where
  /-- The structure after `calloc`. -/
  init : β
  /-- What a product ID sets besides. -/
  product : β → β
  /-- The branches for the other elements. No two names of a chain are equal, so that their
  order does not matter. -/
  own : List (Branch β)
  mode : CommunicateMode
  /-- Whether `devId` is read off the primary key. -/
  numbered : Bool
  primaryType : β → Nat

variable {β : Type}

/-- The texts that `memcmp` does not know leave the type. -/
def Element.setForeignType (element : Element) (text : Text) : Element :=
  match Xml.foreignType text with
  | some type => { element with foreignType := type }
  | none => element

def CellClass.branches (cls : CellClass β) : List (Branch (CellState β)) :=
  [.content "ProductID" {} fun s product =>
      { s with
        element := { s.element with pProductId := some product, bMaster := true }
        body := cls.product s.body },
    .content "PrimaryKey" { null := some .stays } fun s key =>
      { s with keys := { s.keys with pPrimaryKey := some key } },
    .content "ForeignKey" { null := some .stays } fun s key =>
      { s with
        keys := { s.keys with pForeignKey := some key }
        element := { s.element with pForeignKey := some [] } },
    .content "ForeignType" { null := some .exits } fun s type =>
      { s with element := s.element.setForeignType type }] ++
  cls.own.map (.lift CellState.body fun s body => { s with body := body })

/-- The loop over the children of a cell. -/
def CellClass.scan (cls : CellClass β) (keys : Keys) (cell : Node) : Parse (CellState β) :=
  cell.children.foldlM (chain cls.branches) { keys := keys, body := cls.init }

def Element.setPrimaryKey (element : Element) (mac : Text) (mode : CommunicateMode)
    (numbered : Bool) :
    Option Text → Element
  | some key =>
      { element with
        pPrimaryKey := some (deviceKey mac mode key)
        devId :=
          if numbered then (number ((deviceKey mac mode key).drop 12) % 2 ^ 32).toNat
          else element.devId }
  | none => element

/-- `snprintf` into the buffer, which is used unchecked. -/
def Element.setForeignKey (element : Element) (mac : Text) : Option Text → Parse Element
  | some key =>
      if element.bMaster then
        match element.pForeignKey with
        | some _ => .ok { element with pForeignKey := some (deviceKey mac element.foreignType key) }
        | none => .error (.faults .foreignKey)
      else .ok element
  | none => .ok element

/-- What follows the loop over the children. -/
def CellClass.close (cls : CellClass β) (mac : Text) (s : CellState β) : Parse (CellDev β) := do
  let element := { s.element with primaryType := cls.primaryType s.body }
  let element := element.setPrimaryKey mac cls.mode cls.numbered s.keys.pPrimaryKey
  let element ← element.setForeignKey mac s.keys.pForeignKey
  return { element := element, body := s.body }

/-- One turn of the loop over the cells. -/
def CellClass.cell (cls : CellClass β) (mac : Text) (list : Keys × List (CellDev β)) (cell : Node) :
    Parse (Keys × List (CellDev β)) := do
  let s ← cls.scan list.1 cell
  let dev ← cls.close mac s
  return (s.keys, list.2 ++ [dev])

def CellClass.parse (cls : CellClass β) (mac : Text) (cells : List Node) :
    Parse (Keys × List (CellDev β)) :=
  cells.foldlM (cls.cell mac) ({}, [])

inductive PointMode where
  | readWrite
  | readOnly
  | writeOnly
  deriving DecidableEq, Repr

inductive PointType where
  | bool
  | u8
  deriving DecidableEq, Repr

/-- `Point_t`, in memory that `realloc` adds and nobody clears. -/
structure Point where
  id : Option Nat := none
  feature : Option PointFeature := none
  type : Option PointType := none
  mode : Option PointMode := none
  value : Option Nat := none
  oldValue : Option Nat := none
  threshold : Option Nat := none
  max : Option Nat := none
  min : Option Nat := none
  step : Option Nat := none
  scaling : Option Nat := none
  deriving DecidableEq

structure KnxPoints where
  point : Point := {}
  pCtrl : Option Text := none
  pFeedback : Option Text := none
  deriving DecidableEq

/-- `KnxBase_t` and the channels. -/
structure KnxBody (χ : Type) where
  szPlugin : Option Text := none
  attri : DeviceAttri := .controller
  phyAddr : Text := []
  bOnlineCheck : Bool := true
  /-- The first `keySum` channels. -/
  chl : List χ := []
  /-- `chl[keySum]`. -/
  slot : χ

variable {χ : Type}

def EIB_ADDR : Nat := 9

/-- `strncpy` over what the buffer holds, without a terminator. -/
def overwrite (old text : Text) : Text := text.take EIB_ADDR ++ old.drop (min EIB_ADDR text.length)

def startsWith (letters : List Char) (text : Text) : Bool := text.head?.any letters.contains

def sharedLibrary : Branch (KnxBody χ) :=
  .content "SharedLibrary" {} fun s plugin => { s with szPlugin := some plugin }

def phyAddr : Branch (KnxBody χ) :=
  .content "PhyAddr" {} fun s addr => { s with phyAddr := overwrite s.phyAddr addr }

def onlineCheck : Branch (KnxBody χ) :=
  .content "OnlineCheck" {} fun s online =>
    if startsWith ['N', 'n'] online then { s with bOnlineCheck := false } else s

def deviceAttr : Branch (KnxBody χ) :=
  .content "DeviceAttr" {} fun s attri =>
    if startsWith ['C', 'c'] attri then { s with attri := .controller }
    else if startsWith ['A', 'a'] attri then { s with attri := .actuator }
    else s

def actuator (s : KnxBody χ) : KnxBody χ := { s with attri := .actuator }

def KnxBody.keySum (s : KnxBody χ) : Nat := s.chl.length

/-- `keySum++`; the next channel begins in memory that nobody cleared. -/
def KnxBody.next (fresh : χ) (s : KnxBody χ) : KnxBody χ :=
  { s with chl := s.chl ++ [s.slot], slot := fresh }

/-- The attribute `mode` of a channel. -/
def channelMode (node : Node) (point : Point) : Point :=
  match node.prop "mode" with
  | some mode =>
      { point with
        mode := some (if sameName mode "rd" then .readOnly
          else if sameName mode "wr" then .writeOnly
          else .readWrite) }
  | none => point

/-- A group address to write to. -/
def ctrl (name : String) (feature : PointFeature) (type : PointType) : Branch KnxPoints :=
  .content name {} fun s addr =>
    { s with
      pCtrl := some (addr.take EIB_ADDR)
      point := { s.point with feature := some feature, type := some type, oldValue := some 0 } }

/-- A group address to listen to. The panels debounce it. -/
def status (feature : PointFeature) (type : PointType) (threshold : Option Nat) :
    Branch KnxPoints :=
  .content "Status" {} fun s addr =>
    { s with
      pFeedback := some (addr.take EIB_ADDR)
      point := { s.point with
        feature := some feature
        type := some type
        oldValue := some 0
        threshold := threshold.or s.point.threshold } }

def dataPoint (checked : Bool) : Branch KnxPoints :=
  .number "DataPoint" checked fun s dp =>
    { s with point := { s.point with id := some (dp % 2 ^ 16).toNat } }

/-- A channel without children leaves its mode to the next one. -/
def panelChannel : Branch (KnxBody KnxPoints) :=
  .element "channel" []
    (fun s node => { s with slot := { s.slot with point := channelMode node s.slot.point } })
    ([ctrl "Switch" .panelSwitch .bool, status .panelSwitchStatus .bool (some 500),
      dataPoint false].map (.lift KnxBody.slot fun s slot => { s with slot := slot }))
    (fun s node => if node.children.isEmpty then s else s.next {})

/-- `ParseKnxPanelCfg`. -/
def knxPanel : CellClass (KnxBody KnxPoints) where
  init := { slot := {} }
  product := actuator
  own := [sharedLibrary, phyAddr, onlineCheck, deviceAttr, panelChannel]
  mode := .knx
  numbered := true
  primaryType s := Config.DeviceType.knxPanelOneKey.code + s.keySum - 1

structure SmartPanelPoint where
  key : KnxPoints := {}
  scene : KnxPoints := {}
  mode : KnxPoints := {}
  deriving DecidableEq

def FEATURE_SCENE : PointFeature := .other 1

def FEATURE_MODE : PointFeature := .other 4

def smartSwitch : Branch SmartPanelPoint :=
  .element "switch" [] (fun s _ => s)
    ([ctrl "Ctrl" .panelSwitch .bool, status .panelSwitchStatus .bool (some 500),
      dataPoint false].map (.lift SmartPanelPoint.key fun s key => { s with key := key }))
    (fun s _ => s)

def sceneAddr : Branch KnxPoints :=
  .content "addr" {} fun s addr =>
    { s with
      pCtrl := some (addr.take EIB_ADDR)
      point := { s.point with
        feature := some FEATURE_SCENE, type := some .u8, oldValue := some 0, threshold := some 500 }
          }

def sceneValue : Branch KnxPoints :=
  .number "value" true fun s value =>
    { s with point := { s.point with type := some .u8, value := some (value % 2 ^ 8).toNat } }

def smartScene : Branch SmartPanelPoint :=
  .element "scene" [] (fun s _ => s)
    ([sceneAddr, sceneValue, dataPoint true].map
      (.lift SmartPanelPoint.scene fun s scene => { s with scene := scene }))
    (fun s _ => s)

/-- A mode is a switch or a scene. -/
def modeSelect : Branch KnxPoints :=
  .content "select" { refused := fun mode => !sameName mode "switch" && !sameName mode "scene" }
    fun s mode =>
      { s with point := { s.point with
          feature := some FEATURE_MODE, type := some .u8
          value := some (if sameName mode "switch" then 0 else 1) } }

def smartMode : Branch SmartPanelPoint :=
  .element "mode" [] (fun s _ => s)
    ([modeSelect, dataPoint true].map
      (.lift SmartPanelPoint.mode fun s mode => { s with mode := mode }))
    (fun s _ => s)

def smartChannel : Branch (KnxBody SmartPanelPoint) :=
  .element "channel" [] (fun s _ => s)
    ([smartSwitch, smartScene, smartMode].map
      (.lift KnxBody.slot fun s slot => { s with slot := slot }))
    (fun s _ => s.next {})

/-- `ParseKnxSmartPanelCfg`. -/
def knxSmartPanel : CellClass (KnxBody SmartPanelPoint) where
  init := { slot := {} }
  product := actuator
  own := [phyAddr, onlineCheck, deviceAttr, smartChannel]
  mode := .knx
  numbered := true
  primaryType s := Config.DeviceType.knxMiscPanelOneKey.code + s.keySum - 1

structure DimmerPoint where
  key : KnxPoints := {}
  bright : KnxPoints := {}
  deriving DecidableEq

def DIMMING_BRIGHTNESS : PointFeature := .other 102

def DIMMING_BRIGHTNESS_STATUS : PointFeature := .other 103

def dimmerSwitch : Branch DimmerPoint :=
  .element "Switch" [] (fun s _ => s)
    ([ctrl "Ctrl" .panelSwitch .bool, status .panelSwitchStatus .bool none, dataPoint true].map
      (.lift DimmerPoint.key fun s key => { s with key := key }))
    (fun s _ => s)

def brightAttr (name : String) (checked : Bool) (set : Point → Nat → Point) :
    Branch.Attr DimmerPoint where
  name := name
  checked := checked
  set s value :=
    { s with bright := { s.bright with point := set s.bright.point (value % 2 ^ 16).toNat } }

def brightness : Branch DimmerPoint :=
  .element "Brightness"
    [brightAttr "max" true fun point max => { point with max := some max },
      brightAttr "min" false fun point min => { point with min := some min },
      brightAttr "step" true fun point step => { point with step := some step },
      brightAttr "scaling" true fun point scaling => { point with scaling := some scaling }]
    (fun s _ => s)
    ([ctrl "Ctrl" DIMMING_BRIGHTNESS .u8, status DIMMING_BRIGHTNESS_STATUS .u8 none,
      dataPoint true].map (.lift DimmerPoint.bright fun s bright => { s with bright := bright }))
    (fun s _ => s)

def dimmerChannel : Branch (KnxBody DimmerPoint) :=
  .element "channel" []
    (fun s node => { s with slot :=
      { key := { s.slot.key with point := channelMode node s.slot.key.point }
        bright := { s.slot.bright with point := channelMode node s.slot.bright.point } } })
    ([dimmerSwitch, brightness].map (.lift KnxBody.slot fun s slot => { s with slot := slot }))
    (fun s _ => s.next {})

/-- `ParseKnxDimmerCfg`. -/
def knxDimmer : CellClass (KnxBody DimmerPoint) where
  init := { slot := {} }
  product := actuator
  own := [sharedLibrary, phyAddr, onlineCheck, dimmerChannel]
  mode := .knx
  numbered := true
  primaryType s := Config.DeviceType.knxDimmerOneKey.code + s.keySum - 1

/-- `DiTriggerLevel_e`. -/
inductive DiLevel where
  | low
  | high
  deriving DecidableEq, Repr

structure DiBody where
  szUUID : Option Text := none
  szAuthKey : Option Text := none
  eLevel : DiLevel := .low
  channel : Nat := 0
  cmd : Text := []
  dataPoint : Nat := 0
  deriving DecidableEq

/-- The command that reads one of the four inputs. -/
def diCmd (channel : Nat) (cmd : Text) : Text :=
  match channel with
  | 1 => "cat /sys/class/dry-interface/di1/value".toList
  | 2 => "cat /sys/class/dry-interface/di2/value".toList
  | 3 => "cat /sys/class/dry-interface/di3/value".toList
  | 4 => "cat /sys/class/dry-interface/di4/value".toList
  | _ => cmd

/-- `ParseDiCfg`. -/
def di : CellClass DiBody where
  init := {}
  product s := s
  own :=
    [.content "UUID" {} fun s uuid => { s with szUUID := some uuid },
      .content "AUTHKEY" {} fun s key => { s with szAuthKey := some key },
      .content "Trigger" { null := some .exits } fun s level =>
        if "low".toList.isPrefixOf level then { s with eLevel := .low }
        else if "high".toList.isPrefixOf level then { s with eLevel := .high }
        else s,
      .number "Channel" false fun s channel =>
        { s with
          channel := (channel % 2 ^ 8).toNat
          cmd := diCmd (channel % 2 ^ 8).toNat s.cmd },
      .number "DataPoint" false fun s dp => { s with dataPoint := (dp % 2 ^ 8).toNat }]
  mode := .dio
  numbered := false
  primaryType _ := 0

/-- `DoOutStatus_e`. -/
inductive DoLevel where
  | opened
  | closed
  deriving DecidableEq, Repr

structure DoBody where
  szUUID : Option Text := none
  szAuthKey : Option Text := none
  eLevel : DoLevel := .opened
  channel : Nat := 0
  dataPoint : Nat := 0
  deriving DecidableEq

/-- `ParseDoCfg`. -/
def doCfg : CellClass DoBody where
  init := {}
  product s := s
  own :=
    [.content "UUID" {} fun s uuid => { s with szUUID := some uuid },
      .content "AUTHKEY" {} fun s key => { s with szAuthKey := some key },
      .content "Output" {} fun s level =>
        if "open".toList.isPrefixOf level then { s with eLevel := .opened }
        else if "close".toList.isPrefixOf level then { s with eLevel := .closed }
        else s,
      .number "Channel" false fun s channel => { s with channel := (channel % 2 ^ 8).toNat },
      .number "DataPoint" false fun s dp => { s with dataPoint := (dp % 2 ^ 8).toNat }]
  mode := .dio
  numbered := false
  primaryType _ := 0

end HiMaxGateway.Xml
