import HiMaxGateway.Xml.Node

/-! The device lists that `parseXML.c` builds from the configuration document, as far as the type
of an entry is concerned. -/
namespace HiMaxGateway.Config
open CText
open Xml (Node keyCells lastItem itemCells)

/-- `DeviceType_u`. -/
inductive DeviceType where
  | z3PanelOneKey | z3PanelTwoKey | z3PanelThreeKey | z3PanelFourKey
  | z3PanelFiveKey | z3PanelSixKey | z3PanelSevenKey | z3PanelEightKey
  | knxPanelOneKey | knxPanelTwoKey | knxPanelThreeKey | knxPanelFourKey
  | knxPanelFiveKey | knxPanelSixKey | knxPanelSevenKey | knxPanelEightKey
  | modbusPanelOneKey | modbusPanelTwoKey | modbusPanelThreeKey | modbusPanelFourKey
  | modbusPanelFiveKey | modbusPanelSixKey | modbusPanelSevenKey | modbusPanelEightKey
  | z3DeviceAircondition | z3DeviceVentilation | z3DeviceFloorheating
  | knxDeviceAircondition | knxDeviceVentilation | knxDeviceFloorheating | knxDeviceCurtain
  | modbusDeviceAircondition | modbusDeviceVentilation | modbusDeviceFloorheating
  | modbusDeviceCurtain | modbusDeviceAqi | modbusDevicePannel | modbusDeviceHumidifier
  | modbusDevicePurifier
  | knxDimmerOneKey | knxDimmerTwoKey | knxDimmerThreeKey | knxDimmerFourKey
  | knxMiscPanelOneKey | knxMiscPanelTwoKey | knxMiscPanelThreeKey | knxMiscPanelFourKey
  deriving DecidableEq, Repr

/-- The number of an enumerator; sums with it may name no enumerator. -/
def DeviceType.code (type : DeviceType) : Nat := type.ctorIdx

/-- The structures that are allocated for list entries. -/
inductive Struct where
  | mbusAcd
  | mbusVent
  | mbusHeat
  | mbusAqi
  | mbusPanel
  | mbusCurtain
  | knxAcd
  | knxVent
  | knxHeat
  | knxPanel
  | knxSmartPanel
  | knxDimmer
  | knxCurtain
  deriving DecidableEq, Repr

/-- Entries of `pMbusDevList` and of `pKnxDevList` meet different handlers. -/
def Struct.modbus : Struct → Bool
  | .mbusAcd | .mbusVent | .mbusHeat | .mbusAqi | .mbusPanel | .mbusCurtain => true
  | _ => false

/-- The test of `primaryType` before an entry is cast to the structure. -/
def Struct.takes (struct : Struct) (primaryType : Nat) : Bool :=
  match struct with
  | .mbusAcd => primaryType = DeviceType.modbusDeviceAircondition.code
  | .mbusVent => primaryType = DeviceType.modbusDeviceVentilation.code
  | .mbusHeat => primaryType = DeviceType.modbusDeviceFloorheating.code
  | .mbusAqi => primaryType = DeviceType.modbusDeviceAqi.code
  | .mbusPanel => primaryType = DeviceType.modbusDevicePannel.code
  | .mbusCurtain => primaryType = DeviceType.modbusDeviceCurtain.code
  | .knxAcd => primaryType = DeviceType.knxDeviceAircondition.code
  | .knxVent => primaryType = DeviceType.knxDeviceVentilation.code
  | .knxHeat => primaryType = DeviceType.knxDeviceFloorheating.code
  | .knxPanel => DeviceType.knxPanelOneKey.code ≤ primaryType ∧
      primaryType ≤ DeviceType.knxPanelEightKey.code
  | .knxSmartPanel => DeviceType.knxMiscPanelOneKey.code ≤ primaryType ∧
      primaryType ≤ DeviceType.knxMiscPanelFourKey.code
  | .knxDimmer => DeviceType.knxDimmerOneKey.code ≤ primaryType ∧
      primaryType ≤ DeviceType.knxDimmerFourKey.code
  | .knxCurtain => primaryType = DeviceType.knxDeviceCurtain.code

structure Entry where
  struct : Struct
  primaryType : Nat
  deriving DecidableEq, Repr

/-- The cells at the paths of the parsers that are called, each by its children. -/
structure Document where
  mbusAcd : List (List Node) := []
  mbusVent : List (List Node) := []
  mbusHeat : List (List Node) := []
  mbusAqi : List (List Node) := []
  mbusPanel : List (List Node) := []
  mbusCurtain : List (List Node) := []
  knxAcd : List (List Node) := []
  knxVent : List (List Node) := []
  knxHeat : List (List Node) := []
  knxPanel : List (List Node) := []
  knxDimmer : List (List Node) := []
  knxSmartPanel : List (List Node) := []
  knxCurtain : List (List Node) := []

/-- Whether a parser gets past a child of a cell; where it does not, the process exits, dies or
never leaves its loop. -/
abbrev Passes := Struct → Node → Bool

-- Modbus devices with several keys: a template and an entry for each cell of its item.

/-- What the key functions differ in: the type they write for a key, and whether a key without a
text ends the process. -/
structure KeyRule where
  struct : Struct
  primaryType : DeviceType
  exits : Bool

/-- A child of a cell of the item, and the type so far. A foreign key or a room without a text
keeps the loop on the spot; a foreign type without one ends the process. -/
def parseKey (rule : KeyRule) (primaryType : Nat) (node : Node) : Option Nat :=
  if node.named "PrimaryKey" then
    match node.content? with
    | some _ => some rule.primaryType.code
    | none => if rule.exits || node.children.isEmpty then none else some primaryType
  else if node.named "ForeignKey" || node.named "ForeignType" then
    match node.content? with
    | some _ => some primaryType
    | none => none
  else if node.named "RoomNo" then
    match node.content? with
    | some room =>
        match strtol room with
        | some number => if number.erange then none else some primaryType
        | none => some primaryType
    | none => none
  else some primaryType

def parseKeyCell (rule : KeyRule) (template : Nat) (cell : Node) : Option Entry :=
  (cell.children.foldlM (parseKey rule) template).map fun primaryType => ⟨rule.struct, primaryType⟩

def parseKeys (rule : KeyRule) (template : DeviceType) (item : Node) : Option (List Entry) :=
  (keyCells item).mapM (parseKeyCell rule template.code)

def parseMbusAcdKey := parseKeys ⟨.mbusAcd, .modbusDeviceAircondition, true⟩
def parseMbusVentKey := parseKeys ⟨.mbusVent, .modbusDeviceVentilation, true⟩
def parseMbusHeatKey := parseKeys ⟨.mbusHeat, .modbusDeviceFloorheating, false⟩
def parseMbusAqiKey := parseKeys ⟨.mbusAqi, .modbusDeviceFloorheating, false⟩
def parseMbusPanelKey := parseKeys ⟨.mbusPanel, .modbusDeviceVentilation, false⟩

/-- A cell gives its type to the copies that the key function makes of it. -/
def parseItems (passes : Passes) (struct : Struct)
    (parseKeys : DeviceType → Node → Option (List Entry)) (template : DeviceType)
    (cell : List Node) : Option (List Entry) :=
  if cell.all (passes struct) then
    match lastItem cell with
    | some item => parseKeys template item
    | none => some []
  else none

/-- A parser over all the cells of its path. -/
def parseCells (parse : List Node → Option (List Entry)) (cells : List (List Node)) :
    Option (List Entry) :=
  (cells.mapM parse).map List.flatten

def parseMbusAcdCfg (passes : Passes) :=
  parseCells (parseItems passes .mbusAcd parseMbusAcdKey .modbusDeviceAircondition)

def parseMbusVentCfg (passes : Passes) :=
  parseCells (parseItems passes .mbusVent parseMbusVentKey .modbusDeviceVentilation)

def parseMbusHeatCfg (passes : Passes) :=
  parseCells (parseItems passes .mbusHeat parseMbusHeatKey .modbusDeviceFloorheating)

def parseMbusAqiCfg (passes : Passes) :=
  parseCells (parseItems passes .mbusAqi parseMbusAqiKey .modbusDeviceAqi)

def parseMbusPanelCfg (passes : Passes) :=
  parseCells (parseItems passes .mbusPanel parseMbusPanelKey .modbusDevicePannel)

def parseFixed (passes : Passes) (struct : Struct) (type : DeviceType) (cell : List Node) :
    Option (List Entry) :=
  if cell.all (passes struct) then some [⟨struct, type.code⟩] else none

def parseMbusCurtainCfg (passes : Passes) :=
  parseCells (parseFixed passes .mbusCurtain .modbusDeviceCurtain)
def parseKnxAcdCfg (passes : Passes) :=
  parseCells (parseFixed passes .knxAcd .knxDeviceAircondition)
def parseKnxVentCfg (passes : Passes) :=
  parseCells (parseFixed passes .knxVent .knxDeviceVentilation)
def parseKnxHeatCfg (passes : Passes) :=
  parseCells (parseFixed passes .knxHeat .knxDeviceFloorheating)
def parseKnxCurtainCfg (passes : Passes) :=
  parseCells (parseFixed passes .knxCurtain .knxDeviceCurtain)

/-- `keySum`, a 32-bit number. -/
def keySum (counts : Node → Bool) (cell : List Node) : Nat := cell.countP counts % 2 ^ 32

def isChannel (node : Node) : Bool := node.named "channel"

/-- A panel skips a channel without children. -/
def isPanelChannel (node : Node) : Bool := node.named "channel" && !node.children.isEmpty

/-- The type is the first enumerator of the class plus the number of channels minus one. -/
def parseChannels (passes : Passes) (struct : Struct) (first : DeviceType) (counts : Node → Bool)
    (cell : List Node) : Option (List Entry) :=
  if cell.all (passes struct) then
    some [⟨struct, (first.code + keySum counts cell - 1) % 2 ^ 32⟩]
  else none

def parseKnxPanelCfg (passes : Passes) :=
  parseCells (parseChannels passes .knxPanel .knxPanelOneKey isPanelChannel)

def parseKnxDimmerCfg (passes : Passes) :=
  parseCells (parseChannels passes .knxDimmer .knxDimmerOneKey isChannel)

def parseKnxSmartPanelCfg (passes : Passes) :=
  parseCells (parseChannels passes .knxSmartPanel .knxMiscPanelOneKey isChannel)

structure DevLists where
  pMbusDevList : List Entry
  pKnxDevList : List Entry
  deriving DecidableEq, Repr

/-- The calls of `main`, in its order; an entry goes to the end of its list. -/
def parseCfg (passes : Passes) (doc : Document) : Option DevLists := do
  let acd ← parseMbusAcdCfg passes doc.mbusAcd
  let vent ← parseMbusVentCfg passes doc.mbusVent
  let heat ← parseMbusHeatCfg passes doc.mbusHeat
  let aqi ← parseMbusAqiCfg passes doc.mbusAqi
  let panel ← parseMbusPanelCfg passes doc.mbusPanel
  let knxAcd ← parseKnxAcdCfg passes doc.knxAcd
  let knxVent ← parseKnxVentCfg passes doc.knxVent
  let knxHeat ← parseKnxHeatCfg passes doc.knxHeat
  let knxPanel ← parseKnxPanelCfg passes doc.knxPanel
  let dimmer ← parseKnxDimmerCfg passes doc.knxDimmer
  let smartPanel ← parseKnxSmartPanelCfg passes doc.knxSmartPanel
  let knxCurtain ← parseKnxCurtainCfg passes doc.knxCurtain
  let curtain ← parseMbusCurtainCfg passes doc.mbusCurtain
  return { pMbusDevList := acd ++ vent ++ heat ++ aqi ++ panel ++ curtain
           pKnxDevList :=
             knxAcd ++ knxVent ++ knxHeat ++ knxPanel ++ dimmer ++ smartPanel ++ knxCurtain }

/-- The handlers of the list take the entry for its own structure and for no other. -/
def Entry.Sound (entry : Entry) : Prop :=
  ∀ struct : Struct, struct.modbus = entry.struct.modbus →
    (struct.takes entry.primaryType = true ↔ struct = entry.struct)

def hasKey (node : Node) : Bool := node.named "PrimaryKey" && node.content?.isSome

/-- No air quality sensor and no Modbus panel has a primary key, and the number of channels of a
KNX device is one its class has an enumerator for. -/
structure WellTyped (doc : Document) : Prop where
  aqi : ∀ cell ∈ doc.mbusAqi, ∀ keys ∈ itemCells cell, keys.children.any hasKey = false
  panel : ∀ cell ∈ doc.mbusPanel, ∀ keys ∈ itemCells cell, keys.children.any hasKey = false
  knxPanel : ∀ cell ∈ doc.knxPanel, 1 ≤ keySum isPanelChannel cell ∧ keySum isPanelChannel cell ≤ 8
  dimmer : ∀ cell ∈ doc.knxDimmer, 1 ≤ keySum isChannel cell ∧ keySum isChannel cell ≤ 4
  smartPanel : ∀ cell ∈ doc.knxSmartPanel, 1 ≤ keySum isChannel cell ∧ keySum isChannel cell ≤ 4

end HiMaxGateway.Config
