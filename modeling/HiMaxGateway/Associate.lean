import HiMaxGateway.Knx.Report
import HiMaxGateway.Modbus.Lookup

/-! `associateKnxDev` and `associateModbusDev` of `main.c`, which link the devices of both buses
at start-up. -/
namespace HiMaxGateway.Knx
open CText Walk

/-- A configured KNX device; its link is `dev.foreign`. -/
structure KnxEntry where
  dev : KnxDevice
  pForeignKey : Option Text := none

def KnxEntry.key (entry : KnxEntry) : Text := entry.dev.element.pPrimaryKey

def KnxEntry.link (entry : KnxEntry) (foreign : Option Text) : KnxEntry :=
  { entry with dev := { entry.dev with foreign } }

/-- A configured Modbus device; the parser reads its id out of its key. -/
structure MbusEntry where
  element : DeviceElement
  pForeignKey : Option Text := none
  /-- The primary key of the linked KNX device. -/
  pvForeignKey : Option Text := none
  size : Modbus.macLength ≤ element.pPrimaryKey.length
  parsed : element.devId = Modbus.parseDevId element.pPrimaryKey

/-- `listSearchKey` with what the caller does to the entry found: the entry, if any, and the
list. -/
def atFirst (found : α → Bool) (change : α → α) : Nodes α → Option α × Nodes α
  | [] => (none, [])
  | none :: rest =>
      let (hit, rest) := atFirst found change rest
      (hit, none :: rest)
  | some entry :: rest =>
      if found entry then (some entry, some (change entry) :: rest)
      else
        let (hit, rest) := atFirst found change rest
        (hit, some entry :: rest)

def KnxEntry.isVent (entry : KnxEntry) : Bool :=
  match entry.dev.body with
  | .climate .vent _ => true
  | _ => false

/-- The loop body of `associateKnxDev`; only master ventilations look for a partner. -/
def linkKnx (entry : KnxEntry) (mbus : Nodes MbusEntry) : KnxEntry × Nodes MbusEntry :=
  if entry.dev.element.bMaster && entry.isVent then
    match entry.pForeignKey with
    | none => (entry, mbus)
    | some key =>
        match atFirst (·.element.devId == Modbus.keyWord key)
          (fun found => { found with pvForeignKey := some entry.key }) mbus with
        | (none, _) => (entry, mbus)
        | (some found, mbus) =>
            (entry.link (some found.element.pPrimaryKey), mbus)
  else (entry, mbus)

def associateKnxDev : Nodes KnxEntry → Nodes MbusEntry → Nodes KnxEntry × Nodes MbusEntry
  | [], mbus => ([], mbus)
  | none :: rest, mbus =>
      let (rest, mbus) := associateKnxDev rest mbus
      (none :: rest, mbus)
  | some entry :: rest, mbus =>
      let (entry, mbus) := linkKnx entry mbus
      let (rest, mbus) := associateKnxDev rest mbus
      (some entry :: rest, mbus)

/-- The loop body of `associateModbusDev`; `KnxDevIdMatch` compares the texts. -/
def linkMbus (entry : MbusEntry) (knx : Nodes KnxEntry) : MbusEntry × Nodes KnxEntry :=
  if entry.element.bMaster then
    match entry.pForeignKey with
    | none => (entry, knx)
    | some key =>
        match atFirst (·.key == key) (·.link (some entry.element.pPrimaryKey)) knx with
        | (none, _) => (entry, knx)
        | (some found, knx) => ({ entry with pvForeignKey := some found.key }, knx)
  else (entry, knx)

def associateModbusDev : Nodes MbusEntry → Nodes KnxEntry → Nodes MbusEntry × Nodes KnxEntry
  | [], knx => ([], knx)
  | none :: rest, knx =>
      let (rest, knx) := associateModbusDev rest knx
      (none :: rest, knx)
  | some entry :: rest, knx =>
      let (entry, knx) := linkMbus entry knx
      let (rest, knx) := associateModbusDev rest knx
      (some entry :: rest, knx)

/-- The KNX list as the handlers find it. -/
def linked (knx : Nodes KnxEntry) (mbus : Nodes MbusEntry) : Nodes KnxEntry :=
  let (knx, mbus) := associateKnxDev knx mbus
  (associateModbusDev mbus knx).2

def devices (knx : Nodes KnxEntry) : Nodes KnxDevice := knx.map (Option.map (·.dev))

/-- The list `ModbusDevWrite` searches. -/
def elements (mbus : Nodes MbusEntry) : List DeviceElement := mbus.filterMap (·.map (·.element))

def keys (knx : Nodes KnxEntry) : List (Option Text) := knx.map (Option.map (·.key))

def MbusEntry.names (entry : MbusEntry) (key : Text) : Bool :=
  entry.element.bMaster && entry.pForeignKey == some key

/-- The Modbus master that names a KNX device, the last one if there are several. -/
def namedBy (key : Text) (mbus : Nodes MbusEntry) : Option DeviceElement :=
  mbus.reverse.findSome? fun node => node.bind fun entry =>
    if entry.names key then some entry.element else none

/-- The Modbus device a KNX device is linked to; only the first device with a key is found. -/
def partner (knx : Nodes KnxEntry) (mbus : Nodes MbusEntry) (i : Nat) (entry : KnxEntry) :
    Option DeviceElement :=
  if some entry.key ∈ (keys knx).take i then none else namedBy entry.key mbus

end HiMaxGateway.Knx
