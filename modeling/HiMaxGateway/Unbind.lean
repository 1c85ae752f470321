import HiMaxGateway.Device

/-! Deletion of a sub-device by the cloud: `_misc_dev_del_cb` and the three
functions it dispatches to. The cloud SDK is a parameter. -/
namespace HiMaxGateway
open CText

inductive DevTp where
  | zigbee
  | knx
  | rs485
  | usr1
  | other (tp : Nat)
  deriving DecidableEq, Repr

/-- The calls of the SDK made here, over its own state. -/
structure Sdk (σ : Type) where
  /-- `tuya_user_iot_misc_dev_desc_get`: the type in the description, if there is one. -/
  descGet : σ → Text → Option DevTp
  /-- `tuya_user_iot_misc_dev_unbind`. -/
  unbind : σ → Text → Int × σ
  /-- `tuya_user_iot_zig_del`. -/
  zigDel : σ → Text → Int × σ

namespace Sdk

variable {σ : Type} (sdk : Sdk σ)

/-- A description exists exactly for the bound devices. -/
def Bound (s : σ) (id : Text) : Prop := (sdk.descGet s id).isSome = true

instance (s : σ) (id : Text) : Decidable (sdk.Bound s id) := by
  unfold Bound
  infer_instance

/-- Unbinding, and deleting a Zigbee device, concern one device. -/
structure Lawful : Prop where
  unbind_bound : ∀ s id other, sdk.Bound (sdk.unbind s id).2 other ↔ sdk.Bound s other ∧ other ≠ id
  zigDel_keeps : ∀ s id other, other ≠ id → sdk.Bound s other → sdk.Bound (sdk.zigDel s id).2 other

end Sdk

/-- The SDK state and the devices `tuya_user_iot_misc_dev_unbind` was called for. -/
structure Cloud (σ : Type) where
  state : σ
  calls : List Text := []

section

variable {σ : Type} (sdk : Sdk σ)

/-- The body of the loops. The result of the SDK is only logged. -/
def unbindBound (cloud : Cloud σ) (element : DeviceElement) : Cloud σ :=
  match sdk.descGet cloud.state element.pPrimaryKey with
  | some _ =>
      { state := (sdk.unbind cloud.state element.pPrimaryKey).2
        calls := cloud.calls ++ [element.pPrimaryKey] }
  | none => cloud

/-- The entries a loop does not skip. -/
def selected (select : DeviceElement → Bool) (pLst : Nodes DeviceElement) : List DeviceElement :=
  (pLst.filterMap id).filter select

/-- The three unbind functions differ in the entries they skip. The device id is
received and dropped, and the result is always `-1`. A null list is an empty one. -/
def devUnbind (select : DeviceElement → Bool) (pLst : Nodes DeviceElement) (_pDevId : Text)
    (cloud : Cloud σ) : Int × Cloud σ :=
  (-1, (selected select pLst).foldl (unbindBound sdk) cloud)

def knxSelect (_ : DeviceElement) : Bool := true
def modbusSelect (element : DeviceElement) : Bool := element.bMaster
def dioSelect (element : DeviceElement) : Bool := "DI".toList.isPrefixOf element.szName

def knxDevUnbind := devUnbind sdk knxSelect
def modbusDevUnbind := devUnbind sdk modbusSelect
def dioDevUnbind := devUnbind sdk dioSelect

structure DevLists where
  pKnxDevList : Nodes DeviceElement := []
  pMbusDevList : Nodes DeviceElement := []
  pDioDevList : Nodes DeviceElement := []

/-- The results of the branches only decide between two ways to return. -/
def miscDevDelCb (lists : DevLists) (devId : Text) (cloud : Cloud σ) : Cloud σ :=
  match sdk.descGet cloud.state devId with
  | none => cloud
  | some .zigbee => { cloud with state := (sdk.zigDel cloud.state devId).2 }
  | some .knx => (knxDevUnbind sdk lists.pKnxDevList devId cloud).2
  | some .rs485 => (modbusDevUnbind sdk lists.pMbusDevList devId cloud).2
  | some .usr1 => (dioDevUnbind sdk lists.pDioDevList devId cloud).2
  | some (.other _) => cloud

end

end HiMaxGateway
