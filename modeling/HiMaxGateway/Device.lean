import HiMaxGateway.Lib.CText

/-! The part of a configured device that all the buses share. -/
namespace HiMaxGateway
open CText

inductive DeviceAttri where
  | actuator
  | controller
  deriving DecidableEq, Repr

/-- `DeviceElement_t`. The link to the associated device is kept by each bus,
which knows what it points to. -/
structure DeviceElement where
  szName : Text
  pPrimaryKey : Text
  devId : Nat := 0
  bMaster : Bool := true
  attri : DeviceAttri := .actuator
  deriving DecidableEq, Repr

/-- A list node may hold no value; every traversal skips it. -/
abbrev Nodes (α : Type) := List (Option α)

end HiMaxGateway
