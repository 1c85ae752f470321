import HiMaxGateway.Lib.CText
import HiMaxGateway.Lib.Chain

/-! Group configuration: `ModbusDevGroup` threads the members of each group
through the `pNext` links of the devices. A device is its place in the list. -/
namespace HiMaxGateway.Modbus
open CText Chain

structure Group where
  pPrimaryKey : Text
  ppForeignKey : List Text
  deriving DecidableEq, Repr

/-- The loop over the members. `base` is `*ppBaseOwner`, which stays at the cell
behind which the last member was put. No result means that the loop does not
end: an unknown member is tried again for ever, and so is a chain without end. -/
def linkMembers (fuel : Nat) (search : Text → Option Nat) :
    (base : Nat) → List Text → Links Nat → Option (Links Nat)
  | _, [], pNext => some pNext
  | base, key :: keys, pNext =>
      match search key with
      | none => none
      | some member =>
          match last pNext fuel base with
          | none => none
          | some base => linkMembers fuel search base keys (link pNext base member)

/-- An unknown owner leaves the loop over the groups. -/
def modbusDevGroup (fuel : Nat) (search : Text → Option Nat) :
    List Group → Links Nat → Option (Links Nat)
  | [], pNext => some pNext
  | group :: groups, pNext =>
      match search group.pPrimaryKey with
      | none => some pNext
      | some owner =>
          match linkMembers fuel search owner group.ppForeignKey pNext with
          | none => none
          | some pNext => modbusDevGroup fuel search groups pNext

/-- The devices the group loop of `ModbusDevWrite` forwards a command to, in order. -/
def forwardTargets (fuel : Nat) (pNext : Links Nat) (owner : Nat) : Option (List Nat) :=
  follow pNext fuel owner

/-- The parser leaves every `pNext` empty. -/
def unlinked : Links Nat := fun _ => none

end HiMaxGateway.Modbus
