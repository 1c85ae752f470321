import HiMaxGateway.Plugin.AcdDaikin
import HiMaxGateway.Plugin.AcdTg
import HiMaxGateway.Plugin.VentBroan

/-! Two devices that use one plugin with a static cache. -/
namespace HiMaxGateway.Plugin
open Sharing

inductive CachedPlugin where
  | ventBroan
  | ventBroanErdh
  | acdDaikin
  | acdTg
  deriving DecidableEq, Repr

def CachedPlugin.machine : CachedPlugin → Machine (Addr × Request) Reply
  | .ventBroan => Broan.machine
  | .ventBroanErdh => BroanErdh.machine
  | .acdDaikin => Daikin.machine
  | .acdTg => Tg.machine

/-- The calls for a device and for another one, in the order they are made. -/
def callsOf (device other : Addr) (requests : List (User × Request)) :
    List (User × Addr × Request) :=
  requests.map fun (user, request) =>
    match user with
    | .own => (.own, device, request)
    | .other => (.other, other, request)

/-- The frames built and the points parsed for the device are those of the run without the
other device. -/
def Isolated (plugin : CachedPlugin) (device other : Addr) (requests : List (User × Request)) :
    Prop :=
  (plugin.machine.run plugin.machine.init (callsOf device other requests)).map
      (List.filter (·.1 = .own)) =
    plugin.machine.run plugin.machine.init
      (callsOf device other (requests.filter (·.1 = .own)))

theorem callsOf_filter (device other : Addr) (requests : List (User × Request)) :
    (callsOf device other requests).filter (·.1 = .own) =
      callsOf device other (requests.filter (·.1 = .own)) := by
  induction requests with
  | nil => rfl
  | cons first rest ih =>
    obtain ⟨user, request⟩ := first
    cases user with
    | own => simpa [callsOf] using ih
    | other => simpa [callsOf] using ih

/-- A device whose calls never rest on a cached value that a call for the other device stored
last does not notice the other device. -/
theorem plugin_isolated (plugin : CachedPlugin) (device other : Addr)
    (requests : List (User × Request))
    (clean : plugin.machine.clean [] (callsOf device other requests) = true) :
    Isolated plugin device other requests := by
  unfold Isolated
  rw [← callsOf_filter]
  exact Machine.run_without clean fun _ _ => rfl

/-- Two devices with different bus addresses and one register address. -/
def deviceA : Addr := ⟨1, 0⟩

def deviceB : Addr := ⟨2, 0⟩

def switchOn (dpid : UInt8) : Request := .build 0 (some true) (some ⟨dpid, 1⟩)

/-- The state of the second device comes in before the first is used. -/
def sampleRequests : CachedPlugin → List (User × Request)
  | .ventBroan =>
      [(.other, .parse true [0x02, 0x03, 0x04, 0x00, 0x01, 0x00, 0x03, 0x00, 0x00]),
        (.own, switchOn 39)]
  | .ventBroanErdh =>
      [(.other, .parse true [0x02, 0x11, 0x00, 0x00, 0x00, 0x04, 0x05, 0x00, 0x00]),
        (.own, .parse true [0x01, 0x10, 0x00, 0x00, 0x00, 0x09, 0x08, 0x02, 0x3F, 0x36, 0x13, 0x00,
          0x00, 0xFF, 0x00, 0xA8, 0xFF])]
  | .acdDaikin =>
      [(.other, .parse true [0x02, 0x04, 0x0A, 0x31, 0xA9, 0x42, 0x02, 0x00, 0xAA, 0x00, 0x00, 0x01,
          0x0E]),
        (.own, switchOn 1)]
  | .acdTg =>
      [(.other, .parse true [0x02, 0x03, 0x02, 0x12, 0x34, 0x00, 0x00, 0x00]), (.own, switchOn 1)]

theorem cached_points_shared :
    ¬ Isolated .ventBroan deviceA deviceB (sampleRequests .ventBroan) ∧
    ¬ Isolated .ventBroanErdh deviceA deviceB (sampleRequests .ventBroanErdh) ∧
    ¬ Isolated .acdDaikin deviceA deviceB (sampleRequests .acdDaikin) ∧
    ¬ Isolated .acdTg deviceA deviceB (sampleRequests .acdTg) := by
  unfold Isolated
  decide +kernel

/-- The first device hears of its own state after the second was used. -/
theorem plugin_isolated_status : Isolated .ventBroan deviceA deviceB
    [(.other, switchOn 39),
      (.own, .parse true [0x01, 0x03, 0x04, 0x00, 0x01, 0x00, 0x02, 0x00, 0x00]),
        (.own, switchOn 39)] :=
  plugin_isolated .ventBroan deviceA deviceB _ (by decide +kernel)

end HiMaxGateway.Plugin
