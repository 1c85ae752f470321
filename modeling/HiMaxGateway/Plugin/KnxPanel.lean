import HiMaxGateway.Knx.ClimateControl
import HiMaxGateway.Plugin.KnxTemp
import Mathlib.Tactic.IntervalCases

/-! The control side of the KNX plugins with a two-byte temperature, and the payload their values
are sent in. -/
namespace HiMaxGateway.Plugin
open CText Knx

/-- What `knx_dev_control` of a plugin stores in the object; a point it does not know keeps its
value. -/
abbrev Control := CtrlSlot → DpObj → CtrlObj → Nat

def tempWord (pObj : DpObj) : Nat := (convetTemp2Uint16 pObj.value).toNat

/-- `dp_enum` cut to the 16 bits of the object. -/
def enumWord (pObj : DpObj) : Nat := (pObj.value % 2 ^ 16).toNat

/-- `knx_heat_panel.c`. -/
def heatPanelControl : Control
  | .switch, pObj, _ => dpBool pObj
  | .temp, pObj, _ => tempWord pObj
  | .speed, _, pCtrl | .mode, _, pCtrl => pCtrl.value

/-- `KNX_FloorHeating_Sdk_H8C09.c`. -/
def heatSdkControl : Control := heatPanelControl

/-- `KNX_Aircondition_STEC.c`. -/
def acdStecControl : Control
  | .switch, pObj, _ => dpBool pObj
  | .temp, pObj, _ => tempWord pObj
  | .mode, pObj, pCtrl =>
      if pObj.value = 0 then 1 else if pObj.value = 1 then 2 else if pObj.value = 2 then 4
      else if pObj.value = 3 then 3 else pCtrl.value
  | .speed, pObj, _ =>
      if pObj.value = 1 then 3 else if pObj.value = 3 then 1 else enumWord pObj

/-- `KNX_Acd_General.c`. -/
def acdGeneralControl : Control
  | .switch, pObj, _ => dpBool pObj
  | .temp, pObj, _ => tempWord pObj
  | .mode, pObj, pCtrl =>
      if pObj.value = 0 then 1 else if pObj.value = 1 then 2 else if pObj.value = 2 then 4
      else if pObj.value = 3 then 8 else pCtrl.value
  | .speed, pObj, pCtrl =>
      if pObj.value = 0 then 0 else if pObj.value = 1 then 1 else if pObj.value = 2 then 2
      else if pObj.value = 3 then 4 else pCtrl.value

/-- `knx_acd_panel.c`. -/
def acdPanelControl : Control := acdGeneralControl

/-- `KNX_Aircondition_Water.c`. -/
def acdWaterControl : Control
  | .switch, pObj, _ => dpBool pObj
  | .temp, pObj, _ => tempWord pObj
  | .mode, pObj, pCtrl =>
      if pObj.value = 0 then 1 else if pObj.value = 1 then 2 else pCtrl.value
  | .speed, pObj, _ => (enumWord pObj + 1) % 2 ^ 16

/-- `KNX_Aircondition_Sdk_H8C09.c`. -/
def acdSdkControl : Control
  | .switch, pObj, _ => dpBool pObj
  | .temp, pObj, _ => tempWord pObj
  | .mode, pObj, pCtrl =>
      if pObj.value = 0 then 0 else if pObj.value = 1 then 1 else if pObj.value = 2 then 3
      else if pObj.value = 3 then 2 else pCtrl.value
  | .speed, pObj, _ => enumWord pObj

/-- The plugins of a class of devices that send a temperature in two bytes. -/
def tempPlugins : Climate → List Control
  | .acd => [acdStecControl, acdGeneralControl, acdPanelControl, acdWaterControl, acdSdkControl]
  | .heat => [heatPanelControl, heatSdkControl]
  | .vent => []

/-- The command names a temperature point, within the range of the data point, in every device it
is for; each of them has one of the plugins of its class. -/
structure TempCommand (kind : Climate) (cmd : KnxWrite) (nodes : Nodes CtrlDevice) : Prop where
  low : 0 ≤ cmd.obj.value
  high : cmd.obj.value ≤ 40
  temp : ∀ dev, some dev ∈ nodes → dev.body.handler = kind.handler → dev.element.devId = cmd.devId →
    ∃ objs control obj, dev.body = .climate kind objs ∧ dev.control = some control ∧
      control ∈ tempPlugins kind ∧ ctrlHit objs cmd.obj.dpid kind.ctrlSlots = some (.temp, obj)

/-- Every telegram for the command holds the word in two bytes, the most significant first. -/
def SendsTwoBytes (kind : Climate) (cmd : KnxWrite) (nodes : Nodes CtrlDevice) : Prop :=
  ∀ env calls, ∀ sent ∈ telegrams (kind.handler.ctrl env cmd calls nodes).events,
    sent.2.1 = [0, 0x80, tempWord cmd.obj / 256, tempWord cmd.obj % 256]

theorem ctrlApdu_temp (value : Nat) : ctrlApdu .temp value = [0, 0x80, value / 256, value % 256] ↔
    256 ≤ value := by
  simp only [ctrlApdu, readBlock]
  split
  · simp
    omega
  · simp
    omega

theorem tempWord_large {obj : DpObj} (low : 0 ≤ obj.value) (high : obj.value ≤ 40) :
    256 ≤ tempWord obj ↔ 3 ≤ obj.value := by
  have table : ∀ v : Fin 41, 256 ≤ (convetTemp2Uint16 ((v.1 : ℤ) : ℚ)).toNat ↔ 3 ≤ v.1 := by
    decide +kernel
  obtain ⟨v, value⟩ := Int.eq_ofNat_of_zero_le low
  have row : 256 ≤ (convetTemp2Uint16 ((v : ℤ) : ℚ)).toNat ↔ 3 ≤ v := table ⟨v, by omega⟩
  rw [tempWord, value, row]
  omega

theorem control_temp {kind : Climate} {control : Control} (plugin : control ∈ tempPlugins kind)
    (pObj : DpObj) (pCtrl : CtrlObj) : control .temp pObj pCtrl = tempWord pObj := by
  cases kind with
  | acd =>
    simp only [tempPlugins, List.mem_cons, List.not_mem_nil, or_false] at plugin
    rcases plugin with rfl | rfl | rfl | rfl | rfl <;> rfl
  | heat =>
    simp only [tempPlugins, List.mem_cons, List.not_mem_nil, or_false] at plugin
    rcases plugin with rfl | rfl <;> rfl
  | vent => cases plugin

section

variable {kind : Climate} {cmd : KnxWrite} {nodes : Nodes CtrlDevice}

theorem TempCommand.apdu (command : TempCommand kind cmd nodes) {t : Target}
    (member : t ∈ targets kind cmd nodes) : t.apdu = ctrlApdu .temp (tempWord cmd.obj) := by
  obtain ⟨node, inside, bound⟩ := List.mem_filterMap.mp member
  obtain ⟨dev, rfl, found⟩ := Option.bind_eq_some_iff.mp bound
  by_cases here : dev.body.handler = kind.handler ∧ dev.element.devId = cmd.devId
  · obtain ⟨objs, control, obj, body, loaded, plugin, hit⟩ := command.temp dev inside here.1 here.2
    simp only [CtrlDevice.target, body, loaded, here.2, and_self, if_true, hit, Option.map_some,
      Option.some.injEq] at found
    rw [← found, control_temp plugin]
  · rw [CtrlDevice.target] at found
    split at found
    · rename_i kind' objs control body loaded
      split at found
      · rename_i own
        exact absurd ⟨handler_eq.mpr ⟨objs, by rw [body, own.1]⟩, own.2⟩ here
      · contradiction
    · contradiction

theorem sendsTwoBytes_iff (command : TempCommand kind cmd nodes) : SendsTwoBytes kind cmd nodes ↔
    256 ≤ tempWord cmd.obj ∨ ∀ t ∈ targets kind cmd nodes, ReadsAs t.addr 0xff := by
  constructor
  · intro two
    by_cases all : ∀ t ∈ targets kind cmd nodes, ReadsAs t.addr 0xff
    · exact .inr all
    simp only [not_forall] at all
    obtain ⟨t, member, other⟩ := all
    -- the telegram of this point is among those that are tried in vain
    have found : t ∈ (targets kind cmd nodes).filter Target.found := by
      rw [List.mem_filter]
      refine ⟨member, ?_⟩
      have unmarked : readgaddr t.addr ≠ 0xff := fun mark => other (readgaddr_iff.mp mark)
      simp [Target.found, unmarked]
    have sent : (some (readgaddr t.addr), t.apdu, (-1 : Int)) ∈
        telegrams (kind.handler.ctrl lossy cmd 0 nodes).events := by
      rw [Handler.ctrl, telegrams_eq_attempts, attempts_lossy, List.mem_map]
      exact ⟨t, found, rfl⟩
    have payload := two lossy 0 _ sent
    rw [command.apdu member] at payload
    exact .inl ((ctrlApdu_temp _).mp payload)
  · intro condition env calls sent member
    rw [Handler.ctrl, telegrams_eq_attempts] at member
    obtain ⟨t, found, -, apdu⟩ := attempts_target member
    obtain ⟨inside, unmarked⟩ := List.mem_filter.mp found
    rw [apdu, command.apdu inside]
    rcases condition with large | marked
    · exact (ctrlApdu_temp _).mpr large
    · simp [Target.found, (marked t inside).readgaddr] at unmarked

end

/-- The bytes of a value behind the service byte. -/
def payloadLength (slot : CtrlSlot) (value : Nat) : Nat := (ctrlApdu slot value).length - 2

theorem payloadLength_eq_iff (slot : CtrlSlot) (v w : Nat) :
    payloadLength slot v = payloadLength slot w ↔ slot = .switch ∨ (v < 256 ↔ w < 256) := by
  have block (value : Nat) : (readBlock value).length = if value < 256 then 1 else 2 := by
    rw [readBlock]
    split
    · rw [if_neg (by omega)]
      rfl
    · rw [if_pos (by omega)]
      rfl
  cases slot with
  | switch => simp [payloadLength, ctrlApdu]
  | speed | mode | temp =>
    simp only [payloadLength, ctrlApdu, List.length_append, block]
    split <;> split <;> simp <;> omega

theorem two_bytes_iff {kind : Climate} {cmd : KnxWrite} {nodes : Nodes CtrlDevice}
    (command : TempCommand kind cmd nodes) :
    (SendsTwoBytes kind cmd nodes ↔
      3 ≤ cmd.obj.value ∨ ∀ t ∈ targets kind cmd nodes, ReadsAs t.addr 0xff) ∧
    ∀ slot v w, payloadLength slot v = payloadLength slot w ↔
      slot = .switch ∨ (v < 256 ↔ w < 256) := by
  refine ⟨?_, payloadLength_eq_iff⟩
  rw [sendsTwoBytes_iff command, tempWord_large command.low command.high]

/-- A floor heating with the panel plugin, its setpoint at `1/4/2`. -/
def guestHeating : Nodes CtrlDevice :=
  [some { element :=
            { szName := "heat".toList, pPrimaryKey := "02c7ecdad9251105".toList, devId := 1105 }
          control := some heatPanelControl
          body := .climate .heat fun
            | .temp => some { cloudPoint := 2, addr := "1/4/2".toList }
            | _ => none }]

def guestWrite (degrees : Int) : KnxWrite where
  pPrimaryKey := "02c7ecdad9251105".toList
  devId := 1105
  obj := { dpid := 2, type := .value, value := degrees }

theorem guest_command (degrees : Fin 41) :
    TempCommand .heat (guestWrite degrees.1) guestHeating := by
  have high : (degrees.1 : Int) ≤ 40 := by omega
  refine ⟨Int.natCast_nonneg _, high, ?_⟩
  intro dev member _ _
  simp only [guestHeating, List.mem_singleton, Option.some.injEq] at member
  subst member
  exact ⟨_, _, _, rfl, rfl, List.mem_cons_self, rfl⟩

theorem two_bytes_at_twenty : SendsTwoBytes .heat (guestWrite 20) guestHeating :=
  (two_bytes_iff (guest_command 20)).1.mpr (.inl (by decide))

theorem one_byte_at_two :
    telegrams (Handler.heat.ctrl hallReplies (guestWrite 2) 0 guestHeating).events =
      [(some 0x0c02, [0, 0x80, 0xc8], 3)] ∧ ¬ SendsTwoBytes .heat (guestWrite 2) guestHeating ∧
      payloadLength .temp 0xff ≠ payloadLength .temp 0x100 := by
  have sent : telegrams (Handler.heat.ctrl hallReplies (guestWrite 2) 0 guestHeating).events =
      [(some 0x0c02, [0, 0x80, 0xc8], 3)] := by decide +kernel
  refine ⟨sent, ?_, by decide⟩
  intro two
  have payload := two hallReplies 0 (some 0x0c02, [0, 0x80, 0xc8], 3)
    (by simp only [Climate.handler, sent, List.mem_singleton])
  exact absurd (congrArg List.length payload) (by decide)

end HiMaxGateway.Plugin
