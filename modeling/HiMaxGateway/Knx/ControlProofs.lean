import HiMaxGateway.Knx.Control
import Mathlib.Data.List.Nodup

/-! A command of the write queue is sent at most once and touches one point. -/
namespace HiMaxGateway.Knx
open CText Walk Loop

/-- Only the value of a point changes, and only if the point has the id. -/
def CtrlPoint.Touched (dpid : Nat) (p q : CtrlPoint) : Prop :=
  (∃ value, q = { p with value }) ∧ (p.id ≠ dpid → q = p)

def CtrlObj.Touched (dpid : Nat) (p q : CtrlObj) : Prop :=
  (∃ value, q = { p with value }) ∧ (p.cloudPoint ≠ dpid → q = p)

structure SmartChannel.Touched (dpid : Nat) (c d : SmartChannel) : Prop where
  key : c.key.Touched dpid d.key
  scene : c.scene.Touched dpid d.scene
  mode : c.mode.Touched dpid d.mode

structure DimmerChannel.Touched (dpid : Nat) (c d : DimmerChannel) : Prop where
  key : c.key.Touched dpid d.key
  bright : c.bright.Touched dpid d.bright

inductive CtrlBody.Touched (dpid : Nat) : CtrlBody → CtrlBody → Prop where
  | climate (kind : Climate) {objs objs' : CtrlSlot → Option CtrlObj}
      (each : ∀ slot, Option.Rel (CtrlObj.Touched dpid) (objs slot) (objs' slot)) :
      Touched dpid (.climate kind objs) (.climate kind objs')
  | panel {keys keys' : List CtrlPoint} (each : List.Forall₂ (CtrlPoint.Touched dpid) keys keys') :
      Touched dpid (.panel keys) (.panel keys')
  | smartPanel {chl chl' : List SmartChannel}
      (each : List.Forall₂ (SmartChannel.Touched dpid) chl chl') :
      Touched dpid (.smartPanel chl) (.smartPanel chl')
  | dimmer {chl chl' : List DimmerChannel}
      (each : List.Forall₂ (DimmerChannel.Touched dpid) chl chl') :
      Touched dpid (.dimmer chl) (.dimmer chl')
  | curtain {pOpen pClose pStop pOpen' pClose' pStop' : Option CtrlPoint}
      (first : Option.Rel (CtrlPoint.Touched dpid) pOpen pOpen')
      (second : Option.Rel (CtrlPoint.Touched dpid) pClose pClose')
      (third : Option.Rel (CtrlPoint.Touched dpid) pStop pStop') :
      Touched dpid (.curtain pOpen pClose pStop) (.curtain pOpen' pClose' pStop')

structure CtrlDevice.Kept (dpid : Nat) (dev after : CtrlDevice) : Prop where
  element : after.element = dev.element
  control : after.control = dev.control
  body : dev.body.Touched dpid after.body

/-- What a command may leave of a device: other devices as they are, of its own device all but
the value of the point it names. -/
structure CtrlDevice.Touched (cmd : KnxWrite) (dev after : CtrlDevice) : Prop
    extends dev.Kept cmd.obj.dpid after where
  own : dev.element.devId ≠ cmd.devId → after = dev

/-- The number of successful calls of `EIBSendAPDU`. -/
def sends (events : List CtrlEvent) : Nat := events.countP CtrlEvent.sent

section

variable {dpid : Nat}

theorem CtrlPoint.Touched.refl (p : CtrlPoint) : p.Touched dpid p := ⟨⟨p.value, rfl⟩, fun _ => rfl⟩

theorem CtrlPoint.Touched.set {p : CtrlPoint} (named : p.id = dpid) (value : Nat) :
    p.Touched dpid { p with value } := ⟨⟨value, rfl⟩, fun other => absurd named other⟩

theorem CtrlObj.Touched.refl (p : CtrlObj) : p.Touched dpid p := ⟨⟨p.value, rfl⟩, fun _ => rfl⟩

theorem CtrlObj.Touched.set {p : CtrlObj} (named : p.cloudPoint = dpid) (value : Nat) :
    p.Touched dpid { p with value } := ⟨⟨value, rfl⟩, fun other => absurd named other⟩

theorem rel_refl {α : Type} {r : α → α → Prop} (same : ∀ a, r a a) (a : Option α) :
    Option.Rel r a a := by
  cases a with
  | none => exact .none
  | some a => exact .some (same a)

theorem SmartChannel.Touched.refl (c : SmartChannel) : c.Touched dpid c :=
  ⟨.refl _, .refl _, .refl _⟩

theorem DimmerChannel.Touched.refl (c : DimmerChannel) : c.Touched dpid c := ⟨.refl _, .refl _⟩

theorem CtrlBody.Touched.refl (body : CtrlBody) : body.Touched dpid body := by
  cases body with
  | climate kind objs => exact .climate kind fun slot => rel_refl CtrlObj.Touched.refl _
  | panel keys => exact .panel (List.forall₂_same.mpr fun p _ => .refl p)
  | smartPanel chl => exact .smartPanel (List.forall₂_same.mpr fun c _ => .refl c)
  | dimmer chl => exact .dimmer (List.forall₂_same.mpr fun c _ => .refl c)
  | curtain pOpen pClose pStop =>
    exact .curtain (rel_refl CtrlPoint.Touched.refl _) (rel_refl CtrlPoint.Touched.refl _)
      (rel_refl CtrlPoint.Touched.refl _)

theorem CtrlBody.Touched.handler {body after : CtrlBody} (touched : body.Touched dpid after) :
    after.handler = body.handler := by
  cases touched with
  | climate kind each => cases kind <;> rfl
  | panel each | smartPanel each | dimmer each => rfl
  | curtain first second third => rfl

theorem CtrlDevice.Kept.refl (dev : CtrlDevice) : dev.Kept dpid dev := ⟨rfl, rfl, .refl _⟩

theorem CtrlDevice.Touched.refl {cmd : KnxWrite} (dev : CtrlDevice) : dev.Touched cmd dev :=
  ⟨.refl dev, fun _ => rfl⟩

end

section

variable {env : Replies} {cmd : KnxWrite} {dev : CtrlDevice} {dpid : Nat}

/-- A visit sends at most one telegram, and none if the loop goes on. -/
structure SendsOnce {α : Type} (step : Step CtrlState α CtrlEvent) : Prop where
  once : sends step.events ≤ 1
  goes : step.flow = .next → sends step.events = 0

theorem transmit_sends (gAddr : Option Nat) (apdu : List Nat) (s : CtrlState) :
    sends (transmit env gAddr apdu s).2.2 = if (transmit env gAddr apdu s).1 then 1 else 0 := by
  rw [transmit]
  split
  · rfl
  · split
    · rfl
    · by_cases failed : env.eibSendAPDU s.calls = -1 <;> simp [sends, CtrlEvent.sent, failed]

theorem climateReport_sends (s : CtrlState) : sends (climateReport env cmd dev s).2 = 0 := by
  rw [climateReport]
  split <;> rfl

theorem pointReport_sends (key : Text) (point : CtrlPoint) (obj : DpObj) (s : CtrlState) :
    sends (pointReport env key point obj s).2 = 0 := by
  rw [pointReport]
  split <;> rfl

theorem sends_append (first second : List CtrlEvent) :
    sends (first ++ second) = sends first + sends second := List.countP_append

theorem SendsOnce.quiet {α : Type} {step : Step CtrlState α CtrlEvent}
    (none : sends step.events = 0) : SendsOnce step := ⟨by omega, fun _ => none⟩

theorem pointSend_once {α : Type} (gAddr : Nat) (apdu : List Nat) (s : CtrlState)
    {reports : List CtrlEvent} (silent : sends reports = 0) (value : α) :
    SendsOnce (pointSend env gAddr apdu s reports value) := by
  have telegram := @transmit_sends env (some gAddr) apdu s
  rw [pointSend]
  constructor
  · simp only [sends_append, silent, telegram]
    split <;> omega
  · simp only [sends_append, silent, telegram]
    cases (transmit env (some gAddr) apdu s).1 <;> simp

theorem panelCtrlKey_once (s : CtrlState) (key : CtrlPoint) :
    SendsOnce (panelCtrlKey env cmd dev s key) := by
  rw [panelCtrlKey]
  split
  · simp only
    split
    · exact .quiet rfl
    · exact pointSend_once _ _ _ (pointReport_sends _ _ _ _) _
  · exact .quiet rfl

theorem smartPanelCtrlChannel_once (s : CtrlState) (chl : Nat × SmartChannel) :
    SendsOnce (smartPanelCtrlChannel env cmd dev s chl) := by
  obtain ⟨i, chl⟩ := chl
  simp only [smartPanelCtrlChannel]
  split
  · split
    · split
      · exact .quiet rfl
      · exact pointSend_once _ _ _ rfl _
    · exact .quiet rfl
  · split
    · split
      · split
        · exact .quiet rfl
        · exact pointSend_once _ _ _ rfl _
      · exact .quiet rfl
    · split
      · split
        · exact .quiet rfl
        · split <;> exact .quiet rfl
      · exact .quiet rfl

theorem dimmerCtrlChannel_once (s : CtrlState) (chl : DimmerChannel) :
    SendsOnce (dimmerCtrlChannel env cmd dev s chl) := by
  rw [dimmerCtrlChannel]
  split
  · split
    · exact .quiet rfl
    · simp only
      split
      · exact .quiet rfl
      · exact pointSend_once _ _ _ (pointReport_sends _ _ _ _) _
  · split
    · simp only
      split
      · exact .quiet rfl
      · exact pointSend_once _ _ _ (pointReport_sends _ _ _ _) _
    · exact .quiet rfl

theorem panelCtrlKey_touched (s : CtrlState) (key : CtrlPoint) :
    key.Touched cmd.obj.dpid (panelCtrlKey env cmd dev s key).value := by
  rw [panelCtrlKey]
  split
  · rename_i named
    simp only
    split <;> exact .set named _
  · exact .refl key

theorem smartPanelCtrlChannel_touched (s : CtrlState) (i : Nat) (chl : SmartChannel) :
    ∃ after, (smartPanelCtrlChannel env cmd dev s (i, chl)).value = (i, after) ∧
      chl.Touched cmd.obj.dpid after := by
  simp only [smartPanelCtrlChannel]
  split
  · rename_i named
    have key : ∀ value, chl.Touched cmd.obj.dpid { chl with key := { chl.key with value } } :=
      fun value => ⟨.set named value, .refl _, .refl _⟩
    split
    · split <;> exact ⟨_, rfl, key _⟩
    · exact ⟨_, rfl, .refl _⟩
  · split
    · split
      · split <;> exact ⟨_, rfl, .refl _⟩
      · exact ⟨_, rfl, .refl _⟩
    · split
      · rename_i named
        have mode :
            ∀ value, chl.Touched cmd.obj.dpid { chl with mode := { chl.mode with value } } :=
          fun value => ⟨.refl _, .refl _, .set named value⟩
        split
        · exact ⟨_, rfl, mode _⟩
        · split <;> exact ⟨_, rfl, mode _⟩
      · exact ⟨_, rfl, .refl _⟩

theorem dimmerCtrlChannel_touched (s : CtrlState) (chl : DimmerChannel) :
    chl.Touched cmd.obj.dpid (dimmerCtrlChannel env cmd dev s chl).value := by
  rw [dimmerCtrlChannel]
  split
  · rename_i named
    have bright : ∀ value,
        chl.Touched cmd.obj.dpid { chl with bright := { chl.bright with value } } :=
      fun value => ⟨.refl _, .set named value⟩
    split
    · exact .refl chl
    · simp only
      split <;> exact bright _
  · split
    · rename_i named
      have key : ∀ value, chl.Touched cmd.obj.dpid { chl with key := { chl.key with value } } :=
        fun value => ⟨.set named value, .refl _⟩
      simp only
      split <;> exact key _
    · exact .refl chl

theorem partsCtrl_once {α : Type} {visit : CtrlState → α → Step CtrlState α CtrlEvent}
    (each : ∀ s a, SendsOnce (visit s a)) (rebuild : List α → CtrlDevice) (parts : List α)
    (s : CtrlState) : sends (partsCtrl visit rebuild parts s).events ≤ 1 :=
  loop_count_le_one visit (fun s a => (each s a).once) (fun s a => (each s a).goes) parts _

theorem ctrlHit_some {objs : CtrlSlot → Option CtrlObj} {slots : List CtrlSlot} {slot : CtrlSlot}
    {obj : CtrlObj} (hit : ctrlHit objs dpid slots = some (slot, obj)) :
    objs slot = some obj ∧ obj.cloudPoint = dpid := by
  obtain ⟨t, -, found⟩ := List.exists_of_findSome?_eq_some hit
  split at found
  · rename_i o here
    split at found
    · cases found
      exact ⟨here, ‹_›⟩
    · simp at found
  · simp at found

/-- What a control handler may do to a device with the id of the command. -/
structure CtrlSpec (cmd : KnxWrite) (dev : CtrlDevice)
    (step : Step CtrlState CtrlDevice CtrlEvent) : Prop where
  once : sends step.events ≤ 1
  kept : dev.Kept cmd.obj.dpid step.value

theorem climateCtrl_spec {kind : Climate} {objs : CtrlSlot → Option CtrlObj}
    (body : dev.body = .climate kind objs) (s : CtrlState) :
    CtrlSpec cmd dev (climateCtrl kind objs env cmd s dev) := by
  rw [climateCtrl]
  split
  · rename_i control slot obj plugin hit
    obtain ⟨here, named⟩ := ctrlHit_some hit
    have touched : ∀ value, dev.body.Touched cmd.obj.dpid
        (.climate kind fun t => if t = slot then some { obj with value } else objs t) := by
      intro value
      rw [body]
      refine .climate kind fun t => ?_
      by_cases same : t = slot
      · subst t
        simpa [here] using CtrlObj.Touched.set named value
      · simpa [same] using rel_refl CtrlObj.Touched.refl _
    simp only
    split
    · exact ⟨by simp [sends], rfl, rfl, touched _⟩
    · refine ⟨?_, rfl, rfl, touched _⟩
      simp only [sends_append, climateReport_sends, transmit_sends]
      split <;> omega
  · exact ⟨by simp [sends], .refl dev⟩

theorem curtainSend_spec {bit : Nat} {point : Option CtrlPoint} {store : CtrlPoint → CtrlDevice}
    (kept : ∀ p, point = some p → p.id = cmd.obj.dpid →
      dev.Kept cmd.obj.dpid (store { p with value := bit })) (s : CtrlState) :
    CtrlSpec cmd dev (curtainSend env cmd bit point store dev s) := by
  have telegram : ∀ gAddr apdu, sends (transmit env gAddr apdu s).2.2 ≤ 1 := by
    intro gAddr apdu
    rw [transmit_sends]
    split <;> omega
  cases point with
  | none => exact ⟨by simp [curtainSend, sends], .refl dev⟩
  | some p =>
    simp only [curtainSend]
    split
    · rename_i named
      split
      · exact ⟨by simp [sends], kept p rfl named⟩
      · exact ⟨telegram _ _, kept p rfl named⟩
    · exact ⟨telegram _ _, .refl dev⟩

theorem knxCurtainCtrl_spec {pOpen pClose pStop : Option CtrlPoint}
    (body : dev.body = .curtain pOpen pClose pStop) (s : CtrlState) :
    CtrlSpec cmd dev (knxCurtainCtrl pOpen pClose pStop env cmd s dev) := by
  have same : ∀ point : Option CtrlPoint,
      Option.Rel (CtrlPoint.Touched cmd.obj.dpid) point point := rel_refl CtrlPoint.Touched.refl
  rw [knxCurtainCtrl]
  split
  · apply curtainSend_spec
    rintro p rfl named
    refine ⟨rfl, rfl, ?_⟩
    rw [body]
    exact .curtain (.some (.set named 0)) (same _) (same _)
  · split
    · apply curtainSend_spec
      rintro p rfl named
      refine ⟨rfl, rfl, ?_⟩
      rw [body]
      exact .curtain (same _) (.some (.set named 1)) (same _)
    · split
      · apply curtainSend_spec
        rintro p rfl named
        refine ⟨rfl, rfl, ?_⟩
        rw [body]
        exact .curtain (same _) (same _) (.some (.set named 0))
      · exact ⟨by simp [sends], .refl dev⟩

/-- Channels with their numbers, as the loop over them leaves them. -/
theorem smartPanelCtrl_channels (chl : List SmartChannel) (s : CtrlState) :
    List.Forall₂ (SmartChannel.Touched cmd.obj.dpid) chl
      ((loop (smartPanelCtrlChannel env cmd dev) s (chl.zipIdx.map Prod.swap)).value.map
        (·.2)) := by
  have each : List.Forall₂ (fun a b => a.2.Touched cmd.obj.dpid b.2) (chl.zipIdx.map Prod.swap)
      (loop (smartPanelCtrlChannel env cmd dev) s (chl.zipIdx.map Prod.swap)).value := by
    apply loop_forall₂
    · intro a
      exact .refl a.2
    · intro s a
      obtain ⟨after, same, touched⟩ := @smartPanelCtrlChannel_touched env cmd dev s a.1 a.2
      rw [same]
      exact touched
  have numbered : (chl.zipIdx.map Prod.swap).map (·.2) = chl := by
    simp [List.map_map, Function.comp_def]
  rw [List.forall₂_map_right_iff]
  nth_rewrite 1 [← numbered]
  rwa [List.forall₂_map_left_iff]

theorem ctrlDevice_spec (s : CtrlState) : CtrlSpec cmd dev (ctrlDevice env cmd s dev) := by
  rw [ctrlDevice]
  split
  · rename_i kind objs body
    exact climateCtrl_spec body s
  · rename_i keys body
    refine ⟨partsCtrl_once panelCtrlKey_once _ keys s, rfl, rfl, ?_⟩
    rw [body]
    exact .panel (loop_forall₂ _ .refl panelCtrlKey_touched keys _)
  · rename_i chl body
    refine ⟨partsCtrl_once smartPanelCtrlChannel_once _ _ s, rfl, rfl, ?_⟩
    rw [body]
    exact .smartPanel (smartPanelCtrl_channels chl _)
  · rename_i chl body
    refine ⟨partsCtrl_once dimmerCtrlChannel_once _ chl s, rfl, rfl, ?_⟩
    rw [body]
    exact .dimmer (loop_forall₂ _ .refl dimmerCtrlChannel_touched chl _)
  · rename_i pOpen pClose pStop body
    exact knxCurtainCtrl_spec body s

/-- A node that a handler does not take: another class or another id. -/
theorem ctrlNode_quiet {handler : Handler} {node : Option CtrlDevice}
    (other : ∀ dev, node = some dev →
    ¬ (dev.body.handler = handler ∧ dev.element.devId = cmd.devId)) :
    Quiet (handler.ctrlNode env cmd) node := by
  intro s
  cases node with
  | none => rfl
  | some dev => simp only [Handler.ctrlNode, if_neg (other dev rfl)]

/-- No device but one has the id of the command. -/
def Stranger (cmd : KnxWrite) (nodes : Nodes CtrlDevice) : Prop :=
  ∀ dev, some dev ∈ nodes → dev.element.devId ≠ cmd.devId

theorem stranger_quiet {nodes : Nodes CtrlDevice} (strangers : Stranger cmd nodes)
    (handler : Handler) : ∀ node ∈ nodes, Quiet (handler.ctrlNode env cmd) node := by
  rintro node member
  apply ctrlNode_quiet
  rintro dev rfl ⟨-, same⟩
  exact strangers dev member same

theorem dispatch_stranger {nodes : Nodes CtrlDevice} (strangers : Stranger cmd nodes)
    (handlers : List Handler) (calls : Nat) :
    dispatch env cmd calls nodes handlers = ⟨nodes, []⟩ := by
  induction handlers with
  | nil => rfl
  | cons handler rest ih =>
    have quiet := loop_quiet (handler.ctrlNode env cmd) (stranger_quiet strangers handler) { calls }
    simp [dispatch, Handler.ctrl, quiet, ih]

section

variable {before after : Nodes CtrlDevice} (earlier : Stranger cmd before)
  (later : Stranger cmd after)

include earlier later

/-- The handlers of other classes leave the list as it is. -/
theorem dispatch_other {handlers : List Handler} (other : dev.body.handler ∉ handlers)
    (calls : Nat) :
    dispatch env cmd calls (before ++ some dev :: after) handlers =
      ⟨before ++ some dev :: after, []⟩ := by
  induction handlers with
  | nil => rfl
  | cons handler rest ih =>
    have quiet : ∀ node ∈ before ++ some dev :: after, Quiet (handler.ctrlNode env cmd) node := by
      intro node member
      simp only [List.mem_append, List.mem_cons] at member
      rcases member with member | rfl | member
      · exact stranger_quiet earlier handler node member
      · apply ctrlNode_quiet
        rintro dev' same ⟨class_, -⟩
        cases same
        exact other (by simp [class_])
      · exact stranger_quiet later handler node member
    have run := loop_quiet (handler.ctrlNode env cmd) quiet { calls }
    simp [dispatch, Handler.ctrl, run, ih fun member => other (by simp [member])]

/-- The handler of its class is the only one that acts on the device. -/
theorem dispatch_own (own : dev.element.devId = cmd.devId) {handlers : List Handler}
    (distinct : handlers.Nodup) (calls : Nat) :
    sends (dispatch env cmd calls (before ++ some dev :: after) handlers).events ≤ 1 ∧
      ∃ dev', dev.Kept cmd.obj.dpid dev' ∧
        (dispatch env cmd calls (before ++ some dev :: after) handlers).nodes =
          before ++ some dev' :: after := by
  induction handlers generalizing calls with
  | nil => exact ⟨by simp [dispatch, sends], dev, .refl dev, rfl⟩
  | cons handler rest ih =>
    obtain ⟨fresh, distinct⟩ := List.nodup_cons.mp distinct
    have run := loop_single (handler.ctrlNode env cmd) (some dev) (stranger_quiet earlier handler)
      (stranger_quiet later handler) { calls }
    by_cases same : dev.body.handler = handler
    · have spec := @ctrlDevice_spec env cmd dev { calls }
      have kept := spec.kept
      simp only [Handler.ctrlNode, if_pos (And.intro same own)] at run
      simp only [dispatch, Handler.ctrl, run]
      split
      · exact ⟨spec.once, _, kept, rfl⟩
      · have other : (ctrlDevice env cmd { calls } dev).value.body.handler ∉ rest := by
          rw [kept.body.handler, same]
          exact fresh
        have others := @dispatch_other env cmd (ctrlDevice env cmd { calls } dev).value before after
          earlier later rest other (ctrlDevice env cmd { calls } dev).state.calls
        rw [others]
        refine ⟨?_, _, kept, rfl⟩
        simpa [sends_append, sends] using spec.once
    · have quiet : Quiet (handler.ctrlNode env cmd) (some dev) := by
        apply ctrlNode_quiet
        rintro dev' here ⟨class_, -⟩
        cases here
        exact same class_
      rw [quiet] at run
      simp only [dispatch, Handler.ctrl, run]
      simpa using ih distinct calls

end

end

/-- For every answer of `knxd` and the SDK, a command is sent at most once, and of all the points
of all the devices only those with its id in the device with its id may change their value. -/
theorem write_once (env : Replies) (cmd : KnxWrite) (nodes : Nodes CtrlDevice)
    (distinct : (nodes.filterMap (·.map (·.element.devId))).Nodup) :
    sends (knxDevWriteEntry env cmd nodes).events ≤ 1 ∧
      List.Forall₂ (Option.Rel (CtrlDevice.Touched cmd)) nodes
        (knxDevWriteEntry env cmd nodes).nodes := by
  have same : ∀ nodes : Nodes CtrlDevice,
      List.Forall₂ (Option.Rel (CtrlDevice.Touched cmd)) nodes nodes :=
    fun nodes => List.forall₂_same.mpr fun node _ => rel_refl CtrlDevice.Touched.refl node
  by_cases strangers : Stranger cmd nodes
  · rw [knxDevWriteEntry, dispatch_stranger strangers]
    exact ⟨by simp [sends], same nodes⟩
  · simp only [Stranger, not_forall, not_not] at strangers
    obtain ⟨dev, member, own⟩ := strangers
    obtain ⟨before, after, rfl⟩ := List.append_of_mem member
    have split : ((before.filterMap (·.map (·.element.devId))) ++
        dev.element.devId :: after.filterMap (·.map (·.element.devId))).Nodup := by
      simpa [List.filterMap_append] using distinct
    have apart := List.nodup_middle.mp split
    have strangers : ∀ others : Nodes CtrlDevice, (∀ e, some e ∈ others →
        some e ∈ before ++ after) → Stranger cmd others := by
      intro others inside e member id
      have there : e.element.devId ∈ (before ++ after).filterMap (·.map (·.element.devId)) :=
        List.mem_filterMap.mpr ⟨some e, inside e member, rfl⟩
      rw [List.filterMap_append, id, ← own] at there
      exact (List.nodup_cons.mp apart).1 there
    have earlier := strangers before fun e member => List.mem_append_left _ member
    have later := strangers after fun e member => List.mem_append_right _ member
    obtain ⟨once, dev', kept, left⟩ := @dispatch_own env cmd dev before after earlier later own
      [.acd, .vent, .heat, .panel, .smartPanel, .dimmer, .curtain] (by decide) 0
    refine ⟨once, ?_⟩
    rw [knxDevWriteEntry, left]
    exact List.rel_append (same before)
      (.cons (.some ⟨kept, fun other => absurd own other⟩) (same after))

/-- A dimmer and a panel key with the same data point id. -/
def hallDevices : Nodes CtrlDevice :=
  [some { element :=
            { szName := "panel".toList, pPrimaryKey := "02c7ecdad9251101".toList, devId := 1101 }
          body := .panel [{ id := 1, pCtrl := some "1/2/3".toList }] },
    some { element :=
             { szName := "dimmer".toList, pPrimaryKey := "02c7ecdad9251102".toList, devId := 1102 }
           body := .dimmer [⟨{ id := 1, pCtrl := some "1/2/4".toList },
             { id := 2, pCtrl := some "1/2/5".toList, max := 100 }⟩] }]

def hallReplies : Replies where
  bActive := true
  report := fun _ => 0
  hbFresh := fun _ => 0
  eibSocketURL := fun _ => true
  eibOpenTGroup := fun _ => true
  eibSendAPDU := fun _ => 3

def hallWrite : KnxWrite where
  pPrimaryKey := "02c7ecdad9251102".toList
  devId := 1102
  obj := { dpid := 2, type := .value, value := 50 }

theorem hall_dimmer_written :
    sends (knxDevWriteEntry hallReplies hallWrite hallDevices).events = 1 ∧
      sends (knxDevWriteEntry hallReplies hallWrite hallDevices).events ≤ 1 ∧
      List.Forall₂ (Option.Rel (CtrlDevice.Touched hallWrite)) hallDevices
        (knxDevWriteEntry hallReplies hallWrite hallDevices).nodes :=
  ⟨by decide +kernel, write_once hallReplies hallWrite hallDevices (by decide)⟩

end HiMaxGateway.Knx
