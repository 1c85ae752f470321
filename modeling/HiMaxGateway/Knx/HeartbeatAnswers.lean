import HiMaxGateway.Knx.Heartbeat

/-! When the answer to a heartbeat refreshes the device in the cloud: what a report function has to
find, class by class, and which devices in front of it hide the answer. -/
namespace HiMaxGateway.Knx
open CText CRun Walk

variable {env : Env} {telegram : Telegram} {dev : KnxDevice} {handler : Handler} {key grp : Text}

theorem cloudReport_hbFresh {obj : DpObj} :
    .hbFresh key ∈ cloudReport env dev.element.pPrimaryKey obj ↔ env.bActive = true ∧
    key = dev.element.pPrimaryKey := by
  rw [cloudReport]
  cases env.bActive <;> simp

/-- The point takes the answer, if it listens to the group and accepts the value. -/
def takes (telegram : Telegram) (accepts : Bool) (point : Option KnxPoint) : Bool :=
  accepts && point.any fun p => listens p.pGroup telegram

def pointId (point : Option KnxPoint) : Nat := (point.map (·.id % 256)).getD 0

/-- The point of a curtain that an answer stands for: the last of the three that takes it. -/
def answeredId (telegram : Telegram) (pOpen pClose pStop : Option KnxPoint) : Nat :=
  if takes telegram true pStop then pointId pStop
  else if takes telegram (telegram.value = 0) pClose then pointId pClose
  else if takes telegram (telegram.value = 1) pOpen then pointId pOpen
  else 0

/-- The answer of the device to the heartbeat is passed on to the cloud. -/
def Confirms (env : Env) (telegram : Telegram) (dev : KnxDevice) : Prop :=
  env.bActive = true ∧
    match dev.body with
    | .climate kind _ => dev.element.bMaster = true ∧ env.bound dev.element.pPrimaryKey = true ∧
        dev.report.isSome = true ∧
        (kind = .heat → (telegram.bRejected && dev.element.attri == .controller) = false)
    | .panel _ => dev.element.bMaster = true ∧ env.bound dev.element.pPrimaryKey = true
    | .smartPanel _ => unboundMaster env dev = false
    | .dimmer _ => dev.element.attri = .actuator ∧ unboundMaster env dev = false
    | .curtain pOpen pClose pStop => dev.element.bMaster = true ∧ dev.element.attri = .actuator ∧
        answeredId telegram pOpen pClose pStop ≠ 0

theorem walk_first {α : Type} {visit : α → Visit α Act} {a : α} {rest : List α} {act : Act}
    (done : act ∈ (visit a).acts) : act ∈ (walk visit (a :: rest)).2.flatMap (·.2) := by
  by_cases next : (visit a).flow = .next
  · rw [walk_cons_next visit next]
    exact List.mem_flatMap.mpr ⟨_, List.mem_cons_self, done⟩
  · rw [walk_cons_left visit next]
    exact List.mem_flatMap.mpr ⟨_, List.mem_cons_self, done⟩

theorem hit_first {objs : Slot → Option KnxObj} {rule : Rule} {rules : List Rule} {obj : KnxObj}
    (first : objs rule.slot = some obj)
    (same : knxCompareGroup obj.addr telegram.groupAddr = true) :
    hit objs telegram (rule :: rules) = some ⟨rule, obj⟩ := by
  simp [hit, first, same]

theorem bound_master (master : dev.element.bMaster = true) :
    unboundMaster env dev = false ↔ env.bound dev.element.pPrimaryKey = true := by
  simp [unboundMaster, master]

/-- The answer carries the group of the switch status, which is looked at first. -/
theorem climateVisit_hbFresh {kind : Climate} {objs : Slot → Option KnxObj} {h : Hit}
    (found : hit objs telegram kind.rules = some h) :
    .hbFresh key ∈ (climateVisit kind objs env telegram dev).acts ↔
      (env.bActive = true ∧ dev.element.bMaster = true ∧ dev.report.isSome = true) ∧
      key = dev.element.pPrimaryKey := by
  simp only [climateVisit, found]
  cases plugin : dev.report with
  | none => simp
  | some report =>
    cases master : dev.element.bMaster with
    | true => simp [cloudReport_hbFresh]
    | false =>
      cases h.rule.bFlag <;> cases env.bActive <;> cases dev.foreign <;> simp

theorem heatVisit_hbFresh {objs : Slot → Option KnxObj} {h : Hit}
    (found : hit objs telegram Climate.heat.rules = some h) :
    .hbFresh key ∈ (heatVisit objs env telegram dev).acts ↔
      (env.bActive = true ∧ dev.element.bMaster = true ∧ dev.report.isSome = true) ∧
      key = dev.element.pPrimaryKey := by
  simp only [heatVisit, found]
  cases plugin : dev.report with
  | none => simp
  | some report =>
    cases master : dev.element.bMaster with
    | true => simp [cloudReport_hbFresh]
    | false => simp

theorem panelKey_hbFresh {point : KnxPoint} :
    .hbFresh key ∈ (panelKey env telegram dev point).acts ↔
    (listens point.pFeedback telegram = true ∧ dev.element.bMaster = true ∧ env.bActive = true) ∧
      key = dev.element.pPrimaryKey := by
  rw [panelKey]
  cases listens point.pFeedback telegram with
  | false => simp
  | true =>
    cases master : dev.element.bMaster with
    | true => simp [cloudReport_hbFresh]
    | false => cases dev.foreign <;> simp

theorem smartPanelKey_hbFresh {point : KnxPoint} :
    .hbFresh key ∈ (smartPanelKey env telegram dev point).acts ↔
      (listens point.pFeedback telegram = true ∧ env.bActive = true) ∧
      key = dev.element.pPrimaryKey := by
  rw [smartPanelKey]
  cases listens point.pFeedback telegram <;> simp [cloudReport_hbFresh]

theorem dimmerKey_hbFresh {chl : DimmerPoint}
    (fresh : .hbFresh key ∈ (dimmerKey env telegram dev chl).acts) :
    (env.bActive = true ∧ dev.element.attri = .actuator) ∧ key = dev.element.pPrimaryKey := by
  rw [dimmerKey] at fresh
  cases heard : listens chl.key.pFeedback telegram with
  | false => simp [heard] at fresh
  | true =>
    rw [if_pos heard] at fresh
    cases rejected : telegram.bRejected with
    | true => cases addr : chl.bright.pFeedback <;> simp [rejected, addr] at fresh
    | false =>
      cases attri : dev.element.attri <;> cases active : env.bActive <;>
        simp [rejected, attri, active, cloudReport_hbFresh] at fresh ⊢
      exact fresh

/-- The brightness of an actuator is reported, if the gateway is active. -/
theorem dimmerChannel_reports {chl : DimmerPoint}
    (bright : listens chl.bright.pFeedback telegram = true)
    (attri : dev.element.attri = .actuator) : ∃ obj, (dimmerChannel env telegram dev chl).acts =
      if env.bActive then cloudReport env dev.element.pPrimaryKey obj else [] := by
  refine ⟨{ dpid := chl.bright.id % 256, type := .value,
            value := brightness telegram.value chl.bright.max }, ?_⟩
  rw [dimmerChannel, if_pos bright]
  dsimp only
  rw [if_pos attri]
  cases env.bActive <;> rfl

theorem dimmerChannel_hbFresh {chl : DimmerPoint}
    (fresh : .hbFresh key ∈ (dimmerChannel env telegram dev chl).acts) :
    (env.bActive = true ∧ dev.element.attri = .actuator) ∧ key = dev.element.pPrimaryKey := by
  cases bright : listens chl.bright.pFeedback telegram with
  | false =>
    rw [dimmerChannel_silent chl bright] at fresh
    exact dimmerKey_hbFresh fresh
  | true =>
    cases attri : dev.element.attri with
    | controller =>
      obtain ⟨u16, same⟩ := dimmerChannel_controller chl bright attri
      rw [same] at fresh
      exact absurd ((dimmerKey_hbFresh fresh).1.2.symm.trans attri) nofun
    | actuator =>
      obtain ⟨obj, same⟩ := dimmerChannel_reports bright attri
      rw [same] at fresh
      split at fresh
      · obtain ⟨active, own⟩ := cloudReport_hbFresh.mp fresh
        exact ⟨⟨active, rfl⟩, own⟩
      · cases fresh

theorem dimmerChannel_confirms {chl : DimmerPoint}
    (bright : listens chl.bright.pFeedback telegram = true) (active : env.bActive = true)
    (attri : dev.element.attri = .actuator) :
    .hbFresh dev.element.pPrimaryKey ∈ (dimmerChannel env telegram dev chl).acts := by
  obtain ⟨obj, same⟩ := dimmerChannel_reports bright attri
  rw [same, if_pos active]
  exact cloudReport_hbFresh.mpr ⟨active, rfl⟩

theorem curtainPoint_dpid (telegram : Telegram) (accepts : Bool) (action : Int)
    (point : Option KnxPoint) (obj : DpObj) :
    (curtainPoint telegram accepts action point obj).2.dpid =
      if takes telegram accepts point then pointId point else obj.dpid := by
  cases point with
  | none => simp [curtainPoint, takes]
  | some p =>
    cases accepts <;> cases heard :
    listens p.pGroup telegram <;> simp [curtainPoint, takes, pointId, heard]

theorem curtainStep_answered (telegram : Telegram) (pOpen pClose pStop : Option KnxPoint) :
    (curtainStep telegram pOpen pClose pStop).obj.dpid = answeredId telegram pOpen pClose
      pStop := by
  simp only [curtainStep, answeredId, curtainPoint_dpid]

/-- The answer is on the group that was read for the device. -/
def Answers (telegram : Telegram) (dev : KnxDevice) : Prop :=
  ∃ grp, heartbeatGroup dev.body = .ok (some grp) ∧ knxCompareGroup grp telegram.groupAddr = true

theorem climate_hit {kind : Climate} {objs : Slot → Option KnxObj}
    (body : dev.body = .climate kind objs) (answers : Answers telegram dev) :
    ∃ h, hit objs telegram kind.rules = some h := by
  obtain ⟨grp, asked, same⟩ := answers
  rw [body, heartbeatGroup] at asked
  cases first : objs .switchStatus with
  | none => simp [first] at asked
  | some obj =>
    have addr : obj.addr = grp := by simpa [first] using asked
    cases kind <;> exact ⟨_, hit_first first (addr ▸ same)⟩

theorem unbound_master (unbound : unboundMaster env dev = true) :
    dev.element.bMaster = true ∧ env.bound dev.element.pPrimaryKey = false := by
  simpa [unboundMaster] using unbound

theorem visit_confirms (answers : Answers telegram dev) :
    .hbFresh dev.element.pPrimaryKey ∈ (dev.body.handler.visit env telegram dev).acts ↔
    Confirms env telegram dev := by
  cases body : dev.body with
  | climate kind objs =>
    obtain ⟨h, found⟩ := climate_hit body answers
    cases kind with
    | acd =>
      simp only [Body.handler, Handler.visit, knxAcdReport, body, Confirms]
      cases bound : unboundMaster env dev with
      | true => simp [unbound_master bound]
      | false =>
        simp only [Bool.false_eq_true, if_false, climateVisit_hbFresh found, and_true]
        simp +contextual [← bound_master, bound]
    | vent =>
      simp only [Body.handler, Handler.visit, knxVentReport, body, Confirms]
      cases bound : unboundMaster env dev with
      | true => simp [unbound_master bound]
      | false =>
        simp only [Bool.false_eq_true, if_false, climateVisit_hbFresh found, and_true]
        simp +contextual [← bound_master, bound]
    | heat =>
      simp only [Body.handler, Handler.visit, knxHeatReport, body, Confirms]
      cases bound : unboundMaster env dev with
      | true => simp [unbound_master bound]
      | false =>
        cases rejected : telegram.bRejected && dev.element.attri == .controller with
        | true => simp
        | false =>
          simp only [Bool.false_eq_true, if_false, heatVisit_hbFresh found, and_true]
          simp +contextual [← bound_master, bound]
  | panel keys =>
    obtain ⟨grp, asked, same⟩ := answers
    rw [body] at asked
    simp only [Body.handler, Handler.visit, knxPanelReport, body, Confirms]
    cases bound : unboundMaster env dev with
    | true => simp [unbound_master bound]
    | false =>
      simp only [Bool.false_eq_true, if_false, innerWalk]
      constructor
      · intro fresh
        obtain ⟨point, -, fresh⟩ := walk_acts _ fresh
        obtain ⟨⟨-, master, active⟩, -⟩ := panelKey_hbFresh.mp fresh
        exact ⟨active, master, (bound_master master).mp bound⟩
      · rintro ⟨active, master, -⟩
        cases keys with
        | nil => cases asked
        | cons key keys =>
          have heard : key.pFeedback = some grp := Except.ok.inj asked
          exact walk_first (panelKey_hbFresh.mpr ⟨⟨by rw [heard]; exact same, master, active⟩, rfl⟩)
  | smartPanel keys =>
    obtain ⟨grp, asked, same⟩ := answers
    rw [body] at asked
    simp only [Body.handler, Handler.visit, knxSmartPanelReport, body, Confirms]
    cases bound : unboundMaster env dev with
    | true => simp
    | false =>
      simp only [Bool.false_eq_true, if_false, innerWalk, and_true]
      constructor
      · intro fresh
        obtain ⟨point, -, fresh⟩ := walk_acts _ fresh
        exact (smartPanelKey_hbFresh.mp fresh).1.2
      · intro active
        cases keys with
        | nil => cases asked
        | cons key keys =>
          have heard : key.pFeedback = some grp := Except.ok.inj asked
          exact walk_first (smartPanelKey_hbFresh.mpr ⟨⟨by rw [heard]; exact same, active⟩, rfl⟩)
  | dimmer chl =>
    obtain ⟨grp, asked, same⟩ := answers
    rw [body] at asked
    simp only [Body.handler, Handler.visit, knxDimmerReport, body, Confirms]
    cases bound : unboundMaster env dev with
    | true => simp
    | false =>
      simp only [Bool.false_eq_true, if_false, innerWalk, and_true]
      constructor
      · intro fresh
        obtain ⟨point, -, fresh⟩ := walk_acts _ fresh
        exact (dimmerChannel_hbFresh fresh).1
      · rintro ⟨active, attri⟩
        cases chl with
        | nil => cases asked
        | cons first chl =>
          have heard : first.bright.pFeedback = some grp := Except.ok.inj asked
          exact walk_first (dimmerChannel_confirms (by rw [heard]; exact same) active attri)
  | curtain pOpen pClose pStop =>
    simp only [Body.handler, Handler.visit, knxCurtainReport, body, Confirms, curtainStep_answered]
    by_cases silent : answeredId telegram pOpen pClose pStop = 0
    · simp [silent]
    · cases attri : dev.element.attri with
      | controller => cases dev.foreign <;> simp [silent]
      | actuator => cases master : dev.element.bMaster <;> simp [silent, cloudReport_hbFresh]

theorem climateVisit_fresh {kind : Climate} {objs : Slot → Option KnxObj}
    (fresh : .hbFresh key ∈ (climateVisit kind objs env telegram dev).acts) :
    key = dev.element.pPrimaryKey := by
  cases found : hit objs telegram kind.rules with
  | none => simp [climateVisit, found] at fresh
  | some h => exact ((climateVisit_hbFresh found).mp fresh).2

theorem heatVisit_fresh {objs : Slot → Option KnxObj}
    (fresh : .hbFresh key ∈ (heatVisit objs env telegram dev).acts) :
    key = dev.element.pPrimaryKey := by
  cases found : hit objs telegram Climate.heat.rules with
  | none => simp [heatVisit, found] at fresh
  | some h => exact ((heatVisit_hbFresh found).mp fresh).2

/-- A report function refreshes no device but the one it visits. -/
theorem visit_fresh (fresh : .hbFresh key ∈ (handler.visit env telegram dev).acts) :
    key = dev.element.pPrimaryKey := by
  by_cases own : dev.body.handler = handler
  · subst own
    cases body : dev.body with
    | climate kind objs =>
      cases kind with
      | acd =>
        simp only [body, Body.handler, Handler.visit, knxAcdReport] at fresh
        split at fresh
        · cases fresh
        · exact climateVisit_fresh fresh
      | vent =>
        simp only [body, Body.handler, Handler.visit, knxVentReport] at fresh
        split at fresh
        · cases fresh
        · exact climateVisit_fresh fresh
      | heat =>
        simp only [body, Body.handler, Handler.visit, knxHeatReport] at fresh
        split at fresh
        · cases fresh
        · split at fresh
          · cases fresh
          · exact heatVisit_fresh fresh
    | panel keys =>
      simp only [body, Body.handler, Handler.visit, knxPanelReport] at fresh
      split at fresh
      · cases fresh
      · obtain ⟨point, -, fresh⟩ := walk_acts _ fresh
        exact (panelKey_hbFresh.mp fresh).2
    | smartPanel keys =>
      simp only [body, Body.handler, Handler.visit, knxSmartPanelReport] at fresh
      split at fresh
      · cases fresh
      · obtain ⟨point, -, fresh⟩ := walk_acts _ fresh
        exact (smartPanelKey_hbFresh.mp fresh).2
    | dimmer chl =>
      simp only [body, Body.handler, Handler.visit, knxDimmerReport] at fresh
      split at fresh
      · cases fresh
      · obtain ⟨point, -, fresh⟩ := walk_acts _ fresh
        exact (dimmerChannel_hbFresh fresh).2
    | curtain pOpen pClose pStop =>
      simp only [body, Body.handler, Handler.visit, knxCurtainReport] at fresh
      split at fresh
      · cases fresh
      · cases attri : dev.element.attri with
        | controller => cases foreign : dev.foreign <;> simp [attri, foreign] at fresh
        | actuator =>
          cases master : dev.element.bMaster with
          | false => simp [attri, master] at fresh
          | true => exact (cloudReport_hbFresh.mp (by simpa [attri, master] using fresh)).2
  · rw [visit_other own] at fresh
    cases fresh

/-- No device in front blocks the report function. -/
def Unhidden (env : Env) (telegram : Telegram) (handler : Handler) (nodes : Nodes KnxDevice)
    (i : Nat) : Prop :=
  ∀ j < i, ∀ other, nodes[j]? = some (some other) → ¬ Blocks env telegram handler other

theorem unhidden_iff {nodes : Nodes KnxDevice} {i : Nat} : Unhidden env telegram handler nodes i ↔
    ∀ j < i, ∀ node, nodes[j]? = some node → (handler.visitNode env telegram node).flow =
      .next := by
  refine forall₂_congr fun j before => ⟨fun free node there => ?_, fun next other there => ?_⟩
  · exact (visitNode_next node).mpr fun other same => free other (same ▸ there)
  · exact (visitNode_next _).mp (next _ there) other rfl

/-- A device is refreshed by the visit of the report function of its class, if at all. -/
theorem run_fresh {nodes : Nodes KnxDevice} {i : Nat} (here : nodes[i]? = some (some dev))
    (own : ∀ (j : Nat) (other : KnxDevice), nodes[j]? = some (some other) →
      other.element.pPrimaryKey = dev.element.pPrimaryKey → j = i) :
    .hbFresh dev.element.pPrimaryKey ∈ (handler.run env telegram nodes).2.flatMap (·.2) ↔
      (.hbFresh dev.element.pPrimaryKey ∈ (handler.visit env telegram dev).acts ∧
        Unhidden env telegram handler nodes i) := by
  rw [unhidden_iff, List.mem_flatMap, Handler.run]
  constructor
  · rintro ⟨step, member, fresh⟩
    obtain ⟨j, at_⟩ := List.mem_iff_getElem?.mp member
    have bound := (List.getElem?_eq_some_iff.mp at_).1
    rw [walk_length] at bound
    have there : nodes[j]? = some nodes[j] := List.getElem?_eq_getElem bound
    rw [walk_getElem? _ there] at at_
    cases at_
    split at fresh
    · rename_i earlier
      cases node : nodes[j] with
      | none =>
        rw [node] at fresh
        cases fresh
      | some other =>
        rw [node] at fresh there
        have same := own j other there (visit_fresh fresh).symm
        subst same
        cases there.symm.trans here
        exact ⟨fresh, earlier⟩
    · cases fresh
  · rintro ⟨fresh, earlier⟩
    have at_ := walk_getElem? (fun node => handler.visitNode env telegram node) here
    rw [if_pos earlier] at at_
    exact ⟨_, List.mem_of_getElem? at_, fresh⟩

/-- The answer to the heartbeat of a device refreshes it exactly when the device is found to
confirm it, and no device in front of it blocks the report function of its class. -/
theorem heartbeat_refreshes {nodes : Nodes KnxDevice} {i : Nat} (here : nodes[i]? = some (some dev))
    (own : ∀ (j : Nat) (other : KnxDevice), nodes[j]? = some (some other) →
      other.element.pPrimaryKey = dev.element.pPrimaryKey → j = i)
    (alive : (knxDevMonitorEntry env telegram nodes).1 ≠ .crash) (answers : Answers telegram dev) :
    .hbFresh dev.element.pPrimaryKey ∈ (knxDevMonitorEntry env telegram nodes).2.2 ↔
      Confirms env telegram dev ∧ Unhidden env telegram dev.body.handler nodes i := by
  rw [entry_acts alive, List.mem_flatMap, ← visit_confirms answers]
  simp only [run_fresh here own]
  constructor
  · rintro ⟨handler, -, fresh, free⟩
    by_cases same : dev.body.handler = handler
    · subst same
      exact ⟨fresh, free⟩
    · rw [visit_other same] at fresh
      cases fresh
  · exact fun ⟨fresh, free⟩ => ⟨_, mem_reportHandlers _, fresh, free⟩

def panelAnswer : Telegram := { groupAddr := "1/2/3".toList, value := 0 }

theorem heartbeat_refreshes_panel :
    .hbFresh "panel".toList ∈
      (knxDevMonitorEntry corridorEnv panelAnswer [some corridorPanel]).2.2 ↔
      Confirms corridorEnv panelAnswer corridorPanel ∧ Unhidden corridorEnv panelAnswer .panel
      [some corridorPanel] 0 := by
  have here : [some corridorPanel][0]? = some (some corridorPanel) := rfl
  have answers : Answers panelAnswer corridorPanel := ⟨"1/2/3".toList, rfl, by decide⟩
  have alive : (knxDevMonitorEntry corridorEnv panelAnswer [some corridorPanel]).1 ≠ .crash := by
    decide
  refine heartbeat_refreshes here (fun j other there _ => ?_) alive answers
  cases j with
  | zero => rfl
  | succ j => cases there

end HiMaxGateway.Knx
