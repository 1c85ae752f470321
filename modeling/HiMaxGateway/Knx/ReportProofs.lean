import HiMaxGateway.Knx.Report

/-! When the devices before a device decide what a report handler does to it. -/
namespace HiMaxGateway.Knx
open CText Walk

/-- The handler leaves its loop at the first unbound master device: of its own
class in two handlers, of any class in three. -/
def Leaves (env : Env) (dev : KnxDevice) : Handler → Prop
  | .acd => (∃ objs, dev.body = .climate .acd objs) ∧ unboundMaster env dev = true
  | .heat => (∃ objs, dev.body = .climate .heat objs) ∧ unboundMaster env dev = true
  | .panel | .smartPanel | .dimmer => unboundMaster env dev = true
  | .vent | .curtain => False

/-- A controller with a plugin and a listening object, but without a Modbus device. -/
def ClimateUnlinked (env : Env) (telegram : Telegram) (kind : Climate) (dev : KnxDevice) : Prop :=
  ∃ objs h, dev.body = .climate kind objs ∧ hit objs telegram kind.rules = some h ∧
    dev.report.isSome = true ∧ dev.element.bMaster = false ∧ dev.foreign = none ∧
    (h.rule.bFlag = true → env.bActive = true)

/-- No test of an earlier channel leaves the loop over the channels. -/
def ChannelPasses (env : Env) (telegram : Telegram) (dev : KnxDevice) (chl : DimmerPoint) : Prop :=
  if listens chl.bright.pFeedback telegram = true ∧ dev.element.attri = .actuator then
    env.bActive = false
  else listens chl.key.pFeedback telegram = false

/-- A rejected telegram for a key whose brightness has no feedback address. -/
def DimmerUnlinked (env : Env) (telegram : Telegram) (dev : KnxDevice) : Prop :=
  unboundMaster env dev = false ∧ telegram.bRejected = true ∧
    ∃ before chl after, dev.body = .dimmer (before ++ chl :: after) ∧
      listens chl.key.pFeedback telegram = true ∧ chl.bright.pFeedback = none ∧
      ∀ b ∈ before, ChannelPasses env telegram dev b

/-- The handler follows a null pointer. -/
def Dies (env : Env) (telegram : Telegram) (dev : KnxDevice) : Handler → Prop
  | .acd => ClimateUnlinked env telegram .acd dev
  | .vent => ClimateUnlinked env telegram .vent dev
  | .heat => ∃ objs, dev.body = .climate .heat objs ∧ unboundMaster env dev = false ∧
      (telegram.bRejected && dev.element.attri == .controller) = false ∧
      (hit objs telegram Climate.heat.rules).isSome = true ∧ dev.report = none
  | .panel => ∃ keys, dev.body = .panel keys ∧ dev.element.bMaster = false ∧ dev.foreign = none ∧
      ∃ key ∈ keys, listens key.pFeedback telegram = true
  | .smartPanel => False
  | .dimmer => DimmerUnlinked env telegram dev
  | .curtain => ∃ pOpen pClose pStop, dev.body = .curtain pOpen pClose pStop ∧
      (curtainStep telegram pOpen pClose pStop).obj.dpid ≠ 0 ∧
      dev.element.attri = .controller ∧ dev.foreign = none

def Blocks (env : Env) (telegram : Telegram) (handler : Handler) (dev : KnxDevice) : Prop :=
  Leaves env dev handler ∨ Dies env telegram dev handler

section

variable {env : Env} {telegram : Telegram} {dev : KnxDevice}

theorem unboundMaster_of_slave (slave : dev.element.bMaster = false) :
    unboundMaster env dev = false := by
  simp [unboundMaster, slave]

theorem climateVisit_next (kind : Climate) (objs : Slot → Option KnxObj)
    (body : dev.body = .climate kind objs) :
    (climateVisit kind objs env telegram dev).flow = .next ↔
      ¬ ClimateUnlinked env telegram kind dev := by
  simp only [climateVisit, ClimateUnlinked]
  cases found : hit objs telegram kind.rules with
  | none => simp [body, found]
  | some h =>
    cases plugin : dev.report with
    | none => simp [body]
    | some report =>
      cases master : dev.element.bMaster with
      | true => simp
      | false =>
        cases foreign : dev.foreign with
        | some key =>
          cases flag : h.rule.bFlag <;> cases active : env.bActive <;> simp [flag]
        | none =>
          cases flag : h.rule.bFlag <;> cases active : env.bActive <;> simp [flag, body, found]

theorem knxAcdReport_next : (knxAcdReport env telegram dev).flow = .next ↔
    ¬ Blocks env telegram .acd dev := by
  simp only [knxAcdReport, Blocks, Leaves, Dies]
  split
  · rename_i objs body
    by_cases unbound : unboundMaster env dev = true
    · simp [unbound, body]
    · simp [unbound, climateVisit_next .acd objs body]
  · rename_i other
    have other : ∀ objs, dev.body ≠ .climate .acd objs := other
    simp [ClimateUnlinked, other]

theorem knxVentReport_next : (knxVentReport env telegram dev).flow = .next ↔
    ¬ Blocks env telegram .vent dev := by
  simp only [knxVentReport, Blocks, Leaves, Dies]
  split
  · rename_i objs body
    by_cases unbound : unboundMaster env dev = true
    · have master : dev.element.bMaster = true := by
        simp only [unboundMaster, Bool.and_eq_true] at unbound
        exact unbound.1
      simp [unbound, ClimateUnlinked, master]
    · simp [unbound, climateVisit_next .vent objs body]
  · rename_i other
    have other : ∀ objs, dev.body ≠ .climate .vent objs := other
    simp [ClimateUnlinked, other]

theorem heatVisit_next (objs : Slot → Option KnxObj) :
    (heatVisit objs env telegram dev).flow = .next ↔
      ¬ ((hit objs telegram Climate.heat.rules).isSome = true ∧ dev.report = none) := by
  rw [heatVisit]
  cases hit objs telegram Climate.heat.rules with
  | none => simp
  | some h =>
    cases dev.report with
    | none => simp
    | some report => simp

theorem knxHeatReport_next : (knxHeatReport env telegram dev).flow = .next ↔
    ¬ Blocks env telegram .heat dev := by
  simp only [knxHeatReport, Blocks, Leaves, Dies]
  split
  · rename_i objs body
    by_cases unbound : unboundMaster env dev = true
    · simp [unbound, body]
    · by_cases rejected : (telegram.bRejected && dev.element.attri == .controller) = true
      · simp [unbound, rejected]
      · simp [unbound, rejected, body, heatVisit_next]
  · rename_i other
    have other : ∀ objs, dev.body ≠ .climate .heat objs := other
    simp [other]

theorem inner_next {α β : Type} (visit : α → Visit α Act) (rebuild : List α → β) (parts : List α) :
    (innerWalk visit rebuild parts).flow = .next ↔ (walk visit parts).1 ≠ .crash := by
  rw [innerWalk]
  by_cases dies : (walk visit parts).1 = .crash <;> simp [dies]

theorem panelKey_crash (key : KnxPoint) : (panelKey env telegram dev key).flow = .crash ↔
    listens key.pFeedback telegram = true ∧ dev.element.bMaster = false ∧ dev.foreign = none := by
  rw [panelKey]
  cases listens key.pFeedback telegram <;> cases dev.element.bMaster <;>
    cases dev.foreign <;> simp

theorem panelKey_stays (key : KnxPoint) : (panelKey env telegram dev key).flow ≠ .stop := by
  rw [panelKey]
  cases listens key.pFeedback telegram <;> cases dev.element.bMaster <;>
    cases dev.foreign <;> simp

theorem knxPanelReport_next : (knxPanelReport env telegram dev).flow = .next ↔
    ¬ Blocks env telegram .panel dev := by
  simp only [knxPanelReport, Blocks, Leaves, Dies]
  by_cases unbound : unboundMaster env dev = true
  · simp [unbound]
  simp only [unbound, Bool.false_eq_true, if_false, false_or]
  split
  · rename_i keys body
    rw [inner_next, ne_eq, walk_crash_of_stays _ keys panelKey_stays]
    simp only [panelKey_crash, body, Body.panel.injEq]
    aesop
  · rename_i other
    have other : ∀ keys, dev.body ≠ .panel keys := other
    simp [other]

theorem knxSmartPanelReport_next : (knxSmartPanelReport env telegram dev).flow = .next ↔
    ¬ Blocks env telegram .smartPanel dev := by
  simp only [knxSmartPanelReport, Blocks, Leaves, Dies]
  by_cases unbound : unboundMaster env dev = true
  · simp [unbound]
  simp only [unbound, Bool.false_eq_true, if_false, or_self, not_false_eq_true, iff_true]
  split
  · rename_i keys body
    rw [inner_next]
    apply walk_safe
    intro key _
    rw [smartPanelKey]
    split <;> simp
  · rfl

theorem dimmerKey_rejected (rejected : telegram.bRejected = true) (chl : DimmerPoint) :
    ((dimmerKey env telegram dev chl).flow = .next ↔ listens chl.key.pFeedback telegram = false) ∧
      ((dimmerKey env telegram dev chl).flow = .crash ↔
        listens chl.key.pFeedback telegram = true ∧ chl.bright.pFeedback = none) := by
  rw [dimmerKey]
  cases listens chl.key.pFeedback telegram with
  | false => simp
  | true => cases chl.bright.pFeedback <;> simp [rejected]

theorem dimmerKey_taken (taken : telegram.bRejected = false) (chl : DimmerPoint) :
    (dimmerKey env telegram dev chl).flow ≠ .crash := by
  rw [dimmerKey]
  cases listens chl.key.pFeedback telegram with
  | false => simp
  | true => cases dev.element.attri <;> cases env.bActive <;> simp [taken]

theorem dimmerChannel_silent (chl : DimmerPoint)
    (silent : listens chl.bright.pFeedback telegram = false) :
    dimmerChannel env telegram dev chl = dimmerKey env telegram dev chl := by
  simp [dimmerChannel, silent]

theorem dimmerChannel_actuator (chl : DimmerPoint)
    (bright : listens chl.bright.pFeedback telegram = true)
    (attri : dev.element.attri = .actuator) :
    (dimmerChannel env telegram dev chl).flow = if env.bActive then .stop else .next := by
  rw [dimmerChannel]
  rw [if_pos bright]
  generalize brightness telegram.value chl.bright.max = u16
  cases active : env.bActive <;> simp [attri]

theorem dimmerChannel_controller (chl : DimmerPoint)
    (bright : listens chl.bright.pFeedback telegram = true)
    (attri : dev.element.attri = .controller) :
    ∃ u16, dimmerChannel env telegram dev chl =
      dimmerKey env telegram dev { chl with bright := { chl.bright with value := u16 } } := by
  refine ⟨brightness telegram.value chl.bright.max, ?_⟩
  simp [dimmerChannel, bright, attri]

/-- A channel whose brightness listens has a feedback address, so its key cannot kill the loop. -/
theorem dimmerChannel_rejected (rejected : telegram.bRejected = true) (chl : DimmerPoint) :
    ((dimmerChannel env telegram dev chl).flow = .next ↔ ChannelPasses env telegram dev chl) ∧
      ((dimmerChannel env telegram dev chl).flow = .crash ↔
        listens chl.key.pFeedback telegram = true ∧ chl.bright.pFeedback = none) := by
  rw [ChannelPasses]
  cases bright : listens chl.bright.pFeedback telegram with
  | false =>
    rw [dimmerChannel_silent chl bright]
    simpa using dimmerKey_rejected rejected chl
  | true =>
    have linked : chl.bright.pFeedback ≠ none := by
      intro unlinked
      simp [unlinked, listens] at bright
    cases attri : dev.element.attri with
    | actuator =>
      rw [dimmerChannel_actuator chl bright attri]
      cases env.bActive <;> simp [linked]
    | controller =>
      obtain ⟨u16, same⟩ := dimmerChannel_controller chl bright attri
      rw [same]
      have key := @dimmerKey_rejected env telegram dev rejected
        { chl with bright := { chl.bright with value := u16 } }
      simpa [linked] using key

theorem dimmerChannel_taken (taken : telegram.bRejected = false) (chl : DimmerPoint) :
    (dimmerChannel env telegram dev chl).flow ≠ .crash := by
  cases bright : listens chl.bright.pFeedback telegram with
  | false =>
    rw [dimmerChannel_silent chl bright]
    exact dimmerKey_taken taken chl
  | true =>
    cases attri : dev.element.attri with
    | actuator =>
      rw [dimmerChannel_actuator chl bright attri]
      cases env.bActive <;> simp
    | controller =>
      obtain ⟨u16, same⟩ := dimmerChannel_controller chl bright attri
      rw [same]
      exact dimmerKey_taken taken _

theorem knxDimmerReport_next : (knxDimmerReport env telegram dev).flow = .next ↔
    ¬ Blocks env telegram .dimmer dev := by
  simp only [knxDimmerReport, Blocks, Leaves, Dies, DimmerUnlinked]
  by_cases unbound : unboundMaster env dev = true
  · simp [unbound]
  simp only [unbound, Bool.false_eq_true, if_false, false_or]
  split
  · rename_i chl body
    rw [inner_next]
    cases rejected : telegram.bRejected with
    | false => simpa using walk_safe _ chl fun c _ => dimmerChannel_taken rejected c
    | true =>
      rw [ne_eq, walk_crash]
      simp only [dimmerChannel_rejected rejected, body,
        Body.dimmer.injEq, true_and, and_assoc]
  · rename_i other
    have other : ∀ chl, dev.body ≠ .dimmer chl := other
    simp [other]

theorem knxCurtainReport_next : (knxCurtainReport env telegram dev).flow = .next ↔
    ¬ Blocks env telegram .curtain dev := by
  simp only [knxCurtainReport, Blocks, Leaves, Dies]
  split
  · rename_i pOpen pClose pStop body
    by_cases silent : (curtainStep telegram pOpen pClose pStop).obj.dpid = 0
    · simp [silent, body]
    · cases attri : dev.element.attri <;> cases foreign : dev.foreign <;>
        simp [silent, body]
  · rename_i other
    have other : ∀ pOpen pClose pStop, dev.body ≠ .curtain pOpen pClose pStop := other
    simp [other]

/-- A visit goes on to the next node exactly when the device does not block the handler. -/
theorem visit_next (handler : Handler) : (handler.visit env telegram dev).flow = .next ↔
    ¬ Blocks env telegram handler dev := by
  cases handler with
  | acd => exact knxAcdReport_next
  | vent => exact knxVentReport_next
  | heat => exact knxHeatReport_next
  | panel => exact knxPanelReport_next
  | smartPanel => exact knxSmartPanelReport_next
  | dimmer => exact knxDimmerReport_next
  | curtain => exact knxCurtainReport_next

-- A device of the handler's class whose stored value any telegram changes.

def probeObj (telegram : Telegram) : KnxObj :=
  { localPoint := .switchStatus, addr := telegram.groupAddr, cloudPoint := 1
    value := telegram.value + 1 }

def probeKey (telegram : Telegram) : KnxPoint :=
  { id := 1, pFeedback := some telegram.groupAddr, value := 2 }

def probeBody (telegram : Telegram) : Handler → Body
  | .acd => .climate .acd fun _ => some (probeObj telegram)
  | .vent => .climate .vent fun _ => some (probeObj telegram)
  | .heat => .climate .heat fun _ => some (probeObj telegram)
  | .panel => .panel [probeKey telegram]
  | .smartPanel => .smartPanel [probeKey telegram]
  | .dimmer => .dimmer [⟨{ id := 1 }, probeKey telegram⟩]
  | .curtain => .curtain none none
      (some { id := 0, pGroup := some telegram.groupAddr, value := telegram.value + 1 })

def probe (telegram : Telegram) (handler : Handler) : KnxDevice where
  element := { szName := [], pPrimaryKey := [], bMaster := false }
  foreign := some []
  report := some fun _ obj => obj
  body := probeBody telegram handler

/-- The values a telegram may store. -/
def Body.values : Body → List Nat
  | .climate _ objs => (objs .switchStatus).toList.map (·.value)
  | .panel keys | .smartPanel keys => keys.map (·.value)
  | .dimmer chl => chl.map (·.bright.value)
  | .curtain _ _ pStop => pStop.toList.map (·.value)

theorem boolValue_ne_two (value : Nat) : boolValue value ≠ 2 := by
  rw [boolValue]
  split <;> simp

theorem brightness_zero (value : Nat) : brightness value 0 = 0 := by
  simp [brightness]

theorem dimmerChannel_stores (chl : DimmerPoint)
    (bright : listens chl.bright.pFeedback telegram = true)
    (attri : dev.element.attri = .actuator) :
    (dimmerChannel env telegram dev chl).value.bright.value =
      brightness telegram.value chl.bright.max := by
  rw [dimmerChannel]
  rw [if_pos bright]
  generalize brightness telegram.value chl.bright.max = u16
  cases active : env.bActive <;> simp [attri]

theorem knxDimmerReport_single {chl : DimmerPoint} (body : dev.body = .dimmer [chl])
    (taken : unboundMaster env dev = false) :
    (knxDimmerReport env telegram dev).value.body =
      .dimmer [(dimmerChannel env telegram dev chl).value] := by
  simp only [knxDimmerReport, taken, Bool.false_eq_true, if_false, body, innerWalk, walk_singleton,
    List.map_cons, List.map_nil]

theorem probe_changes (handler : Handler) :
    (handler.visit env telegram (probe telegram handler)).value.body.values ≠
      (probe telegram handler).body.values := by
  cases handler with
  | acd | vent | heat =>
    simp [Handler.visit, knxAcdReport, knxVentReport, knxHeatReport, climateVisit, heatVisit, hit,
      Climate.rules, probe, probeBody, probeObj, unboundMaster, store, Hit.stored, Body.values]
  | panel | smartPanel =>
    simp [Handler.visit, knxPanelReport, knxSmartPanelReport, probe, probeBody, probeKey,
      unboundMaster, innerWalk, walk, panelKey, smartPanelKey, listens, keyStored, Body.values,
      boolValue_ne_two]
  | dimmer =>
    have listening : listens (probeKey telegram).pFeedback telegram = true := by
      simp [probeKey, listens]
    have stored := @dimmerChannel_stores env telegram (probe telegram .dimmer)
      ⟨{ id := 1 }, probeKey telegram⟩ listening rfl
    have slave : unboundMaster env (probe telegram .dimmer) = false := unboundMaster_of_slave rfl
    have after := @knxDimmerReport_single env telegram (probe telegram .dimmer) _ rfl slave
    change (knxDimmerReport env telegram (probe telegram .dimmer)).value.body.values ≠ [2]
    rw [after, Body.values, List.map_singleton, stored]
    simp [probeKey, brightness_zero]
  | curtain =>
    simp [Handler.visit, knxCurtainReport, curtainStep, curtainPoint, probe, probeBody, listens,
      Body.values]

end

/-- What happens to a node behind `before` is what happens to it alone. -/
def Independent (handler : Handler) (env : Env) (telegram : Telegram)
    (before : Nodes KnxDevice) : Prop :=
  ∀ node after, (handler.run env telegram (before ++ node :: after)).2[before.length]? =
    (handler.run env telegram [node]).2[0]?

theorem visitNode_next {handler : Handler} {env : Env} {telegram : Telegram}
    (node : Option KnxDevice) : (handler.visitNode env telegram node).flow = .next ↔
      ∀ dev, node = some dev → ¬ Blocks env telegram handler dev := by
  cases node with
  | none => simp [Handler.visitNode]
  | some dev => simp [Handler.visitNode, visit_next]

/-- A device is handled independently of those before it exactly when none of
them is an unbound master the handler leaves its loop for, or kills the process. -/
theorem report_independent_iff (handler : Handler) (env : Env) (telegram : Telegram)
    (before : Nodes KnxDevice) :
    Independent handler env telegram before ↔
      ∀ dev, some dev ∈ before → ¬ Blocks env telegram handler dev := by
  have earlier : (∀ node ∈ before, (handler.visitNode env telegram node).flow = .next) ↔
      ∀ dev, some dev ∈ before → ¬ Blocks env telegram handler dev := by
    simp only [visitNode_next]
    exact ⟨fun all dev mem => all _ mem dev rfl, fun all node mem dev same => all dev (same ▸ mem)⟩
  rw [← earlier]
  simp only [Independent, Handler.run]
  simp only [walk_at, walk_singleton]
  constructor
  · intro independent
    by_contra blocked
    have same := independent (some (probe telegram handler)) []
    rw [if_neg blocked] at same
    have value := congrArg (·.bind (·.1) |>.map (·.body.values)) same
    exact @probe_changes env telegram handler (by simpa [Handler.visitNode] using value.symm)
  · intro passes node after
    rw [if_pos passes]
    rfl

/-- A curtain that was never bound, and a bound panel. -/
def corridorBlind : KnxDevice :=
  { element := { szName := "blind".toList, pPrimaryKey := "blind".toList }
    body := .curtain none none none }

def corridorPanel : KnxDevice :=
  { element := { szName := "panel".toList, pPrimaryKey := "panel".toList }
    body := .panel [{ id := 1, pFeedback := some "1/2/3".toList }] }

def corridorEnv : Env := { bActive := true, bound := fun key => key == "panel".toList, ts := 0 }

theorem blind_hides_panel :
    ¬ Independent .panel corridorEnv { groupAddr := "1/2/3".toList, value := 1 }
      [some corridorBlind] := by
  intro independent
  have acts := congrArg (·.map (·.2)) (independent (some corridorPanel) [])
  revert acts
  decide

end HiMaxGateway.Knx
