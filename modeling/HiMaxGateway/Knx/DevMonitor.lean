import HiMaxGateway.Knx.ReportProofs
import HiMaxGateway.Lib.Passes

/-! One turn of `KNX_DevMonitorEntry`: a telegram of the monitor queue goes through the seven report
functions, one after the other. -/
namespace HiMaxGateway.Knx
open CText Walk

/-- The report function that handles a structure. -/
def Body.handler : Body → Handler
  | .climate .acd _ => .acd
  | .climate .vent _ => .vent
  | .climate .heat _ => .heat
  | .panel _ => .panel
  | .smartPanel _ => .smartPanel
  | .dimmer _ => .dimmer
  | .curtain _ _ _ => .curtain

def reportHandlers : List Handler := [.acd, .vent, .heat, .panel, .smartPanel, .dimmer, .curtain]

def knxDevMonitorEntry (env : Env) (telegram : Telegram) (nodes : Nodes KnxDevice) :
    Flow × Nodes KnxDevice × List Act :=
  passes (fun handler => handler.visitNode env telegram) reportHandlers nodes

variable {env : Env} {telegram : Telegram} {dev : KnxDevice} {handler : Handler}

/-- A visit changes at most the points of the device, and keeps its class. -/
structure Stays (dev dev' : KnxDevice) : Prop where
  element : dev'.element = dev.element
  handler : dev'.body.handler = dev.body.handler

theorem stays_self (dev : KnxDevice) : Stays dev dev := ⟨rfl, rfl⟩

theorem climate_stays {kind : Climate} {objs : Slot → Option KnxObj}
    (body : dev.body = .climate kind objs) :
    Stays dev (climateVisit kind objs env telegram dev).value := by
  have stored (slot : Slot) (obj : KnxObj) : Stays dev (store dev kind objs slot obj) :=
    ⟨rfl, by rw [body]; cases kind <;> rfl⟩
  rw [climateVisit]
  split
  · exact stays_self dev
  · rename_i h _
    have here := stored h.rule.slot (h.stored env telegram)
    split <;> repeat' split
    all_goals exact here

theorem heat_stays {objs : Slot → Option KnxObj} (body : dev.body = .climate .heat objs) :
    Stays dev (heatVisit objs env telegram dev).value := by
  rw [heatVisit]
  split
  · exact stays_self dev
  · split <;> exact ⟨rfl, by rw [body]; rfl⟩

theorem visit_stays (handler : Handler) (env : Env) (telegram : Telegram) (dev : KnxDevice) :
    Stays dev (handler.visit env telegram dev).value := by
  cases handler with
  | acd =>
    rw [Handler.visit, knxAcdReport]
    split
    · rename_i objs body
      split
      · exact stays_self dev
      · exact climate_stays body
    · exact stays_self dev
  | vent =>
    rw [Handler.visit, knxVentReport]
    split
    · rename_i objs body
      split
      · exact stays_self dev
      · exact climate_stays body
    · exact stays_self dev
  | heat =>
    rw [Handler.visit, knxHeatReport]
    split
    · rename_i objs body
      repeat' split
      · exact stays_self dev
      · exact stays_self dev
      · exact heat_stays body
    · exact stays_self dev
  | panel =>
    rw [Handler.visit, knxPanelReport]
    repeat' split
    · exact stays_self dev
    · rename_i keys body
      exact ⟨rfl, by rw [body]; rfl⟩
    · exact stays_self dev
  | smartPanel =>
    rw [Handler.visit, knxSmartPanelReport]
    repeat' split
    · exact stays_self dev
    · rename_i keys body
      exact ⟨rfl, by rw [body]; rfl⟩
    · exact stays_self dev
  | dimmer =>
    rw [Handler.visit, knxDimmerReport]
    repeat' split
    · exact stays_self dev
    · rename_i chl body
      exact ⟨rfl, by rw [body]; rfl⟩
    · exact stays_self dev
  | curtain =>
    rw [Handler.visit, knxCurtainReport]
    split
    · rename_i pOpen pClose pStop body
      have here (step : CurtainStep) :
          Stays dev { dev with body := .curtain step.pOpen step.pClose step.pStop } :=
            ⟨rfl, by rw [body]; rfl⟩
      generalize curtainStep telegram pOpen pClose pStop = step
      dsimp only
      repeat' split
      all_goals exact here step
    · exact stays_self dev

/-- The binding is tested before the class. -/
def Handler.testsAll : Handler → Bool
  | .panel | .smartPanel | .dimmer => true
  | _ => false

/-- A report function does nothing to a device of another class, but may leave its loop there. -/
theorem visit_other (other : dev.body.handler ≠ handler) : handler.visit env telegram dev =
    { flow := if handler.testsAll && unboundMaster env dev then .stop else .next,
      value := dev } := by
  cases handler with
  | acd =>
    rw [Handler.visit, knxAcdReport]
    split
    · rename_i objs body
      exact absurd (by rw [body]; rfl) other
    · rfl
  | vent =>
    rw [Handler.visit, knxVentReport]
    split
    · rename_i objs body
      exact absurd (by rw [body]; rfl) other
    · rfl
  | heat =>
    rw [Handler.visit, knxHeatReport]
    split
    · rename_i objs body
      exact absurd (by rw [body]; rfl) other
    · rfl
  | panel =>
    rw [Handler.visit, knxPanelReport]
    split
    · rename_i unbound
      simp [Handler.testsAll, unbound]
    · rename_i bound
      split
      · rename_i keys body
        exact absurd (by rw [body]; rfl) other
      · simp [Handler.testsAll, bound]
  | smartPanel =>
    rw [Handler.visit, knxSmartPanelReport]
    split
    · rename_i unbound
      simp [Handler.testsAll, unbound]
    · rename_i bound
      split
      · rename_i keys body
        exact absurd (by rw [body]; rfl) other
      · simp [Handler.testsAll, bound]
  | dimmer =>
    rw [Handler.visit, knxDimmerReport]
    split
    · rename_i unbound
      simp [Handler.testsAll, unbound]
    · rename_i bound
      split
      · rename_i chl body
        exact absurd (by rw [body]; rfl) other
      · simp [Handler.testsAll, bound]
  | curtain =>
    rw [Handler.visit, knxCurtainReport]
    split
    · rename_i pOpen pClose pStop body
      exact absurd (by rw [body]; rfl) other
    · rfl

/-- The class of a node, if it holds a device. -/
def nodeClass : Option KnxDevice → Option Handler := Option.map fun dev => dev.body.handler

theorem visits_separate (env : Env) (telegram : Telegram) :
    Separate (fun handler => handler.visitNode env telegram) nodeClass where
  keeps handler node := by
    cases node with
    | none => rfl
    | some dev => exact congrArg some (visit_stays handler env telegram dev).handler
  other handler node other := by
    cases node with
    | none => exact ⟨rfl, rfl⟩
    | some dev =>
      have here : handler.visit env telegram dev = _ :=
        visit_other fun same => other (congrArg some same)
      simp [Handler.visitNode, here]
  flow handler third node other := by
    cases node with
    | none => rfl
    | some dev =>
      have stays := visit_stays third env telegram dev
      have here : dev.body.handler ≠ handler := fun same => other (congrArg some same)
      have there : (third.visit env telegram dev).value.body.handler ≠ handler := by
        rwa [stays.handler]
      have bound :
          unboundMaster env (third.visit env telegram dev).value = unboundMaster env dev := by
        rw [unboundMaster, unboundMaster, stays.element]
      simp [Handler.visitNode, visit_other here, visit_other there, bound]

theorem mem_reportHandlers (handler : Handler) : handler ∈ reportHandlers := by
  cases handler <;> decide

theorem entry_separately (env : Env) (telegram : Telegram) (nodes : Nodes KnxDevice) :
    ((knxDevMonitorEntry env telegram nodes).1, (knxDevMonitorEntry env telegram nodes).2.2) =
      separately (fun handler => handler.visitNode env telegram) nodes reportHandlers :=
  passes_eq_separately (visits_separate env telegram) (by decide) nodes

theorem entry_crash (env : Env) (telegram : Telegram) (nodes : Nodes KnxDevice) :
    (knxDevMonitorEntry env telegram nodes).1 = .crash ↔
    ∃ handler : Handler, (handler.run env telegram nodes).1 = .crash := by
  have same := congrArg Prod.fst (entry_separately env telegram nodes)
  rw [show (knxDevMonitorEntry env telegram nodes).1 = _ from same, separately_crash]
  exact ⟨fun ⟨handler, _, dies⟩ => ⟨handler, dies⟩,
    fun ⟨handler, dies⟩ => ⟨handler, mem_reportHandlers handler, dies⟩⟩

theorem entry_acts {nodes : Nodes KnxDevice}
    (alive : (knxDevMonitorEntry env telegram nodes).1 ≠ .crash) :
    (knxDevMonitorEntry env telegram nodes).2.2 =
      reportHandlers.flatMap fun handler => (handler.run env telegram nodes).2.flatMap (·.2) := by
  have same := entry_separately env telegram nodes
  have lives :
      (separately (fun handler => handler.visitNode env telegram) nodes reportHandlers).1 ≠
      .crash := by
    rwa [← same]
  exact (congrArg Prod.snd same).trans (separately_alive lives)

/-- A telegram does to the devices and to the cloud what the seven report functions would do, each
on the devices as they were when the telegram came, and kills the process where one of them
would. -/
theorem reports_are_separate (env : Env) (telegram : Telegram) (nodes : Nodes KnxDevice) :
    ((knxDevMonitorEntry env telegram nodes).1 = .crash ↔
      ∃ handler : Handler, (handler.run env telegram nodes).1 = .crash) ∧
    ((knxDevMonitorEntry env telegram nodes).1 ≠ .crash →
      (knxDevMonitorEntry env telegram nodes).2.2 =
        reportHandlers.flatMap (fun handler => (handler.run env telegram nodes).2.flatMap (·.2)) ∧
      ∀ (i : Nat) (dev : KnxDevice), nodes[i]? = some (some dev) →
        (knxDevMonitorEntry env telegram nodes).2.1[i]? =
          ((dev.body.handler.run env telegram nodes).2[i]?).map (·.1)) := by
  refine ⟨entry_crash env telegram nodes, fun alive => ⟨entry_acts alive, fun i dev here => ?_⟩⟩
  exact passes_value_own (visits_separate env telegram) (by decide) rfl (mem_reportHandlers _) here
    alive

theorem reports_are_separate_corridor :
    (knxDevMonitorEntry corridorEnv { groupAddr := "1/2/3".toList, value := 1 }
      [some corridorPanel]).2.2 = reportHandlers.flatMap (fun handler =>
        (handler.run corridorEnv { groupAddr := "1/2/3".toList, value := 1 }
          [some corridorPanel]).2.flatMap (·.2)) :=
  ((reports_are_separate corridorEnv _ [some corridorPanel]).2 (by decide)).1

end HiMaxGateway.Knx
