import HiMaxGateway.Knx.ClimateControl

/-! What `Knx_CurtainCtrl` sends, and what `Knx_CurtainReport` makes of it. -/
namespace HiMaxGateway.Knx
open CText Walk Loop

/-- The values of the data point of a curtain. -/
inductive Action where
  | open_
  | stop
  | close
  deriving DecidableEq, Repr

def Action.code : Action → Int
  | .open_ => 0
  | .stop => 1
  | .close => 2

/-- The bit `Knx_CurtainCtrl` sends. -/
def Action.bit : Action → Nat
  | .open_ => 0
  | .stop => 0
  | .close => 1

theorem Action.bit_small (action : Action) : action.bit < 64 := by
  cases action <;> decide

def Action.ofCode (code : Int) : Option Action :=
  if code = 0 then some .open_ else if code = 2 then some .close else if code = 1 then some .stop
  else none

def Action.point {α : Type} (action : Action) (pOpen pClose pStop : α) : α :=
  match action with
  | .open_ => pOpen
  | .stop => pStop
  | .close => pClose

/-- The action of a command, and the point of the curtain that takes it; the pointer may be null. -/
def CtrlDevice.chosen (cmd : KnxWrite) (dev : CtrlDevice) : Option (Action × Option CtrlPoint) :=
  match dev.body with
  | .curtain pOpen pClose pStop =>
      if dev.element.devId = cmd.devId then
        (Action.ofCode cmd.obj.value).map fun action => (action, action.point pOpen pClose pStop)
      else none
  | _ => none

/-- A telegram to the control address of the point that the command names, with the bit of its
action. -/
def Configured (cmd : KnxWrite) (nodes : Nodes CtrlDevice) (sent : Sent) : Prop :=
  ∃ dev action p addr, some dev ∈ nodes ∧ dev.chosen cmd = some (action, some p) ∧
    p.id = cmd.obj.dpid ∧ p.pCtrl = some addr ∧ sent.1 = some (readgaddr addr) ∧
    sent.2.1 = [0, 0x80 ||| action.bit]

/-- The command follows a null pointer in this device. -/
def Halts (cmd : KnxWrite) (dev : CtrlDevice) : Prop :=
  ∃ action point, dev.chosen cmd = some (action, point) ∧
    ∀ p, point = some p → p.id = cmd.obj.dpid ∧ p.pCtrl = none

section

variable {env : Replies} {cmd : KnxWrite} {dev : CtrlDevice}

theorem chosen_of_handler (here : dev.body.handler = .curtain)
    (own : dev.element.devId = cmd.devId) :
    ∃ pOpen pClose pStop, dev.body = .curtain pOpen pClose pStop ∧
      dev.chosen cmd = (Action.ofCode cmd.obj.value).map fun action =>
        (action, action.point pOpen pClose pStop) := by
  cases body : dev.body with
  | curtain pOpen pClose pStop =>
    exact ⟨pOpen, pClose, pStop, rfl, by simp [CtrlDevice.chosen, body, own]⟩
  | climate kind objs => cases kind <;> simp [body, CtrlBody.handler] at here
  | panel => simp [body, CtrlBody.handler] at here
  | smartPanel => simp [body, CtrlBody.handler] at here
  | dimmer => simp [body, CtrlBody.handler] at here

/-- What the branch of an action does, up to what it stores. -/
structure Visited (env : Replies) (cmd : KnxWrite) (action : Action) (point : Option CtrlPoint)
    (s : CtrlState) {α : Type} (step : Step CtrlState α CtrlEvent) : Prop where
  null : point = none → step.flow = .crash ∧ step.events = []
  other : ∀ p, point = some p → p.id ≠ cmd.obj.dpid → step.flow = .next ∧
    step.events = (transmit env none [0, 0x80] s).2.2
  unset : ∀ p, point = some p → p.id = cmd.obj.dpid → p.pCtrl = none →
    step.flow = .crash ∧ step.events = []
  named : ∀ p addr, point = some p → p.id = cmd.obj.dpid → p.pCtrl = some addr →
    step.flow = .next ∧
      step.events = (transmit env (some (readgaddr addr)) [0, 0x80 ||| action.bit] s).2.2

theorem curtainSend_visited (action : Action) (point : Option CtrlPoint)
    (store : CtrlPoint → CtrlDevice) (s : CtrlState) :
    Visited env cmd action point s (curtainSend env cmd action.bit point store dev s) := by
  constructor
  · rintro rfl
    exact ⟨rfl, rfl⟩
  · rintro p rfl differ
    simp [curtainSend, differ]
  · rintro p rfl same unset
    simp [curtainSend, same, unset]
  · rintro p addr rfl same set_
    simp [curtainSend, same, set_]

theorem knxCurtainCtrl_visited {pOpen pClose pStop : Option CtrlPoint} {action : Action}
    (code : Action.ofCode cmd.obj.value = some action) (s : CtrlState) :
    Visited env cmd action (action.point pOpen pClose pStop) s
      (knxCurtainCtrl pOpen pClose pStop env cmd s dev) := by
  unfold Action.ofCode at code
  rw [knxCurtainCtrl]
  split at code
  · rename_i first
    cases code
    rw [if_pos first]
    exact curtainSend_visited .open_ pOpen _ s
  · rename_i first
    rw [if_neg first]
    split at code
    · rename_i second
      cases code
      rw [if_pos second]
      exact curtainSend_visited .close pClose _ s
    · rename_i second
      rw [if_neg second]
      split at code
      · rename_i third
        cases code
        rw [if_pos third]
        exact curtainSend_visited .stop pStop _ s
      · contradiction

theorem unchosen_quiet (none : dev.chosen cmd = none) :
    Quiet (Handler.curtain.ctrlNode env cmd) (some dev) := by
  intro s
  simp only [Handler.ctrlNode]
  split
  · rename_i here
    obtain ⟨pOpen, pClose, pStop, body, chosen⟩ := chosen_of_handler here.1 here.2
    have code : Action.ofCode cmd.obj.value = .none := by simpa [none] using chosen
    have silent :
        knxCurtainCtrl pOpen pClose pStop env cmd s dev = { state := s, value := dev } := by
      unfold Action.ofCode at code
      split at code
      · contradiction
      · split at code
        · contradiction
        · split at code
          · contradiction
          · rename_i first second third
            rw [knxCurtainCtrl, if_neg first, if_neg second, if_neg third]
    simp [ctrlDevice, body, silent]
  · rfl

theorem chosen_visited {action : Action} {point : Option CtrlPoint}
    (chosen : dev.chosen cmd = some (action, point)) (s : CtrlState) :
    Visited env cmd action point s (Handler.curtain.ctrlNode env cmd s (some dev)) := by
  rw [CtrlDevice.chosen] at chosen
  split at chosen
  · rename_i pOpen pClose pStop body
    split at chosen
    · rename_i own
      obtain ⟨action', code, same⟩ := Option.map_eq_some_iff.mp chosen
      obtain ⟨rfl, rfl⟩ := Prod.mk.inj same
      have visited := @knxCurtainCtrl_visited env cmd dev pOpen pClose pStop action' code s
      have taken : (CtrlBody.curtain pOpen pClose pStop).handler = .curtain ∧
          dev.element.devId = cmd.devId := ⟨rfl, own⟩
      simp only [Handler.ctrlNode, ctrlDevice, body, if_pos taken]
      exact ⟨visited.null, visited.other, visited.unset, visited.named⟩
    · contradiction
  · contradiction

/-- Only a null pointer ends the loop. -/
theorem goes_on (alive : ¬ Halts cmd dev) (s : CtrlState) :
    (Handler.curtain.ctrlNode env cmd s (some dev)).flow = .next := by
  cases chosen : dev.chosen cmd with
  | none => rw [unchosen_quiet chosen s]
  | some pair =>
    obtain ⟨action, point⟩ := pair
    have visited := @chosen_visited env cmd dev action point chosen s
    have some_ : ¬ ∀ p, point = some p → p.id = cmd.obj.dpid ∧ p.pCtrl = none :=
      fun halts => alive ⟨action, point, chosen, halts⟩
    simp only [not_forall] at some_
    obtain ⟨p, rfl, live⟩ := some_
    by_cases same : p.id = cmd.obj.dpid
    · cases set_ : p.pCtrl with
      | none => exact absurd ⟨same, set_⟩ live
      | some addr => exact (visited.named p addr rfl same set_).1
    · exact (visited.other p rfl same).1

theorem Configured.later {node : Option CtrlDevice} {rest : Nodes CtrlDevice} {sent : Sent}
    (configured : Configured cmd rest sent) : Configured cmd (node :: rest) sent := by
  obtain ⟨dev, action, p, addr, member, more⟩ := configured
  exact ⟨dev, action, p, addr, List.mem_cons_of_mem _ member, more⟩

/-- The point that takes the action has the id of the command, in every curtain that the loop
reaches. -/
def Belongs (cmd : KnxWrite) (nodes : Nodes CtrlDevice) : Prop :=
  ∀ before dev after, nodes = before ++ some dev :: after →
    (∀ e, some e ∈ before → ¬ Halts cmd e) →
    ∀ action p, dev.chosen cmd = some (action, some p) → p.id = cmd.obj.dpid

theorem Belongs.rest {node : Option CtrlDevice} {rest : Nodes CtrlDevice}
    (belongs : Belongs cmd (node :: rest)) (alive : ∀ e, node = some e → ¬ Halts cmd e) :
    Belongs cmd rest := by
  rintro before dev after rfl early
  apply belongs (node :: before) dev after rfl
  intro e member
  rcases List.mem_cons.mp member with rfl | later
  · exact alive e rfl
  · exact early e later

theorem visit_configured {node : Option CtrlDevice} {rest : Nodes CtrlDevice}
    (belongs : Belongs cmd (node :: rest)) (s : CtrlState) :
    ∀ sent ∈ telegrams (Handler.curtain.ctrlNode env cmd s node).events,
      Configured cmd (node :: rest) sent := by
  cases node with
  | none => simp [Handler.ctrlNode, telegrams]
  | some dev =>
    cases chosen : dev.chosen cmd with
    | none => simp [@unchosen_quiet env cmd dev chosen s, telegrams]
    | some pair =>
      obtain ⟨action, point⟩ := pair
      have visited := @chosen_visited env cmd dev action point chosen s
      cases point with
      | none => simp [(visited.null rfl).2, telegrams]
      | some p =>
        have same := belongs [] dev rest rfl (by simp) action p chosen
        cases set_ : p.pCtrl with
        | none => simp [(visited.unset p rfl same set_).2, telegrams]
        | some addr =>
          rw [(visited.named p addr rfl same set_).2]
          intro sent member
          obtain ⟨group, payload⟩ := transmit_sent member
          exact ⟨dev, action, p, addr, List.mem_cons_self, chosen, same, set_, group, payload⟩

theorem telegrams_configured (nodes : Nodes CtrlDevice) (belongs : Belongs cmd nodes)
    (s : CtrlState) :
    ∀ sent ∈ telegrams (loop (Handler.curtain.ctrlNode env cmd) s nodes).events,
      Configured cmd nodes sent := by
  induction nodes generalizing s with
  | nil => simp [loop, telegrams]
  | cons node rest ih =>
    have here := @visit_configured env cmd node rest belongs s
    by_cases next : (Handler.curtain.ctrlNode env cmd s node).flow = .next
    · have alive : ∀ e, node = some e → ¬ Halts cmd e := by
        rintro dev rfl ⟨action, point, chosen, halts⟩
        have visited := @chosen_visited env cmd dev action point chosen s
        have crash : (Handler.curtain.ctrlNode env cmd s (some dev)).flow = .crash := by
          cases point with
          | none => exact (visited.null rfl).1
          | some p => exact (visited.unset p rfl (halts p rfl).1 (halts p rfl).2).1
        rw [crash] at next
        contradiction
      rw [loop_cons_next _ next, telegrams_append]
      intro sent member
      rcases List.mem_append.mp member with now | later
      · exact here sent now
      · exact (ih (belongs.rest alive) _ sent later).later
    · rw [loop_cons_left _ next]
      exact here

end

/-- For all answers of `knxd`; a group that is read from the uninitialised buffer is no address
of the list, whatever the buffer holds. -/
def OnlyConfigured (cmd : KnxWrite) (nodes : Nodes CtrlDevice) : Prop :=
  ∀ env calls, ∀ sent ∈ telegrams (Handler.curtain.ctrl env cmd calls nodes).events,
    Configured cmd nodes sent

theorem only_configured_iff (cmd : KnxWrite) (nodes : Nodes CtrlDevice) :
    OnlyConfigured cmd nodes ↔ Belongs cmd nodes := by
  constructor
  · rintro only before dev after rfl early action p chosen
    by_contra differ
    have goes : ∀ node ∈ before, ∀ s, (Handler.curtain.ctrlNode lossy cmd s node).flow = .next := by
      intro node member s
      cases node with
      | none => rfl
      | some e => exact goes_on (early e member) s
    obtain ⟨s, events⟩ := loop_reaches _ goes (some dev :: after) ({ calls := 0 } : CtrlState)
    have visited := (@chosen_visited lossy cmd dev action (some p) chosen s).other p rfl differ
    have sent : (none, [0, 0x80], -1) ∈ telegrams
        (Handler.curtain.ctrl lossy cmd 0 (before ++ some dev :: after)).events := by
      rw [Handler.ctrl, events, loop_cons_next _ visited.1, telegrams_append, telegrams_append,
        visited.2, transmit_telegrams]
      simp [lossy]
    obtain ⟨_, _, _, addr, _, _, _, _, group, _⟩ := only lossy 0 _ sent
    simp at group
  · intro belongs env calls
    exact telegrams_configured nodes belongs _

/-- A curtain with a data point for opening and closing, and one for the pause. -/
def loungeCurtain : Nodes CtrlDevice :=
  [some { element :=
            { szName := "curtain".toList, pPrimaryKey := "02c7ecdad9251104".toList, devId := 1104 }
          body := .curtain (some { id := 1, pCtrl := some "1/3/1".toList })
            (some { id := 1, pCtrl := some "1/3/2".toList })
            (some { id := 2, pCtrl := some "1/3/3".toList }) }]

/-- The value of the pause is sent under the id of the other data point. -/
def loungeWrite : KnxWrite where
  pPrimaryKey := "02c7ecdad9251104".toList
  devId := 1104
  obj := { dpid := 2, type := .enum, value := 0 }

theorem lounge_unconfigured :
    telegrams (Handler.curtain.ctrl hallReplies loungeWrite 0 loungeCurtain).events =
      [(none, [0, 0x80], 3)] ∧ ¬ OnlyConfigured loungeWrite loungeCurtain := by
  have sent : telegrams (Handler.curtain.ctrl hallReplies loungeWrite 0 loungeCurtain).events =
      [(none, [0, 0x80], 3)] := by decide +kernel
  refine ⟨sent, ?_⟩
  intro only
  obtain ⟨_, _, _, addr, _, _, _, _, group, _⟩ := only hallReplies 0 (none, [0, 0x80], 3)
    (by rw [sent]; exact List.mem_cons_self)
  simp at group

/-- The control side of a point: `pCtrl` and `pGroup` are one pointer. -/
def KnxPoint.ctrl (p : KnxPoint) : CtrlPoint :=
  { id := p.id, pCtrl := p.pGroup, value := p.value, max := p.max }

/-- A sent telegram is read from the bus, as a value within the service byte. -/
structure Seen (sent : Sent) (telegram : Telegram) : Prop where
  group : sent.1 = some (readgaddr telegram.groupAddr)
  value : sent.2.1 = [0, 0x80 ||| telegram.value]
  small : telegram.value < 64

def Act.obj : Act → Option DpObj
  | .report _ obj | .modbusDevWrite _ obj | .knxGroupWrite _ obj => some obj
  | .hbFresh _ => none

/-- What a curtain reports goes somewhere: to the associated device or to the cloud. -/
def Outgoing (env : Env) (dev : KnxDevice) : Prop :=
  match dev.element.attri with
  | .controller => dev.foreign.isSome = true
  | .actuator => dev.element.bMaster = true ∧ env.bActive = true

/-- The telegram that is sent for an action is reported as this action, under the id of the
command. -/
def SamePolarity (pOpen pClose pStop : Option KnxPoint) (action : Action) : Prop :=
  ∀ (replies : Replies) (cmd : KnxWrite) (s : CtrlState) (ctrlDev : CtrlDevice),
    cmd.obj.value = action.code → cmd.obj.dpid < 256 →
    ∀ sent ∈ telegrams (knxCurtainCtrl (pOpen.map (·.ctrl)) (pClose.map (·.ctrl))
      (pStop.map (·.ctrl)) replies cmd s ctrlDev).events,
    ∀ telegram, Seen sent telegram →
    ∀ env dev, dev.body = .curtain pOpen pClose pStop → Outgoing env dev →
      ∃ type, (knxCurtainReport env telegram dev).acts.filterMap Act.obj =
        [{ dpid := cmd.obj.dpid, type, value := action.code }]

section

variable {pOpen pClose pStop : Option KnxPoint} {telegram : Telegram}

theorem ofCode_code (action : Action) : Action.ofCode action.code = some action := by
  cases action <;> rfl

theorem point_map (action : Action) :
    action.point (pOpen.map (·.ctrl)) (pClose.map (·.ctrl)) (pStop.map (·.ctrl)) =
      (action.point pOpen pClose pStop).map (·.ctrl) := by
  cases action <;> rfl

theorem sent_cases {replies : Replies} {cmd : KnxWrite} {s : CtrlState} {ctrlDev : CtrlDevice}
    {action : Action} {sent : Sent} (code : cmd.obj.value = action.code)
    (member : sent ∈ telegrams (knxCurtainCtrl (pOpen.map (·.ctrl)) (pClose.map (·.ctrl))
      (pStop.map (·.ctrl)) replies cmd s ctrlDev).events) (known : sent.1 ≠ none) :
    ∃ p addr, action.point pOpen pClose pStop = some p ∧ p.id = cmd.obj.dpid ∧
      p.pGroup = some addr ∧ sent.1 = some (readgaddr addr) ∧
      sent.2.1 = [0, 0x80 ||| action.bit] := by
  have visited := @knxCurtainCtrl_visited replies cmd ctrlDev (pOpen.map (·.ctrl))
    (pClose.map (·.ctrl)) (pStop.map (·.ctrl)) action (by rw [code, ofCode_code]) s
  rw [point_map] at visited
  cases point : action.point pOpen pClose pStop with
  | none =>
    rw [(visited.null (by rw [point]; rfl)).2] at member
    simp [telegrams] at member
  | some p =>
    have same : (action.point pOpen pClose pStop).map (·.ctrl) = some p.ctrl := by rw [point]; rfl
    by_cases named : p.id = cmd.obj.dpid
    · cases set_ : p.pGroup with
      | none =>
        rw [(visited.unset p.ctrl same named set_).2] at member
        simp [telegrams] at member
      | some addr =>
        rw [(visited.named p.ctrl addr same named set_).2] at member
        obtain ⟨group, payload⟩ := transmit_sent member
        exact ⟨p, addr, rfl, named, set_, group, payload⟩
    · rw [(visited.other p.ctrl same named).2] at member
      exact absurd (transmit_sent member).1 known

theorem report_objs {env : Env} {dev : KnxDevice} (body : dev.body = .curtain pOpen pClose pStop)
    (out : Outgoing env dev) :
    (knxCurtainReport env telegram dev).acts.filterMap Act.obj =
      if (curtainStep telegram pOpen pClose pStop).obj.dpid = 0 then []
      else [(curtainStep telegram pOpen pClose pStop).obj] := by
  unfold Outgoing at out
  rw [knxCurtainReport, body]
  dsimp only
  split
  · rfl
  · split
    · rename_i attri
      rw [attri] at out
      obtain ⟨foreign, linked⟩ := Option.isSome_iff_exists.mp out
      rw [linked]
      rfl
    · rename_i attri
      rw [attri] at out
      simp [out, cloudReport, Act.obj]

theorem curtainPoint_obj (telegram : Telegram) (accepts : Bool) (action : Int)
    (point : Option KnxPoint) (obj : DpObj) :
    (curtainPoint telegram accepts action point obj).2 = obj ∨
      accepts = true ∧ (curtainPoint telegram accepts action point obj).2.value = action := by
  cases point with
  | none => exact .inl rfl
  | some p =>
    simp only [curtainPoint]
    split
    · rename_i hit
      simp only [Bool.and_eq_true] at hit
      exact .inr ⟨hit.2, rfl⟩
    · exact .inl rfl

/-- The three points one after the other. -/
theorem curtainStep_obj : (curtainStep telegram pOpen pClose pStop).obj =
    (curtainPoint telegram true 1 pStop (curtainPoint telegram (telegram.value = 0) 2 pClose
      (curtainPoint telegram (telegram.value = 1) 0 pOpen {}).2).2).2 := rfl

/-- A zero is never reported as opening: the object stays empty, or another point takes it. -/
theorem zero_not_open (zero : telegram.value = 0)
    (opens : (curtainStep telegram pOpen pClose pStop).obj.value = 0) :
    (curtainStep telegram pOpen pClose pStop).obj.dpid = 0 := by
  have empty : (curtainPoint telegram (telegram.value = 1) 0 pOpen {}).2 = {} := by
    rcases curtainPoint_obj telegram (telegram.value = 1) 0 pOpen {} with same | ⟨accepts, -⟩
    · exact same
    · simp [zero] at accepts
  rw [curtainStep_obj, empty] at opens ⊢
  rcases curtainPoint_obj telegram true 1 pStop
    (curtainPoint telegram (telegram.value = 0) 2 pClose {}).2 with same | ⟨-, stop⟩
  · rw [same] at opens ⊢
    rcases curtainPoint_obj telegram (telegram.value = 0) 2 pClose {} with none | ⟨-, close⟩
    · rw [none]
    · rw [close] at opens
      contradiction
  · rw [stop] at opens
    contradiction

/-- A one is never reported as closing. -/
theorem one_not_close (one : telegram.value = 1) :
    (curtainStep telegram pOpen pClose pStop).obj.value ≠ 2 := by
  intro closes
  have first : (curtainPoint telegram (telegram.value = 1) 0 pOpen {}).2.value = 0 := by
    rcases curtainPoint_obj telegram (telegram.value = 1) 0 pOpen {} with same | ⟨-, opens⟩
    · rw [same]
    · exact opens
  rw [curtainStep_obj] at closes
  rcases curtainPoint_obj telegram true 1 pStop (curtainPoint telegram (telegram.value = 0) 2 pClose
      (curtainPoint telegram (telegram.value = 1) 0 pOpen {}).2).2 with same | ⟨-, stop⟩
  · rw [same] at closes
    rcases curtainPoint_obj telegram (telegram.value = 0) 2 pClose
      (curtainPoint telegram (telegram.value = 1) 0 pOpen {}).2 with same | ⟨accepts, -⟩
    · rw [same, first] at closes
      contradiction
    · simp [one] at accepts
  · rw [stop] at closes
    contradiction

/-- The stop point comes last and takes every value. -/
theorem stop_wins {p : KnxPoint} {addr : Text} (pOpen pClose : Option KnxPoint)
    (group : p.pGroup = some addr) (listening : readgaddr telegram.groupAddr = readgaddr addr) :
    ∃ type, (curtainStep telegram pOpen pClose (some p)).obj =
      { dpid := p.id % 256, type, value := 1 } := by
  have hears : listens p.pGroup telegram = true := by
    simp [listens, group, knxCompareGroup, listening]
  rw [curtainStep_obj]
  generalize (curtainPoint telegram (telegram.value = 0) 2 pClose
    (curtainPoint telegram (telegram.value = 1) 0 pOpen {}).2).2 = obj
  exact ⟨obj.type, by simp [curtainPoint, hears]⟩

end

/-- Where the point of the action can be commanded at all, only stopping comes back as it was
sent, and an id of zero is not reported. -/
theorem same_polarity_iff (pOpen pClose pStop : Option KnxPoint) (action : Action) :
    SamePolarity pOpen pClose pStop action ↔
      ∀ p addr, action.point pOpen pClose pStop = some p → p.pGroup = some addr → p.id < 256 →
        action = .stop ∧ p.id ≠ 0 := by
  constructor
  · intro polarity p addr point group small
    let cmd : KnxWrite := ⟨[], 0, { dpid := p.id, value := action.code }⟩
    let telegram : Telegram := { groupAddr := addr, value := action.bit }
    let ctrlDev : CtrlDevice := { element := ⟨[], [], 0, true, .actuator⟩, body := .panel [] }
    let dev : KnxDevice :=
      { element := ⟨[], [], 0, true, .actuator⟩, body := .curtain pOpen pClose pStop }
    let env : Env := ⟨true, fun _ => true, 0⟩
    have visited := @knxCurtainCtrl_visited hallReplies cmd ctrlDev (pOpen.map (·.ctrl))
      (pClose.map (·.ctrl)) (pStop.map (·.ctrl)) action (ofCode_code action) { calls := 0 }
    have sent := (visited.named p.ctrl addr (by rw [point_map, point]; rfl) rfl group).2
    have member : (some (readgaddr addr), [0, 0x80 ||| action.bit], (3 : Int)) ∈ telegrams
        (knxCurtainCtrl (pOpen.map (·.ctrl)) (pClose.map (·.ctrl)) (pStop.map (·.ctrl)) hallReplies
          cmd { calls := 0 } ctrlDev).events := by
      rw [sent, transmit_telegrams]
      exact List.mem_cons_self
    have seen : Seen (some (readgaddr addr), [0, 0x80 ||| action.bit], (3 : Int)) telegram :=
      ⟨rfl, rfl, action.bit_small⟩
    have out : Outgoing env dev := ⟨rfl, rfl⟩
    have body : dev.body = .curtain pOpen pClose pStop := rfl
    obtain ⟨type, reported⟩ := polarity hallReplies cmd { calls := 0 } ctrlDev rfl small _ member
      telegram seen env dev body out
    rw [report_objs body out] at reported
    split at reported
    · contradiction
    · rename_i kept
      have obj := (List.cons.inj reported).1
      cases action with
      | open_ => exact absurd (zero_not_open rfl (by rw [obj]; rfl)) kept
      | close => exact absurd (by rw [obj]; rfl) (@one_not_close pOpen pClose pStop telegram rfl)
      | stop =>
        refine ⟨rfl, ?_⟩
        intro zero
        rw [obj] at kept
        exact kept zero
  · intro stops replies cmd s ctrlDev code small sent member telegram seen env dev body out
    obtain ⟨p, addr, point, named, group, target, payload⟩ :=
      sent_cases code member (by rw [seen.group]; simp)
    obtain ⟨rfl, nonzero⟩ := stops p addr point group (by omega)
    have listening : readgaddr telegram.groupAddr = readgaddr addr :=
      Option.some.inj (seen.group.symm.trans target)
    have same : pStop = some p := point
    subst same
    obtain ⟨type, obj⟩ := stop_wins pOpen pClose group listening
    rw [report_objs body out, obj, if_neg (by simp only; omega)]
    exact ⟨type, by simp [Action.code, named, Nat.mod_eq_of_lt small]⟩

/-- A curtain that shares one group for both directions: opening comes back as closing. -/
def sharedPoint : Option KnxPoint := some { id := 1, pGroup := some "1/3/1".toList }

theorem opening_reported_as_closing :
    (curtainStep { groupAddr := "1/3/1".toList, value := Action.open_.bit } sharedPoint sharedPoint
      none).obj = { dpid := 1, value := Action.close.code } ∧
    ¬ SamePolarity sharedPoint sharedPoint none .open_ := by
  refine ⟨by decide +kernel, ?_⟩
  intro polarity
  let cmd : KnxWrite := ⟨[], 0, { dpid := 1, value := 0 }⟩
  let ctrlDev : CtrlDevice := { element := ⟨[], [], 0, true, .actuator⟩, body := .panel [] }
  let dev : KnxDevice :=
    { element := ⟨[], [], 0, true, .actuator⟩, body := .curtain sharedPoint sharedPoint none }
  let telegram : Telegram := { groupAddr := "1/3/1".toList, value := 0 }
  obtain ⟨type, reported⟩ := polarity hallReplies cmd { calls := 0 } ctrlDev rfl (by decide)
    (some (readgaddr "1/3/1".toList), [0, 0x80], 3) (by decide +kernel) telegram
    ⟨rfl, by decide, by decide⟩ ⟨true, fun _ => true, 0⟩ dev rfl ⟨rfl, rfl⟩
  have closing : (knxCurtainReport ⟨true, fun _ => true, 0⟩ telegram dev).acts.filterMap Act.obj =
      [{ dpid := 1, value := 2 }] := by decide +kernel
  rw [closing] at reported
  simp [Action.code] at reported

end HiMaxGateway.Knx
