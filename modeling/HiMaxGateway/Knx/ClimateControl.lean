import HiMaxGateway.Knx.AddressProofs
import HiMaxGateway.Knx.ControlProofs

/-! Which groups the control handlers of the climate devices open. -/
namespace HiMaxGateway.Knx
open CText Walk Loop

/-- A sent telegram: the opened group, the bytes and the answer of `EIBSendAPDU`. -/
abbrev Sent := Option Nat × List Nat × Int

def CtrlEvent.telegram : CtrlEvent → Option Sent
  | .eibSendAPDU gAddr apdu ret => some (gAddr, apdu, ret)
  | _ => none

def telegrams (events : List CtrlEvent) : List Sent := events.filterMap CtrlEvent.telegram

def Climate.handler : Climate → Handler
  | .acd => .acd
  | .vent => .vent
  | .heat => .heat

/-- The point a command names in a device: where it is written to, and what. -/
structure Target where
  addr : Text
  apdu : List Nat
  actuator : Bool

def CtrlDevice.target (kind : Climate) (cmd : KnxWrite) (dev : CtrlDevice) : Option Target :=
  match dev.body, dev.control with
  | .climate kind' objs, some control =>
      if kind' = kind ∧ dev.element.devId = cmd.devId then
        (ctrlHit objs cmd.obj.dpid kind.ctrlSlots).map fun (slot, obj) =>
          ⟨obj.addr, ctrlApdu slot (control slot cmd.obj obj), dev.element.attri == .actuator⟩
      else none
  | _, _ => none

/-- The points a command names in a list of devices. -/
def targets (kind : Climate) (cmd : KnxWrite) (nodes : Nodes CtrlDevice) : List Target :=
  nodes.filterMap (·.bind (CtrlDevice.target kind cmd))

/-- What is to be sent: one target after the other is tried until `knxd` takes a telegram. The
report of an actuator comes before. -/
def attempts (env : Replies) : Nat → List Target → List Sent
  | _, [] => []
  | calls, t :: rest =>
      let calls := if env.bActive && t.actuator then calls + 1 else calls
      if env.eibSocketURL calls && env.eibOpenTGroup calls then
        let ret := env.eibSendAPDU calls
        (some (readgaddr t.addr), t.apdu, ret) ::
          if ret = -1 then attempts env (calls + 1) rest else []
      else attempts env (calls + 1) rest

/-- For all answers of `knxd`, exactly the groups of the named points are opened. -/
structure ControlsExactly (kind : Climate) (cmd : KnxWrite) (nodes : Nodes CtrlDevice) : Prop where
  group : ∀ t ∈ targets kind cmd nodes, ∀ g, Spells t.addr g → readgaddr t.addr = g
  sent : ∀ env calls, telegrams (kind.handler.ctrl env cmd calls nodes).events =
    attempts env calls (targets kind cmd nodes)

section

variable {kind : Climate} {env : Replies} {cmd : KnxWrite} {dev : CtrlDevice}

@[simp] theorem telegrams_append (first second : List CtrlEvent) :
    telegrams (first ++ second) = telegrams first ++ telegrams second := List.filterMap_append

theorem handler_eq {body : CtrlBody} :
    body.handler = kind.handler ↔ ∃ objs, body = .climate kind objs := by
  cases body with
  | climate kind' objs =>
    cases kind <;> cases kind' <;> simp [CtrlBody.handler, Climate.handler]
  | panel => cases kind <;> simp [CtrlBody.handler, Climate.handler]
  | smartPanel => cases kind <;> simp [CtrlBody.handler, Climate.handler]
  | dimmer => cases kind <;> simp [CtrlBody.handler, Climate.handler]
  | curtain => cases kind <;> simp [CtrlBody.handler, Climate.handler]

theorem untargeted_quiet (none : dev.target kind cmd = none) :
    Quiet (kind.handler.ctrlNode env cmd) (some dev) := by
  intro s
  simp only [Handler.ctrlNode]
  split
  · rename_i here
    obtain ⟨objs, body⟩ := handler_eq.mp here.1
    have silent : climateCtrl kind objs env cmd s dev = { state := s, value := dev } := by
      rw [climateCtrl]
      split
      · rename_i control slot obj plugin hit
        simp [CtrlDevice.target, body, plugin, here.2, hit] at none
      · rfl
    simp [ctrlDevice, body, silent]
  · rfl

/-- The visit of a device with a named point, up to what is stored in it. -/
structure Targeted (env : Replies) (cmd : KnxWrite) (dev : CtrlDevice) (t : Target) (s : CtrlState)
    (step : Step CtrlState (Option CtrlDevice) CtrlEvent) : Prop where
  skipped : readgaddr t.addr = 0xff → step.flow = .next ∧ step.state = s ∧ step.events = []
  tried : readgaddr t.addr ≠ 0xff →
    let reported := climateReport env cmd dev s
    let sent := transmit env (some (readgaddr t.addr)) t.apdu reported.1
    step.flow = (if sent.1 then .stop else .next) ∧ step.state = sent.2.1 ∧
      step.events = reported.2 ++ sent.2.2

theorem target_actuator {t : Target} (found : dev.target kind cmd = some t) :
    t.actuator = (dev.element.attri == .actuator) := by
  rw [CtrlDevice.target] at found
  split at found
  · split at found
    · obtain ⟨hit, -, rfl⟩ := Option.map_eq_some_iff.mp found
      rfl
    · contradiction
  · contradiction

theorem targeted {t : Target} (found : dev.target kind cmd = some t) (s : CtrlState) :
    Targeted env cmd dev t s (kind.handler.ctrlNode env cmd s (some dev)) := by
  rw [CtrlDevice.target] at found
  split at found
  · rename_i kind' objs control body plugin
    split at found
    · rename_i here
      obtain ⟨rfl, own⟩ := here
      obtain ⟨⟨slot, obj⟩, hit, rfl⟩ := Option.map_eq_some_iff.mp found
      have taken : (CtrlBody.climate kind' objs).handler = kind'.handler ∧
          dev.element.devId = cmd.devId := ⟨handler_eq.mpr ⟨objs, rfl⟩, own⟩
      simp only [Handler.ctrlNode, ctrlDevice, body, if_pos taken, climateCtrl, plugin, hit]
      constructor
      · intro mark
        simp only at mark
        simp [mark]
      · intro other
        simp only at other
        simp [other]
    · contradiction
  · contradiction

theorem climateReport_calls (s : CtrlState) : (climateReport env cmd dev s).1.calls =
    if env.bActive && dev.element.attri == .actuator then s.calls + 1 else s.calls := by
  rw [climateReport]
  split <;> rfl

theorem climateReport_telegrams (s : CtrlState) :
    telegrams (climateReport env cmd dev s).2 = [] := by
  rw [climateReport]
  split <;> rfl

theorem transmit_calls (gAddr : Option Nat) (apdu : List Nat) (s : CtrlState) :
    (transmit env gAddr apdu s).2.1.calls = s.calls + 1 := by
  rw [transmit]
  split
  · rfl
  · split <;> rfl

theorem transmit_telegrams (gAddr : Option Nat) (apdu : List Nat) (s : CtrlState) :
    telegrams (transmit env gAddr apdu s).2.2 =
      if env.eibSocketURL s.calls && env.eibOpenTGroup s.calls then
        [(gAddr, apdu, env.eibSendAPDU s.calls)] else [] := by
  rw [transmit]
  cases env.eibSocketURL s.calls with
  | false => rfl
  | true => cases env.eibOpenTGroup s.calls <;> rfl

theorem transmit_sent {gAddr : Option Nat} {apdu : List Nat} {s : CtrlState} {sent : Sent}
    (member : sent ∈ telegrams (transmit env gAddr apdu s).2.2) :
    sent.1 = gAddr ∧ sent.2.1 = apdu := by
  rw [transmit_telegrams, List.mem_ite_nil_right, List.mem_singleton] at member
  rw [member.2]
  exact ⟨rfl, rfl⟩

theorem transmit_done (gAddr : Option Nat) (apdu : List Nat) (s : CtrlState) :
    (transmit env gAddr apdu s).1 =
      (env.eibSocketURL s.calls && env.eibOpenTGroup s.calls && env.eibSendAPDU s.calls != -1) := by
  rw [transmit]
  cases env.eibSocketURL s.calls with
  | false => rfl
  | true =>
    cases env.eibOpenTGroup s.calls with
    | false => rfl
    | true => simp [bne, beq_eq_decide]

/-- A target that the handler does not take for "not found". -/
def Target.found (t : Target) : Bool := readgaddr t.addr != 0xff

/-- The visit of a target that is tried is the head of the attempts. -/
theorem tried_attempts {t : Target} {s : CtrlState} {rest : List Target}
    {more : CtrlState → List Sent} (actuator : t.actuator = (dev.element.attri == .actuator))
    (later : ∀ s, more s = attempts env s.calls rest) :
    let reported := climateReport env cmd dev s
    let sent := transmit env (some (readgaddr t.addr)) t.apdu reported.1
    telegrams sent.2.2 ++ (if sent.1 then [] else more sent.2.1) = attempts env s.calls
        (t :: rest) := by
  dsimp only
  have calls := @climateReport_calls env cmd dev s
  rw [← actuator] at calls
  rw [attempts, transmit_telegrams, transmit_done, later, transmit_calls, calls]
  dsimp only
  generalize (if (env.bActive && t.actuator) = true then s.calls + 1 else s.calls) = n
  by_cases taken : (env.eibSocketURL n && env.eibOpenTGroup n) = true
  · by_cases refused : env.eibSendAPDU n = -1
    · simp [taken, refused]
    · simp [taken, refused]
  · simp [taken]

/-- The handler tries the targets in the order of the list, but for those with the mark. -/
theorem telegrams_eq_attempts (nodes : Nodes CtrlDevice) (s : CtrlState) :
    telegrams (loop (kind.handler.ctrlNode env cmd) s nodes).events =
      attempts env s.calls ((targets kind cmd nodes).filter Target.found) := by
  induction nodes generalizing s with
  | nil => rfl
  | cons node rest ih =>
    have quiet (silent : Quiet (kind.handler.ctrlNode env cmd) node)
        (same : targets kind cmd (node :: rest) = targets kind cmd rest) :
        telegrams (loop (kind.handler.ctrlNode env cmd) s (node :: rest)).events =
          attempts env s.calls ((targets kind cmd (node :: rest)).filter Target.found) := by
      rw [loop_cons_next _ (by rw [silent s]), same, silent s]
      exact ih s
    cases node with
    | none => exact quiet (fun _ => rfl) rfl
    | some dev =>
      cases named : dev.target kind cmd with
      | none => exact quiet (untargeted_quiet named) (by simp [targets, named])
      | some t =>
        have split : targets kind cmd (some dev :: rest) = t :: targets kind cmd rest := by
          simp [targets, named]
        have visited := @targeted kind env cmd dev t named s
        rw [split]
        by_cases mark : readgaddr t.addr = 0xff
        · obtain ⟨flow, state, events⟩ := visited.skipped mark
          rw [loop_cons_next _ flow, telegrams_append, state, events, ih,
            List.filter_cons_of_neg (by simp [Target.found, mark])]
          rfl
        · obtain ⟨flow, state, events⟩ := visited.tried mark
          have head := @tried_attempts env cmd dev t s _
            (fun s => telegrams (loop (kind.handler.ctrlNode env cmd) s rest).events)
            (target_actuator named) ih
          rw [List.filter_cons_of_pos (by simp [Target.found, mark]), ← head]
          split
          · rename_i stops
            rw [loop_cons_left _ (by rw [flow, if_pos stops]; decide), events, telegrams_append,
              climateReport_telegrams, List.append_nil, List.nil_append]
          · rename_i goes
            rw [loop_cons_next _ (by rw [flow, if_neg goes]), events, telegrams_append,
              telegrams_append, climateReport_telegrams, List.nil_append, state]

/-- Every telegram goes to a named point. -/
theorem attempts_target {ts : List Target} {calls : Nat} {sent : Sent}
    (member : sent ∈ attempts env calls ts) :
    ∃ t ∈ ts, sent.1 = some (readgaddr t.addr) ∧ sent.2.1 = t.apdu := by
  induction ts generalizing calls with
  | nil => simp [attempts] at member
  | cons t rest ih =>
    rw [attempts] at member
    have later {calls : Nat} (member : sent ∈ attempts env calls rest) :
        ∃ t' ∈ t :: rest, sent.1 = some (readgaddr t'.addr) ∧ sent.2.1 = t'.apdu := by
      obtain ⟨t', inside, same⟩ := ih member
      exact ⟨t', List.mem_cons_of_mem _ inside, same⟩
    dsimp only at member
    generalize (if (env.bActive && t.actuator) = true then calls + 1 else calls) = n at member
    split at member
    · rcases List.mem_cons.mp member with rfl | more
      · exact ⟨t, List.mem_cons_self, rfl, rfl⟩
      · split at more
        · exact later more
        · simp at more
    · exact later member

/-- `knxd` opens every group and loses every telegram. -/
def lossy : Replies where
  bActive := false
  report := fun _ => 0
  hbFresh := fun _ => 0
  eibSocketURL := fun _ => true
  eibOpenTGroup := fun _ => true
  eibSendAPDU := fun _ => -1

theorem attempts_lossy (calls : Nat) (ts : List Target) :
    attempts lossy calls ts = ts.map fun t => (some (readgaddr t.addr), t.apdu, -1) := by
  induction ts generalizing calls with
  | nil => rfl
  | cons t rest ih => simp [attempts, lossy, ← ih (calls + 1)]

end

theorem controls_exactly_iff (kind : Climate) (cmd : KnxWrite) (nodes : Nodes CtrlDevice) :
    ControlsExactly kind cmd nodes ↔ ∀ t ∈ targets kind cmd nodes, ¬ ReadsAs t.addr 0xff := by
  have valid : ∀ t ∈ targets kind cmd nodes, ∀ g, Spells t.addr g → readgaddr t.addr = g :=
    fun t _ g spells => spells.readsAs.readgaddr
  constructor
  · intro exactly t member mark
    have sent := exactly.sent lossy 0
    rw [Handler.ctrl, telegrams_eq_attempts, attempts_lossy, attempts_lossy] at sent
    have kept := congrArg List.length sent
    rw [List.length_map, List.length_map, List.length_filter_eq_length_iff] at kept
    have found := kept t member
    simp [Target.found, mark.readgaddr] at found
  · intro found
    refine ⟨valid, fun env calls => ?_⟩
    have all : (targets kind cmd nodes).filter Target.found = targets kind cmd nodes := by
      rw [List.filter_eq_self]
      intro t member
      have other : readgaddr t.addr ≠ 0xff := fun mark => found t member (readgaddr_iff.mp mark)
      simp [Target.found, other]
    rw [Handler.ctrl, telegrams_eq_attempts, all]

/-- A floor heating whose setpoint has the group address `0/0/255`. -/
def bathHeating : Nodes CtrlDevice :=
  [some { element :=
            { szName := "heat".toList, pPrimaryKey := "02c7ecdad9251103".toList, devId := 1103 }
          control := some fun _ _ _ => 0x0c1a
          body := .climate .heat fun
            | .temp => some { cloudPoint := 2, addr := "0/0/255".toList }
            | _ => none }]

def bathWrite : KnxWrite where
  pPrimaryKey := "02c7ecdad9251103".toList
  devId := 1103
  obj := { dpid := 2, type := .value, value := 21 }

theorem bath_unheated : Spells "0/0/255".toList 0xff ∧
    telegrams (Handler.heat.ctrl hallReplies bathWrite 0 bathHeating).events = [] ∧
    attempts hallReplies 0 (targets .heat bathWrite bathHeating) =
      [(some 0xff, [0, 0x80, 0x0c, 0x1a], 3)] ∧
    ¬ ControlsExactly .heat bathWrite bathHeating := by
  have spells : Spells "0/0/255".toList 0xff :=
    Spells.three (printThree_level (by decide : 255 < 2 ^ 16))
  have silent : telegrams (Handler.heat.ctrl hallReplies bathWrite 0 bathHeating).events = [] := by
    decide +kernel
  have wanted : attempts hallReplies 0 (targets .heat bathWrite bathHeating) =
      [(some 0xff, [0, 0x80, 0x0c, 0x1a], 3)] := by
    decide +kernel
  refine ⟨spells, silent, wanted, ?_⟩
  intro exactly
  have sent := exactly.sent hallReplies 0
  rw [wanted] at sent
  simp only [Climate.handler, silent] at sent
  contradiction

end HiMaxGateway.Knx
