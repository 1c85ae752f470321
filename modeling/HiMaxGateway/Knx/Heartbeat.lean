import HiMaxGateway.Knx.DevMonitor
import HiMaxGateway.GatewayJobs
import HiMaxGateway.Unbind
import HiMaxGateway.Lib.Fault

/-! The heartbeat of the KNX devices. The cloud asks for a device, every sixth request reads a group
from the bus, and the answer of the device refreshes it in the cloud. -/
namespace HiMaxGateway.Knx
open CText CRun Walk Thpool

/-- `KnxBase_t` with its counter of requests that were ignored. -/
structure HbDevice where
  dev : KnxDevice
  bOnlineCheck : Bool
  hbIgnore : Nat := 0

inductive HbAct where
  | hbFresh (key : Text)
  /-- A group for the heartbeat queue; it is freed where the queue does not take it. -/
  | queuePut (grp : Text) (stored : Bool)
  | addWork (job : GatewayJob)
  deriving DecidableEq, Repr

/-- The group that is read for a device. The first point of a panel is read without a test. -/
def heartbeatGroup : Body → Result (Option Text)
  | .climate _ objs => .ok ((objs .switchStatus).map (·.addr))
  | .panel keys | .smartPanel keys =>
      match keys with
      | [] => .error .outOfBounds
      | key :: _ => .ok key.pFeedback
  | .dimmer [] => .error .outOfBounds
  | .dimmer (chl :: _) => .ok chl.bright.pFeedback
  | .curtain none _ _ => .error .nullPointer
  | .curtain (some pOpen) _ _ => .ok pOpen.pGroup

def HbDevice.request (d : HbDevice) (accepts : Bool) : Result (HbDevice × List HbAct) :=
  if d.bOnlineCheck = false then .ok (d, [.hbFresh d.dev.element.pPrimaryKey])
  else if d.hbIgnore < 5 then .ok ({ d with hbIgnore := d.hbIgnore + 1 }, [])
  else do
    let grp ← heartbeatGroup d.dev.body
    .ok ({ d with hbIgnore := 0 }, grp.toList.map (.queuePut · accepts))

def HbDevice.key (d : HbDevice) : Text := d.dev.element.pPrimaryKey

/-- The first device of the list with the id; `accepts` is what the heartbeat queue would answer. -/
def knxRequestHB (pDevId : Text) (accepts : Bool) :
    Nodes HbDevice → Result (Int × Nodes HbDevice × List HbAct)
  | [] => .ok (-1, [], [])
  | some d :: rest =>
      if d.key = pDevId then do
        let (d, acts) ← d.request accepts
        .ok (0, some d :: rest, acts)
      else do
        let (ret, rest, acts) ← knxRequestHB pDevId accepts rest
        .ok (ret, some d :: rest, acts)
  | none :: rest => do
      let (ret, rest, acts) ← knxRequestHB pDevId accepts rest
      .ok (ret, none :: rest, acts)

/-- The static variables of `_misc_dev_hb_cb`, and the list of the KNX devices. -/
structure HbState where
  knxFirst : Bool := false
  knxCnt : Nat := 0
  mbusFirst : Bool := false
  mbusCnt : Nat := 0
  nodes : Nodes HbDevice

/-- A call of `_misc_dev_hb_cb`, with the type that the SDK has for the device. -/
structure HbCall where
  dev_id : Text
  tp : Option DevTp
  accepts : Bool
  deriving DecidableEq, Repr

/-- The branch of the Zigbee devices is left out. -/
def miscDevHbCb (call : HbCall) (s : HbState) : Result (HbState × List HbAct) :=
  match call.tp with
  | some .knx =>
      if s.knxFirst = false then
        .ok ({ s with knxCnt := s.knxCnt + 1, knxFirst := s.knxCnt + 1 ≥ 2 },
          [.addWork .knxDevStateSync])
      else do
        let (_, nodes, acts) ← knxRequestHB call.dev_id call.accepts s.nodes
        .ok ({ s with nodes }, acts)
  | some .rs485 =>
      if s.mbusFirst = false then
        .ok ({ s with mbusCnt := s.mbusCnt + 1, mbusFirst := s.mbusCnt + 1 ≥ 1 },
          [.addWork .mbusSyncAllDevStatus])
      else .ok (s, [.addWork (.modbusDevHealth call.dev_id)])
  | some .usr1 => .ok (s, [.hbFresh call.dev_id])
  | _ => .ok (s, [])

/-- The calls with what each of them did. -/
def runHbCalls : List HbCall → HbState → Result (HbState × List (HbCall × List HbAct))
  | [], s => .ok (s, [])
  | call :: calls, s => do
      let (s, acts) ← miscDevHbCb call s
      let (s, log) ← runHbCalls calls s
      .ok (s, (call, acts) :: log)

/-- The device that an id names. -/
def deviceOf (key : Text) : Nodes HbDevice → Option HbDevice
  | [] => none
  | some d :: rest => if d.key = key then some d else deviceOf key rest
  | none :: rest => deviceOf key rest

variable {nodes nodes' : Nodes HbDevice} {key other : Text} {accepts : Bool} {acts : List HbAct}
  {ret : Int} {d d' : HbDevice} {s s' : HbState} {call : HbCall} {calls : List HbCall}
    {log : List (HbCall × List HbAct)}

theorem request_key (done : d.request accepts = .ok (d', acts)) : d'.key = d.key := by
  rw [HbDevice.request] at done
  split at done
  · cases done
    rfl
  · split at done
    · cases done
      rfl
    · obtain ⟨grp, -, done⟩ := bind_eq_ok.mp done
      cases done
      rfl

/-- A request goes to the device that the id names, and to no other. -/
theorem knxRequestHB_spec (done : knxRequestHB key accepts nodes = .ok (ret, nodes', acts)) :
    (∀ d, deviceOf key nodes = some d → ∃ d', d.request accepts = .ok (d', acts) ∧
    deviceOf key nodes' = some d') ∧
      ∀ other, other ≠ key → deviceOf other nodes' = deviceOf other nodes := by
  induction nodes generalizing ret nodes' acts with
  | nil =>
    cases done
    refine ⟨fun d named => ?_, fun _ _ => rfl⟩
    cases named
  | cons node rest ih =>
    cases node with
    | none =>
      obtain ⟨⟨ret, rest', acts⟩, later, done⟩ := bind_eq_ok.mp done
      cases done
      simpa only [deviceOf] using ih later
    | some d =>
      rw [knxRequestHB] at done
      split at done
      · rename_i same
        obtain ⟨⟨d', acts⟩, here, done⟩ := bind_eq_ok.mp done
        cases done
        have key' := (request_key here).trans same
        refine ⟨fun d₁ named => ?_, fun other apart => ?_⟩
        · rw [deviceOf, if_pos same] at named
          cases named
          exact ⟨d', here, by rw [deviceOf, if_pos key']⟩
        · rw [deviceOf, deviceOf, if_neg (key' ▸ Ne.symm apart), if_neg (same ▸ Ne.symm apart)]
      · rename_i apart
        obtain ⟨⟨ret, rest', acts⟩, later, done⟩ := bind_eq_ok.mp done
        cases done
        obtain ⟨named, others⟩ := ih later
        refine ⟨fun d₁ here => ?_, fun other differs => ?_⟩
        · rw [deviceOf, if_neg apart] at here ⊢
          exact named d₁ here
        · simp only [deviceOf, others other differs]

/-- What the `n`-th request for a device does, counted from the last one that read its group. -/
def HbDevice.answer (d : HbDevice) (grp : Option Text) (n : Nat) (accepts : Bool) : List HbAct :=
  if d.bOnlineCheck = false then [.hbFresh d.key]
  else if n % 6 = 5 then grp.toList.map (.queuePut · accepts)
  else []

/-- A later state of the device. -/
structure Later (d d' : HbDevice) (n : Nat) : Prop where
  dev : d'.dev = d.dev
  check : d'.bOnlineCheck = d.bOnlineCheck
  few : d'.hbIgnore ≤ 5
  counts : d.bOnlineCheck = true → d'.hbIgnore % 6 = n % 6

theorem Later.answer {grp : Option Text} {n m : Nat} (later : Later d d' n) :
    d'.answer grp (d'.hbIgnore + m) accepts = d.answer grp (n + m) accepts := by
  rw [HbDevice.answer, HbDevice.answer, later.check, HbDevice.key, HbDevice.key, later.dev]
  cases check : d.bOnlineCheck with
  | false => rfl
  | true =>
    have same := later.counts check
    have period : (d'.hbIgnore + m) % 6 = (n + m) % 6 := by omega
    rw [period]

theorem request_spec {grp : Option Text} (few : d.hbIgnore ≤ 5)
    (reads : heartbeatGroup d.dev.body = .ok grp) :
    ∃ d', d.request accepts = .ok (d', d.answer grp d.hbIgnore accepts) ∧
      Later d d' (d.hbIgnore + 1) := by
  cases check : d.bOnlineCheck with
  | false =>
    refine ⟨d, ?_, rfl, rfl, few, fun on => by cases check.symm.trans on⟩
    simp [HbDevice.request, HbDevice.answer, check, HbDevice.key]
  | true =>
    by_cases ignored : d.hbIgnore < 5
    · refine ⟨{ d with hbIgnore := d.hbIgnore + 1 }, ?_, rfl, rfl, ignored, fun _ => rfl⟩
      have period : d.hbIgnore % 6 ≠ 5 := by omega
      simp [HbDevice.request, HbDevice.answer, check, ignored, period]
    · have full : d.hbIgnore = 5 := by omega
      refine ⟨{ d with hbIgnore := 0 }, ?_, rfl, rfl, Nat.zero_le _, fun _ => by simp [full]⟩
      simp [HbDevice.request, HbDevice.answer, check, full, reads, bind, Except.bind]

/-- How many calls for KNX devices are still answered by synchronising all of them. -/
def HbState.syncsLeft (s : HbState) : Nat := if s.knxFirst then 0 else 2 - s.knxCnt

def HbState.Counts (s : HbState) : Prop := s.knxFirst = false → s.knxCnt < 2

def HbCall.isKnx (call : HbCall) : Bool := call.tp = some .knx

/-- What one call does, as the KNX devices see it. -/
inductive HbStep (call : HbCall) (s s' : HbState) (acts : List HbAct) : Prop where
  | other :
      call.isKnx = false → s'.nodes = s.nodes → s'.syncsLeft = s.syncsLeft → HbStep call s s' acts
  | sync (left : Nat) :
      call.isKnx = true → s'.nodes = s.nodes → s.syncsLeft = left + 1 → s'.syncsLeft = left →
        acts = [.addWork .knxDevStateSync] → HbStep call s s' acts
  | request (ret : Int) : call.isKnx = true → s.syncsLeft = 0 → s'.syncsLeft = 0 →
      knxRequestHB call.dev_id call.accepts s.nodes = .ok (ret, s'.nodes, acts) →
        HbStep call s s' acts

theorem miscDevHbCb_step (counts : s.Counts) (done : miscDevHbCb call s = .ok (s', acts)) :
    HbStep call s s' acts ∧ s'.Counts := by
  rw [miscDevHbCb] at done
  split at done
  · rename_i knx
    have isKnx : call.isKnx = true := by simp [HbCall.isKnx, knx]
    split at done
    · rename_i first
      have few := counts first
      cases done
      refine ⟨.sync (1 - s.knxCnt) isKnx rfl ?_ ?_ rfl, ?_⟩
      · simp only [HbState.syncsLeft, first, Bool.false_eq_true, if_false]
        omega
      · by_cases last : s.knxCnt + 1 ≥ 2
        · have all : s.knxCnt = 1 := by omega
          simp [HbState.syncsLeft, all]
        · simp [HbState.syncsLeft, last]
      · intro still
        have more : ¬s.knxCnt + 1 ≥ 2 := of_decide_eq_false still
        exact Nat.lt_of_not_ge more
    · rename_i synced
      obtain ⟨⟨ret, nodes, acts⟩, asked, done⟩ := bind_eq_ok.mp done
      cases done
      have none_ : s.syncsLeft = 0 := by
        simp [HbState.syncsLeft, Bool.eq_true_of_not_eq_false synced]
      exact ⟨.request ret isKnx none_ none_ asked, counts⟩
  · rename_i rs485
    have other : call.isKnx = false := by simp [HbCall.isKnx, rs485]
    split at done <;> cases done <;> exact ⟨.other other rfl rfl, counts⟩
  · rename_i usr1
    cases done
    exact ⟨.other (by simp [HbCall.isKnx, usr1]) rfl rfl, counts⟩
  · rename_i knx _ _
    cases done
    exact ⟨.other (by simpa [HbCall.isKnx] using knx) rfl rfl, counts⟩

/-- The entries of a log for KNX devices. -/
def knxLog (log : List (HbCall × List HbAct)) : List (HbCall × List HbAct) := log.filter (·.1.isKnx)

theorem run_log {grp : Option Text} (counts : s.Counts) (done : runHbCalls calls s = .ok (s', log))
    (named : deviceOf key s.nodes = some d) (few : d.hbIgnore ≤ 5)
    (reads : heartbeatGroup d.dev.body = .ok grp) :
    (∀ entry ∈ (knxLog log).take s.syncsLeft, entry.2 = [.addWork .knxDevStateSync]) ∧
      (((knxLog log).drop s.syncsLeft).filter (·.1.dev_id == key)).map (·.2) =
        (((calls.filter HbCall.isKnx).drop s.syncsLeft).filter (·.dev_id == key)).mapIdx
          fun n call =>
          d.answer grp (d.hbIgnore + n) call.accepts := by
  induction calls generalizing s s' log d with
  | nil =>
    cases done
    simp [knxLog]
  | cons call calls ih =>
    obtain ⟨⟨s₁, acts⟩, here, rest⟩ := bind_eq_ok.mp done
    obtain ⟨⟨s₂, log⟩, later, ended⟩ := bind_eq_ok.mp rest
    cases ended
    obtain ⟨stepped, counts⟩ := miscDevHbCb_step counts here
    cases stepped with
    | other other nodes left =>
      have more := ih counts later (nodes ▸ named) few reads
      simpa [knxLog, other, left] using more
    | sync left isKnx nodes some_ less first =>
      have more := ih counts later (nodes ▸ named) few reads
      rw [less] at more
      simpa [knxLog, isKnx, some_, first] using more
    | request ret isKnx none_ less asked =>
      obtain ⟨own, others⟩ := knxRequestHB_spec asked
      by_cases same : call.dev_id = key
      · obtain ⟨d₁, answered, now⟩ := own d (same ▸ named)
        obtain ⟨d₂, answered', later_⟩ :
          ∃ d', d.request call.accepts = .ok (d', d.answer grp d.hbIgnore call.accepts) ∧
            Later d d' (d.hbIgnore + 1) := request_spec few reads
        rw [answered] at answered'
        cases answered'
        have more := ih counts later (same ▸ now) later_.few (later_.dev ▸ reads)
        simp only [later_.answer] at more
        simpa [knxLog, isKnx, none_, less, same, Nat.add_assoc, Nat.add_comm 1] using more
      · have more := ih counts later ((others key (Ne.symm same)).trans named) few reads
        simpa [knxLog, isKnx, none_, less, same] using more

/-- The first two calls for KNX devices synchronise all of them. Of the later ones for a device
that is to be checked, every sixth puts its group on the heartbeat queue and the others do nothing;
a device that is not to be checked is refreshed by each. The calls for other devices play no
part. -/
theorem knx_heartbeats {grp : Option Text} (done : runHbCalls calls { nodes } = .ok (s', log))
    (named : deviceOf key nodes = some d) (new : d.hbIgnore = 0)
    (reads : heartbeatGroup d.dev.body = .ok grp) :
    (∀ entry ∈ (knxLog log).take 2, entry.2 = [.addWork .knxDevStateSync]) ∧
      (((knxLog log).drop 2).filter (·.1.dev_id == key)).map (·.2) =
        (((calls.filter HbCall.isKnx).drop 2).filter (·.dev_id == key)).mapIdx fun n call =>
          d.answer grp n call.accepts := by
  have left : ({ nodes } : HbState).syncsLeft = 2 := rfl
  have all := run_log (fun _ => Nat.zero_lt_two) done named (new ▸ Nat.zero_le 5) reads
  rw [left] at all
  simpa only [new, Nat.zero_add] using all

def checkedPanel : HbDevice := { dev := corridorPanel, bOnlineCheck := true }

def panelCalls : List HbCall := List.replicate 8 ⟨"panel".toList, some .knx, true⟩

theorem knx_heartbeats_panel :
    ∃ s' log, runHbCalls panelCalls { nodes := [some checkedPanel] } = .ok (s', log) ∧
      (((knxLog log).drop 2).filter (·.1.dev_id == "panel".toList)).map (·.2) =
        [[], [], [], [], [], [.queuePut "1/2/3".toList true]] := by
  have named : deviceOf "panel".toList [some checkedPanel] = some checkedPanel := rfl
  have reads : heartbeatGroup checkedPanel.dev.body = .ok (some "1/2/3".toList) := rfl
  have runs : (runHbCalls panelCalls { nodes := [some checkedPanel] }).isOk = true := by
    decide +kernel
  cases done : runHbCalls panelCalls { nodes := [some checkedPanel] } with
  | error fault => exact absurd runs (by simp [done, Except.isOk, Except.toBool])
  | ok result =>
    have answers := (knx_heartbeats done named rfl reads).2
    have all :
      (((panelCalls.filter HbCall.isKnx).drop 2).filter (·.dev_id == "panel".toList)).mapIdx
        (fun n call => checkedPanel.answer (some "1/2/3".toList) n call.accepts) =
          [[], [], [], [], [], [.queuePut "1/2/3".toList true]] := by decide +kernel
    exact ⟨result.1, result.2, rfl, answers.trans all⟩

end HiMaxGateway.Knx
