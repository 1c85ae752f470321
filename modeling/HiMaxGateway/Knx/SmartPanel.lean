import HiMaxGateway.Knx.ControlProofs
import HiMaxGateway.Lib.Run
import HiMaxGateway.Xml.Cells

/-! Runs of `Knx_SmartPanelCtrl`: the mode of each channel, the telegrams it lets through and the
text that is written to the configuration for the next start. -/
namespace HiMaxGateway.Knx
open CText Walk Loop

/-- The points of a channel. -/
def SmartChannel.ids (chl : SmartChannel) : List Nat := [chl.key.id, chl.scene.id, chl.mode.id]

def CtrlBody.channels : CtrlBody → List SmartChannel
  | .smartPanel chl => chl
  | _ => []

/-- Device and point, for each point of a smart panel. -/
def smartPoints (node : Option CtrlDevice) : List (Nat × Nat) :=
  match node with
  | none => []
  | some dev => (dev.body.channels.flatMap SmartChannel.ids).map (dev.element.devId, ·)

def pointIds (nodes : Nodes CtrlDevice) : List (Nat × Nat) := nodes.flatMap smartPoints

/-- The key of each smart panel, and the modes of its channels. -/
def nodePanel (node : Option CtrlDevice) : List (Text × List Nat) :=
  match node with
  | none => []
  | some dev =>
      match dev.body with
      | .smartPanel chl => [(dev.element.pPrimaryKey, chl.map (·.mode.value))]
      | _ => []

def panels (nodes : Nodes CtrlDevice) : List (Text × List Nat) := nodes.flatMap nodePanel

/-- A channel of the list. -/
structure Spot (nodes : Nodes CtrlDevice) where
  before : Nodes CtrlDevice
  dev : CtrlDevice
  after : Nodes CtrlDevice
  first : List SmartChannel
  chl : SmartChannel
  last : List SmartChannel
  list : nodes = before ++ some dev :: after
  body : dev.body = .smartPanel (first ++ chl :: last)

namespace Spot

variable {nodes : Nodes CtrlDevice} (spot : Spot nodes)

/-- The list with another channel in this place. -/
def set (chl : SmartChannel) : Nodes CtrlDevice :=
  spot.before ++
    some { spot.dev with body := .smartPanel (spot.first ++ chl :: spot.last) } :: spot.after

/-- The number behind the MAC and the digit of the bus; a `long` is an `int` here. -/
def id? : Option Int :=
  match strtol (spot.dev.element.pPrimaryKey.drop 13) with
  | none => none
  | some id => if id.erange then none else some id.long

/-- The command is for this point of the device. -/
def Names (cmd : KnxWrite) (point : CtrlPoint) : Prop :=
  spot.dev.element.devId = cmd.devId ∧ point.id = cmd.obj.dpid

end Spot

/-- The mode `ParseKnxSmartPanelCfg` takes from the text `scene` or `switch`. -/
def selectMode (scene : Bool) : Nat := if scene then 1 else 0

def CtrlEvent.Telegram (event : CtrlEvent) : Prop :=
  ∃ gAddr apdu ret, event = .eibSendAPDU gAddr apdu ret

/-- What a command may do. -/
structure SmartStep (nodes : Nodes CtrlDevice) (cmd : KnxWrite)
    (step : Step CtrlState (Nodes CtrlDevice) CtrlEvent) : Prop where
  key : ∀ spot : Spot nodes, spot.Names cmd spot.chl.key →
    (∃ event ∈ step.events, event.Telegram) → spot.chl.mode.value = 0
  scene : ∀ spot : Spot nodes, spot.Names cmd spot.chl.scene →
    (∃ event ∈ step.events, event.Telegram) → spot.chl.mode.value = 1
  /-- Only a key or a scene command sends a telegram. -/
  named : (∃ event ∈ step.events, event.Telegram) →
    ∃ spot : Spot nodes, spot.Names cmd spot.chl.key ∨ spot.Names cmd spot.chl.scene
  /-- A mode command, unless the process ends, sets one channel to the commanded value and hands on
  the text that gives it back, with the number of the panel and of the channel. -/
  mode : ∀ spot : Spot nodes, spot.Names cmd spot.chl.mode →
    (¬ ∃ event ∈ step.events, event.Telegram) ∧
      (step.flow ≠ .crash → ∃ value : Nat, (value : Int) = cmd.obj.value ∧
        step.value = spot.set { spot.chl with mode := { spot.chl.mode with value } } ∧
        ∃ id scene, spot.id? = some id ∧ selectMode scene = value ∧
          step.events = [.updateKnxSmartPanelMode id (spot.first.length + 1) scene,
            .report cmd.pPrimaryKey { cmd.obj with type := .enum }])
  /-- Every other command leaves the modes and the configuration. -/
  other : (∀ spot : Spot nodes, ¬ spot.Names cmd spot.chl.mode) →
    panels step.value = panels nodes ∧
      ∀ id channel scene, .updateKnxSmartPanelMode id channel scene ∉ step.events

/-- A cell of a smart panel, as far as its modes go: for each channel the text of its `select`,
where it has one. -/
structure PanelCell where
  primaryKey : Text
  selects : List (Option Text)
  deriving DecidableEq

/-- What `ParseKnxSmartPanelCfg` makes of a `select`; another text ends the process. -/
def parseSelect (text : Text) : Option Nat :=
  if Xml.sameName text "switch" then some 0 else if Xml.sameName text "scene" then some 1 else none

theorem modeSelect_stores {s t : Xml.KnxPoints} {node : Xml.Node} {text : Text}
    (act : Xml.modeSelect.act s node = .ok t) (found : node.content? = some text) :
    t.point.value = parseSelect text ∧ (parseSelect text).isSome = true := by
  rcases Xml.Branch.content_ok act with ⟨read, there, accepted, rfl⟩ | ⟨none, -⟩
  · cases Option.some.inj (there.symm.trans found)
    simp only [parseSelect]
    by_cases switch : Xml.sameName text "switch" = true
    · simp [switch]
    · by_cases scene : Xml.sameName text "scene" = true <;> simp_all
  · rw [none] at found
    contradiction

section

-- whether libxml2 takes a `PrimaryKey` for equal to a number
variable (xpath : Text → Int → Bool) (doc : List PanelCell) (id : Int) (chl : Nat)

/-- The first node of `Cell[PrimaryKey=id]/channel[chl]/mode/select`, by its cell. -/
def selected : Option Nat :=
  doc.findIdx? fun cell => xpath cell.primaryKey id && (cell.selects.getD (chl - 1) none).isSome

/-- `XmlUpdateNode` changes the first node only. -/
def updateKnxSmartPanelMode (text : Text) : List PanelCell :=
  match selected xpath doc id chl with
  | none => doc
  | some place =>
      doc.modify place fun cell => { cell with selects := cell.selects.set (chl - 1) (some text) }

end

def modeText (scene : Bool) : Text := if scene then "scene".toList else "switch".toList

theorem parseSelect_modeText (scene : Bool) :
    parseSelect (modeText scene) = some (selectMode scene) := by
  cases scene <;> decide

/-- The document behind the events of a command. -/
def persist (xpath : Text → Int → Bool) (doc : List PanelCell) (events : List CtrlEvent) :
    List PanelCell :=
  events.foldl (fun doc event =>
    match event with
    | .updateKnxSmartPanelMode id chl scene =>
        updateKnxSmartPanelMode xpath doc id chl (modeText scene)
    | _ => doc) doc

/-- A start that reads this cell gives the panel its modes. -/
structure Restored (mac : Text) (panel : Text × List Nat) (cell : PanelCell) : Prop where
  key : panel.1 = Xml.deviceKey mac .knx cell.primaryKey
  modes : List.Forall₂ (fun value select => ∀ text ∈ select, parseSelect text = some value)
    panel.2 cell.selects

/-- The list and the document. -/
structure PanelRun where
  nodes : Nodes CtrlDevice
  doc : List PanelCell

/-- The next start gives every panel the modes it has. -/
def PanelRun.Restores (mac : Text) (s : PanelRun) : Prop :=
  List.Forall₂ (Restored mac) (panels s.nodes) s.doc

structure PanelCall where
  env : Replies
  cmd : KnxWrite
  calls : Nat

def PanelCall.step (call : PanelCall) (nodes : Nodes CtrlDevice) :
    Step CtrlState (Nodes CtrlDevice) CtrlEvent :=
  Handler.smartPanel.ctrl call.env call.cmd call.calls nodes

/-- A mode command has the value `0` or `1`. -/
def PanelCall.Binary (call : PanelCall) (nodes : Nodes CtrlDevice) : Prop :=
  ∀ spot : Spot nodes, spot.Names call.cmd spot.chl.mode →
    call.cmd.obj.value = 0 ∨ call.cmd.obj.value = 1

/-- The number of the panel picks the `select` of the channel that a mode command names. -/
def PanelCall.Picks (xpath : Text → Int → Bool) (call : PanelCall) (s : PanelRun) : Prop :=
  ∀ spot : Spot s.nodes, spot.Names call.cmd spot.chl.mode → ∀ id, spot.id? = some id →
    selected xpath s.doc id (spot.first.length + 1) = some (panels spot.before).length

/-- A command after which the process goes on. -/
structure PanelStep (xpath : Text → Int → Bool) (s : PanelRun) (call : PanelCall) (t : PanelRun) :
    Prop where
  lives : (call.step s.nodes).flow ≠ .crash
  nodes : t.nodes = (call.step s.nodes).value
  doc : t.doc = persist xpath s.doc (call.step s.nodes).events

section

variable {env : Replies} {cmd : KnxWrite} {dev : CtrlDevice} {nodes : Nodes CtrlDevice}

theorem flatMap_apart {α β : Type} {f : α → List β} {before after : List α} {a : α} {x : β}
    (distinct : ((before ++ a :: after).flatMap f).Nodup) (here : x ∈ f a) :
    (∀ b ∈ before, x ∉ f b) ∧ ∀ b ∈ after, x ∉ f b := by
  rw [List.flatMap_append, List.flatMap_cons] at distinct
  obtain ⟨-, inner, apart⟩ := List.nodup_append.mp distinct
  obtain ⟨-, -, apart'⟩ := List.nodup_append.mp inner
  constructor
  · intro b member there
    exact apart x (List.mem_flatMap.mpr ⟨b, member, there⟩) x (List.mem_append_left _ here) rfl
  · intro b member there
    exact apart' x here x (List.mem_flatMap.mpr ⟨b, member, there⟩) rfl

theorem channel_quiet {chl : SmartChannel} (unnamed : cmd.obj.dpid ∉ chl.ids) (i : Nat) :
    Quiet (smartPanelCtrlChannel env cmd dev) (i, chl) := by
  simp only [SmartChannel.ids, List.mem_cons, List.not_mem_nil, or_false, not_or] at unnamed
  obtain ⟨key, scene, mode⟩ := unnamed
  intro s
  simp only [smartPanelCtrlChannel, if_neg (Ne.symm key), if_neg (Ne.symm scene),
    if_neg (Ne.symm mode)]

/-- The variables of the handler before a panel was found. -/
def CtrlState.Fresh (s : CtrlState) : Prop := s.bFound = false ∧ s.knxBuf = 0x80 ∧ s.data = []

theorem CtrlState.Fresh.reset {s : CtrlState} (fresh : s.Fresh) :
    { s with bFound := false, knxBuf := 0x80, data := [] } = s := by
  obtain ⟨calls, ret, bFound, knxBuf, data⟩ := s
  obtain ⟨rfl, rfl, rfl⟩ := fresh
  rfl

theorem handler_smartPanel {body : CtrlBody} (taken : body.handler = .smartPanel) :
    body = .smartPanel body.channels := by
  cases body with
  | climate kind objs => cases kind <;> contradiction
  | panel | dimmer | curtain => contradiction
  | smartPanel chl => rfl

theorem numbered_channels (chl : List SmartChannel) :
    (chl.zipIdx.map Prod.swap).map (·.2) = chl := by
  simp [List.map_map, Function.comp_def]

theorem ctrlDevice_smartPanel {chl : List SmartChannel} (body : dev.body = .smartPanel chl)
    {s : CtrlState} (fresh : s.Fresh) : ctrlDevice env cmd s dev =
      { flow := if (loop (smartPanelCtrlChannel env cmd dev) s (chl.zipIdx.map Prod.swap)).flow =
        .crash
          then .crash
          else if (loop (smartPanelCtrlChannel env cmd dev) s
            (chl.zipIdx.map Prod.swap)).state.bFound then .stop else .next
        state := (loop (smartPanelCtrlChannel env cmd dev) s (chl.zipIdx.map Prod.swap)).state
        value := { dev with body := .smartPanel ((loop (smartPanelCtrlChannel env cmd dev) s
          (chl.zipIdx.map Prod.swap)).value.map (·.2)) }
        events := (loop (smartPanelCtrlChannel env cmd dev) s
          (chl.zipIdx.map Prod.swap)).events } := by
  simp only [ctrlDevice, body, partsCtrl, fresh.reset]

theorem node_quiet {node : Option CtrlDevice}
    (unnamed : (cmd.devId, cmd.obj.dpid) ∉ smartPoints node) :
    QuietIn (Handler.smartPanel.ctrlNode env cmd) CtrlState.Fresh node := by
  intro s fresh
  cases node with
  | none => rfl
  | some dev =>
    by_cases taken : dev.body.handler = .smartPanel ∧ dev.element.devId = cmd.devId
    · have body := handler_smartPanel taken.1
      have quiet : ∀ part ∈ dev.body.channels.zipIdx.map Prod.swap,
          Quiet (smartPanelCtrlChannel env cmd dev) part := by
        rintro ⟨i, chl⟩ member
        have listed : chl ∈ dev.body.channels := by
          rw [← numbered_channels dev.body.channels]
          exact List.mem_map_of_mem member
        apply channel_quiet
        intro named
        apply unnamed
        rw [smartPoints, ← taken.2]
        exact List.mem_map_of_mem (List.mem_flatMap.mpr ⟨chl, listed, named⟩)
      have same : { dev with body := .smartPanel dev.body.channels } = dev := by rw [← body]
      have run := loop_quiet _ quiet s
      rw [Handler.ctrlNode, if_pos taken, ctrlDevice_smartPanel body fresh, run, numbered_channels]
      simp [fresh.1, same]
    · rw [Handler.ctrlNode, if_neg taken]

theorem pointSend_state {α : Type} (gAddr : Nat) (apdu : List Nat) (s : CtrlState) (value : α) :
    (pointSend env gAddr apdu s [] value).state.knxBuf = s.knxBuf ∧
      (pointSend env gAddr apdu s [] value).state.data = s.data := by
  simp only [pointSend, transmit]
  split
  · exact ⟨rfl, rfl⟩
  split
  · exact ⟨rfl, rfl⟩
  split <;> exact ⟨rfl, rfl⟩

theorem channel_state (s : CtrlState) (i : Nat) (chl : SmartChannel) :
    (smartPanelCtrlChannel env cmd dev s (i, chl)).state.knxBuf = s.knxBuf ∧
      (smartPanelCtrlChannel env cmd dev s (i, chl)).state.data = s.data := by
  simp only [smartPanelCtrlChannel]
  split
  · split
    · split
      · exact ⟨rfl, rfl⟩
      · exact pointSend_state _ _ _ _
    · exact ⟨rfl, rfl⟩
  split
  · split
    · split
      · exact ⟨rfl, rfl⟩
      · exact pointSend_state _ _ _ _
    · exact ⟨rfl, rfl⟩
  split
  · split
    · exact ⟨rfl, rfl⟩
    · split <;> exact ⟨rfl, rfl⟩
  · exact ⟨rfl, rfl⟩

theorem CtrlState.fresh_start (calls : Nat) : ({ calls } : CtrlState).Fresh := ⟨rfl, rfl, rfl⟩

/-- The node of a panel is the visit of the one channel that the command names. -/
theorem node_named (env : Replies) {dev : CtrlDevice} {first last : List SmartChannel}
    {chl : SmartChannel} (body : dev.body = .smartPanel (first ++ chl :: last))
    (device : dev.element.devId = cmd.devId)
    (ahead : ∀ c ∈ first, cmd.obj.dpid ∉ c.ids) (behind : ∀ c ∈ last, cmd.obj.dpid ∉ c.ids)
    (calls : Nat) :
    let visit := smartPanelCtrlChannel env cmd dev { calls } (first.length, chl)
    Handler.smartPanel.ctrlNode env cmd { calls } (some dev) =
      { flow := if visit.flow = .crash then .crash else if visit.state.bFound then .stop else .next
        state := visit.state
        value := some { dev with body := .smartPanel (first ++ visit.value.2 :: last) }
        events := visit.events } := by
  intro visit
  have numbered : (first ++ chl :: last).zipIdx.map Prod.swap =
      (first.zipIdx.map Prod.swap) ++ (first.length, chl) ::
        (last.zipIdx (first.length + 1)).map Prod.swap := by
    simp [List.zipIdx_append]
  have quiet : ∀ {chls : List SmartChannel} (k : Nat), (∀ c ∈ chls, cmd.obj.dpid ∉ c.ids) →
      ∀ part ∈ (chls.zipIdx k).map Prod.swap, Quiet (smartPanelCtrlChannel env cmd dev) part := by
    rintro chls k unnamed part member
    obtain ⟨⟨c, i⟩, listed, rfl⟩ := List.mem_map.mp member
    exact channel_quiet (unnamed c (List.fst_mem_of_mem_zipIdx listed)) i
  have inner := loop_single (smartPanelCtrlChannel env cmd dev) (first.length, chl)
    (quiet 0 ahead) (quiet (first.length + 1) behind) { calls }
  have taken : dev.body.handler = .smartPanel ∧ dev.element.devId = cmd.devId :=
    ⟨by rw [body]; rfl, device⟩
  rw [Handler.ctrlNode, if_pos taken, ctrlDevice_smartPanel body (CtrlState.fresh_start calls),
    numbered, inner]
  simp [visit, Function.comp_def]

/-- With distinct points a command that names a channel is the visit of that channel. -/
theorem named_step (env : Replies) (distinct : (pointIds nodes).Nodup) (spot : Spot nodes)
    (device : spot.dev.element.devId = cmd.devId) (named : cmd.obj.dpid ∈ spot.chl.ids)
    (calls : Nat) :
    let visit := smartPanelCtrlChannel env cmd spot.dev { calls } (spot.first.length, spot.chl)
    let step := Handler.smartPanel.ctrl env cmd calls nodes
    step.value = spot.set visit.value.2 ∧ step.events = visit.events ∧
      (step.flow = .crash ↔ visit.flow = .crash) := by
  obtain ⟨before, dev, after, first, chl, last, rfl, body⟩ := spot
  intro visit step
  have channels : dev.body.channels = first ++ chl :: last := by rw [body]; rfl
  have here : (cmd.devId, cmd.obj.dpid) ∈ smartPoints (some dev) := by
    rw [smartPoints, channels, ← device]
    exact List.mem_map_of_mem (List.mem_flatMap.mpr ⟨chl, by simp, named⟩)
  obtain ⟨earlier, later⟩ := flatMap_apart distinct here
  have ids : ((first ++ chl :: last).flatMap SmartChannel.ids).Nodup := by
    rw [pointIds, List.flatMap_append, List.flatMap_cons] at distinct
    have own := (List.nodup_append.mp (List.nodup_append.mp distinct).2.1).1
    rw [smartPoints, channels] at own
    exact own.of_map _
  obtain ⟨ahead, behind⟩ := flatMap_apart ids named
  have visited : Handler.smartPanel.ctrlNode env cmd { calls } (some dev) =
      { flow := if visit.flow = .crash then .crash else if visit.state.bFound then .stop else .next
        state := visit.state
        value := some { dev with body := .smartPanel (first ++ visit.value.2 :: last) }
        events := visit.events } := node_named env body device ahead behind calls
  have goes : (Handler.smartPanel.ctrlNode env cmd { calls } (some dev)).flow = .next →
      (Handler.smartPanel.ctrlNode env cmd { calls } (some dev)).state.Fresh := by
    rw [visited]
    intro next
    obtain ⟨buf, data⟩ := @channel_state env cmd dev { calls } first.length chl
    refine ⟨?_, buf, data⟩
    by_contra found
    simp only [Bool.not_eq_false] at found
    split at next <;> contradiction
  have outer := loop_singleIn (Handler.smartPanel.ctrlNode env cmd) (some dev)
    (fun node member => node_quiet (earlier node member))
    (fun node member => node_quiet (later node member)) (CtrlState.fresh_start calls) goes
  simp only [step, Handler.ctrl, outer, visited]
  refine ⟨rfl, trivial, ?_⟩
  by_cases crash : visit.flow = .crash
  · simp [crash]
  · simp only [crash, if_false, iff_false]
    split <;> simp

theorem spot_ids (distinct : (pointIds nodes).Nodup) (spot : Spot nodes) : spot.chl.ids.Nodup := by
  have channels : spot.dev.body.channels = spot.first ++ spot.chl :: spot.last := by
    rw [spot.body]
    rfl
  rw [pointIds, spot.list] at distinct
  have own := List.nodup_flatMap.mp distinct |>.1 (some spot.dev) (by simp)
  rw [smartPoints, channels] at own
  exact List.nodup_flatMap.mp (own.of_map _) |>.1 spot.chl (by simp)

/-- The points of the list are those of its channels. -/
theorem spot_of_point (point : (cmd.devId, cmd.obj.dpid) ∈ pointIds nodes) :
    ∃ spot : Spot nodes, spot.dev.element.devId = cmd.devId ∧ cmd.obj.dpid ∈ spot.chl.ids := by
  obtain ⟨node, listed, point⟩ := List.mem_flatMap.mp point
  cases node with
  | none => contradiction
  | some dev =>
    simp only [smartPoints, List.mem_map, Prod.mk.injEq, exists_eq_right_right] at point
    obtain ⟨point, device⟩ := point
    obtain ⟨chl, within, named⟩ := List.mem_flatMap.mp point
    have body : dev.body = .smartPanel dev.body.channels := by
      cases body : dev.body with
      | smartPanel chls => rfl
      | climate | panel | dimmer | curtain =>
        rw [body] at within
        contradiction
    obtain ⟨first, last, split⟩ := List.append_of_mem within
    obtain ⟨before, after, list⟩ := List.append_of_mem listed
    exact ⟨⟨before, dev, after, first, chl, last, list, by rw [body, split]⟩, device, named⟩

theorem unnamed_step (env : Replies) (unnamed : (cmd.devId, cmd.obj.dpid) ∉ pointIds nodes)
    (calls : Nat) :
    Handler.smartPanel.ctrl env cmd calls nodes = { state := { calls }, value := nodes } := by
  apply loop_quietIn (Handler.smartPanel.ctrlNode env cmd) _ (CtrlState.fresh_start calls)
  intro node member
  apply node_quiet
  exact fun named => unnamed (List.mem_flatMap.mpr ⟨node, member, named⟩)

/-- What a telegram for a point leaves. -/
theorem pointSend_events {α : Type} (gAddr : Nat) (apdu : List Nat) (s : CtrlState) (value : α) :
    ∀ event ∈ (pointSend env gAddr apdu s [] value).events, event.Telegram := by
  simp only [pointSend, transmit]
  split
  · simp
  split
  · simp
  · simp [CtrlEvent.Telegram]

section

variable {s : CtrlState} {i : Nat} {chl : SmartChannel}

theorem key_visit (named : chl.key.id = cmd.obj.dpid) :
    let visit := smartPanelCtrlChannel env cmd dev s (i, chl)
    (visit.events ≠ [] → chl.mode.value = 0) ∧ (∀ event ∈ visit.events, event.Telegram) ∧
      ∃ value, visit.value.2 = { chl with key := { chl.key with value } } := by
  simp only [smartPanelCtrlChannel, if_pos named]
  by_cases off : chl.mode.value = 0
  · rw [if_pos off]
    cases chl.key.pCtrl with
    | none => exact ⟨fun _ => off, by simp, _, rfl⟩
    | some addr => exact ⟨fun _ => off, pointSend_events _ _ _ _, _, rfl⟩
  · rw [if_neg off]
    exact ⟨by simp, by simp, chl.key.value, rfl⟩

theorem scene_visit (other : chl.key.id ≠ cmd.obj.dpid) (named : chl.scene.id = cmd.obj.dpid) :
    let visit := smartPanelCtrlChannel env cmd dev s (i, chl)
    (visit.events ≠ [] → chl.mode.value = 1) ∧ (∀ event ∈ visit.events, event.Telegram) ∧
      visit.value.2 = chl := by
  simp only [smartPanelCtrlChannel, if_neg other, if_pos named]
  by_cases enabled : chl.mode.value = 1
  · rw [if_pos enabled]
    cases chl.scene.pCtrl with
    | none => exact ⟨fun _ => enabled, by simp, rfl⟩
    | some addr => exact ⟨fun _ => enabled, pointSend_events _ _ _ _, rfl⟩
  · rw [if_neg enabled]
    exact ⟨by simp, by simp, rfl⟩

theorem mode_visit (key : chl.key.id ≠ cmd.obj.dpid) (scene : chl.scene.id ≠ cmd.obj.dpid)
    (named : chl.mode.id = cmd.obj.dpid) :
    let visit := smartPanelCtrlChannel env cmd dev s (i, chl)
    visit.flow = .crash ∧ visit.events = [] ∨ visit.flow ≠ .crash ∧
      visit.value.2 = { chl with mode := { chl.mode with value := (cmd.obj.value % 256).toNat } } ∧
      ∃ id, strtol (dev.element.pPrimaryKey.drop 13) = some id ∧ id.erange = false ∧
        visit.events =
          [.updateKnxSmartPanelMode id.long (i + 1) ((cmd.obj.value % 256).toNat ≠ 0),
            .report cmd.pPrimaryKey { cmd.obj with type := .enum }] := by
  simp only [smartPanelCtrlChannel, if_neg key, if_neg scene, if_pos named]
  cases strtol (dev.element.pPrimaryKey.drop 13) with
  | none => exact .inl ⟨rfl, rfl⟩
  | some id =>
    by_cases erange : id.erange = true
    · simp [erange]
    · simp only [erange]
      exact .inr ⟨by simp, rfl, id, rfl, Bool.eq_false_iff.mpr erange, rfl⟩

end

theorem panels_set (spot : Spot nodes) : ∃ after,
    panels nodes = panels spot.before ++
      (spot.dev.element.pPrimaryKey, spot.first.map (·.mode.value) ++
        spot.chl.mode.value :: spot.last.map (·.mode.value)) :: after ∧
    ∀ chl, panels (spot.set chl) = panels spot.before ++
      (spot.dev.element.pPrimaryKey, spot.first.map (·.mode.value) ++
        chl.mode.value :: spot.last.map (·.mode.value)) :: after := by
  obtain ⟨before, dev, after, first, chl, last, rfl, body⟩ := spot
  refine ⟨panels after, ?_, ?_⟩
  · simp [panels, nodePanel, body]
  · intro chl
    simp [panels, nodePanel, Spot.set]

/-- Everything a command can do: nothing, or the visit of the channel it names, of which it leaves
the ids. -/
theorem panelCall_cases (distinct : (pointIds nodes).Nodup) (call : PanelCall) :
    (call.step nodes).events = [] ∧ (call.step nodes).value = nodes ∧
        (call.cmd.devId, call.cmd.obj.dpid) ∉ pointIds nodes ∨
      ∃ (spot : Spot nodes) (chl : SmartChannel), (call.step nodes).value = spot.set chl ∧
        chl.ids = spot.chl.ids ∧ spot.dev.element.devId = call.cmd.devId ∧
        call.cmd.obj.dpid ∈ spot.chl.ids := by
  by_cases point : (call.cmd.devId, call.cmd.obj.dpid) ∈ pointIds nodes
  · obtain ⟨spot, device, named⟩ := spot_of_point point
    have step := (named_step call.env distinct spot device named call.calls).1
    obtain ⟨after, value, touched⟩ := @smartPanelCtrlChannel_touched call.env call.cmd spot.dev
      { calls := call.calls } spot.first.length spot.chl
    rw [value] at step
    refine .inr ⟨spot, after, step, ?_, device, named⟩
    obtain ⟨⟨⟨_, key⟩, -⟩, ⟨⟨_, scene⟩, -⟩, ⟨⟨_, mode⟩, -⟩⟩ := touched
    simp only [SmartChannel.ids, key, scene, mode]
  · have step := unnamed_step call.env point call.calls
    exact .inl ⟨by rw [PanelCall.step, step], by rw [PanelCall.step, step], point⟩

theorem pointIds_set (spot : Spot nodes) {chl : SmartChannel} (same : chl.ids = spot.chl.ids) :
    pointIds (spot.set chl) = pointIds nodes := by
  obtain ⟨before, dev, after, first, old, last, rfl, body⟩ := spot
  simp only at same
  simp [pointIds, smartPoints, CtrlBody.channels, Spot.set, body, same]

theorem panelCall_points (distinct : (pointIds nodes).Nodup) (call : PanelCall) :
    pointIds (call.step nodes).value = pointIds nodes := by
  obtain ⟨-, same, -⟩ | ⟨spot, chl, value, ids, -⟩ := panelCall_cases distinct call
  · rw [same]
  · rw [value, pointIds_set spot ids]

theorem names_ids {cmd : KnxWrite} {spot : Spot nodes}
    (named : spot.Names cmd spot.chl.key ∨ spot.Names cmd spot.chl.scene ∨
      spot.Names cmd spot.chl.mode) :
    spot.dev.element.devId = cmd.devId ∧ cmd.obj.dpid ∈ spot.chl.ids := by
  simp only [SmartChannel.ids, List.mem_cons, List.not_mem_nil, or_false]
  rcases named with ⟨device, id⟩ | ⟨device, id⟩ | ⟨device, id⟩ <;> simp [device, id]

theorem spot_apart (distinct : (pointIds nodes).Nodup) (spot : Spot nodes) :
    spot.chl.key.id ≠ spot.chl.scene.id ∧ spot.chl.key.id ≠ spot.chl.mode.id ∧
      spot.chl.scene.id ≠ spot.chl.mode.id := by
  have ids := spot_ids distinct spot
  simp only [SmartChannel.ids, List.nodup_cons, List.mem_cons, List.not_mem_nil, or_false,
    not_or] at ids
  exact ⟨ids.1.1, ids.1.2, ids.2.1⟩

theorem key_step (distinct : (pointIds nodes).Nodup) (call : PanelCall) {spot : Spot nodes}
    (named : spot.Names call.cmd spot.chl.key) :
    ((call.step nodes).events ≠ [] → spot.chl.mode.value = 0) ∧
      (∀ event ∈ (call.step nodes).events, event.Telegram) ∧
      panels (call.step nodes).value = panels nodes := by
  obtain ⟨device, member⟩ := names_ids (.inl named)
  obtain ⟨value, events, -⟩ := named_step call.env distinct spot device member call.calls
  obtain ⟨off, telegrams, stored, left⟩ := @key_visit call.env call.cmd spot.dev
    { calls := call.calls } spot.first.length spot.chl named.2
  obtain ⟨after, old, new⟩ := panels_set spot
  rw [left] at value
  refine ⟨?_, ?_, ?_⟩
  · rwa [PanelCall.step, events]
  · rwa [PanelCall.step, events]
  · rw [PanelCall.step, value, new, old]

theorem scene_step (distinct : (pointIds nodes).Nodup) (call : PanelCall) {spot : Spot nodes}
    (named : spot.Names call.cmd spot.chl.scene) :
    ((call.step nodes).events ≠ [] → spot.chl.mode.value = 1) ∧
      (∀ event ∈ (call.step nodes).events, event.Telegram) ∧
      panels (call.step nodes).value = panels nodes := by
  obtain ⟨device, member⟩ := names_ids (.inr (.inl named))
  obtain ⟨value, events, -⟩ := named_step call.env distinct spot device member call.calls
  have other : spot.chl.key.id ≠ call.cmd.obj.dpid := named.2 ▸ (spot_apart distinct spot).1
  obtain ⟨enabled, telegrams, left⟩ := @scene_visit call.env call.cmd spot.dev
    { calls := call.calls } spot.first.length spot.chl other named.2
  obtain ⟨after, old, new⟩ := panels_set spot
  rw [left] at value
  refine ⟨?_, ?_, ?_⟩
  · rwa [PanelCall.step, events]
  · rwa [PanelCall.step, events]
  · rw [PanelCall.step, value, new, old]

theorem mode_step (distinct : (pointIds nodes).Nodup) (call : PanelCall) {spot : Spot nodes}
    (named : spot.Names call.cmd spot.chl.mode) :
    let u8 := (call.cmd.obj.value % 256).toNat
    (call.step nodes).flow = .crash ∧ (call.step nodes).events = [] ∨
      (call.step nodes).value =
          spot.set { spot.chl with mode := { spot.chl.mode with value := u8 } } ∧
        ∃ id, spot.id? = some id ∧ (call.step nodes).events =
          [.updateKnxSmartPanelMode id (spot.first.length + 1) (u8 ≠ 0),
            .report call.cmd.pPrimaryKey { call.cmd.obj with type := .enum }] := by
  obtain ⟨device, member⟩ := names_ids (.inr (.inr named))
  obtain ⟨value, events, crash⟩ := named_step call.env distinct spot device member call.calls
  obtain ⟨-, key, scene⟩ := spot_apart distinct spot
  rw [named.2] at key scene
  rcases @mode_visit call.env call.cmd spot.dev { calls := call.calls } spot.first.length
    spot.chl key scene named.2 with ⟨dies, silent⟩ | ⟨-, left, id, read, fits, written⟩
  · rw [silent] at events
    exact .inl ⟨crash.mpr dies, events⟩
  · rw [left] at value
    rw [written] at events
    refine .inr ⟨value, id.long, ?_, events⟩
    simp [Spot.id?, read, fits]

theorem selectMode_binary {value : Int} (binary : value = 0 ∨ value = 1) :
    ((value % 256).toNat : Int) = value ∧
      selectMode ((value % 256).toNat ≠ 0) = (value % 256).toNat := by
  rcases binary with rfl | rfl <;> decide

theorem panelCall_step (distinct : (pointIds nodes).Nodup) (call : PanelCall)
    (binary : call.Binary nodes) : SmartStep nodes call.cmd (call.step nodes) := by
  have named_by {spot : Spot nodes} (device : spot.dev.element.devId = call.cmd.devId)
      (named : call.cmd.obj.dpid ∈ spot.chl.ids) : spot.Names call.cmd spot.chl.key ∨
        spot.Names call.cmd spot.chl.scene ∨ spot.Names call.cmd spot.chl.mode := by
    simpa [SmartChannel.ids, Spot.Names, device, eq_comm] using named
  have silent {spot : Spot nodes} (named : spot.Names call.cmd spot.chl.mode) :
      ¬ ∃ event ∈ (call.step nodes).events, event.Telegram := by
    rintro ⟨event, sent, telegram⟩
    rcases mode_step distinct call named with ⟨-, nothing⟩ | ⟨-, id, -, events⟩
    · rw [nothing] at sent
      contradiction
    · rw [events] at sent
      simp only [List.mem_cons, List.not_mem_nil, or_false] at sent
      obtain ⟨gAddr, apdu, ret, rfl⟩ := telegram
      simp at sent
  constructor
  case key =>
    rintro spot named ⟨event, sent, -⟩
    exact (key_step distinct call named).1 (List.ne_nil_of_mem sent)
  case scene =>
    rintro spot named ⟨event, sent, -⟩
    exact (scene_step distinct call named).1 (List.ne_nil_of_mem sent)
  case named =>
    rintro ⟨event, sent, telegram⟩
    obtain ⟨nothing, -⟩ | ⟨spot, -, -, -, device, named⟩ := panelCall_cases distinct call
    · rw [nothing] at sent
      contradiction
    · rcases named_by device named with key | scene | mode
      · exact ⟨spot, .inl key⟩
      · exact ⟨spot, .inr scene⟩
      · exact absurd ⟨event, sent, telegram⟩ (silent mode)
  case mode =>
    intro spot named
    refine ⟨silent named, fun lives => ?_⟩
    obtain ⟨dies, -⟩ | ⟨value, id, read, events⟩ := mode_step distinct call named
    · contradiction
    · obtain ⟨kept, denoted⟩ := selectMode_binary (binary spot named)
      exact ⟨_, kept, value, id, _, read, denoted, events⟩
  case other =>
    intro unmoded
    have telegrams (each : ∀ event ∈ (call.step nodes).events, event.Telegram) (id : Int)
        (channel : Nat) (scene : Bool) :
        .updateKnxSmartPanelMode id channel scene ∉ (call.step nodes).events := by
      intro member
      obtain ⟨gAddr, apdu, ret, wrong⟩ := each _ member
      contradiction
    obtain ⟨nothing, same, -⟩ | ⟨spot, -, -, -, device, named⟩ := panelCall_cases distinct call
    · exact ⟨by rw [same], by simp [nothing]⟩
    · rcases named_by device named with key | scene | mode
      · obtain ⟨-, each, same⟩ := key_step distinct call key
        exact ⟨same, telegrams each⟩
      · obtain ⟨-, each, same⟩ := scene_step distinct call scene
        exact ⟨same, telegrams each⟩
      · exact absurd mode (unmoded spot)

/-- A mode command has one of the two modes, and the document has one place for it. -/
structure MeetingStep (xpath : Text → Int → Bool) (s : PanelRun) (call : PanelCall) (t : PanelRun) :
    Prop where
  step : PanelStep xpath s call t
  binary : call.Binary s.nodes
  picks : call.Picks xpath s

theorem persist_silent {xpath : Text → Int → Bool} {doc : List PanelCell} {events : List CtrlEvent}
    (silent : ∀ id chl scene, .updateKnxSmartPanelMode id chl scene ∉ events) :
    persist xpath doc events = doc := by
  induction events with
  | nil => rfl
  | cons event events ih =>
    have later := ih fun id chl scene member => silent id chl scene (List.mem_cons_of_mem _ member)
    cases event with
    | updateKnxSmartPanelMode id chl scene => exact absurd List.mem_cons_self (silent id chl scene)
    | _ => exact later

theorem forall₂_middle {α β : Type} {R : α → β → Prop} {first last : List α} {a : α} {bs : List β}
    (each : List.Forall₂ R (first ++ a :: last) bs) :
    ∃ ahead b behind, bs = ahead ++ b :: behind ∧ List.Forall₂ R first ahead ∧ R a b ∧
      List.Forall₂ R last behind := by
  induction first generalizing bs with
  | nil =>
    obtain ⟨b, behind, here, later, rfl⟩ := List.forall₂_cons_left_iff.mp each
    exact ⟨[], b, behind, rfl, .nil, here, later⟩
  | cons x first ih =>
    obtain ⟨y, ys, head, rest, rfl⟩ := List.forall₂_cons_left_iff.mp each
    obtain ⟨ahead, b, behind, rfl, before, here, later⟩ := ih rest
    exact ⟨y :: ahead, b, behind, rfl, .cons head before, here, later⟩

/-- The text is put where the value of the mode was changed. -/
theorem Restored.set {mac key : Text} {first last : List Nat} {old value : Nat} {cell : PanelCell}
    (restored : Restored mac (key, first ++ old :: last) cell) {text : Text}
    (reads : parseSelect text = some value) :
    Restored mac (key, first ++ value :: last)
      { cell with selects := cell.selects.set first.length (some text) } := by
  obtain ⟨named, modes⟩ := restored
  refine ⟨named, ?_⟩
  obtain ⟨ahead, select, behind, split, before, -, later⟩ := forall₂_middle modes
  have place : cell.selects.set first.length (some text) = ahead ++ some text :: behind := by
    rw [split, before.length_eq, List.set_append_right _ _ le_rfl]
    simp
  simp only [place]
  refine List.rel_append before (.cons ?_ later)
  rintro _ ⟨⟩
  exact reads

theorem meetingStep_restores {xpath : Text → Int → Bool} {mac : Text} {s t : PanelRun}
    {call : PanelCall} (distinct : (pointIds s.nodes).Nodup) (restores : s.Restores mac)
    (meets : MeetingStep xpath s call t) : t.Restores mac := by
  obtain ⟨⟨lives, nodes, doc⟩, binary, picks⟩ := meets
  have done := panelCall_step distinct call binary
  rw [PanelRun.Restores, nodes, doc]
  by_cases moded : ∃ spot : Spot s.nodes, spot.Names call.cmd spot.chl.mode
  · obtain ⟨spot, named⟩ := moded
    obtain ⟨-, set⟩ := done.mode spot named
    obtain ⟨value, -, changed, id, scene, read, denotes, events⟩ := set lives
    obtain ⟨after, old, new⟩ := panels_set spot
    rw [PanelRun.Restores, old] at restores
    obtain ⟨ahead, cell, rest, split, before, own, later⟩ := forall₂_middle restores
    have place := picks spot named id read
    have written : persist xpath s.doc (call.step s.nodes).events = ahead ++
        { cell with selects := cell.selects.set spot.first.length (some (modeText scene)) } ::
            rest := by
      rw [events]
      simp only [persist, List.foldl_cons, List.foldl_nil, updateKnxSmartPanelMode, place]
      rw [split, before.length_eq, List.modify_eq_take_drop, List.take_left, List.drop_left]
      rfl
    have text : parseSelect (modeText scene) = some value := by
      rw [parseSelect_modeText, denotes]
    rw [changed, new, written]
    have size : (spot.first.map (·.mode.value)).length = spot.first.length := List.length_map _
    exact List.rel_append before (.cons (size ▸ own.set text) later)
  · rw [not_exists] at moded
    obtain ⟨same, silent⟩ := done.other moded
    rw [same, persist_silent silent]
    exact restores

end

/-- A panel with one key. -/
def oneKeyPanel (mode : Nat) : CtrlDevice where
  element := { szName := [], pPrimaryKey := "02c7ecdad9253101".toList, devId := 3101 }
  body := .smartPanel [⟨{ id := 1, pCtrl := "1/0/1".toList }, { id := 2, pCtrl := "1/0/2".toList },
    { id := 3, value := mode }⟩]

def oneKeyDoc (mode : String) : List PanelCell := [⟨"101".toList, [some mode.toList]⟩]

/-- How a key of digits compares with a number. -/
def sameNumber (key : Text) (id : Int) : Bool := (strtol key).map Number.long = some id

/-- A command for the mode of that key. -/
def modeCall (value : Int) : PanelCall where
  env := { bActive := true, report := fun _ => 0, hbFresh := fun _ => 0,
           eibSocketURL := fun _ => true
           eibOpenTGroup := fun _ => true, eibSendAPDU := fun _ => 0 }
  cmd := { pPrimaryKey := "02c7ecdad9253101".toList, devId := 3101
           obj := { dpid := 3, type := .enum, value } }
  calls := 0

theorem oneKey_restored : PanelRun.Restores "02c7ecdad925".toList
    ⟨[some (oneKeyPanel 0)], oneKeyDoc "switch"⟩ := by
  refine .cons ⟨by decide, .cons ?_ .nil⟩ .nil
  intro text given
  cases given
  decide

theorem oneKey_spot {mode : Nat} (spot : Spot [some (oneKeyPanel mode)]) :
    spot.before = [] ∧ spot.dev = oneKeyPanel mode ∧ spot.first = [] := by
  obtain ⟨before, dev, after, first, chl, last, list, body⟩ := spot
  cases before with
  | cons node before => simp at list
  | nil =>
    cases list
    cases first with
    | cons other first => simp [oneKeyPanel] at body
    | nil => exact ⟨rfl, rfl, rfl⟩

theorem oneKey_picks (value : Int) :
    (modeCall value).Picks sameNumber ⟨[some (oneKeyPanel 0)], oneKeyDoc "switch"⟩ := by
  intro spot _ id read
  obtain ⟨before, dev, first⟩ := oneKey_spot spot
  have number : Spot.id? spot = some 101 := by
    rw [Spot.id?, dev]
    decide
  cases Option.some.inj (number.symm.trans read)
  rw [before, first]
  decide

end HiMaxGateway.Knx
