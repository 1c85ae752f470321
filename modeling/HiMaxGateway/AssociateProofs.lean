import HiMaxGateway.Associate
import HiMaxGateway.Knx.ReportProofs

/-! Which links `associateKnxDev` and `associateModbusDev` leave behind, and what the report
handlers do with them. -/
namespace HiMaxGateway.Knx
open CText Walk

section

variable {α β : Type} {found : α → Bool} {change : α → α}

theorem atFirst_map (view : α → β) (kept : ∀ a, view (change a) = view a) (nodes : Nodes α) :
    (atFirst found change nodes).2.map (Option.map view) = nodes.map (Option.map view) := by
  induction nodes with
  | nil => rfl
  | cons node rest ih =>
    cases node with
    | none => simp [atFirst, ih]
    | some a => by_cases hit : found a = true <;> simp [atFirst, hit, ih, kept]

theorem atFirst_none {nodes : Nodes α} (missing : (atFirst found change nodes).1 = none) :
    (atFirst found change nodes).2 = nodes := by
  induction nodes with
  | nil => rfl
  | cons node rest ih =>
    cases node with
    | none => simpa [atFirst] using ih (by simpa [atFirst] using missing)
    | some a =>
      by_cases hit : found a = true
      · simp [atFirst, hit] at missing
      · simpa [atFirst, hit] using ih (by simpa [atFirst, hit] using missing)

theorem atFirst_getElem? (key : α → Text) (change : α → α) (k : Text) (nodes : Nodes α) (i : Nat) :
    (atFirst (key · == k) change nodes).2[i]? = nodes[i]?.map (Option.map fun a =>
      if key a = k ∧ some k ∉ (nodes.map (Option.map key)).take i then change a else a) := by
  induction nodes generalizing i with
  | nil => simp [atFirst]
  | cons node rest ih =>
    cases i with
    | zero =>
      cases node with
      | none => simp [atFirst]
      | some a => by_cases hit : key a = k <;> simp [atFirst, hit]
    | succ i =>
      cases node with
      | none => simpa [atFirst] using ih i
      | some a =>
        by_cases hit : key a = k
        · simp [atFirst, hit]
        · have other : some k ≠ some (key a) := by
            intro same
            exact hit (Option.some.inj same).symm
          simpa [atFirst, hit, other] using ih i

end

@[simp] theorem KnxEntry.link_key (entry : KnxEntry) (foreign : Option Text) :
    (entry.link foreign).key = entry.key := rfl

@[simp] theorem KnxEntry.link_foreign (entry : KnxEntry) (foreign : Option Text) :
    (entry.link foreign).dev.foreign = foreign := rfl

@[simp] theorem KnxEntry.link_link (entry : KnxEntry) (first second : Option Text) :
    (entry.link first).link second = entry.link second := rfl

@[simp] theorem KnxEntry.link_self (entry : KnxEntry) : entry.link entry.dev.foreign = entry := rfl

theorem linkKnx_link (entry : KnxEntry) (mbus : Nodes MbusEntry) :
    ∃ foreign, (linkKnx entry mbus).1 = entry.link foreign ∧
      ((entry.dev.element.bMaster && entry.isVent) = false → foreign = entry.dev.foreign) := by
  rw [linkKnx]
  split
  · rename_i vent
    split
    · exact ⟨_, rfl, fun _ => rfl⟩
    · split
      · exact ⟨_, rfl, fun _ => rfl⟩
      · exact ⟨_, rfl, fun other => absurd vent (by simp [other])⟩
  · exact ⟨_, rfl, fun _ => rfl⟩

theorem linkMbus_searches {entry : MbusEntry} {key : Text} (master : entry.element.bMaster = true)
    (named : entry.pForeignKey = some key) (knx : Nodes KnxEntry) :
    (linkMbus entry knx).2 =
      (atFirst (·.key == key) (·.link (some entry.element.pPrimaryKey)) knx).2 := by
  simp only [linkMbus, master, named, if_true]
  split
  · rename_i search
    exact (atFirst_none (by rw [search])).symm
  · rename_i search
    rw [search]

theorem linkMbus_getElem? (entry : MbusEntry) (knx : Nodes KnxEntry) (i : Nat) :
    (linkMbus entry knx).2[i]? = knx[i]?.map (Option.map fun e =>
      if entry.names e.key = true ∧ some e.key ∉ (keys knx).take i
        then e.link (some entry.element.pPrimaryKey) else e) := by
  cases master : entry.element.bMaster with
  | false => simp [linkMbus, MbusEntry.names, master]
  | true =>
    cases named : entry.pForeignKey with
    | none => simp [linkMbus, MbusEntry.names, master, named]
    | some key =>
      have names : ∀ e : KnxEntry, (entry.names e.key = true ∧ some e.key ∉ (keys knx).take i) ↔
          (e.key = key ∧ some key ∉ (keys knx).take i) := by
        intro e
        simp only [MbusEntry.names, master, named, Bool.true_and, beq_iff_eq, Option.some.injEq]
        constructor
        · rintro ⟨rfl, first⟩
          exact ⟨rfl, first⟩
        · rintro ⟨rfl, first⟩
          exact ⟨rfl, first⟩
      rw [linkMbus_searches master named, atFirst_getElem? KnxEntry.key]
      simp only [names]
      rfl

theorem linkMbus_keys (entry : MbusEntry) (knx : Nodes KnxEntry) :
    keys (linkMbus entry knx).2 = keys knx := by
  cases master : entry.element.bMaster with
  | false => simp [linkMbus, master]
  | true =>
    cases named : entry.pForeignKey with
    | none => simp [linkMbus, master, named]
    | some key =>
      rw [linkMbus_searches master named]
      exact atFirst_map KnxEntry.key (fun e => e.link_key _) knx

theorem namedBy_cons (key : Text) (node : Option MbusEntry) (rest : Nodes MbusEntry) :
    namedBy key (node :: rest) = (namedBy key rest).or (node.bind fun entry =>
      if entry.names key then some entry.element else none) := by
  rw [namedBy, List.reverse_cons, List.findSome?_append, List.findSome?_singleton]
  rfl

/-- The KNX list behind `associateModbusDev`. -/
theorem associateModbusDev_getElem? (mbus : Nodes MbusEntry) (knx : Nodes KnxEntry) (i : Nat) :
    (associateModbusDev mbus knx).2[i]? = knx[i]?.map (Option.map fun e =>
      if some e.key ∈ (keys knx).take i then e
      else e.link (((namedBy e.key mbus).map (·.pPrimaryKey)).or e.dev.foreign)) := by
  induction mbus generalizing knx with
  | nil => simp [associateModbusDev, namedBy]
  | cons node rest ih =>
    cases node with
    | none => simpa [associateModbusDev, namedBy_cons] using ih knx
    | some entry =>
      simp only [associateModbusDev, ih, linkMbus_keys, linkMbus_getElem?, Option.map_map]
      congr 1
      funext node
      cases node with
      | none => rfl
      | some e =>
        by_cases earlier : some e.key ∈ (keys knx).take i
        · simp [earlier]
        · cases names : entry.names e.key with
          | false => simp [earlier, names, namedBy_cons]
          | true =>
            cases named : namedBy e.key rest <;> simp [earlier, names, named, namedBy_cons]

/-- What `associateModbusDev` reads of the Modbus list. -/
def MbusEntry.view (entry : MbusEntry) : DeviceElement × Option Text :=
  (entry.element, entry.pForeignKey)

theorem linkKnx_views (entry : KnxEntry) (mbus : Nodes MbusEntry) :
    (linkKnx entry mbus).2.map (Option.map MbusEntry.view) =
      mbus.map (Option.map MbusEntry.view) := by
  rw [linkKnx]
  split
  · split
    · rfl
    · rename_i key _
      have kept : (atFirst (·.element.devId == Modbus.keyWord key)
          (fun found => { found with pvForeignKey := some entry.key }) mbus).2.map
            (Option.map MbusEntry.view) = mbus.map (Option.map MbusEntry.view) := by
        apply atFirst_map
        intro found
        rfl
      split
      · rfl
      · rename_i search
        rw [search] at kept
        exact kept
  · rfl

theorem namedBy_views (key : Text) (mbus : Nodes MbusEntry) :
    namedBy key mbus = (mbus.map (Option.map MbusEntry.view)).reverse.findSome? fun node =>
      node.bind fun view => if view.1.bMaster && view.2 == some key then some view.1 else none := by
  rw [namedBy, ← List.map_reverse, List.findSome?_map]
  congr 1
  funext node
  cases node <;> rfl

theorem associateKnxDev_views (knx : Nodes KnxEntry) (mbus : Nodes MbusEntry) :
    (associateKnxDev knx mbus).2.map (Option.map MbusEntry.view) =
      mbus.map (Option.map MbusEntry.view) := by
  induction knx generalizing mbus with
  | nil => rfl
  | cons node rest ih =>
    cases node with
    | none => exact ih mbus
    | some entry => exact (ih _).trans (linkKnx_views entry mbus)

theorem associateKnxDev_getElem? (knx : Nodes KnxEntry) (mbus : Nodes MbusEntry) (i : Nat) :
    ∃ now, (associateKnxDev knx mbus).1[i]? =
      knx[i]?.map (Option.map fun e => (linkKnx e now).1) := by
  induction knx generalizing mbus i with
  | nil => exact ⟨mbus, rfl⟩
  | cons node rest ih =>
    cases node with
    | none =>
      cases i with
      | zero => exact ⟨mbus, rfl⟩
      | succ i => exact ih mbus i
    | some entry =>
      cases i with
      | zero => exact ⟨mbus, rfl⟩
      | succ i => exact ih _ i

theorem associateKnxDev_keys (knx : Nodes KnxEntry) (mbus : Nodes MbusEntry) :
    keys (associateKnxDev knx mbus).1 = keys knx := by
  apply List.ext_getElem?
  intro i
  obtain ⟨now, here⟩ := associateKnxDev_getElem? knx mbus i
  simp only [keys, List.getElem?_map, here, Option.map_map]
  congr 1
  funext node
  cases node with
  | none => rfl
  | some e =>
    obtain ⟨foreign, linked, -⟩ := linkKnx_link e now
    simp [linked]

/-- A device that is no master ventilation and starts without a link is linked to its partner. -/
theorem linked_getElem? (knx : Nodes KnxEntry) (mbus : Nodes MbusEntry) (i : Nat) :
    ∃ link : KnxEntry → Option Text,
      (linked knx mbus)[i]? = knx[i]?.map (Option.map fun e => e.link (link e)) ∧
      ∀ e, (e.dev.element.bMaster && e.isVent) = false → e.dev.foreign = none →
        link e = (partner knx mbus i e).map (·.pPrimaryKey) := by
  obtain ⟨now, here⟩ := associateKnxDev_getElem? knx mbus i
  choose first same other using fun e => linkKnx_link e now
  have names : ∀ key, namedBy key (associateKnxDev knx mbus).2 = namedBy key mbus := by
    intro key
    rw [namedBy_views, associateKnxDev_views, ← namedBy_views]
  refine ⟨fun e => if some e.key ∈ (keys knx).take i then first e
    else ((namedBy e.key mbus).map (·.pPrimaryKey)).or (first e), ?_, ?_⟩
  · rw [linked]
    simp only [associateModbusDev_getElem?, here, Option.map_map, associateKnxDev_keys, names]
    congr 1
    funext node
    cases node with
    | none => rfl
    | some e =>
      by_cases earlier : some e.key ∈ (keys knx).take i <;> simp [same, earlier]
  · intro e plain fresh
    have unchanged := other e plain
    rw [fresh] at unchanged
    simp only [unchanged, Option.or_none, partner]
    split <;> rfl

inductive Forwarder where
  | acd
  | vent
  | panel
  | curtain
  deriving DecidableEq, Repr

def Forwarder.handler : Forwarder → Handler
  | .acd => .acd
  | .vent => .vent
  | .panel => .panel
  | .curtain => .curtain

/-- The telegram makes the handler follow the link of the device, whether there is one or not. -/
def FollowsLink (env : Env) (telegram : Telegram) (forwarder : Forwarder) (dev : KnxDevice) :
    Prop :=
  Dies env telegram { dev with foreign := none } forwarder.handler

/-- The link is followed to write to the Modbus device and not to report in its name. -/
def WritesLink (env : Env) (telegram : Telegram) (forwarder : Forwarder) (dev : KnxDevice) : Prop :=
  FollowsLink env telegram forwarder dev ∧
    ∀ kind objs h, dev.body = .climate kind objs → hit objs telegram kind.rules = some h →
      h.rule.bFlag = false

section

variable {env : Env} {telegram : Telegram} {dev : KnxDevice} {forwarder : Forwarder}

theorem leaves_link (foreign : Option Text) (handler : Handler) :
    Leaves env { dev with foreign } handler ↔ Leaves env dev handler := by
  cases handler <;> exact Iff.rfl

theorem dies_iff (forwarder : Forwarder) : Dies env telegram dev forwarder.handler ↔
    FollowsLink env telegram forwarder dev ∧ dev.foreign = none := by
  cases forwarder with
  | acd | vent =>
    simp only [FollowsLink, Forwarder.handler, Dies, ClimateUnlinked]
    aesop
  | panel | curtain =>
    simp only [FollowsLink, Forwarder.handler, Dies]
    aesop

theorem climateVisit_stays (kind : Climate) (objs : Slot → Option KnxObj) :
    (climateVisit kind objs env telegram dev).flow ≠ .stop := by
  rw [climateVisit]
  cases hit objs telegram kind.rules with
  | none => simp
  | some h =>
    cases dev.report with
    | none => simp
    | some report =>
      cases dev.foreign <;> cases dev.element.bMaster <;> cases flag : h.rule.bFlag <;>
        cases env.bActive <;> simp [flag]

theorem visit_stop (forwarder : Forwarder) :
    (forwarder.handler.visit env telegram dev).flow = .stop ↔ Leaves env dev forwarder.handler := by
  cases forwarder with
  | acd =>
    simp only [Forwarder.handler, Handler.visit, knxAcdReport, Leaves]
    split
    · rename_i objs body
      cases unbound : unboundMaster env dev <;> simp [body, climateVisit_stays]
    · rename_i other
      have other : ∀ objs, dev.body ≠ .climate .acd objs := other
      simp [other]
  | vent =>
    simp only [Forwarder.handler, Handler.visit, knxVentReport, Leaves, iff_false]
    split
    · cases unboundMaster env dev <;> simp [climateVisit_stays]
    · simp
  | panel =>
    simp only [Forwarder.handler, Handler.visit, knxPanelReport, Leaves]
    cases unbound : unboundMaster env dev with
    | true => simp
    | false =>
      simp only [Bool.false_eq_true, if_false, iff_false]
      split
      · rw [innerWalk]
        simp only
        split <;> simp
      · simp
  | curtain =>
    simp only [Forwarder.handler, Handler.visit, knxCurtainReport, Leaves, iff_false]
    split
    · rename_i pOpen pClose pStop _
      by_cases silent : (curtainStep telegram pOpen pClose pStop).obj.dpid = 0
      · simp [silent]
      · cases dev.element.attri <;> cases dev.foreign <;> simp [silent]
    · simp

/-- A master does not follow a link, and the loop is left for masters only. -/
theorem followsLink_stays (follows : FollowsLink env telegram forwarder dev) :
    ¬ Leaves env dev forwarder.handler := by
  cases forwarder with
  | acd =>
    obtain ⟨objs, h, -, -, -, slave, -⟩ := follows
    have slave : dev.element.bMaster = false := slave
    rintro ⟨-, unbound⟩
    simp [unboundMaster_of_slave slave] at unbound
  | panel =>
    obtain ⟨keys, -, slave, -⟩ := follows
    have slave : dev.element.bMaster = false := slave
    intro unbound
    simp [Forwarder.handler, Leaves, unboundMaster_of_slave slave] at unbound
  | vent | curtain => exact id

theorem visit_crash (forwarder : Forwarder) :
    (forwarder.handler.visit env telegram dev).flow = .crash ↔
      FollowsLink env telegram forwarder dev ∧ dev.foreign = none := by
  rw [← dies_iff]
  have next := @visit_next env telegram dev forwarder.handler
  have stop := @visit_stop env telegram dev forwarder
  have stays := fun dies => followsLink_stays ((@dies_iff env telegram dev forwarder).mp dies).1
  rw [Blocks] at next
  cases flow : (forwarder.handler.visit env telegram dev).flow with
  | next =>
    have passes := next.mp flow
    simp only [reduceCtorEq, false_iff]
    exact fun dies => passes (.inr dies)
  | stop =>
    have left := stop.mp flow
    simp only [reduceCtorEq, false_iff]
    exact fun dies => stays dies left
  | crash =>
    simp only [true_iff]
    by_contra alive
    have blocked : ¬ (forwarder.handler.visit env telegram dev).flow = .next := by simp [flow]
    have left : Leaves env dev forwarder.handler := by
      rw [next] at blocked
      tauto
    have stopped := stop.mpr left
    simp [flow] at stopped

@[simp] theorem cloudReport_writes (env : Env) (name : Text) (sent : DpObj) (key : Text)
    (obj : DpObj) : .modbusDevWrite key obj ∉ cloudReport env name sent := by
  rw [cloudReport]
  split <;> simp

theorem flags_of_hit {kind : Climate} {objs : Slot → Option KnxObj} {h : Hit}
    (body : dev.body = .climate kind objs) (found : hit objs telegram kind.rules = some h)
    (flag : h.rule.bFlag = false) :
    ∀ kind objs h, dev.body = .climate kind objs → hit objs telegram kind.rules = some h →
      h.rule.bFlag = false := by
  rintro kind' objs' h' body' found'
  cases body.symm.trans body'
  cases found.symm.trans found'
  exact flag

theorem climateVisit_write {kind : Climate} {objs : Slot → Option KnxObj} {key : Text} {obj : DpObj}
    (written : .modbusDevWrite key obj ∈ (climateVisit kind objs env telegram dev).acts) :
    dev.foreign = some key ∧ ∃ h, hit objs telegram kind.rules = some h ∧
      h.rule.bFlag = false ∧ dev.report.isSome = true ∧ dev.element.bMaster = false := by
  rw [climateVisit] at written
  cases found : hit objs telegram kind.rules with
  | none => simp [found] at written
  | some h =>
    cases plugin : dev.report with
    | none => simp [found, plugin] at written
    | some report =>
      cases master : dev.element.bMaster with
      | true => simp [found, plugin, master] at written
      | false =>
        cases flag : h.rule.bFlag with
        | false =>
          cases foreign : dev.foreign with
          | none => simp [found, plugin, master, flag, foreign] at written
          | some link =>
            simp only [found, plugin, master, flag, foreign] at written
            simp at written
            exact ⟨by rw [written.1], h, rfl, flag, rfl, rfl⟩
        | true =>
          simp only [found, plugin, master, flag] at written
          cases foreign : dev.foreign <;> cases active : env.bActive <;>
            simp [active, foreign] at written

theorem climateVisit_writes {kind : Climate} {objs : Slot → Option KnxObj} {key : Text} {h : Hit}
    (found : hit objs telegram kind.rules = some h) (flag : h.rule.bFlag = false)
    (plugin : dev.report.isSome = true) (slave : dev.element.bMaster = false)
    (foreign : dev.foreign = some key) :
    ∃ obj, .modbusDevWrite key obj ∈ (climateVisit kind objs env telegram dev).acts := by
  obtain ⟨report, plugin⟩ := Option.isSome_iff_exists.mp plugin
  refine ⟨report (h.stored env telegram) (h.dpObj telegram), ?_⟩
  simp [climateVisit, found, plugin, slave, flag, foreign]

theorem panelKey_write {point : KnxPoint} {key : Text} {obj : DpObj}
    (written : .modbusDevWrite key obj ∈ (panelKey env telegram dev point).acts) :
    dev.foreign = some key ∧ dev.element.bMaster = false ∧
      listens point.pFeedback telegram = true := by
  rw [panelKey] at written
  cases heard : listens point.pFeedback telegram with
  | false => simp [heard] at written
  | true =>
    cases master : dev.element.bMaster with
    | true => simp [heard, master] at written
    | false =>
      cases foreign : dev.foreign with
      | none => simp [heard, master, foreign] at written
      | some link =>
        simp only [heard, master, foreign] at written
        simp at written
        exact ⟨by rw [written.1], rfl, rfl⟩

theorem panelKey_writes {point : KnxPoint} {key : Text} (slave : dev.element.bMaster = false)
    (foreign : dev.foreign = some key) (heard : listens point.pFeedback telegram = true) :
    ∃ obj, .modbusDevWrite key obj ∈ (panelKey env telegram dev point).acts := by
  simp [panelKey, slave, foreign, heard]

/-- A write goes to the linked device. -/
theorem visit_write {key : Text} {obj : DpObj}
    (written : .modbusDevWrite key obj ∈ (forwarder.handler.visit env telegram dev).acts) :
    dev.foreign = some key ∧ WritesLink env telegram forwarder dev := by
  cases forwarder with
  | acd =>
    simp only [Forwarder.handler, Handler.visit, knxAcdReport] at written
    split at written
    · rename_i objs body
      split at written
      · simp at written
      · obtain ⟨foreign, h, found, flag, plugin, slave⟩ := climateVisit_write written
        exact ⟨foreign, ⟨objs, h, body, found, plugin, slave, rfl, by simp [flag]⟩,
          flags_of_hit body found flag⟩
    · simp at written
  | vent =>
    simp only [Forwarder.handler, Handler.visit, knxVentReport] at written
    split at written
    · rename_i objs body
      split at written
      · simp at written
      · obtain ⟨foreign, h, found, flag, plugin, slave⟩ := climateVisit_write written
        exact ⟨foreign, ⟨objs, h, body, found, plugin, slave, rfl, by simp [flag]⟩,
          flags_of_hit body found flag⟩
    · simp at written
  | panel =>
    simp only [Forwarder.handler, Handler.visit, knxPanelReport] at written
    split at written
    · simp at written
    · split at written
      · rename_i keys body
        obtain ⟨point, member, written⟩ := walk_acts _ written
        obtain ⟨foreign, slave, heard⟩ := panelKey_write written
        refine ⟨foreign, ⟨keys, body, slave, rfl, point, member, heard⟩, ?_⟩
        intro kind objs h climate
        cases body.symm.trans climate
      · simp at written
  | curtain =>
    simp only [Forwarder.handler, Handler.visit, knxCurtainReport] at written
    split at written
    · rename_i pOpen pClose pStop body
      split at written
      · simp at written
      · rename_i heard
        cases attri : dev.element.attri with
        | actuator => cases master : dev.element.bMaster <;> simp [attri, master] at written
        | controller =>
          cases foreign : dev.foreign with
          | none => simp [attri, foreign] at written
          | some link =>
            simp only [attri, foreign] at written
            simp at written
            refine ⟨by rw [written.1], ⟨pOpen, pClose, pStop, body, heard, attri, rfl⟩, ?_⟩
            intro kind objs h climate
            cases body.symm.trans climate
    · simp at written

/-- A linked device that follows its link to write does write. -/
theorem visit_writes {key : Text} (writes : WritesLink env telegram forwarder dev)
    (foreign : dev.foreign = some key) :
    ∃ obj, .modbusDevWrite key obj ∈ (forwarder.handler.visit env telegram dev).acts := by
  obtain ⟨follows, flags⟩ := writes
  cases forwarder with
  | acd =>
    obtain ⟨objs, h, body, found, plugin, slave, -, -⟩ := follows
    have body : dev.body = .climate .acd objs := body
    have slave : dev.element.bMaster = false := slave
    simp only [Forwarder.handler, Handler.visit, knxAcdReport, body, unboundMaster_of_slave slave,
      Bool.false_eq_true, if_false]
    exact climateVisit_writes found (flags _ _ _ body found) plugin slave foreign
  | vent =>
    obtain ⟨objs, h, body, found, plugin, slave, -, -⟩ := follows
    have body : dev.body = .climate .vent objs := body
    have slave : dev.element.bMaster = false := slave
    simp only [Forwarder.handler, Handler.visit, knxVentReport, body, unboundMaster_of_slave slave,
      Bool.false_eq_true, if_false]
    exact climateVisit_writes found (flags _ _ _ body found) plugin slave foreign
  | panel =>
    obtain ⟨keys, body, slave, -, point, member, heard⟩ := follows
    have body : dev.body = .panel keys := body
    have slave : dev.element.bMaster = false := slave
    obtain ⟨obj, written⟩ := @panelKey_writes env telegram dev point key slave foreign heard
    have next : ∀ p ∈ keys, (panelKey env telegram dev p).flow = .next := by
      intro p _
      simp only [panelKey, slave, foreign]
      split <;> simp
    refine ⟨obj, ?_⟩
    simp only [Forwarder.handler, Handler.visit, knxPanelReport, body, unboundMaster_of_slave slave,
      Bool.false_eq_true, if_false, innerWalk, walk_of_next _ next]
    simp only [List.mem_flatMap, List.mem_map, exists_exists_and_eq_and]
    exact ⟨point, member, written⟩
  | curtain =>
    obtain ⟨pOpen, pClose, pStop, body, heard, attri, -⟩ := follows
    have body : dev.body = .curtain pOpen pClose pStop := body
    have attri : dev.element.attri = .controller := attri
    simp [Forwarder.handler, Handler.visit, knxCurtainReport, body, heard, attri, foreign]

end

/-- The handler survives the telegram, and the devices write only to the Modbus device they are
linked to: `ModbusDevWrite` is given its key and finds it. -/
structure RespectsLinks (forwarder : Forwarder) (env : Env) (telegram : Telegram)
    (nodes : Nodes KnxDevice) (mbus : List DeviceElement) : Prop where
  alive : (forwarder.handler.run env telegram nodes).1 ≠ .crash
  own : ∀ (i : Nat) dev step key obj, nodes[i]? = some (some dev) →
    (forwarder.handler.run env telegram nodes).2[i]? = some step →
    .modbusDevWrite key obj ∈ step.2 →
    dev.foreign = some key ∧
      ∃ found, Modbus.lookup .modbusDevWrite mbus key = .ok (some found) ∧ found.pPrimaryKey = key

/-- No device before it makes the handler leave its loop. -/
def Reached (env : Env) (handler : Handler) (knx : Nodes KnxEntry) (i : Nat) : Prop :=
  ∀ j < i, ∀ e, knx[j]? = some (some e) → ¬ Leaves env e.dev handler

/-- The device has a partner, and if it is written to, the number of the partner fits a `long` and
is not that of another Modbus device listed earlier. -/
def WellLinked (env : Env) (telegram : Telegram) (forwarder : Forwarder) (knx : Nodes KnxEntry)
    (mbus : Nodes MbusEntry) (i : Nat) (entry : KnxEntry) : Prop :=
  ∃ device, partner knx mbus i entry = some device ∧
    (WritesLink env telegram forwarder entry.dev →
      (Modbus.suffixId device.pPrimaryKey).isSome = true ∧
      ∃ found, Modbus.searchId (elements mbus) device.devId = some found ∧
        found.pPrimaryKey = device.pPrimaryKey)

section

variable {env : Env} {telegram : Telegram} {forwarder : Forwarder} {knx : Nodes KnxEntry}
  {mbus : Nodes MbusEntry} {i : Nat} {entry : KnxEntry}

theorem devices_getElem? (nodes : Nodes KnxEntry) (i : Nat) :
    (devices nodes)[i]? = nodes[i]?.map (Option.map (·.dev)) := by
  rw [devices, List.getElem?_map]

theorem followsLink_plain (follows : FollowsLink env telegram forwarder entry.dev) :
    (entry.dev.element.bMaster && entry.isVent) = false := by
  cases forwarder with
  | acd | vent =>
    obtain ⟨objs, h, -, -, -, slave, -⟩ := follows
    have slave : entry.dev.element.bMaster = false := slave
    simp [slave]
  | panel =>
    obtain ⟨keys, -, slave, -⟩ := follows
    have slave : entry.dev.element.bMaster = false := slave
    simp [slave]
  | curtain =>
    obtain ⟨pOpen, pClose, pStop, body, -⟩ := follows
    have body : entry.dev.body = .curtain pOpen pClose pStop := body
    simp [KnxEntry.isVent, body]

/-- The device at a position after the start-up. -/
theorem devices_linked (fresh : entry.dev.foreign = none) (here : knx[i]? = some (some entry)) :
    ∃ link, (devices (linked knx mbus))[i]? = some (some (entry.link link).dev) ∧
      (FollowsLink env telegram forwarder entry.dev →
        link = (partner knx mbus i entry).map (·.pPrimaryKey)) := by
  obtain ⟨link, at_i, partnered⟩ := linked_getElem? knx mbus i
  refine ⟨link entry, ?_, fun follows => partnered entry (followsLink_plain follows) fresh⟩
  rw [devices_getElem?, at_i, here]
  rfl

theorem devices_linked_inv {dev : KnxDevice}
    (here : (devices (linked knx mbus))[i]? = some (some dev)) :
    ∃ entry link, knx[i]? = some (some entry) ∧ dev = (entry.link link).dev := by
  obtain ⟨link, at_i, -⟩ := linked_getElem? knx mbus i
  rw [devices_getElem?, at_i] at here
  simp only [Option.map_map, Option.map_eq_some_iff, Function.comp_apply] at here
  obtain ⟨node, there, entry, rfl, same⟩ := here
  exact ⟨entry, _, there, same.symm⟩

theorem leaves_linked (link : Option Text) (handler : Handler) :
    Leaves env (entry.link link).dev handler ↔ Leaves env entry.dev handler :=
  leaves_link link handler

/-- The visits before a position that the loop reaches in the configured list. -/
theorem reached_iff (fresh : ∀ e, some e ∈ knx → e.dev.foreign = none) :
    (∀ j < i, ∀ node, (devices (linked knx mbus))[j]? = some node →
      (forwarder.handler.visitNode env telegram node).flow ≠ .stop) ↔
      Reached env forwarder.handler knx i := by
  constructor
  · intro stays j before e there leaves
    obtain ⟨link, here, -⟩ := @devices_linked env telegram forwarder knx mbus j e
      (fresh e (List.mem_of_getElem? there)) there
    apply stays j before _ here
    exact (visit_stop forwarder).mpr ((leaves_linked link _).mpr leaves)
  · intro reached j before node there stop
    cases node with
    | none => simp [Handler.visitNode] at stop
    | some dev =>
      obtain ⟨e, link, here, rfl⟩ := devices_linked_inv there
      apply reached j before e here
      exact (leaves_linked link _).mp ((visit_stop forwarder).mp stop)

theorem namedBy_member {key : Text} {device : DeviceElement}
    (named : namedBy key mbus = some device) :
    ∃ m, some m ∈ mbus ∧ m.element = device := by
  obtain ⟨node, member, bound⟩ := List.exists_of_findSome?_eq_some named
  cases node with
  | none => simp at bound
  | some m =>
    refine ⟨m, by simpa using member, ?_⟩
    simp only [Option.bind_some] at bound
    split at bound
    · exact Option.some.inj bound
    · simp at bound

theorem lookup_partner {device : DeviceElement} (linked : partner knx mbus i entry = some device) :
    Modbus.lookup .modbusDevWrite (elements mbus) device.pPrimaryKey =
      .ok (if (Modbus.suffixId device.pPrimaryKey).isSome
        then Modbus.searchId (elements mbus) device.devId else none) := by
  rw [partner] at linked
  split at linked
  · simp at linked
  · obtain ⟨m, -, rfl⟩ := namedBy_member linked
    rw [Modbus.lookup, if_neg (Nat.not_lt.mpr m.size)]
    cases number : Modbus.suffixId m.element.pPrimaryKey with
    | none => rfl
    | some n => rw [(Modbus.suffixId_eq number).trans m.parsed.symm]; rfl

variable (fresh : ∀ e, some e ∈ knx → e.dev.foreign = none)

include fresh

theorem run_crash : (forwarder.handler.run env telegram (devices (linked knx mbus))).1 = .crash ↔
    ∃ i entry, knx[i]? = some (some entry) ∧ Reached env forwarder.handler knx i ∧
      FollowsLink env telegram forwarder entry.dev ∧ partner knx mbus i entry = none := by
  rw [Handler.run, walk_crash_reached]
  constructor
  · rintro ⟨i, node, here, dies, stays⟩
    cases node with
    | none => simp [Handler.visitNode] at dies
    | some dev =>
      obtain ⟨entry, -, there, -⟩ := devices_linked_inv here
      obtain ⟨link, same, linked⟩ := @devices_linked env telegram forwarder knx mbus i entry
        (fresh entry (List.mem_of_getElem? there)) there
      cases here.symm.trans same
      obtain ⟨follows, unlinked⟩ := (visit_crash forwarder).mp dies
      have missing := linked follows
      rw [KnxEntry.link_foreign] at unlinked
      rw [unlinked, eq_comm, Option.map_eq_none_iff] at missing
      exact ⟨i, entry, there, (reached_iff fresh).mp stays, follows, missing⟩
  · rintro ⟨i, entry, here, reached, follows, missing⟩
    obtain ⟨link, there, linked⟩ := @devices_linked env telegram forwarder knx mbus i entry
      (fresh entry (List.mem_of_getElem? here)) here
    have unlinked : link = none := by simpa [missing] using linked follows
    exact ⟨i, _, there, (visit_crash forwarder).mpr ⟨follows, unlinked⟩,
      (reached_iff fresh).mpr reached⟩

/-- A handler that survives visits every device it reaches. -/
theorem run_visits
    (alive : (forwarder.handler.run env telegram (devices (linked knx mbus))).1 ≠ .crash)
    (reached : Reached env forwarder.handler knx i) {dev : KnxDevice}
    (here : (devices (linked knx mbus))[i]? = some (some dev)) :
    (forwarder.handler.run env telegram (devices (linked knx mbus))).2[i]? =
      some (some (forwarder.handler.visit env telegram dev).value,
        (forwarder.handler.visit env telegram dev).acts) := by
  have stays := (@reached_iff env telegram forwarder knx mbus i fresh).mpr reached
  have next : ∀ j < i, ∀ node, (devices (linked knx mbus))[j]? = some node →
      (forwarder.handler.visitNode env telegram node).flow = .next := by
    intro j before node there
    have goes := stays j before node there
    cases flow : (forwarder.handler.visitNode env telegram node).flow with
    | next => rfl
    | stop => exact absurd flow goes
    | crash =>
      exact absurd ((walk_crash_reached _ _).mpr ⟨j, node, there, flow,
        fun k earlier => stays k (by omega)⟩) alive
  rw [Handler.run, walk_getElem? _ here, if_pos next]
  rfl

end

/-- The links are respected exactly when every controller that the telegram makes the handler
follow the link of is named by a Modbus master, is the first with its key, and that master is
the first Modbus device with its number. -/
theorem respects_links_iff (forwarder : Forwarder) (env : Env) (telegram : Telegram)
    (knx : Nodes KnxEntry) (mbus : Nodes MbusEntry)
    (fresh : ∀ e, some e ∈ knx → e.dev.foreign = none) :
    RespectsLinks forwarder env telegram (devices (linked knx mbus)) (elements mbus) ↔
      ∀ (i : Nat) entry, knx[i]? = some (some entry) → Reached env forwarder.handler knx i →
        FollowsLink env telegram forwarder entry.dev →
        WellLinked env telegram forwarder knx mbus i entry := by
  constructor
  · intro respects i entry here reached follows
    cases linked : partner knx mbus i entry with
    | none =>
      exact absurd ((run_crash fresh).mpr ⟨i, entry, here, reached, follows, linked⟩) respects.alive
    | some device =>
      refine ⟨device, linked, ?_⟩
      intro writes
      obtain ⟨link, there, same⟩ := @devices_linked env telegram forwarder knx mbus i entry
        (fresh entry (List.mem_of_getElem? here)) here
      have same : link = some device.pPrimaryKey := by simpa [linked] using same follows
      obtain ⟨obj, written⟩ :=
        @visit_writes env telegram (entry.link link).dev forwarder _ writes same
      have visited := run_visits fresh respects.alive reached there
      obtain ⟨-, found, search, key⟩ := respects.own i _ _ _ obj there visited written
      rw [lookup_partner linked, Except.ok.injEq, Option.ite_none_right_eq_some] at search
      exact ⟨search.1, found, search.2, key⟩
  · intro wellLinked
    have alive : (forwarder.handler.run env telegram (devices (linked knx mbus))).1 ≠ .crash := by
      intro dies
      obtain ⟨i, entry, here, reached, follows, missing⟩ := (run_crash fresh).mp dies
      obtain ⟨device, linked, -⟩ := wellLinked i entry here reached follows
      simp [missing] at linked
    refine ⟨alive, ?_⟩
    intro i dev step key obj here stepped written
    obtain ⟨entry, -, there, -⟩ := devices_linked_inv here
    obtain ⟨link, same, linked⟩ := @devices_linked env telegram forwarder knx mbus i entry
      (fresh entry (List.mem_of_getElem? there)) there
    cases here.symm.trans same
    rw [Handler.run, walk_getElem? _ here] at stepped
    cases stepped
    split at written
    · rename_i next
      have reached : Reached env forwarder.handler knx i := by
        apply (@reached_iff env telegram forwarder knx mbus i fresh).mp
        intro j before node there
        simp [next j before node there]
      obtain ⟨foreign, writes⟩ := visit_write written
      obtain ⟨device, partnered, alone⟩ := wellLinked i entry there reached writes.1
      have own : key = device.pPrimaryKey := by
        have named := linked writes.1
        rw [KnxEntry.link_foreign] at foreign
        simpa [foreign, partnered] using named
      subst key
      obtain ⟨numbered, found, search, own⟩ := alone writes
      exact ⟨foreign, found, by rw [lookup_partner partnered, if_pos numbered, search], own⟩
    · simp at written

/-- A wall panel whose curtain was never configured. -/
def strayPanel : KnxEntry where
  dev :=
    { element := { szName := "panel".toList, pPrimaryKey := "panel".toList, bMaster := false
                   attri := .controller }
      body := .panel [{ id := 1, pFeedback := some "1/2/3".toList }] }

def panelTelegram : Telegram := { groupAddr := "1/2/3".toList, value := 1 }

theorem stray_panel_kills : (Forwarder.panel.handler.run corridorEnv panelTelegram
      (devices (linked [some strayPanel] []))).1 = .crash ∧
    ¬ RespectsLinks .panel corridorEnv panelTelegram (devices (linked [some strayPanel] []))
      (elements []) := by
  have dies : (Forwarder.panel.handler.run corridorEnv panelTelegram
      (devices (linked [some strayPanel] []))).1 = .crash := by decide
  exact ⟨dies, fun respects => respects.alive dies⟩

def hallCurtain : MbusEntry where
  element := Modbus.mbusElement "02c7ecdad925".toList "103".toList
  pForeignKey := some "panel".toList
  size := by decide
  parsed := rfl

theorem hall_links_respected : FollowsLink corridorEnv panelTelegram .panel strayPanel.dev ∧
    RespectsLinks .panel corridorEnv panelTelegram
      (devices (linked [some strayPanel] [some hallCurtain])) (elements [some hallCurtain]) := by
  refine ⟨⟨_, rfl, rfl, rfl, _, List.mem_singleton_self _, by decide⟩, ?_⟩
  refine (respects_links_iff .panel corridorEnv panelTelegram [some strayPanel] [some hallCurtain]
    (by simp [strayPanel])).mpr ?_
  intro i entry here _ _
  cases i with
  | zero =>
    cases here
    exact ⟨hallCurtain.element, by decide,
      fun _ => ⟨by decide, hallCurtain.element, by decide, rfl⟩⟩
  | succ i => simp at here

end HiMaxGateway.Knx
