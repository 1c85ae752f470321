import HiMaxGateway.Xml.Template

/-! The points of the devices that the key functions copy from a template. -/
namespace HiMaxGateway.Xml
open CText Turns Function

inductive ItemFunction where
  | parseMbusAcdCfg
  | parseMbusVentCfg
  | parseMbusHeatCfg
  | parseMbusAqiCfg
  | parseMbusPanelCfg
  deriving DecidableEq, Repr

namespace ItemFunction

def cls : ItemFunction → MbusClass
  | .parseMbusAcdCfg => mbusAcd
  | .parseMbusVentCfg => mbusVent
  | .parseMbusHeatCfg => mbusHeat
  | .parseMbusAqiCfg => mbusAqi
  | .parseMbusPanelCfg => mbusPanel

def rule : ItemFunction → KeyRule
  | .parseMbusAcdCfg => mbusAcdKey
  | .parseMbusVentCfg => mbusVentKey
  | .parseMbusHeatCfg => mbusHeatKey
  | .parseMbusAqiCfg => mbusAqiKey
  | .parseMbusPanelCfg => mbusPanelKey

/-- The points that a template has and no copy gets. -/
def lost : ItemFunction → List Slot
  | .parseMbusVentCfg => [.pHumi, .pMode, .pValve, .pEnvHumi]
  | .parseMbusHeatCfg => [.pErrorCode]
  | _ => []

end ItemFunction

def MbusDev.get (dev : MbusDev) (heap : List MbusObj) (slot : Slot) : Option MbusObj :=
  (dev.points slot).bind (heap[·]?)

/-- A device has exactly the points that the cell configures. -/
structure HasPoints (cls : MbusClass) (cell : Node) (heap : List MbusObj) (dev : MbusDev) :
    Prop where
  points : ∀ slot, dev.get heap slot = cls.configured cell.children slot
  valid : ∀ slot p, dev.points slot = some p → p < heap.length
  localPoints : ∀ one two x y, one ≠ two → dev.get heap one = some x → dev.get heap two = some y →
    x.localPoint ≠ y.localPoint

/-- A write to a point of the one leaves the points of the other. -/
def Unshared (heap : List MbusObj) (one two : MbusDev) : Prop :=
  ∀ a b p obj, one.points a = some p → two.get (heap.set p obj) b = two.get heap b

/-- What a cell adds to the list. -/
structure CopiesPoints (cls : MbusClass) (cell : Node) (before after : MbusList) : Prop where
  /-- The objects that were there stay. -/
  heap : before.heap <+: after.heap
  devs : ∃ devs, after.list = before.list ++ devs ∧ devs.length = (itemCells cell.children).length ∧
    (∀ dev ∈ devs, HasPoints cls cell after.heap dev) ∧
    (∀ dev ∈ devs, ∀ slot p, dev.points slot = some p → before.heap.length ≤ p) ∧
    devs.Pairwise fun one two => Unshared after.heap one two ∧ Unshared after.heap two one

/-- The key function gets through an item. -/
def KeyRule.Passes (rule : KeyRule) (mac : Text) (item : Node) : Prop :=
  ((item.children.filter fun node => node.named "Cell").flatMap fun cell =>
    cell.children.flatMap (visits (rule.branches mac))).findSome? Visit.stop = none

/-- Nothing in a cell stops the parser. -/
structure CellPasses (cls : MbusClass) (rule : KeyRule) (mac : Text) (cell : Node) : Prop where
  children : cls.Passes cell.children
  item : ∀ item, lastItem cell.children = some item → rule.Passes mac item

/-- The objects that are new, and where the pointers lead. -/
structure Fresh (heap : List MbusObj) (given : Slot → Option MbusObj) (mem : PointMem) : Prop where
  old : heap <+: mem.heap
  valid : mem.Valid
  get : ∀ slot, mem.get slot = given slot
  fresh : ∀ slot p, mem.points slot = some p → heap.length ≤ p

theorem copies_fresh {template : Slot → Option Nat} {heap : List MbusObj}
    (valid : ∀ slot p, template slot = some p → p < heap.length) (slots : List Slot) :
    Fresh heap (fun slot => if slot ∈ slots then (template slot).bind (heap[·]?) else none)
      (slots.foldl (copyPoint template) { heap := heap, points := fun _ => none }) := by
  induction slots using List.reverseRecOn with
  | nil =>
    refine ⟨List.prefix_refl _, ?_, fun _ => rfl, ?_⟩
    all_goals
      intro slot p pointer
      contradiction
  | append_singleton slots slot ih =>
    rw [List.foldl_append, List.foldl_cons, List.foldl_nil]
    generalize slots.foldl (copyPoint template) { heap := heap, points := fun _ => none } =
      mem at ih
    obtain ⟨more, grown⟩ := ih.old
    have same : (template slot).bind (mem.heap[·]?) = (template slot).bind (heap[·]?) := by
      cases pointer : template slot with
      | none => rfl
      | some p =>
        rw [Option.bind_some, Option.bind_some, ← grown]
        exact List.getElem?_append_left (valid slot p pointer)
    rw [copyPoint, same]
    cases found : (template slot).bind (heap[·]?) with
    | none =>
      refine ⟨ih.old, ih.valid, fun other => ?_, ih.fresh⟩
      simp only [ih.get, List.mem_append, List.mem_singleton]
      by_cases here : other = slot
      · subst here
        simp [found]
      · simp [here]
    | some obj =>
      refine ⟨ih.old.trans (List.prefix_append _ _), ih.valid.create _ _, fun other => ?_, ?_⟩
      · simp only [PointMem.create_get ih.valid, ih.get, List.mem_append, List.mem_singleton]
        by_cases here : other = slot
        · subst here
          simp [found]
        · simp [here]
      · intro other p pointer
        by_cases here : other = slot
        · subst here
          simp only [PointMem.create, update_self, Option.some.injEq] at pointer
          have := ih.old.length_le
          omega
        · simp only [PointMem.create, update_of_ne here] at pointer
          exact ih.fresh other p pointer

/-- Devices with points of their own. -/
structure Copied (given : Slot → Option MbusObj) (start heap : List MbusObj) (devs : List MbusDev) :
    Prop where
  old : start <+: heap
  get : ∀ dev ∈ devs, ∀ slot, dev.get heap slot = given slot
  inside : ∀ dev ∈ devs, ∀ slot p, dev.points slot = some p → start.length ≤ p ∧ p < heap.length
  apart : devs.Pairwise fun one two => ∀ a b p, one.points a = some p → two.points b ≠ some p

theorem Copied.append {given : Slot → Option MbusObj} {start middle heap : List MbusObj}
    {first second : List MbusDev} (one : Copied given start middle first)
    (two : Copied given middle heap second) : Copied given start heap (first ++ second) where
  old := one.old.trans two.old
  get dev member slot := by
    rcases List.mem_append.mp member with left | right
    · rw [← one.get dev left slot, MbusDev.get, MbusDev.get]
      cases pointer : dev.points slot with
      | none => rfl
      | some p =>
        obtain ⟨more, grown⟩ := two.old
        rw [Option.bind_some, Option.bind_some, ← grown]
        exact List.getElem?_append_left (one.inside dev left slot p pointer).2
    · exact two.get dev right slot
  inside dev member slot p pointer := by
    have before := one.old.length_le
    have after := two.old.length_le
    rcases List.mem_append.mp member with left | right
    · have bounds := one.inside dev left slot p pointer
      omega
    · have bounds := two.inside dev right slot p pointer
      omega
  apart := by
    refine List.pairwise_append.mpr ⟨one.apart, two.apart, ?_⟩
    intro a left b right slot other p pointer same
    have below := one.inside a left slot p pointer
    have above := two.inside b right other p same
    omega

section

variable {rule : KeyRule} {mac : Text} {template : MbusState} {s t : KeyState} {nodes : List Node}

/-- What a copy gets of a template. -/
def KeyRule.copy (rule : KeyRule) (template : MbusState) (slot : Slot) : Option MbusObj :=
  if slot ∈ rule.copied then template.mem.get slot else none

/-- What the keys of a device leave. -/
def KeyState.frame (s : KeyState) : List MbusObj × List MbusDev × (Slot → Option Nat) :=
  (s.heap, s.list, s.dev.points)

theorem keys_keep (run : nodes.foldlM (chain (rule.branches mac)) s = .ok t) :
    t.frame = s.frame := by
  refine foldlM_keeps (fun s node t turn => ?_) run
  refine chain_keeps (fun branch member _ act => ?_) turn
  simp only [KeyRule.branches, List.mem_cons, List.not_mem_nil, or_false] at member
  rcases member with rfl | rfl | rfl | rfl
  all_goals
    refine Branch.content_keeps ?_ act
    intro s text
    rfl

theorem close_points (mac : Text) (s : KeyState) :
    ∃ dev, (s.close mac).list = s.list ++ [dev] ∧ dev.points = s.dev.points := by
  rw [KeyState.close]
  cases s.pForeignKey with
  | none => exact ⟨s.dev, rfl, rfl⟩
  | some key =>
    by_cases unknown : s.element.foreignType = .unknown
    · exact ⟨s.dev, by simp only [unknown, if_true], rfl⟩
    · refine ⟨(s.setElement { s.element with
        pForeignKey := some (deviceKey mac s.element.foreignType key) }).dev, ?_, rfl⟩
      simp only [unknown, if_false]

theorem cell_copied (valid : template.mem.Valid) (old : template.mem.heap <+: s.heap) {node : Node}
    (act : (rule.cell mac template).act s node = .ok t) :
    ∃ dev, t.list = s.list ++ [dev] ∧ Copied (rule.copy template) s.heap t.heap [dev] := by
  obtain ⟨last, run, rfl⟩ := Branch.element_ok act
  obtain ⟨dev, list, points⟩ := close_points mac last
  have kept := keys_keep run
  simp only [KeyState.frame, KeyRule.enter, Prod.mk.injEq] at kept
  obtain ⟨sameHeap, sameList, samePoints⟩ := kept
  have inside : ∀ slot p, template.mem.points slot = some p → p < s.heap.length :=
    fun slot p pointer => Nat.lt_of_lt_of_le (valid slot p pointer) old.length_le
  have fresh := copies_fresh inside rule.copied
  generalize rule.copied.foldl (copyPoint template.mem.points)
    { heap := s.heap, points := fun _ => none } = mem at fresh sameHeap samePoints
  have own : dev.points = mem.points := points.trans samePoints
  have heap : (last.close mac).heap = mem.heap := sameHeap
  have same (slot : Slot) :
      (template.mem.points slot).bind (s.heap[·]?) = template.mem.get slot := by
    rw [PointMem.get]
    cases pointer : template.mem.points slot with
    | none => rfl
    | some p =>
      obtain ⟨more, grown⟩ := old
      rw [Option.bind_some, Option.bind_some, ← grown]
      exact List.getElem?_append_left (valid slot p pointer)
  refine ⟨dev, by rw [list, sameList], ?_, ?_, ?_, List.pairwise_singleton _ _⟩
  · rw [heap]
    exact fresh.old
  · intro one member slot
    rw [List.mem_singleton.mp member, heap, MbusDev.get, own]
    have get := fresh.get slot
    rw [same] at get
    exact get
  · intro one member slot p pointer
    rw [List.mem_singleton.mp member, own] at pointer
    rw [heap]
    exact ⟨fresh.fresh slot p pointer, fresh.valid slot p pointer⟩

theorem cells_copied (valid : template.mem.Valid) (old : template.mem.heap <+: s.heap)
    (run : nodes.foldlM (chain [rule.cell mac template]) s = .ok t) :
    ∃ devs, t.list = s.list ++ devs ∧
      devs.length = (nodes.filter fun node => node.named "Cell").length ∧
      Copied (rule.copy template) s.heap t.heap devs := by
  induction nodes generalizing s with
  | nil =>
    cases run
    refine ⟨[], by rw [List.append_nil], rfl, List.prefix_refl _, ?_, ?_, .nil⟩
    all_goals
      intro dev member
      contradiction
  | cons node rest ih =>
    obtain ⟨next, turn, run⟩ := foldlM_cons_inv run
    rw [chain] at turn
    split at turn
    · rename_i named
      have named : node.named "Cell" = true := named
      obtain ⟨dev, list, copied⟩ := cell_copied valid old turn
      obtain ⟨devs, later, count, rest_copied⟩ := ih (old.trans copied.old) run
      refine ⟨dev :: devs, ?_, ?_, copied.append rest_copied⟩
      · rw [later, list, List.append_assoc]
        rfl
      · rw [List.filter_cons, if_pos named, List.length_cons, List.length_cons, count]
    · rename_i other
      have other : ¬ node.named "Cell" = true := other
      cases turn
      obtain ⟨devs, later, count, copied⟩ := ih old run
      refine ⟨devs, later, ?_, copied⟩
      rw [List.filter_cons, if_neg other, count]

end

namespace ItemFunction

theorem itemed (function : ItemFunction) : function.cls.Itemed := by
  have base (plugin : Option (Stop Fault)) (onlineYes : Bool) :
      ∀ branch ∈ baseBranches plugin onlineYes,
        branch.name.toList.map Char.toLower ≠ "Item".toList.map Char.toLower := by
    intro branch member
    simp only [baseBranches, List.mem_cons, List.not_mem_nil, or_false] at member
    rcases member with rfl | rfl | rfl | rfl | rfl | rfl | rfl | rfl | rfl | rfl | rfl | rfl
    all_goals
      simp only [Branch.content, Branch.number, serialNumber]
      decide
  cases function with
  | parseMbusAcdCfg => exact ⟨⟨_, rfl, base _ _⟩, by decide⟩
  | parseMbusVentCfg => exact ⟨⟨_, rfl, base _ _⟩, by decide⟩
  | parseMbusHeatCfg => exact ⟨⟨_, rfl, base _ _⟩, by decide⟩
  | parseMbusAqiCfg => exact ⟨⟨_, rfl, base _ _⟩, by decide⟩
  | parseMbusPanelCfg => exact ⟨⟨_, rfl, base _ _⟩, by decide⟩

/-- A point is copied or lost. -/
theorem copied_or_lost (function : ItemFunction) :
    ∀ rule ∈ function.cls.points, rule.slot ∈ function.rule.copied ∨ rule.slot ∈ function.lost := by
  cases function <;> decide

theorem lost_not_copied (function : ItemFunction) :
    ∀ slot ∈ function.lost, slot ∉ function.rule.copied := by
  cases function <;> decide

/-- The points that are copied have different numbers. -/
theorem localPoints_differ (function : ItemFunction) :
    ∀ one ∈ function.cls.points, ∀ two ∈ function.cls.points, one.slot ≠ two.slot →
      one.slot ∉ function.lost → two.slot ∉ function.lost → one.localPoint ≠ two.localPoint := by
  cases function <;> decide

end ItemFunction

theorem parseItemCell_ok {cls : MbusClass} {rule : KeyRule} {mac : Text} {s after : MbusList}
    {cell : Node} (itemed : cls.Itemed) (run : parseItemCell cls rule mac s cell = .ok after) :
    ∃ template devs, cls.template s.heap cell = .ok template ∧ after.list = s.list ++ devs ∧
      devs.length = (itemCells cell.children).length ∧
      Copied (rule.copy template) template.mem.heap after.heap devs := by
  rw [parseItemCell] at run
  obtain ⟨template, first, run⟩ := bind_ok run
  have item := template_item itemed first
  obtain ⟨-, valid, -⟩ := template_creates itemed.tidy first
  rw [itemCells, ← item]
  cases found : template.pItem with
  | none =>
    rw [found] at run
    cases run
    refine ⟨template, [], first, by rw [List.append_nil], rfl, List.prefix_refl _, ?_, ?_, .nil⟩
    all_goals
      intro dev member
      contradiction
  | some item =>
    simp only [found] at run
    obtain ⟨last, keys, run⟩ := bind_ok run
    cases run
    obtain ⟨devs, list, count, copied⟩ := cells_copied valid (List.prefix_refl _) keys
    exact ⟨template, devs, first, list, count, copied⟩

theorem KeyRule.parse_passes_iff {rule : KeyRule} {mac : Text} (template : MbusState) (s : KeyState)
    (item : Node) : (∃ t, rule.parse mac template s item = .ok t) ↔ rule.Passes mac item := by
  rw [KeyRule.parse, ← stop?_eq_none, chains_stop, KeyRule.Passes]
  have same : item.children.flatMap (visits [rule.cell mac template]) =
      (item.children.filter fun node => node.named "Cell").flatMap fun cell =>
        cell.children.flatMap (visits (rule.branches mac)) := by
    induction item.children with
    | nil => rfl
    | cons node rest ih =>
      rw [List.flatMap_cons, ih, List.filter_cons]
      cases named : node.named "Cell" with
      | true =>
        have here : visits [rule.cell mac template] node =
            node.children.flatMap (visits (rule.branches mac)) := if_pos named
        rw [here]
        rfl
      | false =>
        have here : visits [rule.cell mac template] node = [] := if_neg (Bool.eq_false_iff.mp named)
        rw [here]
        rfl
  rw [same]

theorem cellPasses_iff {cls : MbusClass} (itemed : cls.Itemed) (rule : KeyRule) (mac : Text)
    (s : MbusList) (cell : Node) :
    (∃ after, parseItemCell cls rule mac s cell = .ok after) ↔ CellPasses cls rule mac cell := by
  have first := turns_pass_iff itemed.tidy s.heap cell.children
  constructor
  · rintro ⟨after, run⟩
    rw [parseItemCell] at run
    obtain ⟨template, start, run⟩ := bind_ok run
    have item := template_item itemed start
    refine ⟨first.mp ⟨template, start⟩, fun node last => ?_⟩
    rw [item.trans last] at run
    obtain ⟨keys, parsed, -⟩ := bind_ok run
    exact (rule.parse_passes_iff template _ node).mp ⟨keys, parsed⟩
  · rintro ⟨children, items⟩
    obtain ⟨template, start⟩ := first.mpr children
    have item := template_item itemed start
    rw [parseItemCell, MbusClass.template, start]
    simp only [bind, Except.bind, item]
    cases last : lastItem cell.children with
    | none => exact ⟨_, rfl⟩
    | some node =>
      obtain ⟨keys, parsed⟩ := (rule.parse_passes_iff template
        { heap := template.mem.heap, list := s.list
          dev := { base := template.base, points := fun _ => none }, pForeignKey := none } node).mpr
        (items node last)
      simp only [parsed]
      exact ⟨_, rfl⟩

theorem Copied.unshared {given : Slot → Option MbusObj} {start heap : List MbusObj}
    {devs : List MbusDev} (copied : Copied given start heap devs) :
    devs.Pairwise fun one two => Unshared heap one two ∧ Unshared heap two one := by
  have elsewhere {one two : MbusDev} (apart : ∀ a b p, one.points a = some p →
      two.points b ≠ some p) :
      Unshared heap one two := by
    intro a b p obj pointer
    rw [MbusDev.get, MbusDev.get]
    cases other : two.points b with
    | none => rfl
    | some q =>
      have different : p ≠ q := by
        rintro rfl
        exact apart a b p pointer other
      rw [Option.bind_some, Option.bind_some, List.getElem?_set_ne different]
  refine copied.apart.imp fun apart => ⟨elsewhere apart, elsewhere fun a b p pointer same => ?_⟩
  exact apart b a p same pointer

/-- Where no point is lost, a device gets all of them. -/
theorem ItemFunction.copy_configured (function : ItemFunction) {nodes : List Node}
    {template : MbusState}
    (get : ∀ slot, template.mem.get slot = function.cls.configured nodes slot)
    (unlost : ∀ slot ∈ function.lost, function.cls.configured nodes slot = none) (slot : Slot) :
    function.rule.copy template slot = function.cls.configured nodes slot := by
  rw [KeyRule.copy]
  split
  · exact get slot
  · rename_i uncopied
    cases configured : function.cls.configured nodes slot with
    | none => rfl
    | some obj =>
      obtain ⟨rule, inside, rfl, -⟩ := configured_rule configured
      rcases function.copied_or_lost rule inside with here | lost
      · exact absurd here uncopied
      · rw [unlost _ lost] at configured
        contradiction

/-- The points of a cell that are not lost have different numbers. -/
theorem ItemFunction.configured_differ (function : ItemFunction) {nodes : List Node}
    (unlost : ∀ slot ∈ function.lost, function.cls.configured nodes slot = none) {one two : Slot}
    {x y : MbusObj} (different : one ≠ two) (left : function.cls.configured nodes one = some x)
    (right : function.cls.configured nodes two = some y) : x.localPoint ≠ y.localPoint := by
  obtain ⟨a, inA, rfl, sameA⟩ := configured_rule left
  obtain ⟨b, inB, rfl, sameB⟩ := configured_rule right
  rw [sameA, sameB]
  apply function.localPoints_differ a inA b inB different
  · intro lost
    rw [unlost _ lost] at left
    contradiction
  · intro lost
    rw [unlost _ lost] at right
    contradiction

/-- The devices of a cell have its points exactly when it configures none that the copy leaves
out. -/
theorem points_copied_iff (function : ItemFunction) (mac : Text) (s : MbusList) (cell : Node) :
    (∀ after, parseItemCell function.cls function.rule mac s cell = .ok after →
      CopiesPoints function.cls cell s after) ↔
    (CellPasses function.cls function.rule mac cell → itemCells cell.children ≠ [] →
      ∀ slot ∈ function.lost, function.cls.configured cell.children slot = none) := by
  have passes := cellPasses_iff function.itemed function.rule mac s cell
  constructor
  · intro copies through cells slot lost
    obtain ⟨after, run⟩ := passes.mpr through
    obtain ⟨template, devs, -, list, count, copied⟩ := parseItemCell_ok function.itemed run
    obtain ⟨others, sameList, -, points, -⟩ := (copies after run).devs
    have same : devs = others := List.append_cancel_left (list.symm.trans sameList)
    subst same
    cases devs with
    | nil =>
      rw [List.length_nil, eq_comm, List.length_eq_zero_iff] at count
      contradiction
    | cons dev rest =>
      have configured := (points dev List.mem_cons_self).points slot
      rw [copied.get dev List.mem_cons_self slot, KeyRule.copy,
        if_neg (function.lost_not_copied slot lost)] at configured
      exact configured.symm
  · intro kept after run
    obtain ⟨template, devs, first, list, count, copied⟩ := parseItemCell_ok function.itemed run
    obtain ⟨grown, valid, get⟩ := template_creates function.itemed.tidy first
    refine ⟨grown.trans copied.old, devs, list, count, ?_, ?_, copied.unshared⟩
    · intro dev member
      have cells : itemCells cell.children ≠ [] := by
        intro none_there
        rw [none_there, List.length_nil, List.length_eq_zero_iff] at count
        rw [count] at member
        contradiction
      have unlost := kept (passes.mp ⟨after, run⟩) cells
      have points (slot : Slot) :
          dev.get after.heap slot = function.cls.configured cell.children slot :=
        (copied.get dev member slot).trans (function.copy_configured get unlost slot)
      refine ⟨points, fun slot p pointer => (copied.inside dev member slot p pointer).2, ?_⟩
      intro one two x y different left right
      rw [points] at left right
      exact function.configured_differ unlost different left right
    · intro dev member slot p pointer
      have below := (copied.inside dev member slot p pointer).1
      have length := grown.length_le
      omega

/-- A ventilation with a switch, a speed and a humidity, and one device. -/
def humidVent : Node := .element "Cell"
  [.element "Switch" [.element "DataPoint" [.text "1"]],
    .element "Speed" [.element "DataPoint" [.text "2"]],
    .element "Humi" [.element "DataPoint" [.text "3"]],
    .element "Item" [.element "Cell" [.element "PrimaryKey" [.text "7"]]]]

/-- The device has no humidity. -/
theorem humidity_lost : ¬ ∀ after, parseItemCell mbusVent mbusVentKey "0123456789ab".toList
    { heap := [], list := [] } humidVent = .ok after →
      CopiesPoints mbusVent humidVent { heap := [], list := [] } after := by
  intro copies
  have pointers :
    (parseItemCell mbusVent mbusVentKey "0123456789ab".toList { heap := [], list := [] }
      humidVent).toOption.map (fun after => after.list.map fun dev => dev.points .pHumi) =
        some [none] := by
    rfl
  have configured : (mbusVent.configured humidVent.children .pHumi).isSome = true := by rfl
  cases run : parseItemCell mbusVent mbusVentKey "0123456789ab".toList { heap := [], list := [] }
      humidVent with
  | error stop =>
    rw [run] at pointers
    contradiction
  | ok after =>
    rw [run] at pointers
    have pointers : after.list.map (fun dev => dev.points .pHumi) = [none] :=
      Option.some.inj pointers
    obtain ⟨devs, list, -, points, -⟩ := (copies after run).devs
    rw [List.nil_append] at list
    rw [list] at pointers
    cases devs with
    | nil => contradiction
    | cons dev rest =>
      have unset : dev.points .pHumi = none := (List.cons.inj pointers).1
      have same := (points dev List.mem_cons_self).points .pHumi
      rw [MbusDev.get, unset] at same
      rw [← same] at configured
      contradiction

end HiMaxGateway.Xml
