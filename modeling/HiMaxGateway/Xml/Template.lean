import HiMaxGateway.Xml.Mbus

/-! The points that the children of a Modbus cell configure. -/
namespace HiMaxGateway.Xml
open CText Turns Function

namespace PointMem

/-- What a pointer leads to. -/
def get (mem : PointMem) (slot : Slot) : Option MbusObj := (mem.points slot).bind (mem.heap[·]?)

def Valid (mem : PointMem) : Prop := ∀ slot p, mem.points slot = some p → p < mem.heap.length

variable {mem : PointMem}

theorem Valid.create (valid : mem.Valid) (slot : Slot) (obj : MbusObj) :
    (mem.create slot obj).Valid := by
  intro other p pointer
  rw [PointMem.create, List.length_append, List.length_singleton]
  by_cases same : other = slot
  · subst same
    simp only [PointMem.create, update_self, Option.some.injEq] at pointer
    omega
  · simp only [PointMem.create, update_of_ne same] at pointer
    have := valid other p pointer
    omega

theorem create_get (valid : mem.Valid) (slot other : Slot) (obj : MbusObj) :
    (mem.create slot obj).get other = if other = slot then some obj else mem.get other := by
  simp only [get, PointMem.create]
  by_cases same : other = slot
  · subst same
    rw [update_self, Option.bind_some, if_pos rfl]
    exact List.getElem?_concat_length
  · rw [update_of_ne same, if_neg same]
    cases pointer : mem.points other with
    | none => rfl
    | some p => exact List.getElem?_append_left (valid other p pointer)

/-- A valid pointer is set exactly when it leads to something. -/
theorem Valid.points_none (valid : mem.Valid) (slot : Slot) :
    mem.points slot = none ↔ mem.get slot = none := by
  rw [get]
  cases pointer : mem.points slot with
  | none => exact ⟨fun _ => rfl, fun _ => rfl⟩
  | some p =>
    have inside := valid slot p pointer
    simp [inside]

end PointMem

/-- What is created behind what was there. -/
structure Creates (given : Slot → Option MbusObj) (before after : PointMem) : Prop where
  heap : before.heap <+: after.heap
  valid : after.Valid
  get : ∀ slot, after.get slot = (given slot).or (before.get slot)

theorem Creates.refl {mem : PointMem} (valid : mem.Valid) : Creates (fun _ => none) mem mem where
  heap := List.prefix_refl _
  valid := valid
  get _ := rfl

theorem Creates.trans {one two : Slot → Option MbusObj} {first second third : PointMem}
    (left : Creates one first second) (right : Creates two second third) :
    Creates (fun slot => (two slot).or (one slot)) first third where
  heap := left.heap.trans right.heap
  valid := right.valid
  get slot := by rw [right.get, left.get, Option.or_assoc]

/-- What a text creates. -/
def PointRule.given (rule : PointRule) (text : Option Text) (slot : Slot) : Option MbusObj :=
  if slot = rule.slot then text.map rule.obj else none

theorem PointRule.given_or (rule : PointRule) (one two : Option Text) (slot : Slot) :
    (rule.given two slot).or (rule.given one slot) = rule.given (two.or one) slot := by
  rw [given, given, given]
  split
  · cases two <;> rfl
  · rfl

theorem dataPoint_creates {rule : PointRule} {mem after : PointMem} {node : Node}
    (valid : mem.Valid) (turn : chain [rule.dataPoint] mem node = .ok after) :
    Creates (rule.given (lastText "DataPoint" [node])) mem after := by
  simp only [chain] at turn
  split at turn
  · rename_i named
    have named : node.named "DataPoint" = true := named
    rw [lastText_named named]
    rcases Branch.content_ok turn with ⟨text, found, -, rfl⟩ | ⟨null, -, rfl⟩
    · refine ⟨List.prefix_append _ _, valid.create _ _, fun slot => ?_⟩
      rw [PointMem.create_get valid, found, PointRule.given]
      split <;> rfl
    · refine ⟨List.prefix_refl _, valid, fun slot => ?_⟩
      rw [null, PointRule.given]
      split <;> rfl
  · rename_i other
    have other : ¬ node.named "DataPoint" = true := other
    cases turn
    rw [lastText_other (Bool.eq_false_iff.mpr other)]
    refine ⟨List.prefix_refl _, valid, fun slot => ?_⟩
    rw [PointRule.given]
    split <;> rfl

theorem dataPoints_create {rule : PointRule} {mem after : PointMem} {nodes : List Node}
    (valid : mem.Valid) (run : nodes.foldlM (chain [rule.dataPoint]) mem = .ok after) :
    Creates (rule.given (lastText "DataPoint" nodes)) mem after := by
  induction nodes generalizing mem with
  | nil =>
    cases run
    refine ⟨List.prefix_refl _, valid, fun slot => ?_⟩
    simp [lastText, PointRule.given]
  | cons node rest ih =>
    obtain ⟨next, turn, later⟩ := foldlM_cons_inv run
    have first := dataPoint_creates valid turn
    have both := first.trans (ih first.valid later)
    simp only [PointRule.given_or] at both
    exact both

/-- What an element gives to a slot. -/
def MbusClass.given (cls : MbusClass) (node : Node) (slot : Slot) : Option MbusObj :=
  match cls.rule? node with
  | some rule => rule.given (lastText "DataPoint" node.children) slot
  | none => none

/-- The points that some children configure; the last element counts. -/
def MbusClass.configured (cls : MbusClass) : List Node → Slot → Option MbusObj
  | [], _ => none
  | node :: rest, slot => (cls.configured rest slot).or (cls.given node slot)

/-- The other elements leave the points. -/
def MbusClass.Tidy (cls : MbusClass) : Prop :=
  ∀ s node t, chain cls.others s node = .ok t → t.mem = s.mem

section

variable {cls : MbusClass} {s t : MbusState} {node : Node}

/-- A point element that goes on. -/
theorem rule_turn_ok {rule : PointRule} {mem after : PointMem}
    (turn : rule.turn mem node = .ok after) :
    node.children.foldlM (chain [rule.dataPoint]) mem = .ok after ∧
    after.points rule.logged ≠ none := by
  rw [PointRule.turn] at turn
  obtain ⟨next, run, logs⟩ := bind_ok turn
  split at logs
  · rename_i found
    cases logs
    exact ⟨run, by simp [found]⟩
  · contradiction

theorem turn_creates (tidy : cls.Tidy) (valid : s.mem.Valid) (turn : cls.turn s node = .ok t) :
    Creates (cls.given node) s.mem t.mem := by
  rw [MbusClass.turn] at turn
  cases found : cls.rule? node with
  | none =>
    simp only [found] at turn
    have given : cls.given node = fun _ => none := by
      funext slot
      simp only [MbusClass.given, found]
    rw [given, tidy s node t turn]
    exact .refl valid
  | some rule =>
    simp only [found] at turn
    have given : cls.given node = rule.given (lastText "DataPoint" node.children) := by
      funext slot
      simp only [MbusClass.given, found]
    rw [given]
    obtain ⟨mem, point, rfl⟩ := map_ok turn
    exact dataPoints_create valid (rule_turn_ok point).1

/-- The loop over the children leaves what they configure. -/
theorem turns_create {nodes : List Node} (tidy : cls.Tidy) (valid : s.mem.Valid)
    (run : nodes.foldlM cls.turn s = .ok t) : Creates (cls.configured nodes) s.mem t.mem := by
  induction nodes generalizing s with
  | nil =>
    cases run
    exact .refl valid
  | cons node rest ih =>
    obtain ⟨next, turn, later⟩ := foldlM_cons_inv run
    have first := turn_creates tidy valid turn
    exact first.trans (ih first.valid later)

theorem init_valid (heap : List MbusObj) : (cls.init heap).mem.Valid := by
  intro slot p pointer
  contradiction

theorem template_creates {heap : List MbusObj} {cell : Node} (tidy : cls.Tidy)
    (run : cls.template heap cell = .ok t) :
    heap <+: t.mem.heap ∧ t.mem.Valid ∧
    ∀ slot, t.mem.get slot = cls.configured cell.children slot := by
  have creates := turns_create tidy (init_valid heap) run
  refine ⟨creates.heap, creates.valid, fun slot => ?_⟩
  rw [creates.get]
  exact Option.or_none

end

/-- Where the parser stops in an element, apart from its log line. -/
def MbusClass.elementStop (cls : MbusClass) (node : Node) : Option (Stop Fault) :=
  match cls.rule? node with
  | some rule => (node.children.flatMap (visits [rule.dataPoint])).findSome? Visit.stop
  | none => (visits cls.others node).findSome? Visit.stop

/-- No child stops the parser, and each log line finds its point. -/
def MbusClass.Passes (cls : MbusClass) (nodes : List Node) : Prop :=
  ∀ before node, before ++ [node] <+: nodes → cls.elementStop node = none ∧
    ∀ rule, cls.rule? node = some rule → cls.configured (before ++ [node]) rule.logged ≠ none

section

variable {cls : MbusClass} {s t : MbusState} {node : Node}

theorem turn_other (other : cls.rule? node = none) :
    stop? (cls.turn s node) = cls.elementStop node := by
  simp only [MbusClass.turn, MbusClass.elementStop, other]
  exact chain_stop cls.others s node

/-- A point element that the parser gets through up to its log line. -/
theorem turn_point {rule : PointRule} (found : cls.rule? node = some rule) (valid : s.mem.Valid)
    (passes : cls.elementStop node = none) :
    ∃ mem, Creates (cls.given node) s.mem mem ∧ cls.turn s node =
      match mem.points rule.logged with
      | some _ => .ok { s with mem := mem }
      | none => .error (.faults .point) := by
  simp only [MbusClass.elementStop, found] at passes
  rw [← chains_stop _ s.mem] at passes
  obtain ⟨mem, run⟩ := stop?_eq_none.mp passes
  have given : cls.given node = rule.given (lastText "DataPoint" node.children) := by
    funext slot
    simp only [MbusClass.given, found]
  refine ⟨mem, given ▸ dataPoints_create valid run, ?_⟩
  simp only [MbusClass.turn, found, PointRule.turn, run, bind, Except.bind]
  cases mem.points rule.logged <;> rfl

/-- An element in which the parser stops. -/
theorem turn_stops {stop : Stop Fault} (stops : cls.elementStop node = some stop) :
    cls.turn s node = .error stop := by
  cases found : cls.rule? node with
  | none => exact stop?_eq_some.mp ((turn_other found).trans stops)
  | some rule =>
    simp only [MbusClass.elementStop, found] at stops
    rw [← chains_stop _ s.mem, stop?_eq_some] at stops
    simp only [MbusClass.turn, found, PointRule.turn, stops, bind, Except.bind]
    rfl

theorem turn_passes_iff (valid : s.mem.Valid) : (∃ t, cls.turn s node = .ok t) ↔
    cls.elementStop node = none ∧ ∀ rule, cls.rule? node = some rule →
      (cls.given node rule.logged).or (s.mem.get rule.logged) ≠ none := by
  cases stops : cls.elementStop node with
  | some stop =>
    rw [turn_stops stops]
    simp
  | none =>
    cases found : cls.rule? node with
    | none => simpa using stop?_eq_none.mp ((turn_other found).trans stops)
    | some rule =>
      obtain ⟨mem, creates, turn⟩ := turn_point found valid stops
      have logged := creates.valid.points_none rule.logged
      rw [creates.get] at logged
      rw [turn]
      cases pointer : mem.points rule.logged with
      | none => simpa using Option.or_eq_none_iff.mp (logged.mp pointer)
      | some p =>
        have there : (cls.given node rule.logged).or (s.mem.get rule.logged) ≠ none := by
          rw [Ne, ← logged, pointer]
          simp
        simpa using there

theorem configured_append (first second : List Node) (slot : Slot) :
    cls.configured (first ++ second) slot = (cls.configured second slot).or
      (cls.configured first slot) := by
  induction first with
  | nil => exact Option.or_none.symm
  | cons node rest ih =>
    rw [List.cons_append, MbusClass.configured, ih, MbusClass.configured, Option.or_assoc]

/-- The parser gets through some children exactly when none of them stops it. -/
theorem turns_pass_iff (tidy : cls.Tidy) (heap : List MbusObj) (nodes : List Node) :
    (∃ t, nodes.foldlM cls.turn (cls.init heap) = .ok t) ↔ cls.Passes nodes := by
  induction nodes using List.reverseRecOn with
  | nil =>
    refine ⟨fun _ before node inside => ?_, fun _ => ⟨cls.init heap, rfl⟩⟩
    simp at inside
  | append_singleton nodes node ih =>
    -- What the log line finds, from what the children so far have created.
    have last {s : MbusState} (run : nodes.foldlM cls.turn (cls.init heap) = .ok s) :
        (∃ t, cls.turn s node = .ok t) ↔ cls.elementStop node = none ∧
          ∀ rule, cls.rule? node = some rule →
              cls.configured (nodes ++ [node]) rule.logged ≠ none := by
      have creates := turns_create tidy (init_valid heap) run
      have nothing (slot : Slot) : (cls.init heap).mem.get slot = none := rfl
      rw [turn_passes_iff creates.valid]
      simp only [creates.get, nothing, configured_append, MbusClass.configured, Option.none_or,
        Option.or_none]
    rw [List.foldlM_append]
    constructor
    · rintro ⟨t, run⟩
      obtain ⟨s, first, turn⟩ := bind_ok run
      obtain ⟨next, turn, -⟩ := foldlM_cons_inv turn
      intro before other inside
      rcases List.prefix_concat_iff.mp inside with same | earlier
      · obtain ⟨rfl, rfl⟩ := List.append_singleton_inj.mp same
        exact (last first).mp ⟨next, turn⟩
      · exact ih.mp ⟨s, first⟩ before other earlier
    · intro passes
      obtain ⟨s, first⟩ := ih.mpr fun before other inside =>
        passes before other (inside.trans (List.prefix_append _ _))
      obtain ⟨t, turn⟩ := (last first).mpr (passes nodes node (List.prefix_refl _))
      refine ⟨t, ?_⟩
      rw [first]
      exact foldlM_cons_ok turn

end

theorem baseLift_keeps {branch : Branch MbusBase} {s t : MbusState} {node : Node}
    (act : (baseLift branch).act s node = .ok t) : t.mem = s.mem ∧ t.pItem = s.pItem := by
  obtain ⟨base, -, rfl⟩ := Branch.lift_ok act
  exact ⟨rfl, rfl⟩

/-- Behind the common elements, it is enough that the last ones leave the points. -/
theorem tidy_of_base {cls : MbusClass} {base : List (Branch MbusBase)}
    {last : List (Branch MbusState)} (same : cls.others = base.map baseLift ++ last)
    (keeps : ∀ branch ∈ last, ∀ s node t, branch.act s node = .ok t → t.mem = s.mem) :
    cls.Tidy := by
  intro s node t turn
  rw [same] at turn
  refine chain_keeps (fun branch member _ act => ?_) turn
  rcases List.mem_append.mp member with lifted | own
  · obtain ⟨own, -, rfl⟩ := List.mem_map.mp lifted
    exact (baseLift_keeps act).1
  · exact keeps branch own s node t act

theorem itemBranch_keeps :
    ∀ branch ∈ [itemBranch], ∀ s node t, branch.act s node = .ok t → t.mem = s.mem := by
  intro branch item s node t act
  rw [List.mem_singleton.mp item] at act
  cases act
  rfl

/-- A class whose items give the devices. -/
structure MbusClass.Itemed (cls : MbusClass) : Prop where
  others : ∃ base : List (Branch MbusBase), cls.others = base.map baseLift ++ [itemBranch] ∧
    ∀ branch ∈ base, branch.name.toList.map Char.toLower ≠ "Item".toList.map Char.toLower
  points : ∀ rule ∈ cls.points, rule.name.toList.map Char.toLower ≠ "Item".toList.map Char.toLower

theorem MbusClass.Itemed.tidy {cls : MbusClass} (itemed : cls.Itemed) : cls.Tidy := by
  obtain ⟨base, same, -⟩ := itemed.others
  exact tidy_of_base same itemBranch_keeps

theorem rule?_named {cls : MbusClass} {node : Node} {rule : PointRule}
    (found : cls.rule? node = some rule) :
    rule ∈ cls.points ∧ node.named rule.name = true := by
  rw [MbusClass.rule?] at found
  have named := List.find?_some found
  exact ⟨List.mem_of_find?_eq_some found, named⟩

theorem turn_item {cls : MbusClass} (itemed : cls.Itemed) {s t : MbusState} {node : Node}
    (turn : cls.turn s node = .ok t) :
    t.pItem = if node.named "Item" then some node else s.pItem := by
  rw [MbusClass.turn] at turn
  cases found : cls.rule? node with
  | some rule =>
    obtain ⟨member, named⟩ := rule?_named found
    have other : node.named "Item" = false := named_apart named (itemed.points rule member)
    simp only [found] at turn
    rw [other]
    obtain ⟨mem, -, rfl⟩ := map_ok turn
    rfl
  | none =>
    simp only [found] at turn
    obtain ⟨base, same, apart⟩ := itemed.others
    rw [same] at turn
    by_cases item : node.named "Item" = true
    · rw [chain_append] at turn
      · have here : node.named itemBranch.name = true := item
        rw [chain, if_pos here] at turn
        cases turn
        rw [if_pos item]
      · intro branch member
        obtain ⟨own, inside, rfl⟩ := List.mem_map.mp member
        apply named_apart item
        exact (apart own inside).symm
    · rw [if_neg item]
      refine chain_keeps (fun branch member named act => ?_) turn
      rcases List.mem_append.mp member with lifted | last
      · obtain ⟨own, -, rfl⟩ := List.mem_map.mp lifted
        exact (baseLift_keeps act).2
      · rw [List.mem_singleton.mp last] at named
        exact absurd named item

theorem turns_item {cls : MbusClass} (itemed : cls.Itemed) {s t : MbusState} {nodes : List Node}
    (run : nodes.foldlM cls.turn s = .ok t) : t.pItem = (lastItem nodes).or s.pItem := by
  induction nodes generalizing s with
  | nil =>
    cases run
    rfl
  | cons node rest ih =>
    obtain ⟨next, turn, later⟩ := foldlM_cons_inv run
    rw [ih later, turn_item itemed turn, lastItem, Option.or_assoc]
    by_cases item : node.named "Item" = true
    · simp only [item, if_true, Option.some_or]
    · simp only [item, Bool.false_eq_true, if_false, Option.none_or]

theorem template_item {cls : MbusClass} (itemed : cls.Itemed) {t : MbusState} {heap : List MbusObj}
    {cell : Node} (run : cls.template heap cell = .ok t) : t.pItem = lastItem cell.children := by
  rw [turns_item itemed run]
  exact Option.or_none

/-- A slot that is configured belongs to a point of the class. -/
theorem configured_rule {cls : MbusClass} {nodes : List Node} {slot : Slot} {obj : MbusObj}
    (configured : cls.configured nodes slot = some obj) :
    ∃ rule ∈ cls.points, rule.slot = slot ∧ obj.localPoint = rule.localPoint := by
  induction nodes with
  | nil => contradiction
  | cons node rest ih =>
    rw [MbusClass.configured, Option.or_eq_some_iff] at configured
    rcases configured with later | ⟨-, here⟩
    · exact ih later
    · rw [MbusClass.given] at here
      cases found : cls.rule? node with
      | none => simp [found] at here
      | some rule =>
        simp only [found, PointRule.given] at here
        split at here
        · rename_i same
          obtain ⟨text, -, rfl⟩ := Option.map_eq_some_iff.mp here
          exact ⟨rule, (rule?_named found).1, same.symm, rfl⟩
        · contradiction

end HiMaxGateway.Xml
