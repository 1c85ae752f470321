import Mathlib.Data.List.TakeWhile
import HiMaxGateway.Xml.Template

/-! The point elements of a Modbus cell in other orders. -/
namespace HiMaxGateway.Xml
open CText Turns

section Points

variable {cls : MbusClass}

namespace MbusClass

def isPoint (cls : MbusClass) (node : Node) : Bool := (cls.rule? node).isSome

/-- The point elements change places among themselves. -/
structure Reordered (cls : MbusClass) (nodes others : List Node) : Prop where
  perm : nodes.Perm others
  fixed : List.Forall₂ (fun a b => a = b ∨ (cls.isPoint a = true ∧ cls.isPoint b = true)) nodes
    others

def run (cls : MbusClass) (heap : List MbusObj) (nodes : List Node) : Parse MbusState :=
  nodes.foldlM cls.turn (cls.init heap)

/-- The points that were parsed, if the parser got through. -/
def parsed (cls : MbusClass) (heap : List MbusObj) (nodes : List Node) :
    Option (Slot → Option MbusObj) :=
  (cls.run heap nodes).toOption.map fun s => s.mem.get

/-- In every order, no missing point is read and the points are the same. -/
structure AnyOrder (cls : MbusClass) (heap : List MbusObj) (cell : Node) : Prop where
  created :
    ∀ others, cls.Reordered cell.children others → cls.run heap others ≠ .error (.faults .point)
  same : ∀ others, cls.Reordered cell.children others →
    cls.parsed heap others = cls.parsed heap cell.children

/-- A point element that creates what its log line reads. -/
def LogsOwn (cls : MbusClass) (node : Node) : Prop :=
  ∀ rule, cls.rule? node = some rule →
    rule.logged = rule.slot ∧ (lastText "DataPoint" node.children).isSome = true

/-- The parser stops before it comes to a point. -/
def StopsBefore (cls : MbusClass) (nodes : List Node) : Prop :=
  ∃ node ∈ nodes.takeWhile (fun node => !cls.isPoint node), cls.elementStop node ≠ none

/-- Elements for the same point have the same data point. -/
def Agree (cls : MbusClass) (nodes : List Node) : Prop :=
  ∀ one ∈ nodes, ∀ two ∈ nodes, ∀ slot x y,
    cls.given one slot = some x → cls.given two slot = some y → x = y

/-- Each point element reads its own point, and the elements agree. -/
structure OwnPoints (cls : MbusClass) (nodes : List Node) : Prop where
  logs : ∀ node ∈ nodes, cls.isPoint node = true → cls.elementStop node ≠ none ∨ cls.LogsOwn node
  agree : (∃ node ∈ nodes, cls.elementStop node ≠ none) ∨ cls.Agree nodes

/-- No element stops as a log line does. -/
def Mild (cls : MbusClass) : Prop := ∀ node, cls.elementStop node ≠ some (.faults .point)

end MbusClass

section

variable {s t : MbusState} {nodes : List Node} {heap : List MbusObj}

/-- An element that creates what it reads goes on. -/
theorem turn_goes {node : Node} (valid : s.mem.Valid) (passes : cls.elementStop node = none)
    (logs : cls.isPoint node = true → cls.LogsOwn node) : ∃ t, cls.turn s node = .ok t := by
  refine (turn_passes_iff valid).mpr ⟨passes, fun rule found => ?_⟩
  obtain ⟨own, present⟩ := logs (by rw [MbusClass.isPoint, found]; rfl) rule found
  obtain ⟨text, here⟩ := Option.isSome_iff_exists.mp present
  simp [MbusClass.given, found, PointRule.given, own, here]

/-- The loop stops at the first element that does. -/
theorem turns_stop (tidy : cls.Tidy) (valid : s.mem.Valid)
    (safe : ∀ node ∈ nodes, cls.isPoint node = true → cls.elementStop node ≠ none ∨
    cls.LogsOwn node) :
    stop? (nodes.foldlM cls.turn s) = nodes.findSome? cls.elementStop := by
  induction nodes generalizing s with
  | nil => rfl
  | cons node rest ih =>
    obtain ⟨here, later⟩ := List.forall_mem_cons.mp safe
    rw [List.findSome?_cons]
    cases stops : cls.elementStop node with
    | some stop => rw [foldlM_cons_error (turn_stops stops), stop?_error]
    | none =>
      have logs : cls.isPoint node = true → cls.LogsOwn node := by
        intro point
        exact (here point).resolve_left (by simp [stops])
      obtain ⟨next, turn⟩ := turn_goes valid stops logs
      rw [foldlM_cons_ok turn]
      exact ih (turn_creates tidy valid turn).valid later

theorem parsed_stops {stop : Stop Fault} (run : cls.run heap nodes = .error stop) :
    cls.parsed heap nodes = none := by
  rw [MbusClass.parsed, run]
  rfl

theorem parsed_ok (tidy : cls.Tidy) (run : cls.run heap nodes = .ok t) :
    cls.parsed heap nodes = some (cls.configured nodes) := by
  have creates := turns_create tidy (init_valid heap) run
  have get : t.mem.get = cls.configured nodes := by
    funext slot
    rw [creates.get]
    exact Option.or_none
  rw [MbusClass.parsed, run, ← get]
  rfl

end

section

variable {slot : Slot} {x : MbusObj} {nodes : List Node}

theorem isPoint_of_given {node : Node} (given : cls.given node slot = some x) :
    cls.isPoint node = true := by
  rw [MbusClass.given] at given
  rw [MbusClass.isPoint]
  cases found : cls.rule? node with
  | none => simp [found] at given
  | some rule => rfl

/-- Behind the last element that gives a point, none does. -/
theorem configured_last (configured : cls.configured nodes slot = some x) :
    ∃ before node after, nodes = before ++ node :: after ∧ cls.given node slot = some x ∧
      cls.configured after slot = none := by
  induction nodes with
  | nil => contradiction
  | cons node rest ih =>
    rw [MbusClass.configured, Option.or_eq_some_iff] at configured
    rcases configured with later | ⟨free, here⟩
    · obtain ⟨before, last, after, rfl, given, free⟩ := ih later
      exact ⟨node :: before, last, after, rfl, given, free⟩
    · exact ⟨[], node, rest, rfl, here, free⟩

theorem given_none (configured : cls.configured nodes slot = none) :
    ∀ node ∈ nodes, cls.given node slot = none := by
  induction nodes with
  | nil =>
    intro node member
    contradiction
  | cons node rest ih =>
    rw [MbusClass.configured, Option.or_eq_none_iff] at configured
    exact List.forall_mem_cons.mpr ⟨configured.2, ih configured.1⟩

theorem configured_none (free : ∀ node ∈ nodes, cls.given node slot = none) :
    cls.configured nodes slot = none := by
  induction nodes with
  | nil => rfl
  | cons node rest ih =>
    obtain ⟨here, later⟩ := List.forall_mem_cons.mp free
    rw [MbusClass.configured, here, ih later]
    rfl

/-- Where the elements agree, their order does not count. -/
theorem configured_perm {others : List Node} (agree : cls.Agree nodes) (perm : nodes.Perm others) :
    cls.configured others = cls.configured nodes := by
  funext slot
  cases mine : cls.configured nodes slot with
  | none =>
    apply configured_none
    intro node member
    exact given_none mine node (perm.mem_iff.mpr member)
  | some x =>
    obtain ⟨before, node, after, same, given, -⟩ := configured_last mine
    have inside : node ∈ nodes := by simp [same]
    cases theirs : cls.configured others slot with
    | none => rw [given_none theirs node (perm.mem_iff.mp inside)] at given; contradiction
    | some y =>
      obtain ⟨_, other, _, same, gives, -⟩ := configured_last theirs
      have member : other ∈ others := by simp [same]
      rw [agree node inside other (perm.mem_iff.mpr member) slot x y given gives]

end

namespace MbusClass.Reordered

variable {nodes others : List Node}

theorem refl (nodes : List Node) : cls.Reordered nodes nodes where
  perm := .refl _
  fixed := List.forall₂_same.mpr fun _ _ => .inl rfl

theorem swap {e f : Node} (left : cls.isPoint e = true) (right : cls.isPoint f = true)
    (l m r : List Node) : cls.Reordered (l ++ e :: (m ++ f :: r)) (l ++ f :: (m ++ e :: r)) where
  perm := by
    apply List.Perm.append_left
    calc e :: (m ++ f :: r)
      List.Perm _ (e :: f :: (m ++ r)) := .cons e List.perm_middle
      List.Perm _ (f :: e :: (m ++ r)) := .swap f e _
      List.Perm _ (f :: (m ++ e :: r)) := .cons f List.perm_middle.symm
  fixed := by
    have same (xs : List Node) := (@refl cls xs).fixed
    refine List.rel_append (same l) (.cons (.inr ⟨left, right⟩) ?_)
    exact List.rel_append (same m) (.cons (.inr ⟨right, left⟩) (same r))

/-- What stands before the points stays. -/
theorem before (reordered : cls.Reordered nodes others) :
    others.takeWhile (fun node => !cls.isPoint node) = nodes.takeWhile fun node =>
      !cls.isPoint node := by
  obtain ⟨-, fixed⟩ := reordered
  induction fixed with
  | nil => rfl
  | cons here _ ih =>
    rcases here with rfl | ⟨left, right⟩
    · rw [List.takeWhile_cons, List.takeWhile_cons, ih]
    · simp only [List.takeWhile_cons, left, right, Bool.not_true, Bool.false_eq_true, if_false]

/-- Each point element can be the first one. -/
theorem first {p : Node} (member : p ∈ nodes) (point : cls.isPoint p = true) :
    ∃ rest, cls.Reordered nodes (nodes.takeWhile (fun node => !cls.isPoint node) ++ p :: rest) := by
  induction nodes with
  | nil => contradiction
  | cons node rest ih =>
    rw [List.takeWhile_cons]
    cases kind : cls.isPoint node with
    | true =>
      rcases List.mem_cons.mp member with rfl | later
      · exact ⟨rest, refl _⟩
      · obtain ⟨m, r, rfl⟩ := List.append_of_mem later
        exact ⟨m ++ node :: r, swap kind point [] m r⟩
    | false =>
      rcases List.mem_cons.mp member with rfl | later
      · rw [kind] at point
        contradiction
      · obtain ⟨more, reordered⟩ := ih later
        exact ⟨more, reordered.perm.cons node, .cons (.inl rfl) reordered.fixed⟩

/-- Each element that gives a point can be the last that gives it. -/
theorem last {e : Node} {slot : Slot} {x : MbusObj} (member : e ∈ nodes)
    (given : cls.given e slot = some x) :
    ∃ others, cls.Reordered nodes others ∧ cls.configured others slot = some x := by
  cases mine : cls.configured nodes slot with
  | none =>
    rw [given_none mine e member] at given
    contradiction
  | some y =>
    obtain ⟨before, f, after, rfl, gives, free⟩ := configured_last mine
    rcases List.mem_append.mp member with earlier | later
    · obtain ⟨l, m, rfl⟩ := List.append_of_mem earlier
      refine ⟨l ++ f :: (m ++ e :: after), ?_, ?_⟩
      · have swapped := swap (isPoint_of_given given) (isPoint_of_given gives) l m after
        rw [List.append_assoc]
        exact swapped
      · rw [← List.cons_append, ← List.append_assoc, configured_append, MbusClass.configured, free,
          given]
        rfl
    · rcases List.mem_cons.mp later with rfl | behind
      · rw [← given, gives, ← mine]
        exact ⟨_, refl _, rfl⟩
      · rw [given_none free e behind] at given
        contradiction

end MbusClass.Reordered

namespace MbusClass

variable {heap : List MbusObj} {cell : Node} {nodes : List Node}

/-- Up to the first point, the loop stops as the elements do. -/
theorem before_stop (tidy : cls.Tidy) (heap : List MbusObj) (nodes : List Node) :
    stop? (cls.run heap (nodes.takeWhile fun node => !cls.isPoint node)) =
      (nodes.takeWhile fun node => !cls.isPoint node).findSome? cls.elementStop := by
  apply turns_stop tidy (init_valid heap)
  intro node member point
  have other := List.mem_takeWhile_imp member
  rw [point] at other
  contradiction

theorem run_append (heap : List MbusObj) (first second : List Node) :
    cls.run heap (first ++ second) = cls.run heap first >>= fun s => second.foldlM cls.turn s :=
  List.foldlM_append

theorem StopsBefore.run (tidy : cls.Tidy) (mild : cls.Mild) (stops : cls.StopsBefore nodes) :
    ∃ stop, cls.run heap nodes = .error stop ∧ stop ≠ .faults .point := by
  obtain ⟨node, member, stops⟩ := stops
  have before := before_stop tidy heap nodes
  cases found : (nodes.takeWhile fun node => !cls.isPoint node).findSome? cls.elementStop with
  | none =>
    rw [List.findSome?_eq_none_iff] at found
    exact absurd (found node member) stops
  | some stop =>
    obtain ⟨where_, -, here⟩ := List.exists_of_findSome?_eq_some found
    rw [found] at before
    refine ⟨stop, ?_, ?_⟩
    · rw [← List.takeWhile_append_dropWhile (l := nodes) (p := fun node => !cls.isPoint node),
        run_append]
      rw [stop?_eq_some.mp before]
      rfl
    · rintro rfl
      exact mild where_ here

theorem parsed_free (tidy : cls.Tidy) (free : ∀ node ∈ nodes, cls.elementStop node = none)
    (same : stop? (cls.run heap nodes) = nodes.findSome? cls.elementStop) :
    cls.parsed heap nodes = some (cls.configured nodes) := by
  rw [List.findSome?_eq_none_iff.mpr free] at same
  obtain ⟨t, run⟩ := stop?_eq_none.mp same
  exact parsed_ok tidy run

/-- The points are read where they were created, and do not depend on the order. -/
theorem AnyOrder.of_own (tidy : cls.Tidy) (mild : cls.Mild) (own : cls.OwnPoints cell.children) :
    cls.AnyOrder heap cell := by
  have stops {others : List Node} (reordered : cls.Reordered cell.children others) :
      stop? (cls.run heap others) = others.findSome? cls.elementStop := by
    apply turns_stop tidy (init_valid heap)
    intro node member
    exact own.logs node (reordered.perm.mem_iff.mpr member)
  constructor
  · intro others reordered faults
    have here := stops reordered
    rw [faults, stop?_error, eq_comm] at here
    obtain ⟨node, -, found⟩ := List.exists_of_findSome?_eq_some here
    exact mild node found
  · intro others reordered
    have mine := stops (.refl cell.children)
    have theirs := stops reordered
    by_cases any : ∃ node ∈ cell.children, cls.elementStop node ≠ none
    · -- That element stops the parser wherever it stands.
      obtain ⟨node, member, stops⟩ := any
      have ends {nodes : List Node} (member : node ∈ nodes)
          (same : stop? (cls.run heap nodes) = nodes.findSome? cls.elementStop) :
          cls.parsed heap nodes = none := by
        cases run : cls.run heap nodes with
        | error stop => exact parsed_stops run
        | ok t =>
          rw [run, stop?_ok, eq_comm, List.findSome?_eq_none_iff] at same
          exact absurd (same node member) stops
      rw [ends member mine, ends (reordered.perm.mem_iff.mp member) theirs]
    · have free : ∀ node ∈ cell.children, cls.elementStop node = none := by
        intro node member
        by_contra stops
        exact any ⟨node, member, stops⟩
      have same := configured_perm (own.agree.resolve_left any) reordered.perm
      rw [parsed_free tidy free mine, ← same]
      apply parsed_free tidy _ theirs
      intro node member
      exact free node (reordered.perm.mem_iff.mpr member)

/-- Up to the first point, nothing is created. -/
theorem before_empty {s : MbusState} (tidy : cls.Tidy)
    (run : cls.run heap (nodes.takeWhile fun node => !cls.isPoint node) = .ok s) :
    s.mem.Valid ∧ ∀ slot, s.mem.get slot = none := by
  have entered := turns_create tidy (init_valid heap) run
  refine ⟨entered.valid, fun slot => ?_⟩
  rw [entered.get, configured_none]
  · rfl
  · intro other inside
    have kind := List.mem_takeWhile_imp inside
    cases given : cls.given other slot with
    | none => rfl
    | some x =>
      rw [isPoint_of_given given] at kind
      contradiction

/-- An element that can be the first point reads its own point. -/
theorem AnyOrder.logs (tidy : cls.Tidy) (any : cls.AnyOrder heap cell)
    (starts : ¬ cls.StopsBefore cell.children) {node : Node} (member : node ∈ cell.children)
    (passes : cls.elementStop node = none) : cls.LogsOwn node := by
  intro rule found
  have point : cls.isPoint node = true := by
    rw [isPoint, found]
    rfl
  obtain ⟨rest, reordered⟩ := Reordered.first member point
  have created := any.created _ reordered
  have before := before_stop tidy heap cell.children
  have free :
      (cell.children.takeWhile fun node => !cls.isPoint node).findSome? cls.elementStop = none := by
    rw [List.findSome?_eq_none_iff]
    intro other inside
    by_contra stops
    exact starts ⟨other, inside, stops⟩
  rw [free] at before
  rw [run_append] at created
  obtain ⟨s, first⟩ := stop?_eq_none.mp before
  rw [first] at created
  obtain ⟨valid, empty⟩ := before_empty tidy first
  obtain ⟨mem, creates, turn⟩ := turn_point found valid passes
  cases pointer : mem.points rule.logged with
  | none =>
    rw [pointer] at turn
    exact absurd (foldlM_cons_error turn) created
  | some p =>
    have there : mem.get rule.logged ≠ none := by
      rw [Ne, ← creates.valid.points_none, pointer]
      simp
    rw [creates.get, empty, Option.or_none] at there
    simp only [given, found, PointRule.given] at there
    split at there
    · rename_i same
      refine ⟨same, ?_⟩
      rw [Option.isSome_iff_ne_none]
      rintro missing
      rw [missing] at there
      exact there rfl
    · exact absurd rfl there

/-- Each element that gives a point gives the one that the cell has. -/
theorem AnyOrder.agree (tidy : cls.Tidy) (any : cls.AnyOrder heap cell)
    (logs : ∀ node ∈ cell.children, cls.isPoint node = true →
      cls.elementStop node ≠ none ∨ cls.LogsOwn node)
    (free : ∀ node ∈ cell.children, cls.elementStop node = none) : cls.Agree cell.children := by
  intro one left two right slot x y givenOne givenTwo
  have parsed {others : List Node} (reordered : cls.Reordered cell.children others) :
      cls.parsed heap others = some (cls.configured others) := by
    apply parsed_free tidy
    · intro node member
      exact free node (reordered.perm.mem_iff.mpr member)
    · apply turns_stop tidy (init_valid heap)
      intro node member
      exact logs node (reordered.perm.mem_iff.mpr member)
  have settled {node : Node} {z : MbusObj} (member : node ∈ cell.children)
      (given : cls.given node slot = some z) : cls.configured cell.children slot = some z := by
    obtain ⟨others, reordered, last⟩ := Reordered.last member given
    have same := any.same others reordered
    rw [parsed reordered, parsed (.refl _)] at same
    rw [← last, Option.some.inj same]
  exact Option.some.inj ((settled left givenOne).symm.trans (settled right givenTwo))

/-- The parser does not come to the points. -/
theorem AnyOrder.of_stops (tidy : cls.Tidy) (mild : cls.Mild)
    (stops : cls.StopsBefore cell.children) :
    cls.AnyOrder heap cell := by
  have same {others : List Node} (reordered : cls.Reordered cell.children others) :
      cls.StopsBefore others := by
    rw [StopsBefore, reordered.before]
    exact stops
  obtain ⟨mine, run, -⟩ := StopsBefore.run tidy mild stops
  constructor
  · intro others reordered faults
    obtain ⟨stop, theirs, harmless⟩ := StopsBefore.run tidy mild (same reordered)
    rw [theirs] at faults
    exact harmless (Except.error.inj faults)
  · intro others reordered
    obtain ⟨stop, theirs, -⟩ := StopsBefore.run tidy mild (same reordered)
    rw [parsed_stops theirs, parsed_stops run]

theorem anyOrder_iff (tidy : cls.Tidy) (mild : cls.Mild) :
    cls.AnyOrder heap cell ↔ cls.StopsBefore cell.children ∨ cls.OwnPoints cell.children := by
  constructor
  · intro any
    by_cases starts : cls.StopsBefore cell.children
    · exact .inl starts
    · right
      have logs : ∀ node ∈ cell.children, cls.isPoint node = true →
          cls.elementStop node ≠ none ∨ cls.LogsOwn node := by
        intro node member _
        by_cases passes : cls.elementStop node = none
        · exact .inr (any.logs tidy starts member passes)
        · exact .inl passes
      refine ⟨logs, ?_⟩
      by_cases stops : ∃ node ∈ cell.children, cls.elementStop node ≠ none
      · exact .inl stops
      · right
        apply any.agree tidy logs
        intro node member
        by_contra here
        exact stops ⟨node, member, here⟩
  · rintro (stops | own)
    · exact .of_stops tidy mild stops
    · exact .of_own tidy mild own

end MbusClass

/-- No place of a branch stops as a log line does. -/
def Branch.Mild (branch : Branch σ) : Prop :=
  ∀ node, ∀ visit ∈ branch.visits node, visit.stop ≠ some (.faults .point)

theorem Branch.content_mild (name : String) {use : Use} (set : σ → Text → σ)
    (null : use.null ≠ some (.faults .point)) : (Branch.content name use set).Mild := by
  intro node visit member
  rw [List.mem_singleton.mp member, Visit.stop, Node.getContent]
  cases node.children with
  | nil => simp
  | cons child rest =>
    cases found : child.content with
    | none => simpa only [found] using null
    | some text =>
      by_cases refused : use.refused text = true
      · simp [found, refused]
      · simp [found, refused]

theorem visits_mild {branches : List (Branch σ)} (mild : ∀ branch ∈ branches, branch.Mild)
    (node : Node) :
    ∀ visit ∈ visits branches node, visit.stop ≠ some (.faults .point) := by
  induction branches with
  | nil =>
    intro visit member
    contradiction
  | cons branch rest ih =>
    obtain ⟨here, later⟩ := List.forall_mem_cons.mp mild
    rw [visits, List.map_cons, look]
    split
    · exact here node
    · exact ih later

theorem MbusClass.mild (points : ∀ rule ∈ cls.points, rule.null = none)
    (others : ∀ branch ∈ cls.others, branch.Mild) : cls.Mild := by
  intro node faults
  rw [elementStop] at faults
  cases found : cls.rule? node with
  | none =>
    simp only [found] at faults
    obtain ⟨visit, member, here⟩ := List.exists_of_findSome?_eq_some faults
    exact visits_mild others node visit member here
  | some rule =>
    simp only [found] at faults
    obtain ⟨visit, member, here⟩ := List.exists_of_findSome?_eq_some faults
    obtain ⟨child, -, inside⟩ := List.mem_flatMap.mp member
    refine visits_mild (fun branch single => ?_) child visit inside here
    rw [List.mem_singleton.mp single]
    apply Branch.content_mild
    simp [points rule (rule?_named found).1]

theorem baseBranches_mild (onlineYes : Bool) :
    ∀ branch ∈ baseBranches none onlineYes, branch.Mild := by
  intro branch member
  simp only [baseBranches, List.mem_cons, List.not_mem_nil, or_false] at member
  rcases member with rfl | rfl | rfl | rfl | rfl | rfl | rfl | rfl | rfl | rfl | rfl | rfl
  all_goals exact Branch.content_mild _ _ (by simp)

/-- Behind the common elements, it is enough to look at the last ones. -/
theorem mild_of_base {last : List (Branch MbusState)}
    (points : ∀ rule ∈ cls.points, rule.null = none)
    (same : cls.others = (baseBranches none false).map baseLift ++ last)
    (mild : ∀ branch ∈ last, branch.Mild) : cls.Mild := by
  apply MbusClass.mild points
  intro branch member
  rw [same] at member
  rcases List.mem_append.mp member with base | own
  · obtain ⟨common, inside, rfl⟩ := List.mem_map.mp base
    exact baseBranches_mild false common inside
  · exact mild branch own

theorem itemBranch_mild : itemBranch.Mild := by
  intro node visit member
  contradiction

/-- The keys of a device leave its points. -/
theorem keyElements_keep {mac : Text} :
    ∀ branch ∈ keyElements mac, ∀ s node t, branch.act s node = .ok t → t.mem = s.mem := by
  intro branch member s node t act
  simp only [keyElements, List.mem_cons, List.not_mem_nil, or_false] at member
  rcases member with rfl | rfl | rfl
  all_goals
    refine Branch.content_keeps ?_ act
    intro s text
    rfl

theorem keyElements_mild {mac : Text} : ∀ branch ∈ keyElements mac, branch.Mild := by
  intro branch member
  simp only [keyElements, List.mem_cons, List.not_mem_nil, or_false] at member
  rcases member with rfl | rfl | rfl
  all_goals exact Branch.content_mild _ _ (by simp)

end Points

inductive PointFunction where
  | parseMbusVentCfg
  | parseMbusHeatCfg
  | parseMbusAqiCfg
  | parseModbusHumidifierCfg
  | parseModbusPurifierCfg
  deriving DecidableEq, Repr

namespace PointFunction

def cls (mac : Text) : PointFunction → MbusClass
  | .parseMbusVentCfg => mbusVent
  | .parseMbusHeatCfg => mbusHeat
  | .parseMbusAqiCfg => mbusAqi
  | .parseModbusHumidifierCfg => mbusHumidifier mac
  | .parseModbusPurifierCfg => mbusPurifier mac

theorem null (mac : Text) (function : PointFunction) :
    ∀ rule ∈ (function.cls mac).points, rule.null = none := by
  cases function <;>
    simp [cls, mbusVent, mbusHeat, mbusAqi, itemClass, mbusHumidifier, mbusPurifier, deviceClass]

theorem others (mac : Text) (function : PointFunction) : ∃ last,
    (function.cls mac).others = (baseBranches none false).map baseLift ++ last ∧
      (last = [itemBranch] ∨ last = keyElements mac) := by
  cases function with
  | parseMbusVentCfg | parseMbusHeatCfg | parseMbusAqiCfg => exact ⟨_, rfl, .inl rfl⟩
  | parseModbusHumidifierCfg | parseModbusPurifierCfg => exact ⟨_, rfl, .inr rfl⟩

theorem tidy (mac : Text) (function : PointFunction) : (function.cls mac).Tidy := by
  obtain ⟨last, same, kind⟩ := function.others mac
  refine tidy_of_base same ?_
  rcases kind with rfl | rfl
  · exact itemBranch_keeps
  · exact keyElements_keep

theorem mild (mac : Text) (function : PointFunction) : (function.cls mac).Mild := by
  obtain ⟨last, same, kind⟩ := function.others mac
  refine mild_of_base (function.null mac) same ?_
  rcases kind with rfl | rfl
  · exact List.forall_mem_singleton.mpr itemBranch_mild
  · exact keyElements_mild

end PointFunction

/-- The order of the points does not count exactly when each reads its own, or none is reached. -/
theorem point_order_iff (function : PointFunction) (mac : Text) (heap : List MbusObj)
    (cell : Node) :
    (function.cls mac).AnyOrder heap cell ↔
      (function.cls mac).StopsBefore cell.children ∨ (function.cls mac).OwnPoints cell.children :=
  MbusClass.anyOrder_iff (function.tidy mac) (function.mild mac)

/-- A ventilation with a speed and a humidity. -/
def speedVent : Node := .element "Cell"
  [.element "Speed" [.element "DataPoint" [.text "2"]],
    .element "Humi" [.element "DataPoint" [.text "3"]]]

/-- With the humidity first, its log line reads the speed that is not there. -/
theorem humidity_first_faults :
    ¬ (PointFunction.parseMbusVentCfg.cls []).AnyOrder [] speedVent := by
  intro any
  have swapped : mbusVent.Reordered speedVent.children speedVent.children.reverse :=
    .swap (by decide) (by decide) [] [] []
  exact any.created _ swapped rfl

end HiMaxGateway.Xml
