import HiMaxGateway.Xml.Node

/-! The chains `if (!xmlStrcasecmp (node->name, ..)) .. else if ..` of the parsers, and where they
stop. -/
namespace HiMaxGateway.Xml
open CText Turns

/-- What a parser does without a content, and with which texts the process ends. -/
structure Use where
  null : Option (Stop Fault) := none
  refused : Text → Bool := fun _ => false

/-- A place of the document that is read. -/
inductive Visit where
  | content (use : Use) (node : Node)
  | attr (refused : Text → Bool) (value : Option Text)

def Visit.stop : Visit → Option (Stop Fault)
  | .content use node =>
      match node.getContent with
      | .error stop => some stop
      | .ok none => use.null
      | .ok (some text) => if use.refused text then some .exits else none
  | .attr refused (some value) => if refused value then some .exits else none
  | .attr _ none => none

/-- One branch of a chain. Whether it goes on depends on the document alone. -/
structure Branch (σ : Type) where
  name : String
  act : σ → Node → Parse σ
  visits : Node → List Visit
  sound : ∀ s node, stop? (act s node) = (visits node).findSome? Visit.stop

variable {σ τ : Type}

/-- `if .. else if ..` over the name of the node. -/
def chain : List (Branch σ) → σ → Node → Parse σ
  | [], s, _ => .ok s
  | branch :: rest, s, node =>
      if node.named branch.name then branch.act s node else chain rest s node

/-- Places by the name of the element. -/
abbrev Places := List (String × (Node → List Visit))

def look : Places → Node → List Visit
  | [], _ => []
  | (name, visits) :: rest, node => if node.named name then visits node else look rest node

def visits (branches : List (Branch σ)) : Node → List Visit :=
  look (branches.map fun branch => (branch.name, branch.visits))

theorem chain_stop (branches : List (Branch σ)) (s : σ) (node : Node) :
    stop? (chain branches s node) = (visits branches node).findSome? Visit.stop := by
  induction branches with
  | nil => rfl
  | cons branch rest ih =>
    rw [chain, visits, List.map_cons, look]
    split
    · exact branch.sound s node
    · exact ih

/-- What every branch carries along, the chain carries along. -/
theorem chain_carried {branches : List (Branch σ)} {f : σ → σ}
    (carries : ∀ branch ∈ branches, ∀ s node, branch.act (f s) node = (branch.act s node).map f)
    (s : σ) (node : Node) : chain branches (f s) node = (chain branches s node).map f := by
  induction branches with
  | nil => rfl
  | cons branch rest ih =>
    obtain ⟨here, later⟩ := List.forall_mem_cons.mp carries
    rw [chain, chain]
    split
    · exact here s node
    · exact ih later

/-- What no branch changes, the chain does not change. -/
theorem chain_keeps {branches : List (Branch σ)} {view : σ → τ} {s t : σ} {node : Node}
    (keeps : ∀ branch ∈ branches, node.named branch.name = true →
      branch.act s node = .ok t → view t = view s)
    (turn : chain branches s node = .ok t) : view t = view s := by
  induction branches with
  | nil =>
    cases turn
    rfl
  | cons branch rest ih =>
    obtain ⟨here, later⟩ := List.forall_mem_cons.mp keeps
    rw [chain] at turn
    split at turn
    · rename_i named
      exact here named turn
    · exact ih later turn

theorem chain_append {first : List (Branch σ)} {node : Node}
    (others : ∀ branch ∈ first, node.named branch.name = false) (second : List (Branch σ)) (s : σ) :
    chain (first ++ second) s node = chain second s node := by
  induction first with
  | nil => rfl
  | cons branch rest ih =>
    obtain ⟨here, later⟩ := List.forall_mem_cons.mp others
    rw [List.cons_append, chain, here]
    exact ih later

/-- The loop over the siblings stops at the first place that does. -/
theorem chains_stop (branches : List (Branch σ)) (s : σ) (nodes : List Node) :
    stop? (nodes.foldlM (chain branches) s) =
      (nodes.flatMap (visits branches)).findSome? Visit.stop := by
  rw [stop_foldlM (chain_stop branches)]
  induction nodes with
  | nil => rfl
  | cons node rest ih =>
    rw [List.flatMap_cons, List.findSome?_append, ← ih, List.findSome?_cons]
    cases (visits branches node).findSome? Visit.stop <;> rfl

namespace Branch

/-- A content is used. -/
def content (name : String) (use : Use) (set : σ → Text → σ) : Branch σ where
  name := name
  act s node := node.read (match use.null with | none => .ok s | some stop => .error stop)
    fun text => if use.refused text then .error .exits else .ok (set s text)
  visits node := [.content use node]
  sound s node := by
    rw [List.findSome?_singleton, Visit.stop, Node.read]
    cases node.getContent with
    | error stop => rfl
    | ok content =>
      cases content with
      | none => cases use.null <;> rfl
      | some text =>
        by_cases refused : use.refused text = true
        · simp only [refused, if_true, stop?_error]
        · simp only [refused, Bool.false_eq_true, if_false, stop?_ok]

/-- A content is used, or there is none and the branch goes on. -/
theorem content_ok {name : String} {use : Use} {set : σ → Text → σ} {s t : σ} {node : Node}
    (act : (content name use set).act s node = .ok t) :
    (∃ text, node.content? = some text ∧ use.refused text = false ∧ t = set s text) ∨
      (node.content? = none ∧ use.null = none ∧ t = s) := by
  simp only [content, Node.read, Node.getContent] at act
  rw [Node.content?]
  cases first : node.children with
  | nil => simp [first] at act
  | cons child rest =>
    simp only [first] at act
    rw [List.head?_cons, Option.bind_some]
    cases found : child.content with
    | none =>
      simp only [found] at act
      cases null : use.null with
      | none =>
        simp only [null] at act
        cases act
        exact .inr ⟨rfl, rfl, rfl⟩
      | some stop => simp [null] at act
    | some text =>
      simp only [found] at act
      split at act
      · contradiction
      · rename_i taken
        cases act
        exact .inl ⟨text, rfl, Bool.eq_false_iff.mpr taken, rfl⟩

/-- `strtol` of a content; a number out of range ends the process where it is checked for. -/
def number (name : String) (checked : Bool) (set : σ → Int → σ) : Branch σ :=
  content name { refused := fun text => checked && outOfRange text } fun s text =>
    set s (Xml.number text)

/-- An attribute with a number. -/
structure Attr (σ : Type) where
  name : String
  checked : Bool
  set : σ → Int → σ

def Attr.turn (node : Node) (s : σ) (attr : Attr σ) : Parse σ :=
  match node.prop attr.name with
  | some value =>
      if attr.checked && outOfRange value then .error .exits
        else .ok (attr.set s (Xml.number value))
  | none => .ok s

def Attr.visit (node : Node) (attr : Attr σ) : Visit :=
  .attr (fun value => attr.checked && outOfRange value) (node.prop attr.name)

theorem Attr.turn_stop (node : Node) (s : σ) (attr : Attr σ) :
    stop? (attr.turn node s) = (attr.visit node).stop := by
  rw [Attr.turn, Attr.visit]
  cases node.prop attr.name with
  | none => rfl
  | some value =>
    by_cases refused : (attr.checked && outOfRange value) = true
    · simp only [Visit.stop, refused, if_true, stop?_error]
    · simp only [Visit.stop, refused, Bool.false_eq_true, if_false, stop?_ok]

/-- An element with elements in it. -/
def element (name : String) (attrs : List (Attr σ)) (enter : σ → Node → σ)
    (branches : List (Branch σ)) (leave : σ → Node → σ) : Branch σ where
  name := name
  act s node := do
    let s ← attrs.foldlM (Attr.turn node) (enter s node)
    let s ← node.children.foldlM (chain branches) s
    return leave s node
  visits node := attrs.map (Attr.visit node) ++ node.children.flatMap (Xml.visits branches)
  sound s node := by
    have ends (s : σ) : stop? (pure (leave s node) : Parse σ) = none := rfl
    have within (s : σ) : stop? (node.children.foldlM (chain branches) s >>= fun s =>
        return leave s node) = (node.children.flatMap (Xml.visits branches)).findSome?
            Visit.stop := by
      rw [stop?_bind ends, Option.or_none, chains_stop]
    rw [stop?_bind within, stop_foldlM (Attr.turn_stop node), List.findSome?_append,
      List.findSome?_map]
    rfl

/-- A branch on a part of the state. -/
def lift (get : σ → τ) (set : σ → τ → σ) (branch : Branch τ) : Branch σ where
  name := branch.name
  act s node := (branch.act (get s) node).map (set s)
  visits := branch.visits
  sound s node := by
    rw [← branch.sound (get s) node]
    cases branch.act (get s) node <;> rfl

theorem element_ok {name : String} {enter leave : σ → Node → σ} {branches : List (Branch σ)}
    {s t : σ} {node : Node} (act : (element name [] enter branches leave).act s node = .ok t) :
    ∃ last, node.children.foldlM (chain branches) (enter s node) = .ok last ∧
      t = leave last node := by
  simp only [element, List.foldlM_nil, pure_bind] at act
  obtain ⟨last, run, ends⟩ := bind_ok act
  exact ⟨last, run, (Except.ok.inj ends).symm⟩

theorem lift_ok {get : σ → τ} {set : σ → τ → σ} {branch : Branch τ} {s t : σ} {node : Node}
    (act : (branch.lift get set).act s node = .ok t) :
    ∃ part, branch.act (get s) node = .ok part ∧ t = set s part :=
  map_ok act

/-- Setting a content keeps what the setter keeps. -/
theorem content_keeps {name : String} {use : Use} {set : σ → Text → σ} {view : σ → τ}
    (keeps : ∀ s text, view (set s text) = view s) {s t : σ} {node : Node}
    (act : (content name use set).act s node = .ok t) : view t = view s := by
  rcases content_ok act with ⟨text, -, -, rfl⟩ | ⟨-, -, rfl⟩
  · exact keeps s text
  · rfl

end Branch

end HiMaxGateway.Xml
