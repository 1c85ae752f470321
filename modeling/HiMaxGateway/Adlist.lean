import HiMaxGateway.Lib.DoublyLinked

/-! The list of list.c: its header, its nodes and its iterator. A function that calls malloc
is given the answer of malloc; a function that reads or writes through a null pointer, or
through a pointer to a node that was freed, gives nothing. -/
namespace HiMaxGateway.Adlist
open Cells DoublyLinked

variable {β : Type}

/-- The function pointers of `list_t`. Of `freeMethod` only matters whether it is set. -/
structure Methods (β : Type) where
  dupMethod : Option (β → Option β) := none
  freeMethod : Bool := false
  matchMethod : Option (β → β → Bool) := none

structure ListT (β : Type) extends Methods β where
  head : Ptr := none
  tail : Ptr := none
  len : Nat := 0

structure State (β : Type) where
  heap : Heap (Node β)
  list : ListT β
  /-- The values given to the free method, in order. -/
  freed : List β := []

/-- What the free method, if there is one, is given of these values. -/
def released (m : Methods β) (values : List β) : List β := if m.freeMethod then values else []

def listCreate : ListT β := {}

def emptyLoop (m : Methods β) :
    (len : Nat) → Heap (Node β) → Ptr → List β → Option (Heap (Node β) × List β)
  | 0, heap, _, freed => some (heap, freed)
  | len + 1, heap, current, freed => do
      let node ← load heap current
      let heap ← Cells.free heap current
      emptyLoop m len heap node.next (freed ++ released m [node.value])

def listEmpty (s : State β) : Option (State β) := do
  let (heap, freed) ← emptyLoop s.list.toMethods s.list.len s.heap s.list.head s.freed
  some { heap, freed, list := { s.list with head := none, tail := none, len := 0 } }

/-- The answer tells whether the list pointer came back, and not NULL. -/
def listAddNodeHead (s : State β) (value : β) (node : Ptr) : Option (Bool × State β) :=
  match node with
  | none => some (false, s)
  | some a =>
      if s.list.len = 0 then
        some (true, { s with
          heap := put s.heap a ⟨none, none, value⟩
          list := { s.list with head := node, tail := node, len := s.list.len + 1 } })
      else do
        let heap ← setPrev (put s.heap a ⟨none, s.list.head, value⟩) s.list.head node
        some (true, { s with heap, list := { s.list with head := node, len := s.list.len + 1 } })

def listAddNodeTail (s : State β) (value : β) (node : Ptr) : Option (Bool × State β) :=
  match node with
  | none => some (false, s)
  | some a =>
      if s.list.len = 0 then
        some (true, { s with
          heap := put s.heap a ⟨none, none, value⟩
          list := { s.list with head := node, tail := node, len := s.list.len + 1 } })
      else do
        let heap ← setNext (put s.heap a ⟨s.list.tail, none, value⟩) s.list.tail node
        some (true, { s with heap, list := { s.list with tail := node, len := s.list.len + 1 } })

def listInsertNode (s : State β) (old_node : Ptr) (value : β) (after : Bool) (node : Ptr) :
    Option (Bool × State β) :=
  match node with
  | none => some (false, s)
  | some a => do
      let old ← load s.heap old_node
      let new : Node β := if after then ⟨old_node, old.next, value⟩ else ⟨old.prev, old_node, value⟩
      let head := if !after && s.list.head == old_node then node else s.list.head
      let tail := if after && s.list.tail == old_node then node else s.list.tail
      let heap ← linkNext (put s.heap a new) new.prev node
      let heap ← linkPrev heap new.next node
      some (true, { s with heap, list := { s.list with head, tail, len := s.list.len + 1 } })

def listDelNode (s : State β) (node : Ptr) : Option (State β) := do
  let old ← load s.heap node
  let heap ← linkNext s.heap old.prev old.next
  let head := if old.prev = none then old.next else s.list.head
  let heap ← linkPrev heap old.next old.prev
  let tail := if old.next = none then old.prev else s.list.tail
  let heap ← Cells.free heap node
  some {
    heap
    list := { s.list with head, tail, len := s.list.len - 1 }
    freed := s.freed ++ released s.list.toMethods [old.value] }

inductive Direction where
  | startHead
  | startTail
  deriving DecidableEq, Repr

structure ListIter where
  next : Ptr
  direction : Direction

def listRewind (list : ListT β) : ListIter := ⟨list.head, .startHead⟩

def listRewindTail (list : ListT β) : ListIter := ⟨list.tail, .startTail⟩

def listGetIterator (list : ListT β) (direction : Direction) : ListIter :=
  match direction with
  | .startHead => ⟨list.head, direction⟩
  | .startTail => ⟨list.tail, direction⟩

def listNext (heap : Heap (Node β)) (iter : ListIter) : Option (Ptr × ListIter) :=
  match iter.next with
  | none => some (none, iter)
  | some a => do
      let current ← heap a
      match iter.direction with
      | .startHead => some (some a, { iter with next := current.next })
      | .startTail => some (some a, { iter with next := current.prev })

/-- The loop that the comment of `listNext` describes. The visit tells whether it removes the
node it was given. -/
def eachNode {σ : Type} (visit : σ → β → σ × Bool) :
    (fuel : Nat) → σ → State β → ListIter → Option (σ × State β)
  | 0, _, _, _ => none
  | fuel + 1, t, s, iter => do
      let (node, iter) ← listNext s.heap iter
      match node with
      | none => some (t, s)
      | some a => do
          let current ← s.heap a
          let s ← if (visit t current.value).2 then listDelNode s node else some s
          eachNode visit fuel (visit t current.value).1 s iter

/-- The value of the copied node, if the dup method had one. -/
def dupValue (m : Methods β) (value : β) : Option β :=
  match m.dupMethod with
  | some dup => dup value
  | none => some value

/-- The loop of `listDup`. The list `nodes` holds the answers of malloc still to come; when it
is used up, malloc fails. The copy that is released has no list left. -/
def dupLoop : (fuel : Nat) → State β → ListIter → (nodes : List Ptr) → Option (Bool × State β)
  | 0, _, _, _ => none
  | fuel + 1, copy, iter, nodes => do
      let (node, iter) ← listNext copy.heap iter
      match node with
      | none => some (true, copy)
      | some a => do
          let old ← copy.heap a
          match dupValue copy.list.toMethods old.value with
          | none => do
              let copy ← listEmpty copy
              some (false, copy)
          | some value => do
              let (added, copy) ← listAddNodeTail copy value (nodes.head?.getD none)
              if added then
                dupLoop fuel copy iter nodes.tail
              else do
                let copy ← listEmpty
                  { copy with freed := copy.freed ++ released copy.list.toMethods [value] }
                some (false, copy)

/-- `created` is the header that listCreate gave, if malloc had room for it. -/
def listDup (fuel : Nat) (heap : Heap (Node β)) (orig : ListT β) (created : Bool) (nodes : List Ptr)
    (freed : List β) : Option (Bool × State β) :=
  if created then
    dupLoop fuel { heap, list := { orig.toMethods with }, freed } (listRewind orig) nodes
  else some (false, { heap, list := {}, freed })

/-- The test of `listSearchKey`. -/
def matching [DecidableEq β] (m : Methods β) (value key : β) : Bool :=
  match m.matchMethod with
  | some same => same value key
  | none => key == value

def searchLoop [DecidableEq β] (heap : Heap (Node β)) (list : ListT β) (key : β) :
    (fuel : Nat) → ListIter → Option Ptr
  | 0, _ => none
  | fuel + 1, iter => do
      let (node, iter) ← listNext heap iter
      match node with
      | none => some none
      | some a => do
          let current ← heap a
          if matching list.toMethods current.value key then some node
          else searchLoop heap list key fuel iter

def listSearchKey [DecidableEq β] (fuel : Nat) (heap : Heap (Node β)) (list : ListT β) (key : β) :
    Option Ptr :=
  searchLoop heap list key fuel (listRewind list)

def indexLoop (heap : Heap (Node β)) (towards : Node β → Ptr) : (index : Nat) → Ptr → Option Ptr
  | 0, n => some n
  | _ + 1, none => some none
  | index + 1, some a => do
      let node ← heap a
      indexLoop heap towards index (towards node)

/-- A `long` whose negative is one too. -/
abbrev Index := { index : Int // -2147483648 < index ∧ index < 2147483648 }

def listIndex (heap : Heap (Node β)) (list : ListT β) (index : Index) : Option Ptr :=
  if index.1 < 0 then indexLoop heap (·.prev) ((-index.1) - 1).toNat list.tail
  else indexLoop heap (·.next) index.1.toNat list.head

def listRotateTailToHead (s : State β) : Option (State β) :=
  if s.list.len ≤ 1 then some s
  else do
    let tail := s.list.tail
    let last ← load s.heap tail
    let heap ← setNext s.heap last.prev none
    let heap ← setPrev heap s.list.head tail
    let heap ← setPrev heap tail none
    let heap ← setNext heap tail s.list.head
    some { s with heap, list := { s.list with head := tail, tail := last.prev } }

def listRotateHeadToTail (s : State β) : Option (State β) :=
  if s.list.len ≤ 1 then some s
  else do
    let head := s.list.head
    let first ← load s.heap head
    let heap ← setPrev s.heap first.next none
    let heap ← setNext heap s.list.tail head
    let heap ← setNext heap head none
    let heap ← setPrev heap head s.list.tail
    some { s with heap, list := { s.list with head := first.next, tail := head } }

def listJoin (heap : Heap (Node β)) (l o : ListT β) : Option (Heap (Node β) × ListT β × ListT β) :=
  if o.len = 0 then some (heap, l, o)
  else do
    let heap ← setPrev heap o.head l.tail
    let heap ← linkNext heap l.tail o.head
    let head := if l.tail = none then o.head else l.head
    some (heap, { l with head, tail := o.tail, len := l.len + o.len },
      { o with head := none, tail := none, len := 0 })

end HiMaxGateway.Adlist
