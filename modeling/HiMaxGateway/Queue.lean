import HiMaxGateway.Lib.SinglyLinked

/-! The queue of queue.c and queue_internal.c. The functions here run with the mutex held.
Where they wait on a condition, the run ends with `waits`, and the thread goes on from there
when the wait is over. A run through a null pointer or a freed element gives nothing. -/
namespace HiMaxGateway.Queue
open Cells SinglyLinked

variable {α : Type}

/-- `UINTX_MAX` of the 16-bit build. -/
def uintxMax : Nat := 65535

inductive Code where
  | ok
  | invalid
  | lock
  | mem
  | noNewData
  | invalidElement
  | numElements
  deriving DecidableEq, Repr

def Code.toInt : Code → Int
  | .ok => 0
  | .invalid => -1
  | .lock => -2
  | .mem => -3
  | .noNewData => -4
  | .invalidElement => -5
  | .numElements => -7

/-- The fields of `queue_t` that no put or get changes. -/
structure Settings (α : Type) where
  max_els : Nat := 0
  new_data : Nat := 1
  sort : Bool := false
  asc_order : Bool := true
  cmp_el : α → α → Int := fun _ _ => 0

structure QueueT (α : Type) extends Settings α where
  first_el : Ptr := none
  last_el : Ptr := none
  num_els : Nat := 0
  heap : Heap (Node α) := empty

def queue_create : QueueT α := {}

def queue_create_limited (max_elements : Nat) : QueueT α := { max_els := max_elements }

def queue_create_sorted (asc : Bool) (cmp : α → α → Int) : QueueT α :=
  { sort := true, asc_order := asc, cmp_el := cmp }

def queue_create_limited_sorted (max_elements : Nat) (asc : Bool) (cmp : α → α → Int) : QueueT α :=
  { max_els := max_elements, sort := true, asc_order := asc, cmp_el := cmp }

/-- The condition under which `queue_put_internal` has no room. -/
def QueueT.full (q : QueueT α) : Bool :=
  q.num_els == uintxMax - 1 || (q.max_els != 0 && q.num_els == q.max_els)

/-- The test that ends the search for a place between `s` and `t`. -/
def between (q : Settings α) (s el t : α) : Bool :=
  (q.asc_order && decide (q.cmp_el s el ≤ 0) && decide (q.cmp_el el t ≤ 0)) ||
    (!q.asc_order && decide (q.cmp_el s el ≥ 0) && decide (q.cmp_el el t ≥ 0))

/-- The element goes in front of the first one. -/
def before (q : Settings α) (first el : α) : Bool :=
  (q.asc_order && decide (q.cmp_el first el ≥ 0)) ||
    (!q.asc_order && decide (q.cmp_el first el ≤ 0))

/-- The `for` loop of `queue_put_internal`, from the node `s` on. -/
def searchPlace (q : QueueT α) (el : α) : (fuel : Nat) → (s : Ptr) → (t : Ptr) → Option (Ptr × Ptr)
  | 0, _, _ => none
  | fuel + 1, s, t =>
      match t with
      | none => some (s, t)
      | some _ => do
          let here ← load q.heap s
          let next ← load q.heap t
          if between q.toSettings here.value el next.value then some (s, t)
          else searchPlace q el fuel t next.next

/-- What `queue_put_internal` does once malloc gave it the element at `new_el`. -/
def insertElement (q : QueueT α) (el : α) (new_el : Addr) : Option (QueueT α) := do
  let heap := put q.heap new_el ⟨none, el⟩
  let q ←
    if !q.sort || q.first_el == none then
      if q.last_el = none then
        some { q with heap, first_el := some new_el, last_el := some new_el }
      else do
        let heap ← setNext heap q.last_el (some new_el)
        some { q with heap, last_el := some new_el }
    else do
      let s ← load heap q.first_el
      if before q.toSettings s.value el then do
        let heap ← setNext heap (some new_el) q.first_el
        some { q with heap, first_el := some new_el }
      else do
        let (s, t) ← searchPlace { q with heap } el q.num_els q.first_el s.next
        let heap ← setNext heap s (some new_el)
        let heap ← setNext heap (some new_el) t
        some { q with heap, last_el := if t = none then some new_el else q.last_el }
  some { q with num_els := (q.num_els + 1) % (uintxMax + 1) }

/-- How a function under the mutex comes to its end, or to a wait. -/
inductive Outcome (α : Type) where
  | returns (code : Code) (q : QueueT α) (e : Option α)
  | waits

/-- From the allocation of the element on. -/
def allocate (q : QueueT α) (el : α) (new_el : Ptr) : Option (Outcome α) :=
  match new_el with
  | none => some (.returns .mem q none)
  | some a => do
      let q ← insertElement q el a
      some (.returns .ok q none)

def queue_put_internal (q : QueueT α) (el : α) (action : Bool) (new_el : Ptr) :
    Option (Outcome α) :=
  if q.new_data = 0 then some (.returns .noNewData q none)
  else if q.full then
    if action then some .waits else some (.returns .numElements q none)
  else allocate q el new_el

/-- A putting thread goes on from its wait, at the test of the `while` loop. -/
def putAgain (q : QueueT α) (el : α) (new_el : Ptr) : Option (Outcome α) :=
  if q.full && q.new_data != 0 then some .waits
  else if q.new_data = 0 then some (.returns .noNewData q none)
  else allocate q el new_el

/-- The `while` loop of `queue_get_internal`: the element that the test accepts, and the one
before it. Without a test the first element is taken. -/
def findElement (heap : Heap (Node α)) (cmp : Option (Node α → Bool)) :
    (fuel : Nat) → (el_prev : Ptr) → (el : Ptr) → Option (Ptr × Ptr)
  | 0, _, _ => none
  | fuel + 1, el_prev, el =>
      match cmp, el with
      | none, _ => some (el_prev, el)
      | some _, none => some (el_prev, el)
      | some accepts, some a => do
          let node ← heap a
          if accepts node then some (el_prev, el)
          else findElement heap cmp fuel el node.next

/-- From the search for the element on. -/
def takeElement (q : QueueT α) (cmp : Option (Node α → Bool)) : Option (Outcome α) := do
  let (el_prev, el) ← findElement q.heap cmp (q.num_els + 1) none q.first_el
  if el = none then some (.returns .invalidElement q none)
  else do
    let node ← load q.heap el
    let num_els := (q.num_els + uintxMax) % (uintxMax + 1)
    if el_prev = none then do
      let heap ← free q.heap el
      some (.returns .ok { q with
        heap, num_els, first_el := node.next
        last_el := if node.next = none then none else q.last_el } (some node.value))
    else do
      let heap ← setNext q.heap el_prev node.next
      let heap ← free heap el
      some (.returns .ok { q with heap, num_els } (some node.value))

def queue_get_internal (q : QueueT α) (action : Bool) (cmp : Option (Node α → Bool)) :
    Option (Outcome α) :=
  if q.num_els = 0 then
    if action then
      if q.new_data ≠ 0 then some .waits else some (.returns .noNewData q none)
    else some (.returns .numElements q none)
  else takeElement q cmp

/-- A getting thread goes on from its wait, at the test of the `while` loop. -/
def getAgain (q : QueueT α) (cmp : Option (Node α → Bool)) : Option (Outcome α) :=
  if q.num_els = 0 && q.new_data != 0 then some .waits
  else if q.num_els = 0 && q.new_data == 0 then some (.returns .noNewData q none)
  else takeElement q cmp

def flushLoop : (fuel : Nat) → Heap (Node α) → Ptr → List α → Option (Heap (Node α) × List α)
  | 0, _, _, _ => none
  | fuel + 1, heap, qe, data =>
      match qe with
      | none => some (heap, data)
      | some a => do
          let node ← heap a
          let heap ← free heap qe
          flushLoop fuel heap node.next (data ++ [node.value])

/-- The elements come back as the values that the caller may have had freed. -/
def queue_flush_internal (q : QueueT α) : Option (QueueT α × List α) := do
  let (heap, data) ← flushLoop (q.num_els + 1) q.heap q.first_el []
  some ({ q with heap, first_el := none, last_el := none, num_els := 0 }, data)

def queue_empty (q : QueueT α) : Bool := q.first_el == none || q.last_el == none

def queue_elements (q : QueueT α) : Nat := q.num_els

def queue_put (q : QueueT α) (el : α) (new_el : Ptr) : Option (Outcome α) :=
  queue_put_internal q el false new_el

def queue_put_wait (q : QueueT α) (el : α) (new_el : Ptr) : Option (Outcome α) :=
  queue_put_internal q el true new_el

def queue_get (q : QueueT α) : Option (Outcome α) := queue_get_internal q false none

def queue_get_wait (q : QueueT α) : Option (Outcome α) := queue_get_internal q true none

def queue_get_filtered (q : QueueT α) (cmp : Node α → Bool) : Option (Outcome α) :=
  queue_get_internal q false (some cmp)

def queue_flush_put (q : QueueT α) (e : α) (new_el : Ptr) : Option (Outcome α) := do
  let (q, _) ← queue_flush_internal q
  queue_put_internal q e false new_el

/-- The part of `queue_set_new_data` under the mutex. -/
def queue_set_new_data (q : QueueT α) (v : Nat) : QueueT α := { q with new_data := v }

end HiMaxGateway.Queue
