import HiMaxGateway.QueueProofs
import HiMaxGateway.Lib.Waiters
import HiMaxGateway.Lib.Run
import Mathlib.Data.Multiset.MapFold

/-! Any number of threads in `queue_put`, `queue_put_wait`, `queue_get`, `queue_get_wait`,
`queue_flush` and `queue_set_new_data` of one queue. What a thread does with the mutex held is one
step; it lets go of the mutex where it waits on a condition and where it returns. The gateway never
calls `queue_get_filtered`, after which a put can fault. `KnxDestroy` and `ModbusDestroy` call
`queue_destroy`, which frees the queue itself; a run here ends before that. -/
namespace HiMaxGateway.Queue
open Cells SinglyLinked Waiters

variable {α : Type}

/-- A thread in the middle of a call: asleep or woken in a wait, or in `queue_set_new_data` after
it gave the mutex back, at its test, its first or its second broadcast. -/
inductive Phase (α : Type) where
  | getting (awake : Bool)
  | putting (el : α) (awake : Bool)
  | announcing
  | broadcastGet
  | broadcastPut

namespace Phase

def GetterAsleep : Phase α → Prop
  | .getting false => True
  | _ => False

def GetterAwake : Phase α → Prop
  | .getting true => True
  | _ => False

def PutterAsleep : Phase α → Prop
  | .putting _ false => True
  | _ => False

def PutterAwake : Phase α → Prop
  | .putting _ true => True
  | _ => False

def woken : Phase α → Phase α
  | .getting _ => .getting true
  | .putting el _ => .putting el true
  | p => p

def wokenGetter : Phase α → Phase α
  | .getting _ => .getting true
  | p => p

def wokenPutter : Phase α → Phase α
  | .putting el _ => .putting el true
  | p => p

end Phase

/-- What a thread can tell of a step. -/
inductive Event (α : Type) where
  | put (el : α) (code : Code)
  | get (code : Code) (e : Option α)
  | flush (data : List α)
  | newData (v : Nat)
  | internal

structure Threads (α : Type) where
  queue : QueueT α
  room : Multiset (Phase α)

/-- The signal at the end of a call that succeeded. -/
def Signals (code : Code) (asleep : Phase α → Prop) (room room' : Multiset (Phase α)) : Prop :=
  if code = .ok then Signal asleep Phase.woken room room' else room' = room

/-- Malloc gives no address that is in use. -/
def Fresh (q : QueueT α) (new_el : Ptr) : Prop := ∀ a, new_el = some a → q.heap a = none

theorem fresh_some {q : QueueT α} {a : Addr} (free : q.heap a = none) : Fresh q (some a) := by
  rintro b ⟨⟩
  exact free

theorem signals_nobody {asleep : Phase α → Prop} {room : Multiset (Phase α)}
    (none_ : ∀ p ∈ room, ¬asleep p) (code : Code) : Signals code asleep room room := by
  rw [Signals]
  split
  · exact .lost none_
  · rfl

inductive Step {α : Type} : Threads α → Event α → Threads α → Prop where
  | put (action : Bool) : Fresh q new_el →
      queue_put_internal q el action new_el = some (.returns code q' e) →
      Signals code Phase.GetterAsleep room room' → Step ⟨q, room⟩ (.put el code) ⟨q', room'⟩
  | putWaits : queue_put_internal q el true new_el = some .waits →
      Step ⟨q, room⟩ .internal ⟨q, .putting el false ::ₘ room⟩
  | putAgain : Fresh q new_el → putAgain q el new_el = some (.returns code q' e) →
      Signals code Phase.GetterAsleep rest room' →
      Step ⟨q, .putting el true ::ₘ rest⟩ (.put el code) ⟨q', room'⟩
  | putAgainWaits : Queue.putAgain q el new_el = some .waits →
      Step ⟨q, .putting el true ::ₘ rest⟩ .internal ⟨q, .putting el false ::ₘ rest⟩
  | get (action : Bool) : queue_get_internal q action none = some (.returns code q' e) →
      Signals code Phase.PutterAsleep room room' → Step ⟨q, room⟩ (.get code e) ⟨q', room'⟩
  | getWaits : queue_get_internal q true none = some .waits →
      Step ⟨q, room⟩ .internal ⟨q, .getting false ::ₘ room⟩
  | getAgain : getAgain q none = some (.returns code q' e) →
      Signals code Phase.PutterAsleep rest room' →
      Step ⟨q, .getting true ::ₘ rest⟩ (.get code e) ⟨q', room'⟩
  | getAgainWaits : Queue.getAgain q none = some .waits →
      Step ⟨q, .getting true ::ₘ rest⟩ .internal ⟨q, .getting false ::ₘ rest⟩
  | wakesUp : Step ⟨q, p ::ₘ rest⟩ .internal ⟨q, p.woken ::ₘ rest⟩
  | flush : queue_flush_internal q = some (q', data) → Step ⟨q, room⟩ (.flush data) ⟨q', room⟩
  | setNewData (v : Nat) :
      Step ⟨q, room⟩ (.newData v) ⟨queue_set_new_data q v, .announcing ::ₘ room⟩
  | announces : Step ⟨q, .announcing ::ₘ rest⟩ .internal
      ⟨q, if q.new_data = 0 then .broadcastGet ::ₘ rest else rest⟩
  | broadcastsGet : Step ⟨q, .broadcastGet ::ₘ rest⟩ .internal
      ⟨q, .broadcastPut ::ₘ rest.map Phase.wokenGetter⟩
  | broadcastsPut : Step ⟨q, .broadcastPut ::ₘ rest⟩ .internal ⟨q, rest.map Phase.wokenPutter⟩

def start (s : Settings α) : Threads α := ⟨{ s with }, 0⟩

end HiMaxGateway.Queue
