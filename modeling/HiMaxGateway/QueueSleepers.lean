import HiMaxGateway.QueueTurns

/-! The threads that wait at a queue. One that gets is never forgotten. One that puts may be, after
a flush and after a put that found no memory. -/
namespace HiMaxGateway.Queue
open Cells SinglyLinked Waiters Run

variable {α : Type} {s : Settings α} {t : Threads α} {h h' : Hall α} {ev : Event α}
  {trace : List (Event α)}

namespace Phase

/-- A broadcast to the getting threads is to come, should the queue take no new elements. -/
def HeraldsGet : Phase α → Prop
  | .announcing | .broadcastGet => True
  | _ => False

def HeraldsPut : Phase α → Prop
  | .announcing | .broadcastGet | .broadcastPut => True
  | _ => False

instance : DecidablePred (GetterAwake (α := α))
  | .getting true => isTrue trivial
  | .getting false | .putting .. | .announcing | .broadcastGet | .broadcastPut => isFalse False.elim

instance : DecidablePred (PutterAwake (α := α))
  | .putting _ true => isTrue trivial
  | .putting _ false | .getting _ | .announcing | .broadcastGet | .broadcastPut =>
      isFalse False.elim

instance : DecidablePred (HeraldsGet (α := α))
  | .announcing | .broadcastGet => isTrue trivial
  | .putting .. | .getting _ | .broadcastPut => isFalse False.elim

instance : DecidablePred (HeraldsPut (α := α))
  | .announcing | .broadcastGet | .broadcastPut => isTrue trivial
  | .putting .. | .getting _ => isFalse False.elim

variable {p : Phase α}

theorem GetterAsleep.eq (asleep : p.GetterAsleep) : p = .getting false := by
  rcases p with (_ | _) | ⟨_, _⟩ | _ | _ | _ <;> first | rfl | exact asleep.elim

theorem PutterAsleep.eq (asleep : p.PutterAsleep) : ∃ el, p = .putting el false := by
  rcases p with _ | ⟨el, _ | _⟩ | _ | _ | _ <;> first | exact ⟨el, rfl⟩ | exact asleep.elim

theorem GetterAsleep.not_awake (asleep : p.GetterAsleep) : ¬p.GetterAwake := by
  rw [asleep.eq]
  exact id

theorem PutterAsleep.not_awake (asleep : p.PutterAsleep) : ¬p.PutterAwake := by
  obtain ⟨el, same⟩ := asleep.eq
  rw [same]
  exact id

@[simp] theorem woken_getterAsleep : ¬p.woken.GetterAsleep := by cases p <;> exact id

@[simp] theorem woken_putterAsleep : ¬p.woken.PutterAsleep := by cases p <;> exact id

@[simp] theorem woken_getterAwake : p.woken.GetterAwake ↔ p.GetterAsleep ∨ p.GetterAwake := by
  rcases p with (_ | _) | _ | _ | _ | _ <;> simp [woken, GetterAsleep, GetterAwake]

@[simp] theorem woken_putterAwake : p.woken.PutterAwake ↔ p.PutterAsleep ∨ p.PutterAwake := by
  rcases p with _ | ⟨_, _ | _⟩ | _ | _ | _ <;> simp [woken, PutterAsleep, PutterAwake]

@[simp] theorem woken_heraldsGet : p.woken.HeraldsGet ↔ p.HeraldsGet := by cases p <;> rfl

@[simp] theorem woken_heraldsPut : p.woken.HeraldsPut ↔ p.HeraldsPut := by cases p <;> rfl

@[simp] theorem wokenGetter_getterAsleep : ¬p.wokenGetter.GetterAsleep := by cases p <;> exact id

@[simp] theorem wokenGetter_putterAsleep : p.wokenGetter.PutterAsleep ↔ p.PutterAsleep := by
  cases p <;> rfl

@[simp] theorem wokenGetter_putterAwake : p.wokenGetter.PutterAwake ↔ p.PutterAwake := by
  cases p <;> rfl

@[simp] theorem wokenPutter_putterAsleep : ¬p.wokenPutter.PutterAsleep := by cases p <;> exact id

@[simp] theorem wokenPutter_getterAsleep : p.wokenPutter.GetterAsleep ↔ p.GetterAsleep := by
  cases p <;> rfl

@[simp] theorem wokenPutter_getterAwake : p.wokenPutter.GetterAwake ↔ p.GetterAwake := by
  cases p <;> rfl

@[simp] theorem wokenPutter_heraldsGet : p.wokenPutter.HeraldsGet ↔ p.HeraldsGet := by
  cases p <;> rfl

end Phase

open Phase

section Comes

variable {asleep awake : Phase α → Prop} [DecidablePred awake] {p : Phase α} {work : Nat}
  {room others : Multiset (Phase α)}

theorem comes_past (covered : Covered asleep awake work room) (comes : Comes p room others)
    (other : ¬awake p) :
    Covered asleep awake work others := by
  rcases comes with rfl | rfl
  · exact covered
  · exact covered.leaves other

theorem comes_served (covered : Covered asleep awake (work + 1) room)
    (comes : Comes p room others) :
    Covered asleep awake work others := by
  rcases comes with rfl | rfl
  · exact covered.mono (Nat.le_succ work)
  · exact covered.served

end Comes

theorem announced {asleep awake : Phase α → Prop} [DecidablePred awake] {work v : Nat}
    {rest : Multiset (Phase α)} (covered : Covered asleep awake work rest)
    (other : ¬asleep .broadcastGet) :
    Covered asleep awake work (if v = 0 then .broadcastGet ::ₘ rest else rest) := by
  split
  · exact covered.joins other
  · exact covered

theorem none_after {asleep : Phase α → Prop} {p : Phase α} {f : Phase α → Phase α}
    {rest : Multiset (Phase α)} (other : ¬asleep p) (none_ : ∀ r ∈ rest, ¬asleep (f r)) :
    ∀ r ∈ p ::ₘ rest.map f, ¬asleep r :=
  Multiset.forall_mem_cons.mpr ⟨other, Multiset.forall_mem_map_iff.mpr none_⟩

/-- A getting thread sleeps only while those that were woken suffice for all elements. -/
theorem Turn.getters (turn : Turn h ev h')
    (covered : Covered GetterAsleep GetterAwake h.entries.length h.room) :
    Covered GetterAsleep GetterAwake h'.entries.length h'.room := by
  cases turn with
  | accepts a accepting roomy comes signal =>
    rw [inserted_length]
    exact (comes_past covered comes id).signal (by simp +contextual)
      (fun _ => GetterAsleep.not_awake) signal
  | refuses failed comes => exact comes_past covered comes id
  | gives some_ comes signal =>
    rw [some_, List.length_cons] at covered
    exact (comes_served covered comes).other signal (by simp +contextual) (by simp)
  | givesNothing failed empty =>
    rw [empty]
    exact covered_zero
  | putterSleeps accepting full comes => exact (comes_past covered comes id).joins id
  | getterSleeps accepting empty =>
    rw [empty]
    exact covered_zero
  | wakesUp room =>
    rw [room] at covered
    exact covered.moves (by simp +contextual) (by simp)
  | flush => exact covered_zero
  | setNewData v => exact covered.joins id
  | announces room =>
    rw [room] at covered
    exact announced (covered.leaves id) id
  | broadcastsGet room => exact covered_of_none (none_after id fun _ _ => wokenGetter_getterAsleep)
  | broadcastsPut room =>
    rw [room] at covered
    exact (covered.leaves id).map (by simp) (by simp)

/-- If the queue takes no new elements and a getting thread sleeps, a broadcast is to come. -/
theorem Turn.getTold (turn : Turn h ev h')
    (told : h.settings.new_data = 0 → Covered GetterAsleep HeraldsGet 1 h.room)
    (closed : h'.settings.new_data = 0) :
    Covered GetterAsleep HeraldsGet 1 h'.room := by
  cases turn with
  | accepts a accepting | putterSleeps accepting | getterSleeps accepting =>
    exact absurd closed accepting
  | refuses failed comes => exact comes_past (told closed) comes id
  | gives some_ comes signal =>
    exact (comes_past (told closed) comes id).other signal (by simp) (by simp)
  | givesNothing failed empty comes => exact comes_past (told closed) comes id
  | wakesUp room =>
    have told := told closed
    rw [room] at told
    exact told.moves (by simp) (by simp)
  | flush => exact told closed
  | setNewData v => exact covered_one (Multiset.mem_cons_self _ _) trivial
  | announces room =>
    rw [if_pos closed]
    exact covered_one (Multiset.mem_cons_self _ _) trivial
  | broadcastsGet room => exact covered_of_none (none_after id fun _ _ => wokenGetter_getterAsleep)
  | broadcastsPut room =>
    have told := told closed
    rw [room] at told
    exact (told.leaves id).map (by simp) (by simp)

theorem Turn.putTold (turn : Turn h ev h')
    (told : h.settings.new_data = 0 → Covered PutterAsleep HeraldsPut 1 h.room)
    (closed : h'.settings.new_data = 0) :
    Covered PutterAsleep HeraldsPut 1 h'.room := by
  cases turn with
  | accepts a accepting | putterSleeps accepting | getterSleeps accepting =>
    exact absurd closed accepting
  | refuses failed comes => exact comes_past (told closed) comes id
  | gives some_ comes signal =>
    exact (comes_past (told closed) comes id).other signal (by simp) (by simp)
  | givesNothing failed empty comes => exact comes_past (told closed) comes id
  | wakesUp room =>
    have told := told closed
    rw [room] at told
    exact told.moves (by simp) (by simp)
  | flush => exact told closed
  | setNewData v => exact covered_one (Multiset.mem_cons_self _ _) trivial
  | announces room =>
    rw [if_pos closed]
    exact covered_one (Multiset.mem_cons_self _ _) trivial
  | broadcastsGet room => exact covered_one (Multiset.mem_cons_self _ _) trivial
  | broadcastsPut room =>
    exact covered_of_none (Multiset.forall_mem_map_iff.mpr fun _ _ => wokenPutter_putterAsleep)

/-- No flush, no put without memory, and the queue is not opened again. -/
def Event.Gentle : Event α → Prop
  | .flush _ => False
  | .put _ code => code ≠ .mem
  | .newData v => v = 0
  | _ => True

/-- While elements may come, a putting thread sleeps only while those that were woken suffice for
all free places. -/
theorem Turn.putters (turn : Turn h ev h') (gentle : ev.Gentle)
    (covered : h.settings.new_data ≠ 0 →
      Covered PutterAsleep PutterAwake (h.settings.capacity - h.entries.length) h.room)
    (accepting : h'.settings.new_data ≠ 0) :
    Covered PutterAsleep PutterAwake (h'.settings.capacity - h'.entries.length) h'.room := by
  cases turn with
  | accepts a _ roomy comes signal =>
    have covered := covered accepting
    rw [inserted_length]
    by_cases more : h.entries.length < h.settings.capacity
    · rw [show h.settings.capacity - h.entries.length = h.settings.capacity -
        (h.entries.length + 1) + 1 by omega] at covered
      exact (comes_served covered comes).other signal (by simp +contextual) (by simp)
    · rw [show h.settings.capacity - (h.entries.length + 1) = 0 by omega]
      exact covered_zero
  | refuses failed comes why =>
    obtain memory | closed | ⟨-, same⟩ := why
    · exact absurd memory gentle
    · exact absurd closed accepting
    · exact same ▸ covered accepting
  | gives some_ comes signal =>
    have covered := covered accepting
    rw [some_, List.length_cons] at covered
    refine ((comes_past covered comes id).signal ?_ (fun _ => PutterAsleep.not_awake) signal).mono
      ?_
    · simp +contextual
    · dsimp only
      omega
  | givesNothing failed empty comes => exact comes_past (covered accepting) comes id
  | putterSleeps _ full =>
    rw [Hall.full] at full
    rw [full, Nat.sub_self]
    exact covered_zero
  | getterSleeps _ empty comes => exact (comes_past (covered accepting) comes id).joins id
  | wakesUp room =>
    have covered := covered accepting
    rw [room] at covered
    exact covered.moves (by simp +contextual) (by simp)
  | flush => exact gentle.elim
  | setNewData v => exact absurd gentle accepting
  | announces room =>
    have covered := covered accepting
    rw [room] at covered
    exact announced (covered.leaves id) id
  | broadcastsGet room =>
    have covered := covered accepting
    rw [room] at covered
    exact ((covered.leaves id).map (by simp) (by simp)).joins id
  | broadcastsPut room =>
    exact covered_of_none (Multiset.forall_mem_map_iff.mpr fun _ _ => wokenPutter_putterAsleep)

theorem run_getters (turned : Reaches Turn (hall s) trace h) :
    Covered GetterAsleep GetterAwake h.entries.length h.room :=
  invariant (fun h => Covered GetterAsleep GetterAwake h.entries.length h.room) covered_zero
    (fun _ _ _ covered turn => turn.getters covered) turned

theorem run_getTold (turned : Reaches Turn (hall s) trace h) :
    h.settings.new_data = 0 → Covered GetterAsleep HeraldsGet 1 h.room :=
  invariant (fun h => h.settings.new_data = 0 → Covered GetterAsleep HeraldsGet 1 h.room)
    (fun _ => covered_of_none (by simp [hall])) (fun _ _ _ told turn => turn.getTold told) turned

theorem run_putTold (turned : Reaches Turn (hall s) trace h) :
    h.settings.new_data = 0 → Covered PutterAsleep HeraldsPut 1 h.room :=
  invariant (fun h => h.settings.new_data = 0 → Covered PutterAsleep HeraldsPut 1 h.room)
    (fun _ => covered_of_none (by simp [hall])) (fun _ _ _ told turn => turn.putTold told) turned

theorem run_putters (turned : Reaches Turn (hall s) trace h) (gentle : ∀ ev ∈ trace, ev.Gentle) :
    h.settings.new_data ≠ 0 → Covered PutterAsleep PutterAwake (s.capacity - h.entries.length)
      h.room := by
  induction turned with
  | start => exact fun _ => covered_of_none (by simp [hall])
  | step turned turn ih =>
    have before := ih fun ev member => gentle ev (List.mem_append_left _ member)
    have after := turn.putters (gentle _ (by simp))
    rw [run_capacity turned, run_capacity (turned.step turn)] at after
    exact after before

/-- While a thread that gets an element sleeps, there are not more elements than threads woken to
take one. If the queue takes no new elements, the thread is about to be told. -/
theorem sleeping_getter_attended (s : Settings α) (reached : Reaches Step (start s) trace t)
    (sleeps : .getting false ∈ t.room) :
    queue_elements t.queue ≤ t.room.countP GetterAwake ∧
      (t.queue.new_data = 0 → ∃ p ∈ t.room, p.HeraldsGet) := by
  obtain ⟨h, turned, matched⟩ := run_turns (matches_start s) reached
  rw [queue_elements, matched.holds.num, matched.settings, matched.room]
  rw [matched.room] at sleeps
  exact ⟨run_getters turned ⟨_, sleeps, trivial⟩,
    fun closed => Multiset.countP_pos.mp (run_getTold turned closed ⟨_, sleeps, trivial⟩)⟩

theorem getter_alone :
    ∃ t, Reaches Step (start ({} : Settings Nat)) [.internal] t ∧ t.room = {.getting false} :=
  ⟨_, .step .start (.getWaits rfl), rfl⟩

theorem sleeping_getter_attended_alone :
    ∃ t, Reaches Step (start ({} : Settings Nat)) [.internal] t ∧
      queue_elements t.queue ≤ t.room.countP GetterAwake := by
  obtain ⟨t, reached, room⟩ := getter_alone
  exact ⟨t, reached, (sleeping_getter_attended {} reached (by simp [room])).1⟩

/-- In a run without flush, without a failed allocation, and that does not open the queue again, a
thread that puts an element sleeps only while there are not more free places than threads woken to
fill one. If the queue takes no new elements, the thread is about to be told. -/
theorem sleeping_putter_attended (s : Settings α) (reached : Reaches Step (start s) trace t)
    (gentle : ∀ ev ∈ trace, ev.Gentle) {el : α} (sleeps : .putting el false ∈ t.room) :
    (t.queue.new_data ≠ 0 → s.capacity - queue_elements t.queue ≤ t.room.countP PutterAwake) ∧
      (t.queue.new_data = 0 → ∃ p ∈ t.room, p.HeraldsPut) := by
  obtain ⟨h, turned, matched⟩ := run_turns (matches_start s) reached
  rw [queue_elements, matched.holds.num, matched.settings, matched.room]
  rw [matched.room] at sleeps
  exact ⟨fun accepting => run_putters turned gentle accepting ⟨_, sleeps, trivial⟩,
    fun closed => Multiset.countP_pos.mp (run_putTold turned closed ⟨_, sleeps, trivial⟩)⟩

/-- Two threads wait at a full queue, and a third takes its element. -/
theorem two_putters_one_get : ∃ t,
    Reaches Step (start ({ max_els := 1 } : Settings Nat))
      [.put 7 .ok, .internal, .internal, .get .ok (some 7)] t ∧
    t.queue.new_data ≠ 0 ∧ queue_elements t.queue = 0 ∧
    t.room = {.putting 8 true, .putting 9 false} := by
  have asleep : (Phase.putting 8 false).PutterAsleep := trivial
  exact ⟨_, .step
    (.step
      (.step
        (.step .start (.put false (fresh_some (a := 0) rfl) rfl (signals_nobody (by simp) _)))
        (.putWaits (show queue_put_internal _ 9 true none = some .waits from rfl)))
      (.putWaits (show queue_put_internal _ 8 true none = some .waits from rfl)))
    (.get false rfl (show Signal _ _ _ _ from .wakes asleep)), by decide, rfl, rfl⟩

theorem sleeping_putter_attended_alone : ∃ t,
    Reaches Step (start ({ max_els := 1 } : Settings Nat))
      [.put 7 .ok, .internal, .internal, .get .ok (some 7)] t ∧ queue_elements t.queue = 0 ∧
    1 ≤ t.room.countP PutterAwake := by
  obtain ⟨t, reached, accepting, empty, room⟩ := two_putters_one_get
  have attended := sleeping_putter_attended { max_els := 1 } reached (by simp [Event.Gentle])
    (show Phase.putting 9 false ∈ t.room by simp [room])
  have free := attended.1 accepting
  rw [empty] at free
  exact ⟨t, reached, empty, free⟩

theorem still_count {asleep awake : Phase α → Prop} [DecidablePred awake]
    {room : Multiset (Phase α)} {work : Nat} (covered : Covered asleep awake work room)
    (slept : ∃ p ∈ room, asleep p) (still : ∀ p ∈ room, ¬awake p) :
    work = 0 := by
  have bound := covered slept
  rw [Multiset.countP_eq_zero.mpr still] at bound
  exact Nat.le_zero.mp bound

/-- In such a run threads never wait for each other in vain: if all threads that are in the middle
of a call sleep, then the queue takes new elements, and all of them get from an empty queue, or all
of them put to a full one. -/
theorem sleepers_wait_for_others (s : Settings α) (reached : Reaches Step (start s) trace t)
    (gentle : ∀ ev ∈ trace, ev.Gentle) (still : ∀ p ∈ t.room, p.GetterAsleep ∨ p.PutterAsleep)
    (someone : t.room ≠ 0) :
    t.queue.new_data ≠ 0 ∧
      ((∀ p ∈ t.room, p.GetterAsleep) ∧ queue_elements t.queue = 0 ∨
        (∀ p ∈ t.room, p.PutterAsleep) ∧ queue_elements t.queue = s.capacity) := by
  obtain ⟨h, turned, matched⟩ := run_turns (matches_start s) reached
  rw [queue_elements, matched.holds.num, matched.settings, matched.room]
  rw [matched.room] at still someone
  have nobody : ∀ p ∈ h.room, ¬p.GetterAwake ∧ ¬p.PutterAwake ∧ ¬p.HeraldsGet ∧ ¬p.HeraldsPut := by
    intro p member
    rcases still p member with slept | slept
    · rw [slept.eq]
      exact ⟨id, id, id, id⟩
    · obtain ⟨el, same⟩ := slept.eq
      rw [same]
      exact ⟨id, id, id, id⟩
  have accepting : h.settings.new_data ≠ 0 := by
    intro closed
    obtain ⟨p, member⟩ := Multiset.exists_mem_of_ne_zero someone
    rcases still p member with slept | slept
    · have none_ :=
        still_count (run_getTold turned closed) ⟨p, member, slept⟩ fun r inside =>
        (nobody r inside).2.2.1
      contradiction
    · have none_ :=
        still_count (run_putTold turned closed) ⟨p, member, slept⟩ fun r inside =>
        (nobody r inside).2.2.2
      contradiction
  have empty (getter : ∃ p ∈ h.room, p.GetterAsleep) : h.entries.length = 0 :=
    still_count (run_getters turned) getter fun r inside => (nobody r inside).1
  have full (putter : ∃ p ∈ h.room, p.PutterAsleep) : h.entries.length = s.capacity := by
    have none_ :=
      still_count (run_putters turned gentle accepting) putter fun r inside => (nobody r inside).2.1
    have fits := matched.fits
    rw [run_capacity turned] at fits
    omega
  have apart : ¬((∃ p ∈ h.room, p.GetterAsleep) ∧ ∃ p ∈ h.room, p.PutterAsleep) := by
    rintro ⟨getter, putter⟩
    have positive := capacity_positive s
    rw [← full putter, empty getter] at positive
    exact Nat.lt_irrefl 0 positive
  refine ⟨accepting, ?_⟩
  by_cases getter : ∃ p ∈ h.room, p.GetterAsleep
  · refine .inl ⟨fun p member => (still p member).resolve_right fun slept => ?_, empty getter⟩
    exact apart ⟨getter, p, member, slept⟩
  · have putters : ∀ p ∈ h.room, p.PutterAsleep := fun p member =>
      (still p member).resolve_left fun slept => getter ⟨p, member, slept⟩
    obtain ⟨p, member⟩ := Multiset.exists_mem_of_ne_zero someone
    exact .inr ⟨putters, full ⟨p, member, putters p member⟩⟩

theorem sleepers_wait_for_others_alone :
    ∃ t, Reaches Step (start ({} : Settings Nat)) [.internal] t ∧ t.queue.new_data ≠ 0 := by
  obtain ⟨t, reached, room⟩ := getter_alone
  have waits :=
    sleepers_wait_for_others {} reached (by simp [Event.Gentle]) (by simp [room, GetterAsleep])
      (by simp [room])
  exact ⟨t, reached, waits.1⟩

end HiMaxGateway.Queue
