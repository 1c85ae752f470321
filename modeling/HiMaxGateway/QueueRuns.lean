import HiMaxGateway.QueueProofs

/-! Runs of calls on one queue, one after another. -/
namespace HiMaxGateway.Queue
open Cells SinglyLinked

variable {α : Type}

inductive Call (α : Type) where
  | put (el : α) (new_el : Ptr)
  | get
  | getFiltered (cmp : Node α → Bool)
  | flush
  | flushPut (el : α) (new_el : Ptr)
  | setNewData (v : Nat)

/-- What a call gives back: its code and its element. -/
abbrev Answer (α : Type) := Code × Option α

/-- None of these calls waits. -/
def finished (out : Option (Outcome α)) : Option (Answer α × QueueT α) := do
  match ← out with
  | .returns code q e => some ((code, e), q)
  | .waits => none

def exec (q : QueueT α) : Call α → Option (Answer α × QueueT α)
  | .put el new_el => finished (queue_put q el new_el)
  | .get => finished (queue_get q)
  | .getFiltered cmp => finished (queue_get_filtered q cmp)
  | .flush => do
      let (q, _) ← queue_flush_internal q
      some ((.ok, none), q)
  | .flushPut el new_el => finished (queue_flush_put q el new_el)
  | .setNewData v => some ((.ok, none), queue_set_new_data q v)

def run (q : QueueT α) : List (Call α) → Option (List (Answer α) × QueueT α)
  | [] => some ([], q)
  | call :: rest => do
      let (answer, q) ← exec q call
      let (answers, q) ← run q rest
      some (answer :: answers, q)

/-- The queue as a caller sees it, and where `last_el` points. -/
structure Line (α : Type) where
  settings : Settings α
  entries : List (Entry α)
  last : Ptr

namespace Line

def full (l : Line α) : Bool :=
  l.entries.length == uintxMax - 1 ||
    (l.settings.max_els != 0 && l.entries.length == l.settings.max_els)

def put (l : Line α) (el : α) (new_el : Ptr) : Answer α × Line α :=
  if l.settings.new_data = 0 then ((.noNewData, none), l)
  else if l.full then ((.numElements, none), l)
  else match new_el with
    | none => ((.mem, none), l)
    | some a =>
        let entries := inserted l.settings (a, el) l.entries
        ((.ok, none), { l with entries, last := lastAfter a l.last entries })

def take (l : Line α) (us : List (Entry α)) (e : Entry α) (vs : List (Entry α)) :
    Answer α × Line α :=
  ((.ok, some e.2), { l with entries := us ++ vs, last := if us ++ vs = [] then none else l.last })

def after (l : Line α) : Call α → Answer α × Line α
  | .put el new_el => l.put el new_el
  | .get =>
      match l.entries with
      | [] => ((.numElements, none), l)
      | e :: rest => l.take [] e rest
  | .getFiltered cmp =>
      if l.entries = [] then ((.numElements, none), l)
      else match chosen cmp l.entries with
        | none => ((.invalidElement, none), l)
        | some (us, e, vs) => l.take us e vs
  | .flush => ((.ok, none), { l with entries := [], last := none })
  | .flushPut el new_el => put { l with entries := [], last := none } el new_el
  | .setNewData v => ((.ok, none), { l with settings := { l.settings with new_data := v } })

/-- The address that malloc gives is not in use. A put at the end finds the end. -/
def Permits (l : Line α) : Call α → Prop
  | .put _ new_el => (∀ a, new_el = some a → a ∉ addrs l.entries) ∧
      (l.settings.sort = false → l.last = back none l.entries)
  | _ => True

def answers (l : Line α) : List (Call α) → List (Answer α) × Line α
  | [] => ([], l)
  | call :: rest =>
      let more := answers (l.after call).2 rest
      ((l.after call).1 :: more.1, more.2)

def PermitsAll : Line α → List (Call α) → Prop
  | _, [] => True
  | l, call :: rest => l.Permits call ∧ PermitsAll (l.after call).2 rest

end Line

structure Shows (q : QueueT α) (l : Line α) : Prop where
  holds : Holds q l.entries
  last : q.last_el = l.last
  settings : q.toSettings = l.settings

variable {q : QueueT α} {l : Line α}

theorem Shows.full (shows : Shows q l) : q.full = l.full := by
  rw [QueueT.full, Line.full, shows.holds.num, shows.settings]

theorem Shows.fresh (shows : Shows q l) {a : Addr} (outside : a ∉ addrs l.entries) :
    q.heap a = none := by
  cases cell : q.heap a with
  | none => rfl
  | some node => exact absurd (shows.holds.fills.live a (by simp [cell])) outside

theorem Shows.put (shows : Shows q l) (el : α) (new_el : Ptr)
    (fresh : ∀ a, new_el = some a → a ∉ addrs l.entries)
    (straight : l.settings.sort = false → l.last = back none l.entries) :
    ∃ q', finished (queue_put q el new_el) = some ((l.put el new_el).1, q') ∧
      Shows q' (l.put el new_el).2 := by
  have settings := shows.settings
  by_cases closed : l.settings.new_data = 0
  · refine ⟨q, ?_, ?_⟩
    · simp [finished, queue_put, queue_put_internal, settings, Line.put, closed]
    · simpa [Line.put, closed] using shows
  · have full := shows.full
    cases crowded : l.full with
    | true =>
      refine ⟨q, ?_, ?_⟩
      · simp [finished, queue_put, queue_put_internal, settings, Line.put, closed, full, crowded]
      · simpa [Line.put, closed, crowded] using shows
    | false =>
      have small : l.entries.length < uintxMax - 1 := by
        have short := shows.holds.small
        simp only [Line.full, Bool.or_eq_false_iff, beq_eq_false_iff_ne] at crowded
        omega
      cases new_el with
      | none =>
        refine ⟨q, ?_, ?_⟩
        · simp [finished, queue_put, queue_put_internal, settings, Line.put, closed, full, crowded,
            allocate]
        · simpa [Line.put, closed, crowded] using shows
      | some a =>
        have cold := shows.fresh (fresh a rfl)
        obtain ⟨q', done, holds, same, last⟩ := insertElement_spec shows.holds small cold
          (by rwa [Straight, settings, shows.last]) el
        rw [settings] at holds last same
        rw [shows.last] at last
        refine ⟨q', ?_, ?_⟩
        · simp [finished, queue_put, queue_put_internal, settings, Line.put, closed, full, crowded,
            allocate, done]
        · simp only [Line.put, closed, crowded, if_false, Bool.false_eq_true]
          exact ⟨holds, last, same⟩

theorem Shows.take (shows : Shows q l) {cmp : Option (Node α → Bool)} {us vs : List (Entry α)}
    {e : Entry α} (parts : l.entries = us ++ e :: vs)
    (found : findElement q.heap cmp (q.num_els + 1) none q.first_el =
      some (back none us, some e.1)) :
    ∃ q', finished (takeElement q cmp) = some ((l.take us e vs).1, q') ∧
      Shows q' (l.take us e vs).2 := by
  obtain ⟨a, v⟩ := e
  have holds := shows.holds
  rw [parts] at holds
  rcases List.eq_nil_or_concat' us with rfl | ⟨us, ⟨b, w⟩, rfl⟩
  · obtain ⟨q', taken, holds', same, last⟩ := holds.takeFirst found
    refine ⟨q', by rw [taken]; rfl, holds', ?_, same.trans shows.settings⟩
    rw [last, shows.last]
    rfl
  · rw [List.append_assoc] at holds
    rw [back_append] at found
    obtain ⟨q', taken, holds', same, last⟩ := holds.takeInner found
    refine ⟨q', by rw [taken]; rfl, by simpa [Line.take] using holds', ?_,
      same.trans shows.settings⟩
    rw [last, shows.last]
    simp [Line.take]

theorem Shows.flush (shows : Shows q l) :
    ∃ q', queue_flush_internal q = some (q', l.entries.map (·.2)) ∧
      Shows q' { l with entries := [], last := none } := by
  obtain ⟨q', flushed, holds, same⟩ := shows.holds.flush
  exact ⟨q', flushed, holds, holds.last.mpr rfl, same.trans shows.settings⟩

theorem Shows.exec (shows : Shows q l) {call : Call α} (permits : l.Permits call) :
    ∃ q', Queue.exec q call = some ((l.after call).1, q') ∧ Shows q' (l.after call).2 := by
  cases call with
  | put el new_el => exact shows.put el new_el permits.1 permits.2
  | get =>
    cases entries : l.entries with
    | nil =>
      have none_ : q.num_els = 0 := by rw [shows.holds.num, entries]; rfl
      refine ⟨q, ?_, by simpa [Line.after, entries] using shows⟩
      simp [Queue.exec, finished, queue_get, queue_get_internal, none_, Line.after, entries]
    | cons e rest =>
      have some_ : q.num_els ≠ 0 := by rw [shows.holds.num, entries]; simp
      have first :
          findElement q.heap none (q.num_els + 1) none q.first_el = some (none, some e.1) := by
        rw [shows.holds.first, entries]
        rfl
      have parts : l.entries = [] ++ e :: rest := entries
      obtain ⟨q', taken, shows'⟩ := shows.take parts first
      refine ⟨q', ?_, by simpa [Line.after, entries] using shows'⟩
      simpa [Queue.exec, queue_get, queue_get_internal, some_, Line.after, entries] using taken
  | getFiltered cmp =>
    by_cases empty : l.entries = []
    · have none_ : q.num_els = 0 := by rw [shows.holds.num, empty]; rfl
      refine ⟨q, ?_, by simpa [Line.after, empty] using shows⟩
      simp [Queue.exec, finished, queue_get_filtered, queue_get_internal, none_, Line.after, empty]
    · have some_ : q.num_els ≠ 0 := by rw [shows.holds.num]; simpa using empty
      have linked := shows.holds.fills.linked
      have enough : l.entries.length < q.num_els + 1 := by rw [shows.holds.num]; omega
      cases found : chosen cmp l.entries with
      | none =>
        have nowhere := findElement_none linked found enough none
        rw [← shows.holds.first] at nowhere
        refine ⟨q, ?_, by simpa [Line.after, empty, found] using shows⟩
        simp [Queue.exec, finished, queue_get_filtered, queue_get_internal, some_, Line.after,
          empty, found, takeElement, nowhere]
      | some parts =>
        obtain ⟨us, e, vs⟩ := parts
        have there := findElement_some linked found enough none
        rw [← shows.holds.first] at there
        obtain ⟨q', taken, shows'⟩ := shows.take (chosen_parts found) there
        refine ⟨q', ?_, by simpa [Line.after, empty, found] using shows'⟩
        simpa [Queue.exec, queue_get_filtered, queue_get_internal, some_, Line.after, empty, found]
          using taken
  | flush =>
    obtain ⟨q', flushed, shows'⟩ := shows.flush
    exact ⟨q', by simp [Queue.exec, flushed, Line.after], shows'⟩
  | flushPut el new_el =>
    obtain ⟨q₁, flushed, shows₁⟩ := shows.flush
    obtain ⟨q', done, shows'⟩ :=
      shows₁.put el new_el (fun _ _ member => by cases member) (fun _ => rfl)
    refine ⟨q', ?_, shows'⟩
    simpa [Queue.exec, queue_flush_put, flushed, Line.after, queue_put] using done
  | setNewData v =>
    exact ⟨_, rfl,
      ⟨shows.holds.fills, shows.holds.first, shows.holds.last, shows.holds.num, shows.holds.small⟩,
        shows.last, by rw [queue_set_new_data, Line.after, ← shows.settings]⟩

theorem Shows.run (shows : Shows q l) {calls : List (Call α)} (permits : l.PermitsAll calls) :
    ∃ q', Queue.run q calls = some ((l.answers calls).1, q') ∧ Shows q' (l.answers calls).2 := by
  induction calls generalizing q l with
  | nil => exact ⟨q, rfl, shows⟩
  | cons call rest ih =>
    obtain ⟨q₁, first, shows₁⟩ := shows.exec permits.1
    obtain ⟨q', more, shows'⟩ := ih shows₁ permits.2
    exact ⟨q', by simp [Queue.run, first, more, Line.answers], shows'⟩

/-- A new queue, of whatever limit and order. -/
def created (s : Settings α) : QueueT α := { s with }

theorem shows_created (s : Settings α) : Shows (created s) ⟨s, [], none⟩ where
  holds := ⟨.nil, rfl, by simp [created], rfl, Nat.zero_le _⟩
  last := rfl
  settings := rfl

/-- Calls on a queue answer as on a plain list, as long as no put follows an end that a filtered
get left behind. -/
theorem calls_answer (s : Settings α) {calls : List (Call α)}
    (permits : (⟨s, [], none⟩ : Line α).PermitsAll calls) :
    ∃ q, run (created s) calls = some (((⟨s, [], none⟩ : Line α).answers calls).1, q) ∧
      Shows q ((⟨s, [], none⟩ : Line α).answers calls).2 :=
  (shows_created s).run permits

/-- Two puts, and the last element is taken out from behind the first. -/
def lastTaken : List (Call Nat) :=
  [.put 7 (some 0), .put 8 (some 1), .getFiltered (fun node => node.value == 8)]

theorem permits_lastTaken : (⟨{}, [], none⟩ : Line Nat).PermitsAll lastTaken := by
  simp [lastTaken, Line.PermitsAll, Line.Permits, Line.after, Line.put, Line.full, uintxMax,
    inserted, lastAfter]

theorem calls_answer_lastTaken : ∃ q, run (created ({} : Settings Nat)) lastTaken =
    some ([(.ok, none), (.ok, none), (.ok, some 8)], q) := by
  obtain ⟨q, done, -⟩ := calls_answer {} permits_lastTaken
  exact ⟨q, done⟩

/-- A put that leaves a right queue found the last element. -/
theorem straight_of_inserted {q q' : QueueT α} {xs ys : List (Entry α)} (holds : Holds q xs)
    (small : xs.length < uintxMax - 1) {a : Addr} (fresh : q.heap a = none)
    (unsorted : q.sort = false) {el : α} (done : insertElement q el a = some q')
    (holds' : Holds q' ys) : Straight q xs := by
  have outside := holds.fills.not_fresh fresh
  have length := counted small
  rw [← holds.num] at length
  cases last : q.last_el with
  | none =>
    rw [holds.last.mp last]
    exact last
  | some d =>
    cases live : put q.heap a ⟨none, el⟩ d with
    | none => simp [insertElement, unsorted, last, setNext_dead live] at done
    | some node =>
      simp only [insertElement, unsorted, last, setNext_live live, Bool.not_false, Bool.true_or,
        if_true, reduceCtorEq, if_false, Option.bind_eq_bind, Option.bind_some,
          Option.some.injEq] at done
      rw [← done] at holds'
      have first : front xs none = front ys none := by rw [← holds.first, ← holds'.first]
      by_cases self : d = a
      · -- the new element is linked to itself, and to nothing else
        subst self
        have kept := (holds.fills.linked.put_fresh outside ⟨none, el⟩).put_fresh outside
          { node with next := some d }
        have same := kept.unique holds'.fills.linked first
        have member := holds'.fills.live d (by simp)
        exact absurd (same ▸ member) outside
      · rw [put_other self] at live
        obtain ⟨us, w, vs, rfl⟩ := entry_at (holds.fills.live d (by simp [live]))
        -- what was behind `d` is cut off
        obtain ⟨one, here, -⟩ := linked_append.mp holds.fills.linked
        obtain ⟨-, nodupMore, apart⟩ := nodup_parts.mp holds.fills.nodup
        have outsideD : d ∉ addrs us := fun member => apart d member (by simp)
        have outsideA : a ∉ addrs us := fun member => outside (by simp [member])
        rw [here] at live
        cases live
        have cut :
            Linked (put (put q.heap a ⟨none, el⟩) d ⟨some a, w⟩) (us ++ [(d, w), (a, el)])
            none := by
          refine linked_append.mpr ⟨?_, put_self .., ?_, trivial⟩
          · exact (one.put_fresh outsideA _).put_fresh outsideD _
          · rw [put_other (Ne.symm self), put_self]
            rfl
        have same := cut.unique holds'.fills.linked (by
          rw [← first]
          cases us <;> rfl)
        have count : (q.num_els + 1) % (uintxMax + 1) = (us ++ [(d, w), (a, el)]).length :=
          same ▸ holds'.num
        rw [length, holds.num] at count
        simp only [List.length_append, List.length_cons, List.length_nil] at count
        have none_ : vs = [] := List.eq_nil_of_length_eq_zero (by omega)
        rw [Straight, last, none_, back_append]
        rfl

/-- Without an order, a put into a queue that holds elements is right if and only if `last_el` is
its last element. Else it goes through a freed element, or loses an element. -/
theorem insertElement_right_iff {xs : List (Entry α)} (holds : Holds q xs)
    (small : xs.length < uintxMax - 1) {a : Addr} (fresh : q.heap a = none)
    (unsorted : q.sort = false) (el : α) :
    (∃ q' ys, insertElement q el a = some q' ∧ Holds q' ys) ↔ Straight q xs := by
  constructor
  · rintro ⟨q', ys, done, holds'⟩
    exact straight_of_inserted holds small fresh unsorted done holds'
  · intro straight
    obtain ⟨q', done, holds', -⟩ := insertElement_last holds small fresh unsorted straight el
    exact ⟨q', _, done, holds'⟩

/-- A filtered get that takes the last element from behind another leaves `last_el` behind, and no
put into the queue that is left is right. -/
theorem put_wrong_after_filtered (shows : Shows q l) (straight : l.last = back none l.entries)
    (unsorted : l.settings.sort = false) {cmp : Node α → Bool} {us : List (Entry α)} {e : Entry α}
    (found : chosen cmp l.entries = some (us, e, [])) (behind : us ≠ []) :
    ∃ q', exec q (.getFiltered cmp) = some ((.ok, some e.2), q') ∧ Holds q' us ∧
      ∀ el a q'' ys, q'.heap a = none → insertElement q' el a = some q'' → ¬Holds q'' ys := by
  have parts := chosen_parts found
  have some_ : l.entries ≠ [] := by simp [parts]
  have permits : l.Permits (.getFiltered cmp) := trivial
  obtain ⟨q', done, shows'⟩ := shows.exec permits
  simp only [Line.after, some_, if_false, found, Line.take, List.append_nil, behind] at done shows'
  refine ⟨q', done, shows'.holds, fun el a q'' ys fresh inserts holds => ?_⟩
  have small : us.length < uintxMax - 1 := by
    have short := shows.holds.small
    rw [parts, List.length_append, List.length_singleton] at short
    omega
  have sort : q'.sort = false := by rw [shows'.settings, unsorted]
  have last := straight_of_inserted shows'.holds small fresh sort inserts holds
  rw [Straight, shows'.last, straight, parts] at last
  obtain ⟨us, ⟨b, v⟩, rfl⟩ := (List.eq_nil_or_concat' us).resolve_left behind
  obtain ⟨c, w⟩ := e
  have nodup := shows.holds.fills.nodup
  rw [parts] at nodup
  obtain ⟨-, -, apart⟩ := nodup_parts.mp nodup
  simp only [back_append, back_cons, back_nil, Option.some.injEq] at last
  exact apart b (by simp) (by simp [last])

/-- After the last element was taken from behind another one, the next put goes wrong. -/
theorem insertElement_wrong_lastTaken : ∃ (q : QueueT Nat) (xs : List (Entry Nat)), Holds q xs ∧
    ¬∃ q' ys, insertElement q 9 2 = some q' ∧ Holds q' ys := by
  obtain ⟨q, -, shows⟩ := (shows_created {}).run permits_lastTaken
  have settings : q.toSettings = {} := shows.settings
  have holds : Holds q [(0, 7)] := shows.holds
  have last : q.last_el = some 1 := shows.last
  refine ⟨q, _, holds, mt (insertElement_right_iff holds ?_ (shows.fresh ?_) ?_ 9).mp ?_⟩
  · decide
  · change 2 ∉ addrs [((0 : Addr), 7)]
    decide
  · rw [settings]
  · rw [Straight, last]
    decide

end HiMaxGateway.Queue
