import HiMaxGateway.QueueThreads

/-! The threads at a queue, with the elements for the queue. Each step of the threads is a turn
here, and no thread ever runs into a fault. -/
namespace HiMaxGateway.Queue
open Cells SinglyLinked Waiters Run

variable {α : Type}

/-- The elements in the queue, and the threads in the middle of a call. -/
structure Hall (α : Type) where
  settings : Settings α
  entries : List (Entry α)
  room : Multiset (Phase α)

/-- The most elements that a queue takes. -/
def Settings.capacity (s : Settings α) : Nat :=
  if s.max_els = 0 then uintxMax - 1 else min s.max_els (uintxMax - 1)

def Hall.full (h : Hall α) : Prop := h.entries.length = h.settings.capacity

/-- A new call, or a thread in this phase that goes on. -/
def Comes (p : Phase α) (room others : Multiset (Phase α)) : Prop :=
  room = others ∨ room = p ::ₘ others

inductive Turn {α : Type} : Hall α → Event α → Hall α → Prop where
  | accepts (a : Addr) :
      h.settings.new_data ≠ 0 → ¬h.full → Comes (.putting el true) h.room others →
        Signal Phase.GetterAsleep Phase.woken others room' →
      Turn h (.put el .ok)
        { h with entries := inserted h.settings (a, el) h.entries, room := room' }
  | refuses : code ≠ .ok → Comes (.putting el true) h.room others →
      code = .mem ∨ h.settings.new_data = 0 ∨ h.full ∧ h.room = others →
      Turn h (.put el code) { h with room := others }
  | gives : h.entries = e :: rest → Comes (.getting true) h.room others →
      Signal Phase.PutterAsleep Phase.woken others room' →
      Turn h (.get .ok (some e.2)) { h with entries := rest, room := room' }
  | givesNothing : code ≠ .ok → h.entries = [] → Comes (.getting true) h.room others →
      h.settings.new_data = 0 ∨ h.room = others → Turn h (.get code none) { h with room := others }
  | putterSleeps : h.settings.new_data ≠ 0 → h.full → Comes (.putting el true) h.room others →
      Turn h .internal { h with room := .putting el false ::ₘ others }
  | getterSleeps : h.settings.new_data ≠ 0 → h.entries = [] → Comes (.getting true) h.room others →
      Turn h .internal { h with room := .getting false ::ₘ others }
  | wakesUp : h.room = p ::ₘ rest → Turn h .internal { h with room := p.woken ::ₘ rest }
  | flush : Turn h (.flush (h.entries.map (·.2))) { h with entries := [] }
  | setNewData (v : Nat) : Turn h (.newData v)
      { h with settings := { h.settings with new_data := v }, room := .announcing ::ₘ h.room }
  | announces : h.room = .announcing ::ₘ rest →
      Turn h .internal
        { h with room := if h.settings.new_data = 0 then .broadcastGet ::ₘ rest else rest }
  | broadcastsGet : h.room = .broadcastGet ::ₘ rest →
      Turn h .internal { h with room := .broadcastPut ::ₘ rest.map Phase.wokenGetter }
  | broadcastsPut : h.room = .broadcastPut ::ₘ rest →
      Turn h .internal { h with room := rest.map Phase.wokenPutter }

/-- The queue in memory is the one of the hall. -/
structure Matches (t : Threads α) (h : Hall α) : Prop where
  holds : Holds t.queue h.entries
  straight : Straight t.queue h.entries
  settings : t.queue.toSettings = h.settings
  fits : h.entries.length ≤ h.settings.capacity
  room : t.room = h.room

/-- What comes of a put. Only a new one is sent away from a full queue. -/
inductive PutsTo {α : Type} (t : Threads α) (h : Hall α) (el : α) (new : Prop) :
    Option (Outcome α) → Prop where
  | waits : h.settings.new_data ≠ 0 → h.full → PutsTo t h el new (some .waits)
  | refuses : code ≠ .ok → code = .mem ∨ h.settings.new_data = 0 ∨ h.full ∧ new →
      PutsTo t h el new (some (.returns code t.queue none))
  | accepts (a : Addr) : h.settings.new_data ≠ 0 → ¬h.full →
      (∀ room, Matches ⟨q', room⟩
        { h with entries := inserted h.settings (a, el) h.entries, room }) →
      PutsTo t h el new (some (.returns .ok q' none))

inductive GetsTo {α : Type} (t : Threads α) (h : Hall α) (new : Prop) :
    Option (Outcome α) → Prop where
  | waits : h.settings.new_data ≠ 0 → h.entries = [] → GetsTo t h new (some .waits)
  | nothing : code ≠ .ok → h.entries = [] → h.settings.new_data = 0 ∨ new →
      GetsTo t h new (some (.returns code t.queue none))
  | gives : h.entries = e :: rest → (∀ room, Matches ⟨q', room⟩ { h with entries := rest, room }) →
      GetsTo t h new (some (.returns .ok q' (some e.2)))

variable {t t' : Threads α} {h : Hall α} {q q' : QueueT α} {el : α} {new_el : Ptr} {code : Code}
  {e : Option α}

theorem capacity_small (s : Settings α) : s.capacity ≤ uintxMax - 1 := by
  rw [Settings.capacity]
  split
  · exact Nat.le_refl _
  · exact Nat.min_le_right _ _

theorem capacity_positive (s : Settings α) : 0 < s.capacity := by
  rw [Settings.capacity, uintxMax]
  split <;> omega

theorem Matches.full (matched : Matches t h) : t.queue.full = true ↔ h.full := by
  have fits := matched.fits
  have limit : t.queue.max_els = h.settings.max_els := by rw [matched.settings]
  rw [Settings.capacity] at fits
  rw [QueueT.full, Hall.full, matched.holds.num, limit, Settings.capacity]
  by_cases unlimited : h.settings.max_els = 0
  · simp [unlimited]
  · rw [if_neg unlimited] at fits ⊢
    simp only [Bool.or_eq_true, beq_iff_eq, Bool.and_eq_true, bne_iff_ne, ne_eq, unlimited,
      not_false_eq_true, true_and]
    omega

theorem Matches.allocate (matched : Matches t h) (accepting : h.settings.new_data ≠ 0)
    (roomy : ¬h.full) (fresh : Fresh t.queue new_el) (el : α) (new : Prop) :
    PutsTo t h el new (allocate t.queue el new_el) := by
  cases new_el with
  | none => exact .refuses (by decide) (.inl rfl)
  | some a =>
    have fits := matched.fits
    have most := capacity_small h.settings
    have small : h.entries.length < uintxMax - 1 := by
      rw [Hall.full] at roomy
      omega
    have cold := fresh a rfl
    obtain ⟨q', done, holds, same, last⟩ :=
      insertElement_spec matched.holds small cold (fun _ => matched.straight) el
    rw [matched.settings] at holds same last
    have straight : Straight q' (inserted h.settings (a, el) h.entries) := by
      obtain ⟨us, vs, parts, there⟩ := inserted_split h.settings (a, el) h.entries
      have outside := matched.holds.fills.not_fresh cold
      rw [Straight, last, matched.straight, there, parts]
      exact lastAfter_straight (parts ▸ outside) el
    have fits' : (inserted h.settings (a, el) h.entries).length ≤ h.settings.capacity := by
      rw [inserted_length]
      rw [Hall.full] at roomy
      omega
    rw [Queue.allocate, done]
    exact .accepts a accepting roomy fun room => ⟨holds, straight, same, fits', rfl⟩

theorem Matches.put (matched : Matches t h) (fresh : Fresh t.queue new_el) (el : α)
    (action : Bool) :
    PutsTo t h el True (queue_put_internal t.queue el action new_el) := by
  rw [queue_put_internal, matched.settings]
  by_cases closed : h.settings.new_data = 0
  · rw [if_pos closed]
    exact .refuses (by decide) (.inr (.inl closed))
  · rw [if_neg closed]
    by_cases crowded : h.full
    · rw [if_pos (matched.full.mpr crowded)]
      cases action with
      | true => exact .waits closed crowded
      | false => exact .refuses (by decide) (.inr (.inr ⟨crowded, trivial⟩))
    · rw [if_neg (mt matched.full.mp crowded)]
      exact matched.allocate closed crowded fresh el _

theorem Matches.putAgain (matched : Matches t h) (fresh : Fresh t.queue new_el) (el : α) :
    PutsTo t h el False (putAgain t.queue el new_el) := by
  rw [Queue.putAgain, matched.settings]
  by_cases closed : h.settings.new_data = 0
  · rw [if_neg (by simp [closed]), if_pos closed]
    exact .refuses (by decide) (.inr (.inl closed))
  · by_cases crowded : h.full
    · rw [if_pos (by simp [matched.full.mpr crowded, closed])]
      exact .waits closed crowded
    · have roomy := eq_false_of_ne_true (mt matched.full.mp crowded)
      rw [if_neg (by simp [roomy]), if_neg closed]
      exact matched.allocate closed crowded fresh el _

theorem Matches.takeElement (matched : Matches t h) {entry : Entry α} {rest : List (Entry α)}
    (some_ : h.entries = entry :: rest) (new : Prop) :
    GetsTo t h new (takeElement t.queue none) := by
  obtain ⟨a, v⟩ := entry
  have holds := matched.holds
  have straight := matched.straight
  rw [Straight, some_] at straight
  rw [some_] at holds
  have first :
      findElement t.queue.heap none (t.queue.num_els + 1) none t.queue.first_el =
      some (none, some a) := by
    rw [holds.first]
    rfl
  obtain ⟨q', taken, holds', same, last⟩ := holds.takeFirst first
  have fits := matched.fits
  rw [some_, List.length_cons] at fits
  rw [taken]
  refine .gives some_ fun room =>
    ⟨holds', ?_, same.trans matched.settings, Nat.le_of_succ_le fits, rfl⟩
  rw [Straight, last]
  by_cases end_ : rest = []
  · rw [if_pos end_, end_]
    rfl
  · rw [if_neg end_, straight]
    exact back_inner end_ _ _

theorem Matches.get (matched : Matches t h) (action : Bool) :
    GetsTo t h True (queue_get_internal t.queue action none) := by
  rw [queue_get_internal, matched.holds.num, matched.settings]
  cases entries : h.entries with
  | nil =>
    rw [if_pos List.length_nil]
    by_cases closed : h.settings.new_data = 0
    · rw [if_neg (not_not_intro closed)]
      cases action with
      | true => exact .nothing (by decide) entries (.inl closed)
      | false => exact .nothing (by decide) entries (.inr trivial)
    · rw [if_pos closed]
      cases action with
      | true => exact .waits closed entries
      | false => exact .nothing (by decide) entries (.inr trivial)
  | cons entry rest =>
    rw [if_neg (by simp)]
    exact matched.takeElement entries _

theorem Matches.getAgain (matched : Matches t h) : GetsTo t h False (getAgain t.queue none) := by
  rw [Queue.getAgain, matched.holds.num, matched.settings]
  cases entries : h.entries with
  | nil =>
    by_cases closed : h.settings.new_data = 0
    · rw [if_neg (by simp [closed]), if_pos (by simp [closed])]
      exact .nothing (by decide) entries (.inl closed)
    · rw [if_pos (by simp [closed])]
      exact .waits closed entries
  | cons entry rest =>
    rw [if_neg (by simp), if_neg (by simp)]
    exact matched.takeElement entries _

theorem Matches.flush (matched : Matches t h) : ∃ q', queue_flush_internal t.queue =
    some (q', h.entries.map (·.2)) ∧ ∀ room, Matches ⟨q', room⟩ { h with entries := [], room } := by
  obtain ⟨q', flushed, holds, same⟩ := matched.holds.flush
  exact ⟨q', flushed, fun room =>
    ⟨holds, holds.straight_nil, same.trans matched.settings, Nat.zero_le _, rfl⟩⟩

/-- The threads move, and the queue stays. -/
theorem Matches.moves (matched : Matches t h) (room : Multiset (Phase α)) :
    Matches ⟨t.queue, room⟩ { h with room } :=
  ⟨matched.holds, matched.straight, matched.settings, matched.fits, rfl⟩

theorem put_turns {room others room' : Multiset (Phase α)} (matched : Matches ⟨q, room⟩ h)
    (comes : Comes (.putting el true) room others) {new : Prop} (none_ : new → room = others)
    (puts : PutsTo ⟨q, room⟩ h el new (some (.returns code q' e)))
    (signals : Signals code Phase.GetterAsleep others room') :
    ∃ h', Turn h (.put el code) h' ∧ Matches ⟨q', room'⟩ h' := by
  have same : room = h.room := matched.room
  subst same
  cases puts with
  | refuses failed why =>
    rw [Signals, if_neg failed] at signals
    subst signals
    exact ⟨_, .refuses failed comes (why.imp_right (Or.imp_right (And.imp_right none_))),
      matched.moves room'⟩
  | accepts a accepting roomy matched' =>
    exact ⟨_, .accepts a accepting roomy comes signals, matched' room'⟩

theorem get_turns {room others room' : Multiset (Phase α)} (matched : Matches ⟨q, room⟩ h)
    (comes : Comes (.getting true) room others) {new : Prop} (none_ : new → room = others)
    (gets : GetsTo ⟨q, room⟩ h new (some (.returns code q' e)))
    (signals : Signals code Phase.PutterAsleep others room') :
    ∃ h', Turn h (.get code e) h' ∧ Matches ⟨q', room'⟩ h' := by
  have same : room = h.room := matched.room
  subst same
  cases gets with
  | nothing failed empty why =>
    rw [Signals, if_neg failed] at signals
    subst signals
    exact ⟨_, .givesNothing failed empty comes (why.imp_right none_), matched.moves room'⟩
  | gives some_ matched' => exact ⟨_, .gives some_ comes signals, matched' room'⟩

theorem allocate_returns (q : QueueT α) (el : α) (new_el : Ptr) :
    allocate q el new_el ≠ some .waits := by
  cases new_el with
  | none => simp [allocate]
  | some a => cases done : insertElement q el a <;> simp [allocate, done]

theorem put_waits (waits : queue_put_internal q el true new_el = some .waits) :
    q.new_data ≠ 0 ∧ q.full = true := by
  rw [queue_put_internal] at waits
  by_cases closed : q.new_data = 0
  · simp [closed] at waits
  · cases crowded : q.full with
    | true => exact ⟨closed, rfl⟩
    | false =>
      rw [if_neg closed, crowded, if_neg Bool.false_ne_true] at waits
      exact absurd waits (allocate_returns q el new_el)

theorem putAgain_waits (waits : putAgain q el new_el = some .waits) :
    q.new_data ≠ 0 ∧ q.full = true := by
  rw [putAgain] at waits
  by_cases again : (q.full && q.new_data != 0) = true
  · simp only [Bool.and_eq_true, bne_iff_ne] at again
    exact ⟨again.2, again.1⟩
  · rw [if_neg again] at waits
    by_cases closed : q.new_data = 0
    · simp [closed] at waits
    · rw [if_neg closed] at waits
      exact absurd waits (allocate_returns q el new_el)

/-- Each step of the threads is a turn. -/
theorem step_turns (matched : Matches t h) (stepped : Step t ev t') :
    ∃ h', Turn h ev h' ∧ Matches t' h' := by
  have room := matched.room
  have settings := matched.settings
  cases stepped with
  | put action fresh done signals =>
    exact put_turns matched (.inl rfl) (fun _ => rfl) (done ▸ matched.put fresh _ action) signals
  | putAgain fresh done signals =>
    exact put_turns matched (.inr rfl) False.elim (done ▸ matched.putAgain fresh _) signals
  | get action done signals =>
    exact get_turns matched (.inl rfl) (fun _ => rfl) (done ▸ matched.get action) signals
  | getAgain done signals =>
    exact get_turns matched (.inr rfl) False.elim (done ▸ matched.getAgain) signals
  | putWaits done =>
    obtain ⟨accepting, crowded⟩ := put_waits done
    rw [settings] at accepting
    exact ⟨_, .putterSleeps accepting (matched.full.mp crowded) (.inl room.symm), matched.moves _⟩
  | putAgainWaits done =>
    obtain ⟨accepting, crowded⟩ := putAgain_waits done
    rw [settings] at accepting
    exact ⟨_, .putterSleeps accepting (matched.full.mp crowded) (.inr room.symm), matched.moves _⟩
  | getWaits done =>
    cases done ▸ matched.get true with
    | waits accepting empty =>
      exact ⟨_, .getterSleeps accepting empty (.inl room.symm), matched.moves _⟩
  | getAgainWaits done =>
    cases done ▸ matched.getAgain with
    | waits accepting empty =>
      exact ⟨_, .getterSleeps accepting empty (.inr room.symm), matched.moves _⟩
  | wakesUp => exact ⟨_, .wakesUp room.symm, matched.moves _⟩
  | flush done =>
    obtain ⟨q₁, flushed, matched'⟩ := matched.flush
    rw [done] at flushed
    cases flushed
    exact ⟨_, .flush, { matched' h.room with room := room }⟩
  | setNewData v =>
    obtain ⟨holds, straight, same, fits, -⟩ := matched
    refine ⟨_, .setNewData v, ⟨holds.fills, holds.first, holds.last, holds.num, holds.small⟩,
      straight, ?_, fits, ?_⟩
    · rw [queue_set_new_data, ← same]
    · exact congrArg _ room
  | announces =>
    refine ⟨_, .announces room.symm, ?_⟩
    rw [← congrArg Settings.new_data settings]
    exact matched.moves _
  | broadcastsGet => exact ⟨_, .broadcastsGet room.symm, matched.moves _⟩
  | broadcastsPut => exact ⟨_, .broadcastsPut room.symm, matched.moves _⟩

/-- Nobody is there yet, and the queue is empty. -/
def hall (s : Settings α) : Hall α := ⟨s, [], 0⟩

theorem matches_start (s : Settings α) : Matches (start s) (hall s) where
  holds := ⟨.nil, rfl, by simp [start, hall], rfl, Nat.zero_le _⟩
  straight := rfl
  settings := rfl
  fits := Nat.zero_le _
  room := rfl

theorem run_turns (matched : Matches t h) (reached : Reaches Step t trace t') :
    ∃ h', Reaches Turn h trace h' ∧ Matches t' h' := by
  induction reached with
  | start => exact ⟨h, .start, matched⟩
  | step _ stepped ih =>
    obtain ⟨h₁, turned, matched₁⟩ := ih
    obtain ⟨h', turn, matched'⟩ := step_turns matched₁ stepped
    exact ⟨h', .step turned turn, matched'⟩

theorem PutsTo.isSome {new : Prop} {out : Option (Outcome α)} (puts : PutsTo t h el new out) :
    out.isSome := by
  cases puts <;> rfl

theorem GetsTo.isSome {new : Prop} {out : Option (Outcome α)} (gets : GetsTo t h new out) :
    out.isSome := by
  cases gets <;> rfl

theorem Turn.settings {h' : Hall α} (turn : Turn h ev h') :
    ∃ v, h'.settings = { h.settings with new_data := v } := by
  cases turn with
  | setNewData v => exact ⟨v, rfl⟩
  | _ => exact ⟨_, rfl⟩

theorem run_settings (reached : Reaches Turn h trace h') :
    ∃ v, h'.settings = { h.settings with new_data := v } := by
  induction reached with
  | start => exact ⟨_, rfl⟩
  | step _ turn ih =>
    obtain ⟨v, same⟩ := ih
    obtain ⟨w, same'⟩ := turn.settings
    exact ⟨w, by rw [same', same]⟩

theorem run_capacity {s : Settings α} (reached : Reaches Turn (hall s) trace h) :
    h.settings.capacity = s.capacity := by
  obtain ⟨v, settings⟩ := run_settings reached
  rw [settings]
  rfl

theorem two_puts_one_get : ∃ t, Reaches Step (start ({} : Settings Nat))
    [.put 7 .ok, .put 8 .ok, .get .ok (some 7)] t :=
  ⟨_, .step
    (.step
      (.step .start (.put false (fresh_some (a := 0) rfl) rfl (signals_nobody (by simp) _)))
      (.put false (fresh_some (a := 1) rfl) rfl (signals_nobody (by simp) _)))
    (.get false rfl (signals_nobody (by simp) _))⟩

/-- Whatever puts, gets, flushes and `queue_set_new_data` the threads did so far, no further one
runs through a bad pointer, and the queue is no longer than it may be. -/
theorem threads_never_fault (s : Settings α) (reached : Reaches Step (start s) trace t) :
    (∀ el action new_el, Fresh t.queue new_el →
      (queue_put_internal t.queue el action new_el).isSome ∧ (putAgain t.queue el new_el).isSome) ∧
    (∀ action, (queue_get_internal t.queue action none).isSome) ∧ (getAgain t.queue none).isSome ∧
    (queue_flush_internal t.queue).isSome ∧ queue_elements t.queue ≤ s.capacity ∧
    (queue_empty t.queue = true ↔ queue_elements t.queue = 0) := by
  obtain ⟨h, turned, matched⟩ := run_turns (matches_start s) reached
  obtain ⟨q', flushed, -⟩ := matched.flush
  have num : queue_elements t.queue = h.entries.length := matched.holds.num
  refine ⟨fun el action new_el fresh => ⟨(matched.put fresh el action).isSome,
    (matched.putAgain fresh el).isSome⟩, fun action => (matched.get action).isSome,
      matched.getAgain.isSome, by rw [flushed]; rfl, ?_, ?_⟩
  · rw [num, ← run_capacity turned]
    exact matched.fits
  · rw [num, queue_empty, matched.holds.first, matched.straight, List.length_eq_zero_iff]
    simp [front_eq_none, back_eq_none]

theorem threads_never_fault_two : ∃ t, Reaches Step (start ({} : Settings Nat))
    [.put 7 .ok, .put 8 .ok, .get .ok (some 7)] t ∧ queue_elements t.queue ≤ 65534 ∧
      (queue_empty t.queue = true ↔ queue_elements t.queue = 0) := by
  obtain ⟨t, reached⟩ := two_puts_one_get
  obtain ⟨-, -, -, -, bound, empty⟩ := threads_never_fault {} reached
  exact ⟨t, reached, bound, empty⟩

end HiMaxGateway.Queue
