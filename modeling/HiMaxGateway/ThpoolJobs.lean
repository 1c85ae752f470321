import HiMaxGateway.Thpool
import HiMaxGateway.Lib.Run
import Mathlib.Data.Multiset.UnionInter

/-! Where the jobs of a pool are: in the queue, in the hands of a worker, or done. No job is lost
or run twice, and no thread uses a job that is freed. -/
namespace HiMaxGateway.Thpool
open Cells SinglyLinked Waiters Run

variable {J : Type} {q : JobQueue J} {xs : List (Entry J)} {a : Addr} {j : J}

/-- The queue holds these jobs, the one to run first in front. Other jobs may be in the heap. -/
structure Holds (q : JobQueue J) (xs : List (Entry J)) : Prop where
  linked : Linked q.heap xs none
  nodup : (addrs xs).Nodup
  front : q.front = front xs none
  rear : q.rear = back none xs
  len : q.len = xs.length

/-- The new job goes behind the last one; no cell but its own and that of the last job changes. -/
theorem jobqueue_push_spec (holds : Holds q xs) (fresh : q.heap a = none) (j : J) :
    ∃ q', jobqueue_push q a j = some q' ∧ Holds q' (xs ++ [(a, j)]) ∧
      (∀ b, b ≠ a → b ∉ addrs xs → q'.heap b = q.heap b) ∧
      ∀ b, q'.heap b ≠ none ↔ q.heap b ≠ none ∨ b = a := by
  have outside : a ∉ addrs xs := by
    intro member
    obtain ⟨node, live⟩ := holds.linked.live member
    rw [fresh] at live
    cases live
  have nodup : (addrs (xs ++ [(a, j)])).Nodup := nodup_parts.mpr
    ⟨holds.nodup, by simp, fun b member there => outside (by simp at there; rwa [← there])⟩
  have kept := holds.linked.put_fresh outside ⟨none, j⟩
  have length := holds.len
  rcases List.eq_nil_or_concat' xs with rfl | ⟨before, ⟨b, w⟩, rfl⟩
  · refine ⟨{ q with heap := put q.heap a ⟨none, j⟩, front := some a, rear := some a, len := 1 },
      ?_, ?_, ?_, ?_⟩
    · rw [jobqueue_push, length]
      rfl
    · exact ⟨⟨put_self .., trivial⟩, nodup, rfl, rfl, rfl⟩
    · exact fun c other _ => put_other other ..
    · intro c
      by_cases here : c = a
      · simp [here]
      · simp [here, put_other here]
  · have rear : q.rear = some b := by rw [holds.rear, back_append]; rfl
    have other : b ≠ a := fun same => outside (by simp [← same])
    have live : put q.heap a ⟨none, j⟩ b = some ⟨none, w⟩ := kept.node
    refine ⟨{ q with
      heap := put (put q.heap a ⟨none, j⟩) b ⟨some a, w⟩
      rear := some a
      len := before.length + 2 }, ?_, ?_, ?_, ?_⟩
    · simp only [List.length_append, List.length_cons, List.length_nil] at length
      simp [jobqueue_push, length, rear, setNext_live live]
    · refine ⟨by simpa using holds.linked.snoc holds.nodup outside j, nodup, ?_, ?_, by simp⟩
      · rw [holds.front]
        cases before <;> rfl
      · rw [back_append]
        rfl
    · intro c one two
      have two : c ≠ b := fun same => two (by simp [same])
      exact (put_other two _ _).trans (put_other one _ _)
    · intro c
      by_cases one : c = b
      · have was := holds.linked.node
        simp [one, was]
      · by_cases two : c = a
        · simp [two, put_other (Ne.symm other)]
        · simp [two, put_other one, put_other two]

theorem jobqueue_pull_empty (holds : Holds q []) : jobqueue_pull q = some (none, q, false) := by
  have length : q.len = 0 := holds.len
  have front : q.front = none := holds.front
  simp [jobqueue_pull, length, front]

theorem jobqueue_pull_spec (holds : Holds q ((a, j) :: xs)) :
    ∃ q', jobqueue_pull q = some (some a, q', !xs.isEmpty) ∧ Holds q' xs ∧ q'.heap = q.heap ∧
      load q.heap (some a) = some ⟨front xs none, j⟩ := by
  obtain ⟨here, rest⟩ := holds.linked
  obtain ⟨-, nodup⟩ := List.nodup_cons.mp holds.nodup
  have length := holds.len
  have first : q.front = some a := holds.front
  cases xs with
  | nil =>
    have length : q.len = 1 := length
    exact ⟨{ q with front := none, rear := none, len := 0 }, by simp [jobqueue_pull, length, first],
      ⟨trivial, .nil, rfl, rfl, rfl⟩, rfl, here⟩
  | cons x xs =>
    have length : q.len = xs.length + 2 := length
    refine ⟨{ q with front := front (x :: xs) none, len := xs.length + 1 }, ?_,
      ⟨rest, nodup, rfl, holds.rear, rfl⟩, rfl, here⟩
    simp [jobqueue_pull, length, first, here]

theorem clearLoop_spec (holds : Holds q xs) {fuel : Nat} (enough : xs.length < fuel) :
    ∃ q', clearLoop fuel q = some q' ∧ Holds q' [] ∧ (∀ b ∈ addrs xs, q'.heap b = none) ∧
      ∀ b, b ∉ addrs xs → q'.heap b = q.heap b := by
  induction xs generalizing q fuel with
  | nil =>
    obtain ⟨fuel, rfl⟩ : ∃ k, fuel = k + 1 := ⟨fuel - 1, by omega⟩
    exact ⟨q, by simp [clearLoop, holds.len], holds, by simp, fun _ _ => rfl⟩
  | cons x xs ih =>
    obtain ⟨a, j⟩ := x
    obtain ⟨fuel, rfl⟩ : ∃ k, fuel = k + 1 := ⟨fuel - 1, by omega⟩
    rw [List.length_cons, Nat.add_lt_add_iff_right] at enough
    obtain ⟨outside, -⟩ := List.nodup_cons.mp holds.nodup
    obtain ⟨q₁, pulled, holds₁, heap, here⟩ := jobqueue_pull_spec holds
    have freed : free q₁.heap (some a) = some (drop q₁.heap a) := free_live (heap ▸ here)
    have holds₂ : Holds { q₁ with heap := drop q₁.heap a } xs :=
      ⟨holds₁.linked.drop_fresh outside, holds₁.nodup, holds₁.front, holds₁.rear, holds₁.len⟩
    obtain ⟨q', cleared, holds', gone, kept⟩ := ih holds₂ enough
    have some_ : q.len ≠ 0 := by rw [holds.len]; simp
    refine ⟨q', by simp [clearLoop, some_, pulled, freed, cleared], holds', ?_, ?_⟩
    · intro b member
      rcases List.mem_cons.mp member with rfl | member
      · exact (kept b outside).trans (drop_self ..)
      · exact gone b member
    · intro b other
      simp only [addrs_cons, List.mem_cons, not_or] at other
      rw [kept b other.2, ← heap]
      exact drop_other other.1 _

theorem jobqueue_clear_spec (holds : Holds q xs) : ∃ q', jobqueue_clear q = some q' ∧ Holds q' [] ∧
    (∀ b ∈ addrs xs, q'.heap b = none) ∧ ∀ b, b ∉ addrs xs → q'.heap b = q.heap b := by
  obtain ⟨q', cleared, -, gone, kept⟩ := clearLoop_spec holds (Nat.lt_succ_self xs.length)
  refine ⟨{ q' with front := none, rear := none, len := 0 }, ?_, ⟨trivial, .nil, rfl, rfl, rfl⟩,
    gone, kept⟩
  rw [jobqueue_clear, holds.len, cleared]
  rfl

theorem queued_spec {heap : Heap (Node J)} (linked : Linked heap xs none) :
    queued heap xs.length (front xs none) = xs.map (·.2) := by
  induction xs with
  | nil => rfl
  | cons x xs ih =>
    obtain ⟨a, j⟩ := x
    obtain ⟨here, rest⟩ := linked
    simp [queued, here, ih rest]

/-- The job that a worker has in its hands, and what it runs, once it has read it. -/
def Phase.hand : Phase J → Option (Addr × Option J)
  | .reposting (some job) | .holding (some job) => some (job, none)
  | .running job j => some (job, some j)
  | _ => none

def hands (room : Multiset (Phase J)) : Multiset (Addr × Option J) := room.filterMap Phase.hand

/-- The jobs that are about to start, as they are in memory. -/
def pendingIn (heap : Heap (Node J)) (hs : Multiset (Addr × Option J)) : Multiset J :=
  hs.filterMap fun hand => if hand.2.isNone then (heap hand.1).map (·.value) else none

def activeIn (hs : Multiset (Addr × Option J)) : Multiset J := hs.filterMap (·.2)

/-- Each job in memory is in the queue, or in the hands of one worker. -/
structure Owned (q : JobQueue J) (hs : Multiset (Addr × Option J)) (xs : List (Entry J)) :
    Prop where
  holds : Holds q xs
  apart : (hs.map (·.1) + ↑(addrs xs)).Nodup
  live : ∀ b, q.heap b ≠ none ↔ b ∈ hs.map (·.1) ∨ b ∈ addrs xs

/-- What a step does with the jobs. -/
inductive Handles {J : Type} (q : JobQueue J) (hs : Multiset (Addr × Option J)) :
    Event J → JobQueue J → Multiset (Addr × Option J) → Prop where
  | nothing : ev = .internal ∨ ev = .returned ∨ ev = .stopped → hs' = hs → Handles q hs ev q hs'
  | push (newjob : Addr) (j : J) :
      q.heap newjob = none → jobqueue_push q newjob j = some q' → hs' = hs →
        Handles q hs (.push j) q' hs'
  | pull (job : Ptr) (more : Bool) : jobqueue_pull q = some (job, q', more) →
      hs' = (if let some a := job then (a, none) ::ₘ hs else hs) →
      Handles q hs (.pull ((load q.heap job).map (·.value))) q' hs'
  | start (job : Addr) (node : Node J) (rest : Multiset (Addr × Option J)) :
      q.heap job = some node → hs = (job, none) ::ₘ rest → hs' = (job, some node.value) ::ₘ rest →
        Handles q hs (.start node.value) q hs'
  | finish (job : Addr) (j : J) : free q.heap (some job) = some heap → hs = (job, some j) ::ₘ hs' →
      Handles q hs (.finish j) { q with heap } hs'
  | destroyed :
      jobqueue_clear q = some q' → hs' = hs →
      Handles q hs (.destroyed (queued q.heap q.len q.front)) q' hs'

variable {t t' : Pool J} {p p' : Phase J} {room room' rest : Multiset (Phase J)} {ev : Event J}
  {hs hs' : Multiset (Addr × Option J)} {q' : JobQueue J}

@[simp] theorem hand_woken (p : Phase J) : p.woken.hand = p.hand := by cases p <;> rfl

theorem hand_holding (job : Ptr) :
    (Phase.holding job : Phase J).hand = (Phase.reposting job).hand := by
  cases job <;> rfl

theorem hand_wokenWorker (p : Phase J) : p.wokenWorker.hand = p.hand := by cases p <;> rfl

theorem hands_none (none_ : p.hand = none) (rest : Multiset (Phase J)) :
    hands (p ::ₘ rest) = hands rest :=
  Multiset.filterMap_cons_none _ _ none_

theorem hands_some {hand : Addr × Option J} (some_ : p.hand = some hand)
    (rest : Multiset (Phase J)) :
    hands (p ::ₘ rest) = hand ::ₘ hands rest :=
  Multiset.filterMap_cons_some _ _ _ some_

/-- A thread goes on with the job it has. -/
theorem hands_same (here : t.room = p ::ₘ rest) (same : p'.hand = p.hand)
    (others : hands room = hands rest) :
    hands (p' ::ₘ room) = hands t.room := by
  rw [here, hands, Multiset.filterMap_cons, same, ← hands, others, hands, hands,
    Multiset.filterMap_cons]

theorem hands_signal {asleep : Phase J → Prop} (signal : Signal asleep Phase.woken room room') :
    hands room' = hands room :=
  signal.filterMap hand_woken

theorem hands_broadcast (room : Multiset (Phase J)) :
    hands (room.map Phase.wokenWorker) = hands room := by
  rw [hands, Multiset.filterMap_map]
  exact congrArg (Multiset.filterMap · room) (funext hand_wokenWorker)

theorem hands_signals {working : Int} (signals : Signals working room room') :
    hands room' = hands room := by
  rw [Signals] at signals
  split at signals
  · exact hands_signal signals
  · rw [signals]

theorem Goes.hand (goes : Goes t p p') : p'.hand = p.hand := by
  cases goes with
  | wakesUp => exact hand_woken p
  | _ => rfl

theorem hands_pulled (job : Ptr) (more : Bool) (rest : Multiset (Phase J)) :
    hands ((if more then .reposting job else .holding job) ::ₘ rest) =
      if let some a := job then (a, none) ::ₘ hands rest else hands rest := by
  cases more <;> cases job <;> first | exact hands_none rfl rest | exact hands_some rfl rest

theorem step_handles (stepped : Step t ev t') :
    Handles t.jobqueue (hands t.room) ev t'.jobqueue (hands t'.room) := by
  cases stepped with
  | goes room moves => exact .nothing (.inl rfl) (hands_same room moves.hand rfl)
  | push newjob open_ fresh pushes => exact .push newjob _ fresh pushes (hands_none rfl _)
  | posts room signal =>
    refine .nothing (.inl rfl) ((hands_signal signal).trans ?_)
    rw [room, hands_none rfl]
  | takes room | counts room => exact .nothing (.inl rfl) (hands_same room rfl rfl)
  | pulls more room open_ pulls same =>
    subst same
    refine .pull _ _ pulls ((hands_pulled _ _ _).trans ?_)
    rw [room, hands_none rfl]
  | reposts room signal =>
    exact .nothing (.inl rfl) (hands_same room (hand_holding _) (hands_signal signal))
  | starts node room live =>
    exact .start _ node _ live (by rw [room, hands_some rfl]) (hands_some rfl _)
  | finishes room freed => exact .finish _ _ freed (by rw [room, hands_some rfl, hands_none rfl])
  | uncounts room signals => exact .nothing (.inl rfl) (hands_same room rfl (hands_signals signals))
  | leaves room => exact .nothing (.inl rfl) (by rw [room, hands_none rfl])
  | wait => exact .nothing (.inl rfl) (hands_none rfl _)
  | destroy => exact .nothing (.inr (.inr rfl)) (hands_none rfl _)
  | returns room => exact .nothing (.inr (.inl rfl)) (by rw [room, hands_none rfl])
  | postsAll room => exact .nothing (.inl rfl) (hands_same room rfl (hands_broadcast _))
  | destroyed room alive open_ cleared same =>
    subst same
    exact .destroyed cleared (by rw [room, hands_none rfl])
  | destroyOther => exact .nothing (.inr (.inr rfl)) rfl
  | initOther => exact .nothing (.inl rfl) rfl

/-- The values of the jobs that went into the queue. -/
def pushed (trace : List (Event J)) : List J :=
  trace.flatMap fun
    | .push j => [j]
    | _ => []

/-- Those that a worker took out. -/
def pulled (trace : List (Event J)) : List J :=
  trace.flatMap fun
    | .pull (some j) => [j]
    | _ => []

def started (trace : List (Event J)) : List J :=
  trace.flatMap fun
    | .start j => [j]
    | _ => []

def finished (trace : List (Event J)) : List J :=
  trace.flatMap fun
    | .finish j => [j]
    | _ => []

def discarded (trace : List (Event J)) : List J :=
  trace.flatMap fun
    | .destroyed js => js
    | _ => []

/-- Each job goes from the queue to a worker that has it in its hands, that runs it, and that is
done with it. -/
structure Flow (q : JobQueue J) (hs : Multiset (Addr × Option J)) (xs : List (Entry J))
    (ev : Event J) (q' : JobQueue J) (hs' : Multiset (Addr × Option J)) (xs' : List (Entry J)) :
    Prop where
  owned : Owned q' hs' xs'
  queue : xs.map (·.2) ++ pushed [ev] = pulled [ev] ++ discarded [ev] ++ xs'.map (·.2)
  pending : ↑(pulled [ev]) + pendingIn q.heap hs = ↑(started [ev]) + pendingIn q'.heap hs'
  active : ↑(started [ev]) + activeIn hs = ↑(finished [ev]) + activeIn hs'

/-- What happens to the memory of other jobs does not matter to a worker. -/
theorem pending_frame {heap heap' : Heap (Node J)}
    (same : ∀ hand ∈ hs, heap' hand.1 = heap hand.1) :
    pendingIn heap' hs = pendingIn heap hs := by
  induction hs using Multiset.induction_on with
  | empty => rfl
  | cons hand rest ih =>
    have here := same hand (Multiset.mem_cons_self _ _)
    have others := ih fun other member => same other (Multiset.mem_cons_of_mem member)
    rw [pendingIn, pendingIn] at others
    rw [pendingIn, pendingIn, Multiset.filterMap_cons, Multiset.filterMap_cons, here, others]

theorem pending_cons {heap : Heap (Node J)} {node : Node J} (live : heap a = some node)
    (hs : Multiset (Addr × Option J)) :
    pendingIn heap ((a, none) ::ₘ hs) = node.value ::ₘ pendingIn heap hs :=
  Multiset.filterMap_cons_some _ _ _ (by simp [live])

theorem pending_running (heap : Heap (Node J)) (a : Addr) (j : J)
    (hs : Multiset (Addr × Option J)) :
    pendingIn heap ((a, some j) ::ₘ hs) = pendingIn heap hs :=
  Multiset.filterMap_cons_none _ _ rfl

theorem active_pending (a : Addr) (hs : Multiset (Addr × Option J)) :
    activeIn ((a, none) ::ₘ hs) = activeIn hs :=
  Multiset.filterMap_cons_none _ _ rfl

theorem active_cons (a : Addr) (j : J) (hs : Multiset (Addr × Option J)) :
    activeIn ((a, some j) ::ₘ hs) = j ::ₘ activeIn hs :=
  Multiset.filterMap_cons_some _ _ _ rfl

theorem Owned.outside {hand : Addr × Option J} (owned : Owned q hs xs) (member : hand ∈ hs) :
    hand.1 ∉ addrs xs :=
  fun there => Multiset.disjoint_left.mp (Multiset.nodup_add.mp owned.apart).2.2
    (Multiset.mem_map_of_mem _ member) there

theorem flow_nothing (owned : Owned q hs xs) (ev : Event J)
    (none_ : ev = .internal ∨ ev = .returned ∨ ev = .stopped) : Flow q hs xs ev q hs xs := by
  obtain rfl | rfl | rfl := none_ <;> exact ⟨owned, List.append_nil _, rfl, rfl⟩

theorem flow_push (owned : Owned q hs xs) (fresh : q.heap a = none)
    (pushes : jobqueue_push q a j = some q') :
    Flow q hs xs (.push j) q' hs (xs ++ [(a, j)]) := by
  obtain ⟨q₁, done, holds, kept, live⟩ := jobqueue_push_spec owned.holds fresh j
  rw [pushes] at done
  cases done
  have outside : ¬(a ∈ hs.map (·.1) ∨ a ∈ addrs xs) := fun member => (owned.live a).mpr member fresh
  refine ⟨⟨holds, ?_, fun b => ?_⟩, by simp [pushed, pulled, discarded], ?_, rfl⟩
  · have one : (↑(addrs (xs ++ [(a, j)])) : Multiset Addr) = a ::ₘ ↑(addrs xs) := by simp
    rw [one, Multiset.add_cons]
    exact Multiset.nodup_cons.mpr ⟨by simpa using outside, owned.apart⟩
  · rw [live, owned.live]
    simp [or_assoc]
  · refine congrArg _
      (pending_frame fun hand member => kept _ (fun same => ?_) (owned.outside member)).symm
    exact (not_or.mp outside).1 (same ▸ Multiset.mem_map_of_mem _ member)

theorem flow_pull (owned : Owned q hs xs) {job : Ptr} {more : Bool}
    (pulls : jobqueue_pull q = some (job, q', more)) :
    ∃ xs', Flow q hs xs (.pull ((load q.heap job).map (·.value))) q'
      (if let some a := job then (a, none) ::ₘ hs else hs) xs' := by
  cases xs with
  | nil =>
    rw [jobqueue_pull_empty owned.holds] at pulls
    cases pulls
    exact ⟨[], owned, rfl, rfl, rfl⟩
  | cons x xs =>
    obtain ⟨a, j⟩ := x
    obtain ⟨q₁, done, holds, heap, here⟩ := jobqueue_pull_spec owned.holds
    rw [pulls] at done
    cases done
    rw [here]
    refine ⟨xs, ⟨holds, ?_, fun b => ?_⟩, by simp [pushed, pulled, discarded], ?_, ?_⟩
    · have apart := owned.apart
      rw [addrs_cons, ← Multiset.cons_coe, Multiset.add_cons] at apart
      rwa [Multiset.map_cons, Multiset.cons_add]
    · rw [heap, owned.live]
      simp
      tauto
    · simp [pulled, started, pending_cons here, heap]
    · simp [started, finished, active_pending]

theorem flow_start {rest : Multiset (Addr × Option J)} {node : Node J}
    (owned : Owned q ((a, none) ::ₘ rest) xs) (live : q.heap a = some node) :
    Flow q ((a, none) ::ₘ rest) xs (.start node.value) q ((a, some node.value) ::ₘ rest) xs := by
  refine ⟨⟨owned.holds, ?_, fun b => ?_⟩, List.append_nil _, ?_, ?_⟩
  · simpa using owned.apart
  · simpa using owned.live b
  · simp [pulled, started, pending_cons live, pending_running]
  · simp [started, finished, active_pending, active_cons]

theorem flow_finish {heap : Heap (Node J)} (owned : Owned q ((a, some j) ::ₘ hs) xs)
    (freed : free q.heap (some a) = some heap) :
    Flow q ((a, some j) ::ₘ hs) xs (.finish j) { q with heap } hs xs := by
  have apart := owned.apart
  rw [Multiset.map_cons, Multiset.cons_add] at apart
  obtain ⟨gone, apart⟩ := Multiset.nodup_cons.mp apart
  rw [Multiset.mem_add, not_or] at gone
  obtain ⟨outsideH, outsideX⟩ := gone
  obtain ⟨node, live, rfl⟩ : ∃ node, q.heap a = some node ∧ drop q.heap a = heap := by
    simpa [free] using freed
  refine ⟨⟨⟨owned.holds.linked.drop_fresh outsideX, owned.holds.nodup, owned.holds.front,
    owned.holds.rear, owned.holds.len⟩, apart, fun b => ?_⟩, List.append_nil _, ?_, ?_⟩
  · by_cases here : b = a
    · rw [here]
      exact ⟨fun live => absurd (drop_self ..) live,
        fun member => (member.elim outsideH outsideX).elim⟩
    · refine (Eq.congr_left (drop_other here _)).not.trans ((owned.live b).trans ?_)
      rw [Multiset.map_cons, Multiset.mem_cons, or_iff_right here]
  · rw [pending_running]
    refine congrArg _ (pending_frame fun hand member => drop_other (fun same => outsideH ?_) _).symm
    have inside : hand.1 ∈ hs.map (·.1) := Multiset.mem_map_of_mem _ member
    rwa [same] at inside
  · simp [started, finished, active_cons]

theorem flow_destroyed (owned : Owned q hs xs) (cleared : jobqueue_clear q = some q') :
    Flow q hs xs (.destroyed (queued q.heap q.len q.front)) q' hs [] := by
  obtain ⟨q₁, done, holds, gone, kept⟩ := jobqueue_clear_spec owned.holds
  rw [cleared] at done
  cases done
  rw [owned.holds.len, owned.holds.front, queued_spec owned.holds.linked]
  refine ⟨⟨holds, ?_, fun b => ?_⟩, by simp [pushed, pulled, discarded], ?_, rfl⟩
  · simpa using (Multiset.nodup_add.mp owned.apart).1
  · by_cases there : b ∈ addrs xs
    · have outside : b ∉ hs.map (·.1) := fun inside =>
        Multiset.disjoint_left.mp (Multiset.nodup_add.mp owned.apart).2.2 inside there
      rw [gone b there]
      simpa using outside
    · rw [kept b there, owned.live]
      simp [there]
  · exact congrArg _ (pending_frame fun hand member => kept _ (owned.outside member)).symm

theorem handles_flow (owned : Owned q hs xs) (handles : Handles q hs ev q' hs') :
    ∃ xs', Flow q hs xs ev q' hs' xs' := by
  cases handles with
  | nothing none_ same =>
    subst same
    exact ⟨xs, flow_nothing owned ev none_⟩
  | push newjob j fresh pushes same =>
    subst same
    exact ⟨_, flow_push owned fresh pushes⟩
  | pull job more pulls same =>
    subst same
    exact flow_pull owned pulls
  | start job node rest live one two =>
    subst one two
    exact ⟨xs, flow_start owned live⟩
  | finish job j freed same =>
    subst same
    exact ⟨xs, flow_finish owned freed⟩
  | destroyed cleared same =>
    subst same
    exact ⟨[], flow_destroyed owned cleared⟩

def Pool.pending (t : Pool J) : Multiset J := pendingIn t.jobqueue.heap (hands t.room)

def Pool.active (t : Pool J) : Multiset J := activeIn (hands t.room)

theorem hands_replicate (p : Phase J) (none_ : p.hand = none) (n : Nat) :
    hands (Multiset.replicate n p) = 0 := by
  induction n with
  | zero => rfl
  | succ n ih => rw [Multiset.replicate_succ, hands_none none_, ih]

theorem owned_init (num_threads : Nat) :
    Owned (thpool_init num_threads : Pool J).jobqueue
      (hands (thpool_init num_threads : Pool J).room) [] := by
  rw [thpool_init, hands_replicate _ rfl]
  exact ⟨⟨trivial, .nil, rfl, rfl, rfl⟩, Multiset.nodup_zero, fun b => by simp [empty]⟩

theorem step_freed (stepped : Step t ev t') (kept : t'.freed = false) : discarded [ev] = [] := by
  cases stepped with
  | destroyed => cases kept
  | _ => rfl

theorem pushed_append (trace more : List (Event J)) :
    pushed (trace ++ more) = pushed trace ++ pushed more :=
  List.flatMap_append

theorem pulled_append (trace more : List (Event J)) :
    pulled (trace ++ more) = pulled trace ++ pulled more :=
  List.flatMap_append

theorem started_append (trace more : List (Event J)) :
    started (trace ++ more) = started trace ++ started more :=
  List.flatMap_append

theorem finished_append (trace more : List (Event J)) :
    finished (trace ++ more) = finished trace ++ finished more :=
  List.flatMap_append

/-- Where the jobs are after a run. -/
structure Kept (trace : List (Event J)) (t : Pool J) (xs : List (Entry J)) : Prop where
  owned : Owned t.jobqueue (hands t.room) xs
  order : t.freed = false → pushed trace = pulled trace ++ xs.map (·.2)
  pending : (↑(pulled trace) : Multiset J) = ↑(started trace) + t.pending
  active : (↑(started trace) : Multiset J) = ↑(finished trace) + t.active

theorem handed_on {all passed out in_ rest rest' : Multiset J} (before : all = passed + rest)
    (step : in_ + rest = out + rest') : all + in_ = passed + out + rest' := by
  calc all + in_ = passed + (in_ + rest) := by
        rw [before, Multiset.add_assoc, Multiset.add_comm rest]
    _ = passed + out + rest' := by rw [step, Multiset.add_assoc]

theorem Kept.step {trace : List (Event J)} (kept : Kept trace t xs) (moves : Moves t ev t') :
    ∃ xs', Kept (trace ++ [ev]) t' xs' := by
  obtain ⟨here, stepped⟩ := moves
  obtain ⟨xs', flow⟩ := handles_flow kept.owned (step_handles stepped)
  refine ⟨xs', flow.owned, fun stays => ?_, ?_, ?_⟩
  · have queue := flow.queue
    rw [step_freed stepped stays, List.append_nil] at queue
    rw [pushed_append, pulled_append, kept.order here, List.append_assoc, queue, List.append_assoc]
  · rw [pulled_append, started_append, ← Multiset.coe_add, ← Multiset.coe_add]
    exact handed_on kept.pending flow.pending
  · rw [started_append, finished_append, ← Multiset.coe_add, ← Multiset.coe_add]
    exact handed_on kept.active flow.active

theorem run_kept {n : Nat} {trace : List (Event J)}
    (reached : Reaches Moves (thpool_init n) trace t) :
    ∃ xs, Kept trace t xs := by
  induction reached with
  | start =>
    have nobody : hands (thpool_init n : Pool J).room = 0 := hands_replicate _ rfl n
    refine ⟨[], owned_init n, fun _ => rfl, ?_, ?_⟩
    · rw [Pool.pending, nobody]
      rfl
    · rw [Pool.active, nobody]
      rfl
  | step _ moves ih =>
    obtain ⟨xs, kept⟩ := ih
    exact kept.step moves

theorem signal_top {asleep : Phase J → Prop} (other : ¬asleep .top) :
    Signal asleep Phase.woken (.top ::ₘ 0) (.top ::ₘ 0) :=
  .lost fun p member => by rwa [Multiset.mem_singleton.mp member]

theorem signal_nobody (asleep : Phase J → Prop) : Signal asleep Phase.woken 0 0 :=
  .lost fun p member => absurd member (Multiset.notMem_zero p)

theorem signals_nobody (working : Int) : Signals working (0 : Multiset (Phase J)) 0 := by
  rw [Signals]
  split
  · exact signal_nobody _
  · rfl

/-- The thread that moves, and the others. -/
theorem split_room (p : Phase J) (rest : Multiset (Phase J)) {room : Multiset (Phase J)}
    (same : room = p ::ₘ rest) :
    room = p ::ₘ rest := same

theorem one_job_started : ∃ t, Reaches Moves (thpool_init 1 : Pool Nat)
    [.push 7, .internal, .internal, .internal, .internal, .internal, .pull (some 7), .start 7] t ∧
    t.freed = false :=
  ⟨_, .step (.step (.step (.step (.step (.step (.step (.step .start
    ⟨rfl, .push 0 rfl rfl rfl⟩)
    ⟨rfl, .posts (split_room .posting (.top ::ₘ 0) rfl) (signal_top nofun)⟩)
    ⟨rfl, .goes (split_room .top 0 rfl) (.keepsOn rfl)⟩)
    ⟨rfl, .takes (split_room .awake 0 rfl) rfl⟩)
    ⟨rfl, .goes (split_room .chosen 0 rfl) (.mayWork rfl)⟩)
    ⟨rfl, .counts (split_room .going 0 rfl)⟩)
    ⟨rfl, .pulls false (split_room .counted 0 rfl) rfl rfl rfl⟩)
    ⟨rfl, .starts ⟨none, 7⟩ (split_room (.holding (some 0)) 0 rfl) rfl⟩, rfl⟩

/-- Whatever the threads did with a pool so far: no call runs through a bad pointer, no two workers
have the same job, a job in the hands of a worker is in memory, and every job in memory is in the
queue or in the hands of a worker. -/
theorem pool_memory_safe {n : Nat} {trace : List (Event J)}
    (reached : Reaches Moves (thpool_init n) trace t) :
    (t.freed = false →
    (∀ newjob j, t.jobqueue.heap newjob = none → (jobqueue_push t.jobqueue newjob j).isSome) ∧
      (jobqueue_pull t.jobqueue).isSome ∧ (jobqueue_clear t.jobqueue).isSome) ∧
    ((hands t.room).map (·.1)).Nodup ∧
    (∀ job, .holding (some job) ∈ t.room → (t.jobqueue.heap job).isSome) ∧
    (∀ job j, .running job j ∈ t.room → (free t.jobqueue.heap (some job)).isSome) ∧
    ∃ xs, Holds t.jobqueue xs ∧
      ∀ b, t.jobqueue.heap b ≠ none → b ∈ (hands t.room).map (·.1) ∨ b ∈ addrs xs := by
  obtain ⟨xs, kept⟩ := run_kept reached
  obtain ⟨holds, apart, live⟩ := kept.owned
  have inHand {p : Phase J} {hand : Addr × Option J} (member : p ∈ t.room)
      (same : p.hand = some hand) :
      ∃ node, t.jobqueue.heap hand.1 = some node :=
    Option.ne_none_iff_exists'.mp ((live hand.1).mpr (.inl (Multiset.mem_map_of_mem _
      ((Multiset.mem_filterMap _ _).mpr ⟨p, member, same⟩))))
  refine ⟨fun _ => ⟨fun newjob j fresh => ?_, ?_, ?_⟩, (Multiset.nodup_add.mp apart).1,
    fun job member => ?_, fun job j member => ?_, xs, holds, fun b => (live b).mp⟩
  · obtain ⟨q', done, -⟩ := jobqueue_push_spec holds fresh j
    rw [done]
    rfl
  · cases xs with
    | nil =>
      rw [jobqueue_pull_empty holds]
      rfl
    | cons x xs =>
      obtain ⟨q', done, -⟩ := jobqueue_pull_spec holds
      rw [done]
      rfl
  · obtain ⟨q', done, -⟩ := jobqueue_clear_spec holds
    rw [done]
    rfl
  · obtain ⟨node, there⟩ := inHand member rfl
    rw [there]
    rfl
  · obtain ⟨node, there⟩ := inHand member rfl
    rw [free_live there]
    rfl

theorem pool_memory_safe_one : ∃ t, Reaches Moves (thpool_init 1 : Pool Nat)
    [.push 7, .internal, .internal, .internal, .internal, .internal, .pull (some 7), .start 7] t ∧
    ((hands t.room).map (·.1)).Nodup ∧ (jobqueue_pull t.jobqueue).isSome := by
  obtain ⟨t, reached, kept⟩ := one_job_started
  obtain ⟨queue, nodup, -⟩ := pool_memory_safe reached
  exact ⟨t, reached, nodup, (queue kept).2.1⟩

/-- Jobs leave the queue in the order in which they came. Each one that left is in the hands of a
worker, is run by a worker, or is finished, and never twice. -/
theorem jobs_run_in_order {n : Nat} {trace : List (Event J)}
    (reached : Reaches Moves (thpool_init n) trace t) (kept : t.freed = false) :
    ∃ xs, Holds t.jobqueue xs ∧ pushed trace = pulled trace ++ xs.map (·.2) ∧
      (↑(pulled trace) : Multiset J) = ↑(started trace) + t.pending ∧
      (↑(started trace) : Multiset J) = ↑(finished trace) + t.active := by
  obtain ⟨xs, there⟩ := run_kept reached
  exact ⟨xs, there.owned.holds, there.order kept, there.pending, there.active⟩

theorem jobs_run_in_order_one : ∃ (t : Pool Nat) (xs : List (Entry Nat)), Holds t.jobqueue xs ∧
    [7] = [7] ++ xs.map (·.2) ∧ ({7} : Multiset Nat) = t.active := by
  obtain ⟨t, reached, kept⟩ := one_job_started
  obtain ⟨xs, holds, order, -, active⟩ := jobs_run_in_order reached kept
  exact ⟨t, xs, holds, order, active.trans (Multiset.zero_add _)⟩

end HiMaxGateway.Thpool
