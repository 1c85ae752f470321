import HiMaxGateway.ThpoolJobs

/-! The threads of a pool that sleep: workers without a job, and the thread that waits until all
jobs are finished. -/
namespace HiMaxGateway.Thpool
open Cells SinglyLinked Waiters Run

variable {J : Type} {t t' : Pool J} {p p' : Phase J} {ev : Event J} {trace : List (Event J)}
  {room room' rest : Multiset (Phase J)}

namespace Phase

def worker : Phase J → Bool
  | .posting | .checking | .waiting | .destroying => false
  | _ => true

/-- The worker counts as working. -/
def working : Phase J → Bool
  | .counted | .reposting _ | .holding _ | .running .. | .done => true
  | _ => false

/-- A pull or a post by this thread is to come. -/
def committed : Phase J → Bool
  | .chosen | .going | .counted | .posting | .reposting _ => true
  | _ => false

/-- The worker is about to look at the semaphore. -/
def looks : Phase J → Bool
  | .awake => true
  | _ => false

/-- The thread is in `thpool_wait`. -/
def waits : Phase J → Bool
  | .checking | .waiting => true
  | _ => false

/-- A worker on its way out, or a thread in `thpool_destroy`. -/
def ending : Phase J → Bool
  | .leaving | .destroying => true
  | _ => false

end Phase

/-- How many threads of the room are of the kind. -/
def count (kind : Phase J → Bool) (room : Multiset (Phase J)) : Nat :=
  room.countP fun p => kind p = true

variable {kind : Phase J → Bool}

theorem count_cons (kind : Phase J → Bool) (p : Phase J) (rest : Multiset (Phase J)) :
    count kind (p ::ₘ rest) = count kind rest + if kind p then 1 else 0 :=
  Multiset.countP_cons ..

theorem count_pos (member : p ∈ room) (of_kind : kind p = true) : 0 < count kind room :=
  Multiset.countP_pos.mpr ⟨p, member, of_kind⟩

theorem count_zero (none_ : count kind room = 0) (member : p ∈ room) : kind p = false :=
  eq_false_of_ne_true fun of_kind => Nat.ne_of_gt (count_pos member of_kind) none_

theorem count_signal {asleep : Phase J → Prop} (signal : Signal asleep Phase.woken room room')
    (same : ∀ p : Phase J, kind p.woken = kind p) : count kind room' = count kind room :=
  signal.countP fun p => by rw [same]

theorem count_signals {working : Int} (signals : Signals working room room')
    (same : ∀ p : Phase J, kind p.woken = kind p) : count kind room' = count kind room := by
  rw [Signals] at signals
  split at signals
  · exact count_signal signals same
  · rw [signals]

theorem count_broadcast (same : ∀ p : Phase J, kind p.wokenWorker = kind p)
    (room : Multiset (Phase J)) :
    count kind (room.map Phase.wokenWorker) = count kind room := by
  rw [count, Multiset.countP_map, count, Multiset.countP_eq_card_filter]
  simp only [same]

theorem worker_woken (p : Phase J) : p.woken.worker = p.worker := by cases p <;> rfl

theorem working_woken (p : Phase J) : p.woken.working = p.working := by cases p <;> rfl

theorem worker_wokenWorker (p : Phase J) : p.wokenWorker.worker = p.worker := by cases p <;> rfl

theorem working_wokenWorker (p : Phase J) : p.wokenWorker.working = p.working := by cases p <;> rfl

/-- The counters of the pool count its workers. -/
structure Counted (t : Pool J) : Prop where
  working : t.num_threads_working = count Phase.working t.room
  alive : t.num_threads_alive = count Phase.worker t.room

theorem Goes.counts (goes : Goes t p p') : p'.working = p.working ∧ p'.worker = p.worker := by
  cases goes with
  | wakesUp => exact ⟨working_woken p, worker_woken p⟩
  | _ => exact ⟨rfl, rfl⟩

theorem step_counted (counted : Counted t) (stepped : Step t ev t') : Counted t' := by
  obtain ⟨working, alive⟩ := counted
  cases stepped with
  | goes room moves =>
    obtain ⟨one, two⟩ := moves.counts
    rw [room, count_cons] at working alive
    exact ⟨by rw [count_cons, one]; exact working, by rw [count_cons, two]; exact alive⟩
  | push | wait | destroy => constructor <;> simpa [count_cons, Phase.working, Phase.worker]
  | destroyOther | initOther => exact ⟨working, alive⟩
  | posts room signal =>
    rw [room, count_cons] at working alive
    exact ⟨by rw [count_signal signal working_woken]; exact working,
      by rw [count_signal signal worker_woken]; exact alive⟩
  | takes room | starts _ room | finishes room | returns room | destroyed room =>
    rw [room, count_cons] at working alive
    constructor <;> simpa [count_cons, Phase.working, Phase.worker]
  | counts room | leaves room =>
    rw [room, count_cons] at working alive
    constructor <;> simp [count_cons, Phase.working, Phase.worker] at working alive ⊢ <;> omega
  | pulls more room =>
    rw [room, count_cons] at working alive
    cases more <;> constructor <;> simpa [count_cons, Phase.working, Phase.worker]
  | reposts room signal =>
    rw [room, count_cons, ← count_signal signal working_woken] at working
    rw [room, count_cons, ← count_signal signal worker_woken] at alive
    constructor <;> simpa [count_cons, Phase.working, Phase.worker]
  | uncounts room signals =>
    rw [room, count_cons, ← count_signals signals working_woken] at working
    rw [room, count_cons, ← count_signals signals worker_woken] at alive
    constructor <;> simp [count_cons, Phase.working, Phase.worker] at working alive ⊢ <;> omega
  | postsAll room =>
    rw [room, count_cons, ← count_broadcast working_wokenWorker] at working
    rw [room, count_cons, ← count_broadcast worker_wokenWorker] at alive
    constructor <;> simpa [count_cons, Phase.working, Phase.worker]

theorem count_replicate (kind : Phase J → Bool) (p : Phase J) (n : Nat) :
    count kind (Multiset.replicate n p) = if kind p then n else 0 := by
  induction n with
  | zero => simp [count]
  | succ n ih =>
    rw [Multiset.replicate_succ, count_cons, ih]
    split <;> rfl

theorem counted_init (num_threads : Nat) : Counted (thpool_init num_threads : Pool J) where
  working := by rw [thpool_init, count_replicate]; rfl
  alive := by rw [thpool_init, count_replicate]; rfl

theorem run_counted {n : Nat} (reached : Reaches Moves (thpool_init n) trace t) : Counted t :=
  invariant Counted (counted_init n) (fun _ _ _ counted moves => step_counted counted moves.2)
    reached

/-- The workers that are left are some of those that there were. -/
theorem step_alive (stepped : Step t ev t') : t'.num_threads_alive ≤ t.num_threads_alive := by
  cases stepped with
  | leaves => exact Int.sub_le_self _ (by decide)
  | _ => exact Int.le_refl _

/-- Who has a job in hand is a worker, and counts as working. -/
theorem hand_working {hand : Addr × Option J} (has : p.hand = some hand) :
    p.worker = true ∧ p.working = true := by
  cases p with
  | reposting | holding | running => exact ⟨rfl, rfl⟩
  | _ => cases has

theorem hands_le (room : Multiset (Phase J)) :
    Multiset.card (hands room) ≤ count Phase.worker room := by
  induction room using Multiset.induction_on with
  | empty => exact Nat.le_refl _
  | cons p rest ih =>
    rw [count_cons]
    cases has : p.hand with
    | none =>
      rw [hands_none has]
      exact Nat.le_add_right_of_le ih
    | some hand =>
      rw [hands_some has, Multiset.card_cons, if_pos (hand_working has).1]
      exact Nat.succ_le_succ ih

/-- A job in hand is about to start, or is run. -/
theorem pending_active_le (heap : Heap (Node J)) (hs : Multiset (Addr × Option J)) :
    Multiset.card (pendingIn heap hs) + Multiset.card (activeIn hs) ≤ Multiset.card hs := by
  induction hs using Multiset.induction_on with
  | empty => exact Nat.le_refl _
  | cons hand rest ih =>
    obtain ⟨a, runs⟩ := hand
    rw [Multiset.card_cons]
    cases runs with
    | some j =>
      rw [pending_running, active_cons, Multiset.card_cons]
      omega
    | none =>
      rw [active_pending]
      cases here : heap a with
      | none =>
        rw [pendingIn, Multiset.filterMap_cons_none _ _ (by simp [here]), ← pendingIn]
        omega
      | some node =>
        rw [pending_cons here, Multiset.card_cons]
        omega

theorem alive_le {n : Nat} (reached : Reaches Moves (thpool_init n) trace t) :
    count Phase.worker t.room ≤ n := by
  have alive : t.num_threads_alive ≤ n :=
    invariant (fun t => t.num_threads_alive ≤ (n : Int)) (Int.le_refl _)
      (fun _ _ _ alive moves => Int.le_trans (step_alive moves.2) alive) reached
  rw [(run_counted reached).alive] at alive
  exact Int.ofNat_le.mp alive

/-- A pool never runs more jobs at a time than it has threads. -/
theorem runs_at_most_num_threads {n : Nat} (reached : Reaches Moves (thpool_init n) trace t) :
    (started trace).length ≤ (finished trace).length + n := by
  obtain ⟨xs, kept⟩ := run_kept reached
  have active := congrArg Multiset.card kept.active
  have parts := pending_active_le t.jobqueue.heap (hands t.room)
  have workers := hands_le t.room
  have alive := alive_le reached
  rw [Multiset.card_add, Multiset.coe_card, Multiset.coe_card, Pool.active] at active
  omega

theorem runs_at_most_num_threads_one : ∃ trace : List (Event Nat), started trace = [7] ∧
    (started trace).length ≤ (finished trace).length + 1 := by
  obtain ⟨t, reached, -⟩ := one_job_started
  exact ⟨_, rfl, runs_at_most_num_threads reached⟩

theorem pull_last {q q' : JobQueue J} {job : Ptr}
    (pulls : jobqueue_pull q = some (job, q', false)) : q'.len = 0 := by
  rcases length : q.len with _ | _ | len
  · simp only [jobqueue_pull, length, Option.some.injEq, Prod.mk.injEq] at pulls
    rw [← pulls.2.1, length]
  · simp only [jobqueue_pull, length, Option.some.injEq, Prod.mk.injEq] at pulls
    rw [← pulls.2.1]
  · simp only [jobqueue_pull, length] at pulls
    obtain ⟨node, -, same⟩ := Option.bind_eq_some_iff.mp pulls
    cases same

theorem clear_len {q q' : JobQueue J} (cleared : jobqueue_clear q = some q') : q'.len = 0 := by
  obtain ⟨q₁, -, done⟩ := Option.bind_eq_some_iff.mp cleared
  cases done
  rfl

theorem committed_woken (p : Phase J) : p.woken.committed = p.committed := by cases p <;> rfl

theorem ending_woken (p : Phase J) : p.woken.ending = p.ending := by cases p <;> rfl

/-- Nobody ends the `n` workers. -/
structure Manned (n : Nat) (t : Pool J) : Prop where
  keepalive : t.threads_keepalive = true
  ending : count Phase.ending t.room = 0
  alive : t.num_threads_alive = n
  kept : t.freed = false

theorem step_manned {n : Nat} (manned : Manned n t) (stepped : Step t ev t')
    (other : ev ≠ .stopped) : Manned n t' := by
  obtain ⟨keepalive, ending, alive, kept⟩ := manned
  cases stepped with
  | goes room moves =>
    rw [room, count_cons] at ending
    refine ⟨keepalive, ?_, alive, kept⟩
    rw [count_cons]
    cases moves with
    | wakesUp => rwa [ending_woken]
    | stops stop => exact absurd (keepalive.symm.trans stop) (by decide)
    | _ => exact ending
  | push | wait => exact ⟨keepalive, by rw [count_cons]; exact ending, alive, kept⟩
  | posts room signal =>
    rw [room, count_cons] at ending
    exact ⟨keepalive, (count_signal signal ending_woken).trans ending, alive, kept⟩
  | takes room | counts room | starts _ room | finishes room =>
    rw [room, count_cons] at ending
    exact ⟨keepalive, by rw [count_cons]; exact ending, alive, kept⟩
  | pulls more room =>
    rw [room, count_cons] at ending
    refine ⟨keepalive, ?_, alive, kept⟩
    cases more <;> exact (count_cons ..).trans ending
  | reposts room signal =>
    rw [room, count_cons] at ending
    refine ⟨keepalive, ?_, alive, kept⟩
    rw [count_cons, count_signal signal ending_woken]
    exact ending
  | uncounts room signals =>
    rw [room, count_cons] at ending
    refine ⟨keepalive, ?_, alive, kept⟩
    rw [count_cons, count_signals signals ending_woken]
    exact ending
  | leaves room | postsAll room | destroyed room =>
    cases count_zero ending (room ▸ Multiset.mem_cons_self _ _)
  | returns room =>
    rw [room, count_cons] at ending
    exact ⟨keepalive, ending, alive, kept⟩
  | destroy | destroyOther => exact absurd rfl other
  | initOther => exact ⟨rfl, ending, alive, kept⟩

/-- The semaphore stands at one while jobs are in the queue, or some thread is about to pull or to
post. -/
def Served (t : Pool J) : Prop :=
  t.jobqueue.len ≠ 0 → t.has_jobs = 1 ∨ 0 < count Phase.committed t.room

/-- A worker that was chosen pulls, unless it is to stop. -/
theorem step_served {n : Nat} (manned : Manned n t) (served : Served t) (stepped : Step t ev t') :
    Served t' := by
  intro jobs
  cases stepped with
  | goes room moves =>
    have before := served jobs
    rw [room, count_cons] at before
    rw [count_cons]
    cases moves with
    | wakesUp => rwa [committed_woken]
    | mustStop stop => exact absurd (manned.keepalive.symm.trans stop) (by decide)
    | _ => exact before
  | push | takes | counts => exact .inr (count_pos (Multiset.mem_cons_self _ _) rfl)
  | posts | reposts | postsAll => exact .inl rfl
  | pulls more room open_ pulls =>
    cases more with
    | false => exact absurd (pull_last pulls) jobs
    | true => exact .inr (count_pos (Multiset.mem_cons_self _ _) rfl)
  | starts _ room | finishes room =>
    have before := served jobs
    rw [room, count_cons] at before
    rwa [count_cons]
  | leaves room | returns room =>
    have before := served jobs
    rwa [room, count_cons] at before
  | uncounts room signals =>
    have before := served jobs
    rw [room, count_cons] at before
    rw [count_cons, count_signals signals committed_woken]
    exact before
  | wait | destroy =>
    rw [count_cons]
    exact served jobs
  | destroyed room alive open_ cleared => exact absurd (clear_len cleared) jobs
  | destroyOther | initOther => exact served jobs

/-- While the semaphore stands at one and workers sleep, one of them is about to look at it. -/
def Attended (t : Pool J) : Prop :=
  t.has_jobs = 1 → Covered (· = .asleep) (fun p : Phase J => p.looks = true) 1 t.room

theorem looks_woken (p : Phase J) (looks : p.looks = true) : p.woken.looks = true := by
  cases p with
  | awake => rfl
  | _ => cases looks

theorem not_asleep_woken (p : Phase J) : p.woken ≠ .asleep := by
  intro same
  cases p <;> cases same

theorem not_asleep_wokenWorker (p : Phase J) : p.wokenWorker ≠ .asleep := by
  intro same
  cases p <;> cases same

theorem posted (signal : Signal (· = .asleep) Phase.woken room room') :
    Covered (· = .asleep) (fun p : Phase J => p.looks = true) 1 room' :=
  covered_zero.signal (fun p slept => by rw [slept]; rfl)
    (fun p slept looks => by rw [slept] at looks; cases looks) signal

theorem step_attended (attended : Attended t) (stepped : Step t ev t') : Attended t' := by
  intro one
  cases stepped with
  | goes room moves =>
    have before := attended one
    rw [room] at before
    cases moves with
    | sleeps other => exact absurd one other
    | wakesUp => exact before.moves (looks_woken _) (fun slept => absurd slept (not_asleep_woken _))
    | _ => exact before.moves (fun same => by cases same) (fun same => by cases same)
  | push | wait | destroy => exact (attended one).joins (fun same => by cases same)
  | posts room signal => exact posted signal
  | reposts room signal => exact (posted signal).joins (fun same => by cases same)
  | takes | destroyed => cases one
  | counts room | starts _ room | finishes room =>
    have before := attended one
    rw [room] at before
    exact before.moves (fun same => by cases same) (fun same => by cases same)
  | pulls more room =>
    have before := attended one
    rw [room] at before
    cases more <;> exact before.moves (fun same => by cases same) (fun same => by cases same)
  | uncounts room signals =>
    have before := attended one
    rw [room] at before
    have others := before.leaves (fun same => by cases same)
    rw [Signals] at signals
    split at signals
    · refine (others.other signals ?_ ?_).joins (fun same => by cases same)
      · exact fun p _ => looks_woken p
      · exact fun p _ slept => absurd slept (not_asleep_woken p)
    · rw [signals]
      exact others.joins (fun same => by cases same)
  | leaves room | returns room =>
    have before := attended one
    rw [room] at before
    exact before.leaves (fun same => by cases same)
  | postsAll room =>
    refine covered_of_none
      (Multiset.forall_mem_cons.mpr
      ⟨(fun same => by cases same), Multiset.forall_mem_map_iff.mpr fun p _ => ?_⟩)
    exact not_asleep_wokenWorker p
  | destroyOther | initOther => exact attended one

/-- No pool of the process is destroyed meanwhile. -/
theorem run_served {n : Nat} (reached : Reaches Moves (thpool_init n) trace t)
    (lives : .stopped ∉ trace) : Manned n t ∧ Served t := by
  induction reached with
  | start =>
    refine ⟨⟨rfl, ?_, rfl, rfl⟩, fun none_ => absurd rfl none_⟩
    rw [thpool_init, count_replicate]
    rfl
  | step _ moves ih =>
    rw [List.mem_append, List.mem_singleton, not_or] at lives
    obtain ⟨manned, served⟩ := ih lives.1
    exact ⟨step_manned manned moves.2 (Ne.symm lives.2), step_served manned served moves.2⟩

theorem run_attended {n : Nat} (reached : Reaches Moves (thpool_init n) trace t) : Attended t :=
  invariant Attended (fun one => by cases one)
    (fun _ _ _ attended moves => step_attended attended moves.2) reached

/-- While a worker sleeps and jobs are in the queue, some thread is about to look at the semaphore,
to pull, or to post: a job is not left behind, as long as no pool of the process is destroyed. -/
theorem idle_worker_gets_job {n : Nat} (reached : Reaches Moves (thpool_init n) trace t)
    (lives : .stopped ∉ trace) (jobs : t.jobqueue.len ≠ 0) (sleeps : .asleep ∈ t.room) :
    ∃ p ∈ t.room, p.looks = true ∨ p.committed = true := by
  rcases (run_served reached lives).2 jobs with one | some_
  · obtain ⟨p, member, looks⟩ :=
      Multiset.countP_pos.mp (run_attended reached one ⟨_, sleeps, rfl⟩)
    exact ⟨p, member, .inl looks⟩
  · obtain ⟨p, member, committed⟩ := Multiset.countP_pos.mp some_
    exact ⟨p, member, .inr committed⟩

theorem idle_worker_and_job : ∃ t,
    Reaches Moves (thpool_init 1 : Pool Nat) [.internal, .internal, .push 7] t ∧
      t.jobqueue.len ≠ 0 ∧ .asleep ∈ t.room :=
  ⟨_, .step (.step (.step .start
    ⟨rfl, .goes (split_room .top 0 rfl) (.keepsOn rfl)⟩)
    ⟨rfl, .goes (split_room .awake 0 rfl) (.sleeps nofun)⟩)
    ⟨rfl, .push 0 rfl rfl rfl⟩, nofun, by simp⟩

theorem idle_worker_gets_job_one : ∃ t,
    Reaches Moves (thpool_init 1 : Pool Nat) [.internal, .internal, .push 7] t ∧
      ∃ p ∈ t.room, p.looks = true ∨ p.committed = true := by
  obtain ⟨t, reached, jobs, sleeps⟩ := idle_worker_and_job
  exact ⟨t, reached, idle_worker_gets_job reached (by simp) jobs sleeps⟩

/-- The destruction of another pool ends the workers of this one, and its jobs stay. -/
theorem job_left_behind : ∃ t,
    Reaches Moves (thpool_init 1 : Pool Nat) [.push 7, .internal, .stopped, .internal, .internal]
      t ∧ t.jobqueue.len = 1 ∧ t.room = 0 ∧ t.freed = false :=
  ⟨_, .step (.step (.step (.step (.step .start
    ⟨rfl, .push 0 rfl rfl rfl⟩)
    ⟨rfl, .posts (split_room .posting (.top ::ₘ 0) rfl) (signal_top nofun)⟩)
    ⟨rfl, .destroyOther⟩)
    ⟨rfl, .goes (split_room .top 0 rfl) (.stops rfl)⟩)
    ⟨rfl, .leaves (split_room .leaving 0 rfl)⟩, rfl, rfl, rfl⟩

theorem hands_idle (idle : ∀ p ∈ room, p.hand = none) : hands room = 0 := by
  induction room using Multiset.induction_on with
  | empty => rfl
  | cons p rest ih =>
    rw [hands_none (idle p (Multiset.mem_cons_self _ _))]
    exact ih fun r member => idle r (Multiset.mem_cons_of_mem member)

/-- Where no worker has a job in hand, all jobs that left the queue are finished. -/
theorem Kept.all_finished {xs : List (Entry J)} (kept : Kept trace t xs)
    (idle : ∀ p ∈ t.room, p.hand = none) :
    (pulled trace).Perm (finished trace) := by
  have pending := kept.pending
  have active := kept.active
  rw [Pool.pending, hands_idle idle] at pending
  rw [Pool.active, hands_idle idle] at active
  exact Multiset.coe_eq_coe.mp
    (pending.trans ((Multiset.add_zero _).trans (active.trans (Multiset.add_zero _))))

theorem idle_of_zero {kind : Phase J → Bool}
    (busy : ∀ p hand, Phase.hand (J := J) p = some hand → kind p = true)
    (none_ : count kind room = 0) : ∀ p ∈ room, p.hand = none := by
  intro p member
  cases has : p.hand with
  | none => rfl
  | some hand =>
    have other := count_zero none_ member
    rw [busy p hand has] at other
    cases other

/-- `thpool_wait` returns only when all jobs that were added are finished. -/
theorem wait_returns_when_finished {n : Nat} (reached : Reaches Moves (thpool_init n) trace t)
    (returns : Moves t .returned t') : (pushed trace).Perm (finished trace) := by
  obtain ⟨here, stepped⟩ := returns
  obtain ⟨xs, kept⟩ := run_kept reached
  have counted := run_counted reached
  cases stepped with
  | returns room empty idle =>
    have none_ : xs = [] := List.eq_nil_of_length_eq_zero (kept.owned.holds.len.symm.trans empty)
    have order := kept.order here
    rw [none_, List.map_nil, List.append_nil] at order
    rw [order]
    refine kept.all_finished (idle_of_zero (fun p hand has => (hand_working has).2) ?_)
    exact Int.natCast_eq_zero.mp (counted.working.symm.trans idle)

theorem one_job_waited_for : ∃ t t', Reaches Moves (thpool_init 1 : Pool Nat)
    [.push 7, .internal, .internal, .internal, .internal, .internal, .pull (some 7), .start 7,
      .finish 7, .internal, .internal] t ∧ Moves t .returned t' :=
  ⟨_, _, .step (.step (.step (.step (.step (.step (.step (.step (.step (.step (.step .start
    ⟨rfl, .push 0 rfl rfl rfl⟩)
    ⟨rfl, .posts (split_room .posting (.top ::ₘ 0) rfl) (signal_top nofun)⟩)
    ⟨rfl, .goes (split_room .top 0 rfl) (.keepsOn rfl)⟩)
    ⟨rfl, .takes (split_room .awake 0 rfl) rfl⟩)
    ⟨rfl, .goes (split_room .chosen 0 rfl) (.mayWork rfl)⟩)
    ⟨rfl, .counts (split_room .going 0 rfl)⟩)
    ⟨rfl, .pulls false (split_room .counted 0 rfl) rfl rfl rfl⟩)
    ⟨rfl, .starts ⟨none, 7⟩ (split_room (.holding (some 0)) 0 rfl) rfl⟩)
    ⟨rfl, .finishes (split_room (.running 0 7) 0 rfl) rfl⟩)
    ⟨rfl, .uncounts (split_room .done 0 rfl) (signals_nobody _)⟩)
    ⟨rfl, .wait⟩, rfl, .returns (split_room .checking (.top ::ₘ 0) rfl) rfl rfl⟩

theorem wait_returns_when_finished_one : ∃ trace : List (Event Nat), pushed trace = [7] ∧
    (pushed trace).Perm (finished trace) := by
  obtain ⟨t, t', reached, returns⟩ := one_job_waited_for
  exact ⟨_, rfl, wait_returns_when_finished reached returns⟩

/-- The one worker stops before it has taken the job. -/
theorem never_started : ∃ t t', Reaches Moves (thpool_init 1 : Pool Nat)
    [.push 7, .internal, .stopped, .internal, .internal] t ∧ Moves t (.destroyed [7]) t' :=
  ⟨_, _, .step (.step (.step (.step (.step .start
    ⟨rfl, .push 0 rfl rfl rfl⟩)
    ⟨rfl, .posts (split_room .posting (.top ::ₘ 0) rfl) (signal_top nofun)⟩)
    ⟨rfl, .destroy⟩)
    ⟨rfl, .goes (split_room .top (.destroying ::ₘ 0)
      (Multiset.cons_swap Phase.destroying Phase.top 0)) (.stops rfl)⟩)
    ⟨rfl, .leaves (split_room .leaving (.destroying ::ₘ 0) rfl)⟩, rfl,
    .destroyed (split_room .destroying 0 rfl) rfl rfl rfl rfl⟩

/-- A thread that waits for the pool does so for a job in the queue, or for a worker. -/
def Awaited (t : Pool J) : Prop :=
  t.freed = false → .waiting ∈ t.room → t.jobqueue.len ≠ 0 ∨ t.num_threads_working ≠ 0

theorem push_len {q q' : JobQueue J} {a : Addr} {j : J} (pushes : jobqueue_push q a j = some q') :
    q'.len ≠ 0 := by
  rcases length : q.len with _ | len
  · simp only [jobqueue_push, length, Option.some.injEq] at pushes
    rw [← pushes]
    exact Nat.one_ne_zero
  · simp only [jobqueue_push, length] at pushes
    obtain ⟨heap, -, same⟩ := Option.bind_eq_some_iff.mp pushes
    cases same
    exact Nat.succ_ne_zero _

theorem not_waiting_woken (p : Phase J) : Phase.waiting ≠ p.woken := by
  intro same
  cases p <;> cases same

theorem waiting_signal {asleep : Phase J → Prop} (signal : Signal asleep Phase.woken room room')
    (member : .waiting ∈ room') : .waiting ∈ room := by
  cases signal with
  | @wakes p rest slept =>
    rcases Multiset.mem_cons.mp member with same | inside
    · cases p <;> cases same
    · exact Multiset.mem_cons_of_mem inside
  | lost => exact member

theorem waiting_broadcast (member : .waiting ∈ room.map Phase.wokenWorker) : .waiting ∈ room := by
  obtain ⟨p, inside, same⟩ := Multiset.mem_map.mp member
  cases p with
  | waiting => exact inside
  | _ => cases same

/-- The threads that do not move wait as before. -/
theorem waiting_before (here : t.room = p ::ₘ rest) (member : .waiting ∈ p' ::ₘ room)
    (others : .waiting ∈ room → .waiting ∈ rest) (other : Phase.waiting ≠ p') :
    .waiting ∈ t.room := by
  rw [here]
  exact Multiset.mem_cons_of_mem (others ((Multiset.mem_cons.mp member).resolve_left other))

theorem Counted.busy (counted : Counted t) (member : p ∈ t.room) (works : p.working = true) :
    t.num_threads_working ≠ 0 := by
  have some_ := count_pos member works
  rw [counted.working]
  omega

/-- The one waiting thread is woken by the signal. -/
theorem signal_single (single : count Phase.waits room' ≤ 1)
    (signal : Signal (· = .waiting) Phase.woken room room') :
    .waiting ∉ room' := by
  intro member
  cases signal with
  | wakes slept =>
    subst slept
    rcases Multiset.mem_cons.mp member with same | inside
    · cases same
    · have another : 0 < count Phase.waits _ := count_pos inside rfl
      rw [count_cons, show (Phase.waiting : Phase J).woken.waits = true from rfl,
        if_pos rfl] at single
      omega
  | lost none_ => exact none_ _ member rfl

theorem step_awaited (counted : Counted t) (single : count Phase.waits t'.room ≤ 1)
    (awaited : Awaited t) (moves : Moves t ev t') : Awaited t' := by
  obtain ⟨here, stepped⟩ := moves
  intro kept waits
  have counted' := step_counted counted stepped
  cases stepped with
  | goes room moves =>
    cases moves with
    | waits busy => exact busy
    | wakesUp => exact awaited here (waiting_before room waits id (not_waiting_woken _))
    | _ => exact awaited here (waiting_before room waits id (fun same => by cases same))
  | push newjob open_ fresh pushes => exact .inl (push_len pushes)
  | posts room signal =>
    have inside : .waiting ∈ t.room := room ▸ Multiset.mem_cons_of_mem (waiting_signal signal waits)
    exact awaited here inside
  | takes room | starts _ room | finishes room =>
    exact awaited here (waiting_before room waits id (fun same => by cases same))
  | counts room => exact .inr (counted'.busy (Multiset.mem_cons_self _ _) rfl)
  | pulls more room open_ pulls =>
    have member : .counted ∈ t.room := room ▸ Multiset.mem_cons_self _ _
    exact .inr (counted.busy member rfl)
  | reposts room signal =>
    exact awaited here
      (waiting_before room waits (waiting_signal signal) (fun same => by cases same))
  | uncounts room signals =>
    rw [count_cons] at single
    have inside := (Multiset.mem_cons.mp waits).resolve_left (fun same => by cases same)
    rw [Signals] at signals
    split at signals
    · exact absurd inside (signal_single single signals)
    · next busy => exact .inr busy
  | leaves room | returns room =>
    have inside : .waiting ∈ t.room := room ▸ Multiset.mem_cons_of_mem waits
    exact awaited here inside
  | wait | destroy =>
    exact awaited here ((Multiset.mem_cons.mp waits).resolve_left (fun same => by cases same))
  | postsAll room =>
    exact awaited here (waiting_before room waits waiting_broadcast (fun same => by cases same))
  | destroyed => cases kept
  | destroyOther | initOther => exact awaited here waits

/-- A step after which no two threads are in `thpool_wait`. -/
def SingleMoves (t : Pool J) (ev : Event J) (t' : Pool J) : Prop :=
  Moves t ev t' ∧ count Phase.waits t'.room ≤ 1

theorem single_moves {start : Pool J} (reached : Reaches SingleMoves start trace t) :
    Reaches Moves start trace t := by
  induction reached with
  | start => exact .start
  | step _ moves ih => exact ih.step moves.1

theorem run_awaited {n : Nat} (reached : Reaches SingleMoves (thpool_init n) trace t) :
    Awaited t := by
  have both := invariant (fun t : Pool J => Counted t ∧ Awaited t)
    ⟨counted_init n, fun _ waits => by
      rw [thpool_init] at waits
      cases Multiset.eq_of_mem_replicate waits⟩
    (fun _ _ _ holds moves => ⟨step_counted holds.1 moves.1.2, step_awaited holds.1 moves.2 holds.2
      moves.1⟩) reached
  exact both.2

theorem of_kind_of_count (some_ : count kind room ≠ 0) : ∃ p ∈ room, kind p = true :=
  Multiset.countP_pos.mp (Nat.pos_of_ne_zero some_)

/-- A kind that no thread asleep on a condition is of. -/
theorem up_of_kind (asleep : kind .asleep = false) (waiting : kind .waiting = false)
    (member : p ∈ room) (of_kind : kind p = true) : ∃ p ∈ room, p ≠ .asleep ∧ p ≠ .waiting := by
  refine ⟨p, member, fun same => ?_, fun same => ?_⟩
  · rw [same, asleep] at of_kind
    cases of_kind
  · rw [same, waiting] at of_kind
    cases of_kind

/-- As long as only one thread at a time waits for the pool, and no pool of the process is
destroyed, the thread waits for a job in the queue or for a worker, and somebody is awake who will
see to it. -/
theorem waiting_thread_awaited {n : Nat} (threads : n ≠ 0)
    (reached : Reaches SingleMoves (thpool_init n) trace t) (lives : .stopped ∉ trace)
    (waits : .waiting ∈ t.room) :
    (t.jobqueue.len ≠ 0 ∨ t.num_threads_working ≠ 0) ∧
      ∃ p ∈ t.room, p ≠ .asleep ∧ p ≠ .waiting := by
  have moved := single_moves reached
  obtain ⟨manned, served⟩ := run_served moved lives
  have busy := run_awaited reached manned.kept waits
  have counted := run_counted moved
  refine ⟨busy, ?_⟩
  rcases busy with jobs | working
  · rcases served jobs with one | committed
    · by_cases sleeps : .asleep ∈ t.room
      · obtain ⟨p, member, looks⟩ :=
          Multiset.countP_pos.mp (run_attended moved one ⟨_, sleeps, rfl⟩)
        exact up_of_kind rfl rfl member looks
      · have all : count Phase.worker t.room = n :=
          Int.natCast_inj.mp (counted.alive.symm.trans manned.alive)
        obtain ⟨p, member, is_worker⟩ := of_kind_of_count (all ▸ threads)
        refine ⟨p, member, fun same => sleeps (same ▸ member), fun same => ?_⟩
        rw [same] at is_worker
        cases is_worker
    · obtain ⟨p, member, is_committed⟩ := Multiset.countP_pos.mp committed
      exact up_of_kind rfl rfl member is_committed
  · have works : count Phase.working t.room ≠ 0 := fun none_ =>
      working (by rw [counted.working, none_]; rfl)
    obtain ⟨p, member, is_working⟩ := of_kind_of_count works
    exact up_of_kind rfl rfl member is_working

theorem waits_for_one_job : ∃ t, Reaches SingleMoves (thpool_init 1 : Pool Nat)
    [.push 7, .internal, .internal, .internal] t ∧ .waiting ∈ t.room :=
  ⟨_, .step (.step (.step (.step .start
    ⟨⟨rfl, .push 0 rfl rfl rfl⟩, by decide⟩)
    ⟨⟨rfl, .posts (split_room .posting (.top ::ₘ 0) rfl) (signal_top nofun)⟩, by decide⟩)
    ⟨⟨rfl, .wait⟩, by decide⟩)
    ⟨⟨rfl, .goes (split_room .checking (.top ::ₘ 0) rfl) (.waits (.inl nofun))⟩, by decide⟩,
    by simp⟩

theorem waiting_thread_awaited_one : ∃ t : Pool Nat, .waiting ∈ t.room ∧
    (t.jobqueue.len ≠ 0 ∨ t.num_threads_working ≠ 0) ∧
      ∃ p ∈ t.room, p ≠ .asleep ∧ p ≠ .waiting := by
  obtain ⟨t, reached, waits⟩ := waits_for_one_job
  exact ⟨t, waits, waiting_thread_awaited (by decide) reached (by simp) waits⟩

end HiMaxGateway.Thpool
