import HiMaxGateway.ThpoolWaits
import HiMaxGateway.Lib.CText
import Mathlib.Data.Fintype.EquivFin

/-! The jobs that the gateway gives to its pool of fifteen threads. Most of them are loops that go
on as long as the gateway runs, and each of these keeps a thread for itself. -/
namespace HiMaxGateway.Thpool
open Cells SinglyLinked Waiters Run CText

variable {J : Type} {t t' : Pool J} {ev : Event J} {trace : List (Event J)} {xs : List (Entry J)}
  {j : J} {endless : J → Bool} {early late : List J} {n : Nat}

/-- A job was taken out of the queue only when less than `n` of the endless ones were out
already. -/
def Spared (endless : J → Bool) (n : Nat) (js : List J) : Prop :=
  Allowed (fun before _ => before.countP endless < n) js

/-- The jobs that are out of the queue and never end are in hand. -/
theorem Kept.endless_in_hand (kept : Kept trace t xs)
    (stay : ∀ j ∈ finished trace, endless j = false) :
    (pulled trace).countP endless ≤ Multiset.card (hands t.room) := by
  have parts := pending_active_le t.jobqueue.heap (hands t.room)
  have out : (↑(pulled trace) : Multiset J) = ↑(finished trace) + (t.active + t.pending) := by
    rw [kept.pending, kept.active, Multiset.add_assoc]
  have done : (finished trace).countP endless = 0 := List.countP_eq_zero.mpr fun j member => by
    rw [stay j member]
    exact Bool.false_ne_true
  calc (pulled trace).countP endless
      = Multiset.countP (endless · = true) ↑(pulled trace) := by simp [Multiset.coe_countP]
    _ = Multiset.countP (endless · = true) (t.active + t.pending) := by
      rw [out, Multiset.countP_add, Multiset.coe_countP]
      simp [done]
    _ ≤ Multiset.card t.active + Multiset.card t.pending :=
      (Multiset.countP_le_card _ _).trans_eq (Multiset.card_add _ _)
    _ ≤ Multiset.card (hands t.room) := (Nat.add_comm _ _).trans_le parts

/-- Who takes a job has none, so not all threads are in endless jobs. -/
theorem pull_spares (reached : Reaches Moves (thpool_init n) trace t) (kept : Kept trace t xs)
    (stay : ∀ j ∈ finished trace, endless j = false) (pulls : Moves t (.pull (some j)) t') :
    (pulled trace).countP endless < n := by
  have inHand := kept.endless_in_hand stay
  have alive := alive_le reached
  obtain ⟨-, stepped⟩ := pulls
  cases stepped with
  | pulls more room =>
    rw [room, hands_none rfl] at inHand
    have worker : (Phase.counted : Phase J).worker = true := rfl
    rw [room, count_cons, if_pos worker] at alive
    exact Nat.lt_of_le_of_lt (Nat.le_trans inHand (hands_le _)) alive

theorem run_spared (reached : Reaches Moves (thpool_init n) trace t)
    (stay : ∀ j ∈ finished trace, endless j = false) : Spared endless n (pulled trace) := by
  induction reached with
  | start => exact .nil
  | @step trace t ev t' reached moves ih =>
    rw [finished_append] at stay
    have earlier : ∀ j ∈ finished trace, endless j = false := fun j member =>
      stay j (List.mem_append_left _ member)
    have spared := ih earlier
    rw [pulled_append]
    cases ev with
    | pull job =>
      cases job with
      | none => simpa [pulled] using spared
      | some j =>
        obtain ⟨xs, kept⟩ := run_kept reached
        exact Allowed.snoc spared (pull_spares reached kept earlier moves)
    | _ => simpa [pulled] using spared

/-- Where enough endless jobs are among the first ones, those that come later never leave the
queue. -/
theorem later_jobs_queued (reached : Reaches Moves (thpool_init n) trace t) (here : t.freed = false)
    (stay : ∀ j ∈ finished trace, endless j = false) (order : pushed trace = early ++ late)
    (many : n ≤ early.countP endless) :
    ∃ xs rest, Holds t.jobqueue xs ∧ xs.map (·.2) = rest ++ late ∧
      early = pulled trace ++ rest := by
  obtain ⟨xs, kept⟩ := run_kept reached
  have spared := run_spared reached stay
  have split := (kept.order here).symm.trans order
  rcases List.append_eq_append_iff.mp split with ⟨rest, first, later⟩ | ⟨more, first, later⟩
  · exact ⟨xs, rest, kept.owned.holds, later, first⟩
  · cases more with
    | nil => exact ⟨xs, [], kept.owned.holds, later.symm, by simpa using first.symm⟩
    | cons j more => exact absurd (spared early j more first) (Nat.not_lt.mpr many)

/-- The functions that are given to the pool. -/
inductive GatewayJob where
  | threadDogEntry
  | knxBusMonitorEntry
  | knxDevMonitorEntry
  | knxDevDebounce
  | knxDevWriteEntry
  | knxDevHealth
  | modbusDevMonitor
  | keyScan
  | flashLight
  | diScan
  | fakeServer
  | runLedThread
  | reportPosThread
  | reportBindPosThread
  | mbusDelaySyncAllDevStatus
  | mbusSyncAllDevStatus
  | modbusDevHealth (pDevId : Text)
  | knxDevStateSync
  deriving DecidableEq, Repr

/-- The function is a loop without an end. -/
def GatewayJob.loops : GatewayJob → Bool
  | .mbusSyncAllDevStatus | .modbusDevHealth _ | .knxDevStateSync => false
  | _ => true

def knxInitJobs : List GatewayJob :=
  [.threadDogEntry, .knxBusMonitorEntry, .knxDevMonitorEntry, .knxDevDebounce, .knxDevWriteEntry,
    .knxDevHealth]

def modbusInitJobs : List GatewayJob := [.modbusDevMonitor]

/-- What `main` adds, in order; the last one is added by `Mbus_ForceSyncDevStatus`. -/
def mainJobs (bDi : Bool) : List GatewayJob :=
  knxInitJobs ++ modbusInitJobs ++ [.keyScan, .flashLight] ++ (if bDi then [.diScan] else []) ++
    [.fakeServer, .runLedThread, .reportPosThread, .reportBindPosThread, .mbusDelaySyncAllDevStatus]

def gatewayThreads : Nat := 15

/-- In a gateway with dry contacts the loops of `main` take all threads. What is added behind them
(the heartbeats of Modbus devices, the synchronisation of all devices) stays in the queue as long
as no loop returns. -/
theorem dry_contacts_starve_pool {trace : List (Event GatewayJob)} {t : Pool GatewayJob}
    {early late : List GatewayJob} (reached : Reaches Moves (thpool_init gatewayThreads) trace t)
    (here : t.freed = false)
    (stay : ∀ job ∈ finished trace, job.loops = false) (order : pushed trace = early ++ late)
    (all : (mainJobs true).Subperm early) :
    ∃ xs rest, Holds t.jobqueue xs ∧ xs.map (·.2) = rest ++ late ∧ early = pulled trace ++ rest :=
  later_jobs_queued reached here stay order (all.countP_le GatewayJob.loops)

theorem Kept.free_address (kept : Kept trace t xs) : ∃ a, t.jobqueue.heap a = none := by
  obtain ⟨a, outside⟩ :=
    Infinite.exists_notMem_finset ((hands t.room).map (·.1) + ↑(addrs xs)).toFinset
  refine ⟨a, not_not.mp fun live => outside ?_⟩
  have inside := (kept.owned.live a).mp live
  rwa [Multiset.mem_toFinset, Multiset.mem_add]

/-- The jobs `js` are in work, `ks` wait behind them, and the other threads have not begun. -/
structure Busy (n : Nat) (js ks : List J) (trace : List (Event J)) (t : Pool J) : Prop where
  reached : Reaches Moves (thpool_init n) trace t
  order : pushed trace = js ++ ks
  out : pulled trace = js
  none_ : finished trace = []
  here : t.freed = false
  unlocked : t.rwmutex = false
  kept : t.threads_keepalive = true
  posted : ks ≠ [] → t.has_jobs = 1
  room : ∃ busy : Multiset (Phase J),
    t.room = Multiset.replicate (n - js.length) .top + busy ∧ ∀ p ∈ busy, ¬p = .asleep

theorem Busy.nobody (working : Busy n js ks trace t) : ∀ p ∈ t.room, ¬p = .asleep := by
  obtain ⟨busy, room, awake⟩ := working.room
  intro p member
  rw [room, Multiset.mem_add] at member
  rcases member with top | inside
  · rw [Multiset.eq_of_mem_replicate top]
    rintro ⟨⟩
  · exact awake p inside

/-- A job may be added while others are in work. -/
theorem Busy.adds (working : Busy n js ks trace t) (j : J) :
    ∃ trace t, Busy n js (ks ++ [j]) trace t := by
  obtain ⟨xs, kept⟩ := run_kept working.reached
  obtain ⟨a, fresh⟩ := kept.free_address
  obtain ⟨q, pushes, -⟩ := jobqueue_push_spec kept.owned.holds fresh j
  have pushes := working.reached.step ⟨working.here, .push a working.unlocked fresh pushes⟩
  have posts := pushes.step
    ⟨working.here, .posts (split_room .posting t.room rfl) (.lost working.nobody)⟩
  refine ⟨_, _, ⟨posts, ?_, ?_, ?_, working.here, rfl, working.kept, fun _ => rfl, working.room⟩⟩
  · simp [pushed, ← List.append_assoc, ← working.order]
  · simpa [pulled] using working.out
  · simpa [finished] using working.none_

/-- A thread that has not begun takes the next job. -/
theorem Busy.begins (working : Busy n js (j :: ks) trace t) (enough : js.length < n) :
    ∃ trace t, Busy n (js ++ [j]) ks trace t := by
  obtain ⟨xs, kept⟩ := run_kept working.reached
  have queue : j :: ks = xs.map (·.2) := by
    have split := kept.order working.here
    rwa [working.order, working.out, List.append_cancel_left_eq] at split
  obtain ⟨busy, room, awake⟩ := working.room
  have posted := working.posted (List.cons_ne_nil _ _)
  cases xs with
  | nil => contradiction
  | cons x xs =>
    obtain ⟨a, j'⟩ := x
    obtain ⟨rfl, rfl⟩ := List.cons.inj queue
    obtain ⟨q, pulls, -, heap, here⟩ := jobqueue_pull_spec kept.owned.holds
    have node : q.heap a = some ⟨front xs none, j⟩ := heap ▸ here
    have seen : some j = (load t.jobqueue.heap (some a)).map (·.value) := by
      rw [here]
      rfl
    have one_more : n - js.length = n - (js ++ [j]).length + 1 := by
      rw [List.length_append, List.length_singleton]
      omega
    rw [one_more, Multiset.replicate_succ, Multiset.cons_add] at room
    generalize others : Multiset.replicate (n - (js ++ [j]).length) Phase.top + busy = rest at room
    have nobody : ∀ p ∈ rest, ¬p = .asleep := fun p inside =>
      working.nobody p (by rw [room]; exact Multiset.mem_cons_of_mem inside)
    have running : ∃ busy', Phase.running a j ::ₘ rest =
        Multiset.replicate (n - (js ++ [j]).length) .top + busy' ∧ ∀ p ∈ busy', ¬p = .asleep := by
      refine ⟨.running a j ::ₘ busy, by rw [← others, Multiset.add_cons], fun p inside => ?_⟩
      rcases Multiset.mem_cons.mp inside with rfl | inside
      · rintro ⟨⟩
      · exact awake p inside
    have keeps := working.reached.step ⟨working.here, .goes room (.keepsOn working.kept)⟩
    have takes := keeps.step ⟨working.here, .takes (split_room .awake rest rfl) posted⟩
    have goes :=
      takes.step ⟨working.here, .goes (split_room .chosen rest rfl) (.mayWork working.kept)⟩
    have counts := goes.step ⟨working.here, .counts (split_room .going rest rfl)⟩
    have pulls := counts.step
      ⟨working.here, .pulls _ (split_room .counted rest rfl) working.unlocked pulls seen⟩
    cases xs with
    | nil =>
      have starts := pulls.step
        ⟨working.here, .starts _ (split_room (.holding (some a)) rest rfl) node⟩
      refine ⟨_, _, ⟨starts, ?_, ?_, ?_, working.here, rfl, working.kept, absurd rfl, running⟩⟩
      · simpa [pushed] using working.order
      · simpa [pulled] using working.out
      · simpa [finished] using working.none_
    | cons x xs =>
      have posts := pulls.step
        ⟨working.here, .reposts (split_room (.reposting (some a)) rest rfl) (.lost nobody)⟩
      have starts := posts.step
        ⟨working.here, .starts _ (split_room (.holding (some a)) rest rfl) node⟩
      refine ⟨_, _, ⟨starts, ?_, ?_, ?_, working.here, rfl, working.kept, fun _ => rfl, running⟩⟩
      · simpa [pushed] using working.order
      · simpa [pulled] using working.out
      · simpa [finished] using working.none_

theorem exists_busy (n : Nat) (js ks : List J) (enough : js.length ≤ n) :
    ∃ trace t, Busy n js ks trace t := by
  induction js using List.reverseRecOn generalizing ks with
  | nil =>
    induction ks using List.reverseRecOn with
    | nil =>
      exact ⟨[], _, ⟨.start, rfl, rfl, rfl, rfl, rfl, rfl, absurd rfl, 0,
        by simp [thpool_init], by simp⟩⟩
    | append_singleton ks j ih =>
      obtain ⟨trace, t, working⟩ := ih
      exact working.adds j
  | append_singleton js j ih =>
    rw [List.length_append, List.length_singleton] at enough
    obtain ⟨trace, t, working⟩ := ih (j :: ks) (by omega)
    exact working.begins (by omega)

/-- All loops are in work, and one more job was added. -/
theorem dry_contacts_starve_pool_one : ∃ (trace : List (Event GatewayJob)) (t : Pool GatewayJob)
    (xs : List (Entry GatewayJob)), Reaches Moves (thpool_init gatewayThreads) trace t ∧
    pulled trace = mainJobs true ∧ Holds t.jobqueue xs ∧
    xs.map (·.2) = [.mbusSyncAllDevStatus] := by
  obtain ⟨trace, t, working⟩ :=
    exists_busy gatewayThreads (mainJobs true) [.mbusSyncAllDevStatus] (by decide)
  obtain ⟨xs, rest, holds, queue, taken⟩ := dry_contacts_starve_pool working.reached working.here
    (by simp [working.none_]) working.order (List.Subperm.refl _)
  rw [working.out, List.self_eq_append_right] at taken
  rw [taken] at queue
  exact ⟨trace, t, xs, working.reached, working.out, holds, queue⟩

end HiMaxGateway.Thpool
