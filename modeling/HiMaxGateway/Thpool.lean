import HiMaxGateway.Lib.SinglyLinked
import HiMaxGateway.Lib.Waiters

/-! The thread pool of thpool.c: the job queue, and the workers, the threads that add work, that
wait for the pool and that destroy it, in any order. A step is what a thread does between two
points where others may come in. Nobody pauses a pool, so that is left out. All pools of the
process share the flag `threads_keepalive`, so the other pools take part in the steps. -/
namespace HiMaxGateway.Thpool
open Cells SinglyLinked Waiters

/-- The `next` of a node is the `prev` of a job, its value the function and the argument. -/
structure JobQueue (J : Type) where
  front : Ptr := none
  rear : Ptr := none
  len : Nat := 0
  heap : Heap (Node J) := empty

variable {J : Type}

def jobqueue_push (q : JobQueue J) (newjob : Addr) (j : J) : Option (JobQueue J) := do
  let heap := put q.heap newjob ⟨none, j⟩
  match q.len with
  | 0 => some { q with heap, front := some newjob, rear := some newjob, len := 1 }
  | len + 1 => do
      let heap ← setNext heap q.rear (some newjob)
      some { q with heap, rear := some newjob, len := len + 2 }

/-- The job, and whether the semaphore is posted for the jobs that are left. -/
def jobqueue_pull (q : JobQueue J) : Option (Ptr × JobQueue J × Bool) :=
  match q.len with
  | 0 => some (q.front, q, false)
  | 1 => some (q.front, { q with front := none, rear := none, len := 0 }, false)
  | len + 2 => do
      let job ← load q.heap q.front
      some (q.front, { q with front := job.next, len := len + 1 }, true)

def clearLoop : (fuel : Nat) → JobQueue J → Option (JobQueue J)
  | 0, _ => none
  | fuel + 1, q =>
      if q.len = 0 then some q
      else do
        let (job, q, _) ← jobqueue_pull q
        let heap ← free q.heap job
        clearLoop fuel { q with heap }

def jobqueue_clear (q : JobQueue J) : Option (JobQueue J) := do
  let q ← clearLoop (q.len + 1) q
  some { q with front := none, rear := none, len := 0 }

/-- Where a thread stands. The first eleven are the workers: in front of the loop test, at and in
the wait for the semaphore, behind it, behind the second test, counted as working, at the second
post of a pull, with the job in hand, in the job, behind it, and out of the loop. -/
inductive Phase (J : Type) where
  | top
  | awake
  | asleep
  | chosen
  | going
  | counted
  | reposting (job : Ptr)
  | holding (job : Ptr)
  | running (job : Addr) (j : J)
  | done
  | leaving
  | posting
  | checking
  | waiting
  | destroying

/-- A thread that waits on a condition is woken. -/
def Phase.woken : Phase J → Phase J
  | .asleep => .awake
  | .waiting => .checking
  | p => p

def Phase.wokenWorker : Phase J → Phase J
  | .asleep => .awake
  | p => p

inductive Event (J : Type) where
  | push (j : J)
  | pull (j : Option J)
  | start (j : J)
  | finish (j : J)
  | returned
  /-- Some pool of the process is being destroyed. -/
  | stopped
  | destroyed (discarded : List J)
  | internal

structure Pool (J : Type) where
  jobqueue : JobQueue J := {}
  has_jobs : Nat := 0
  rwmutex : Bool := false
  /-- The one flag of the process, as it stands. -/
  threads_keepalive : Bool := true
  num_threads_alive : Int
  num_threads_working : Int := 0
  freed : Bool := false
  room : Multiset (Phase J)

/-- The pool that `thpool_init` returns. -/
def thpool_init (num_threads : Nat) : Pool J :=
  { num_threads_alive := num_threads, room := Multiset.replicate num_threads .top }

/-- What the thread does, where it changes nothing but itself. -/
inductive Goes {J : Type} (t : Pool J) : Phase J → Phase J → Prop where
  | keepsOn : t.threads_keepalive = true → Goes t .top .awake
  | stops : t.threads_keepalive = false → Goes t .top .leaving
  | sleeps : t.has_jobs ≠ 1 → Goes t .awake .asleep
  | wakesUp (p : Phase J) : Goes t p p.woken
  | mayWork : t.threads_keepalive = true → Goes t .chosen .going
  | mustStop : t.threads_keepalive = false → Goes t .chosen .top
  | findsNothing : Goes t (.holding none) .done
  | waits : t.jobqueue.len ≠ 0 ∨ t.num_threads_working ≠ 0 → Goes t .checking .waiting

/-- The worker that stops working signals the end of all work. -/
def Signals (working : Int) (room room' : Multiset (Phase J)) : Prop :=
  if working = 0 then Signal (· = .waiting) Phase.woken room room' else room' = room

/-- The values of the jobs in the queue. -/
def queued (heap : Heap (Node J)) : (fuel : Nat) → Ptr → List J
  | fuel + 1, some a =>
      match heap a with
      | some job => job.value :: queued heap fuel job.next
      | none => []
  | _, _ => []

inductive Step {J : Type} : Pool J → Event J → Pool J → Prop where
  | goes : t.room = p ::ₘ rest → Goes t p p' → Step t .internal { t with room := p' ::ₘ rest }
  | push (newjob : Addr) : t.rwmutex = false → t.jobqueue.heap newjob = none →
      jobqueue_push t.jobqueue newjob j = some jobqueue →
      Step t (.push j) { t with jobqueue, rwmutex := true, room := .posting ::ₘ t.room }
  | posts : t.room = .posting ::ₘ rest → Signal (· = .asleep) Phase.woken rest room →
      Step t .internal { t with has_jobs := 1, rwmutex := false, room }
  | takes : t.room = .awake ::ₘ rest → t.has_jobs = 1 →
      Step t .internal { t with has_jobs := 0, room := .chosen ::ₘ rest }
  | counts : t.room = .going ::ₘ rest → Step t .internal
      { t with num_threads_working := t.num_threads_working + 1, room := .counted ::ₘ rest }
  | pulls (more : Bool) : t.room = .counted ::ₘ rest → t.rwmutex = false →
      jobqueue_pull t.jobqueue = some (job, jobqueue, more) →
      j = (load t.jobqueue.heap job).map (·.value) → Step t (.pull j)
        { t with
          jobqueue
          rwmutex := more
          room := (if more then .reposting job else .holding job) ::ₘ rest }
  | reposts : t.room = .reposting job ::ₘ rest → Signal (· = .asleep) Phase.woken rest room →
      Step t .internal { t with has_jobs := 1, rwmutex := false, room := .holding job ::ₘ room }
  | starts (node : Node J) : t.room = .holding (some job) ::ₘ rest →
      t.jobqueue.heap job = some node →
      Step t (.start node.value) { t with room := .running job node.value ::ₘ rest }
  | finishes : t.room = .running job j ::ₘ rest → free t.jobqueue.heap (some job) = some heap →
      Step t (.finish j) { t with jobqueue := { t.jobqueue with heap }, room := .done ::ₘ rest }
  | uncounts : t.room = .done ::ₘ rest → Signals (t.num_threads_working - 1) rest room →
      Step t .internal
        { t with num_threads_working := t.num_threads_working - 1, room := .top ::ₘ room }
  | leaves : t.room = .leaving ::ₘ rest →
      Step t .internal { t with num_threads_alive := t.num_threads_alive - 1, room := rest }
  | wait : Step t .internal { t with room := .checking ::ₘ t.room }
  | returns : t.room = .checking ::ₘ rest → t.jobqueue.len = 0 → t.num_threads_working = 0 →
      Step t .returned { t with room := rest }
  | destroy : Step t .stopped { t with threads_keepalive := false, room := .destroying ::ₘ t.room }
  | postsAll : t.room = .destroying ::ₘ rest → t.num_threads_alive ≠ 0 →
      Step t .internal
        { t with has_jobs := 1, room := .destroying ::ₘ rest.map Phase.wokenWorker }
  -- the jobs are pulled one by one: nobody may add work to a pool that is being destroyed
  | destroyed : t.room = .destroying ::ₘ rest → t.num_threads_alive = 0 → t.rwmutex = false →
      jobqueue_clear t.jobqueue = some jobqueue →
      js = queued t.jobqueue.heap t.jobqueue.len t.jobqueue.front →
      Step t (.destroyed js) { t with jobqueue, has_jobs := 0, freed := true, room := rest }
  /-- `thpool_destroy` of another pool. -/
  | destroyOther : Step t .stopped { t with threads_keepalive := false }
  /-- `thpool_init` of another pool. -/
  | initOther : Step t .internal { t with threads_keepalive := true }

/-- Nothing more happens to a pool that is freed. -/
def Moves (t : Pool J) (ev : Event J) (t' : Pool J) : Prop := t.freed = false ∧ Step t ev t'

end HiMaxGateway.Thpool
