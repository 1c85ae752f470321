import HiMaxGateway.Lib.Run
import HiMaxGateway.Modbus.Serial

/-! Ownership of the half-duplex port mutexes: what a call takes and gives back,
and threads that run such calls beside the receive jobs. -/
namespace HiMaxGateway.Modbus

inductive PortAct where
  | take (port : Nat)
  | close (port : Nat)
  /-- The mutex goes to a receive job that was queued. -/
  | queue (port : Nat)
  deriving DecidableEq, Repr

section

variable (devs : Nat → MbusDev)

def portAct : Ev → Option PortAct
  | .lock id => if (devs id).bFullDuplex then none else some (.take (devs id).port)
  | .unlock id => if (devs id).bFullDuplex then none else some (.close (devs id).port)
  | .queued id => if (devs id).bFullDuplex then none else some (.queue (devs id).port)
  | .send .. | .knxGroupWrite _ | .report _ | .hbFresh _ => none

def portActs (evs : List Ev) : List PortAct := evs.filterMap (portAct devs)

end

/-- How often a port was taken and not given back. -/
def excess (port : Nat) : List PortAct → Int
  | [] => 0
  | .take p :: acts => (if p = port then 1 else 0) + excess port acts
  | .close p :: acts | .queue p :: acts => (if p = port then -1 else 0) + excess port acts

def Released (acts : List PortAct) : Prop := ∀ port, excess port acts = 0

/-- The port held is given back before another is taken. -/
def Balanced : Option Nat → List PortAct → Prop
  | none, [] => True
  | none, .take p :: acts => Balanced (some p) acts
  | some p, .close q :: acts | some p, .queue q :: acts => p = q ∧ Balanced none acts
  | some _, [] | some _, .take _ :: _ => False
  | none, .close _ :: _ | none, .queue _ :: _ => False

theorem excess_append (port : Nat) (one two : List PortAct) :
    excess port (one ++ two) = excess port one + excess port two := by
  induction one with
  | nil => simp [excess]
  | cons act one ih => cases act <;> simp [excess, ih, Int.add_assoc]

theorem Balanced.append {held : Option Nat} {one two : List PortAct} (first : Balanced held one)
    (second : Balanced none two) : Balanced held (one ++ two) := by
  induction one generalizing held with
  | nil =>
    cases held with
    | none => exact second
    | some p => exact first.elim
  | cons act one ih =>
    cases held with
    | none =>
      cases act with
      | take p => exact @ih (some p) first
      | close p | queue p => exact first.elim
    | some p =>
      cases act with
      | take q => exact first.elim
      | close q | queue q => exact ⟨first.1, ih first.2⟩

theorem Balanced.excess {held : Option Nat} {acts : List PortAct} (balanced : Balanced held acts)
    (port : Nat) : excess port acts + (if held = some port then 1 else 0) = 0 := by
  induction acts generalizing held with
  | nil =>
    cases held with
    | none => rfl
    | some p => exact balanced.elim
  | cons act acts ih =>
    cases held with
    | none =>
      cases act with
      | take p => simpa [Modbus.excess, Int.add_comm] using @ih (some p) balanced
      | close p | queue p => exact balanced.elim
    | some p =>
      cases act with
      | take q => exact balanced.elim
      | close q | queue q =>
        obtain ⟨rfl, balanced⟩ := balanced
        have rest := ih balanced
        by_cases same : p = port <;> simp_all [Modbus.excess]

theorem Balanced.released {acts : List PortAct} (balanced : Balanced none acts) :
    Released acts := by
  intro port
  simpa using balanced.excess port

/-- What a part of a call does to the ports, when `leak` says whether it loses one. -/
structure Accounts (acts : List PortAct) (leak : Prop) : Prop where
  lost : leak → ∃ port, 0 < excess port acts
  nonneg : ∀ port, 0 ≤ excess port acts
  balanced : ¬ leak → Balanced none acts

theorem Accounts.released_iff (accounts : Accounts acts leak) : Released acts ↔ ¬ leak := by
  constructor
  · intro released lost
    obtain ⟨port, positive⟩ := accounts.lost lost
    have zero := released port
    omega
  · intro tidy
    exact (accounts.balanced tidy).released

theorem Accounts.append (one : Accounts first leak) (two : Accounts second leak') :
    Accounts (first ++ second) (leak ∨ leak') := by
  constructor
  · rintro (lost | lost)
    · obtain ⟨port, positive⟩ := one.lost lost
      have other := two.nonneg port
      exact ⟨port, by rw [excess_append]; omega⟩
    · obtain ⟨port, positive⟩ := two.lost lost
      have other := one.nonneg port
      exact ⟨port, by rw [excess_append]; omega⟩
  · intro port
    have here := one.nonneg port
    have there := two.nonneg port
    rw [excess_append]
    omega
  · intro tidy
    obtain ⟨tidy₁, tidy₂⟩ := not_or.mp tidy
    exact (one.balanced tidy₁).append (two.balanced tidy₂)

theorem Accounts.of_balanced (balanced : Balanced none acts) (tidy : ¬ leak) : Accounts acts leak :=
  ⟨fun lost => absurd lost tidy, fun port => Int.le_of_eq (balanced.released port).symm,
    fun _ => balanced⟩

theorem Accounts.of_taken (port : Nat) (lost : leak) : Accounts [.take port] leak := by
  refine ⟨fun _ => ⟨port, by simp [excess]⟩, ?_, fun tidy => absurd lost tidy⟩
  intro p
  by_cases same : port = p <;> simp [excess, same]

inductive Holder where
  | free
  | call (thread : Nat)
  | job
  deriving DecidableEq, Repr

/-- Who holds each port, and what each thread still does to the ports in its call. -/
structure Ports where
  holder : Nat → Holder
  threads : Nat → List PortAct

def Ports.idle : Ports := ⟨fun _ => .free, fun _ => []⟩

def Ports.set (s : Ports) (port : Nat) (holder : Holder) (thread : Nat) (rest : List PortAct) :
    Ports where
  holder p := if p = port then holder else s.holder p
  threads t := if t = thread then rest else s.threads t

inductive PortLabel where
  | begins (thread : Nat) (acts : List PortAct)
  | acts (thread : Nat) (act : PortAct)
  | jobEnds (port : Nat)

/-- Calls start in idle threads, threads wait for a free port, jobs end when they like. -/
inductive PortStep (calls : List PortAct → Prop) : Ports → PortLabel → Ports → Prop where
  | begins (t : Nat) (acts : List PortAct) : s.threads t = [] → calls acts →
      PortStep calls s (.begins t acts)
        { s with threads := fun u => if u = t then acts else s.threads u }
  | take (t p : Nat) (rest : List PortAct) : s.threads t = .take p :: rest → s.holder p = .free →
      PortStep calls s (.acts t (.take p)) (s.set p (.call t) t rest)
  | close (t p : Nat) (rest : List PortAct) : s.threads t = .close p :: rest →
      s.holder p = .call t → PortStep calls s (.acts t (.close p)) (s.set p .free t rest)
  | queue (t p : Nat) (rest : List PortAct) : s.threads t = .queue p :: rest →
      s.holder p = .call t → PortStep calls s (.acts t (.queue p)) (s.set p .job t rest)
  | jobEnds (p : Nat) : s.holder p = .job →
      PortStep calls s (.jobEnds p)
        { s with holder := fun q => if q = p then .free else s.holder q }

/-- Each thread holds at most one port, and its call gives that port back. -/
def Ports.Sound (s : Ports) : Prop :=
  ∀ t, ∃ held, Balanced held (s.threads t) ∧ ∀ p, s.holder p = .call t ↔ held = some p

theorem Ports.idle_sound : Ports.idle.Sound := fun _ => ⟨none, trivial, by simp [Ports.idle]⟩

/-- A port leaves the thread `t` for a holder that is no call. -/
theorem Ports.Sound.give {s : Ports} (sound : s.Sound) (own : s.holder p = .call t) {heir : Holder}
    (released : ∀ u, heir ≠ .call u) (rest : Balanced none acts) : (s.set p heir t acts).Sound := by
  intro u
  obtain ⟨held, balanced, holds⟩ := sound u
  by_cases same : u = t
  · subst u
    have here := (holds p).mp own
    refine ⟨none, by simpa [Ports.set] using rest, ?_⟩
    intro q
    by_cases port : q = p
    · simp [Ports.set, port, released]
    · have other : s.holder q ≠ .call t := by
        intro also
        rw [(holds q).mp also] at here
        exact port (Option.some.inj here)
      simp [Ports.set, port, other]
  · refine ⟨held, by simpa [Ports.set, same] using balanced, ?_⟩
    intro q
    by_cases port : q = p
    · have other : held ≠ some p := by
        intro also
        have twice := (holds p).mpr also
        rw [own, Holder.call.injEq] at twice
        exact same twice.symm
      subst q
      simp [Ports.set, released, other]
    · simpa [Ports.set, port] using holds q

/-- An idle thread starts a call that gives its ports back. -/
theorem Ports.Sound.begins {s : Ports} (sound : s.Sound) (idle : s.threads t = [])
    (tidy : Balanced none acts) :
    ({ s with threads := fun u => if u = t then acts else s.threads u }).Sound := by
  intro u
  obtain ⟨held, balanced, holds⟩ := sound u
  by_cases same : u = t
  · subst u
    rw [idle] at balanced
    cases held with
    | none => exact ⟨none, by simpa using tidy, holds⟩
    | some p => exact balanced.elim
  · exact ⟨held, by simpa [same] using balanced, holds⟩

/-- A free port goes to the thread `t`, which held none. -/
theorem Ports.Sound.take {s : Ports} (sound : s.Sound) (next : s.threads t = .take p :: rest)
    (free : s.holder p = .free) : (s.set p (.call t) t rest).Sound := by
  intro u
  obtain ⟨held, balanced, holds⟩ := sound u
  by_cases same : u = t
  · subst u
    rw [next] at balanced
    cases held with
    | some q => exact balanced.elim
    | none =>
      have inside : Balanced (some p) rest := balanced
      refine ⟨some p, by simpa [Ports.set] using inside, ?_⟩
      intro q
      have others := holds q
      by_cases port : q = p <;> simp_all [Ports.set, eq_comm]
  · refine ⟨held, by simpa [Ports.set, same] using balanced, ?_⟩
    intro q
    by_cases port : q = p
    · subst q
      have other : held ≠ some p := by
        intro also
        rw [(holds p).mpr also] at free
        contradiction
      simp [Ports.set, other, Ne.symm same]
    · simpa [Ports.set, port] using holds q

theorem Ports.Sound.jobEnds {s : Ports} (sound : s.Sound) (job : s.holder p = .job) :
    ({ s with holder := fun q => if q = p then .free else s.holder q }).Sound := by
  intro u
  obtain ⟨held, balanced, holds⟩ := sound u
  refine ⟨held, balanced, ?_⟩
  intro q
  have others := holds q
  by_cases port : q = p
  · subst q
    simp_all
  · simpa [port] using others

theorem PortStep.sound {calls : List PortAct → Prop}
    (tidy : ∀ acts, calls acts → Balanced none acts) {s s' : Ports} (sound : s.Sound)
    (stepped : PortStep calls s label s') : s'.Sound := by
  cases stepped with
  | begins t acts idle called => exact sound.begins idle (tidy acts called)
  | take t p rest next free => exact sound.take next free
  | close t p rest next own =>
    obtain ⟨held, balanced, holds⟩ := sound t
    rw [next, (holds p).mp own] at balanced
    exact sound.give own (by simp) balanced.2
  | queue t p rest next own =>
    obtain ⟨held, balanced, holds⟩ := sound t
    rw [next, (holds p).mp own] at balanced
    exact sound.give own (by simp) balanced.2
  | jobEnds p job => exact sound.jobEnds job

/-- A port is free, with a receive job, or held by a call whose next action on
the ports is to give it back. -/
def Ports.Returning (s : Ports) : Prop :=
  ∀ p, s.holder p = .free ∨ s.holder p = .job ∨ ∃ t rest, s.holder p = .call t ∧
    (s.threads t = .close p :: rest ∨ s.threads t = .queue p :: rest)

theorem Ports.Sound.returning {s : Ports} (sound : s.Sound) : s.Returning := by
  intro p
  cases holder : s.holder p with
  | free => exact .inl rfl
  | job => exact .inr (.inl rfl)
  | call t =>
    obtain ⟨held, balanced, holds⟩ := sound t
    rw [(holds p).mp holder] at balanced
    cases acts : s.threads t with
    | nil =>
      rw [acts] at balanced
      exact balanced.elim
    | cons act rest =>
      rw [acts] at balanced
      cases act with
      | take q => exact balanced.elim
      | close q =>
        cases balanced.1
        exact .inr (.inr ⟨t, rest, rfl, .inl acts⟩)
      | queue q =>
        cases balanced.1
        exact .inr (.inr ⟨t, rest, rfl, .inr acts⟩)

theorem ports_returning {calls : List PortAct → Prop}
    (tidy : ∀ acts, calls acts → Balanced none acts)
    (reached : Run.Reaches (PortStep calls) Ports.idle trace s) : s.Returning := by
  apply Ports.Sound.returning
  exact Run.invariant Ports.Sound Ports.idle_sound
    (fun _ _ _ sound stepped => stepped.sound tidy sound) reached

end HiMaxGateway.Modbus
