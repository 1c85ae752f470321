import HiMaxGateway.Modbus.SerialState

/-! When a `SerialOpen` that returns `0` leaves its object with an open port. -/
namespace HiMaxGateway.Modbus
open Function

variable {cfg : SerialCfg} {s t : SerialState}

theorem SerialState.close_idle (idle : s.sfd (cfg.pParam obj) = none) : s.close cfg obj = s := by
  simp [SerialState.close, idle]

theorem SerialState.close_open (open_ : s.sfd (cfg.pParam obj) = some fd) :
    s.close cfg obj = { s with
      sfd := update s.sfd (cfg.pParam obj) none
      files := update s.files fd none
      bRcvRun := update s.bRcvRun (cfg.pParam obj) false
      mutex := update s.mutex (cfg.port (cfg.pParam obj)) .free } := by
  simp [SerialState.close, open_]

/-- The object has an open descriptor for its port and its own block holds the mutex,
so what is written next goes to that port. -/
def SerialState.Usable (cfg : SerialCfg) (s : SerialState) (obj : Nat) : Prop :=
  s.sfd (cfg.pParam obj) ≠ none ∧
    s.mutex (cfg.port (cfg.pParam obj)) = .held (cfg.pParam obj) ∧
    s.write cfg obj = some (cfg.port (cfg.pParam obj))

/-- A block has a descriptor exactly while it holds the mutex of its port. -/
structure SerialState.Coherent (cfg : SerialCfg) (s : SerialState) : Prop where
  descriptor : ∀ param fd, s.sfd param = some fd →
    s.files fd = some (cfg.port param) ∧ s.mutex (cfg.port param) = .held param
  opening : ∀ port obj, s.mutex port = .opening obj → cfg.port (cfg.pParam obj) = port
  held : ∀ port param, s.mutex port = .held param →
    cfg.port param = port ∧ ∃ fd, s.sfd param = some fd

namespace SerialState.Coherent

theorem init (cfg : SerialCfg) : SerialState.init.Coherent cfg where
  descriptor _ _ open_ := by contradiction
  opening _ _ taken := by contradiction
  held _ _ taken := by contradiction

/-- Flags and jobs play no part. -/
theorem congr (coherent : s.Coherent cfg) (mutex : t.mutex = s.mutex) (sfd : t.sfd = s.sfd)
    (files : t.files = s.files) : t.Coherent cfg := by
  constructor
  · rw [mutex, sfd, files]
    exact coherent.descriptor
  · rw [mutex]
    exact coherent.opening
  · rw [mutex, sfd]
    exact coherent.held

theorem same_port (coherent : s.Coherent cfg) (one : s.sfd param = some fd)
    (two : s.sfd other = some fd') (port : cfg.port param = cfg.port other) : param = other := by
  have first := (coherent.descriptor _ _ one).2
  have second := (coherent.descriptor _ _ two).2
  rw [port, second] at first
  exact (Mutex.held.inj first).symm

theorem same_descriptor (coherent : s.Coherent cfg) (one : s.sfd param = some fd)
    (two : s.sfd other = some fd) : param = other := by
  have first := (coherent.descriptor _ _ one).1
  have second := (coherent.descriptor _ _ two).1
  rw [second] at first
  exact coherent.same_port one two (Option.some.inj first).symm

theorem lock (coherent : s.Coherent cfg) (free : s.mutex (cfg.port (cfg.pParam obj)) = .free) :
    (s.lock cfg obj).Coherent cfg := by
  constructor
  · intro param fd open_
    obtain ⟨file, holds⟩ := coherent.descriptor param fd open_
    have elsewhere : cfg.port param ≠ cfg.port (cfg.pParam obj) := by
      intro same
      rw [same, free] at holds
      contradiction
    exact ⟨file, by simpa [SerialState.lock, elsewhere] using holds⟩
  · intro port obj' taken
    by_cases same : port = cfg.port (cfg.pParam obj)
    · subst port
      simp only [SerialState.lock, update_self, Mutex.opening.injEq] at taken
      rw [taken]
    · exact coherent.opening port obj' (by simpa [SerialState.lock, same] using taken)
  · intro port param taken
    by_cases same : port = cfg.port (cfg.pParam obj)
    · simp [SerialState.lock, same] at taken
    · exact coherent.held port param (by simpa [SerialState.lock, same] using taken)

theorem opened (coherent : s.Coherent cfg) (fd : Nat) (fresh : s.files fd = none)
    (taken : s.mutex (cfg.port (cfg.pParam obj)) = .opening obj) :
    (s.configure cfg obj .opened fd).2.Coherent cfg := by
  have other (param fd') (open_ : s.sfd param = some fd') :
      fd' ≠ fd ∧ cfg.port param ≠ cfg.port (cfg.pParam obj) := by
    obtain ⟨file, holds⟩ := coherent.descriptor param fd' open_
    constructor
    · rintro rfl
      rw [fresh] at file
      contradiction
    · intro same
      rw [same, taken] at holds
      contradiction
  constructor
  · intro param fd' open_
    by_cases own : param = cfg.pParam obj
    · subst param
      simp only [SerialState.configure, update_self, Option.some.injEq] at open_
      subst fd'
      simp [SerialState.configure]
    · have before : s.sfd param = some fd' := by simpa [SerialState.configure, own] using open_
      obtain ⟨file, port⟩ := other param fd' before
      simpa [SerialState.configure, file, port] using coherent.descriptor param fd' before
  · intro port obj' opening
    by_cases same : port = cfg.port (cfg.pParam obj)
    · simp [SerialState.configure, same] at opening
    · exact coherent.opening port obj' (by simpa [SerialState.configure, same] using opening)
  · intro port param holds
    by_cases same : port = cfg.port (cfg.pParam obj)
    · subst port
      simp only [SerialState.configure, update_self, Mutex.held.injEq] at holds
      subst param
      exact ⟨rfl, fd, by simp [SerialState.configure]⟩
    · obtain ⟨port_eq, fd', open_⟩ := coherent.held port param
        (by simpa [SerialState.configure, same] using holds)
      have own : param ≠ cfg.pParam obj := by
        rintro rfl
        exact same port_eq.symm
      exact ⟨port_eq, fd', by simpa [SerialState.configure, own] using open_⟩

/-- A block that loses its descriptor and the mutex of its port. `files` may lose the
descriptor too. -/
theorem released (coherent : s.Coherent cfg)
    (idle : ∀ other fd, s.sfd other = some fd → cfg.port other = cfg.port param → other = param)
    (files : ∀ other fd, other ≠ param → s.sfd other = some fd → t.files fd = s.files fd)
    (sfd : t.sfd = update s.sfd param none)
    (mutex : t.mutex = update s.mutex (cfg.port param) .free) : t.Coherent cfg := by
  constructor
  · intro other fd open_
    by_cases own : other = param
    · simp [sfd, own] at open_
    · have before : s.sfd other = some fd := by simpa [sfd, own] using open_
      have port : cfg.port other ≠ cfg.port param := fun same => own (idle other fd before same)
      rw [files other fd own before]
      simpa [mutex, port] using coherent.descriptor other fd before
  · intro port obj opening
    by_cases same : port = cfg.port param
    · simp [mutex, same] at opening
    · exact coherent.opening port obj (by simpa [mutex, same] using opening)
  · intro port other holds
    by_cases same : port = cfg.port param
    · simp [mutex, same] at holds
    · obtain ⟨port_eq, fd, open_⟩ := coherent.held port other (by simpa [mutex, same] using holds)
      have own : other ≠ param := by
        rintro rfl
        exact same port_eq.symm
      exact ⟨port_eq, fd, by simpa [sfd, own] using open_⟩

theorem failed (coherent : s.Coherent cfg) (outcome : OpenOutcome) (fails : outcome ≠ .opened)
    (taken : s.mutex (cfg.port (cfg.pParam obj)) = .opening obj) :
    (s.configure cfg obj outcome fd).2.Coherent cfg := by
  have idle (other fd) (open_ : s.sfd other = some fd)
      (same : cfg.port other = cfg.port (cfg.pParam obj)) : other = cfg.pParam obj := by
    have holds := (coherent.descriptor other fd open_).2
    rw [same, taken] at holds
    contradiction
  cases outcome with
  | opened => contradiction
  | openFails | tcsetattrFails | epollFails =>
    exact coherent.released idle (fun _ _ _ _ => rfl) rfl rfl

theorem close (coherent : s.Coherent cfg) (obj : Nat) : (s.close cfg obj).Coherent cfg := by
  cases open_ : s.sfd (cfg.pParam obj) with
  | none =>
    rw [SerialState.close_idle open_]
    exact coherent
  | some fd =>
    rw [SerialState.close_open open_]
    refine @released cfg s _ (cfg.pParam obj) coherent ?_ ?_ rfl rfl
    · intro other fd' also same
      exact coherent.same_port also open_ same
    · intro other fd' own also
      have elsewhere : fd' ≠ fd := by
        rintro rfl
        exact own (coherent.same_descriptor also open_)
      simp [elsewhere]

theorem read (coherent : s.Coherent cfg) (obj : Nat) (addWork : Bool) :
    (s.read cfg obj addWork).Coherent cfg := by
  unfold SerialState.read
  cases cfg.bFullDuplex (cfg.pParam obj) && s.bRcvRun (cfg.pParam obj) with
  | true => exact coherent
  | false =>
    cases addWork with
    | true => exact coherent.congr rfl rfl rfl
    | false => exact coherent

theorem step (coherent : s.Coherent cfg) (stepped : SerialStep cfg s label t) : t.Coherent cfg := by
  cases stepped with
  | locks obj free => exact coherent.lock free
  | repeats obj full busy => exact coherent
  | configures obj outcome fd taken fresh =>
    by_cases done : outcome = .opened
    · subst outcome
      exact coherent.opened fd fresh taken
    · exact coherent.failed outcome done taken
  | sends obj => exact coherent
  | reads obj addWork => exact coherent.read obj addWork
  | closes obj => exact coherent.close obj
  | jobStarts obj waits => exact coherent.congr rfl rfl rfl
  | jobEnds obj runs =>
    have counted : ({ s with running := update s.running obj (s.running obj - 1) }).Coherent cfg :=
      coherent.congr rfl rfl rfl
    exact counted.close obj

theorem reached (run : Run.Reaches (SerialStep cfg) SerialState.init trace s) : s.Coherent cfg :=
  Run.invariant (SerialState.Coherent cfg) (init cfg) (fun _ _ _ coherent => coherent.step) run

/-- In a coherent state the mutex alone says whether an object can be used. -/
theorem usable_iff (coherent : s.Coherent cfg) (obj : Nat) :
    s.Usable cfg obj ↔ s.mutex (cfg.port (cfg.pParam obj)) = .held (cfg.pParam obj) := by
  constructor
  · intro usable
    exact usable.2.1
  · intro holds
    obtain ⟨-, fd, open_⟩ := coherent.held _ _ holds
    have file := (coherent.descriptor _ _ open_).1
    exact ⟨by simp [open_], holds, by simp [SerialState.write, open_, file]⟩

end SerialState.Coherent

/-- Two full-duplex blocks on one port. -/
def sharedPort : SerialCfg where
  pParam obj := obj
  port _ := 1
  bFullDuplex _ := true

def firstOpened : SerialState :=
  ((SerialState.init.lock sharedPort 0).configure sharedPort 0 .opened 3).2

/-- What an event does to the mutexes. -/
def SerialCfg.effect (cfg : SerialCfg) (mutex : Nat → Mutex) : Ev → Nat → Mutex
  | .lock id => update mutex (cfg.port (cfg.pParam id)) (.held (cfg.pParam id))
  | .unlock id => update mutex (cfg.port (cfg.pParam id)) .free
  | .queued _ | .send .. | .knxGroupWrite _ | .report _ | .hbFresh _ => mutex

section

variable {devs : Nat → MbusDev} {answers : Answers}
variable (flags : ∀ id, (devs id).bFullDuplex = cfg.bFullDuplex (cfg.pParam id))

include flags

theorem serialOpen_repeats (full : cfg.bFullDuplex (cfg.pParam obj) = true)
    (busy : answers.mutexFree = false) : serialOpen devs obj answers = (0, []) := by
  simp [serialOpen, flags, full, busy]

theorem serialOpen_configures (free : answers.mutexFree = true) :
    ((s.lock cfg obj).configure cfg obj answers.opened fd).1 = (serialOpen devs obj answers).1 ∧
      ((s.lock cfg obj).configure cfg obj answers.opened fd).2.mutex =
        (serialOpen devs obj answers).2.foldl cfg.effect s.mutex := by
  cases opened : answers.opened <;>
    simp [serialOpen, flags, free, opened, SerialState.configure, SerialState.lock,
      SerialCfg.effect]

/-- A half-duplex object is closed while its block holds the mutex. -/
theorem serialClose_closes (coherent : s.Coherent cfg)
    (half : cfg.bFullDuplex (cfg.pParam obj) = false →
      s.mutex (cfg.port (cfg.pParam obj)) = .held (cfg.pParam obj))
    (found : answers.sfdOpen = (s.sfd (cfg.pParam obj)).isSome) :
    (s.close cfg obj).mutex = (serialClose devs obj answers).foldl cfg.effect s.mutex := by
  cases open_ : s.sfd (cfg.pParam obj) with
  | some fd =>
    rw [SerialState.close_open open_]
    simp [serialClose, found, open_, SerialCfg.effect]
  | none =>
    rw [SerialState.close_idle open_]
    cases full : cfg.bFullDuplex (cfg.pParam obj) with
    | true => simp [serialClose, flags, full, found, open_]
    | false =>
      obtain ⟨-, fd, also⟩ := coherent.held _ _ (half full)
      rw [open_] at also
      contradiction

end

end HiMaxGateway.Modbus
