import HiMaxGateway.Modbus.Ports
import HiMaxGateway.Modbus.Write

/-! Which calls give back every half-duplex port they take. -/
namespace HiMaxGateway.Modbus
open Chain

section

variable {devs : Nat → MbusDev}

@[simp] theorem portActs_nil : portActs devs [] = [] := rfl

@[simp] theorem portActs_append (one two : List Ev) :
    portActs devs (one ++ two) = portActs devs one ++ portActs devs two := by
  simp [portActs]

@[simp] theorem portActs_send (via dev : Nat) (done : Bool) (evs : List Ev) :
    portActs devs (.send via dev done :: evs) = portActs devs evs := rfl

@[simp] theorem portActs_echo (bActive : Bool) (dev : Nat) :
    portActs devs (echo devs bActive dev) = [] := by
  rw [echo]
  cases (devs dev).bFeedback <;> cases (devs dev).bMaster && (devs dev).linked <;> cases bActive <;>
    rfl

variable (devs)

def Usable (dev : Nat) : Prop :=
  (devs dev).pIf = true ∧ (devs dev).build = true ∧ (devs dev).pSerial = true

/-- The port was opened for a receive job that the pool does not take. -/
def JobLost (dev : Nat) (answers : Answers) : Prop :=
  (devs dev).bFullDuplex = false ∧ answers.opened = .opened ∧ answers.addWork = false

/-- `SerialOpen` returns `0`. -/
def Opens (dev : Nat) (answers : Answers) : Prop :=
  (devs dev).bFullDuplex = true ∧ answers.mutexFree = false ∨ answers.opened = .opened

/-- The port is opened and there is no frame to send. -/
def Refused (dev : Nat) (answers : Answers) : Prop :=
  Opens devs dev answers ∧ msg devs dev answers ≠ .frame

/-- The group loop goes through no null pointer: `pIf` is read only once the port is open. -/
def MemberReady (base : Nat) (answers : Answers) : Prop :=
  (devs base).pSerial = true ∧ (Opens devs base answers → (devs base).pIf = true)

def DeviceLeak (dev : Nat) (answers : Answers) : Prop :=
  Usable devs dev ∧ answers.built = .frame ∧ (devs dev).bFeedback = true ∧ JobLost devs dev answers

/-- The group loop reaches a half-duplex member that opens its port and has no frame. -/
inductive MemberLeak (pNext : Links Nat) (answers : Nat → Answers) : Nat → Option Nat → Prop where
  | here (n base : Nat) : (devs base).bFullDuplex = false → (answers n).opened = .opened →
      msg devs base (answers n) ≠ .frame → MemberLeak pNext answers n (some base)
  | later (n base : Nat) : ¬ Refused devs base (answers n) →
      MemberLeak pNext answers (n + 1) (pNext base) → MemberLeak pNext answers n (some base)

def HealthLeak (hbIgnore dev : Nat) (answers : Answers) : Prop :=
  5 ≤ hbIgnore ∧ Usable devs dev ∧ (answers.built = .frame ∨ answers.built = .zeroLength) ∧
    JobLost devs dev answers

variable {devs}

theorem serialOpen_zero : (serialOpen devs dev answers).1 = 0 ↔ Opens devs dev answers := by
  simp only [serialOpen, Opens]
  cases (devs dev).bFullDuplex <;> cases answers.mutexFree <;> cases answers.opened <;> simp

/-- A port that could not be opened is free again. -/
theorem opening_accounts (fails : ¬ Opens devs dev answers) (tidy : ¬ leak) :
    Accounts (portActs devs (serialOpen devs dev answers).2) leak := by
  apply Accounts.of_balanced _ tidy
  rw [serialOpen]
  cases full : (devs dev).bFullDuplex with
  | true =>
    cases opened : answers.opened <;> cases free : answers.mutexFree <;>
      simp [portActs, portAct, full, Balanced]
  | false =>
    cases opened : answers.opened with
    | opened => exact absurd (.inr opened) fails
    | openFails | tcsetattrFails | epollFails => simp [portActs, portAct, full, Balanced]

theorem full_acts (full : (devs dev).bFullDuplex = true) :
    portActs devs (serialOpen devs dev answers).2 = [] ∧
      portActs devs (serialClose devs dev answers) = [] ∧
      portActs devs (serialRead devs dev answers) = [] := by
  refine ⟨?_, ?_, ?_⟩
  · unfold serialOpen
    cases answers.opened <;> cases answers.mutexFree <;> simp [portActs, portAct, full]
  · unfold serialClose
    cases answers.sfdOpen <;> simp [portActs, portAct, full]
  · unfold serialRead
    cases answers.bRcvRun <;> cases answers.addWork <;> simp [portActs, portAct, full]

theorem half_acts (half : (devs dev).bFullDuplex = false) (opened : answers.opened = .opened) :
    portActs devs (serialOpen devs dev answers).2 = [.take (devs dev).port] ∧
      portActs devs (serialClose devs dev answers) = [.close (devs dev).port] ∧
      portActs devs (serialRead devs dev answers) =
        if answers.addWork then [.queue (devs dev).port] else [] := by
  refine ⟨?_, ?_, ?_⟩
  · simp [serialOpen, opened, portActs, portAct, half]
  · simp [serialClose, portActs, portAct, half]
  · unfold serialRead
    cases work : answers.addWork <;> simp [portActs, portAct, half]

theorem half_opened (half : (devs dev).bFullDuplex = false) (opens : Opens devs dev answers) :
    answers.opened = .opened := by
  rcases opens with ⟨full, -⟩ | opened
  · simp [half] at full
  · exact opened

theorem closing_accounts (opens : Opens devs dev answers) (tidy : ¬ leak) :
    Accounts (portActs devs ((serialOpen devs dev answers).2 ++ serialClose devs dev answers))
      leak := by
  apply Accounts.of_balanced _ tidy
  cases full : (devs dev).bFullDuplex with
  | true =>
    obtain ⟨opening, closing, -⟩ := @full_acts devs dev answers full
    simp [opening, closing, Balanced]
  | false =>
    obtain ⟨opening, closing, -⟩ := half_acts full (half_opened full opens)
    simp [opening, closing, Balanced]

theorem reading_accounts (opens : Opens devs dev answers) :
    Accounts (portActs devs ((serialOpen devs dev answers).2 ++ serialRead devs dev answers))
      (JobLost devs dev answers) := by
  cases full : (devs dev).bFullDuplex with
  | true =>
    obtain ⟨opening, -, reading⟩ := @full_acts devs dev answers full
    rw [portActs_append, opening, reading]
    exact Accounts.of_balanced trivial (by simp [JobLost, full])
  | false =>
    have opened := half_opened full opens
    obtain ⟨opening, -, reading⟩ := half_acts full opened
    rw [portActs_append, opening, reading]
    cases work : answers.addWork with
    | true => exact Accounts.of_balanced ⟨rfl, trivial⟩ (by simp [JobLost, work])
    | false => exact Accounts.of_taken _ ⟨full, opened, work⟩

/-- A frame is sent and the answer waited for, if there is one. -/
theorem turn_accounts (opens : Opens devs dev answers) :
    Accounts (portActs devs ((serialOpen devs dev answers).2 ++ receiveOrClose devs dev answers))
      ((devs dev).bFeedback = true ∧ JobLost devs dev answers) := by
  rw [receiveOrClose]
  cases feedback : (devs dev).bFeedback with
  | true => simpa using reading_accounts opens
  | false =>
    cases full : (devs dev).bFullDuplex with
    | false => simpa using closing_accounts opens not_false
    | true =>
      obtain ⟨opening, -, -⟩ := @full_acts devs dev answers full
      have nothing : Accounts [] False := Accounts.of_balanced trivial not_false
      simpa [opening] using nothing

theorem JobLost.opens (lost : JobLost devs dev answers) : Opens devs dev answers := .inr lost.2.1

theorem no_plugin : (!(devs dev).pIf || !(devs dev).build) = true ↔
    ¬ ((devs dev).pIf = true ∧ (devs dev).build = true) := by
  cases (devs dev).pIf <;> cases (devs dev).build <;> simp

theorem idle_accounts (tidy : ¬ leak) : Accounts [] leak :=
  Accounts.of_balanced trivial tidy

theorem writeOwner_accounts (bActive : Bool) :
    Accounts (portActs devs (writeOwner devs bActive dev answers).2)
      (DeviceLeak devs dev answers) := by
  rw [writeOwner]
  by_cases plugin : (devs dev).pIf = true ∧ (devs dev).build = true
  · by_cases serial : (devs dev).pSerial = true
    · by_cases opens : Opens devs dev answers
      · have zero := serialOpen_zero.mpr opens
        cases built : answers.built with
        | frame =>
          simpa [plugin, serial, zero, DeviceLeak, Usable, built] using turn_accounts opens
        | null | noBuffer | zeroLength =>
          have tidy : ¬ DeviceLeak devs dev answers := by simp [DeviceLeak, built]
          simpa [plugin, serial, zero] using closing_accounts opens tidy
      · have failed := mt serialOpen_zero.mp opens
        have tidy : ¬ DeviceLeak devs dev answers := fun leak => opens leak.2.2.2.opens
        simpa [plugin, serial, failed] using opening_accounts opens tidy
    · have tidy : ¬ DeviceLeak devs dev answers := fun leak => serial leak.1.2.2
      simpa [plugin, serial] using idle_accounts tidy
  · have tidy : ¬ DeviceLeak devs dev answers := fun leak => plugin ⟨leak.1.1, leak.1.2.1⟩
    rw [if_pos (no_plugin.mpr plugin)]
    exact idle_accounts tidy

theorem syncDev_accounts :
    Accounts (portActs devs (syncDev devs dev answers)) (DeviceLeak devs dev answers) := by
  rw [syncDev]
  by_cases plugin : (devs dev).pIf = true ∧ (devs dev).build = true
  · cases built : answers.built with
    | null | noBuffer | zeroLength =>
      have tidy : ¬ DeviceLeak devs dev answers := by simp [DeviceLeak, built]
      simpa [plugin] using idle_accounts tidy
    | frame =>
      by_cases serial : (devs dev).pSerial = true
      · by_cases opens : Opens devs dev answers
        · have zero := serialOpen_zero.mpr opens
          simpa [plugin, serial, zero, DeviceLeak, Usable, built] using turn_accounts opens
        · have failed := mt serialOpen_zero.mp opens
          have tidy : ¬ DeviceLeak devs dev answers := fun leak => opens leak.2.2.2.opens
          simpa [plugin, serial, failed] using opening_accounts opens tidy
      · have tidy : ¬ DeviceLeak devs dev answers := fun leak => serial leak.1.2.2
        simpa [plugin, serial] using idle_accounts tidy
  · have tidy : ¬ DeviceLeak devs dev answers := fun leak => plugin ⟨leak.1.1, leak.1.2.1⟩
    rw [if_pos (no_plugin.mpr plugin)]
    exact idle_accounts tidy

theorem mbusSyncAllDevStatus_accounts (turns : List (Nat × Answers)) :
    Accounts (portActs devs (mbusSyncAllDevStatus devs turns))
      (∃ turn ∈ turns, DeviceLeak devs turn.1 turn.2) := by
  induction turns with
  | nil => exact idle_accounts (by simp)
  | cons turn rest ih =>
    rw [mbusSyncAllDevStatus, portActs_append]
    simpa using syncDev_accounts.append ih

theorem modbusDevHealth_accounts (hbIgnore : Nat) :
    Accounts (portActs devs (modbusDevHealth devs hbIgnore dev answers))
      (HealthLeak devs hbIgnore dev answers) := by
  have fresh : portActs devs (if (devs dev).bOnlineCheck then [] else [.hbFresh dev]) = [] := by
    cases (devs dev).bOnlineCheck <;> rfl
  have idle (tidy : ¬ HealthLeak devs hbIgnore dev answers) :
      Accounts (portActs devs (if (devs dev).bOnlineCheck then [] else [.hbFresh dev]))
        (HealthLeak devs hbIgnore dev answers) := by
    rw [fresh]
    exact Accounts.of_balanced trivial tidy
  have opened (message : answers.built = .frame ∨ answers.built = .zeroLength)
      (ready : 5 ≤ hbIgnore ∧ Usable devs dev) (opens : Opens devs dev answers) :
      Accounts (portActs devs ((serialOpen devs dev answers).2 ++ serialRead devs dev answers))
        (HealthLeak devs hbIgnore dev answers) := by
    have reading := reading_accounts opens
    simpa [HealthLeak, ready, message] using reading
  rw [modbusDevHealth]
  by_cases early : hbIgnore < 5
  · simpa [early] using idle fun leak => Nat.not_le.mpr early leak.1
  by_cases plugin : (devs dev).pIf = true ∧ (devs dev).build = true
  · by_cases serial : (devs dev).pSerial = true
    · have ready : 5 ≤ hbIgnore ∧ Usable devs dev := ⟨by omega, plugin.1, plugin.2, serial⟩
      cases built : answers.built with
      | null | noBuffer => simpa [early, plugin] using idle (by simp [HealthLeak, built])
      | frame | zeroLength =>
        by_cases opens : Opens devs dev answers
        · have zero := serialOpen_zero.mpr opens
          simpa [early, plugin, serial, zero, fresh] using opened (by simp [built]) ready opens
        · have failed := mt serialOpen_zero.mp opens
          have tidy : ¬ HealthLeak devs hbIgnore dev answers := fun leak => opens leak.2.2.2.opens
          simpa [early, plugin, serial, failed, fresh] using opening_accounts opens tidy
    · have tidy : ¬ HealthLeak devs hbIgnore dev answers := fun leak => serial leak.2.1.2.2
      cases built : answers.built <;> simpa [early, plugin, serial] using idle tidy
  · have tidy : ¬ HealthLeak devs hbIgnore dev answers :=
      fun leak => plugin ⟨leak.2.1.1, leak.2.1.2.1⟩
    simp only [if_neg early, if_pos (no_plugin.mpr plugin)]
    exact idle tidy

theorem writeOwner_continues : (writeOwner devs bActive dev answers).1 = none ↔
    Usable devs dev ∧ ¬ Refused devs dev answers := by
  rw [writeOwner]
  by_cases plugin : (devs dev).pIf = true ∧ (devs dev).build = true
  · by_cases serial : (devs dev).pSerial = true
    · by_cases opens : Opens devs dev answers
      · have zero := serialOpen_zero.mpr opens
        cases built : answers.built <;>
          simp [plugin, serial, zero, Usable, Refused, opens, msg, built]
      · have failed := mt serialOpen_zero.mp opens
        simp [plugin, serial, failed, Usable, Refused, opens]
    · simp [plugin, serial, Usable]
  · rw [if_pos (no_plugin.mpr plugin)]
    simp only [reduceCtorEq, false_iff]
    exact fun usable => plugin ⟨usable.1.1, usable.1.2.1⟩

theorem memberLeak_some : MemberLeak devs pNext answers n (some base) ↔
    (devs base).bFullDuplex = false ∧ (answers n).opened = .opened ∧
      msg devs base (answers n) ≠ .frame ∨
    ¬ Refused devs base (answers n) ∧ MemberLeak devs pNext answers (n + 1) (pNext base) := by
  constructor
  · intro leak
    cases leak with
    | here _ _ half opened unframed => exact .inl ⟨half, opened, unframed⟩
    | later _ _ passed leak => exact .inr ⟨passed, leak⟩
  · rintro (⟨half, opened, unframed⟩ | ⟨passed, leak⟩)
    · exact .here n base half opened unframed
    · exact .later n base passed leak

/-- The loop goes on exactly when the member was not refused. -/
theorem memberLeak_passed (passed : ¬ Refused devs base (answers n)) :
    MemberLeak devs pNext answers n (some base) ↔
      MemberLeak devs pNext answers (n + 1) (pNext base) := by
  rw [memberLeak_some]
  constructor
  · rintro (⟨_, opened, unframed⟩ | ⟨_, leak⟩)
    · exact absurd ⟨.inr opened, unframed⟩ passed
    · exact leak
  · intro leak
    exact .inr ⟨passed, leak⟩

theorem refused_accounts (refused : Refused devs base (answers n)) :
    Accounts (portActs devs (serialOpen devs base (answers n)).2)
      (MemberLeak devs pNext answers n (some base)) := by
  cases full : (devs base).bFullDuplex with
  | true =>
    rw [(full_acts full).1]
    exact idle_accounts (by simp [memberLeak_some, full, refused])
  | false =>
    have opened := half_opened full refused.1
    rw [(half_acts full opened).1]
    exact Accounts.of_taken _ (.here n base full opened refused.2)

theorem writeMembers_accounts (serial : (devs owner).pSerial = true)
    (done : writeMembers devs pNext owner answers fuel n next = some (ret, evs)) :
    Accounts (portActs devs evs) (MemberLeak devs pNext answers n next) := by
  induction fuel generalizing n next ret evs with
  | zero => contradiction
  | succ fuel ih =>
    cases next with
    | none =>
      simp only [writeMembers, Option.some.injEq, Prod.mk.injEq] at done
      rw [← done.2]
      exact idle_accounts (by rintro ⟨⟩)
    | some base =>
      cases member_serial : (devs base).pSerial with
      | false => simp [writeMembers, serial, member_serial] at done
      | true =>
      by_cases opens : Opens devs base (answers n)
      · have zero := serialOpen_zero.mpr opens
        cases plugin : (devs base).pIf with
        | false => simp [writeMembers, serial, member_serial, zero, plugin] at done
        | true =>
        by_cases framed : msg devs base (answers n) = .frame
        · have passed : ¬ Refused devs base (answers n) := fun refused => refused.2 framed
          simp only [writeMembers, serial, member_serial, plugin, zero, framed, Bool.not_true,
            Bool.false_eq_true, if_false, if_true, Option.map_eq_some_iff, Prod.mk.injEq] at done
          obtain ⟨⟨ret', rest⟩, looped, -, rfl⟩ := done
          have turn := (closing_accounts opens not_false).append (ih looped)
          rw [memberLeak_passed passed]
          simpa using turn
        · have refused : Refused devs base (answers n) := ⟨opens, framed⟩
          have stops : evs = (serialOpen devs base (answers n)).2 := by
            cases built : msg devs base (answers n) <;>
              simp_all [writeMembers]
          rw [stops]
          exact refused_accounts refused
      · have passed : ¬ Refused devs base (answers n) := fun refused => opens refused.1
        have failed := mt serialOpen_zero.mp opens
        simp only [writeMembers, serial, member_serial, failed, Bool.not_true, Bool.false_eq_true,
          if_false, Option.map_eq_some_iff, Prod.mk.injEq] at done
        obtain ⟨⟨ret', rest⟩, looped, -, rfl⟩ := done
        have turn := (opening_accounts opens not_false).append (ih looped)
        rw [memberLeak_passed passed]
        simpa using turn

/-- The loop ends when the chain does. -/
theorem writeMembers_returns (chain : From pNext cell bases) (fuel_le : bases.length < fuel)
    (ready : ∀ base ∈ bases, ∀ n, MemberReady devs base (answers n)) :
    ∃ done, writeMembers devs pNext owner answers fuel n (pNext cell) = some done := by
  induction bases generalizing cell fuel n with
  | nil =>
    cases fuel with
    | zero => contradiction
    | succ fuel =>
      rw [show pNext cell = none from chain]
      exact ⟨_, rfl⟩
  | cons base bases ih =>
    cases fuel with
    | zero => contradiction
    | succ fuel =>
      obtain ⟨linked, chain⟩ := chain
      obtain ⟨serial, plugin⟩ := ready base (by simp) n
      obtain ⟨done, looped⟩ := @ih base fuel (n + 1) chain (by simpa using fuel_le)
        fun other member => ready other (by simp [member])
      rw [linked]
      simp only [writeMembers, looped, serial]
      split
      · exact ⟨_, rfl⟩
      split
      · contradiction
      split
      next zero =>
        rw [plugin (serialOpen_zero.mp zero), Bool.not_true, if_neg Bool.false_ne_true]
        split <;> exact ⟨_, rfl⟩
      · exact ⟨_, rfl⟩

variable (devs) in
def WriteLeak (pNext : Links Nat) (dev : Nat) (own : Answers) (answers : Nat → Answers) : Prop :=
  DeviceLeak devs dev own ∨
    (Usable devs dev ∧ ¬ Refused devs dev own) ∧ MemberLeak devs pNext answers 0 (pNext dev)

theorem modbusDevWrite_accounts
    (done : modbusDevWrite devs pNext bActive dev own answers fuel = some (ret, evs)) :
    Accounts (portActs devs evs) (WriteLeak devs pNext dev own answers) := by
  have accounts := @writeOwner_accounts devs dev own bActive
  have continues := @writeOwner_continues devs bActive dev own
  cases first : writeOwner devs bActive dev own with
  | mk result opening =>
    rw [first] at accounts continues
    cases result with
    | some _ =>
      simp only [modbusDevWrite, first, Option.some.injEq, Prod.mk.injEq] at done
      simp only [reduceCtorEq, false_iff] at continues
      rw [← done.2]
      simpa [WriteLeak, continues] using accounts
    | none =>
      simp only [modbusDevWrite, first, Option.map_eq_some_iff, Prod.mk.injEq] at done
      obtain ⟨⟨ret', rest⟩, looped, -, rfl⟩ := done
      have goes := continues.mp rfl
      have members := writeMembers_accounts goes.1.2.2 looped
      rw [portActs_append, WriteLeak, and_iff_right goes]
      exact accounts.append members

end

inductive Call where
  | write (bActive : Bool) (dev : Nat) (own : Answers) (answers : Nat → Answers) (fuel : Nat)
  | syncAll (turns : List (Nat × Answers))
  | health (hbIgnore dev : Nat) (answers : Answers)

section

variable (devs : Nat → MbusDev) (pNext : Links Nat)

/-- What a call did when it returned. -/
def Call.events : Call → Option (List Ev)
  | .write bActive dev own answers fuel =>
      (modbusDevWrite devs pNext bActive dev own answers fuel).map Prod.snd
  | .syncAll turns => some (mbusSyncAllDevStatus devs turns)
  | .health hbIgnore dev answers => some (modbusDevHealth devs hbIgnore dev answers)

/-- A receive job is not taken by the pool, or an opened group member has no frame. -/
def Call.Leaks : Call → Prop
  | .write _ dev own answers _ => WriteLeak devs pNext dev own answers
  | .syncAll turns => ∃ turn ∈ turns, DeviceLeak devs turn.1 turn.2
  | .health hbIgnore dev answers => HealthLeak devs hbIgnore dev answers

/-- What the calls that lose no port do to the ports. -/
def TidyCalls (acts : List PortAct) : Prop :=
  ∃ call : Call, ¬ call.Leaks devs pNext ∧
    ∃ evs, call.events devs pNext = some evs ∧ acts = portActs devs evs

variable {devs pNext}

theorem Call.accounts {call : Call} (returned : call.events devs pNext = some evs) :
    Accounts (portActs devs evs) (call.Leaks devs pNext) := by
  cases call with
  | write bActive dev own answers fuel =>
    simp only [Call.events, Option.map_eq_some_iff] at returned
    obtain ⟨⟨ret, evs'⟩, done, rfl⟩ := returned
    exact modbusDevWrite_accounts done
  | syncAll turns =>
    cases Option.some.inj returned
    exact mbusSyncAllDevStatus_accounts turns
  | health hbIgnore dev answers =>
    cases Option.some.inj returned
    exact modbusDevHealth_accounts hbIgnore

theorem TidyCalls.balanced (called : TidyCalls devs pNext acts) : Balanced none acts := by
  obtain ⟨call, tidy, evs, returned, rfl⟩ := called
  exact (Call.accounts returned).balanced tidy

end

/-- A call that returns has given back its half-duplex ports exactly when it does not leak,
and such calls leave no port without a thread or job that gives it back. -/
theorem ports_given_back_iff (devs : Nat → MbusDev) (pNext : Links Nat) :
    (∀ (call : Call) (evs : List Ev), call.events devs pNext = some evs →
      (Released (portActs devs evs) ↔ ¬ call.Leaks devs pNext)) ∧
    ∀ trace s, Run.Reaches (PortStep (TidyCalls devs pNext)) Ports.idle trace s → s.Returning := by
  constructor
  · intro call evs returned
    exact (Call.accounts returned).released_iff
  · intro trace s reached
    exact ports_returning (fun _ called => called.balanced) reached

/-- A group of two half-duplex devices. -/
def samplePair : Nat → MbusDev := fun dev => { port := dev + 1, bFeedback := false }

def samplePairNext : Links Nat := fun dev => if dev = 0 then some 1 else none

/-- The plugin of the second device has no frame for the data point. -/
def unframedMember : Call := .write true 0 {} (fun _ => { built := .null }) 3

/-- A receive job the pool does not take. -/
def lostJob : Call := .syncAll [(0, { addWork := false })]

theorem ports_not_given_back : (∃ evs,
    unframedMember.events samplePair samplePairNext = some evs ∧
    ¬ Released (portActs samplePair evs)) ∧
    ∃ evs, lostJob.events (fun _ => { port := 1 }) samplePairNext = some evs ∧
      ¬ Released (portActs (fun _ => { port := 1 }) evs) := by
  refine ⟨⟨_, rfl, ?_⟩, ⟨_, rfl, ?_⟩⟩
  · intro released
    exact absurd (released 2) (by decide)
  · intro released
    exact absurd (released 1) (by decide)

/-- The same group is written when both plugins have a frame. -/
def framedMember : Call := .write true 0 {} (fun _ => {}) 3

theorem ports_given_back_pair : ∃ evs,
    framedMember.events samplePair samplePairNext = some evs ∧
    Released (portActs samplePair evs) := by
  refine ⟨_, rfl, ?_⟩
  apply ((ports_given_back_iff samplePair samplePairNext).1 framedMember _ rfl).mpr
  rintro (lost | ⟨-, leak⟩)
  · exact absurd lost.2.2.1 (by decide)
  · cases leak with
    | here _ _ _ _ unframed => exact unframed rfl
    | later _ _ _ leak => cases leak

end HiMaxGateway.Modbus
