import HiMaxGateway.Modbus.Lookup
import HiMaxGateway.Modbus.Group
import HiMaxGateway.Modbus.WriteProofs

/-! What `ModbusDevWrite` tells about a command: the report of a device that does not answer, and
the result. -/
namespace HiMaxGateway.Modbus
open Chain CText

/-- The place of the device `ModbusDevWrite` finds. -/
def searchPlace (devices : List DeviceElement) (key : Text) : Option Nat :=
  (suffixId key).bind fun devId => devices.findIdx? (·.devId == devId)

section

variable (devs : Nat → MbusDev) (pNext : Links Nat)

/-- `ModbusDevWrite` with its search. A key shorter than the MAC is read behind its end and gives
no result. -/
def modbusDevWriteKey (devices : List DeviceElement) (key : Text) (bActive : Bool) (own : Answers)
    (answers : Nat → Answers) (fuel : Nat) : Option (Int × List Ev) :=
  if key.length < macLength then none
  else
    match searchPlace devices key with
    | none => some (-1, [])
    | some id => modbusDevWrite devs pNext bActive id own answers fuel

/-- The value of a command is told the cloud or the KNX device. -/
def Ev.Reports (dev : Nat) (ev : Ev) : Prop := ev = .knxGroupWrite dev ∨ ev = .report dev

/-- Whatever is reported was sent before. -/
def Confirmed (evs : List Ev) : Prop :=
  ∀ before ev after, evs = before ++ ev :: after → ∀ dev, ev.Reports dev →
    .send dev dev true ∈ before

structure ConfirmsSent (devices : List DeviceElement) (key : Text) (bActive : Bool) (own : Answers)
    (answers : Nat → Answers) : Prop where
  /-- Also where the group loop gives no result. -/
  owner : ∀ id, searchPlace devices key = some id → Confirmed (writeOwner devs bActive id own).2
  returned : ∀ fuel ret evs,
    modbusDevWriteKey devs pNext devices key bActive own answers fuel = some (ret, evs) →
      Confirmed evs ∧
        (ret = 0 → ∃ id, searchPlace devices key = some id ∧ .send id id true ∈ evs)
  failed : (∀ id, searchPlace devices key = some id →
      .send id id true ∉ (writeOwner devs bActive id own).2) →
    ∃ fuel ret evs,
      modbusDevWriteKey devs pNext devices key bActive own answers fuel = some (ret, evs) ∧ ret < 0

/-- The port does not open, or the frame is not written. -/
def Unsent (dev : Nat) (answers : Answers) : Prop :=
  ¬ Opens devs dev answers ∨ answers.built = .frame ∧ answers.written = false

/-- The device does not answer, and there is somebody to tell. -/
def Echoes (bActive : Bool) (dev : Nat) : Prop :=
  (devs dev).bFeedback = false ∧
    ((devs dev).bMaster = true ∧ (devs dev).linked = true ∨ bActive = true)

/-- The group loop reaches a member that is opened and has no frame. -/
inductive MemberRefused (answers : Nat → Answers) : Nat → Option Nat → Prop where
  | here (n base : Nat) : MemberReady devs base (answers n) → Refused devs base (answers n) →
      MemberRefused answers n (some base)
  | later (n base : Nat) : MemberReady devs base (answers n) → ¬ Refused devs base (answers n) →
      MemberRefused answers (n + 1) (pNext base) → MemberRefused answers n (some base)

/-- A device that was not written is reported, or passes for written. -/
def FalselyConfirmed (bActive : Bool) (id : Nat) (own : Answers) (answers : Nat → Answers) : Prop :=
  Usable devs id ∧ Unsent devs id own ∧
    (Echoes devs bActive id ∨ ¬ MemberRefused devs pNext answers 0 (pNext id))

end

section

variable {devs : Nat → MbusDev} {pNext : Links Nat} {id dev via : Nat} {bActive done : Bool}
  {own : Answers} {ev : Ev} {evs rest opening first second : List Ev}

/-- Events of the serial operations. -/
def Quiet (evs : List Ev) : Prop :=
  ∀ ev ∈ evs, (∀ dev, ¬ ev.Reports dev) ∧ ∀ via dev done, ev ≠ .send via dev done

theorem Quiet.append (one : Quiet first) (two : Quiet second) : Quiet (first ++ second) := by
  intro ev member
  rcases List.mem_append.mp member with member | member
  · exact one ev member
  · exact two ev member

theorem Quiet.unsent (quiet : Quiet evs) : .send via dev done ∉ evs :=
  fun member => (quiet _ member).2 _ _ _ rfl

theorem quiet_serialOpen : Quiet (serialOpen devs dev own).2 := by
  rw [serialOpen]
  cases (devs dev).bFullDuplex && !own.mutexFree <;> cases own.opened <;>
    simp [Quiet, Ev.Reports]

theorem quiet_serialClose : Quiet (serialClose devs dev own) := by
  rw [serialClose]
  split <;> simp [Quiet, Ev.Reports]

theorem quiet_receiveOrClose : Quiet (receiveOrClose devs dev own) := by
  rw [receiveOrClose, serialRead]
  split
  · split
    · simp [Quiet]
    split <;> simp [Quiet, Ev.Reports]
  split
  · exact quiet_serialClose
  · simp [Quiet]

theorem echo_unsent : .send via dev done ∉ echo devs bActive id := by
  rw [echo]
  cases (devs id).bFeedback <;> cases (devs id).bMaster && (devs id).linked <;> cases bActive <;>
    simp

theorem echo_reports (echoes : Echoes devs bActive id) :
    ∃ ev ∈ echo devs bActive id, ev.Reports id := by
  obtain ⟨silent, ⟨master, linked⟩ | active⟩ := echoes
  · exact ⟨.knxGroupWrite id, by simp [echo, silent, master, linked], .inl rfl⟩
  · exact ⟨.report id, by simp [echo, silent, active], .inr rfl⟩

theorem echo_nil (silent : ¬ Echoes devs bActive id) : echo devs bActive id = [] := by
  rw [echo]
  cases feedback : (devs id).bFeedback <;> cases master : (devs id).bMaster <;>
    cases linked : (devs id).linked <;> cases active : bActive <;>
    simp_all [Echoes]

theorem Confirmed.of_silent (silent : ∀ ev ∈ evs, ∀ dev, ¬ ev.Reports dev) : Confirmed evs := by
  rintro before ev after rfl dev reports
  exact absurd reports (silent ev (by simp) dev)

/-- Nothing is reported before a frame was written, and only this device after it. -/
theorem Confirmed.of_sent (quiet : Quiet opening)
    (alone : ∀ ev ∈ rest, ∀ dev, ev.Reports dev → dev = id) :
    Confirmed (opening ++ .send id id true :: rest) := by
  intro before ev after split dev reports
  rcases List.append_eq_append_iff.mp split with ⟨more, rfl, tail⟩ | ⟨more, rfl, tail⟩
  · cases more with
    | nil =>
      rw [List.nil_append, List.cons.injEq] at tail
      rw [← tail.1] at reports
      rcases reports with wrong | wrong <;> contradiction
    | cons first more =>
      rw [List.cons_append, List.cons.injEq] at tail
      obtain ⟨rfl, rfl⟩ := tail
      have same := alone ev (by simp) dev reports
      subst same
      simp
  · cases more with
    | nil =>
      rw [List.nil_append, List.cons.injEq] at tail
      rw [tail.1] at reports
      rcases reports with wrong | wrong <;> contradiction
    | cons first more =>
      rw [List.cons_append, List.cons.injEq] at tail
      rw [tail.1] at reports
      exact absurd reports ((quiet first (by simp)).1 dev)

theorem Confirmed.sent (confirmed : Confirmed evs) (member : ev ∈ evs) (reports : ev.Reports dev) :
    .send dev dev true ∈ evs := by
  obtain ⟨before, after, rfl⟩ := List.append_of_mem member
  exact List.mem_append_left _ (confirmed before ev after rfl dev reports)

theorem Confirmed.append (confirmed : Confirmed evs)
    (silent : ∀ ev ∈ rest, ∀ dev, ¬ ev.Reports dev) : Confirmed (evs ++ rest) := by
  intro before ev after split dev reports
  rcases List.append_eq_append_iff.mp split with ⟨more, rfl, tail⟩ | ⟨more, rfl, tail⟩
  · exact absurd reports (silent ev (by simp [tail]) dev)
  · cases more with
    | nil =>
      rw [List.nil_append] at tail
      exact absurd reports (silent ev (by simp [← tail]) dev)
    | cons first more =>
      rw [List.cons_append, List.cons.injEq] at tail
      exact confirmed before ev more (by rw [tail.1]) dev reports

theorem writeOwner_unusable (unusable : ¬ Usable devs id) :
    writeOwner devs bActive id own = (some (-1), []) := by
  rw [writeOwner]
  by_cases plugin : (devs id).pIf = true ∧ (devs id).build = true
  · have serial : (devs id).pSerial ≠ true := fun serial => unusable ⟨plugin.1, plugin.2, serial⟩
    simp [plugin, serial]
  · rw [if_pos (no_plugin.mpr plugin)]

theorem writeOwner_unframed (usable : Usable devs id) (opens : Opens devs id own)
    (unframed : own.built ≠ .frame) : writeOwner devs bActive id own =
      (some (-1), (serialOpen devs id own).2 ++ serialClose devs id own) := by
  obtain ⟨plugin, build, serial⟩ := usable
  have zero := serialOpen_zero.mpr opens
  cases built : own.built with
  | frame => exact absurd built unframed
  | null | noBuffer | zeroLength => simp [writeOwner, plugin, build, serial, zero, built]

theorem writeOwner_framed (usable : Usable devs id) (opens : Opens devs id own)
    (framed : own.built = .frame) : writeOwner devs bActive id own =
      (none, (serialOpen devs id own).2 ++ .send id id own.written ::
        (receiveOrClose devs id own ++ echo devs bActive id)) := by
  obtain ⟨plugin, build, serial⟩ := usable
  have zero := serialOpen_zero.mpr opens
  simp [writeOwner, plugin, build, serial, zero, framed]

theorem writeOwner_closed (usable : Usable devs id) (closed : ¬ Opens devs id own) :
    writeOwner devs bActive id own =
      (none, (serialOpen devs id own).2 ++ echo devs bActive id) := by
  obtain ⟨plugin, build, serial⟩ := usable
  have failed := mt serialOpen_zero.mp closed
  simp [writeOwner, plugin, build, serial, failed]

/-- A device that was not sent to is reported by its echo only. -/
theorem writeOwner_unsent (bActive : Bool) (usable : Usable devs id) (unsent : Unsent devs id own) :
    (writeOwner devs bActive id own).1 = none ∧
      .send id id true ∉ (writeOwner devs bActive id own).2 ∧
      ∃ before, writeOwner devs bActive id own = (none, before ++ echo devs bActive id) ∧
        ∀ ev ∈ before, ∀ dev, ¬ ev.Reports dev := by
  by_cases opens : Opens devs id own
  · obtain ⟨framed, unwritten⟩ := unsent.resolve_left (not_not_intro opens)
    rw [writeOwner_framed usable opens framed, unwritten]
    refine ⟨rfl, ?_, (serialOpen devs id own).2 ++ .send id id false :: receiveOrClose devs id own,
      by simp, ?_⟩
    · simp [quiet_serialOpen.unsent, quiet_receiveOrClose.unsent, echo_unsent]
    · intro ev member dev
      rcases List.mem_append.mp member with member | member
      · exact (quiet_serialOpen ev member).1 dev
      rcases List.mem_cons.mp member with rfl | member
      · rintro (wrong | wrong) <;> contradiction
      · exact (quiet_receiveOrClose ev member).1 dev
  · rw [writeOwner_closed usable opens]
    refine ⟨rfl, ?_, (serialOpen devs id own).2, rfl,
      fun ev member => (quiet_serialOpen ev member).1⟩
    simp [quiet_serialOpen.unsent, echo_unsent]

theorem echo_alone (member : ev ∈ echo devs bActive id) (reports : ev.Reports dev) : dev = id := by
  have own : ev = .knxGroupWrite id ∨ ev = .report id ∨ ev = .hbFresh id := by
    rw [echo] at member
    split at member
    · contradiction
    simp only [List.mem_append, List.mem_ite_nil_right, List.mem_cons, List.not_mem_nil,
      or_false] at member
    tauto
  rcases own with rfl | rfl | rfl <;> simp [Ev.Reports] at reports
  · exact reports.symm
  · exact reports.symm

/-- The device was sent to, or the command was refused before anything was reported. -/
theorem writeOwner_tidy (bActive : Bool) (tidy : ¬ (Usable devs id ∧ Unsent devs id own)) :
    Confirmed (writeOwner devs bActive id own).2 ∧
      ((writeOwner devs bActive id own).1 = some (-1) ∨
        (writeOwner devs bActive id own).1 = none ∧
          .send id id true ∈ (writeOwner devs bActive id own).2) := by
  by_cases usable : Usable devs id
  · have sent : ¬ Unsent devs id own := fun unsent => tidy ⟨usable, unsent⟩
    have opens : Opens devs id own := by
      by_contra closed
      exact sent (.inl closed)
    by_cases framed : own.built = .frame
    · have written : own.written = true := by
        by_contra unwritten
        exact sent (.inr ⟨framed, by simpa using unwritten⟩)
      rw [writeOwner_framed usable opens framed, written]
      refine ⟨Confirmed.of_sent quiet_serialOpen ?_, .inr ⟨rfl, by simp⟩⟩
      intro ev member dev reports
      rcases List.mem_append.mp member with member | member
      · exact absurd reports ((quiet_receiveOrClose ev member).1 dev)
      · exact echo_alone member reports
    · rw [writeOwner_unframed usable opens framed]
      have quiet : Quiet ((serialOpen devs id own).2 ++ serialClose devs id own) :=
        quiet_serialOpen.append quiet_serialClose
      exact ⟨Confirmed.of_silent fun ev member => (quiet ev member).1, .inl rfl⟩
  · rw [writeOwner_unusable usable]
    exact ⟨Confirmed.of_silent (by simp), .inl rfl⟩

variable {owner base fuel n : Nat} {next : Option Nat} {answers : Nat → Answers} {ret : Int}

variable (devs) in
/-- What the loop does with a member before it goes on. -/
def memberTurn (owner base : Nat) (answer : Answers) : List Ev :=
  (serialOpen devs base answer).2 ++
    if (serialOpen devs base answer).1 = 0 then
      .send owner base answer.written :: serialClose devs base answer
    else []

theorem memberTurn_silent (member : ev ∈ memberTurn devs owner base answer) : ¬ ev.Reports dev := by
  rcases List.mem_append.mp member with member | member
  · exact (quiet_serialOpen ev member).1 dev
  split at member
  · rcases List.mem_cons.mp member with rfl | member
    · rintro (wrong | wrong) <;> contradiction
    · exact (quiet_serialClose ev member).1 dev
  · contradiction

theorem writeMembers_null (serial : (devs owner).pSerial = true)
    (null : ¬ MemberReady devs base (answers n)) :
    writeMembers devs pNext owner answers (fuel + 1) n (some base) = none := by
  rw [writeMembers, serial, Bool.not_true, if_neg Bool.false_ne_true]
  cases base_serial : (devs base).pSerial with
  | false => rfl
  | true =>
    simp only [MemberReady, base_serial, true_and, Classical.not_imp, Bool.not_eq_true] at null
    obtain ⟨opens, plugin⟩ := null
    simp [serialOpen_zero.mpr opens, plugin]

theorem writeMembers_refused (serial : (devs owner).pSerial = true)
    (ready : MemberReady devs base (answers n))
    (refused : Refused devs base (answers n)) :
    writeMembers devs pNext owner answers (fuel + 1) n (some base) =
      some (-1, (serialOpen devs base (answers n)).2) := by
  obtain ⟨opens, unframed⟩ := refused
  have zero := serialOpen_zero.mpr opens
  cases built : msg devs base (answers n) with
  | frame => exact absurd built unframed
  | null | noBuffer | zeroLength =>
    simp [writeMembers, serial, ready.1, ready.2 opens, zero, built]

theorem writeMembers_passed (serial : (devs owner).pSerial = true)
    (ready : MemberReady devs base (answers n))
    (passed : ¬ Refused devs base (answers n)) :
    writeMembers devs pNext owner answers (fuel + 1) n (some base) =
      (writeMembers devs pNext owner answers fuel (n + 1) (pNext base)).map fun (ret, rest) =>
        (ret, memberTurn devs owner base (answers n) ++ rest) := by
  by_cases opens : Opens devs base (answers n)
  · have zero := serialOpen_zero.mpr opens
    have framed : msg devs base (answers n) = .frame := by
      by_contra unframed
      exact passed ⟨opens, unframed⟩
    simp [writeMembers, serial, ready.1, ready.2 opens, zero, framed, memberTurn]
  · have failed := mt serialOpen_zero.mp opens
    simp [writeMembers, serial, ready.1, failed, memberTurn]

/-- The members are not reported, and the result is negative exactly when one is refused. -/
theorem writeMembers_spec (serial : (devs owner).pSerial = true)
    (done : writeMembers devs pNext owner answers fuel n next = some (ret, evs)) :
    (∀ ev ∈ evs, ∀ dev, ¬ ev.Reports dev) ∧
      (ret = 0 ∧ ¬ MemberRefused devs pNext answers n next ∨
        ret = -1 ∧ MemberRefused devs pNext answers n next) := by
  induction fuel generalizing n next ret evs with
  | zero => contradiction
  | succ fuel ih =>
    cases next with
    | none =>
      simp only [writeMembers, Option.some.injEq, Prod.mk.injEq] at done
      obtain ⟨rfl, rfl⟩ := done
      exact ⟨by simp, .inl ⟨rfl, by rintro ⟨⟩⟩⟩
    | some base =>
      by_cases ready : MemberReady devs base (answers n)
      · by_cases refused : Refused devs base (answers n)
        · rw [writeMembers_refused serial ready refused] at done
          simp only [Option.some.injEq, Prod.mk.injEq] at done
          obtain ⟨rfl, rfl⟩ := done
          exact ⟨fun ev member => (quiet_serialOpen ev member).1,
            .inr ⟨rfl, .here n base ready refused⟩⟩
        · rw [writeMembers_passed serial ready refused] at done
          simp only [Option.map_eq_some_iff, Prod.mk.injEq] at done
          obtain ⟨⟨ret, rest⟩, looped, rfl, rfl⟩ := done
          obtain ⟨silent, result⟩ := ih looped
          have same : MemberRefused devs pNext answers n (some base) ↔
              MemberRefused devs pNext answers (n + 1) (pNext base) := by
            constructor
            · intro member
              cases member with
              | here _ _ _ now => exact absurd now refused
              | later _ _ _ _ member => exact member
            · exact .later n base ready refused
          rw [same]
          refine ⟨fun ev member dev => ?_, result⟩
          rcases List.mem_append.mp member with member | member
          · exact memberTurn_silent member
          · exact silent ev member dev
      · rw [writeMembers_null serial ready] at done
        contradiction

/-- A refused member ends the loop. -/
theorem MemberRefused.returns (serial : (devs owner).pSerial = true)
    (member : MemberRefused devs pNext answers n next) :
    ∃ fuel ret evs, writeMembers devs pNext owner answers fuel n next = some (ret, evs) ∧
      ret < 0 := by
  induction member with
  | here n base ready refused =>
    exact ⟨1, -1, _, writeMembers_refused serial ready refused, by decide⟩
  | later n base ready passed _ ih =>
    obtain ⟨fuel, ret, evs, looped, negative⟩ := ih
    refine ⟨fuel + 1, ret, memberTurn devs owner base (answers n) ++ evs, ?_, negative⟩
    rw [writeMembers_passed serial ready passed, looped]
    rfl

theorem modbusDevWrite_refused (first : (writeOwner devs bActive id own).1 = some (-1)) :
    modbusDevWrite devs pNext bActive id own answers fuel =
      some (-1, (writeOwner devs bActive id own).2) := by
  cases call : writeOwner devs bActive id own with
  | mk result evs =>
    rw [call] at first
    simp only at first
    simp only [modbusDevWrite, call, first]

theorem modbusDevWrite_loops (first : (writeOwner devs bActive id own).1 = none) :
    modbusDevWrite devs pNext bActive id own answers fuel =
      (writeMembers devs pNext id answers fuel 0 (pNext id)).map fun (ret, rest) =>
        (ret, (writeOwner devs bActive id own).2 ++ rest) := by
  cases call : writeOwner devs bActive id own with
  | mk result evs =>
    rw [call] at first
    simp only at first
    simp only [modbusDevWrite, call, first]

/-- A device that was not written is confirmed truly exactly when a refused member makes the result
negative and nobody was told. -/
theorem unsent_confirms (pNext : Links Nat) (bActive : Bool) (answers : Nat → Answers)
    (usable : Usable devs id) (unsent : Unsent devs id own) :
    (¬ Echoes devs bActive id ↔ Confirmed (writeOwner devs bActive id own).2) ∧
      (MemberRefused devs pNext answers 0 (pNext id) ↔ ∃ fuel ret evs,
        modbusDevWrite devs pNext bActive id own answers fuel = some (ret, evs) ∧ ret < 0) := by
  obtain ⟨continues, silent, before, split, quiet⟩ := writeOwner_unsent bActive usable unsent
  have serial := usable.2.2
  constructor
  · constructor
    · intro alone
      rw [split, echo_nil alone, List.append_nil]
      exact Confirmed.of_silent quiet
    · intro confirmed echoes
      obtain ⟨ev, member, reports⟩ := echo_reports echoes
      exact silent (confirmed.sent (by rw [split]; exact List.mem_append_right _ member) reports)
  · constructor
    · intro refused
      obtain ⟨fuel, ret, evs, looped, negative⟩ := refused.returns serial
      refine ⟨fuel, ret, (writeOwner devs bActive id own).2 ++ evs, ?_, negative⟩
      rw [modbusDevWrite_loops continues, looped]
      rfl
    · rintro ⟨fuel, ret, evs, done, negative⟩
      rw [modbusDevWrite_loops continues] at done
      simp only [Option.map_eq_some_iff, Prod.mk.injEq] at done
      obtain ⟨⟨ret, rest⟩, looped, rfl, rfl⟩ := done
      obtain ⟨-, ⟨rfl, -⟩ | ⟨-, refused⟩⟩ := writeMembers_spec serial looped
      · contradiction
      · exact refused

theorem modbusDevWriteKey_found (long : macLength ≤ key.length)
    (found : searchPlace devices key = some id) :
    modbusDevWriteKey devs pNext devices key bActive own answers fuel =
      modbusDevWrite devs pNext bActive id own answers fuel := by
  rw [modbusDevWriteKey, if_neg (Nat.not_lt.mpr long), found]

theorem modbusDevWriteKey_unknown (long : macLength ≤ key.length)
    (unknown : searchPlace devices key = none) :
    modbusDevWriteKey devs pNext devices key bActive own answers fuel = some (-1, []) := by
  rw [modbusDevWriteKey, if_neg (Nat.not_lt.mpr long), unknown]

theorem searchPlace_short (short : key.length < macLength) : searchPlace devices key = none := by
  rw [searchPlace, suffixId, List.drop_eq_nil_of_le (Nat.le_of_lt short)]
  rfl

/-- The result and the reports of a found device that is not confirmed falsely. -/
theorem modbusDevWrite_confirms (fair : ¬ FalselyConfirmed devs pNext bActive id own answers) :
    Confirmed (writeOwner devs bActive id own).2 ∧
    (∀ fuel ret evs, modbusDevWrite devs pNext bActive id own answers fuel = some (ret, evs) →
      Confirmed evs ∧ (ret = 0 → .send id id true ∈ evs)) ∧
    (.send id id true ∉ (writeOwner devs bActive id own).2 → ∃ fuel ret evs,
      modbusDevWrite devs pNext bActive id own answers fuel = some (ret, evs) ∧ ret < 0) := by
  by_cases lost : Usable devs id ∧ Unsent devs id own
  · obtain ⟨usable, unsent⟩ := lost
    have quiet : ¬ Echoes devs bActive id := fun echoes => fair ⟨usable, unsent, .inl echoes⟩
    have refused : MemberRefused devs pNext answers 0 (pNext id) := by
      by_contra passed
      exact fair ⟨usable, unsent, .inr passed⟩
    obtain ⟨told, negative⟩ := unsent_confirms pNext bActive answers usable unsent
    have confirmed := told.mp quiet
    refine ⟨confirmed, fun fuel ret evs done => ?_, fun _ => negative.mp refused⟩
    rw [modbusDevWrite_loops (writeOwner_unsent bActive usable unsent).1] at done
    simp only [Option.map_eq_some_iff, Prod.mk.injEq] at done
    obtain ⟨⟨ret, rest⟩, looped, rfl, rfl⟩ := done
    obtain ⟨silent, ⟨-, passed⟩ | ⟨negative, -⟩⟩ := writeMembers_spec usable.2.2 looped
    · exact absurd refused passed
    · exact ⟨confirmed.append silent, fun zero => by omega⟩
  · obtain ⟨confirmed, stops | ⟨continues, sent⟩⟩ := writeOwner_tidy bActive lost
    · refine ⟨confirmed, fun fuel ret evs done => ?_, fun _ =>
        ⟨0, -1, _, modbusDevWrite_refused stops, by decide⟩⟩
      rw [modbusDevWrite_refused stops] at done
      simp only [Option.some.injEq, Prod.mk.injEq] at done
      obtain ⟨rfl, rfl⟩ := done
      exact ⟨confirmed, fun zero => absurd zero (by decide)⟩
    · refine ⟨confirmed, fun fuel ret evs done => ?_, fun unsent => absurd sent unsent⟩
      have usable := (writeOwner_continues.mp continues).1
      rw [modbusDevWrite_loops continues] at done
      simp only [Option.map_eq_some_iff, Prod.mk.injEq] at done
      obtain ⟨⟨ret, rest⟩, looped, rfl, rfl⟩ := done
      have silent := (writeMembers_spec usable.2.2 looped).1
      exact ⟨confirmed.append silent, fun _ => List.mem_append_left _ sent⟩

end

/-- Nothing is confirmed that was not sent exactly when no usable device goes unwritten that is
reported, or whose group has no member that makes the result negative. -/
theorem write_confirms_iff (devs : Nat → MbusDev) (pNext : Links Nat) (devices : List DeviceElement)
    (key : Text) (bActive : Bool) (own : Answers) (answers : Nat → Answers) :
    ConfirmsSent devs pNext devices key bActive own answers ↔
      macLength ≤ key.length ∧ ∀ id, searchPlace devices key = some id →
        ¬ FalselyConfirmed devs pNext bActive id own answers := by
  constructor
  · rintro ⟨owner, -, failed⟩
    have long : macLength ≤ key.length := by
      by_contra short
      rw [Nat.not_le] at short
      obtain ⟨fuel, ret, evs, done, -⟩ := failed (by simp [searchPlace_short short])
      rw [modbusDevWriteKey, if_pos short] at done
      contradiction
    refine ⟨long, ?_⟩
    rintro id found ⟨usable, unsent, wrong⟩
    obtain ⟨told, negative⟩ := unsent_confirms pNext bActive answers usable unsent
    rcases wrong with echoes | passed
    · exact told.mpr (owner id found) echoes
    · apply passed
      have unsent := (writeOwner_unsent bActive usable unsent).2.1
      obtain ⟨fuel, ret, evs, done, below⟩ := failed (by simpa [found] using unsent)
      rw [modbusDevWriteKey_found long found] at done
      exact negative.mpr ⟨fuel, ret, evs, done, below⟩
  · rintro ⟨long, fair⟩
    cases found : searchPlace devices key with
    | none =>
      refine ⟨by simp [found], fun fuel ret evs done => ?_, fun _ =>
        ⟨0, -1, [], modbusDevWriteKey_unknown long found, by decide⟩⟩
      rw [modbusDevWriteKey_unknown long found] at done
      simp only [Option.some.injEq, Prod.mk.injEq] at done
      obtain ⟨rfl, rfl⟩ := done
      exact ⟨Confirmed.of_silent (by simp), fun zero => absurd zero (by decide)⟩
    | some id =>
      obtain ⟨confirmed, returned, failed⟩ := modbusDevWrite_confirms (fair id found)
      refine ⟨by simpa [found] using confirmed, fun fuel ret evs done => ?_, fun unsent => ?_⟩
      · rw [modbusDevWriteKey_found long found] at done
        obtain ⟨confirmed, sent⟩ := returned fuel ret evs done
        exact ⟨confirmed, fun zero => ⟨id, found, sent zero⟩⟩
      · obtain ⟨fuel, ret, evs, done, below⟩ := failed (unsent id found)
        exact ⟨fuel, ret, evs, by rw [modbusDevWriteKey_found long found, done], below⟩

/-- A device without feedback on a port that does not open. -/
def deafDev : Nat → MbusDev := fun _ => { port := 1, bFeedback := false }

def deafDevices : List DeviceElement := [mbusElement "02c7ecdad925".toList "101".toList]

/-- The device that cannot be reached is reported to the cloud, and the result is zero. -/
theorem unopened_confirmed :
    modbusDevWriteKey deafDev unlinked deafDevices "02c7ecdad9252101".toList true
      { opened := .openFails } (fun _ => {}) 1 =
      some (0, [.lock 0, .unlock 0, .report 0, .hbFresh 0]) ∧
    ¬ ConfirmsSent deafDev unlinked deafDevices "02c7ecdad9252101".toList true
      { opened := .openFails } (fun _ => {}) := by
  have found : searchPlace deafDevices "02c7ecdad9252101".toList = some 0 := by decide
  refine ⟨by decide, fun confirms => ?_⟩
  have confirmed :=
    confirms.owner 0 found [.lock 0, .unlock 0] (.report 0) [.hbFresh 0] rfl 0 (.inr rfl)
  exact absurd confirmed (by decide)

end HiMaxGateway.Modbus
