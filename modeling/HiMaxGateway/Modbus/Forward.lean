import HiMaxGateway.Modbus.Confirm
import HiMaxGateway.Modbus.Group

/-! Where the group loop of `ModbusDevWrite` writes the frames of the members, and what it builds
them from. -/
namespace HiMaxGateway.Modbus
open Chain

/-- What the serial objects and the plugins of the devices are. -/
structure Wiring where
  /-- The parameter block: port, baud rate, parity and descriptor. Copies of a serial object share
  it. -/
  pParam : Nat → Nat
  /-- `pIf->build` is there. Without it the frame comes from `buildExt`, which gets no node. -/
  build : Nat → Bool

/-- A frame for the member `dev`. -/
structure GroupFrame where
  dev : Nat
  /-- The block whose descriptor it is written to. -/
  pParam : Nat
  /-- The list node handed to `build`. -/
  node : Option Nat
  deriving DecidableEq, Repr

section

variable (devs : Nat → MbusDev) (wires : Wiring) (pNext : Links Nat)

/-- The frames of the group loop. Both the serial object and the node are those of the owner. -/
def memberFrames (owner : Nat) (answers : Nat → Answers) :
    (fuel n : Nat) → Option Nat → List GroupFrame
  | 0, _, _ => []
  | _ + 1, _, none => []
  | fuel + 1, n, some base =>
      if !(devs owner).pSerial then []
      else if !(devs base).pSerial then []
      else if (serialOpen devs base (answers n)).1 = 0 then
        if !(devs base).pIf then []
        else
          match msg devs base (answers n) with
          | .null | .noBuffer | .zeroLength => []
          | .frame =>
              { dev := base
                pParam := wires.pParam owner
                node := if wires.build base then some owner else none } ::
                memberFrames owner answers fuel (n + 1) (pNext base)
      else memberFrames owner answers fuel (n + 1) (pNext base)

/-- The frames a command for `owner` sends to its group. -/
def groupFrames (bActive : Bool) (owner : Nat) (own : Answers) (answers : Nat → Answers)
    (fuel : Nat) : List GroupFrame :=
  match (writeOwner devs bActive owner own).1 with
  | some _ => []
  | none => memberFrames devs wires pNext owner answers fuel 0 (pNext owner)

/-- Written to the member's own bus, and built from its own node where a node is used. -/
structure GroupFrame.Own (frame : GroupFrame) : Prop where
  bus : frame.pParam = wires.pParam frame.dev
  node : frame.node = none ∨ frame.node = some frame.dev

/-- The owner's bus or node is not the member's. -/
def Foreign (owner base : Nat) : Prop :=
  wires.pParam owner ≠ wires.pParam base ∨ wires.build base = true ∧ owner ≠ base

/-- The group loop reaches a foreign member that opens its port and has a frame. -/
inductive Misdirected (owner : Nat) (answers : Nat → Answers) : Nat → Option Nat → Prop where
  | here (n base : Nat) : MemberReady devs base (answers n) → Opens devs base (answers n) →
      msg devs base (answers n) = .frame → Foreign wires owner base →
      Misdirected owner answers n (some base)
  | later (n base : Nat) : MemberReady devs base (answers n) → ¬ Refused devs base (answers n) →
      Misdirected owner answers (n + 1) (pNext base) → Misdirected owner answers n (some base)

end

section

variable {devs : Nat → MbusDev} {wires : Wiring} {pNext : Links Nat} {owner base fuel n : Nat}
  {next : Option Nat} {answers : Nat → Answers}

theorem memberFrames_null (serial : (devs owner).pSerial = true)
    (null : ¬ MemberReady devs base (answers n)) :
    memberFrames devs wires pNext owner answers (fuel + 1) n (some base) = [] := by
  rw [memberFrames, serial, Bool.not_true, if_neg Bool.false_ne_true]
  cases base_serial : (devs base).pSerial with
  | false => rfl
  | true =>
    simp only [MemberReady, base_serial, true_and, Classical.not_imp, Bool.not_eq_true] at null
    obtain ⟨opens, plugin⟩ := null
    simp [serialOpen_zero.mpr opens, plugin]

theorem memberFrames_refused (serial : (devs owner).pSerial = true)
    (ready : MemberReady devs base (answers n)) (refused : Refused devs base (answers n)) :
    memberFrames devs wires pNext owner answers (fuel + 1) n (some base) = [] := by
  obtain ⟨opens, unframed⟩ := refused
  have zero := serialOpen_zero.mpr opens
  cases built : msg devs base (answers n) with
  | frame => exact absurd built unframed
  | null | noBuffer | zeroLength =>
    simp [memberFrames, serial, ready.1, ready.2 opens, zero, built]

theorem memberFrames_closed (serial : (devs owner).pSerial = true)
    (ready : MemberReady devs base (answers n)) (closed : ¬ Opens devs base (answers n)) :
    memberFrames devs wires pNext owner answers (fuel + 1) n (some base) =
      memberFrames devs wires pNext owner answers fuel (n + 1) (pNext base) := by
  have failed := mt serialOpen_zero.mp closed
  simp [memberFrames, serial, ready.1, failed]

theorem memberFrames_framed (serial : (devs owner).pSerial = true)
    (ready : MemberReady devs base (answers n)) (opens : Opens devs base (answers n))
    (framed : msg devs base (answers n) = .frame) :
    memberFrames devs wires pNext owner answers (fuel + 1) n (some base) =
      ⟨base, wires.pParam owner, if wires.build base then some owner else none⟩ ::
        memberFrames devs wires pNext owner answers fuel (n + 1) (pNext base) := by
  have zero := serialOpen_zero.mpr opens
  simp [memberFrames, serial, ready.1, ready.2 opens, zero, framed]

theorem own_iff_not_foreign : GroupFrame.Own wires
    ⟨base, wires.pParam owner, if wires.build base then some owner else none⟩ ↔
      ¬ Foreign wires owner base := by
  constructor
  · rintro ⟨bus, node⟩ (other | ⟨build, other⟩)
    · exact other bus
    · rw [if_pos build] at node
      exact other (by simpa using node)
  · intro near
    refine ⟨?_, ?_⟩
    · by_contra other
      exact near (.inl other)
    · cases build : wires.build base with
      | false => exact .inl rfl
      | true =>
        have same : owner = base := by
          by_contra other
          exact near (.inr ⟨build, other⟩)
        exact .inr (by simp [same])

def Ev.sentTo : Ev → Option (Nat × Nat)
  | .send via dev _ => some (via, dev)
  | _ => none

theorem Quiet.sends_nothing (quiet : Quiet evs) : evs.filterMap Ev.sentTo = [] := by
  rw [List.filterMap_eq_nil_iff]
  intro ev member
  cases ev with
  | send via dev done => exact absurd rfl ((quiet _ member).2 via dev done)
  | _ => rfl

/-- The frames are those that `writeMembers` sends. -/
theorem writeMembers_sends (serial : (devs owner).pSerial = true)
    (done : writeMembers devs pNext owner answers fuel n next = some (ret, evs)) :
    evs.filterMap Ev.sentTo =
      (memberFrames devs wires pNext owner answers fuel n next).map fun frame =>
        (owner, frame.dev) := by
  induction fuel generalizing n next ret evs with
  | zero => contradiction
  | succ fuel ih =>
    cases next with
    | none =>
      simp only [writeMembers, Option.some.injEq, Prod.mk.injEq] at done
      rw [← done.2]
      rfl
    | some base =>
      by_cases ready : MemberReady devs base (answers n)
      · by_cases refused : Refused devs base (answers n)
        · rw [writeMembers_refused serial ready refused] at done
          simp only [Option.some.injEq, Prod.mk.injEq] at done
          rw [← done.2, memberFrames_refused serial ready refused, quiet_serialOpen.sends_nothing]
          rfl
        · rw [writeMembers_passed serial ready refused] at done
          simp only [Option.map_eq_some_iff, Prod.mk.injEq] at done
          obtain ⟨⟨ret, rest⟩, looped, rfl, rfl⟩ := done
          have later := ih looped
          by_cases opens : Opens devs base (answers n)
          · have framed : msg devs base (answers n) = .frame := by
              by_contra unframed
              exact refused ⟨opens, unframed⟩
            rw [memberFrames_framed serial ready opens framed]
            simp [memberTurn, serialOpen_zero.mpr opens, quiet_serialOpen.sends_nothing,
              quiet_serialClose.sends_nothing, Ev.sentTo, later]
          · rw [memberFrames_closed serial ready opens]
            simp [memberTurn, mt serialOpen_zero.mp opens, quiet_serialOpen.sends_nothing, later]
      · rw [writeMembers_null serial ready] at done
        contradiction

/-- Where every member opens its port and has a frame, the frames are for the cells of the chain. -/
theorem memberFrames_chain (serial : (devs owner).pSerial = true) (chain : From pNext cell bases)
    (fuel_le : bases.length < fuel)
    (willing : ∀ base ∈ bases, ∀ n, MemberReady devs base (answers n) ∧
      Opens devs base (answers n) ∧ msg devs base (answers n) = .frame) :
    (memberFrames devs wires pNext owner answers fuel n (pNext cell)).map (·.dev) = bases := by
  induction bases generalizing cell fuel n with
  | nil =>
    cases fuel with
    | zero => contradiction
    | succ fuel =>
      rw [show pNext cell = none from chain]
      rfl
  | cons base bases ih =>
    cases fuel with
    | zero => contradiction
    | succ fuel =>
      obtain ⟨linked, chain⟩ := chain
      obtain ⟨ready, opens, framed⟩ := willing base (by simp) n
      have rest := @ih fuel (n + 1) base chain (by simpa using fuel_le)
        fun other member => willing other (by simp [member])
      rw [linked, memberFrames_framed serial ready opens framed, List.map_cons, rest]

/-- The devices a command is forwarded to are those that the group loop sends to, in order, where
each opens its port and has a frame. -/
theorem forwardTargets_sends (serial : (devs owner).pSerial = true)
    (targets : forwardTargets fuel pNext owner = some bases)
    (willing : ∀ base ∈ bases, ∀ n, MemberReady devs base (answers n) ∧
      Opens devs base (answers n) ∧ msg devs base (answers n) = .frame) :
    ∃ ret evs, writeMembers devs pNext owner answers fuel n (pNext owner) = some (ret, evs) ∧
      evs.filterMap Ev.sentTo = bases.map fun base => (owner, base) := by
  obtain ⟨chain, short⟩ := follow_eq_some.mp targets
  obtain ⟨⟨ret, evs⟩, done⟩ : ∃ done,
      writeMembers devs pNext owner answers fuel n (pNext owner) = some done :=
    writeMembers_returns chain short fun base member n => (willing base member n).1
  -- neither the blocks nor the plugins matter to whom the frames are for
  have frames : (memberFrames devs ⟨id, fun _ => true⟩ pNext owner answers fuel n
      (pNext owner)).map (·.dev) = bases := memberFrames_chain serial chain short willing
  refine ⟨ret, evs, done, ?_⟩
  rw [writeMembers_sends serial done, ← frames, List.map_map]
  rfl

theorem misdirected_of_frame (serial : (devs owner).pSerial = true)
    (member : frame ∈ memberFrames devs wires pNext owner answers fuel n next)
    (wrong : ¬ frame.Own wires) : Misdirected devs wires pNext owner answers n next := by
  induction fuel generalizing n next with
  | zero => contradiction
  | succ fuel ih =>
    cases next with
    | none => contradiction
    | some base =>
      by_cases ready : MemberReady devs base (answers n)
      · by_cases opens : Opens devs base (answers n)
        · by_cases framed : msg devs base (answers n) = .frame
          · rw [memberFrames_framed serial ready opens framed] at member
            rcases List.mem_cons.mp member with rfl | member
            · exact .here n base ready opens framed (not_not.mp (mt own_iff_not_foreign.mpr wrong))
            · exact .later n base ready (fun refused => refused.2 framed) (ih member)
          · rw [memberFrames_refused serial ready ⟨opens, framed⟩] at member
            contradiction
        · rw [memberFrames_closed serial ready opens] at member
          exact .later n base ready (fun refused => opens refused.1) (ih member)
      · rw [memberFrames_null serial ready] at member
        contradiction

theorem Misdirected.frame (serial : (devs owner).pSerial = true)
    (wrong : Misdirected devs wires pNext owner answers n next) :
    ∃ fuel, ∃ frame ∈ memberFrames devs wires pNext owner answers fuel n next,
      ¬ frame.Own wires := by
  induction wrong with
  | here n base ready opens framed foreign =>
    refine ⟨1, _, ?_, fun own => own_iff_not_foreign.mp own foreign⟩
    rw [memberFrames_framed serial ready opens framed]
    exact List.mem_cons_self
  | later n base ready passed _ ih =>
    obtain ⟨fuel, frame, member, wrong⟩ := ih
    refine ⟨fuel + 1, frame, ?_, wrong⟩
    by_cases opens : Opens devs base (answers n)
    · have framed : msg devs base (answers n) = .frame := by
        by_contra unframed
        exact passed ⟨opens, unframed⟩
      rw [memberFrames_framed serial ready opens framed]
      exact List.mem_cons_of_mem _ member
    · rw [memberFrames_closed serial ready opens]
      exact member

end

/-- Every member gets its frame on its own bus and from its own node exactly when the loop reaches
no foreign member with a frame. -/
theorem group_frames_own_iff (devs : Nat → MbusDev) (wires : Wiring) (pNext : Links Nat)
    (bActive : Bool) (owner : Nat) (own : Answers) (answers : Nat → Answers) :
    (∀ fuel, ∀ frame ∈ groupFrames devs wires pNext bActive owner own answers fuel,
      frame.Own wires) ↔ (Usable devs owner ∧ ¬ Refused devs owner own →
        ¬ Misdirected devs wires pNext owner answers 0 (pNext owner)) := by
  have loops := @writeOwner_continues devs bActive owner own
  by_cases continues : Usable devs owner ∧ ¬ Refused devs owner own
  · simp only [groupFrames, loops.mpr continues]
    have serial := continues.1.2.2
    constructor
    · intro own _ wrong
      obtain ⟨fuel, frame, member, wrong⟩ := wrong.frame serial
      exact wrong (own fuel frame member)
    · intro fair fuel frame member
      by_contra wrong
      exact fair continues (misdirected_of_frame serial member wrong)
  · cases first : (writeOwner devs bActive owner own).1 with
    | none => exact absurd (loops.mp first) continues
    | some ret => simp [groupFrames, first, continues]

/-- The devices of the group stand on two ports. -/
def twoPorts : Wiring := { pParam := fun dev => dev + 1, build := fun _ => true }

/-- The frame of the second device goes to the port of the first and is built from its node. -/
theorem member_on_owner_port :
    groupFrames samplePair twoPorts samplePairNext true 0 {} (fun _ => {}) 3 = [⟨1, 1, some 0⟩] ∧
    ¬ ∀ fuel, ∀ frame ∈ groupFrames samplePair twoPorts samplePairNext true 0 {} (fun _ => {}) fuel,
      frame.Own twoPorts := by
  have frames : groupFrames samplePair twoPorts samplePairNext true 0 {} (fun _ => {}) 3 =
      [⟨1, 1, some 0⟩] := by decide
  refine ⟨frames, fun own => ?_⟩
  have bus := (own 3 ⟨1, 1, some 0⟩ (by rw [frames]; exact List.mem_cons_self)).bus
  exact absurd bus (by decide)

end HiMaxGateway.Modbus
