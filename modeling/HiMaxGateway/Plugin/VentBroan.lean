import HiMaxGateway.Lib.Sharing
import HiMaxGateway.Plugin.Frame

/-! `Mbus_Vent_Broan.c` and `Mbus_Vent_Broan_ERDH.c`. Both keep the points of one
ventilation in static variables that no address picks. -/
namespace HiMaxGateway.Plugin
open CRun Function

namespace Broan

def readCode : UInt8 := 0x3

def writeCode : UInt8 := 0x10

/-- `MBusVentLocalPoint`. -/
inductive Point where
  | switch
  | speed
  deriving DecidableEq, Repr

/-- What a call does with the cached points. -/
inductive Act where
  /-- The reply does not need them. -/
  | reply (out : Reply)
  | setSwitch (devId : UInt8) (state : Bool)
  | setSpeed (devId : UInt8) (speed : UInt32)
  | readAck (switch speed : UInt8)
  | writeAck
  deriving DecidableEq, Repr

def build (devId : UInt8) (points : Option Bool) (pObj : Option DpObj) : Act :=
  match points with
  | none | some false => .reply (.frame none)
  | some true =>
      match pObj with
      | none => .reply (.frame (some (withCrc ([devId, readCode] ++ htons 0x100 ++ htons 0x2))))
      | some obj =>
          if obj.dpid = 39 then .setSwitch devId obj.dpBool
          else if obj.dpid = 28 ∨ obj.dpid = 101 then .setSpeed devId obj.dpEnum
          -- The message for another data point is sent with zeros.
          else .reply (.frame (some (withCrc ([devId, writeCode] ++ List.replicate 9 0))))

def parse (devId : UInt8) (points : Bool) (buf : List UInt8) : Result Act :=
  if frameLen buf < 7 then pure (.reply (.objs none))
  else if !points then pure (.reply (.objs none))
  else
    match findFrame devId readCode writeCode 7 7 buf with
    | none => pure (.reply (.objs none))
    | some pos => do
        let code ← byteAt buf pos 1
        if code = readCode then
          pure (.readAck (← byteAt buf pos 4) (← byteAt buf pos 6))
        else if code = writeCode then
          if (← byteAt buf pos 2) = 0x1 ∧ (← byteAt buf pos 3) = 0x0 ∧ (← byteAt buf pos 5) = 2 then
            pure .writeAck
          else pure (.reply (.objs (some [{}, {}])))
        else pure (.reply (.objs (some [{}, {}])))

def setFrame (devId : UInt8) (switch speed : UInt16) : Reply :=
  .frame (some (withCrc ([devId, writeCode] ++ htons 0x100 ++ htons 0x2 ++ [4] ++ htons switch ++
    htons speed)))

def Act.run (cache : Point → UInt32) : Act → Reply × (Point → UInt32)
  | .reply out => (out, cache)
  | .setSwitch devId state =>
      (setFrame devId state.toUInt16 (cache .speed).toUInt16, update cache .switch state.toUInt32)
  | .setSpeed devId speed =>
      (setFrame devId 1 speed.toUInt16, update (update cache .switch 1) .speed speed)
  | .readAck switch speed =>
      let switchObj : ParsedObj := ⟨.ventSwitch, switch.toUInt32, switch.toUInt32⟩
      if 0 < switch then
        (.objs (some [switchObj, ⟨.ventSpeed, speed.toUInt32, speed.toUInt32⟩]),
          update (update cache .switch switch.toUInt32) .speed speed.toUInt32)
      else (.objs (some [switchObj, {}]), update cache .switch switch.toUInt32)
  | .writeAck =>
      (.objs (some [⟨.ventSwitch, cache .switch, 0⟩, ⟨.ventSpeed, cache .speed, 0⟩]), cache)

/-- The answer to a read of a device that runs, or to a write of both registers. -/
def Complete (frame : List UInt8) : Prop :=
  frame[1]? = some readCode ∧ frame[4]? ≠ some 0 ∨
    frame[1]? = some writeCode ∧ frame[2]? = some 0x1 ∧ frame[3]? = some 0x0 ∧ frame[5]? = some 2

theorem parse_points (devId : UInt8) (points : Bool) (buf : List UInt8) :
    Ends (fun act => ∀ cache objs, (act.run cache).1 = .objs (some objs) →
        let frame := frameAt buf (findFrame devId readCode writeCode 7 7 buf)
        Complete frame ∧ localPoints objs = [.ventSwitch, .ventSpeed] ∨
          ¬ Complete frame ∧ .unknown ∈ localPoints objs)
      (parse devId points buf) := by
  unfold parse
  refine .ite (fun _ => .pure (by simp [Act.run])) fun _ => ?_
  refine .ite (fun _ => .pure (by simp [Act.run])) fun _ => ?_
  cases findFrame devId readCode writeCode 7 7 buf with
  | none => exact .pure (by simp [Act.run])
  | some pos =>
    refine .bind fun code read => ?_
    have second := byteAt_frame read
    refine .ite (fun status => ?_) fun noStatus => .ite (fun echo => ?_) fun noEcho => .pure ?_
    · subst status
      refine .bind fun switch readSwitch => .bind fun speed _ => .pure ?_
      have fifth := byteAt_frame readSwitch
      intro cache objs given
      by_cases running : 0 < switch
      · simp only [Act.run, if_pos running, Reply.objs.injEq, Option.some.injEq] at given
        subst given
        have nonzero : switch ≠ 0 := (UInt8.pos_iff_ne_zero).mp running
        exact .inl ⟨.inl ⟨second, by simpa [fifth] using nonzero⟩, rfl⟩
      · simp only [Act.run, if_neg running, Reply.objs.injEq, Option.some.injEq] at given
        subst given
        have zero : switch = 0 := by simpa [UInt8.pos_iff_ne_zero] using running
        refine .inr ⟨?_, by simp [localPoints]⟩
        rintro (⟨-, nonzero⟩ | ⟨written, -⟩)
        · exact nonzero (zero ▸ fifth)
        · exact absurd (second.symm.trans written) (by decide)
    · subst echo
      refine .bind fun p2 r2 => .bind fun p3 r3 => .bind fun p5 r5 => ?_
      have third := byteAt_frame r2
      have fourth := byteAt_frame r3
      have sixth := byteAt_frame r5
      refine .ite (fun both => .pure ?_) fun other => .pure ?_
      · obtain ⟨rfl, rfl, rfl⟩ := both
        rintro cache objs ⟨⟩
        exact .inl ⟨.inr ⟨second, third, fourth, sixth⟩, rfl⟩
      · rintro cache objs ⟨⟩
        refine .inr ⟨?_, by simp [localPoints]⟩
        rintro (⟨read, -⟩ | ⟨-, c2, c3, c5⟩)
        · exact absurd (second.symm.trans read) (by decide)
        · refine other ⟨?_, ?_, ?_⟩
          · exact Option.some.inj (third.symm.trans c2)
          · exact Option.some.inj (fourth.symm.trans c3)
          · exact Option.some.inj (sixth.symm.trans c5)
    · rintro cache objs ⟨⟩
      refine .inr ⟨?_, by simp [localPoints]⟩
      rintro (⟨read, -⟩ | ⟨written, -⟩)
      · exact noStatus (Option.some.inj (second.symm.trans read))
      · exact noEcho (Option.some.inj (second.symm.trans written))

def Act.reads : Act → List Point
  | .setSwitch .. => [.speed]
  | .writeAck => [.switch, .speed]
  | .reply _ | .setSpeed .. | .readAck .. => []

def Act.writes : Act → List Point
  | .setSwitch .. => [.switch]
  | .setSpeed .. => [.switch, .speed]
  | .readAck switch _ => if 0 < switch then [.switch, .speed] else [.switch]
  | .reply _ | .writeAck => []

def machine : Sharing.Machine (Addr × Request) Reply where
  Cell := Point
  Value := UInt32
  Act := Act
  init _ := 0
  decode
    | (addr, .build _ points pObj) => pure (build addr.devId points pObj)
    | (addr, .parse points buf) => parse addr.devId points buf
  act := Act.run
  reads := Act.reads
  writes := Act.writes
  rests := by
    intro cache cache' act same
    cases act with
    | reply out => simp [Act.run, Act.writes]
    | setSwitch devId state =>
      have speed := same .speed (by simp [Act.reads])
      simp [Act.run, Act.writes, speed]
    | setSpeed devId speed => simp [Act.run, Act.writes, update_apply]
    | readAck switch speed =>
      by_cases running : 0 < switch <;> simp [Act.run, Act.writes, running, update_apply]
    | writeAck =>
      have switch := same .switch (by simp [Act.reads])
      have speed := same .speed (by simp [Act.reads])
      simp [Act.run, Act.writes, switch, speed]
  frame := by
    intro cache act point outside
    cases act with
    | reply out => rfl
    | setSwitch devId state => simp_all [Act.run, Act.writes]
    | setSpeed devId speed => simp_all [Act.run, Act.writes]
    | readAck switch speed =>
      by_cases running : 0 < switch <;> simp_all [Act.run, Act.writes]
    | writeAck => rfl

end Broan

namespace BroanErdh

def readCode : UInt8 := 0x10

def writeCode : UInt8 := 0x11

/-- `MbusObj`. -/
inductive Point where
  | switch
  | speed
  | mode
  deriving DecidableEq, Repr

inductive Act where
  | reply (out : Reply)
  /-- An answer to a write, with the byte of its states. -/
  | writeAck (states : UInt8)
  | readAck
  deriving DecidableEq, Repr

def build (devId : UInt8) (points : Option Bool) (pObj : Option DpObj) : Act :=
  match points with
  | none | some false => .reply (.frame none)
  | some true =>
      match pObj with
      | none => .reply (.frame (some (withCrc [devId, readCode, 0, 0, 0, 0])))
      | some obj =>
          let states : UInt8 × UInt8 × UInt8 :=
            if obj.dpid = 8 then (2, 0, obj.dpValue.toUInt8)
            else if obj.dpid = 22 then (4, if obj.dpBool then 4 else 0, 0)
            else if obj.dpid = 28 then (8, if obj.dpValue ≠ 0 then 8 else 0, 0)
            else if obj.dpid = 39 then (5, if obj.dpBool then 5 else 0, 0)
            else if obj.dpid = 101 then (0x10, if obj.dpEnum = 1 then 0x10 else 0, 0)
            else (0, 0, 0)
          .reply (.frame (some (withCrc ([devId, writeCode, 0, 0] ++ htons 0x4 ++
            [states.1, states.2.1, states.2.2, 0]))))

/-- The test for an answer to a read is made with `!=`: the states come from the answer to a
write, and an answer to a read gives the cached points. -/
def parse (devId : UInt8) (points : Bool) (buf : List UInt8) : Result Act :=
  if frameLen buf < 8 then pure (.reply (.objs none))
  else if !points then pure (.reply (.objs none))
  else
    match findFrame devId readCode writeCode 14 7 buf with
    | none => pure (.reply (.objs none))
    | some pos => do
        let code ← byteAt buf pos 1
        if code ≠ readCode then pure (.writeAck (← byteAt buf pos 6))
        else if code ≠ writeCode then pure .readAck
        else pure (.reply (.objs (some [{}, {}, {}])))

def objs (switch speed mode : UInt32) : Reply :=
  .objs (some [⟨.ventSwitch, switch, 0⟩, ⟨.ventSpeed, speed, 0⟩, ⟨.ventMode, mode, 0⟩])

def Act.run (cache : Point → UInt32) : Act → Reply × (Point → UInt32)
  | .reply out => (out, cache)
  | .writeAck states =>
      let switch := (states &&& 0x01).toUInt32
      let speed := ((states &&& 0x04) >>> 2).toUInt32
      let mode := ((states &&& 0x08) >>> 3).toUInt32
      (objs switch speed mode,
        update (update (update cache .switch switch) .speed speed) .mode mode)
  | .readAck => (objs (cache .switch) (cache .speed) (cache .mode), cache)

theorem parse_points (devId : UInt8) (points : Bool) (buf : List UInt8) :
    Ends (fun act => ∀ cache objs, (act.run cache).1 = .objs (some objs) →
        localPoints objs = [.ventSwitch, .ventSpeed, .ventMode])
      (parse devId points buf) := by
  unfold parse
  refine .ite (fun _ => .pure (by simp [Act.run])) fun _ => ?_
  refine .ite (fun _ => .pure (by simp [Act.run])) fun _ => ?_
  cases findFrame devId readCode writeCode 14 7 buf with
  | none => exact .pure (by simp [Act.run])
  | some pos =>
    refine .bind fun code _ => .ite (fun _ => .bind fun states _ => .pure ?_) fun read => ?_
    · rintro cache objs ⟨⟩
      rfl
    · -- The code is that of a read, which is not that of a write.
      rw [not_not.mp read, if_pos (by decide)]
      refine .pure ?_
      rintro cache objs ⟨⟩
      rfl

def Act.reads : Act → List Point
  | .readAck => [.switch, .speed, .mode]
  | .reply _ | .writeAck _ => []

def Act.writes : Act → List Point
  | .writeAck _ => [.switch, .speed, .mode]
  | .reply _ | .readAck => []

def machine : Sharing.Machine (Addr × Request) Reply where
  Cell := Point
  Value := UInt32
  Act := Act
  init _ := 0
  decode
    | (addr, .build _ points pObj) => pure (build addr.devId points pObj)
    | (addr, .parse points buf) => parse addr.devId points buf
  act := Act.run
  reads := Act.reads
  writes := Act.writes
  rests := by
    intro cache cache' act same
    cases act with
    | reply out => simp [Act.run, Act.writes]
    | writeAck states => simp [Act.run, Act.writes, update_apply]
    | readAck =>
      have switch := same .switch (by simp [Act.reads])
      have speed := same .speed (by simp [Act.reads])
      have mode := same .mode (by simp [Act.reads])
      simp [Act.run, Act.writes, switch, speed, mode]
  frame := by
    intro cache act point outside
    cases act with
    | reply out => rfl
    | writeAck states => simp_all [Act.run, Act.writes]
    | readAck => rfl

end BroanErdh

end HiMaxGateway.Plugin
