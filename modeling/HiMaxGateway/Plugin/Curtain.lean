import HiMaxGateway.Plugin.Frame

/-! The curtain motors: `Mbus_Curtain_AOK.c`, `Mbus_Curtain_BinThen.c`,
`Mbus_Curtain_Changming.c`, `Mbus_Curtain_Dooya.c` and `Mbus_Curtain_HeChuang.c`. For the
cloud a curtain opens with 0, stops with 1 and closes with 2. -/
namespace HiMaxGateway.Plugin
open CRun

def curtainObjs (value : UInt32) : List ParsedObj := [⟨.curtainSwitch, value, 0⟩]

/-- The number of a motor for a command of the cloud. For any other value the byte stays as it
was allocated. -/
def controlByte (value : UInt32) : UInt8 :=
  if value = 0 then 1 else if value = 1 then 3 else if value = 2 then 2 else 0

namespace Aok

/-- `BCC8` of `crc16.c`. -/
def bcc8 (bytes : List UInt8) : UInt8 := bytes.foldl (· ^^^ ·) 0

/-- The header is not part of the checksum. -/
def withBcc (frame : List UInt8) : List UInt8 := frame ++ [bcc8 (frame.drop 1)]

/-- The command of a frame and its data. -/
def command : Option DpObj → List UInt8
  | none => [0xCC, 0x00]
  | some obj =>
      if obj.dpid = 1 then
        [0x0A, if obj.dpValue = 0 then 0xDD else if obj.dpValue = 1 then 0xCC
          else if obj.dpValue = 2 then 0xEE else 0]
      else if obj.dpid = 2 then [0x0A, 0x02]
      else [0, 0]

def build (devId : UInt16) (pObj : Option DpObj) : List UInt8 :=
  withBcc ([0x9A, devId.toUInt8, 0x80, 0x00] ++ command pObj)

def parse (devId : UInt16) (buf : List UInt8) : Parsed :=
  if frameLen buf < 10 then pure none
  else
    match findKey (0xD800 + devId) 9 buf with
    | none => pure none
    | some pos => do
        let position ← byteAt buf pos 6
        -- Between the end positions the value stays as it was allocated.
        pure (some (curtainObjs (if position = 100 then 2 else 0)))

theorem parse_points (devId : UInt16) (buf : List UInt8) :
    Gives (fun objs => localPoints objs = [.curtainSwitch]) (parse devId buf) := by
  unfold parse
  refine .ite (fun _ => gives_none) fun _ => ?_
  cases findKey (0xD800 + devId) 9 buf with
  | none => exact gives_none
  | some pos => exact .bind fun position _ => gives_some rfl

end Aok

namespace BinThen

def actionStop : UInt8 := 0x02

def actionOpen : UInt8 := 0x01

def actionClose : UInt8 := 0x00

/-- Only `action` of the unpacked package is used: neither header nor checksum nor address. -/
def modbusDevReport (buf : List UInt8) : Parsed :=
  if frameLen buf < 22 then pure none
  else do
    let action ← byteAt buf 0 13
    if action = actionOpen then pure (some (curtainObjs 0))
    else if action = actionStop then pure (some (curtainObjs 1))
    else if action = actionClose then pure (some (curtainObjs 2))
    else pure none

theorem modbusDevReport_points (buf : List UInt8) :
    Gives (fun objs => localPoints objs = [.curtainSwitch]) (modbusDevReport buf) := by
  unfold modbusDevReport
  refine .ite (fun _ => gives_none) fun _ => .bind fun action _ => ?_
  refine .ite (fun _ => gives_some rfl) fun _ => .ite (fun _ => gives_some rfl) fun _ => ?_
  exact .ite (fun _ => gives_some rfl) fun _ => gives_none

end BinThen

/-- The `buildExt` that Changming and HeChuang share. -/
def motorBuild (header : UInt8) (devId : UInt16) (pObj : Option DpObj) : List UInt8 :=
  let start := [header, devId.toUInt8, devId.toUInt8]
  match pObj with
  | none => withCrc (start ++ [0x1, 0x2, 0x1])
  | some obj =>
      if obj.dpid = 1 then withCrc (start ++ [0x3, controlByte obj.dpValue])
      else if obj.dpid = 101 then withCrc (start ++ [0x1, 0x3, 0x1])
      else withCrc (start ++ [0, 0, 0])

/-- The `parseExt` that Changming and HeChuang share: the key is the address twice. A kind of
reply that is not known leaves its object as it was allocated. -/
def motorParse (devId : UInt16) (buf : List UInt8) : Parsed :=
  if frameLen buf < 7 then pure none
  else
    match findKey ((devId <<< 8) ||| devId) 6 buf with
    | none => pure none
    | some pos => do
        let kind ← byteAt buf pos 2
        if kind = 1 then
          let position ← byteAt buf pos 4
          pure (some (curtainObjs (if position = 0 then 2 else 0)))
        else if kind = 3 then
          let action ← byteAt buf pos 3
          pure (some (curtainObjs (if action = 1 then 0 else if action = 2 then 2
            else if action = 3 then 1 else action.toUInt32)))
        else pure (some [{}])

/-- A reply with the position of a motor, or with the command it took. -/
def KnownKind (frame : List UInt8) : Prop := frame[2]? = some 1 ∨ frame[2]? = some 3

instance (frame : List UInt8) : Decidable (KnownKind frame) := inferInstanceAs (Decidable (_ ∨ _))

def kindPoints (frame : List UInt8) : List PointFeature :=
  if KnownKind frame then [.curtainSwitch] else [.unknown]

theorem byKind_points {status echo : Parsed}
    (ofStatus : Gives (fun objs => localPoints objs = [.curtainSwitch]) status)
    (ofEcho : Gives (fun objs => localPoints objs = [.curtainSwitch]) echo) :
    Gives (fun objs => localPoints objs = kindPoints (frameAt buf (some pos)))
      (byteAt buf pos 2 >>= fun kind =>
        if kind = 1 then status else if kind = 3 then echo else pure (some [{}])) := by
  refine .bind fun kind read => ?_
  have third := byteAt_frame read
  by_cases known : kind = 1 ∨ kind = 3
  · have points : kindPoints (frameAt buf (some pos)) = [.curtainSwitch] :=
      if_pos (by simpa [KnownKind, third] using known)
    rw [points]
    refine .ite (fun _ => ofStatus) fun other => ?_
    rw [if_pos (known.resolve_left other)]
    exact ofEcho
  · have points : kindPoints (frameAt buf (some pos)) = [.unknown] :=
      if_neg (by simpa [KnownKind, third] using known)
    obtain ⟨noStatus, noEcho⟩ := not_or.mp known
    rw [if_neg noStatus, if_neg noEcho]
    exact gives_some points.symm

theorem motorParse_points (devId : UInt16) (buf : List UInt8) :
    Gives (fun objs => localPoints objs =
        kindPoints (frameAt buf (findKey ((devId <<< 8) ||| devId) 6 buf)))
      (motorParse devId buf) := by
  unfold motorParse
  refine .ite (fun _ => gives_none) fun _ => ?_
  cases findKey ((devId <<< 8) ||| devId) 6 buf with
  | none => exact gives_none
  | some pos =>
    exact byKind_points (.bind fun position _ => gives_some rfl)
      (.bind fun action _ => gives_some rfl)

def Changming.header : UInt8 := 0xAA

def Changming.buildExt (devId : UInt16) (pObj : Option DpObj) : List UInt8 :=
  motorBuild Changming.header devId pObj

def Changming.parseExt (devId : UInt16) (buf : List UInt8) : Parsed := motorParse devId buf

def HeChuang.header : UInt8 := 0x55

def HeChuang.buildExt (devId : UInt16) (pObj : Option DpObj) : List UInt8 :=
  motorBuild HeChuang.header devId pObj

def HeChuang.parseExt (devId : UInt16) (buf : List UInt8) : Parsed := motorParse devId buf

def Dooya.buildExt (devId : UInt16) (pObj : Option DpObj) : List UInt8 :=
  match pObj with
  | none => withCrc ([0x55] ++ htons devId ++ [0x1, 0x5, 0x1])
  | some obj =>
      withCrc ([0x55] ++ htons devId ++
        [0x3, if obj.dpid = 1 then controlByte obj.dpValue else 0])

/-- The states and commands of the motor are passed on with its own numbers. -/
def Dooya.parseExt (devId : UInt16) (buf : List UInt8) : Parsed :=
  if frameLen buf < 7 then pure none
  else
    match findKey devId 7 buf with
    | none => pure none
    | some pos => do
        let kind ← byteAt buf pos 2
        if kind = 1 then pure (some (curtainObjs (← byteAt buf pos 4).toUInt32))
        else if kind = 3 then pure (some (curtainObjs (← byteAt buf pos 3).toUInt32))
        else pure (some [{}])

theorem Dooya.parseExt_points (devId : UInt16) (buf : List UInt8) :
    Gives (fun objs => localPoints objs = kindPoints (frameAt buf (findKey devId 7 buf)))
      (Dooya.parseExt devId buf) := by
  unfold Dooya.parseExt
  refine .ite (fun _ => gives_none) fun _ => ?_
  cases findKey devId 7 buf with
  | none => exact gives_none
  | some pos =>
    exact byKind_points (.bind fun state _ => gives_some rfl)
      (.bind fun action _ => gives_some rfl)

end HiMaxGateway.Plugin
