import HiMaxGateway.Lib.LittleEndian
import HiMaxGateway.Plugin.Curtain
import HiMaxGateway.Plugin.Locate
import Mathlib.Algebra.Ring.Nat
import Mathlib.Tactic.SplitIfs

/-! The packages of `Mbus_Curtain_BinThen.c`. -/
namespace HiMaxGateway.Plugin.BinThen
open CRun LittleEndian

/-- `BinThen_Curtain_UARTPackage_t`. -/
structure UartPackage where
  header : BitVec 32
  crc : BitVec 16
  cmdType : BitVec 16
  dataLength : BitVec 16
  protocolVersion : BitVec 16
  deviceType : UInt8
  action : UInt8
  locationPercentage : UInt8
  sn : Vector UInt8 3
  undefined : Vector UInt8 4
  deriving DecidableEq, Repr

def packageHeader : BitVec 32 := 0x55AAAA55

def crcHeader : BitVec 16 := 0x2017

/-- The fields behind the checksum in their order, each word with the low byte first. -/
def UartPackage.rest (p : UartPackage) : List UInt8 :=
  store 2 p.cmdType ++ store 2 p.dataLength ++ store 2 p.protocolVersion ++
    [p.deviceType, p.action, p.locationPercentage] ++ [p.sn[0], p.sn[1], p.sn[2]] ++
    [p.undefined[0], p.undefined[1], p.undefined[2], p.undefined[3]]

def UartPackage.bytes (p : UartPackage) : List UInt8 :=
  store 4 p.header ++ store 2 p.crc ++ p.rest

/-- The loop over the buffer, which holds the field `crc` as well. -/
def UartPackage.check (p : UartPackage) : BitVec 16 :=
  p.bytes.foldl (fun crc byte => crc + byte.toBitVec.setWidth 16) p.crc + crcHeader

def generatePackage (p : UartPackage) : List UInt8 :=
  p.bytes.take 4 ++ store 2 p.check ++ p.bytes.drop 6

/-- The bytes a loop of `BinThen_UnpackPackage` reads. -/
def bytesAt (buf : List UInt8) (offset : Nat) : Nat → Result (List UInt8)
  | 0 => pure []
  | n + 1 => do
      let byte ← byteAt buf 0 offset
      pure (byte :: (← bytesAt buf (offset + 1) n))

/-- `BinThen_UnpackPackage`. The words are joined into `res`, which is not initialised. -/
def unpackPackage (res : UartPackage) (buf : List UInt8) : Result UartPackage := do
  let header := join res.header (← bytesAt buf 0 4)
  let crc := join res.crc (← bytesAt buf 4 2)
  let cmdType := join res.cmdType (← bytesAt buf 6 2)
  let dataLength := join res.dataLength (← bytesAt buf 8 2)
  let protocolVersion := join res.protocolVersion (← bytesAt buf 10 2)
  let deviceType ← byteAt buf 0 12
  let action ← byteAt buf 0 13
  let locationPercentage ← byteAt buf 0 14
  let sn := #v[← byteAt buf 0 15, ← byteAt buf 0 16, ← byteAt buf 0 17]
  let undefined := #v[← byteAt buf 0 18, ← byteAt buf 0 19, ← byteAt buf 0 20, ← byteAt buf 0 21]
  pure { header, crc, cmdType, dataLength, protocolVersion, deviceType, action, locationPercentage,
         sn, undefined }

def cmdTypeQuery : BitVec 16 := 0x0A01

def cmdTypeExecute : BitVec 16 := 0x0A02

/-- The package of a command. The third byte of the serial number is the address. -/
def newPackage (cmdType : BitVec 16) (action sn3 : UInt8) : UartPackage :=
  { header := packageHeader, crc := 0, cmdType, dataLength := 0x000A, protocolVersion := 0,
    deviceType := 0x01, action, locationPercentage := 0, sn := #v[0x01, 0x01, sn3],
    undefined := #v[0, 0, 0, 0] }

/-- `BinThen_UART_PackageFactory`. -/
def packageFactory (cmdType : BitVec 16) (action sn3 : UInt8) : List UInt8 :=
  generatePackage (newPackage cmdType action sn3)

def modbusDevControl (modbusId : UInt8) (pObj : Option DpObj) : List UInt8 :=
  match pObj with
  | none => packageFactory cmdTypeQuery actionOpen modbusId
  | some obj =>
      let action :=
        if obj.dpEnum = 0 then actionOpen else if obj.dpEnum = 1 then actionStop
        else if obj.dpEnum = 2 then actionClose else 0
      packageFactory cmdTypeExecute action modbusId

/-- The checksum a buffer carries. -/
def crcField (buf : List UInt8) : BitVec 16 := join 0 ((buf.drop 4).take 2)

/-- The sum of all bytes but those of the checksum. -/
def sumOthers (buf : List UInt8) : Nat := ((buf.take 4 ++ buf.drop 6).map UInt8.toNat).sum

theorem foldl_sum (crc : BitVec 16) (bytes : List UInt8) :
    (bytes.foldl (fun crc byte => crc + byte.toBitVec.setWidth 16) crc).toNat =
      (crc.toNat + (bytes.map UInt8.toNat).sum) % 65536 := by
  induction bytes generalizing crc with
  | nil =>
    have := crc.isLt
    simp only [List.foldl_nil, List.map_nil, List.sum_nil]
    omega
  | cons byte rest ih =>
    have short := byte.toNat_lt
    have added : (crc + byte.toBitVec.setWidth 16).toNat = (crc.toNat + byte.toNat) % 65536 := by
      rw [BitVec.toNat_add, BitVec.toNat_setWidth, UInt8.toNat_toBitVec,
        Nat.mod_eq_of_lt (show byte.toNat < 2 ^ 16 by omega)]
    rw [List.foldl_cons, ih, added, List.map_cons, List.sum_cons]
    omega

theorem length_rest (p : UartPackage) : p.rest.length = 16 := by
  simp [UartPackage.rest]

/-- The parts of a buffer that is put together like a package. -/
theorem package_parts (header : BitVec 32) (crc : BitVec 16) (rest : List UInt8) :
    (store 4 header ++ store 2 crc ++ rest).take 4 = store 4 header ∧
      ((store 4 header ++ store 2 crc ++ rest).drop 4).take 2 = store 2 crc ∧
      (store 4 header ++ store 2 crc ++ rest).drop 6 = rest := by
  rw [List.append_assoc, List.take_left' (length_store 4 header),
    List.drop_left' (length_store 4 header), List.take_left' (length_store 2 crc),
    ← List.append_assoc]
  exact ⟨rfl, rfl, List.drop_left' (by simp)⟩

theorem generatePackage_eq (p : UartPackage) :
    generatePackage p = store 4 p.header ++ store 2 p.check ++ p.rest := by
  obtain ⟨first, -, last⟩ := package_parts p.header p.crc p.rest
  rw [generatePackage, UartPackage.bytes, first, last]

theorem length_generatePackage (p : UartPackage) : (generatePackage p).length = 22 := by
  simp [generatePackage_eq, length_rest]

theorem crcField_generatePackage (p : UartPackage) : crcField (generatePackage p) = p.check := by
  obtain ⟨-, field, -⟩ := package_parts p.header p.check p.rest
  rw [generatePackage_eq, crcField, field, join_store (by decide)]
  exact BitVec.zero_or

/-- The bytes of the field `crc` do not count while it is empty. -/
theorem check_eq (p : UartPackage) (empty : p.crc = 0) :
    p.check.toNat = (0x2017 + sumOthers (generatePackage p)) % 65536 := by
  obtain ⟨first, -, last⟩ := package_parts p.header p.check p.rest
  have zero : store 2 p.crc = [0, 0] := by
    rw [empty]
    decide
  have none : (0 : BitVec 16).toNat = 0 := rfl
  rw [UartPackage.check, BitVec.toNat_add, foldl_sum, sumOthers, generatePackage_eq, first, last,
    UartPackage.bytes, zero, empty]
  simp only [List.map_append, List.sum_append, List.map_cons, List.map_nil, List.sum_cons,
    List.sum_nil, UInt8.toNat_zero, none]
  change (_ + 0x2017) % 65536 = _
  omega

theorem generatePackage_list (p : UartPackage) :
    generatePackage p = [byteOf p.header 0, byteOf p.header 1, byteOf p.header 2, byteOf p.header 3,
      byteOf p.check 0, byteOf p.check 1, byteOf p.cmdType 0, byteOf p.cmdType 1,
      byteOf p.dataLength 0, byteOf p.dataLength 1, byteOf p.protocolVersion 0,
      byteOf p.protocolVersion 1, p.deviceType, p.action, p.locationPercentage, p.sn[0], p.sn[1],
      p.sn[2], p.undefined[0], p.undefined[1], p.undefined[2], p.undefined[3]] := by
  rw [generatePackage_eq]
  rfl

/-- The package on top of what the result held before. -/
def UartPackage.onto (p res : UartPackage) : UartPackage :=
  { p with
    header := res.header ||| p.header
    crc := res.crc ||| p.check
    cmdType := res.cmdType ||| p.cmdType
    dataLength := res.dataLength ||| p.dataLength
    protocolVersion := res.protocolVersion ||| p.protocolVersion }

theorem unpackPackage_generatePackage (res p : UartPackage) :
    unpackPackage res (generatePackage p) = .ok (p.onto res) := by
  have sn : #v[p.sn[0], p.sn[1], p.sn[2]] = p.sn := by
    ext i inside
    match i, inside with
    | 0, _ | 1, _ | 2, _ => rfl
  have undefined : #v[p.undefined[0], p.undefined[1], p.undefined[2], p.undefined[3]] =
      p.undefined := by
    ext i inside
    match i, inside with
    | 0, _ | 1, _ | 2, _ | 3, _ => rfl
  have read : unpackPackage res (generatePackage p) =
      .ok { p with
        header := join res.header (store 4 p.header)
        crc := join res.crc (store 2 p.check)
        cmdType := join res.cmdType (store 2 p.cmdType)
        dataLength := join res.dataLength (store 2 p.dataLength)
        protocolVersion := join res.protocolVersion (store 2 p.protocolVersion)
        sn := #v[p.sn[0], p.sn[1], p.sn[2]]
        undefined := #v[p.undefined[0], p.undefined[1], p.undefined[2], p.undefined[3]] } := by
    rw [generatePackage_list]
    rfl
  rw [read, sn, undefined]
  simp only [UartPackage.onto, join_store (show 32 ≤ 8 * 4 by decide),
    join_store (show 16 ≤ 8 * 2 by decide)]

/-- Every bit that is set in the result before is set in the package, too. -/
structure Covered (res p : UartPackage) : Prop where
  header : res.header ||| p.header = p.header
  crc : res.crc ||| p.check = p.check
  cmdType : res.cmdType ||| p.cmdType = p.cmdType
  dataLength : res.dataLength ||| p.dataLength = p.dataLength
  protocolVersion : res.protocolVersion ||| p.protocolVersion = p.protocolVersion

theorem onto_eq_iff (res p : UartPackage) :
    p.onto res = { p with crc := p.check } ↔ Covered res p := by
  constructor
  · intro same
    exact ⟨congrArg UartPackage.header same, congrArg UartPackage.crc same,
      congrArg UartPackage.cmdType same, congrArg UartPackage.dataLength same,
      congrArg UartPackage.protocolVersion same⟩
  · rintro ⟨header, crc, cmdType, dataLength, protocolVersion⟩
    simp only [UartPackage.onto, header, crc, cmdType, dataLength, protocolVersion]

theorem returns_bytesAt (buf : List UInt8) (offset n : Nat) (inside : offset + n ≤ buf.length) :
    Returns (bytesAt buf offset n) := by
  induction n generalizing offset with
  | zero => exact .pure
  | succ n ih =>
    obtain ⟨byte, read⟩ : ∃ byte, byteAt buf 0 offset = .ok byte := byteAt_inside (by omega)
    obtain ⟨bytes, later⟩ := ih (offset + 1) (by omega)
    exact .bind read (.bind later .pure)

theorem returns_unpackPackage (res : UartPackage) (long : 22 ≤ buf.length) :
    Returns (unpackPackage res buf) := by
  have byte (k : Nat) (inside : k < 22) : Returns (byteAt buf 0 k) := byteAt_inside (by omega)
  unfold unpackPackage
  refine .seq (returns_bytesAt buf 0 4 (by omega)) fun _ => ?_
  refine .seq (returns_bytesAt buf 4 2 (by omega)) fun _ => ?_
  refine .seq (returns_bytesAt buf 6 2 (by omega)) fun _ => ?_
  refine .seq (returns_bytesAt buf 8 2 (by omega)) fun _ => ?_
  refine .seq (returns_bytesAt buf 10 2 (by omega)) fun _ => ?_
  refine .seq (byte 12 (by omega)) fun _ => .seq (byte 13 (by omega)) fun _ => ?_
  refine .seq (byte 14 (by omega)) fun _ => .seq (byte 15 (by omega)) fun _ => ?_
  refine .seq (byte 16 (by omega)) fun _ => .seq (byte 17 (by omega)) fun _ => ?_
  refine .seq (byte 18 (by omega)) fun _ => .seq (byte 19 (by omega)) fun _ => ?_
  exact .seq (byte 20 (by omega)) fun _ => .seq (byte 21 (by omega)) fun _ => .pure

theorem unpackPackage_action (res : UartPackage) :
    Ends (fun p => byteAt buf 0 13 = .ok p.action) (unpackPackage res buf) := by
  unfold unpackPackage
  refine .bind fun header _ => .bind fun crc _ => .bind fun cmdType _ => .bind fun length _ => ?_
  refine .bind fun version _ => .bind fun deviceType _ => .bind fun action read => ?_
  refine .bind fun location _ => .bind fun s0 _ => .bind fun s1 _ => .bind fun s2 _ => ?_
  exact .bind fun u0 _ => .bind fun u1 _ => .bind fun u2 _ => .bind fun u3 _ => .pure read

/-- What `modbus_dev_report` makes of the action of a package. -/
def reportAction (action : UInt8) : Option (List ParsedObj) :=
  if action = actionOpen then some (curtainObjs 0)
  else if action = actionStop then some (curtainObjs 1)
  else if action = actionClose then some (curtainObjs 2)
  else none

/-- The report is that of the unpacked package, whatever the result held before. -/
theorem modbusDevReport_unpacks (res : UartPackage) (long : 22 ≤ frameLen buf) :
    modbusDevReport buf = (unpackPackage res buf).map fun p => reportAction p.action := by
  have length := frameLen_le buf
  obtain ⟨p, unpacked⟩ := returns_unpackPackage res (show 22 ≤ buf.length by omega)
  have action := unpackPackage_action res p unpacked
  rw [modbusDevReport, if_neg (by omega), unpacked, action]
  simp only [bind, Except.bind, Except.map, reportAction]
  split_ifs <;> rfl

/-- A curtain is reported. -/
def Accepts (buf : List UInt8) : Prop := ∃ objs, modbusDevReport buf = .ok (some objs)

/-- The byte of the action is one of the three. -/
def KnownAction (buf : List UInt8) : Prop := ∃ action, buf[13]? = some action ∧ action ≤ 2

theorem accepts_iff (whole : buf.length = 22) : Accepts buf ↔ KnownAction buf := by
  have length : frameLen buf = 22 := by rw [frameLen, whole]
  obtain ⟨action, read⟩ : ∃ action, byteAt buf 0 13 = .ok action := byteAt_inside (by omega)
  have there : buf[13]? = some action := byteAt_eq_ok.mp read
  have report : modbusDevReport buf = .ok (reportAction action) := by
    rw [modbusDevReport, if_neg (by omega), read]
    simp only [bind, Except.bind, reportAction]
    split_ifs <;> rfl
  have each : ∀ action : UInt8, (∃ objs, reportAction action = some objs) ↔ action ≤ 2 := by
    intro action
    rw [← Option.isSome_iff_exists]
    revert action
    apply forall_byte
    decide +kernel
  constructor
  · rintro ⟨objs, reported⟩
    exact ⟨action, there, (each action).mp ⟨objs, Except.ok.inj (report.symm.trans reported)⟩⟩
  · rintro ⟨known, there', bound⟩
    obtain rfl : action = known := Option.some.inj (there.symm.trans there')
    obtain ⟨objs, reported⟩ := (each action).mpr bound
    exact ⟨objs, report.trans (congrArg Except.ok reported)⟩

/-- A package for the device, with its header and its checksum. -/
structure IsPackage (modbusId : UInt8) (buf : List UInt8) : Prop where
  header : buf.take 4 = store 4 packageHeader
  crc : (crcField buf).toNat = (0x2017 + sumOthers buf) % 65536
  device : buf[17]? = some modbusId

/-- What the gateway sends are such packages. -/
theorem modbusDevControl_isPackage (modbusId : UInt8) (pObj : Option DpObj) :
    IsPackage modbusId (modbusDevControl modbusId pObj) := by
  have made (cmdType : BitVec 16) (action : UInt8) :
      IsPackage modbusId (packageFactory cmdType action modbusId) := by
    unfold packageFactory
    refine ⟨?_, ?_, ?_⟩
    · rw [generatePackage_eq]
      exact (package_parts _ _ _).1
    · rw [crcField_generatePackage]
      exact check_eq _ rfl
    · rw [generatePackage_list]
      rfl
  cases pObj with
  | none => exact made ..
  | some obj => exact made ..

/-- A package is stored whole and with its checksum. It comes back exactly from a result that held
none but its own bits, and the report looks at the action only. -/
theorem package_laws_iff (p : UartPackage) (empty : p.crc = 0) :
    ((generatePackage p).length = 22 ∧
        (crcField (generatePackage p)).toNat = (0x2017 + sumOthers (generatePackage p)) % 65536) ∧
      (∀ res, unpackPackage res (generatePackage p) =
          .ok { p with crc := crcField (generatePackage p) } ↔ Covered res p) ∧
      ∀ modbusId buf, buf.length = 22 →
        ((Accepts buf → IsPackage modbusId buf) ↔ ¬ KnownAction buf ∨ IsPackage modbusId buf) := by
  have check := crcField_generatePackage p
  refine ⟨⟨length_generatePackage p, ?_⟩, fun res => ?_, fun modbusId buf whole => ?_⟩
  · rw [check]
    exact check_eq p empty
  · rw [unpackPackage_generatePackage, check, Except.ok.injEq]
    exact onto_eq_iff res p
  · rw [accepts_iff whole]
    exact imp_iff_not_or

/-- A result that held the bits of another header, and a buffer of zeros, which closes the
curtain. -/
theorem package_laws_broken :
    (∃ res, unpackPackage res (generatePackage (newPackage cmdTypeQuery actionOpen 1)) ≠
        .ok { newPackage cmdTypeQuery actionOpen 1 with
          crc := crcField (generatePackage (newPackage cmdTypeQuery actionOpen 1)) }) ∧
      Accepts (List.replicate 22 0) ∧ ¬ IsPackage 1 (List.replicate 22 0) := by
  refine ⟨⟨{ newPackage 0 0 0 with header := 0xFFFFFFFF }, ?_⟩, ⟨curtainObjs 2, rfl⟩, ?_⟩
  · rw [unpackPackage_generatePackage]
    intro same
    exact absurd (congrArg UartPackage.header (Except.ok.inj same)) (by decide)
  · rintro ⟨header, -, -⟩
    exact absurd header (by decide)

/-- The query of a curtain, unpacked over itself. -/
theorem package_laws_query :
    unpackPackage (newPackage cmdTypeQuery actionOpen 1)
        (generatePackage (newPackage cmdTypeQuery actionOpen 1)) =
      .ok { newPackage cmdTypeQuery actionOpen 1 with
        crc := crcField (generatePackage (newPackage cmdTypeQuery actionOpen 1)) } :=
  ((package_laws_iff (newPackage cmdTypeQuery actionOpen 1) rfl).2.1 _).mpr
    ⟨BitVec.or_self, BitVec.zero_or, BitVec.or_self, BitVec.or_self, BitVec.or_self⟩

end HiMaxGateway.Plugin.BinThen
