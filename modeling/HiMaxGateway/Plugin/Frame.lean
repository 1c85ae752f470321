import HiMaxGateway.Lib.Fault
import HiMaxGateway.Point
import Mathlib.Data.List.Basic

/-! What the Modbus plugins share: bytes of a frame, `crc16`, `memmatch`, and the
calls the gateway makes into a plugin. -/
namespace HiMaxGateway.Plugin
open CRun

/-- The fields of `MbusObj_t` a `parse` fills in. -/
structure ParsedObj where
  localPoint : PointFeature := .unknown
  value : UInt32 := 0
  sndValue : UInt32 := 0
  deriving DecidableEq, Repr

/-- `ty_obj_dp_s`. The members of its union share their bytes. -/
structure DpObj where
  dpid : UInt8
  raw : UInt32
  deriving DecidableEq, Repr

def DpObj.dpBool (obj : DpObj) : Bool := obj.raw.toUInt8 ≠ 0

def DpObj.dpEnum (obj : DpObj) : UInt32 := obj.raw

def DpObj.dpValue (obj : DpObj) : UInt32 := obj.raw

/-- A 16-bit value as `htons` leaves it in the buffer. -/
def htons (value : UInt16) : List UInt8 := [(value >>> 8).toUInt8, value.toUInt8]

/-- `value << places`, cut to a byte. -/
def shifted (value places : Nat) : UInt8 := UInt8.ofNat (value <<< places)

def tableHigh : Array UInt8 := #[
    0x00, 0xC1, 0x81, 0x40, 0x01, 0xC0, 0x80, 0x41, 0x01, 0xC0, 0x80, 0x41, 0x00, 0xC1, 0x81, 0x40,
    0x01, 0xC0, 0x80, 0x41, 0x00, 0xC1, 0x81, 0x40, 0x00, 0xC1, 0x81, 0x40, 0x01, 0xC0, 0x80, 0x41,
    0x01, 0xC0, 0x80, 0x41, 0x00, 0xC1, 0x81, 0x40, 0x00, 0xC1, 0x81, 0x40, 0x01, 0xC0, 0x80, 0x41,
    0x00, 0xC1, 0x81, 0x40, 0x01, 0xC0, 0x80, 0x41, 0x01, 0xC0, 0x80, 0x41, 0x00, 0xC1, 0x81, 0x40,
    0x01, 0xC0, 0x80, 0x41, 0x00, 0xC1, 0x81, 0x40, 0x00, 0xC1, 0x81, 0x40, 0x01, 0xC0, 0x80, 0x41,
    0x00, 0xC1, 0x81, 0x40, 0x01, 0xC0, 0x80, 0x41, 0x01, 0xC0, 0x80, 0x41, 0x00, 0xC1, 0x81, 0x40,
    0x00, 0xC1, 0x81, 0x40, 0x01, 0xC0, 0x80, 0x41, 0x01, 0xC0, 0x80, 0x41, 0x00, 0xC1, 0x81, 0x40,
    0x01, 0xC0, 0x80, 0x41, 0x00, 0xC1, 0x81, 0x40, 0x00, 0xC1, 0x81, 0x40, 0x01, 0xC0, 0x80, 0x41,
    0x01, 0xC0, 0x80, 0x41, 0x00, 0xC1, 0x81, 0x40, 0x00, 0xC1, 0x81, 0x40, 0x01, 0xC0, 0x80, 0x41,
    0x00, 0xC1, 0x81, 0x40, 0x01, 0xC0, 0x80, 0x41, 0x01, 0xC0, 0x80, 0x41, 0x00, 0xC1, 0x81, 0x40,
    0x00, 0xC1, 0x81, 0x40, 0x01, 0xC0, 0x80, 0x41, 0x01, 0xC0, 0x80, 0x41, 0x00, 0xC1, 0x81, 0x40,
    0x01, 0xC0, 0x80, 0x41, 0x00, 0xC1, 0x81, 0x40, 0x00, 0xC1, 0x81, 0x40, 0x01, 0xC0, 0x80, 0x41,
    0x00, 0xC1, 0x81, 0x40, 0x01, 0xC0, 0x80, 0x41, 0x01, 0xC0, 0x80, 0x41, 0x00, 0xC1, 0x81, 0x40,
    0x01, 0xC0, 0x80, 0x41, 0x00, 0xC1, 0x81, 0x40, 0x00, 0xC1, 0x81, 0x40, 0x01, 0xC0, 0x80, 0x41,
    0x01, 0xC0, 0x80, 0x41, 0x00, 0xC1, 0x81, 0x40, 0x00, 0xC1, 0x81, 0x40, 0x01, 0xC0, 0x80, 0x41,
    0x00, 0xC1, 0x81, 0x40, 0x01, 0xC0, 0x80, 0x41, 0x01, 0xC0, 0x80, 0x41, 0x00, 0xC1, 0x81, 0x40]

def tableLow : Array UInt8 := #[
    0x00, 0xC0, 0xC1, 0x01, 0xC3, 0x03, 0x02, 0xC2, 0xC6, 0x06, 0x07, 0xC7, 0x05, 0xC5, 0xC4, 0x04,
    0xCC, 0x0C, 0x0D, 0xCD, 0x0F, 0xCF, 0xCE, 0x0E, 0x0A, 0xCA, 0xCB, 0x0B, 0xC9, 0x09, 0x08, 0xC8,
    0xD8, 0x18, 0x19, 0xD9, 0x1B, 0xDB, 0xDA, 0x1A, 0x1E, 0xDE, 0xDF, 0x1F, 0xDD, 0x1D, 0x1C, 0xDC,
    0x14, 0xD4, 0xD5, 0x15, 0xD7, 0x17, 0x16, 0xD6, 0xD2, 0x12, 0x13, 0xD3, 0x11, 0xD1, 0xD0, 0x10,
    0xF0, 0x30, 0x31, 0xF1, 0x33, 0xF3, 0xF2, 0x32, 0x36, 0xF6, 0xF7, 0x37, 0xF5, 0x35, 0x34, 0xF4,
    0x3C, 0xFC, 0xFD, 0x3D, 0xFF, 0x3F, 0x3E, 0xFE, 0xFA, 0x3A, 0x3B, 0xFB, 0x39, 0xF9, 0xF8, 0x38,
    0x28, 0xE8, 0xE9, 0x29, 0xEB, 0x2B, 0x2A, 0xEA, 0xEE, 0x2E, 0x2F, 0xEF, 0x2D, 0xED, 0xEC, 0x2C,
    0xE4, 0x24, 0x25, 0xE5, 0x27, 0xE7, 0xE6, 0x26, 0x22, 0xE2, 0xE3, 0x23, 0xE1, 0x21, 0x20, 0xE0,
    0xA0, 0x60, 0x61, 0xA1, 0x63, 0xA3, 0xA2, 0x62, 0x66, 0xA6, 0xA7, 0x67, 0xA5, 0x65, 0x64, 0xA4,
    0x6C, 0xAC, 0xAD, 0x6D, 0xAF, 0x6F, 0x6E, 0xAE, 0xAA, 0x6A, 0x6B, 0xAB, 0x69, 0xA9, 0xA8, 0x68,
    0x78, 0xB8, 0xB9, 0x79, 0xBB, 0x7B, 0x7A, 0xBA, 0xBE, 0x7E, 0x7F, 0xBF, 0x7D, 0xBD, 0xBC, 0x7C,
    0xB4, 0x74, 0x75, 0xB5, 0x77, 0xB7, 0xB6, 0x76, 0x72, 0xB2, 0xB3, 0x73, 0xB1, 0x71, 0x70, 0xB0,
    0x50, 0x90, 0x91, 0x51, 0x93, 0x53, 0x52, 0x92, 0x96, 0x56, 0x57, 0x97, 0x55, 0x95, 0x94, 0x54,
    0x9C, 0x5C, 0x5D, 0x9D, 0x5F, 0x9F, 0x9E, 0x5E, 0x5A, 0x9A, 0x9B, 0x5B, 0x99, 0x59, 0x58, 0x98,
    0x88, 0x48, 0x49, 0x89, 0x4B, 0x8B, 0x8A, 0x4A, 0x4E, 0x8E, 0x8F, 0x4F, 0x8D, 0x4D, 0x4C, 0x8C,
    0x44, 0x84, 0x85, 0x45, 0x87, 0x47, 0x46, 0x86, 0x82, 0x42, 0x43, 0x83, 0x41, 0x81, 0x80, 0x40]

/-- One round of the loop of `crc16`, on `crcH` and `crcL`. -/
def crcRound (crc : UInt8 × UInt8) (byte : UInt8) : UInt8 × UInt8 :=
  let idx := crc.1 ^^^ byte
  (crc.2 ^^^ tableHigh.getD idx.toNat 0, tableLow.getD idx.toNat 0)

/-- Both bytes of the checksum, high byte first as they are sent. -/
def crc16 (buf : List UInt8) : List UInt8 :=
  let crc := buf.foldl crcRound (0xFF, 0xFF)
  [crc.1, crc.2]

/-- A frame whose last two bytes are the checksum of the others. -/
def withCrc (buf : List UInt8) : List UInt8 := buf ++ crc16 buf

/-- The loop of `memmatch` from `i` on: the offset of the two bytes of a key. The key is
not looked for at the last offset. -/
def memmatchFrom (high low : UInt8) : (i : Nat) → (left : Nat) → List UInt8 → Option Nat
  | i, left + 1, a :: b :: rest =>
      if a = high ∧ b = low then some i else memmatchFrom high low (i + 1) left (b :: rest)
  | _, _, _ => none

/-- `len` is the length the caller gave. -/
def memmatch (buf : List UInt8) (high low : UInt8) (len : Nat) : Option Nat :=
  memmatchFrom high low 0 (len - 2) buf

/-- `pos[k]` for a `pos` that points to an offset of the buffer. -/
def byteAt (buf : List UInt8) (pos k : Nat) : Result UInt8 :=
  match buf[pos + k]? with
  | some byte => .ok byte
  | none => .error .outOfBounds

/-- `ntohs` of the two bytes from `pos + k` on. -/
def wordAt (buf : List UInt8) (pos k : Nat) : Result UInt32 := do
  let high ← byteAt buf pos k
  let low ← byteAt buf pos (k + 1)
  pure ((high.toUInt32 <<< 8) + low.toUInt32)

/-- A call of `build` or `parse` for one device. -/
inductive Request where
  /-- `pObj` is empty for a read. `points` tells whether `pSwitch` and `pSpeed` of the node are
  there; without a node it is empty. -/
  | build (groupAddr : UInt16) (points : Option Bool) (pObj : Option DpObj)
  /-- `points` is what the words read as `pSwitch` and `pSpeed` give. -/
  | parse (points : Bool) (buf : List UInt8)
  deriving DecidableEq, Repr

/-- The addresses of a configured device. `build` and `parse` take the low byte of `devAddr`. -/
structure Addr where
  devAddr : UInt16
  regAddr : UInt16
  deriving DecidableEq, Repr

def Addr.devId (addr : Addr) : UInt8 := addr.devAddr.toUInt8

/-- What a call returns; a null pointer is `none`. -/
inductive Reply where
  | frame (frame : Option (List UInt8))
  | objs (objs : Option (List ParsedObj))
  deriving DecidableEq, Repr

/-- The length goes to `parse` as 16 bits. -/
def frameLen (buf : List UInt8) : Nat := buf.length % 65536

/-- The first frame in the buffer that answers a read, else one that answers a write:
its offset, when enough bytes follow. -/
def findFrame (devId readCode writeCode : UInt8) (readMin writeMin : Nat) (buf : List UInt8) :
    Option Nat :=
  let len := frameLen buf
  match (memmatch buf devId readCode len).filter (fun pos => readMin ≤ len - pos) with
  | some pos => some pos
  | none => (memmatch buf devId writeCode len).filter (fun pos => writeMin ≤ len - pos)

/-- The offset of a 16-bit key, when enough bytes follow. -/
def findKey (key : UInt16) (min : Nat) (buf : List UInt8) : Option Nat :=
  let len := frameLen buf
  (memmatch buf (key >>> 8).toUInt8 key.toUInt8 len).filter (fun pos => min ≤ len - pos)

/-- The objects of a `parse`, or the null pointer. -/
abbrev Parsed := Result (Option (List ParsedObj))

def localPoints (objs : List ParsedObj) : List PointFeature := objs.map (·.localPoint)

/-- What the objects tell of a point. -/
def valueOf (objs : List ParsedObj) (point : PointFeature) : Option UInt32 :=
  (objs.find? (·.localPoint = point)).map (·.value)

/-- The bytes of the frame that was found. -/
def frameAt (buf : List UInt8) : Option Nat → List UInt8
  | some pos => buf.drop pos
  | none => []

/-- A property of bytes, checked for each of them. -/
theorem forall_byte {P : UInt8 → Prop} (each : ∀ i : Fin 256, P (UInt8.ofNat i)) (byte : UInt8) :
    P byte := by
  have here := each ⟨byte.toNat, byte.toNat_lt⟩
  rwa [UInt8.ofNat_toNat] at here

theorem byteAt_frame (read : byteAt buf pos k = .ok byte) :
    (frameAt buf (some pos))[k]? = some byte := by
  unfold byteAt at read
  cases there : buf[pos + k]? with
  | none => simp [there] at read
  | some found =>
    simp only [there, Except.ok.injEq] at read
    rw [frameAt, List.getElem?_drop, there, read]

-- The checks of the plugins that look for no key. They take the length as 8 bits.

def byteLen (buf : List UInt8) : Nat := frameLen buf % 256

/-- A package with a checksum at its end, for this device, with one of the function codes. -/
def checkCrc (codes : List UInt8) (devId : UInt8) (buf : List UInt8) : Result Bool :=
  let length := byteLen buf
  if length < 3 then pure false
  else do
    let high ← byteAt buf 0 (length - 2)
    let low ← byteAt buf 0 (length - 1)
    if crc16 (buf.take (length - 2)) ≠ [high, low] then pure false
    else if (← byteAt buf 0 0) ≠ devId then pure false
    else pure (codes.contains (← byteAt buf 0 1))

/-- The sum of the bytes from the second one up to `stop`. -/
def checkSum (buf : List UInt8) (stop : Nat) : Result UInt8 :=
  (List.range' 1 (stop - 1)).foldlM (fun sum i => do pure (sum + (← byteAt buf 0 i))) 0

end HiMaxGateway.Plugin
