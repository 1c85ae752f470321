import HiMaxGateway.Lib.Fault
import HiMaxGateway.Knx.Address

/-! `KNX_ParsePacket`: one text line of the bus monitor becomes a telegram. -/
namespace HiMaxGateway.Knx
open CText CRun

/-- The two address fields are `char[EIB_ADDR + PREFIX_SIZE]`. -/
def addrSize : Nat := 10

/-- `KnxDataType_t`. The address fields keep all ten characters of their arrays. -/
structure KnxData where
  hwAddr : List Char := List.replicate addrSize '\x00'
  groupAddr : List Char := List.replicate addrSize '\x00'
  phy : Nat := 0
  bRejected : Bool := false
  value : Nat := 0
  cmd : Text := []
  timestamp : Nat := 0
  deriving DecidableEq, Repr

/-- `strstr` without a test of its result. -/
def marker (key line : Text) : Result Nat :=
  match strstr key line with
  | some i => .ok i
  | none => .error .nullPointer

/-- `memcpy (dst, line + start, stop - start)` into an address field. -/
def copyAddr (dst line : List Char) (start stop : Nat) : Result (List Char) :=
  if stop < start then .error .negativeLength
  else if addrSize < stop - start then .error .outOfBounds
  else .ok ((line.drop start).take (stop - start) ++ dst.drop (stop - start))

/-- A character array read as a string: it must hold its terminator. -/
def cString (array : List Char) : Result Text :=
  if '\x00' ∈ array then .ok (array.takeWhile (· ≠ '\x00')) else .error .outOfBounds

def smallPayload (rest : Text) : Option Nat :=
  match sscanf [.conv .x (some 2)] rest with
  | [l] => some (l.toNat % 2 ^ 16)
  | _ => none

def payload (rest : Text) : Option Nat :=
  match sscanf [.conv .x (some 2), .space, .conv .x (some 2)] rest with
  | [h, l] => some ((h.toNat * 256 + l.toNat) % 2 ^ 16)
  | [h] => some (h.toNat % 2 ^ 16)
  | _ => none

inductive Service where
  | absent
  | malformed
  | value (value : Nat)
  deriving DecidableEq, Repr

/-- The write and the response service differ in their two keys only. The small
key is tried first. -/
def groupService (smallKey key line : Text) : Service :=
  let read (payload : Option Nat) : Service := payload.elim .malformed .value
  match strstr smallKey line with
  | some i => read (smallPayload (line.drop (i + smallKey.length)))
  | none =>
      match strstr key line with
      | some i => read (payload (line.drop (i + key.length)))
      | none => .absent

def fromKey : Text := "from ".toList
def toKey : Text := " to ".toList
def hopsKey : Text := " hops".toList
def groupWriteSmallKey : Text := "A_GroupValue_Write (small) ".toList
def groupWriteKey : Text := "A_GroupValue_Write ".toList
def groupReadKey : Text := "A_GroupValue_Read".toList
def groupResponseSmallKey : Text := "A_GroupValue_Response (small) ".toList
def groupResponseKey : Text := "A_GroupValue_Response ".toList
def repeatedKey : Text := "repeated".toList

def writeService (line : Text) : Service := groupService groupWriteSmallKey groupWriteKey line
def responseService (line : Text) : Service :=
  groupService groupResponseSmallKey groupResponseKey line

/-- `true` for the addresses the gateway itself sends from. -/
def isOwnAddr (phy : Nat) : Bool := knxHwAddressMin ≤ phy && phy ≤ knxHwAddressMax

/-- The fields cut out before any service is looked for. -/
def parseAddrs (line : Text) (data : KnxData) : Result KnxData := do
  let ret1 ← marker fromKey line
  let ret2 ← marker toKey line
  let ret3 ← marker hopsKey line
  let hwAddr ← copyAddr data.hwAddr line (ret1 + fromKey.length) ret2
  let groupAddr ← copyAddr data.groupAddr line (ret2 + toKey.length) ret3
  return { data with cmd := [], hwAddr, groupAddr }

/-- The last test: telegrams of the gateway come back on the bus. -/
def checkSource (data : KnxData) : Result (Int × KnxData) := do
  let phy := knxHwAddr (← cString data.hwAddr)
  return (if isOwnAddr phy then -4 else 0, { data with phy })

def parseResponse (line : Text) (data : KnxData) : Result (Int × KnxData) :=
  match responseService line with
  | .malformed => .ok (-1, data)
  | .value value => checkSource { data with value, cmd := "Response".toList }
  | .absent => checkSource data

def parseFlags (line : Text) (data : KnxData) : Result (Int × KnxData) :=
  if (strstr groupReadKey line).isSome then .ok (-2, { data with cmd := "Read".toList })
  else if (strstr repeatedKey line).isSome then .ok (-3, { data with cmd := "Repeated".toList })
  else parseResponse line data

def parseWrite (line : Text) (data : KnxData) : Result (Int × KnxData) :=
  match writeService line with
  | .malformed => .ok (-1, data)
  | .value value => parseFlags line { data with value, cmd := "Write".toList }
  | .absent => parseFlags line data

/-- The result code and the filled structure. -/
def knxParsePacket (line : Text) (data : KnxData) : Result (Int × KnxData) := do
  parseWrite line (← parseAddrs line data)

end HiMaxGateway.Knx
