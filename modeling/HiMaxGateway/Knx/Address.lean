import HiMaxGateway.Lib.CText

/-! Physical and group addresses of the KNX bus, as `knxHandle.c` reads them, and the bytes of a
value. -/
namespace HiMaxGateway.Knx
open CText

/-- `eibaddr_t` and the other 16-bit addresses are numbers below `2 ^ 16`; the
error value `-1` is cut to `0xFFFF`. -/
def invalidAddr : Nat := 0xFFFF

def readgaddr (addr : Text) : Nat :=
  let hex : Nat :=
    match sscanf [.conv .x none] addr with
    | [a] => if a ≤ 0xFFFF then a.toNat else invalidAddr
    | _ => invalidAddr
  match sscanf [.conv .u none, .char '/', .conv .u none, .char '/', .conv .u none] addr with
  | [a, b, c] =>
      if a ≤ 0x1F ∧ b ≤ 0x07 ∧ c ≤ 0xFF then a.toNat <<< 11 ||| b.toNat <<< 8 ||| c.toNat else hex
  | [a, b] =>
      if a ≤ 0x1F ∧ b ≤ 0x7FF then a.toNat <<< 11 ||| (b.toNat &&& 0x7FF) else hex
  | _ => hex

/-- The bits of an unsigned object read as `int`. -/
def signed (bits : Int) : Int := if bits < 2 ^ 31 then bits else bits - 2 ^ 32

/-- `readgaddr` with the three objects declared as `int`: the bounds are compared with sign. -/
def knxGrpAddr (addr : Text) : Nat :=
  let hex : Nat :=
    match sscanf [.conv .x none] addr with
    | [a] => if signed a ≤ 0xFFFF then a.toNat % 2 ^ 16 else invalidAddr
    | _ => invalidAddr
  match sscanf [.conv .u none, .char '/', .conv .u none, .char '/', .conv .u none] addr with
  | [a, b, c] =>
      if signed a ≤ 0x1F ∧ signed b ≤ 0x07 ∧ signed c ≤ 0xFF then
        (a.toNat <<< 11 ||| b.toNat <<< 8 ||| c.toNat) % 2 ^ 16
      else hex
  | [a, b] =>
      if signed a ≤ 0x1F ∧ signed b ≤ 0x7FF then
        (a.toNat <<< 11 ||| (b.toNat &&& 0x7FF)) % 2 ^ 16
      else hex
  | _ => hex

/-- The result of `sscanf` itself is returned unless all three numbers were read; `EOF` is `-1`. -/
def isKnxGroupAddr (pBuf : Text) : Int :=
  match scan [.conv .d (some 2), .char '/', .conv .d (some 1), .char '/', .conv .d (some 3)]
    pBuf with
  | ([prime, middle, sub], _) => if prime > 31 ∨ middle > 7 ∨ sub > 255 then -1 else 0
  | (values, atEnd) => if values = [] ∧ atEnd = true then -1 else values.length

/-- The bytes `readBlock` stores for a 16-bit value. -/
def readBlock (value : Nat) : List Nat :=
  if value / 256 ≠ 0 then [value / 256, value % 256] else [value % 256]

/-- The shifts and additions are made on `int` and cut to 16 bits by the assignment. -/
def knxHwAddr (pBuf : Text) : Nat :=
  match sscanf [.conv .d (some 2), .char '.', .conv .d (some 2), .char '.', .conv .d (some 3)]
    pBuf with
  | [prime, middle, sub] =>
      if prime > 15 ∨ middle > 15 ∨ sub > 255 then invalidAddr
      else ((prime * 2 ^ 12 + middle * 2 ^ 8 + sub) % 2 ^ 16).toNat
  | _ => invalidAddr

/-- `true` is the result `0` of the source: the two spellings read to one address. -/
def knxCompareGroup (pGrpA pGrpB : Text) : Bool := readgaddr pGrpA == readgaddr pGrpB

@[simp] theorem knxCompareGroup_self (grp : Text) : knxCompareGroup grp grp = true := by
  simp [knxCompareGroup]

def knxHwAddressMin : Nat := 0x1001
def knxHwAddressMax : Nat := 0x1008

end HiMaxGateway.Knx
