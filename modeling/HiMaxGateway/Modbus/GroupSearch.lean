import HiMaxGateway.Modbus.GroupLinks
import HiMaxGateway.Modbus.Lookup
import HiMaxGateway.Lib.Numeral
import HiMaxGateway.Xml.GroupCfg

/-! `ModbusDevGroup` with the search it makes. The match function takes the first four characters of
a key for a number; these are the head of the MAC, which no device has as its id. -/
namespace HiMaxGateway.Modbus
open CText Chain

/-- `listSearchKey` with `ModbusDevIdMatch`, for a key in a zeroed buffer. -/
def groupSearch (devices : List DeviceElement) (key : Text) : Option Nat :=
  devices.findIdx? (·.devId == keyWord key)

/-- The device that has the key. -/
def keyPlace (devices : List DeviceElement) (key : Text) : Option Nat :=
  devices.findIdx? (·.pPrimaryKey == key)

/-- The MAC as `GetMac` prints it. -/
structure HexMac (mac : Text) : Prop where
  size : mac.length = macLength
  hex : ∀ c ∈ mac, isDigitOf 16 c = true

/-- A group that `ParseGroupCfg` leaves, with the keys up to the null entry. A null primary key is
found by nothing, and no more is an empty one. -/
def Parsed (mac : Text) (group : Group) : Prop :=
  ∃ calloc cell cfg, Xml.parseGroupCell mac calloc cell = .ok cfg ∧
    cfg.pPrimaryKey.getD [] = group.pPrimaryKey ∧
    Xml.memberKeys cfg.ppForeignKey = some group.ppForeignKey

theorem lookup_group {devices : List DeviceElement} {key : Text} (size : 3 ≤ key.length) :
    lookup .modbusDevGroup devices key =
      .ok ((groupSearch devices key).bind (devices[·]?)) := by
  match key with
  | a :: b :: c :: rest =>
    have word : textWord (a :: b :: c :: rest) = .ok (keyWord (a :: b :: c :: rest)) := by
      cases rest <;> rfl
    simp only [lookup, word, bind, Except.bind, pure, Except.pure, searchId, groupSearch]
    congr 1
    exact List.find?_eq_bind_findIdx?_getElem?
  | [] | [_] | [_, _] => simp at size

section

variable {mac : Text}

theorem hex_byte {c : Char} (hex : isDigitOf 16 c = true) : 48 ≤ byte c ∧ byte c ≤ 102 := by
  have range : 48 ≤ c.toNat ∧ c.toNat ≤ 102 := by
    unfold isDigitOf digitVal at hex
    split at hex
    · rename_i digit
      obtain ⟨least, most⟩ := Char.isDigit_iff_toNat.mp digit
      exact ⟨least, le_trans most (by decide)⟩
    split at hex
    · rename_i digit lower
      simp only [Bool.and_eq_true, decide_eq_true_eq] at lower
      exact ⟨le_trans (by decide) (Char.le_def.mp lower.1), Char.le_def.mp lower.2⟩
    split at hex
    · rename_i digit lower upper
      simp only [Bool.and_eq_true, decide_eq_true_eq] at upper
      exact ⟨le_trans (by decide) (Char.le_def.mp upper.1),
        le_trans (Char.le_def.mp upper.2) (by decide)⟩
    · simp at hex
  unfold byte
  omega

theorem keyWord_nil : keyWord [] = 0 := by decide

/-- The word of a key is that of the MAC. -/
theorem keyWord_mac (size : mac.length = macLength) (rest : Text) :
    keyWord ((mac ++ rest).take 31) = keyWord mac := by
  have char (i : Nat) (early : i < 4) :
      ((mac ++ rest).take 31).getD i '\x00' = mac.getD i '\x00' := by
    have inside : i < mac.length := by simp only [size, macLength]; omega
    rw [List.getD_eq_getElem?_getD, List.getD_eq_getElem?_getD, List.getElem?_take_of_lt (by omega),
      List.getElem?_append_left inside]
  unfold keyWord
  rw [char 0 (by decide), char 1 (by decide), char 2 (by decide), char 3 (by decide)]

theorem keyWord_bounds (address : HexMac mac) :
    808464432 ≤ keyWord mac ∧ keyWord mac ≤ 1717986918 := by
  have char (i : Nat) (early : i < 4) :
      48 ≤ byte (mac.getD i '\x00') ∧ byte (mac.getD i '\x00') ≤ 102 := by
    have inside : i < mac.length := by simp only [address.size, macLength]; omega
    rw [List.getD_eq_getElem?_getD, List.getElem?_eq_getElem inside, Option.getD_some]
    exact hex_byte (address.hex _ (List.getElem_mem inside))
  have first := char 0 (by decide)
  have second := char 1 (by decide)
  have third := char 2 (by decide)
  have fourth := char 3 (by decide)
  unfold keyWord
  omega

/-- The number of a device starts with the type digit, so it is too short or too long to be the
word of a MAC. -/
theorem devId_apart (size : mac.length = macLength) (item : Text) :
    let devId := (mbusElement mac item).devId
    0 < devId ∧ ¬ (808464432 ≤ devId ∧ devId ≤ 1717986918) := by
  intro devId
  obtain ⟨k, least, less⟩ := @digits_leading 10 (item.take 18).length 2 (item.take 18)
  have value : devId = min (2 ^ 31 - 1) (digits 10 (item.take 18).length 2 (item.take 18)).1 := by
    simp only [devId, mbusElement, parseDevId, primaryKey_number size, Number.long, uint32]
    simp only [Bool.false_eq_true, if_false]
    omega
  rcases Nat.lt_or_ge k 9 with short | long
  · have power : 10 ^ k ≤ 10 ^ 8 := Nat.pow_le_pow_right (by decide) (by omega)
    have positive : 0 < 10 ^ k := Nat.pow_pos (by decide)
    omega
  · have power : 10 ^ 9 ≤ 10 ^ k := Nat.pow_le_pow_right (by decide) long
    omega

theorem groupKey_word (size : mac.length = macLength) (type : Xml.CommunicateMode) (text : Text) :
    keyWord (Xml.groupKey mac type text) = keyWord mac ∨
    keyWord (Xml.groupKey mac type text) = 0 := by
  cases type with
  | modbus | knx => exact .inl (keyWord_mac size _)
  | unknown | zigbee | rf433 | dio => exact .inr keyWord_nil

/-- No owner is ever found. -/
theorem owner_unfound (address : HexMac mac) (items : List Text) {group : Group}
    (parsed : Parsed mac group) :
    groupSearch (items.map (mbusElement mac)) group.pPrimaryKey = none := by
  obtain ⟨calloc, cell, cfg, run, named, -⟩ := parsed
  have word : keyWord group.pPrimaryKey = keyWord mac ∨ keyWord group.pPrimaryKey = 0 := by
    rw [← named]
    cases owner : cfg.pPrimaryKey with
    | none => exact .inr keyWord_nil
    | some key =>
      obtain ⟨text, rfl⟩ := Xml.parseGroupCell_owner run key owner
      exact groupKey_word address.size _ text
  rw [groupSearch, List.findIdx?_eq_none_iff]
  intro dev member
  obtain ⟨item, -, rfl⟩ := List.mem_map.mp member
  obtain ⟨positive, apart⟩ := devId_apart address.size item
  have bounds := keyWord_bounds address
  rw [beq_eq_false_iff_ne]
  rintro same
  rcases word with word | word
  · rw [same, word] at apart
    exact apart bounds
  · omega

end

/-- The loop over the groups ends at the first one. -/
theorem modbusDevGroup_unfound {search : Text → Option Nat} {groups : List Group}
    (unfound : ∀ group ∈ groups, search group.pPrimaryKey = none) (fuel : Nat) (pNext : Links Nat) :
    modbusDevGroup fuel search groups pNext = some pNext := by
  cases groups with
  | nil => rfl
  | cons group groups => simp only [modbusDevGroup, unfound group List.mem_cons_self]

theorem cleared_unfound {search known : Text → Option Nat} {groups : List Group}
    (unfound : ∀ group ∈ groups, search group.pPrimaryKey = none) :
    ∀ group ∈ cleared known groups, search group.pPrimaryKey = none := by
  intro group member
  obtain ⟨original, kept, rfl⟩ := List.mem_map.mp member
  exact unfound original (List.mem_filter.mp kept).1

def houseMac : Text := "02c7ecdad925".toList

def houseDevices : List DeviceElement := ["100".toList, "101".toList].map (mbusElement houseMac)

theorem houseMac_hex : HexMac houseMac :=
  ⟨by decide, List.all_eq_true.mp (by decide)⟩

/-- A cell of the group list with one member. -/
def pairCell (owner member : String) : Xml.Node := .mk "Cell".toList none
  [("type".toList, "485".toList), ("member_sum".toList, "2".toList)]
  [.element "PrimaryKey" [.text owner], .element "ForeignKey" [.text member]]

def pair : Group := ⟨"02c7ecdad9252100".toList, ["02c7ecdad9252101".toList]⟩

def strangerPair : Group := ⟨"02c7ecdad9252100".toList, ["02c7ecdad9252109".toList]⟩

theorem pair_parsed : Parsed houseMac pair :=
  ⟨fun _ => true, pairCell "100" "101", _, rfl, rfl, rfl⟩

theorem strangerPair_parsed : Parsed houseMac strangerPair :=
  ⟨fun _ => true, pairCell "100" "109", _, rfl, rfl, rfl⟩

end HiMaxGateway.Modbus
