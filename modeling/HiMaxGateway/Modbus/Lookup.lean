import HiMaxGateway.Device
import HiMaxGateway.Lib.Fault

/-! Searches of the Modbus device list by primary key. All of them go through
`ModbusDevIdMatch`, which compares the numeric id of a device with the 32-bit
word its second argument points to. -/
namespace HiMaxGateway.Modbus
open CText CRun

/-- `DEVICE_TYPE_MODBUS`, as `%x` prints it. -/
def typeDigit : Char := '2'

def macLength : Nat := 12

/-- `snprintf` into `DEVICE_ID_LENGTH` bytes keeps 31 characters. -/
def primaryKey (mac item : Text) : Text := (mac ++ typeDigit :: item).take 31

def uint32 (value : Int) : Nat := (value % 2 ^ 32).toNat

/-- The numeric id: `strtol` behind the MAC, cut to 32 bits. Its failure is not tested. -/
def parseDevId (pPrimaryKey : Text) : Nat :=
  match strtol (pPrimaryKey.drop macLength) with
  | some n => uint32 n.long
  | none => 0

/-- The element the XML parser fills for a configured key. -/
def mbusElement (mac item : Text) : DeviceElement :=
  { szName := [], pPrimaryKey := primaryKey mac item, devId := parseDevId (primaryKey mac item) }

/-- `listSearchKey` with `ModbusDevIdMatch`: the first device with this id. -/
def searchId (devices : List DeviceElement) (devId : Nat) : Option DeviceElement :=
  devices.find? (·.devId == devId)

def byte (c : Char) : Nat := c.toNat % 256

/-- `*(uint32_t *) key` of a text on a little-endian machine; the terminator may be the fourth
byte. -/
def textWord (key : Text) : Result Nat :=
  match key with
  | a :: b :: c :: rest =>
      .ok (byte a + byte b * 2 ^ 8 + byte c * 2 ^ 16 + byte (rest.headD '\x00') * 2 ^ 24)
  | _ => .error .outOfBounds

/-- The same in a buffer that is zeroed and longer than four bytes. -/
def keyWord (key : Text) : Nat :=
  byte (key.getD 0 '\x00') + byte (key.getD 1 '\x00') * 2 ^ 8 +
    byte (key.getD 2 '\x00') * 2 ^ 16 + byte (key.getD 3 '\x00') * 2 ^ 24

/-- The id `ModbusDevWrite` reads out of the text, with its tests of `strtol`. -/
def suffixId (key : Text) : Option Nat :=
  match strtol (key.drop macLength) with
  | none => none
  | some n => if n.erange then none else some (uint32 n.long)

inductive Lookup where
  | associateKnxDev
  | modbusDevGroup
  | miscDevBindIfmCb
  | dumpMbusDevInfo
  | modbusDevWrite
  deriving DecidableEq, Repr

/-- Four call sites hand the text itself to the match function, one a number. -/
def lookup (site : Lookup) (devices : List DeviceElement) (key : Text) :
    Result (Option DeviceElement) :=
  match site with
  | .associateKnxDev | .modbusDevGroup | .miscDevBindIfmCb | .dumpMbusDevInfo => do
      return searchId devices (← textWord key)
  | .modbusDevWrite =>
      if key.length < macLength then .error .outOfBounds
      else .ok ((suffixId key).bind (searchId devices))

/-- The device the callers mean. -/
def deviceOf (devices : List DeviceElement) (key : Text) : Option DeviceElement :=
  devices.find? (·.pPrimaryKey == key)

section

variable {α κ ι : Type} {key : α → κ}

theorem key_apart {before after : List α} {a : α}
    (distinct : ((before ++ a :: after).map key).Nodup) : ∀ b ∈ before, key b ≠ key a := by
  intro b earlier same
  simp only [List.map_append, List.map_cons] at distinct
  have apart := (List.nodup_append.mp distinct).2.2
  exact apart _ (List.mem_map_of_mem earlier) _ (by simp) same

theorem find_first {p : α → Bool} {before after : List α} {a : α} (holds : p a = true)
    (earlier : ∀ b ∈ before, ¬ p b = true) : (before ++ a :: after).find? p = some a := by
  rw [List.find?_append, List.find?_eq_none.mpr earlier]
  simp [holds]

/-- A search by a derived id finds the element with a key exactly when that
element is the first with the id, and finds nothing when no element has the key. -/
theorem find_id_eq_find_key [BEq κ] [LawfulBEq κ] [BEq ι] [LawfulBEq ι] {xs : List α}
    (distinct : (xs.map key).Nodup) (id : α → ι) (i : ι) (k : κ) :
    xs.find? (id · == i) = xs.find? (key · == k) ↔
      (∀ before a after, xs = before ++ a :: after → key a = k →
        id a = i ∧ ∀ b ∈ before, id b ≠ i) ∧
      (k ∉ xs.map key → ∀ a ∈ xs, id a ≠ i) := by
  constructor
  · intro same
    constructor
    · intro before a after split holds
      subst xs k
      have others := key_apart distinct
      have found : (before ++ a :: after).find? (key · == key a) = some a :=
        find_first (by simp) (by simpa using others)
      rw [found] at same
      refine ⟨by simpa using List.find?_some same, ?_⟩
      intro b earlier hit
      rw [List.find?_append] at same
      cases search : before.find? (id · == i) with
      | none => exact List.find?_eq_none.mp search b earlier (by simpa using hit)
      | some e =>
        have mem := List.mem_of_find?_eq_some search
        simp only [search, Option.some_or, Option.some.injEq] at same
        subst e
        exact others a mem rfl
    · intro absent a mem hit
      have none : xs.find? (key · == k) = none := by
        rw [List.find?_eq_none]
        intro b mem holds
        exact absent (List.mem_map.mpr ⟨b, mem, by simpa using holds⟩)
      rw [none] at same
      exact List.find?_eq_none.mp same a mem (by simpa using hit)
  · rintro ⟨first, absent⟩
    by_cases named : k ∈ xs.map key
    · obtain ⟨a, mem, rfl⟩ := List.mem_map.mp named
      obtain ⟨before, after, rfl⟩ := List.append_of_mem mem
      obtain ⟨here, earlier⟩ := first before a after rfl rfl
      rw [find_first (by simpa using here) (by simpa using earlier),
        find_first (by simp) (by simpa using key_apart distinct)]
    · rw [List.find?_eq_none.mpr (by simpa using absent named), eq_comm, List.find?_eq_none]
      intro b mem holds
      exact named (List.mem_map.mpr ⟨b, mem, by simpa using holds⟩)

end

-- A key of the parser has its number behind twelve characters.

theorem primaryKey_suffix {mac : Text} (size : mac.length = macLength) (item : Text) :
    (primaryKey mac item).drop macLength = typeDigit :: item.take 18 := by
  rw [primaryKey, List.drop_take, ← size, List.drop_left]
  simp [size, macLength]

/-- The text of a key that can be read is read as its id. -/
theorem suffixId_eq {key : Text} (read : suffixId key = some n) : n = parseDevId key := by
  unfold suffixId at read
  unfold parseDevId
  cases number : strtol (key.drop macLength) with
  | none => simp [number] at read
  | some m =>
    simp only [number, Option.ite_none_left_eq_some, Option.some.injEq] at read
    exact read.2.symm

/-- A key of the parser has a number, which may be too large for a `long`. -/
theorem primaryKey_number {mac : Text} (size : mac.length = macLength) (item : Text) :
    strtol ((primaryKey mac item).drop macLength) =
      some ⟨false, (digits 10 (item.take 18).length 2 (item.take 18)).1⟩ := by
  rw [primaryKey_suffix size]
  rfl

theorem textWord_ok {key : Text} (size : macLength ≤ key.length) : ∃ w, textWord key = .ok w := by
  match key with
  | a :: b :: c :: rest => exact ⟨_, rfl⟩
  | [] | [_] | [_, _] => simp [macLength] at size

/-- The first four characters of the key, read as a number, are the id of the
device that has the key, its number fits a `long`, and no device before it has that id; a key no
device has reads to no id of the list, neither by its characters nor by its number. -/
structure KeyReads (devices : List DeviceElement) (key : Text) : Prop where
  size : macLength ≤ key.length
  holder : ∀ before dev after, devices = before ++ dev :: after → dev.pPrimaryKey = key →
    textWord key = .ok dev.devId ∧ (suffixId key).isSome = true ∧
      ∀ b ∈ before, b.devId ≠ dev.devId
  stranger : key ∉ devices.map (·.pPrimaryKey) → ∀ dev ∈ devices,
    textWord key ≠ .ok dev.devId ∧ suffixId key ≠ some dev.devId

theorem deviceOf_stranger {devices : List DeviceElement} {key : Text}
    (absent : key ∉ devices.map (·.pPrimaryKey)) : deviceOf devices key = none := by
  rw [deviceOf, List.find?_eq_none]
  intro dev mem holds
  exact absent (List.mem_map.mpr ⟨dev, mem, by simpa using holds⟩)

section

variable {devices : List DeviceElement} {key : Text}
  (distinct : (devices.map (·.pPrimaryKey)).Nodup)

include distinct

theorem lookup_text_iff (w : Nat) :
    searchId devices w = deviceOf devices key ↔
      (∀ before dev after, devices = before ++ dev :: after → dev.pPrimaryKey = key →
        dev.devId = w ∧ ∀ b ∈ before, b.devId ≠ w) ∧
      (key ∉ devices.map (·.pPrimaryKey) → ∀ dev ∈ devices, dev.devId ≠ w) :=
  find_id_eq_find_key distinct (·.devId) w key

theorem keyReads_of_lookups
    (found : ∀ site, lookup site devices key = .ok (deviceOf devices key)) :
    KeyReads devices key := by
  have size : macLength ≤ key.length := by
    by_contra short
    have write := found .modbusDevWrite
    simp [lookup, Nat.lt_of_not_le short] at write
  obtain ⟨w, word⟩ := textWord_ok size
  have text : searchId devices w = deviceOf devices key := by
    simpa [lookup, word, bind, Except.bind, pure, Except.pure] using found .associateKnxDev
  have write : (suffixId key).bind (searchId devices) = deviceOf devices key := by
    simpa [lookup, Nat.not_lt.mpr size] using found .modbusDevWrite
  obtain ⟨first, absent⟩ := (lookup_text_iff distinct w).mp text
  refine ⟨size, ?_, ?_⟩
  · intro before dev after split holds
    obtain ⟨here, earlier⟩ := first before dev after split holds
    refine ⟨here ▸ word, ?_, here ▸ earlier⟩
    cases number : suffixId key with
    | some n => rfl
    | none =>
      rw [number, Option.bind_none, eq_comm, deviceOf, List.find?_eq_none] at write
      exact absurd (by simpa using holds) (write dev (split ▸ by simp))
  · intro stranger dev mem
    constructor
    · intro same
      exact absent stranger dev mem (Except.ok.inj (same.symm.trans word))
    · intro same
      rw [same, Option.bind_some, deviceOf_stranger stranger, searchId, List.find?_eq_none] at write
      exact write dev mem (by simp)

theorem lookups_of_keyReads
    (parsed : ∀ dev ∈ devices, dev.devId = parseDevId dev.pPrimaryKey)
    (reads : KeyReads devices key) (site : Lookup) :
    lookup site devices key = .ok (deviceOf devices key) := by
  obtain ⟨w, word⟩ := textWord_ok reads.size
  have text : searchId devices w = deviceOf devices key := by
    apply (lookup_text_iff distinct w).mpr
    constructor
    · intro before dev after split holds
      obtain ⟨here, -, earlier⟩ := reads.holder before dev after split holds
      have same : dev.devId = w := Except.ok.inj (here.symm.trans word)
      exact ⟨same, same ▸ earlier⟩
    · intro stranger dev mem same
      exact (reads.stranger stranger dev mem).1 (same ▸ word)
  have write : (suffixId key).bind (searchId devices) = deviceOf devices key := by
    by_cases named : key ∈ devices.map (·.pPrimaryKey)
    · obtain ⟨dev, mem, rfl⟩ := List.mem_map.mp named
      obtain ⟨before, after, split⟩ := List.append_of_mem mem
      obtain ⟨here, numbered, -⟩ := reads.holder before dev after split rfl
      obtain ⟨n, number⟩ := Option.isSome_iff_exists.mp numbered
      have own : n = dev.devId := (suffixId_eq number).trans (parsed dev mem).symm
      rw [number, own, Option.bind_some, Except.ok.inj (here.symm.trans word), text]
    · rw [deviceOf_stranger named]
      cases number : suffixId key with
      | none => rfl
      | some n =>
        rw [Option.bind_some, searchId, List.find?_eq_none]
        intro dev mem holds
        apply (reads.stranger named dev mem).2
        rw [number, beq_iff_eq.mp holds]
  cases site with
  | modbusDevWrite => simp [lookup, Nat.not_lt.mpr reads.size, write]
  | associateKnxDev | modbusDevGroup | miscDevBindIfmCb | dumpMbusDevInfo =>
    simp [lookup, word, text, bind, Except.bind, pure, Except.pure]

end

/-- All the lookups of a key find the device with that key exactly when the key
reads to the id of that device in both ways. -/
theorem lookups_find_device_iff {mac : Text} (items : List Text)
    (distinct : (items.map (primaryKey mac)).Nodup) (key : Text) :
    (∀ site, lookup site (items.map (mbusElement mac)) key =
        .ok (deviceOf (items.map (mbusElement mac)) key)) ↔
      KeyReads (items.map (mbusElement mac)) key := by
  have parsed : ∀ dev ∈ items.map (mbusElement mac), dev.devId = parseDevId dev.pPrimaryKey := by
    intro dev mem
    obtain ⟨item, -, rfl⟩ := List.mem_map.mp mem
    rfl
  have distinct : ((items.map (mbusElement mac)).map (·.pPrimaryKey)).Nodup := by
    simpa [Function.comp_def, mbusElement] using distinct
  exact ⟨keyReads_of_lookups distinct, lookups_of_keyReads distinct parsed⟩

def ventilation : DeviceElement := mbusElement "02c7ecdad925".toList "103".toList

/-- A key that no device has is found by none of them. -/
theorem lookups_find_nothing :
    KeyReads [ventilation] "02c7ecdad9252104".toList ∧
      ∀ site, lookup site [ventilation] "02c7ecdad9252104".toList =
        .ok (deviceOf [ventilation] "02c7ecdad9252104".toList) := by
  have reads : KeyReads [ventilation] "02c7ecdad9252104".toList := by
    refine ⟨by decide, ?_, fun _ => by decide⟩
    intro before dev after split holds
    cases before with
    | nil =>
      cases split
      exact absurd holds (by decide)
    | cons first before => simp at split
  exact ⟨reads, (lookups_find_device_iff ["103".toList] (by decide) _).mpr reads⟩

theorem lookups_disagree :
    lookup .modbusDevGroup [ventilation] "02c7ecdad9252103".toList = .ok none ∧
      lookup .modbusDevWrite [ventilation] "02c7ecdad9252103".toList = .ok (some ventilation) ∧
      ¬ ∀ site, lookup site [ventilation] "02c7ecdad9252103".toList =
        .ok (deviceOf [ventilation] "02c7ecdad9252103".toList) := by
  refine ⟨by decide, by decide, ?_⟩
  intro found
  exact absurd (found .modbusDevGroup) (by decide)

end HiMaxGateway.Modbus
