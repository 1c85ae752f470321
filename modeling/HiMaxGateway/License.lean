import HiMaxGateway.Lib.CBuffer
import HiMaxGateway.Lib.Search

/-! `GetUuid` and `GetKey` of `production_utils.c`, which take the license of the product apart.
What they return is a buffer of their own, or the null pointer. -/
namespace HiMaxGateway.License
open CBuffer CRun CText

def uuidHead : Text := "uuid:".toList

def uuidTail : Text := " ".toList

def keyHead : Text := "key:".toList

def getUuid (pJson : Option Text) : Result (Option Buffer) :=
  match pJson with
  | none => pure none
  | some text =>
      match strstr uuidHead text with
      | none => pure none
      | some pUuid =>
          let value := text.drop (pUuid + uuidHead.length)
          match strstr uuidTail value with
          | none => pure none
          | some pEnd => do pure (some (← memcpy (calloc (pEnd + 1)) (stored value) pEnd))

/-- The buffer is made for what follows the head, and 32 bytes are copied whatever that is. -/
def getKey (pJson : Option Text) : Result (Option Buffer) :=
  match pJson with
  | none => pure none
  | some text =>
      match strstr keyHead text with
      | none => pure none
      | some pKey =>
          let size := (text.drop pKey).length - keyHead.length + 1
          let value := text.drop (pKey + keyHead.length)
          do pure (some (← memcpy (calloc size) (stored value) 32))

/-- What the caller reads of the returned pointer. -/
def returned (run : Result (Option Buffer)) : Result (Option Text) := do
  match ← run with
  | none => pure none
  | some buf => pure (some (← str buf))

def license (uuid key : Text) : Text := uuidHead ++ uuid ++ ' ' :: (keyHead ++ key)

/-- Both parts of a license are returned as they are. -/
structure TakenApart (uuid key : Text) : Prop where
  ownUuid : returned (getUuid (some (license uuid key))) = .ok (some uuid)
  ownKey : returned (getKey (some (license uuid key))) = .ok (some key)

/-- Nothing is read behind the text or written behind the buffer. -/
structure Bounded (text : Text) : Prop where
  inUuid : Returns (getUuid (some text))
  inKey : Returns (getKey (some text))

/-- The key has the length that is copied, or one less, so that the terminator comes with it.
Where the identifier has the head of a key in it, what follows there has to begin with the key. -/
def KeyKept (uuid key : Text) : Prop :=
  match strstr keyHead uuid with
  | none => key.length = 31 ∨ key.length = 32
  | some i =>
      key.length = 32 ∧ key <+: uuid.drop (i + keyHead.length) ++ ' ' :: (keyHead ++ key)

/-- 31 characters follow the head of the key, if there is one. -/
def RoomForKey (text : Text) : Prop :=
  ∀ pKey, strstr keyHead text = some pKey → 31 ≤ (text.drop (pKey + keyHead.length)).length

variable {text uuid key : Text}

theorem getUuid_reads (noNull : '\x00' ∉ text) (head : strstr uuidHead text = some pUuid)
    (tail : strstr uuidTail (text.drop (pUuid + uuidHead.length)) = some pEnd) :
    ∃ buf, getUuid (some text) = .ok (some buf) ∧
      str buf = .ok ((text.drop (pUuid + uuidHead.length)).take pEnd) := by
  have within := (strstr_spec tail).length_le
  have inside : pEnd < (text.drop (pUuid + uuidHead.length)).length := by
    rw [List.length_drop] at within
    have one : uuidTail.length = 1 := rfl
    omega
  obtain ⟨buf, copied, read⟩ := str_copy (fun member => noNull (List.mem_of_mem_drop member))
    (Nat.le_succ_of_le (Nat.le_of_lt inside)) (Nat.le_succ pEnd) (.inl (Nat.lt_succ_self pEnd))
  refine ⟨buf, ?_, read⟩
  simp only [getUuid, head, tail, copied]
  rfl

theorem returns_getUuid (noNull : '\x00' ∉ text) : Returns (getUuid (some text)) := by
  cases head : strstr uuidHead text with
  | none =>
    simp only [getUuid, head]
    exact .pure
  | some pUuid =>
    cases tail : strstr uuidTail (text.drop (pUuid + uuidHead.length)) with
    | none =>
      simp only [getUuid, head, tail]
      exact .pure
    | some pEnd =>
      obtain ⟨buf, got, -⟩ := getUuid_reads noNull head tail
      exact ⟨some buf, got⟩

/-- The text is not searched further than the first space. -/
theorem license_uuid (noNull : '\x00' ∉ license uuid key) (spaceless : ' ' ∉ uuid) :
    returned (getUuid (some (license uuid key))) = .ok (some uuid) := by
  have head : strstr uuidHead (license uuid key) = some 0 :=
    strstr_append (a := uuidHead ++ uuid) (strstr_append (by decide) uuid) _
  have value :
      (license uuid key).drop (0 + uuidHead.length) = uuid ++ (uuidTail ++ (keyHead ++ key)) :=
    rfl
  have before : ¬ uuidTail <:+: (uuid ++ uuidTail).dropLast := by
    change ¬ [' '] <:+: (uuid ++ [' ']).dropLast
    rw [List.dropLast_concat]
    exact not_infix_of_mem List.mem_cons_self spaceless
  have tail :
      strstr uuidTail ((license uuid key).drop (0 + uuidHead.length)) = some uuid.length := by
    rw [value]
    exact strstr_first (by decide) before _
  obtain ⟨buf, got, read⟩ := getUuid_reads noNull head tail
  rw [value, List.take_left] at read
  rw [returned, got]
  simp only [bind, Except.bind, read]
  rfl

theorem getKey_reads (noNull : '\x00' ∉ text) (head : strstr keyHead text = some pKey)
    (room : 31 ≤ (text.drop (pKey + keyHead.length)).length) :
    ∃ buf, getKey (some text) = .ok (some buf) ∧
      str buf = .ok ((text.drop (pKey + keyHead.length)).take 32) := by
  have size : (text.drop pKey).length - keyHead.length =
      (text.drop (pKey + keyHead.length)).length := by
    rw [List.length_drop, List.length_drop, Nat.sub_sub]
  obtain ⟨buf, copied, read⟩ := str_copy (fun member => noNull (List.mem_of_mem_drop member))
    (Nat.succ_le_succ room) (Nat.succ_le_succ room) (by omega)
  refine ⟨buf, ?_, read⟩
  simp only [getKey, head, size, copied]
  rfl

theorem getKey_overruns (head : strstr keyHead text = some pKey)
    (short : (text.drop (pKey + keyHead.length)).length < 31) :
    ¬ Returns (getKey (some text)) := by
  simp only [getKey, head]
  intro returns
  obtain ⟨buf, copied, -⟩ := returns_bind.mp returns
  have reads := (returns_memcpy.mp ⟨buf, copied⟩).1
  rw [length_stored] at reads
  omega

theorem returns_getKey_iff (noNull : '\x00' ∉ text) :
    Returns (getKey (some text)) ↔ RoomForKey text := by
  cases head : strstr keyHead text with
  | none =>
    simp only [getKey, head, RoomForKey, reduceCtorEq, false_implies, implies_true, iff_true]
    exact .pure
  | some pKey =>
    constructor
    · intro returns pKey' head'
      cases head.symm.trans head'
      by_contra short
      exact getKey_overruns head (Nat.lt_of_not_le short) returns
    · intro room
      obtain ⟨buf, got, -⟩ := getKey_reads noNull head (room pKey head)
      exact ⟨some buf, got⟩

/-- What `getKey` takes for the key of a license. -/
def keyValue (uuid key : Text) : Text :=
  match strstr keyHead uuid with
  | none => key
  | some i => uuid.drop (i + keyHead.length) ++ ' ' :: (keyHead ++ key)

theorem license_search (uuid key : Text) : strstr keyHead (license uuid key) =
    (strstr keyHead (uuid ++ ' ' :: (keyHead ++ key))).map (· + uuidHead.length) := by
  rw [license, List.append_assoc]
  exact strstr_skip (by decide) _

theorem license_drop (uuid key : Text) (n : Nat) : (license uuid key).drop (n + uuidHead.length) =
    (uuid ++ ' ' :: (keyHead ++ key)).drop n := by
  rw [license, List.append_assoc, Nat.add_comm, ← List.drop_drop, List.drop_left]

theorem key_located (uuid key : Text) :
    ∃ pKey, strstr keyHead (license uuid key) = some pKey ∧
      (license uuid key).drop (pKey + keyHead.length) = keyValue uuid key := by
  rw [license_search, keyValue]
  cases inside : strstr keyHead uuid with
  | none =>
    have before : ¬ keyHead <:+: ((uuid ++ [' ']) ++ keyHead).dropLast := by
      rw [List.dropLast_append_of_ne_nil (by decide), List.append_assoc, List.singleton_append,
        infix_split (by decide), not_or]
      exact ⟨strstr_eq_none.mp inside, by decide⟩
    have found := strstr_first (by decide) before key
    rw [List.append_assoc, List.singleton_append] at found
    refine ⟨_, congrArg (Option.map _) found, ?_⟩
    have parts : uuid ++ ' ' :: (keyHead ++ key) = (uuid ++ [' '] ++ keyHead) ++ key := by simp
    rw [Nat.add_right_comm, license_drop, parts, ← List.length_append, List.drop_left]
  | some i =>
    have within := (strstr_spec inside).length_le
    have fits : i + keyHead.length ≤ uuid.length := by
      rw [List.length_drop] at within
      have four : keyHead.length = 4 := rfl
      omega
    refine ⟨_, congrArg (Option.map _) (strstr_append inside _), ?_⟩
    rw [Nat.add_right_comm, license_drop, List.drop_append_of_le_length fits]

theorem license_key (noNull : '\x00' ∉ license uuid key) :
    returned (getKey (some (license uuid key))) = .ok (some key) ↔
      31 ≤ (keyValue uuid key).length ∧ (keyValue uuid key).take 32 = key := by
  obtain ⟨pKey, head, value⟩ := key_located uuid key
  by_cases room : 31 ≤ (keyValue uuid key).length
  · obtain ⟨buf, got, read⟩ := getKey_reads noNull head (value ▸ room)
    rw [value] at read
    rw [returned, got]
    simp only [bind, Except.bind, read, room, true_and, pure, Except.pure, Except.ok.injEq,
      Option.some.injEq]
  · refine ⟨fun reads => absurd ?_ (getKey_overruns head (value ▸ Nat.lt_of_not_le room)),
      fun kept => absurd kept.1 room⟩
    obtain ⟨out, got, -⟩ := bind_eq_ok.mp reads
    exact ⟨out, got⟩

theorem keyKept_iff : KeyKept uuid key ↔
    31 ≤ (keyValue uuid key).length ∧ (keyValue uuid key).take 32 = key := by
  rw [KeyKept, keyValue]
  cases inside : strstr keyHead uuid with
  | none =>
    simp only [List.take_eq_self_iff]
    omega
  | some i =>
    let value := uuid.drop (i + keyHead.length) ++ ' ' :: (keyHead ++ key)
    have longer : key.length + 5 ≤ value.length := by
      simp only [value, List.length_append, List.length_cons]
      have four : keyHead.length = 4 := rfl
      omega
    change key.length = 32 ∧ key <+: value ↔ 31 ≤ value.length ∧ value.take 32 = key
    constructor
    · rintro ⟨whole, start⟩
      refine ⟨by omega, ?_⟩
      rw [← whole]
      exact (List.prefix_iff_eq_take.mp start).symm
    · rintro ⟨room, taken⟩
      have length : key.length = min 32 value.length := by
        rw [← List.length_take, taken]
      exact ⟨by omega, taken ▸ List.take_prefix 32 value⟩

theorem license_noNull (uuid key : Line) : '\x00' ∉ license uuid.val key.val := by
  simp only [license, List.mem_append, List.mem_cons, not_or]
  exact ⟨⟨by decide, uuid.property⟩, by decide, by decide, key.property⟩

/-- A license is taken apart as it was put together, whatever its identifier, exactly for such a
key. A text is safe to parse exactly when enough follows the head of its key. -/
theorem license_laws_iff (uuid key text : Line) (spaceless : ' ' ∉ uuid.val) :
    (TakenApart uuid key ↔ KeyKept uuid key) ∧ (Bounded text ↔ RoomForKey text) := by
  have noNull := license_noNull uuid key
  have ownUuid := license_uuid noNull spaceless
  rw [keyKept_iff, ← license_key noNull, ← returns_getKey_iff text.property]
  constructor
  · exact ⟨fun apart => apart.ownKey, fun ownKey => ⟨ownUuid, ownKey⟩⟩
  · exact ⟨fun bounded => bounded.inKey, fun inKey => ⟨returns_getUuid text.property, inKey⟩⟩

/-- A key of three characters, and one that is cut. -/
theorem short_key_overruns :
    getKey (some (license ['u'] ['a', 'b', 'c'])) = .error .outOfBounds ∧
      ¬ Bounded (license ['u'] ['a', 'b', 'c']) ∧ ¬ TakenApart ['u'] ['a', 'b', 'c'] ∧
      returned (getKey (some (license ['u'] (List.replicate 33 'a')))) =
        .ok (some (List.replicate 32 'a')) := by
  have overrun : getKey (some (license ['u'] ['a', 'b', 'c'])) = .error .outOfBounds := by decide
  refine ⟨overrun, ?_, ?_, by decide⟩
  · rintro ⟨-, inKey⟩
    rw [overrun] at inKey
    exact returns_error inKey
  · rintro ⟨-, ownKey⟩
    rw [overrun] at ownKey
    cases ownKey

/-- The license in the comment of the source. -/
def sampleUuid : Text := "hxkjbc065f8a5fb123d0".toList

def sampleKey : Text := "p77G073w43hfKARbp3qNMJjnciBkwS3q".toList

theorem sample_taken_apart : TakenApart sampleUuid sampleKey ∧
    Bounded (license sampleUuid sampleKey) := by
  have plain : strstr keyHead sampleUuid = none := by decide
  have kept : KeyKept sampleUuid sampleKey := by
    rw [KeyKept, plain]
    exact .inr rfl
  have head : strstr keyHead (license sampleUuid sampleKey) = some 26 := by decide
  have room : RoomForKey (license sampleUuid sampleKey) := by
    intro pKey found
    cases head.symm.trans found
    decide
  have laws := license_laws_iff ⟨sampleUuid, by decide⟩ ⟨sampleKey, by decide⟩
    ⟨license sampleUuid sampleKey, by decide⟩ (by decide)
  exact ⟨laws.1.mpr kept, laws.2.mpr room⟩

end HiMaxGateway.License
