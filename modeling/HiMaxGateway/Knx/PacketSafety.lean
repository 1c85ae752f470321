import HiMaxGateway.Knx.PacketProofs

/-! When `KNX_ParsePacket` stays within its line and its two address fields, and what it returns
for a line that holds no telegram. -/
namespace HiMaxGateway.Knx
open CText CRun

/-- The line holds a telegram: two address fields that fit their arrays, and a group value. -/
def Parsable (line : Text) : Prop :=
  ∃ source group, addrFields line = some (source, group) ∧ source.length ≤ addrSize ∧
    group.length ≤ addrSize ∧
    ∃ key ∈ groupValueKeys, ∃ before after, line = before ++ key ++ after ∧ hexByte after

/-- The searches and the two copies are all in `parseAddrs`: it ends in a fault when a marker is
missing, a length is negative or an array is left. -/
structure ParsesSafely (line : Text) : Prop where
  copies : ∃ data, parseAddrs line {} = .ok data
  refuses : ¬ Parsable line → ∃ ret data, knxParsePacket line {} = .ok (ret, data) ∧ ret ≠ 0

/-- A key that makes the parser look at the payload or give the line up. -/
def Named (line : Text) : Prop :=
  groupWriteKey <:+: line ∨ groupReadKey <:+: line ∨ repeatedKey <:+: line ∨
    groupResponseKey <:+: line

/-- The markers stand in order around two fields of at most ten characters, and something behind
them keeps a line without a group value from being accepted. -/
def Guarded (line : Text) : Prop :=
  ∃ source group, addrFields line = some (source, group) ∧ source.length ≤ addrSize ∧
    group.length ≤ addrSize ∧
    (Named line ∨ source.length < addrSize ∧ isOwnAddr (knxHwAddr source) = true)

theorem Parsable.named {line : Text} (parsable : Parsable line) : Named line := by
  obtain ⟨-, -, -, -, -, key, mem, before, after, rfl, -⟩ := parsable
  have covers : ∀ k ∈ groupValueKeys, groupWriteKey <+: k ∨ groupResponseKey <+: k := by decide
  have within {k : Text} (start : k <+: key) : k <:+: before ++ key ++ after :=
    start.isInfix.trans ⟨before, after, rfl⟩
  rcases covers key mem with write | response
  · exact .inl (within write)
  · exact .inr (.inr (.inr (within response)))

theorem parseWrite_unnamed {line : Text} (unnamed : ¬ Named line) (data : KnxData) :
    parseWrite line data = checkSource data := by
  simp only [Named, not_or] at unnamed
  obtain ⟨write, read, repeated, response⟩ := unnamed
  have noWrite : writeService line = .absent := (groupService_absent (by decide)).mpr write
  have noResponse : responseService line = .absent := (groupService_absent (by decide)).mpr response
  simp [parseWrite, noWrite, parseFlags, strstr_isSome, read, repeated, parseResponse, noResponse]

/-- Each key leads to a return of its own, unless a payload can be read. -/
theorem parseWrite_named {line : Text} (named : Named line)
    (noWrite : ∀ value, writeService line ≠ .value value)
    (noResponse : ∀ value, responseService line ≠ .value value) (data : KnxData) :
    ∃ ret out, parseWrite line data = .ok (ret, out) ∧ ret ≠ 0 := by
  cases write : writeService line with
  | value value => exact absurd write (noWrite value)
  | malformed => exact ⟨-1, data, by rw [parseWrite, write], by decide⟩
  | absent =>
    have unwritten := (groupService_absent (by decide)).mp write
    rw [parseWrite, write]
    simp only [parseFlags, strstr_isSome]
    by_cases read : groupReadKey <:+: line
    · exact ⟨-2, _, by rw [if_pos read], by decide⟩
    rw [if_neg read]
    by_cases repeated : repeatedKey <:+: line
    · exact ⟨-3, _, by rw [if_pos repeated], by decide⟩
    rw [if_neg repeated]
    cases response : responseService line with
    | value value => exact absurd response (noResponse value)
    | malformed => exact ⟨-1, data, by rw [parseResponse, response], by decide⟩
    | absent =>
      have unanswered := (groupService_absent (by decide)).mp response
      rcases named with h | h | h | h
      · exact absurd h unwritten
      · exact absurd h read
      · exact absurd h repeated
      · exact absurd h unanswered

theorem checkSource_refuses {source : Text} {data : KnxData} (clean : '\x00' ∉ source)
    (fits : source.length ≤ addrSize) (field : data.hwAddr = padded source) :
    (∃ ret out, checkSource data = .ok (ret, out) ∧ ret ≠ 0) ↔
      source.length < addrSize ∧ isOwnAddr (knxHwAddr source) = true := by
  simp only [checkSource, field, bind_eq_ok, cString_padded clean fits, pure_eq_ok, Prod.mk.injEq]
  constructor
  · rintro ⟨ret, out, ⟨text, ⟨room, rfl⟩, rfl, -⟩, refused⟩
    refine ⟨room, ?_⟩
    by_contra foreign
    simp [foreign] at refused
  · rintro ⟨room, own⟩
    exact ⟨-4, _, ⟨source, ⟨room, rfl⟩, by rw [if_pos own], rfl⟩, by decide⟩

theorem parses_safely_iff (line : Line) : ParsesSafely line.1 ↔ Guarded line.1 := by
  constructor
  · intro safe
    obtain ⟨data, copied⟩ := safe.copies
    obtain ⟨source, group, fields, size₁, size₂, rfl⟩ := parseAddrs_eq_ok.mp copied
    refine ⟨source, group, fields, size₁, size₂, ?_⟩
    by_cases named : Named line.1
    · exact .inl named
    · have refused := safe.refuses fun parsable => named parsable.named
      obtain ⟨ret, out, parsed, nonzero⟩ := refused
      obtain ⟨data, again, parsed⟩ := bind_eq_ok.mp parsed
      cases copied.symm.trans again
      rw [parseWrite_unnamed named] at parsed
      exact .inr ((checkSource_refuses (addrFields_clean line.2 fields) size₁ rfl).mp
        ⟨ret, out, parsed, nonzero⟩)
  · rintro ⟨source, group, fields, size₁, size₂, kept⟩
    have copied := parseAddrs_eq_ok.mpr ⟨source, group, fields, size₁, size₂, rfl⟩
    refine ⟨⟨_, copied⟩, ?_⟩
    intro unparsable
    have unread {key : Text} (mem : key ∈ groupValueKeys) :
        ¬ ∃ before after, line.1 = before ++ key ++ after ∧ hexByte after :=
      fun found => unparsable ⟨source, group, fields, size₁, size₂, key, mem, found⟩
    have noWrite : ∀ value, writeService line.1 ≠ .value value := by
      intro value read
      obtain ⟨key, mem, found⟩ := groupService_value read
      exact unread (List.mem_append_left [groupResponseSmallKey, groupResponseKey] mem) found
    have noResponse : ∀ value, responseService line.1 ≠ .value value := by
      intro value read
      obtain ⟨key, mem, found⟩ := groupService_value read
      exact unread (List.mem_append_right [groupWriteSmallKey, groupWriteKey] mem) found
    rw [knxParsePacket, copied]
    by_cases named : Named line.1
    · exact parseWrite_named named noWrite noResponse _
    · obtain ⟨room, own⟩ := kept.resolve_left named
      change ∃ ret out, parseWrite line.1 _ = .ok (ret, out) ∧ ret ≠ 0
      rw [parseWrite_unnamed named]
      exact (checkSource_refuses (addrFields_clean line.2 fields) size₁ rfl).mpr ⟨room, own⟩

/-- An acknowledge frame: the text names no addresses. -/
def ackLine : Text := "L_Busmonitor: CC :ACK".toList

theorem ackLine_unsafe :
    '\x00' ∉ ackLine ∧ knxParsePacket ackLine {} = .error .nullPointer ∧
    ¬ ParsesSafely ackLine := by
  refine ⟨by decide, by decide, ?_⟩
  rintro ⟨⟨data, copied⟩, -⟩
  have fault : parseAddrs ackLine {} = .error .nullPointer := by decide
  rw [fault] at copied
  contradiction

end HiMaxGateway.Knx
