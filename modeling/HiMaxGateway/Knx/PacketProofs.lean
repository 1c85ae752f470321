import HiMaxGateway.Knx.BusMonitor

/-! Which lines of the bus monitor are accepted, and which of these carry a
group value at all. -/
namespace HiMaxGateway.Knx
open CText CRun

def cut (line : Text) (start stop : Nat) : Text := (line.drop start).take (stop - start)

/-- The source and destination texts between the first markers, when the
markers stand in order. -/
def addrFields (line : Text) : Option (Text × Text) :=
  match strstr fromKey line, strstr toKey line, strstr hopsKey line with
  | some i, some j, some k =>
      if i + fromKey.length ≤ j ∧ j + toKey.length ≤ k then
        some (cut line (i + fromKey.length) j, cut line (j + toKey.length) k)
      else none
  | _, _, _ => none

/-- The two fields fit their arrays; the source must leave room for its terminator. -/
structure Fits (line source group : Text) : Prop where
  fields : addrFields line = some (source, group)
  source : source.length < addrSize
  group : group.length ≤ addrSize

def padded (text : Text) : List Char := text ++ List.replicate (addrSize - text.length) '\x00'

theorem marker_eq_ok {key line : Text} {i : Nat} :
    marker key line = .ok i ↔ strstr key line = some i := by
  rw [marker]
  split <;> simp_all

theorem copyAddr_eq_ok {line out : List Char} {start stop : Nat} (within : stop ≤ line.length) :
    copyAddr (List.replicate addrSize '\x00') line start stop = .ok out ↔
      start ≤ stop ∧ (cut line start stop).length ≤ addrSize ∧
      out = padded (cut line start stop) := by
  have size : start ≤ stop → (cut line start stop).length = stop - start := by
    intro order
    simp only [cut, List.length_take, List.length_drop]
    omega
  rw [copyAddr]
  split
  · rename_i negative
    simp only [reduceCtorEq, false_iff]
    omega
  · rename_i order
    have size := size (by omega)
    split
    · simp only [reduceCtorEq, false_iff]
      omega
    · rename_i room
      rw [padded, size, List.drop_replicate, cut]
      constructor
      · rintro ⟨⟩
        exact ⟨by omega, by omega, rfl⟩
      · rintro ⟨-, -, rfl⟩
        rfl

theorem strstr_within {key text : Text} (found : strstr key text = some i) (nonempty : key ≠ []) :
    i + key.length ≤ text.length := by
  have here := (strstr_spec found).length_le
  have positive : 0 < key.length := List.length_pos_iff.mpr nonempty
  simp only [List.length_drop] at here
  omega

theorem parseAddrs_eq_ok {line : Text} {data : KnxData} :
    parseAddrs line {} = .ok data ↔ ∃ source group, addrFields line = some (source, group) ∧
      source.length ≤ addrSize ∧ group.length ≤ addrSize ∧
      data = { hwAddr := padded source, groupAddr := padded group } := by
  simp only [parseAddrs, bind_eq_ok, marker_eq_ok, pure_eq_ok]
  constructor
  · rintro ⟨i, foundFrom, j, foundTo, k, foundHops, hw, hwCopied, grp, grpCopied, rfl⟩
    have toWithin := strstr_within foundTo (by decide)
    have hopsWithin := strstr_within foundHops (by decide)
    obtain ⟨order₁, size₁, rfl⟩ := (copyAddr_eq_ok (by omega)).mp hwCopied
    obtain ⟨order₂, size₂, rfl⟩ := (copyAddr_eq_ok (by omega)).mp grpCopied
    refine ⟨_, _, ?_, size₁, size₂, rfl⟩
    simp [addrFields, foundFrom, foundTo, foundHops, order₁, order₂]
  · rintro ⟨source, group, fields, size₁, size₂, rfl⟩
    unfold addrFields at fields
    split at fields
    · rename_i i j k foundFrom foundTo foundHops
      split at fields
      · rename_i order
        simp only [Option.some.injEq, Prod.mk.injEq] at fields
        obtain ⟨rfl, rfl⟩ := fields
        have toWithin := strstr_within foundTo (by decide)
        have hopsWithin := strstr_within foundHops (by decide)
        exact ⟨i, foundFrom, j, foundTo, k, foundHops, _,
          (copyAddr_eq_ok (by omega)).mpr ⟨order.1, size₁, rfl⟩, _,
          (copyAddr_eq_ok (by omega)).mpr ⟨order.2, size₂, rfl⟩, rfl⟩
      · contradiction
    · contradiction

theorem addrFields_clean {line source group : Text} (clean : '\x00' ∉ line)
    (fields : addrFields line = some (source, group)) : '\x00' ∉ source := by
  unfold addrFields at fields
  split at fields
  · split at fields
    · simp only [Option.some.injEq, Prod.mk.injEq] at fields
      obtain ⟨rfl, -⟩ := fields
      exact fun mem => clean (List.mem_of_mem_drop (List.mem_of_mem_take mem))
    · contradiction
  · contradiction

theorem cString_padded {text : Text} (clean : '\x00' ∉ text) (fits : text.length ≤ addrSize)
    {out : Text} : cString (padded text) = .ok out ↔ text.length < addrSize ∧ out = text := by
  have noStop : ∀ c ∈ text, decide (c ≠ '\x00') = true := by
    intro c mem
    have other : c ≠ '\x00' := fun same => clean (same ▸ mem)
    exact decide_eq_true other
  unfold cString padded
  rw [List.takeWhile_append_of_pos noStop]
  by_cases room : text.length < addrSize
  · have tail : addrSize - text.length = (addrSize - text.length - 1) + 1 := by omega
    rw [tail, List.replicate_succ]
    simp [room, eq_comm]
  · have full : addrSize - text.length = 0 := by omega
    simp [full, clean, room]

theorem checkSource_zero {source : Text} {data : KnxData} (clean : '\x00' ∉ source)
    (fits : source.length ≤ addrSize) (field : data.hwAddr = padded source) :
    (∃ out, checkSource data = .ok (0, out)) ↔
      source.length < addrSize ∧ isOwnAddr (knxHwAddr source) = false := by
  simp only [checkSource, field, bind_eq_ok, cString_padded clean fits, pure_eq_ok]
  constructor
  · rintro ⟨out, text, ⟨room, rfl⟩, same⟩
    refine ⟨room, ?_⟩
    by_contra own
    simp [own] at same
  · rintro ⟨room, foreign⟩
    refine ⟨{ data with hwAddr := padded source, phy := knxHwAddr source }, source, ⟨room, rfl⟩, ?_⟩
    simp only [foreign, Bool.false_eq_true, if_false]

theorem parseFlags_zero {line source : Text} {data : KnxData} (clean : '\x00' ∉ source)
    (fits : source.length ≤ addrSize) (field : data.hwAddr = padded source) :
    (∃ out, parseFlags line data = .ok (0, out)) ↔ ¬ groupReadKey <:+: line ∧
      ¬ repeatedKey <:+: line ∧ responseService line ≠ .malformed ∧
      source.length < addrSize ∧ isOwnAddr (knxHwAddr source) = false := by
  rw [parseFlags]
  simp only [strstr_isSome]
  by_cases read : groupReadKey <:+: line
  · simp [read]
  by_cases repeated : repeatedKey <:+: line
  · simp [read, repeated]
  simp only [read, repeated, if_false, not_false_eq_true, true_and, parseResponse]
  cases service : responseService line with
  | malformed => simp
  | absent =>
    simp only [ne_eq, reduceCtorEq, not_false_eq_true, true_and]
    exact checkSource_zero clean fits field
  | value value =>
    simp only [ne_eq, reduceCtorEq, not_false_eq_true, true_and]
    exact checkSource_zero clean fits field

/-- Every test between the two address fields and the result `0`. -/
structure Accepted (line source group : Text) : Prop where
  fits : Fits line source group
  write : writeService line ≠ .malformed
  notRead : ¬ groupReadKey <:+: line
  fresh : ¬ repeatedKey <:+: line
  response : responseService line ≠ .malformed
  foreign : isOwnAddr (knxHwAddr source) = false

theorem parseWrite_zero {line source : Text} {data : KnxData} (clean : '\x00' ∉ source)
    (fits : source.length ≤ addrSize) (field : data.hwAddr = padded source) :
    (∃ out, parseWrite line data = .ok (0, out)) ↔ writeService line ≠ .malformed ∧
      ¬ groupReadKey <:+: line ∧ ¬ repeatedKey <:+: line ∧ responseService line ≠ .malformed ∧
      source.length < addrSize ∧ isOwnAddr (knxHwAddr source) = false := by
  rw [parseWrite]
  cases service : writeService line with
  | malformed => simp
  | absent =>
    simp only [ne_eq, reduceCtorEq, not_false_eq_true, true_and]
    exact parseFlags_zero clean fits field
  | value value =>
    simp only [ne_eq, reduceCtorEq, not_false_eq_true, true_and]
    exact parseFlags_zero clean fits field

theorem knxParsePacket_zero (line : Line) :
    (∃ data, knxParsePacket line.1 {} = .ok (0, data)) ↔
      ∃ source group, Accepted line.1 source group := by
  simp only [knxParsePacket, bind_eq_ok, parseAddrs_eq_ok]
  constructor
  · rintro ⟨out, data, ⟨source, group, fields, size₁, size₂, rfl⟩, parsed⟩
    have clean := addrFields_clean line.2 fields
    obtain ⟨write, notRead, fresh, response, room, foreign⟩ :=
      (parseWrite_zero clean size₁ rfl).mp ⟨out, parsed⟩
    exact ⟨source, group, ⟨fields, room, size₂⟩, write, notRead, fresh, response, foreign⟩
  · rintro ⟨source, group, ⟨fields, room, size₂⟩, write, notRead, fresh, response, foreign⟩
    have clean := addrFields_clean line.2 fields
    let data : KnxData := { hwAddr := padded source, groupAddr := padded group }
    obtain ⟨out, parsed⟩ : ∃ out, parseWrite line.1 data = .ok (0, out) := by
      apply (parseWrite_zero clean room.le rfl).mpr
      exact ⟨write, notRead, fresh, response, room, foreign⟩
    exact ⟨out, data, ⟨source, group, fields, room.le, size₂, rfl⟩, parsed⟩

def hexByte (rest : Text) : Bool := (smallPayload rest).isSome

theorem hexByte_of_payload {rest : Text} {value : Nat} (read : payload rest = some value) :
    hexByte rest = true := by
  -- both formats start with the same conversion
  have first : ∀ (more : List Directive), sscanf (.conv .x (some 2) :: more) rest ≠ [] →
      ∃ n, sscanf [.conv .x (some 2)] rest = [n] := by
    intro more assigned
    simp only [sscanf, scan] at assigned ⊢
    split at assigned
    · simp at assigned
    · split at assigned
      · simp at assigned
      · simp_all
  have assigned : sscanf [.conv .x (some 2), .space, .conv .x (some 2)] rest ≠ [] := by
    intro none
    simp [payload, none] at read
  obtain ⟨n, one⟩ := first _ assigned
  simp [hexByte, smallPayload, one]

def groupValueKeys : List Text :=
  [groupWriteSmallKey, groupWriteKey, groupResponseSmallKey, groupResponseKey]

/-- A group value the gateway may act on: a write or response service followed
by a payload byte, sent once, by another device. -/
structure GroupValue (line source : Text) : Prop where
  service : ∃ key ∈ groupValueKeys, ∃ before after, line = before ++ key ++ after ∧ hexByte after
  fresh : ¬ repeatedKey <:+: line
  foreign : isOwnAddr (knxHwAddr source) = false

theorem split_at_strstr {key line : Text} (found : strstr key line = some i) :
    line = line.take i ++ key ++ line.drop (i + key.length) := by
  obtain ⟨rest, here⟩ := strstr_spec found
  have tail : rest = line.drop (i + key.length) := by
    rw [← List.drop_drop, ← here, List.drop_left]
  rw [← tail, List.append_assoc, here, List.take_append_drop]

theorem groupService_value {smallKey key line : Text} {value : Nat}
    (read : groupService smallKey key line = .value value) :
    ∃ k ∈ [smallKey, key], ∃ before after, line = before ++ k ++ after ∧ hexByte after := by
  unfold groupService at read
  split at read
  · rename_i i found
    refine ⟨smallKey, by simp, _, _, split_at_strstr found, ?_⟩
    cases payload : smallPayload (line.drop (i + smallKey.length)) with
    | none => simp [payload] at read
    | some l => simp [hexByte, payload]
  · split at read
    · rename_i i found
      refine ⟨key, by simp, _, _, split_at_strstr found, ?_⟩
      cases payload : payload (line.drop (i + key.length)) with
      | none => simp [payload] at read
      | some l => exact hexByte_of_payload payload
    · contradiction

theorem groupService_absent {smallKey key line : Text} (small : key <+: smallKey) :
    groupService smallKey key line = .absent ↔ ¬ key <:+: line := by
  have smaller : smallKey <:+: line → key <:+: line := small.isInfix.trans
  rw [groupService]
  split
  · rename_i i found
    have named : smallKey <:+: line := strstr_isSome.mp (by simp [found])
    cases smallPayload (line.drop (i + smallKey.length)) <;> simp [smaller named]
  · split
    · rename_i i found
      have named : key <:+: line := strstr_isSome.mp (by simp [found])
      cases payload (line.drop (i + key.length)) <;> simp [named]
    · rename_i found
      simpa using strstr_eq_none.mp found

/-- A telegram reaches the table or the queue only if it is a group value. -/
structure OnlyGroupValues (line : Text) : Prop where
  parsed : ∀ data, knxParsePacket line {} = .ok (0, data) →
    ∃ source group, addrFields line = some (source, group) ∧ GroupValue line source
  otherwise : (¬ ∃ source group, addrFields line = some (source, group) ∧ GroupValue line source) →
    ∀ now monitor after, busMonitorStep line now monitor = .ok after → after = monitor

/-- Something in the line makes the parser decide: one of the group services,
the repetition flag, or an address of the gateway. -/
def Decided (line source : Text) : Prop :=
  groupWriteKey <:+: line ∨ groupReadKey <:+: line ∨ repeatedKey <:+: line ∨
    groupResponseKey <:+: line ∨ isOwnAddr (knxHwAddr source) = true

theorem Accepted.groupValue {line source group : Text} (accepted : Accepted line source group)
    (decided : Decided line source) : GroupValue line source := by
  refine ⟨?_, accepted.fresh, accepted.foreign⟩
  have named : groupWriteKey <:+: line ∨ groupResponseKey <:+: line := by
    rcases decided with write | read | repeated | response | own
    · exact .inl write
    · exact absurd read accepted.notRead
    · exact absurd repeated accepted.fresh
    · exact .inr response
    · exact absurd own (by simp [accepted.foreign])
  rcases named with write | response
  · cases service : writeService line with
    | absent => exact absurd write ((groupService_absent (by decide)).mp service)
    | malformed => exact absurd service accepted.write
    | value value =>
      obtain ⟨key, mem, found⟩ := groupService_value service
      exact ⟨key, List.mem_append_left [groupResponseSmallKey, groupResponseKey] mem, found⟩
  · cases service : responseService line with
    | absent => exact absurd response ((groupService_absent (by decide)).mp service)
    | malformed => exact absurd service accepted.response
    | value value =>
      obtain ⟨key, mem, found⟩ := groupService_value service
      exact ⟨key, List.mem_append_right [groupWriteSmallKey, groupWriteKey] mem, found⟩

/-- A line without any of the services passes all the tests. -/
theorem accepted_of_undecided {line source group : Text} (fits : Fits line source group)
    (undecided : ¬ Decided line source) : Accepted line source group := by
  simp only [Decided, not_or] at undecided
  obtain ⟨write, notRead, fresh, response, foreign⟩ := undecided
  have noWrite : writeService line = .absent := (groupService_absent (by decide)).mpr write
  have noResponse : responseService line = .absent := (groupService_absent (by decide)).mpr response
  exact ⟨fits, by simp [noWrite], notRead, fresh, by simp [noResponse], by simpa using foreign⟩

theorem GroupValue.decided {line source : Text} (telegram : GroupValue line source) :
    Decided line source := by
  obtain ⟨key, mem, before, after, rfl, -⟩ := telegram.service
  have named {k : Text} (within : k <+: key) : k <:+: before ++ key ++ after :=
    within.isInfix.trans ⟨before, after, rfl⟩
  have covers : ∀ k ∈ groupValueKeys, groupWriteKey <+: k ∨ groupResponseKey <+: k := by decide
  have which := covers key mem
  rcases which with write | response
  · exact .inl (named write)
  · exact .inr (.inr (.inr (.inl (named response))))

theorem busMonitorStep_rejected {line : Text} {now : Nat} {monitor after : Monitor}
    (rejected : ∀ data, knxParsePacket line {} ≠ .ok (0, data))
    (step : busMonitorStep line now monitor = .ok after) : after = monitor := by
  simp only [busMonitorStep, bind_eq_ok] at step
  obtain ⟨⟨ret, data⟩, parsed, step⟩ := step
  have failed : ret ≠ 0 := by
    rintro rfl
    exact rejected data parsed
  simp only [ne_eq, failed, not_false_eq_true, if_true, pure_eq_ok] at step
  exact step.symm

theorem only_group_values_iff (line : Line) :
    OnlyGroupValues line.1 ↔ ∀ source group, Fits line.1 source group → Decided line.1 source := by
  constructor
  · intro only source group fits
    by_contra undecided
    obtain ⟨data, parsed⟩ := (knxParsePacket_zero line).mpr
      ⟨source, group, accepted_of_undecided fits undecided⟩
    obtain ⟨source', group', fields, telegram⟩ := only.parsed data parsed
    have same := fits.fields.symm.trans fields
    simp only [Option.some.injEq, Prod.mk.injEq] at same
    exact undecided (same.1 ▸ telegram.decided)
  · intro decided
    have parsed : ∀ data, knxParsePacket line.1 {} = .ok (0, data) →
        ∃ source group, addrFields line.1 = some (source, group) ∧ GroupValue line.1 source := by
      intro data parsed
      obtain ⟨source, group, accepted⟩ := (knxParsePacket_zero line).mp ⟨data, parsed⟩
      exact ⟨source, group, accepted.fits.fields,
        accepted.groupValue (decided source group accepted.fits)⟩
    refine ⟨parsed, ?_⟩
    intro other now monitor after step
    exact busMonitorStep_rejected (fun data zero => other (parsed data zero)) step

/-- A memory service between two devices. -/
def memoryRead : Text :=
  "L_Data low from 1.1.5 to 1.1.7 hops: 06 T_Data_Connected A_Memory_Read 01".toList

/-- What the report handlers are given for it: group `1.1.7` reads as `0/0/1`. -/
def memoryReadData : KnxData :=
  { hwAddr := padded "1.1.5".toList, groupAddr := padded "1.1.7".toList, phy := 0x1105 }

theorem memoryRead_accepted :
    knxParsePacket memoryRead {} = .ok (0, memoryReadData) ∧
      busMonitorStep memoryRead 0 ⟨[], []⟩ = .ok ⟨[], [memoryReadData]⟩ ∧
      ¬ OnlyGroupValues memoryRead := by
  have parsed : knxParsePacket memoryRead {} = .ok (0, memoryReadData) := by decide
  refine ⟨parsed, by decide, ?_⟩
  intro only
  obtain ⟨source, group, fields, telegram⟩ := only.parsed memoryReadData parsed
  have cutOut : addrFields memoryRead = some ("1.1.5".toList, "1.1.7".toList) := by decide
  have undecided : ¬ Decided memoryRead "1.1.5".toList := by
    rw [Decided]
    decide +kernel
  rw [cutOut, Option.some.injEq, Prod.mk.injEq] at fields
  exact undecided (fields.1 ▸ telegram.decided)

end HiMaxGateway.Knx
