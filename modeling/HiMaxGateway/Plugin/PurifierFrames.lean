import HiMaxGateway.Plugin.ParseBounds

/-! What `Modbus_Purifier.c` sends and takes for its own package. -/
namespace HiMaxGateway.Plugin.Purifier
open CRun

variable {buf : List UInt8} {devId : UInt8}

/-- A word of the device, low byte first. -/
def word (buf : List UInt8) (k : Nat) : Nat :=
  (buf.getD k 0).toNat + 256 * (buf.getD (k + 1) 0).toNat

/-- The points of a status: the four meters together, what is dissolved, the time of the filter. -/
def statusObjs (buf : List UInt8) : List ParsedObj :=
  [⟨.purifierFlow, UInt32.ofNat ((word buf 4 + word buf 6 + word buf 8 + word buf 10) % 65536), 0⟩,
    ⟨.purifierTds, UInt32.ofNat (word buf 20), 0⟩,
    ⟨.purifierPpFilterTime, UInt32.ofNat (word buf 12), 0⟩, ⟨.purifierReset, 0, 0⟩]

/-- The result of a reset: four zeros tell that it was done. -/
def resetObjs (buf : List UInt8) : List ParsedObj :=
  if [buf.getD 4 0, buf.getD 5 0, buf.getD 6 0, buf.getD 7 0] = [0, 0, 0, 0] then
    [⟨.purifierReset, 1, 0⟩]
  else [{}]

theorem byteAt_getD (inside : k < buf.length) : byteAt buf 0 k = .ok (buf.getD k 0) := by
  rw [byteAt_eq_ok, Nat.zero_add, List.getD_eq_getElem?_getD, List.getElem?_eq_getElem inside]
  rfl

theorem wordLow_eq (inside : k + 1 < buf.length) :
    wordLow buf k = .ok (UInt32.ofNat (word buf k)) := by
  have high := (buf.getD (k + 1) 0).toNat_lt
  have low := (buf.getD k 0).toNat_lt
  rw [wordLow, byteAt_getD inside, byteAt_getD (by omega)]
  refine congrArg Except.ok (UInt32.toNat_inj.mp ?_)
  simp [word, Nat.shiftLeft_eq]
  omega

theorem word_lt (buf : List UInt8) (k : Nat) : word buf k < 65536 := by
  have high := (buf.getD (k + 1) 0).toNat_lt
  have low := (buf.getD k 0).toNat_lt
  unfold word
  omega

/-- The meters do not leave 32 bits before they are cut to 16. -/
theorem total_eq (buf : List UInt8) :
    (UInt32.ofNat (word buf 4) + UInt32.ofNat (word buf 6) + UInt32.ofNat (word buf 8) +
        UInt32.ofNat (word buf 10)) % 65536 =
      UInt32.ofNat ((word buf 4 + word buf 6 + word buf 8 + word buf 10) % 65536) := by
  have w4 := word_lt buf 4
  have w6 := word_lt buf 6
  have w8 := word_lt buf 8
  have w10 := word_lt buf 10
  apply UInt32.toNat_inj.mp
  simp
  omega

/-- A right package names its length in the byte the function code is taken from. -/
theorem checked_size (checked : checkPackage devId buf = .ok true) :
    ∃ size, byteAt buf 0 2 = .ok size ∧ size.toNat = byteLen buf := by
  obtain ⟨size, third, whole⟩ := (checkPackage_ends true checked).2 rfl
  exact ⟨size, byteAt_eq_ok.mpr third, whole⟩

theorem parse_status (checked : checkPackage devId buf = .ok true) (four : byteLen buf = 4)
    (enough : 22 ≤ buf.length) : parse devId buf = .ok (some (statusObjs buf)) := by
  obtain ⟨size, third, whole⟩ := checked_size checked
  have isRead : size = readCode := UInt8.toNat_inj.mp (whole.trans four)
  subst isRead
  have w4 : wordLow buf 4 = _ := wordLow_eq (by omega)
  have w6 : wordLow buf 6 = _ := wordLow_eq (by omega)
  have w8 : wordLow buf 8 = _ := wordLow_eq (by omega)
  have w10 : wordLow buf 10 = _ := wordLow_eq (by omega)
  have w20 : wordLow buf 20 = _ := wordLow_eq (by omega)
  have w12 : wordLow buf 12 = _ := wordLow_eq (by omega)
  rw [parse, checked]
  simp only [bind, Except.bind, third, w4, w6, w8, w10, w20, w12, total_eq]
  rfl

theorem parse_reset (checked : checkPackage devId buf = .ok true) (five : byteLen buf = 5)
    (enough : 8 ≤ buf.length) : parse devId buf = .ok (some (resetObjs buf)) := by
  obtain ⟨size, third, whole⟩ := checked_size checked
  have isReset : size = resetCode := UInt8.toNat_inj.mp (whole.trans five)
  subst isReset
  have b4 := byteAt_getD (show 4 < buf.length by omega)
  have b5 := byteAt_getD (show 5 < buf.length by omega)
  have b6 := byteAt_getD (show 6 < buf.length by omega)
  have b7 := byteAt_getD (show 7 < buf.length by omega)
  rw [parse, checked]
  simp only [bind, Except.bind, third, b4, b5, b6, b7, Bool.not_true, Bool.false_eq_true, if_false,
    if_true]
  rw [if_neg (by decide), resetObjs]
  split <;> rfl

/-- The length decides which answer is read. -/
theorem parse_length (checked : checkPackage devId buf = .ok true) :
    Gives (fun objs => byteLen buf = 4 ∧ objs.length = 4 ∨
        byteLen buf = 5 ∧ 8 ≤ buf.length ∧ objs.length = 1)
      (parse devId buf) := by
  obtain ⟨size, third, whole⟩ := checked_size checked
  unfold parse
  refine .bind fun ok _ => .ite (fun _ => gives_none) fun _ => .bind fun code read => ?_
  obtain rfl : size = code := Except.ok.inj (third.symm.trans read)
  refine .ite (fun isRead => ?_) fun _ => .ite (fun isReset => ?_) fun _ => gives_none
  · refine .bind fun w4 _ => .bind fun w6 _ => .bind fun w8 _ => .bind fun w10 _ => ?_
    refine .bind fun tds _ => .bind fun filterTime _ => gives_some (.inl ⟨?_, rfl⟩)
    rw [← whole, isRead]
    rfl
  · refine .bind fun b4 _ => .bind fun b5 _ => .bind fun b6 _ => .bind fun b7 last => ?_
    have enough := byteAt_lt last
    have five : byteLen buf = 5 := by
      rw [← whole, isReset]
      rfl
    exact .ite (fun _ => gives_some (.inr ⟨five, by omega, rfl⟩)) fun _ =>
      gives_some (.inr ⟨five, by omega, rfl⟩)

theorem length_resetObjs (buf : List UInt8) : (resetObjs buf).length = 1 := by
  unfold resetObjs
  split <;> rfl

/-- The two frames that are sent. -/
theorem build_frame (built : build devId pObj = .ok (some frame)) :
    frame = [header, devId, 5, 4, 9] ∨
      frame = [header, devId, 9, 5, 0x55, 0x55, 0x55, 0x55, 0x62] := by
  cases pObj with
  | none =>
    have asked : build devId none = .ok (some [header, devId, 5, 4, 9]) := rfl
    cases asked.symm.trans built
    exact .inl rfl
  | some obj =>
    rw [build] at built
    split at built
    · have reset : package devId [resetLength, resetCode, 0x55, 0x55, 0x55, 0x55] =
          .ok [header, devId, 9, 5, 0x55, 0x55, 0x55, 0x55, 0x62] := rfl
      rw [reset] at built
      cases built
      exact .inr rfl
    · cases built

/-- The checksum of a frame leaves out the address. -/
theorem build_checked_iff (built : build devId pObj = .ok (some frame)) :
    checkPackage devId frame = .ok true ↔ devId = 0 := by
  rcases build_frame built with rfl | rfl <;> clear built <;> revert devId <;> apply forall_byte
  · decide +kernel
  · decide +kernel

/-- What the purifier sends is right for the address 0 only, and a right package is read by its
function code only if its length is that code, too. -/
theorem purifier_frames_iff (devId : UInt8) :
    ((∀ pObj frame, build devId pObj = .ok (some frame) → checkPackage devId frame = .ok true) ↔
        devId = 0) ∧
      ∀ buf, checkPackage devId buf = .ok true →
        (buf[3]? = some readCode → 23 ≤ buf.length →
          (parse devId buf = .ok (some (statusObjs buf)) ↔ byteLen buf = 4)) ∧
        (buf[3]? = some resetCode →
          (parse devId buf = .ok (some (resetObjs buf)) ↔ byteLen buf = 5 ∧ 8 ≤ buf.length)) := by
  refine ⟨⟨fun passes => ?_, ?_⟩,
      fun buf checked => ⟨fun _ enough => ⟨fun parsed => ?_, ?_⟩, fun _ =>
    ⟨fun parsed => ?_, ?_⟩⟩⟩
  · have asked : build devId none = .ok (some [header, devId, 5, 4, 9]) := rfl
    exact (build_checked_iff asked).mp (passes none _ asked)
  · intro zero pObj frame built
    exact (build_checked_iff built).mpr zero
  · rcases parse_length checked _ parsed _ rfl with ⟨four, -⟩ | ⟨-, -, one⟩
    · exact four
    · cases one
  · exact fun four => parse_status checked four (by omega)
  · rcases parse_length checked _ parsed _ rfl with ⟨-, four⟩ | ⟨five, eight, -⟩
    · rw [length_resetObjs] at four
      cases four
    · exact ⟨five, eight⟩
  · exact fun ⟨five, eight⟩ => parse_reset checked five eight

/-- The read of a purifier with the address 1, and a status of 23 bytes. -/
theorem purifier_first_refused :
    (∃ frame, build 1 none = .ok (some frame) ∧ checkPackage 1 frame = .ok false) ∧
      ∃ buf, checkPackage 1 buf = .ok true ∧ buf[3]? = some readCode ∧ buf.length = 23 ∧
        parse 1 buf = .ok none :=
  ⟨⟨[header, 1, 5, 4, 9], rfl, rfl⟩,
    ⟨[0xAA, 1, 23, 4, 0, 0, 0, 0, 0, 0, 0, 0, 0, 0, 0, 0, 0, 0, 0, 0, 0, 0, 28], rfl, rfl, rfl,
      rfl⟩⟩

/-- The address 0, and a status of 260 bytes, whose length is its function code in eight bits. -/
theorem purifier_frames_zero :
    (∀ pObj frame, build 0 pObj = .ok (some frame) → checkPackage 0 frame = .ok true) ∧
      parse 0 ([0xAA, 0, 4, 4] ++ List.replicate 256 7) =
        .ok (some (statusObjs ([0xAA, 0, 4, 4] ++ List.replicate 256 7))) :=
  ⟨(purifier_frames_iff 0).1.mpr rfl,
    (((purifier_frames_iff 0).2 _ (by decide +kernel)).1 rfl (by decide +kernel)).mpr
      (by decide +kernel)⟩

end HiMaxGateway.Plugin.Purifier
