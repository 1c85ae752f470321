import HiMaxGateway.Plugin.AcdDaikin
import HiMaxGateway.Plugin.Heat
import HiMaxGateway.Plugin.Locate
import HiMaxGateway.Plugin.Room
import HiMaxGateway.Plugin.Vent
import HiMaxGateway.Plugin.ZhongHongProofs

/-! Which received buffers `parse` reads beyond their end, or leads outside the cache. -/
namespace HiMaxGateway.Plugin
open CRun

variable {buf : List UInt8} {pos k : Nat} {devId : UInt8} {regAddr : UInt16}

theorem getElem?_there {i : Nat} : (∃ byte, buf[i]? = some byte) ↔ i < buf.length := by
  constructor
  · rintro ⟨byte, there⟩
    exact (List.getElem?_eq_some_iff.mp there).1
  · exact fun inside => ⟨_, List.getElem?_eq_getElem inside⟩

theorem returns_byteAt_bind {next : UInt8 → Result α} :
    Returns (byteAt buf pos k >>= next) ↔
      ∃ byte, buf[pos + k]? = some byte ∧ Returns (next byte) := by
  rw [returns_bind]
  simp only [byteAt_eq_ok]

theorem returns_byte {next : UInt8 → Result α} (inside : pos + k < buf.length)
    (rest : ∀ byte, buf[pos + k]? = some byte → Returns (next byte)) :
    Returns (byteAt buf pos k >>= next) := by
  obtain ⟨byte, there⟩ := getElem?_there.mpr inside
  exact returns_byteAt_bind.mpr ⟨byte, there, rest byte there⟩

theorem returns_word {next : UInt32 → Result α} (inside : pos + k + 1 < buf.length)
    (rest : ∀ word, Returns (next word)) : Returns (wordAt buf pos k >>= next) := by
  unfold wordAt
  simp only [bind_assoc, pure_bind]
  exact returns_byte (by omega) fun high _ => returns_byte inside fun low _ => rest _

/-- The bytes that were read are there. -/
theorem byteAt_lt (read : byteAt buf pos k = .ok byte) : pos + k < buf.length :=
  getElem?_there.mp ⟨byte, byteAt_eq_ok.mp read⟩

theorem wordAt_lt (read : wordAt buf pos k = .ok word) : pos + k + 1 < buf.length := by
  obtain ⟨high, -, rest⟩ := bind_eq_ok.mp read
  obtain ⟨low, second, -⟩ := bind_eq_ok.mp rest
  exact byteAt_lt second

-- What each plugin needs of a buffer. The first three look for a frame and test its length before
-- they know its function code.

namespace Daikin

/-- The unit whose register a write names. -/
def unitAt (buf : List UInt8) (pos : Nat) : Option Nat := do
  let high ← buf[pos + 2]?
  let low ← buf[pos + 3]?
  pure (((high.toUInt16 <<< 8) + low.toUInt16 - regBase) / 3).toNat

/-- A status reply with fewer bytes than its fields take. -/
def TooShort (devId : UInt8) (buf : List UInt8) : Prop :=
  ∃ pos, findFrame devId readCode writeCode 8 8 buf = some pos ∧ buf[pos + 1]? = some readCode ∧
    buf.length < pos + 13

/-- A frame about a unit the cache has no row for. -/
def Outside (devId : UInt8) (regAddr : UInt16) (buf : List UInt8) : Prop :=
  ∃ pos, findFrame devId readCode writeCode 8 8 buf = some pos ∧
    (buf[pos + 1]? = some readCode ∧ 16 ≤ regAddr.toNat ∨
      buf[pos + 1]? = some writeCode ∧ ∃ unit, unitAt buf pos = some unit ∧ 16 ≤ unit)

theorem row_eq_ok {index : UInt16} :
    row index = .ok air ↔ index.toNat < 16 ∧ air = index.toNat := by
  unfold row
  by_cases inside : index.toNat < 16
  · simp [inside, eq_comm]
  · simp [inside]

theorem returns_parse (complete : ¬TooShort devId buf) (cached : ¬Outside devId regAddr buf) :
    Returns (parse devId regAddr buf) := by
  unfold parse
  refine .ite (fun _ => .pure) fun _ => ?_
  cases found : findFrame devId readCode writeCode 8 8 buf with
  | none => exact .pure
  | some pos =>
    obtain ⟨inside, -, enough⟩ := findFrame_some found
    have length := frameLen_le buf
    have eight : pos + 8 ≤ buf.length := by omega
    refine returns_byte (by omega) fun code there => .ite (fun asked => ?_) fun _ =>
      .ite (fun told => ?_) fun _ => .pure
    · subst asked
      have thirteen : pos + 13 ≤ buf.length := by
        by_contra short
        exact complete ⟨pos, found, there, by omega⟩
      have inRow : regAddr.toNat < 16 := by
        by_contra outside
        exact cached ⟨pos, found, .inl ⟨there, by omega⟩⟩
      refine .bind (row_eq_ok.mpr ⟨inRow, rfl⟩) ?_
      refine returns_byte (by omega) fun p3 _ => returns_byte (by omega) fun p4 _ => ?_
      refine returns_byte (by omega) fun p5 _ => returns_byte (by omega) fun p6 _ => ?_
      refine returns_byte (by omega) fun p7 _ => returns_byte (by omega) fun p8 _ => ?_
      refine returns_byte (by omega) fun p10 _ => returns_byte (by omega) fun p11 _ => ?_
      exact returns_byte (by omega) fun p12 _ => .pure
    · subst told
      refine returns_byte (by omega) fun high third => returns_byte (by omega) fun low fourth => ?_
      have inRow : (((high.toUInt16 <<< 8) + low.toUInt16 - regBase) / 3).toNat < 16 := by
        by_contra outside
        have named : unitAt buf pos =
            some (((high.toUInt16 <<< 8) + low.toUInt16 - regBase) / 3).toNat := by
          simp only [unitAt, third, fourth]
          rfl
        exact cached ⟨pos, found, .inr ⟨there, _, named, Nat.le_of_not_lt outside⟩⟩
      refine .bind (row_eq_ok.mpr ⟨inRow, rfl⟩) ?_
      refine returns_byte (by omega) fun p4 _ => returns_byte (by omega) fun p5 _ => ?_
      exact .ite (fun _ => .pure) fun _ => .ite (fun _ => .pure) fun _ => .pure

theorem parse_complete :
    Ends (fun _ => ¬TooShort devId buf ∧ ¬Outside devId regAddr buf) (parse devId regAddr buf) := by
  cases found : findFrame devId readCode writeCode 8 8 buf with
  | none =>
    intro act _
    constructor
    · rintro ⟨pos, other, -⟩
      cases found.symm.trans other
    · rintro ⟨pos, other, -⟩
      cases found.symm.trans other
  | some pos =>
    obtain ⟨inside, -, enough⟩ := findFrame_some found
    unfold parse
    rw [if_neg (by omega), found]
    refine .bind fun code there => ?_
    have second := byteAt_eq_ok.mp there
    refine .ite (fun asked => ?_) fun notAsked => .ite (fun told => ?_) fun notTold => ?_
    · subst asked
      refine .bind fun air inRow => .bind fun p3 _ => .bind fun p4 _ => .bind fun p5 _ => ?_
      refine .bind fun p6 _ => .bind fun p7 _ => .bind fun p8 _ => .bind fun p10 _ => ?_
      refine .bind fun p11 _ => .bind fun p12 last => .pure ⟨?_, ?_⟩
      · rintro ⟨pos, same, -, short⟩
        cases found.symm.trans same
        have := byteAt_lt last
        omega
      · rintro ⟨pos, same, ⟨-, outside⟩ | ⟨written, -⟩⟩
        · exact absurd (row_eq_ok.mp inRow).1 (Nat.not_lt.mpr outside)
        · cases found.symm.trans same
          exact absurd (second.symm.trans written) (by decide)
    · subst told
      refine .bind fun high third => .bind fun low fourth => .bind fun air inRow => ?_
      have inside := (row_eq_ok.mp inRow).1
      have kept : ¬TooShort devId buf ∧ ¬Outside devId regAddr buf := by
        constructor
        · rintro ⟨pos, same, asked, -⟩
          cases found.symm.trans same
          exact absurd (second.symm.trans asked) (by decide)
        · rintro ⟨pos, same, ⟨asked, -⟩ | ⟨-, unit, named, outside⟩⟩
          · cases found.symm.trans same
            exact absurd (second.symm.trans asked) (by decide)
          · cases found.symm.trans same
            simp only [unitAt, byteAt_eq_ok.mp third, byteAt_eq_ok.mp fourth] at named
            cases named
            exact absurd inside (Nat.not_lt.mpr outside)
      exact .bind fun p4 _ => .bind fun p5 _ =>
        .ite (fun _ => .pure kept) fun _ => .ite (fun _ => .pure kept) fun _ => .pure kept
    · exfalso
      obtain ⟨known, -⟩ | ⟨known, -⟩ := enough
      · exact notAsked (Option.some.inj (second.symm.trans known))
      · exact notTold (Option.some.inj (second.symm.trans known))

end Daikin

namespace Honeywell

/-- A status reply with fewer bytes than its fields take. -/
def TooShort (devId : UInt8) (buf : List UInt8) : Prop :=
  ∃ pos, findFrame devId readCode writeCode 7 7 buf = some pos ∧ buf[pos + 1]? = some readCode ∧
    buf.length < pos + 11

theorem returns_parse (complete : ¬TooShort devId buf) : Returns (parse devId buf) := by
  unfold parse
  refine .ite (fun _ => .pure) fun _ => ?_
  cases found : findFrame devId readCode writeCode 7 7 buf with
  | none => exact .pure
  | some pos =>
    obtain ⟨inside, -, enough⟩ := findFrame_some found
    have length := frameLen_le buf
    have seven : pos + 7 ≤ buf.length := by omega
    refine returns_byte (by omega) fun code there => .ite (fun asked => ?_) fun _ => ?_
    · have eleven : pos + 11 ≤ buf.length := by
        by_contra short
        exact complete ⟨pos, found, asked ▸ there, by omega⟩
      exact returns_byte (by omega) fun switch _ => returns_word (by omega) fun temp =>
        returns_word (by omega) fun roomTemp => .pure
    refine .ite (fun _ => returns_word (by omega) fun reg => ?_) fun _ => .pure
    refine .ite (fun _ => returns_byte (by omega) fun switch _ => .pure) fun _ => ?_
    exact .ite (fun _ => returns_word (by omega) fun temp => .pure) fun _ => .pure

theorem parse_complete : Ends (fun _ => ¬TooShort devId buf) (parse devId buf) := by
  cases found : findFrame devId readCode writeCode 7 7 buf with
  | none =>
    rintro out - ⟨pos, other, -⟩
    cases found.symm.trans other
  | some pos =>
    obtain ⟨inside, -, enough⟩ := findFrame_some found
    unfold parse
    rw [if_neg (by omega), found]
    refine .bind fun code second => .ite (fun asked => ?_) fun notAsked => ?_
    · refine .bind fun switch _ => .bind fun temp last => .bind fun roomTemp _ => .pure ?_
      rintro ⟨pos, same, -, short⟩
      cases found.symm.trans same
      have := wordAt_lt last
      omega
    · rintro out - ⟨pos, same, asked, -⟩
      cases found.symm.trans same
      exact notAsked (Option.some.inj ((byteAt_eq_ok.mp second).symm.trans asked))

end Honeywell

namespace ZhongHong

/-- A status reply with fewer bytes than its fields take. -/
def TooShort (devId : UInt8) (buf : List UInt8) : Prop :=
  ∃ pos, findCmd devId buf = some pos ∧ buf[pos + 1]? = some readCmdStatus ∧ buf.length < pos + 11

theorem returns_parse (complete : ¬TooShort devId buf) : Returns (parse devId buf) := by
  cases found : findCmd devId buf with
  | none =>
    unfold parse
    rw [found]
    exact .ite (fun _ => .pure) fun _ => .pure
  | some pos =>
    obtain ⟨enough, -, code, known, second⟩ := findCmd_some found
    have length := frameLen_le buf
    obtain write | status := List.mem_append.mp known
    · obtain ⟨byte, third⟩ := getElem?_there.mpr (show pos + 2 < buf.length by omega)
      exact ⟨_, parse_found found second third write⟩
    · obtain rfl : code = readCmdStatus := List.mem_singleton.mp status
      have eleven : pos + 10 < buf.length := by
        by_contra short
        exact complete ⟨pos, found, second, by omega⟩
      obtain ⟨_, _, _, _, _, -, -, -, -, -, parsed⟩ := parse_taken ⟨found, second, fun _ => eleven⟩
      exact ⟨_, parsed⟩

theorem parse_complete : Ends (fun _ => ¬TooShort devId buf) (parse devId buf) := by
  rintro out parsed ⟨pos, found, second, short⟩
  rw [parse_cut found second (by omega)] at parsed
  cases parsed

end ZhongHong

theorem byteLen_le (buf : List UInt8) : byteLen buf ≤ buf.length :=
  Nat.le_trans (Nat.mod_le _ _) (frameLen_le buf)

theorem returns_checkCrc (codes : List UInt8) (devId : UInt8) (buf : List UInt8) :
    Returns (checkCrc codes devId buf) := by
  have length := byteLen_le buf
  unfold checkCrc
  refine .ite (fun _ => .pure) fun long => ?_
  refine returns_byte (by omega) fun high _ => returns_byte (by omega) fun low _ => ?_
  refine .ite (fun _ => .pure) fun _ => returns_byte (by omega) fun first _ => ?_
  exact .ite (fun _ => .pure) fun _ => returns_byte (by omega) fun second _ => .pure

theorem returns_checkSum {stop : Nat} (inside : stop ≤ buf.length) :
    Returns (checkSum buf stop) := by
  have every (indices : List Nat) (there : ∀ i ∈ indices, i < buf.length) (sum : UInt8) :
      Returns (indices.foldlM (fun sum i => do pure (sum + (← byteAt buf 0 i))) sum) := by
    induction indices generalizing sum with
    | nil => exact .pure
    | cons i rest ih =>
      obtain ⟨byte, first⟩ := getElem?_there.mpr (there i List.mem_cons_self)
      have read : byteAt buf 0 i = .ok byte := byteAt_eq_ok.mpr (by rwa [Nat.zero_add])
      rw [List.foldlM_cons]
      refine .bind (bind_eq_ok.mpr ⟨byte, read, rfl⟩) ?_
      exact ih (fun j later => there j (List.mem_cons_of_mem _ later)) _
  apply every
  intro i member
  rw [List.mem_range'_1] at member
  omega

theorem checkCrc_code {codes : List UInt8} (checked : checkCrc codes devId buf = .ok true) :
    ∃ code ∈ codes, buf[1]? = some code := by
  have ends : Ends (fun ok => ok = true → ∃ code ∈ codes, buf[1]? = some code)
      (checkCrc codes devId buf) := by
    unfold checkCrc
    refine .ite (fun _ => .pure (by simp)) fun _ => .bind fun high _ => .bind fun low _ => ?_
    refine .ite (fun _ => .pure (by simp)) fun _ => .bind fun first _ => ?_
    refine .ite (fun _ => .pure (by simp)) fun _ => .bind fun second there => .pure fun known => ?_
    exact ⟨second, by simpa using known, byteAt_eq_ok.mp there⟩
  exact ends true checked rfl

namespace Towwire

/-- A reply with fewer bytes than the fields of its function code take. -/
def TooShort (buf : List UInt8) : Prop :=
  buf[1]? = some readCode ∧ buf.length < 9 ∨ buf[1]? = some writeCode ∧ buf.length < 6

/-- What a package with a right checksum has to bring along. -/
def Whole (devId : UInt8) (buf : List UInt8) : Prop :=
  checkCrc [readCode, writeCode] devId buf = .ok true →
    (buf[1]? = some readCode → 9 ≤ buf.length) ∧
    (buf[1]? = some writeCode → 4 ≤ buf.length ∧
      ∀ register, buf[3]? = some register → dataPoint register ∈ [0, 1, 2] → 6 ≤ buf.length)

theorem returns_parse (whole : Whole devId buf) : Returns (parse devId buf) := by
  obtain ⟨ok, checked⟩ := returns_checkCrc [readCode, writeCode] devId buf
  unfold parse
  refine .bind checked ?_
  cases ok with
  | false => exact .pure
  | true =>
    obtain ⟨code, known, second⟩ := checkCrc_code checked
    obtain ⟨asked, told⟩ := whole checked
    refine .bind (byteAt_eq_ok.mpr second) (.ite (fun isRead => ?_) fun notRead => ?_)
    · have nine := asked (isRead ▸ second)
      exact returns_byte (by omega) fun switch _ => returns_word (by omega) fun temp =>
        returns_word (by omega) fun envTemp => .pure
    · obtain rfl : code = writeCode := by simpa [notRead] using known
      obtain ⟨four, six⟩ := told second
      refine returns_byte (by omega) fun register fourth => ?_
      rw [Nat.zero_add] at fourth
      refine .ite (fun switch => ?_) fun _ => .ite (fun temp => ?_) fun _ => .pure
      · have enough := six register fourth (by simp [switch])
        exact returns_byte (by omega) fun value _ => .pure
      · have enough := six register fourth (by simpa using .inr temp)
        exact returns_word (by omega) fun value => .pure

theorem parse_whole :
    Ends (fun out => Whole devId buf ∧ (TooShort buf → out = none)) (parse devId buf) := by
  unfold parse
  refine .bind fun ok checked => .ite (fun wrong => ?_) fun right => .bind fun code there => ?_
  · obtain rfl : ok = false := by simpa using wrong
    refine .pure ⟨?_, fun _ => rfl⟩
    intro passed
    cases checked.symm.trans passed
  obtain rfl : ok = true := by simpa using right
  have second : buf[1]? = some code := byteAt_eq_ok.mp there
  refine .ite (fun asked => ?_) fun notAsked => .bind fun register third => ?_
  · subst asked
    refine .bind fun switch _ => .bind fun temp _ => .bind fun envTemp last => .pure ⟨?_, ?_⟩
    · intro _
      have := wordAt_lt last
      exact ⟨fun _ => by omega, fun told => absurd (second.symm.trans told) (by decide)⟩
    · rintro (⟨-, short⟩ | ⟨told, -⟩)
      · have := wordAt_lt last
        omega
      · exact absurd (second.symm.trans told) (by decide)
  · have fourth : buf[3]? = some register := byteAt_eq_ok.mp third
    have four := byteAt_lt third
    obtain ⟨code', known, same⟩ := checkCrc_code checked
    cases second.symm.trans same
    obtain rfl : code = writeCode := by simpa [notAsked] using known
    -- Every branch that reads a value has read the sixth byte.
    have kept {out : Option (List ParsedObj)}
        (six : dataPoint register ∈ [0, 1, 2] → 6 ≤ buf.length)
        (rejects : buf.length < 6 → out = none) :
        Whole devId buf ∧ (TooShort buf → out = none) := by
      constructor
      · intro _
        refine ⟨fun asked => absurd (second.symm.trans asked) (by decide), fun _ => ⟨by omega, ?_⟩⟩
        intro register' fourth' point
        cases fourth.symm.trans fourth'
        exact six point
      · rintro (⟨asked, -⟩ | ⟨-, short⟩)
        · exact absurd (second.symm.trans asked) (by decide)
        · exact rejects short
    refine .ite (fun switch => .bind fun value last => .pure ?_) fun notSwitch =>
      .ite (fun temp => .bind fun value last => .pure ?_) fun notTemp => .pure ?_
    · have := byteAt_lt last
      exact kept (fun _ => by omega) fun short => by omega
    · have := wordAt_lt last
      exact kept (fun _ => by omega) fun short => by omega
    · exact kept (fun point => by simp [notSwitch] at point; exact absurd point notTemp) fun _ =>
        rfl

end Towwire

namespace Purifier

/-- A package with fewer bytes than the fields of its function code take. -/
def TooShort (buf : List UInt8) : Prop :=
  buf.length < 4 ∨ buf[3]? = some readCode ∧ buf.length < 22 ∨
    buf[3]? = some resetCode ∧ buf.length < 8

/-- Three bytes for this device have no function code, and what is taken for the code of a right
package is its length. -/
def Whole (devId : UInt8) (buf : List UInt8) : Prop :=
  (buf.length = 3 → ¬(buf[0]? = some header ∧ buf[1]? = some devId)) ∧
    (checkPackage devId buf = .ok true →
      (buf[2]? = some readCode → 22 ≤ buf.length) ∧ (buf[2]? = some resetCode → 8 ≤ buf.length))

theorem returns_wordLow {next : UInt32 → Result α} (inside : k + 1 < buf.length)
    (rest : ∀ word, Returns (next word)) : Returns (wordLow buf k >>= next) := by
  unfold wordLow
  simp only [bind_assoc, pure_bind]
  exact returns_byte (by omega) fun high _ => returns_byte (by omega) fun low _ => rest _

theorem wordLow_lt (read : wordLow buf k = .ok word) : k + 1 < buf.length := by
  obtain ⟨high, first, -⟩ := bind_eq_ok.mp read
  have := byteAt_lt first
  omega

theorem returns_checkPackage
    (named : buf.length = 3 → ¬(buf[0]? = some header ∧ buf[1]? = some devId)) :
    Returns (checkPackage devId buf) := by
  have length := byteLen_le buf
  unfold checkPackage
  refine .ite (fun _ => .pure) fun long => ?_
  refine returns_byte (by omega) fun first there0 => .ite (fun _ => .pure) fun isHeader => ?_
  refine returns_byte (by omega) fun second there1 => .ite (fun _ => .pure) fun isDevice => ?_
  have four : 4 ≤ buf.length := by
    by_contra short
    refine named (by omega) ⟨?_, ?_⟩
    · rw [there0, Decidable.not_not.mp isHeader]
    · rw [there1, Decidable.not_not.mp isDevice]
  refine returns_byte (by omega) fun code _ => returns_byte (by omega) fun code' _ => ?_
  refine .ite (fun _ => .pure) fun _ => returns_byte (by omega) fun size _ => ?_
  refine .ite (fun _ => .pure) fun _ => ?_
  obtain ⟨check, summed⟩ := returns_checkSum (show byteLen buf - 1 ≤ buf.length by omega)
  exact .bind summed (returns_byte (by omega) fun last _ => .pure)

theorem checkPackage_ends :
    Ends (fun ok => (buf.length = 3 → ¬(buf[0]? = some header ∧ buf[1]? = some devId)) ∧
        (ok = true → ∃ size, buf[2]? = some size ∧ size.toNat = byteLen buf))
      (checkPackage devId buf) := by
  have length := byteLen_le buf
  unfold checkPackage
  refine .ite (fun short => .pure ⟨?_, by simp⟩) fun long => ?_
  · intro three
    simp only [byteLen, frameLen, three] at short
    omega
  refine .bind fun first there0 => .ite (fun other => .pure ⟨?_, by simp⟩) fun isHeader => ?_
  · rintro - ⟨isHeader, -⟩
    exact other (Option.some.inj ((byteAt_eq_ok.mp there0).symm.trans isHeader))
  refine .bind fun second there1 => .ite (fun other => .pure ⟨?_, by simp⟩) fun isDevice => ?_
  · rintro - ⟨-, isDevice⟩
    exact other (Option.some.inj ((byteAt_eq_ok.mp there1).symm.trans isDevice))
  refine .bind fun code fourth => .bind fun code' _ => ?_
  have four := byteAt_lt fourth
  have named : buf.length = 3 → ¬(buf[0]? = some header ∧ buf[1]? = some devId) := fun three => by
    omega
  refine .ite (fun _ => .pure ⟨named, by simp⟩) fun _ => .bind fun size third => ?_
  refine .ite (fun _ => .pure ⟨named, by simp⟩) fun same => .bind fun check _ => ?_
  refine .bind fun last _ => .pure ⟨named, fun _ => ⟨size, byteAt_eq_ok.mp third, ?_⟩⟩
  exact Decidable.not_not.mp same

theorem returns_parse (whole : Whole devId buf) : Returns (parse devId buf) := by
  obtain ⟨ok, checked⟩ := returns_checkPackage whole.1
  unfold parse
  refine .bind checked ?_
  cases ok with
  | false => exact .pure
  | true =>
    obtain ⟨asked, reset⟩ := whole.2 checked
    obtain ⟨-, passed⟩ := checkPackage_ends true checked
    obtain ⟨size, third, -⟩ := passed rfl
    refine .bind (byteAt_eq_ok.mpr third) (.ite (fun isRead => ?_) fun _ => .ite (fun isReset => ?_)
      fun _ => .pure)
    · have enough := asked (isRead ▸ third)
      refine returns_wordLow (by omega) fun w4 => returns_wordLow (by omega) fun w6 => ?_
      refine returns_wordLow (by omega) fun w8 => returns_wordLow (by omega) fun w10 => ?_
      exact returns_wordLow (by omega) fun tds => returns_wordLow (by omega) fun filterTime => .pure
    · have enough := reset (isReset ▸ third)
      refine returns_byte (by omega) fun b4 _ => returns_byte (by omega) fun b5 _ => ?_
      refine returns_byte (by omega) fun b6 _ => returns_byte (by omega) fun b7 _ => ?_
      exact .ite (fun _ => .pure) fun _ => .pure

theorem parse_whole :
    Ends (fun out => Whole devId buf ∧ (TooShort buf → out = none)) (parse devId buf) := by
  unfold parse
  refine .bind fun ok checked => ?_
  obtain ⟨named, passed⟩ := checkPackage_ends ok checked
  refine .ite (fun wrong => ?_) fun right => ?_
  · obtain rfl : ok = false := by simpa using wrong
    exact .pure ⟨⟨named, fun right => nomatch checked.symm.trans right⟩, fun _ => rfl⟩
  obtain rfl : ok = true := by simpa using right
  obtain ⟨size, third, whole⟩ := passed rfl
  refine .bind fun code there => ?_
  obtain rfl : size = code := Option.some.inj (third.symm.trans (byteAt_eq_ok.mp there))
  refine .ite (fun isRead => ?_) fun notRead => .ite (fun isReset => ?_) fun notReset => ?_
  · subst isRead
    refine .bind fun w4 _ => .bind fun w6 _ => .bind fun w8 _ => .bind fun w10 _ => ?_
    refine .bind fun tds last => .bind fun filterTime _ => .pure ⟨⟨named, fun _ => ⟨?_, ?_⟩⟩, ?_⟩
    · have := wordLow_lt last
      exact fun _ => by omega
    · exact fun reset => absurd (third.symm.trans reset) (by decide)
    · have := wordLow_lt last
      rintro (short | ⟨-, short⟩ | ⟨-, short⟩) <;> omega
  · subst isReset
    refine .bind fun b4 _ => .bind fun b5 _ => .bind fun b6 _ => .bind fun b7 last => ?_
    have eight := byteAt_lt last
    have kept : Whole devId buf :=
      ⟨named, fun _ => ⟨fun asked => absurd (third.symm.trans asked) (by decide),
        fun _ => by omega⟩⟩
    -- Five is the low byte of the length, so the buffer has 256 bytes more.
    have long : ¬TooShort buf := by
      have five : buf.length % 65536 % 256 = 5 := whole.symm
      rintro (short | ⟨-, short⟩ | ⟨-, short⟩) <;> omega
    exact .ite (fun _ => .pure ⟨kept, fun short => absurd short long⟩) fun _ =>
      .pure ⟨kept, fun short => absurd short long⟩
  · refine .pure ⟨⟨named, fun _ => ⟨?_, ?_⟩⟩, fun _ => rfl⟩
    · exact fun asked => absurd (Option.some.inj (third.symm.trans asked)) notRead
    · exact fun reset => absurd (Option.some.inj (third.symm.trans reset)) notReset

end Purifier

namespace VentilationBroan

/-- A package has ten bytes before its end. -/
def TooShort (buf : List UInt8) : Prop := buf.length < 10

/-- What has to be there once the bytes before it are right. The header is read of an empty buffer
too, and the end of a package is looked for by the low byte of its length. -/
def Whole (devId : UInt8) (buf : List UInt8) : Prop :=
  buf ≠ [] ∧ (buf[0]? = some header → byteLen buf ≠ 0 ∧
    (buf[byteLen buf - 1]? = some footer → 2 ≤ buf.length ∧
      (buf[1]? = some devId → 3 ≤ buf.length ∧ (buf[2]? = some hostId → 10 ≤ buf.length))))

theorem returns_checkPackage (whole : Whole devId buf) : Returns (checkPackage devId buf) := by
  obtain ⟨some, whole⟩ := whole
  have one : 0 < buf.length := List.length_pos_iff.mpr some
  have length := byteLen_le buf
  unfold checkPackage
  refine returns_byte (by omega) fun first there0 => .ite (fun _ => .pure) fun isHeader => ?_
  obtain ⟨end', whole⟩ := whole (by rw [there0, Decidable.not_not.mp isHeader])
  rw [if_neg end']
  refine returns_byte (by omega) fun last thereEnd => .ite (fun _ => .pure) fun isFooter => ?_
  rw [Nat.zero_add] at thereEnd
  obtain ⟨two, whole⟩ := whole (by rw [thereEnd, Decidable.not_not.mp isFooter])
  refine returns_byte (by omega) fun second there1 => .ite (fun _ => .pure) fun isDevice => ?_
  obtain ⟨three, whole⟩ := whole (by rw [there1, Decidable.not_not.mp isDevice])
  refine returns_byte (by omega) fun third there2 => .ite (fun _ => .pure) fun isHost => ?_
  have ten := whole (by rw [there2, Decidable.not_not.mp isHost])
  obtain ⟨check, summed⟩ := returns_checkSum (show 9 ≤ buf.length by omega)
  exact .bind summed (returns_byte (by omega) fun last _ => .pure)

theorem checkPackage_whole :
    Ends (fun ok => Whole devId buf ∧ (ok = true → 10 ≤ buf.length)) (checkPackage devId buf) := by
  unfold checkPackage
  refine .bind fun first there0 => ?_
  have some : buf ≠ [] := List.length_pos_iff.mp (by have := byteAt_lt there0; omega)
  have first' : buf[0]? = _ := byteAt_eq_ok.mp there0
  refine .ite (fun other => .pure ⟨⟨some, fun isHeader => ?_⟩, by simp⟩) fun _ => ?_
  · exact absurd (Option.some.inj (first'.symm.trans isHeader)) other
  refine .ite (fun _ => fun out error => nomatch error) fun notEnd => ?_
  refine .bind fun last thereEnd => ?_
  have last' : buf[byteLen buf - 1]? = _ := (Nat.zero_add _) ▸ byteAt_eq_ok.mp thereEnd
  refine .ite (fun other => .pure ⟨⟨some, fun _ => ⟨notEnd, fun isFooter => ?_⟩⟩, by simp⟩) fun _ =>
    ?_
  · exact absurd (Option.some.inj (last'.symm.trans isFooter)) other
  refine .bind fun second there1 => ?_
  have two := byteAt_lt there1
  have second' : buf[1]? = _ := byteAt_eq_ok.mp there1
  refine .ite
    (fun other => .pure
      ⟨⟨some, fun _ => ⟨notEnd, fun _ => ⟨by omega, fun isDevice => ?_⟩⟩⟩, by simp⟩) fun _ => ?_
  · exact absurd (Option.some.inj (second'.symm.trans isDevice)) other
  refine .bind fun third there2 => ?_
  have three := byteAt_lt there2
  have third' : buf[2]? = _ := byteAt_eq_ok.mp there2
  refine .ite (fun other => .pure ⟨⟨some, fun _ => ⟨notEnd, fun _ => ⟨by omega, fun _ => ⟨by omega,
    fun isHost => ?_⟩⟩⟩⟩, by simp⟩) fun _ => ?_
  · exact absurd (Option.some.inj (third'.symm.trans isHost)) other
  refine .bind fun check _ => .bind fun tenth there9 => ?_
  have ten := byteAt_lt there9
  exact .pure
    ⟨⟨some, fun _ => ⟨notEnd, fun _ => ⟨by omega, fun _ => ⟨by omega, fun _ => by omega⟩⟩⟩⟩,
      fun _ => by omega⟩

theorem returns_parse (whole : Whole devId buf) : Returns (parse devId buf) := by
  obtain ⟨ok, checked⟩ := returns_checkPackage whole
  unfold parse
  refine .bind checked ?_
  cases ok with
  | false => exact .pure
  | true =>
    have ten := (checkPackage_whole true checked).2 rfl
    exact returns_byte (by omega) fun speed _ => returns_byte (by omega) fun switch _ =>
      returns_byte (by omega) fun envTemp _ => .pure

theorem parse_whole :
    Ends (fun out => Whole devId buf ∧ (TooShort buf → out = none)) (parse devId buf) := by
  unfold parse
  refine .bind fun ok checked => ?_
  obtain ⟨whole, passed⟩ := checkPackage_whole ok checked
  refine .ite (fun _ => .pure ⟨whole, fun _ => rfl⟩) fun right => ?_
  have ten := passed (by simpa using right)
  refine .bind fun speed _ => .bind fun switch _ => .bind fun envTemp _ => .pure ⟨whole, ?_⟩
  exact fun short => absurd ten (Nat.not_le.mpr short)

end VentilationBroan

inductive Parser where
  | acdDaikin
  | acdZhongHong
  | heatHoneywell
  | floorHeatingTowwire
  | purifier
  | ventilationBroan
  deriving DecidableEq, Repr

namespace Parser

/-- What a call of `parse` returns; Daikin's has a cache. -/
def parse (parser : Parser) (cache : Daikin.Cache) (devId : UInt8) (regAddr : UInt16)
    (buf : List UInt8) : Parsed :=
  match parser with
  | .acdDaikin =>
      (Daikin.parse devId regAddr buf).map fun act =>
        match (act.run cache).1 with
        | .objs objs => objs
        | .frame _ => none
  | .acdZhongHong => ZhongHong.parse devId buf
  | .heatHoneywell => Honeywell.parse devId buf
  | .floorHeatingTowwire => Towwire.parse devId buf
  | .purifier => Purifier.parse devId buf
  | .ventilationBroan => VentilationBroan.parse devId buf

/-- The buffer has fewer bytes than the fields of its function code take. -/
def TooShort (parser : Parser) (devId : UInt8) (buf : List UInt8) : Prop :=
  match parser with
  | .acdDaikin => Daikin.TooShort devId buf
  | .acdZhongHong => ZhongHong.TooShort devId buf
  | .heatHoneywell => Honeywell.TooShort devId buf
  | .floorHeatingTowwire => Towwire.TooShort buf
  | .purifier => Purifier.TooShort buf
  | .ventilationBroan => VentilationBroan.TooShort buf

/-- The buffer names a unit the cache has no row for. Only one of the plugins has a cache. -/
def Outside (parser : Parser) (devId : UInt8) (regAddr : UInt16) (buf : List UInt8) : Prop :=
  parser = .acdDaikin ∧ Daikin.Outside devId regAddr buf

/-- `parse` stays inside the buffer and the cache, and refuses what does not fit. -/
def Safe (parser : Parser) (cache : Daikin.Cache) (devId : UInt8) (regAddr : UInt16)
    (buf : List UInt8) : Prop :=
  ∃ out, parser.parse cache devId regAddr buf = .ok out ∧
    (parser.TooShort devId buf ∨ parser.Outside devId regAddr buf → out = none)

/-- The buffers that bring along all that is read. -/
def Whole (parser : Parser) (devId : UInt8) (regAddr : UInt16) (buf : List UInt8) : Prop :=
  match parser with
  | .acdDaikin => ¬Daikin.TooShort devId buf ∧ ¬Daikin.Outside devId regAddr buf
  | .acdZhongHong => ¬ZhongHong.TooShort devId buf
  | .heatHoneywell => ¬Honeywell.TooShort devId buf
  | .floorHeatingTowwire => Towwire.Whole devId buf
  | .purifier => Purifier.Whole devId buf
  | .ventilationBroan => VentilationBroan.Whole devId buf

theorem returns_of_whole {parser : Parser} (whole : parser.Whole devId regAddr buf)
    (cache : Daikin.Cache) : Returns (parser.parse cache devId regAddr buf) := by
  cases parser with
  | acdDaikin =>
    obtain ⟨act, parsed⟩ := Daikin.returns_parse whole.1 whole.2
    simp only [parse, parsed]
    exact ⟨_, rfl⟩
  | acdZhongHong => exact ZhongHong.returns_parse whole
  | heatHoneywell => exact Honeywell.returns_parse whole
  | floorHeatingTowwire => exact Towwire.returns_parse whole
  | purifier => exact Purifier.returns_parse whole
  | ventilationBroan => exact VentilationBroan.returns_parse whole

theorem whole_of_parse (parser : Parser) (cache : Daikin.Cache) :
    Ends (fun out => parser.Whole devId regAddr buf ∧
        (parser.TooShort devId buf ∨ parser.Outside devId regAddr buf → out = none))
      (parser.parse cache devId regAddr buf) := by
  intro out parsed
  -- Where there is no cache nothing lies outside of it.
  have uncached (other : parser ≠ .acdDaikin) (short : parser.TooShort devId buf → out = none) :
      parser.TooShort devId buf ∨ parser.Outside devId regAddr buf → out = none := by
    rintro (tooShort | ⟨isDaikin, -⟩)
    · exact short tooShort
    · exact absurd isDaikin other
  cases parser with
  | acdDaikin =>
    cases acted : Daikin.parse devId regAddr buf with
    | error fault => simp [parse, acted, Except.map] at parsed
    | ok act =>
      obtain ⟨complete, cached⟩ := Daikin.parse_complete act acted
      refine ⟨⟨complete, cached⟩, ?_⟩
      rintro (short | ⟨-, outside⟩)
      · exact absurd short complete
      · exact absurd outside cached
  | acdZhongHong =>
    have complete := ZhongHong.parse_complete out parsed
    exact ⟨complete, uncached (by decide) fun short => absurd short complete⟩
  | heatHoneywell =>
    have complete := Honeywell.parse_complete out parsed
    exact ⟨complete, uncached (by decide) fun short => absurd short complete⟩
  | floorHeatingTowwire =>
    obtain ⟨whole, short⟩ := Towwire.parse_whole out parsed
    exact ⟨whole, uncached (by decide) short⟩
  | purifier =>
    obtain ⟨whole, short⟩ := Purifier.parse_whole out parsed
    exact ⟨whole, uncached (by decide) short⟩
  | ventilationBroan =>
    obtain ⟨whole, short⟩ := VentilationBroan.parse_whole out parsed
    exact ⟨whole, uncached (by decide) short⟩

/-- Each parser is safe exactly on the buffers that bring along all that it reads. -/
theorem parse_safe_iff_whole (parser : Parser) (cache : Daikin.Cache) (devId : UInt8)
    (regAddr : UInt16) (buf : List UInt8) :
    parser.Safe cache devId regAddr buf ↔ parser.Whole devId regAddr buf := by
  constructor
  · rintro ⟨out, parsed, -⟩
    exact (whole_of_parse parser cache out parsed).1
  · intro whole
    obtain ⟨out, parsed⟩ := returns_of_whole whole cache
    exact ⟨out, parsed, (whole_of_parse parser cache out parsed).2⟩

/-- A status reply cut after eight bytes: the ninth to thirteenth are read all the same. -/
theorem cut_reply_not_safe :
    ¬Parser.acdDaikin.Safe (fun _ => 0) 1 0 [0x01, 0x04, 0x0A, 0x31, 0xA9, 0x42, 0x02, 0x00] := by
  rintro ⟨out, parsed, -⟩
  have complete := (whole_of_parse .acdDaikin (fun _ => 0) out parsed).1.1
  exact complete ⟨0, by decide, rfl, by decide⟩

end Parser

end HiMaxGateway.Plugin
