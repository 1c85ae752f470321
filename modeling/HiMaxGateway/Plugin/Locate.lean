import HiMaxGateway.Plugin.Frame

/-! Where `memmatch` finds a frame in a buffer. -/
namespace HiMaxGateway.Plugin
open CRun

variable {buf rest : List UInt8} {high low readCode writeCode devId code : UInt8}
  {len i left j pos k min readMin writeMin : Nat}

theorem memmatchFrom_some (found : memmatchFrom high low i left buf = some j) :
    ∃ k, j = i + k ∧ k < left ∧ buf[k]? = some high ∧ buf[k + 1]? = some low := by
  fun_induction memmatchFrom high low i left buf with
  | case1 i left a b rest hit =>
    cases found
    obtain ⟨rfl, rfl⟩ := hit
    exact ⟨0, rfl, Nat.succ_pos left, rfl, rfl⟩
  | case2 i left a b rest miss ih =>
    obtain ⟨k, at_k, inside, first, second⟩ := ih found
    exact ⟨k + 1, by omega, by omega, by simpa using first, by simpa using second⟩
  | case3 => cases found

/-- The two bytes of the key are there and one more byte follows them. -/
theorem memmatch_some (found : memmatch buf high low len = some pos) :
    pos + 2 < len ∧ buf[pos]? = some high ∧ buf[pos + 1]? = some low := by
  obtain ⟨k, at_k, inside, first, second⟩ := memmatchFrom_some found
  obtain rfl : pos = k := by omega
  exact ⟨by omega, first, second⟩

theorem memmatch_start (more : 2 < len) (first : buf[0]? = some high)
    (second : buf[1]? = some low) : memmatch buf high low len = some 0 := by
  obtain ⟨left, length⟩ : ∃ left, len - 2 = left + 1 := ⟨len - 3, by omega⟩
  match buf with
  | a :: b :: rest =>
    cases first
    cases second
    rw [memmatch, length, memmatchFrom, if_pos ⟨rfl, rfl⟩]

/-- A frame that has to take up the whole buffer is looked for at its start only. -/
theorem memmatch_whole (more : 2 < len) :
    (memmatch buf high low len).filter (fun pos => len ≤ len - pos) =
      if buf[0]? = some high ∧ buf[1]? = some low then some 0 else none := by
  by_cases starts : buf[0]? = some high ∧ buf[1]? = some low
  · rw [if_pos starts, memmatch_start more starts.1 starts.2]
    simp
  · rw [if_neg starts]
    cases found : memmatch buf high low len with
    | none => rfl
    | some pos =>
      obtain ⟨inside, first, second⟩ := memmatch_some found
      have later : pos ≠ 0 := by
        rintro rfl
        exact starts ⟨first, second⟩
      have short : ¬len ≤ len - pos := by omega
      rw [Option.filter_some, decide_eq_false short]
      rfl

/-- A buffer of its own length that starts with the key. -/
theorem findFrame_echo (length : frameLen buf = min) (more : 2 < min)
    (first : buf[0]? = some devId) (second : buf[1]? = some writeCode)
    (codes : writeCode ≠ readCode) : findFrame devId readCode writeCode min min buf = some 0 := by
  unfold findFrame
  rw [length]
  simp only [memmatch_whole more, first, second, Option.some.injEq, codes, and_false, if_false,
    and_self, if_true]

/-- An answer to a read at the start of the buffer. -/
theorem findFrame_start (more : 2 < frameLen buf) (enough : readMin ≤ frameLen buf)
    (first : buf[0]? = some devId) (second : buf[1]? = some readCode) :
    findFrame devId readCode writeCode readMin writeMin buf = some 0 := by
  unfold findFrame
  have asked : (memmatch buf devId readCode (frameLen buf)).filter
      (fun pos => readMin ≤ frameLen buf - pos) = some 0 := by
    rw [memmatch_start more first second, Option.filter_some, if_pos (by simpa using enough)]
  simp only [asked]

theorem findKey_whole (key : UInt16) (length : frameLen buf = min) (more : 2 < min) :
    findKey key min buf =
      if buf[0]? = some (key >>> 8).toUInt8 ∧ buf[1]? = some key.toUInt8 then some 0 else none := by
  unfold findKey
  rw [length]
  exact memmatch_whole more

theorem findKey_some {key : UInt16} (found : findKey key min buf = some pos) :
    min ≤ frameLen buf - pos ∧ pos + 2 < frameLen buf ∧
      buf[pos]? = some (key >>> 8).toUInt8 ∧ buf[pos + 1]? = some key.toUInt8 := by
  obtain ⟨matched, enough⟩ := Option.filter_eq_some_iff.mp found
  exact ⟨by simpa using enough, memmatch_some matched⟩

theorem findFrame_some
    (found : findFrame devId readCode writeCode readMin writeMin buf = some pos) :
    pos + 2 < frameLen buf ∧ buf[pos]? = some devId ∧
      (buf[pos + 1]? = some readCode ∧ readMin ≤ frameLen buf - pos ∨
        buf[pos + 1]? = some writeCode ∧ writeMin ≤ frameLen buf - pos) := by
  unfold findFrame at found
  cases asked : (memmatch buf devId readCode (frameLen buf)).filter
      (fun pos => readMin ≤ frameLen buf - pos) with
  | some at_read =>
    simp only [asked, Option.some.injEq] at found
    subst found
    obtain ⟨matched, enough⟩ := Option.filter_eq_some_iff.mp asked
    obtain ⟨inside, first, second⟩ := memmatch_some matched
    exact ⟨inside, first, .inl ⟨second, by simpa using enough⟩⟩
  | none =>
    simp only [asked] at found
    obtain ⟨matched, enough⟩ := Option.filter_eq_some_iff.mp found
    obtain ⟨inside, first, second⟩ := memmatch_some matched
    exact ⟨inside, first, .inr ⟨second, by simpa using enough⟩⟩

theorem frameLen_le (buf : List UInt8) : frameLen buf ≤ buf.length := Nat.mod_le _ _

theorem byteAt_eq_ok : byteAt buf pos k = .ok code ↔ buf[pos + k]? = some code := by
  unfold byteAt
  cases buf[pos + k]? <;> simp

theorem byteAt_inside (inside : pos + k < buf.length) : ∃ byte, byteAt buf pos k = .ok byte :=
  ⟨buf[pos + k], byteAt_eq_ok.mpr (List.getElem?_eq_getElem inside)⟩

theorem byteAt_outside (outside : buf.length ≤ pos + k) :
    byteAt buf pos k = .error .outOfBounds := by
  rw [byteAt, List.getElem?_eq_none outside]

/-- The two bytes of a key put together with `+`. -/
theorem key_bytes (high low : UInt8) :
    (((high.toUInt16 <<< 8) + low.toUInt16) >>> 8).toUInt8 = high ∧
      ((high.toUInt16 <<< 8) + low.toUInt16).toUInt8 = low := by
  have := high.toNat_lt
  have := low.toNat_lt
  constructor
  · apply UInt8.toNat_inj.mp
    simp [Nat.shiftLeft_eq, Nat.shiftRight_eq_div_pow]
    omega
  · apply UInt8.toNat_inj.mp
    simp [Nat.shiftLeft_eq]

/-- `ntohs` of what `htons` left. -/
theorem ntohs_htons (value : UInt16) :
    ((value >>> 8).toUInt8.toUInt16 <<< 8) + value.toUInt8.toUInt16 = value := by
  have := value.toNat_lt
  apply UInt16.toNat_inj.mp
  simp [Nat.shiftLeft_eq, Nat.shiftRight_eq_div_pow]
  omega

end HiMaxGateway.Plugin
