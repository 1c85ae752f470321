import HiMaxGateway.Lib.FirstHit
import HiMaxGateway.Plugin.Locate

/-! `memmatch` of `utils.c` as a search for the first place of a key. -/
namespace HiMaxGateway.Plugin
open CRun FirstHit

variable {buf : List UInt8} {high low : UInt8} {dst : UInt16} {i left len pos min : Nat}

/-- The two bytes stand at this offset. -/
def Pair (high low : UInt8) (buf : List UInt8) (i : Nat) : Prop :=
  buf[i]? = some high ∧ buf[i + 1]? = some low

instance (high low : UInt8) (buf : List UInt8) (i : Nat) : Decidable (Pair high low buf i) :=
  inferInstanceAs (Decidable (_ ∧ _))

/-- The loop of `memmatch` with its reads. -/
def memmatchLoop (buf : List UInt8) (dst : UInt16) : (i left : Nat) → Result (Option Nat)
  | _, 0 => pure none
  | i, left + 1 => do
      let high ← byteAt buf i 0
      let low ← byteAt buf i 1
      if dst = (high.toUInt16 <<< 8) + low.toUInt16 then pure (some i)
      else memmatchLoop buf dst (i + 1) left

/-- `memmatch` with its reads. The loop has no turn for a length below three. -/
def memmatchRun (buf : List UInt8) (dst : UInt16) (len : Nat) : Result (Option Nat) :=
  if len = 0 then pure none else memmatchLoop buf dst 0 (len - 2)

/-- A key is equal to a word of the buffer when its bytes are. -/
theorem key_eq_iff : dst = (high.toUInt16 <<< 8) + low.toUInt16 ↔
    high = (dst >>> 8).toUInt8 ∧ low = dst.toUInt8 := by
  constructor
  · rintro rfl
    obtain ⟨upper, lower⟩ := key_bytes high low
    exact ⟨upper.symm, lower.symm⟩
  · rintro ⟨rfl, rfl⟩
    exact (ntohs_htons dst).symm

theorem memmatchFrom_shift (high low : UInt8) (i left : Nat) (buf : List UInt8) :
    memmatchFrom high low (i + 1) left buf = (memmatchFrom high low i left buf).map (· + 1) := by
  fun_induction memmatchFrom high low i left buf with
  | case1 i left a b rest hit => rw [memmatchFrom, if_pos hit, Option.map_some]
  | case2 i left a b rest miss ih => rw [memmatchFrom, if_neg miss, ih]
  | case3 i left buf short =>
    rw [memmatchFrom, Option.map_none]
    exact short

theorem memmatchFrom_finds (inside : left < buf.length) :
    Finds (Pair high low buf) left (memmatchFrom high low 0 left buf) := by
  induction left generalizing buf with
  | zero =>
    rw [memmatchFrom]
    · exact fun i below => absurd below (Nat.not_lt_zero i)
    · simp
  | succ left ih =>
    obtain - | ⟨a, - | ⟨b, rest⟩⟩ := buf
    · contradiction
    · exact absurd inside (by simp)
    by_cases hit : a = high ∧ b = low
    · rw [memmatchFrom, if_pos hit]
      exact Finds.turn_hit ⟨by simp [hit.1], by simp [hit.2]⟩
    · rw [memmatchFrom, if_neg hit, memmatchFrom_shift]
      refine Finds.turn_miss ?_ (ih (Nat.lt_of_succ_lt_succ inside))
      simpa [Pair] using hit

theorem memmatch_finds (high low : UInt8) (two : 2 ≤ len) (inside : len ≤ buf.length) :
    Finds (Pair high low buf) (len - 2) (memmatch buf high low len) :=
  memmatchFrom_finds (by omega)

theorem memmatch_first (inside : len ≤ buf.length)
    (first : First (Pair high low buf) (len - 2) pos) :
    memmatch buf high low len = some pos :=
  (memmatch_finds high low (by have := first.inside; omega) inside).eq_some first

/-- The first place of a key, with enough bytes behind it. -/
theorem findKey_first
    (first : First (Pair (dst >>> 8).toUInt8 dst.toUInt8 buf) (frameLen buf - 2) pos)
    (enough : min ≤ frameLen buf - pos) : findKey dst min buf = some pos := by
  rw [findKey, memmatch_first (frameLen_le buf) first, Option.filter_some,
    if_pos (by simpa using enough)]

/-- No turn reads behind the last byte, and the bytes are compared one by one. -/
theorem memmatchLoop_eq (inside : i + left < buf.length) :
    memmatchLoop buf dst i left =
      .ok (memmatchFrom (dst >>> 8).toUInt8 dst.toUInt8 i left (buf.drop i)) := by
  induction left generalizing i with
  | zero =>
    rw [memmatchLoop, memmatchFrom]
    · rfl
    · simp
  | succ left ih =>
    have first : i < buf.length := by omega
    have second : i + 1 < buf.length := by omega
    have readHigh : byteAt buf i 0 = .ok buf[i] := byteAt_eq_ok.mpr (List.getElem?_eq_getElem first)
    have readLow : byteAt buf i 1 = .ok buf[i + 1] :=
      byteAt_eq_ok.mpr (List.getElem?_eq_getElem second)
    have bytes : buf.drop i = buf[i] :: buf[i + 1] :: buf.drop (i + 2) := by
      rw [List.drop_eq_getElem_cons first, List.drop_eq_getElem_cons second]
    have next : buf[i + 1] :: buf.drop (i + 2) = buf.drop (i + 1) :=
      (List.drop_eq_getElem_cons second).symm
    rw [memmatchLoop, readHigh, readLow, bytes, memmatchFrom]
    simp only [bind, Except.bind, key_eq_iff]
    split
    · rfl
    · rw [ih (by omega), next]

theorem memmatchRun_eq (dst : UInt16) (two : 2 ≤ len) (inside : len ≤ buf.length) :
    memmatchRun buf dst len = .ok (memmatch buf (dst >>> 8).toUInt8 dst.toUInt8 len) := by
  rw [memmatchRun, if_neg (by omega), memmatchLoop_eq (by omega)]
  rfl

/-- The key stands at this offset. -/
def KeyAt (dst : UInt16) (buf : List UInt8) (i : Nat) : Prop :=
  Pair (dst >>> 8).toUInt8 dst.toUInt8 buf i

instance (dst : UInt16) (buf : List UInt8) (i : Nat) : Decidable (KeyAt dst buf i) :=
  inferInstanceAs (Decidable (Pair _ _ _ _))

/-- The last place of a key in a buffer is two bytes before its end. The loop ends before it:
`memmatch` gives the first place of the key unless that is the only one. -/
theorem memmatch_first_iff (buf : List UInt8) (dst : UInt16) (two : 2 ≤ buf.length) :
    Returns (memmatchRun buf dst buf.length) ∧
      ((∃ result, memmatchRun buf dst buf.length = .ok result ∧
          Finds (KeyAt dst buf) (buf.length - 1) result) ↔
        (KeyAt dst buf (buf.length - 2) → ∃ i < buf.length - 2, KeyAt dst buf i)) := by
  have run := memmatchRun_eq dst two (Nat.le_refl buf.length)
  have found : Finds (KeyAt dst buf) (buf.length - 2) _ := memmatch_finds (dst >>> 8).toUInt8
    dst.toUInt8 two (Nat.le_refl buf.length)
  have places : buf.length - 1 = buf.length - 2 + 1 := by omega
  refine ⟨⟨_, run⟩, ?_⟩
  rw [run, places, ← Finds.wider_iff found]
  constructor
  · rintro ⟨result, returned, finds⟩
    cases returned
    exact finds
  · intro finds
    exact ⟨_, rfl, finds⟩

/-- A key that is all of the buffer. -/
theorem memmatch_misses_last : ¬ ∃ result, memmatchRun [1, 2] 0x0102 2 = .ok result ∧
    Finds (KeyAt 0x0102 [1, 2]) 1 result := by
  rintro ⟨result, returned, finds⟩
  cases returned
  exact finds 0 (by decide) (by decide)

theorem memmatch_first_pair : ∃ result, memmatchRun [0, 1, 2, 9] 0x0102 4 = .ok result ∧
    Finds (KeyAt 0x0102 [0, 1, 2, 9]) 3 result :=
  (memmatch_first_iff [0, 1, 2, 9] 0x0102 (by decide)).2.mpr (by decide)

end HiMaxGateway.Plugin
