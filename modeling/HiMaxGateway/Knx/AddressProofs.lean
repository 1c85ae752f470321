import HiMaxGateway.Lib.Numeral
import HiMaxGateway.Knx.PacketRoundTrip

/-! Spellings of group addresses, and what the readers of `knxHandle.c` make of every text. -/
namespace HiMaxGateway.Knx
open CText

structure ThreeLevel (text : Text) (a b c : Nat) : Prop where
  parts : ∃ as bs cs, text = as ++ '/' :: (bs ++ '/' :: cs) ∧ Spelled 10 as a ∧ Spelled 10 bs b ∧
    Spelled 10 cs c
  a : a ≤ 31
  b : b ≤ 7
  c : c ≤ 255

structure TwoLevel (text : Text) (a b : Nat) : Prop where
  parts : ∃ as bs, text = as ++ '/' :: bs ∧ Spelled 10 as a ∧ Spelled 10 bs b
  a : a ≤ 31
  b : b ≤ 2047

/-- A valid spelling of a group address. -/
inductive Spells (text : Text) : Nat → Prop where
  | three {a b c : Nat} (level : ThreeLevel text a b c) : Spells text (a * 2048 + b * 256 + c)
  | two {a b : Nat} (level : TwoLevel text a b) : Spells text (a * 2048 + b)
  | hex {a : Nat} (spelled : Spelled 16 text a) (small : a ≤ 0xFFFF) : Spells text a

-- What the formats find in a text that need not be a spelling: blanks and signs are skipped,
-- numbers are kept within 32 bits, and whatever follows is left alone.

def ThreeFields (text : Text) (a b c : Nat) : Prop :=
  ∃ second third rest, Scanned .u none text a ('/' :: second) ∧
    Scanned .u none second b ('/' :: third) ∧ Scanned .u none third c rest

def TwoFields (text : Text) (a b : Nat) : Prop :=
  ∃ second rest, Scanned .u none text a ('/' :: second) ∧ Scanned .u none second b rest ∧
    ∀ third, rest = '/' :: third → ∀ c rest', ¬ Scanned .u none third c rest'

def HexField (text : Text) (a : Nat) : Prop := ∃ rest, Scanned .x none text a rest

/-- Neither two nor three numbers within the bounds of their levels. -/
structure Unlevelled (text : Text) : Prop where
  three : ∀ a b c, ThreeFields text a b c → ¬ (a ≤ 31 ∧ b ≤ 7 ∧ c ≤ 255)
  two : ∀ a b, TwoFields text a b → ¬ (a ≤ 31 ∧ b ≤ 2047)

/-- The address a text is taken for. The last case is the error value. -/
inductive ReadsAs (text : Text) : Nat → Prop where
  | three {a b c : Nat} (fields : ThreeFields text a b c) (bounds : a ≤ 31 ∧ b ≤ 7 ∧ c ≤ 255) :
      ReadsAs text (a * 2048 + b * 256 + c)
  | two {a b : Nat} (fields : TwoFields text a b) (bounds : a ≤ 31 ∧ b ≤ 2047) :
      ReadsAs text (a * 2048 + b)
  | hex {a : Nat} (other : Unlevelled text) (field : HexField text a) (small : a ≤ 0xFFFF) :
      ReadsAs text a
  | error (other : Unlevelled text) (large : ∀ a, HexField text a → 0xFFFF < a) :
      ReadsAs text 0xFFFF

theorem sscanf_three {text : Text} {a b c : Nat} :
    sscanf [.conv .u none, .char '/', .conv .u none, .char '/', .conv .u none] text = [↑a, ↑b, ↑c] ↔
      ThreeFields text a b c := by
  simp only [sscanf_conv_cons, sscanf_char_cons, ThreeFields, sscanf_nil, and_true]
  constructor
  · rintro ⟨_, first, second, rfl, _, next, third, rfl, rest, last⟩
    exact ⟨second, third, rest, first, next, last⟩
  · rintro ⟨second, third, rest, first, next, last⟩
    exact ⟨_, first, second, rfl, _, next, third, rfl, rest, last⟩

theorem sscanf_two {text : Text} {a b : Nat} :
    sscanf [.conv .u none, .char '/', .conv .u none, .char '/', .conv .u none] text = [↑a, ↑b] ↔
      TwoFields text a b := by
  simp only [sscanf_conv_cons, sscanf_char_cons, sscanf_char_nil, sscanf_conv_nil, TwoFields]
  constructor
  · rintro ⟨_, first, second, rfl, rest, next, last⟩
    exact ⟨second, rest, first, next, last⟩
  · rintro ⟨second, rest, first, next, last⟩
    exact ⟨_, first, second, rfl, rest, next, last⟩

theorem sscanf_hex {text : Text} {a : Nat} :
    sscanf [.conv .x none] text = [(a : Int)] ↔ HexField text a := by
  simp [sscanf_conv_cons, HexField]

theorem scanned_nat {conv : Conv} {text rest : Text} {v : Int} (unsigned : conv ≠ .d)
    (field : Scanned conv none text v rest) : ∃ a : Nat, v = a ∧ a < 2 ^ 32 := by
  obtain ⟨n, -, rfl⟩ := scanned_iff.mp field
  have value : conv.value n = (n.ulong : Int) := by
    cases conv with
    | d => contradiction
    | u | x => rfl
  exact ⟨_, value, n.ulong_lt⟩

section

variable {text : Text}

theorem three_nat {a b c : Int}
    (read : sscanf [.conv .u none, .char '/', .conv .u none, .char '/', .conv .u none] text =
      [a, b, c]) :
    ∃ a' b' c' : Nat, a = a' ∧ b = b' ∧ c = c' := by
  simp only [sscanf_conv_cons, sscanf_char_cons] at read
  obtain ⟨_, first, _, rfl, _, next, _, rfl, _, last, -⟩ := read
  obtain ⟨a', rfl, -⟩ := scanned_nat (by decide) first
  obtain ⟨b', rfl, -⟩ := scanned_nat (by decide) next
  obtain ⟨c', rfl, -⟩ := scanned_nat (by decide) last
  exact ⟨a', b', c', rfl, rfl, rfl⟩

theorem two_nat {a b : Int}
    (read : sscanf [.conv .u none, .char '/', .conv .u none, .char '/', .conv .u none] text =
      [a, b]) :
    ∃ a' b' : Nat, a = a' ∧ b = b' := by
  simp only [sscanf_conv_cons, sscanf_char_cons] at read
  obtain ⟨_, first, _, rfl, _, next, -⟩ := read
  obtain ⟨a', rfl, -⟩ := scanned_nat (by decide) first
  obtain ⟨b', rfl, -⟩ := scanned_nat (by decide) next
  exact ⟨a', b', rfl, rfl⟩

/-- The hexadecimal fallback of `readgaddr`. -/
def hexAddr (text : Text) : Nat :=
  match sscanf [.conv .x none] text with
  | [a] => if a ≤ 0xFFFF then a.toNat else invalidAddr
  | _ => invalidAddr

theorem pack_eq {a b c : Nat} (hb : b ≤ 7) (hc : c ≤ 255) :
    a <<< 11 ||| b <<< 8 ||| c = a * 2048 + b * 256 + c := by
  have low : b <<< 8 ||| c = b * 256 + c := by
    rw [← Nat.shiftLeft_add_eq_or_of_lt (by omega), Nat.shiftLeft_eq]
  rw [Nat.or_assoc, low, ← Nat.shiftLeft_add_eq_or_of_lt (by omega), Nat.shiftLeft_eq,
    Nat.add_assoc]

theorem pack_two_eq {a b : Nat} (hb : b ≤ 2047) : a <<< 11 ||| (b &&& 0x7FF) = a * 2048 + b := by
  have cut : b &&& 0x7FF = b := by
    rw [Nat.and_two_pow_sub_one_eq_mod b 11, Nat.mod_eq_of_lt (by omega)]
  rw [cut, ← Nat.shiftLeft_add_eq_or_of_lt (by omega), Nat.shiftLeft_eq]

theorem readgaddr_three {a b c : Nat} (fields : ThreeFields text a b c) : readgaddr text =
    if a ≤ 31 ∧ b ≤ 7 ∧ c ≤ 255 then a * 2048 + b * 256 + c else hexAddr text := by
  rw [readgaddr, sscanf_three.mpr fields]
  dsimp only
  by_cases bounds : a ≤ 31 ∧ b ≤ 7 ∧ c ≤ 255
  · rw [if_pos bounds, if_pos (by omega)]
    exact pack_eq bounds.2.1 bounds.2.2
  · rw [if_neg bounds, if_neg (by omega)]
    rfl

theorem readgaddr_two {a b : Nat} (fields : TwoFields text a b) : readgaddr text =
    if a ≤ 31 ∧ b ≤ 2047 then a * 2048 + b else hexAddr text := by
  rw [readgaddr, sscanf_two.mpr fields]
  dsimp only
  by_cases bounds : a ≤ 31 ∧ b ≤ 2047
  · rw [if_pos bounds, if_pos (by omega)]
    exact pack_two_eq bounds.2
  · rw [if_neg bounds, if_neg (by omega)]
    rfl

theorem readgaddr_none (noThree : ∀ a b c, ¬ ThreeFields text a b c)
    (noTwo : ∀ a b, ¬ TwoFields text a b) : readgaddr text = hexAddr text := by
  rw [readgaddr]
  split
  · rename_i a b c read
    obtain ⟨a', b', c', rfl, rfl, rfl⟩ := three_nat read
    exact absurd (sscanf_three.mp read) (noThree a' b' c')
  · rename_i a b read
    obtain ⟨a', b', rfl, rfl⟩ := two_nat read
    exact absurd (sscanf_two.mp read) (noTwo a' b')
  · rfl

theorem hexAddr_field {a : Nat} (field : HexField text a) :
    hexAddr text = if a ≤ 0xFFFF then a else 0xFFFF := by
  rw [hexAddr, sscanf_hex.mpr field]
  dsimp only
  by_cases small : a ≤ 0xFFFF
  · rw [if_pos small, if_pos (by omega), Int.toNat_natCast]
  · rw [if_neg small, if_neg (by omega), invalidAddr]

theorem hexAddr_none (none : ∀ a, ¬ HexField text a) : hexAddr text = 0xFFFF := by
  rw [hexAddr]
  split
  · rename_i a read
    obtain ⟨rest, field, -⟩ := sscanf_conv_cons.mp read
    obtain ⟨a', rfl, -⟩ := scanned_nat (by decide) field
    exact absurd ⟨rest, field⟩ (none a')
  · rfl

theorem Unlevelled.readgaddr (other : Unlevelled text) : readgaddr text = hexAddr text := by
  by_cases three : ∃ a b c, ThreeFields text a b c
  · obtain ⟨a, b, c, fields⟩ := three
    rw [readgaddr_three fields, if_neg (other.three a b c fields)]
  by_cases two : ∃ a b, TwoFields text a b
  · obtain ⟨a, b, fields⟩ := two
    rw [readgaddr_two fields, if_neg (other.two a b fields)]
  · simp only [not_exists] at three two
    exact readgaddr_none three two

theorem ReadsAs.readgaddr {g : Nat} (reads : ReadsAs text g) : readgaddr text = g := by
  cases reads with
  | three fields bounds => rw [readgaddr_three fields, if_pos bounds]
  | two fields bounds => rw [readgaddr_two fields, if_pos bounds]
  | hex other field small => rw [other.readgaddr, hexAddr_field field, if_pos small]
  | error other large =>
    rw [other.readgaddr]
    by_cases some : ∃ a, HexField text a
    · obtain ⟨a, field⟩ := some
      have := large a field
      rw [hexAddr_field field, if_neg (by omega)]
    · exact hexAddr_none (not_exists.mp some)

/-- Every text is read as some address. -/
theorem readsAs_total (text : Text) : ∃ g, ReadsAs text g := by
  by_cases three : ∃ a b c, ThreeFields text a b c ∧ a ≤ 31 ∧ b ≤ 7 ∧ c ≤ 255
  · obtain ⟨a, b, c, fields, bounds⟩ := three
    exact ⟨_, .three fields bounds⟩
  by_cases two : ∃ a b, TwoFields text a b ∧ a ≤ 31 ∧ b ≤ 2047
  · obtain ⟨a, b, fields, bounds⟩ := two
    exact ⟨_, .two fields bounds⟩
  have other : Unlevelled text :=
    ⟨fun a b c fields bounds => three ⟨a, b, c, fields, bounds⟩,
      fun a b fields bounds => two ⟨a, b, fields, bounds⟩⟩
  by_cases hex : ∃ a, HexField text a ∧ a ≤ 0xFFFF
  · obtain ⟨a, field, small⟩ := hex
    exact ⟨a, .hex other field small⟩
  · refine ⟨_, .error other ?_⟩
    intro a field
    by_contra small
    exact hex ⟨a, field, by omega⟩

theorem readgaddr_iff {g : Nat} : readgaddr text = g ↔ ReadsAs text g := by
  constructor
  · rintro rfl
    obtain ⟨g, reads⟩ := readsAs_total text
    rwa [reads.readgaddr]
  · exact ReadsAs.readgaddr

theorem slash_ends (digits rest : Text) : ¬ Continues 10 digits ('/' :: rest) := by
  rintro (digit | ⟨hex, -⟩)
  · exact absurd ((startsWith_cons _ _).mp digit) (by decide)
  · exact absurd hex (by decide)

theorem ThreeLevel.fields {a b c : Nat} (level : ThreeLevel text a b c) :
    ThreeFields text a b c := by
  obtain ⟨⟨as, bs, cs, rfl, first, next, last⟩, ha, hb, hc⟩ := level
  exact ⟨_, _, [], first.scanned .u none (by omega) (by simp) (.inr (slash_ends as _)),
    next.scanned .u none (by omega) (by simp) (.inr (slash_ends bs _)),
    last.scanned_last .u none (by omega) (by simp)⟩

theorem TwoLevel.fields {a b : Nat} (level : TwoLevel text a b) : TwoFields text a b := by
  obtain ⟨⟨as, bs, rfl, first, last⟩, ha, hb⟩ := level
  exact ⟨_, [], first.scanned .u none (by omega) (by simp) (.inr (slash_ends as _)),
    last.scanned_last .u none (by omega) (by simp), by simp⟩

theorem unlevelled_of_plain (plain : '/' ∉ text) : Unlevelled text := by
  have none {conv : Conv} {v : Int} {rest : Text} : ¬ Scanned conv none text v ('/' :: rest) :=
    fun field => plain (field.suffix.mem List.mem_cons_self)
  constructor
  · rintro a b c ⟨second, third, rest, first, -⟩
    exact absurd first none
  · rintro a b ⟨second, rest, first, -⟩
    exact absurd first none

theorem Spells.readsAs {g : Nat} (spells : Spells text g) : ReadsAs text g := by
  cases spells with
  | three level => exact .three level.fields ⟨level.a, level.b, level.c⟩
  | two level => exact .two level.fields ⟨level.a, level.b⟩
  | hex spelled small =>
    have plain : '/' ∉ text := fun mem => absurd (spelled.all '/' mem) (by decide)
    exact .hex (unlevelled_of_plain plain) ⟨[], spelled.scanned_last .x none (by omega) (by simp)⟩
      small

end

def ComparesExactly (x y : Text) : Prop :=
  knxCompareGroup x y = true ↔ ∃ g, Spells x g ∧ Spells y g

/-- Two texts that are taken for one address. -/
def ReadAlike (x y : Text) : Prop := ∃ g, ReadsAs x g ∧ ReadsAs y g

theorem knxCompareGroup_iff (x y : Text) : knxCompareGroup x y = true ↔ ReadAlike x y := by
  rw [knxCompareGroup, beq_iff_eq]
  constructor
  · intro same
    exact ⟨_, readgaddr_iff.mp rfl, readgaddr_iff.mp same.symm⟩
  · rintro ⟨g, first, second⟩
    rw [first.readgaddr, second.readgaddr]

theorem compares_exactly_iff (x y : Text) : ComparesExactly x y ↔
    ((∃ g, Spells x g) ∧ ∃ g, Spells y g) ∨ ¬ ReadAlike x y := by
  rw [ComparesExactly, knxCompareGroup_iff]
  constructor
  · intro exact_
    by_cases alike : ReadAlike x y
    · obtain ⟨g, first, second⟩ := exact_.mp alike
      exact .inl ⟨⟨g, first⟩, ⟨g, second⟩⟩
    · exact .inr alike
  · rintro (⟨⟨g, first⟩, ⟨g', second⟩⟩ | differ)
    · constructor
      · rintro ⟨common, firstRead, secondRead⟩
        have one := first.readsAs.readgaddr.symm.trans firstRead.readgaddr
        have two := second.readsAs.readgaddr.symm.trans secondRead.readgaddr
        exact ⟨common, one ▸ first, two ▸ second⟩
      · rintro ⟨common, firstSpells, secondSpells⟩
        exact ⟨common, firstSpells.readsAs, secondSpells.readsAs⟩
    · constructor
      · intro alike
        exact absurd alike differ
      · rintro ⟨common, firstSpells, secondSpells⟩
        exact ⟨common, firstSpells.readsAs, secondSpells.readsAs⟩

theorem Spells.head {text : Text} {g : Nat} (spells : Spells text g) :
    ∃ base c tail, text = c :: tail ∧ isDigitOf base c = true := by
  have first {base n : Nat} {digits : Text} (spelled : Spelled base digits n) :
      ∃ c tail, digits = c :: tail ∧ isDigitOf base c = true := by
    obtain ⟨c, tail, rfl⟩ := List.exists_cons_of_ne_nil spelled.nonempty
    exact ⟨c, tail, rfl, spelled.all c List.mem_cons_self⟩
  cases spells with
  | three level =>
    obtain ⟨as, bs, cs, rfl, written, -⟩ := level.parts
    obtain ⟨c, tail, rfl, digit⟩ := first written
    exact ⟨10, c, _, rfl, digit⟩
  | two level =>
    obtain ⟨as, bs, rfl, written, -⟩ := level.parts
    obtain ⟨c, tail, rfl, digit⟩ := first written
    exact ⟨10, c, _, rfl, digit⟩
  | hex spelled small =>
    obtain ⟨c, tail, rfl, digit⟩ := first spelled
    exact ⟨16, c, tail, rfl, digit⟩

theorem not_spells_kitchen {g : Nat} : ¬ Spells "kitchen".toList g := by
  intro spells
  obtain ⟨base, c, tail, text, digit⟩ := spells.head
  have text : 'k' :: "itchen".toList = c :: tail := text
  obtain ⟨rfl, -⟩ := List.cons.inj text
  simp [isDigitOf, digitVal, Char.isDigit] at digit

/-- A malformed address has the error value of the group `31/7/255`. -/
theorem malformed_compares_equal : knxCompareGroup "kitchen".toList "31/7/255".toList = true ∧
    ¬ ComparesExactly "kitchen".toList "31/7/255".toList := by
  have equal : knxCompareGroup "kitchen".toList "31/7/255".toList = true := by decide
  refine ⟨equal, ?_⟩
  intro exact_
  obtain ⟨g, spells, -⟩ := exact_.mp equal
  exact not_spells_kitchen spells

/-- The formats of `isKnxGroupAddr`, which cuts its numbers to two, one and three characters. -/
def NarrowFields (text : Text) (prime middle sub : Int) : Prop :=
  ∃ second third rest, Scanned .d (some 2) text prime ('/' :: second) ∧
    Scanned .d (some 1) second middle ('/' :: third) ∧ Scanned .d (some 3) third sub rest

def NarrowFits (text : Text) : Prop :=
  ∃ prime middle sub, NarrowFields text prime middle sub ∧ prime ≤ 31 ∧ middle ≤ 7 ∧ sub ≤ 255

/-- The text holds something, and it is no number. -/
def Garbage (text : Text) : Prop :=
  text.all isSpace = false ∧ ∀ v rest, ¬ Scanned .d (some 2) text v rest

/-- A negative `int` passes the test for the three levels. -/
abbrev Passes (a b c : Nat) : Prop := signed a ≤ 31 ∧ signed b ≤ 7 ∧ signed c ≤ 255

abbrev PassesTwo (a b : Nat) : Prop := signed a ≤ 31 ∧ signed b ≤ 2047

/-- A number of `2 ^ 31` or more passes a test of `KnxGrpAddr`; the address is what 16 bits keep. -/
inductive Overflows (text : Text) : Nat → Prop where
  | three {a b c : Nat} (fields : ThreeFields text a b c) (passes : Passes a b c)
      (large : ¬ (a ≤ 31 ∧ b ≤ 7 ∧ c ≤ 255)) :
      Overflows text ((a <<< 11 ||| b <<< 8 ||| c) % 2 ^ 16)
  | two {a b : Nat} (fields : TwoFields text a b) (passes : PassesTwo a b)
      (large : ¬ (a ≤ 31 ∧ b ≤ 2047)) : Overflows text ((a <<< 11 ||| (b &&& 0x7FF)) % 2 ^ 16)
  | hex {a : Nat} (noThree : ∀ a b c, ThreeFields text a b c → ¬ Passes a b c)
      (noTwo : ∀ a b, TwoFields text a b → ¬ PassesTwo a b) (field : HexField text a)
      (large : 2 ^ 31 ≤ a) : Overflows text (a % 2 ^ 16)

section

variable {text : Text}

/-- The hexadecimal fallback of `KnxGrpAddr`. -/
def signedHexAddr (text : Text) : Nat :=
  match sscanf [.conv .x none] text with
  | [a] => if signed a ≤ 0xFFFF then a.toNat % 2 ^ 16 else invalidAddr
  | _ => invalidAddr

theorem signed_small {a : Nat} (small : a < 2 ^ 31) : signed a = a := by
  rw [signed, if_pos (by omega)]

theorem knxGrpAddr_three {a b c : Nat} (fields : ThreeFields text a b c) : knxGrpAddr text =
    if Passes a b c then (a <<< 11 ||| b <<< 8 ||| c) % 2 ^ 16
    else signedHexAddr text := by
  rw [knxGrpAddr, sscanf_three.mpr fields]
  rfl

theorem knxGrpAddr_two {a b : Nat} (fields : TwoFields text a b) : knxGrpAddr text =
    if PassesTwo a b then (a <<< 11 ||| (b &&& 0x7FF)) % 2 ^ 16
    else signedHexAddr text := by
  rw [knxGrpAddr, sscanf_two.mpr fields]
  rfl

theorem knxGrpAddr_none (noThree : ∀ a b c, ¬ ThreeFields text a b c)
    (noTwo : ∀ a b, ¬ TwoFields text a b) : knxGrpAddr text = signedHexAddr text := by
  rw [knxGrpAddr]
  split
  · rename_i a b c read
    obtain ⟨a', b', c', rfl, rfl, rfl⟩ := three_nat read
    exact absurd (sscanf_three.mp read) (noThree a' b' c')
  · rename_i a b read
    obtain ⟨a', b', rfl, rfl⟩ := two_nat read
    exact absurd (sscanf_two.mp read) (noTwo a' b')
  · rfl

theorem knxGrpAddr_hex (noThree : ∀ a b c, ThreeFields text a b c → ¬ Passes a b c)
    (noTwo : ∀ a b, TwoFields text a b → ¬ PassesTwo a b) :
    knxGrpAddr text = signedHexAddr text := by
  by_cases three : ∃ a b c, ThreeFields text a b c
  · obtain ⟨a, b, c, fields⟩ := three
    rw [knxGrpAddr_three fields, if_neg (noThree a b c fields)]
  by_cases two : ∃ a b, TwoFields text a b
  · obtain ⟨a, b, fields⟩ := two
    rw [knxGrpAddr_two fields, if_neg (noTwo a b fields)]
  · simp only [not_exists] at three two
    exact knxGrpAddr_none three two

theorem signedHexAddr_field {a : Nat} (field : HexField text a) :
    signedHexAddr text = if signed a ≤ 0xFFFF then a % 2 ^ 16 else 0xFFFF := by
  rw [signedHexAddr, sscanf_hex.mpr field]
  rfl

theorem signedHexAddr_none (none : ∀ a, ¬ HexField text a) : signedHexAddr text = 0xFFFF := by
  rw [signedHexAddr]
  split
  · rename_i a read
    obtain ⟨rest, field, -⟩ := sscanf_conv_cons.mp read
    obtain ⟨a', rfl, -⟩ := scanned_nat (by decide) field
    exact absurd ⟨rest, field⟩ (none a')
  · rfl

theorem Overflows.knxGrpAddr {k : Nat} (overflows : Overflows text k) : knxGrpAddr text = k := by
  cases overflows with
  | three fields passes large => rw [knxGrpAddr_three fields, if_pos passes]
  | two fields passes large => rw [knxGrpAddr_two fields, if_pos passes]
  | hex noThree noTwo field large =>
    obtain ⟨rest, read⟩ := field
    obtain ⟨a', same, small⟩ := scanned_nat (by decide) read
    rw [knxGrpAddr_hex noThree noTwo, signedHexAddr_field ⟨rest, read⟩, if_pos]
    rw [signed, if_neg (by omega)]
    omega

theorem Passes.of_bounds {a b c : Nat} (bounds : a ≤ 31 ∧ b ≤ 7 ∧ c ≤ 255) : Passes a b c := by
  rw [Passes, signed_small (by omega), signed_small (by omega), signed_small (by omega)]
  omega

theorem PassesTwo.of_bounds {a b : Nat} (bounds : a ≤ 31 ∧ b ≤ 2047) : PassesTwo a b := by
  rw [PassesTwo, signed_small (by omega), signed_small (by omega)]
  omega

theorem knxGrpAddr_of_three {a b c : Nat} (fields : ThreeFields text a b c)
    (bounds : a ≤ 31 ∧ b ≤ 7 ∧ c ≤ 255) : knxGrpAddr text = a * 2048 + b * 256 + c := by
  rw [knxGrpAddr_three fields, if_pos (.of_bounds bounds), pack_eq bounds.2.1 bounds.2.2]
  omega

theorem knxGrpAddr_of_two {a b : Nat} (fields : TwoFields text a b)
    (bounds : a ≤ 31 ∧ b ≤ 2047) : knxGrpAddr text = a * 2048 + b := by
  rw [knxGrpAddr_two fields, if_pos (.of_bounds bounds), pack_two_eq bounds.2]
  omega

/-- Where no large number slips through, the sign makes no difference. -/
theorem knxGrpAddr_of_none (none : ∀ k, ¬ Overflows text k) : knxGrpAddr text = readgaddr text := by
  have large {a b c : Nat} (fields : ThreeFields text a b c) (passes : Passes a b c) :
      a ≤ 31 ∧ b ≤ 7 ∧ c ≤ 255 := by
    by_contra large
    exact none _ (.three fields passes large)
  have largeTwo {a b : Nat} (fields : TwoFields text a b) (passes : PassesTwo a b) :
      a ≤ 31 ∧ b ≤ 2047 := by
    by_contra large
    exact none _ (.two fields passes large)
  obtain ⟨g, reads⟩ := readsAs_total text
  rw [reads.readgaddr]
  cases reads with
  | three fields bounds => exact knxGrpAddr_of_three fields bounds
  | two fields bounds => exact knxGrpAddr_of_two fields bounds
  | hex other field small =>
    have noThree := fun a b c fields passes => other.three a b c fields (large fields passes)
    have noTwo := fun a b fields passes => other.two a b fields (largeTwo fields passes)
    rw [knxGrpAddr_hex noThree noTwo, signedHexAddr_field field, signed_small (by omega),
      if_pos (by omega), Nat.mod_eq_of_lt (by omega)]
  | error other big =>
    have noThree := fun a b c fields passes => other.three a b c fields (large fields passes)
    have noTwo := fun a b fields passes => other.two a b fields (largeTwo fields passes)
    rw [knxGrpAddr_hex noThree noTwo]
    by_cases some : ∃ a, HexField text a
    · obtain ⟨a, field⟩ := some
      have small : a < 2 ^ 31 := by
        by_contra large
        exact none _ (.hex noThree noTwo field (by omega))
      have := big a field
      rw [signedHexAddr_field field, signed_small small, if_neg (by omega)]
    · exact signedHexAddr_none (not_exists.mp some)

theorem same_iff : readgaddr text = knxGrpAddr text ↔ ∀ k, Overflows text k → ReadsAs text k := by
  constructor
  · intro same k overflows
    rw [← readgaddr_iff, same, overflows.knxGrpAddr]
  · intro covered
    by_cases some : ∃ k, Overflows text k
    · obtain ⟨k, overflows⟩ := some
      rw [overflows.knxGrpAddr, (covered k overflows).readgaddr]
    · exact (knxGrpAddr_of_none (not_exists.mp some)).symm

theorem sscanf_narrow {prime middle sub : Int} :
    sscanf [.conv .d (some 2), .char '/', .conv .d (some 1), .char '/', .conv .d (some 3)] text =
      [prime, middle, sub] ↔ NarrowFields text prime middle sub := by
  simp only [sscanf_conv_cons, sscanf_char_cons, NarrowFields, sscanf_nil, and_true]
  constructor
  · rintro ⟨_, first, second, rfl, _, next, third, rfl, rest, last⟩
    exact ⟨second, third, rest, first, next, last⟩
  · rintro ⟨second, third, rest, first, next, last⟩
    exact ⟨_, first, second, rfl, _, next, third, rfl, rest, last⟩

theorem scan_garbage {format : List Directive} :
    scan (.conv .d (some 2) :: format) text = ([], false) ↔ Garbage text := by
  constructor
  · intro read
    have none : sscanf (.conv .d (some 2) :: format) text = [] := by rw [sscanf, read]
    have fails := sscanf_conv_nil.mp none
    rw [scan_conv_fails fails] at read
    exact ⟨(Prod.mk.inj read).2, fails⟩
  · rintro ⟨visible, fails⟩
    rw [scan_conv_fails fails, visible]

theorem isKnxGroupAddr_zero : isKnxGroupAddr text = 0 ↔ Garbage text ∨ NarrowFits text := by
  rw [isKnxGroupAddr]
  split
  · rename_i prime middle sub atEnd read
    have fields : NarrowFields text prime middle sub := sscanf_narrow.mp (by rw [sscanf, read])
    have noGarbage : ¬ Garbage text := by
      intro garbage
      rw [scan_garbage.mpr garbage] at read
      simp at read
    split
    · rename_i large
      simp only [Int.reduceNeg, Int.neg_eq_zero, one_ne_zero, false_iff, not_or]
      refine ⟨noGarbage, ?_⟩
      rintro ⟨prime', middle', sub', fields', bounds⟩
      have same := (sscanf_narrow.mpr fields).symm.trans (sscanf_narrow.mpr fields')
      simp only [List.cons.injEq, and_true] at same
      omega
    · rename_i fits
      simp only [true_iff]
      exact .inr ⟨prime, middle, sub, fields, by omega⟩
  · rename_i values atEnd other read
    have unfit : ¬ NarrowFits text := by
      rintro ⟨prime, middle, sub, fields, -⟩
      have three := sscanf_narrow.mpr fields
      rw [sscanf, read] at three
      exact other prime middle sub three
    rw [← scan_garbage, read]
    simp only [unfit, or_false, Prod.mk.injEq]
    split
    · rename_i ended
      simp [ended]
    · rename_i open_
      simp only [Nat.cast_eq_zero, List.length_eq_zero_iff]
      constructor
      · intro empty
        exact ⟨empty, by simpa [empty] using open_⟩
      · exact And.left

/-- A three-level address whose first two numbers have at most two digits and one. -/
structure ShortLevel (text : Text) : Prop where
  parts : ∃ as bs cs a b c, text = as ++ '/' :: (bs ++ '/' :: cs) ∧ as.length ≤ 2 ∧ bs.length ≤ 1 ∧
    Spelled 10 as a ∧ Spelled 10 bs b ∧ Spelled 10 cs c ∧ a ≤ 31 ∧ b ≤ 7 ∧ c ≤ 255

theorem ShortLevel.level (short : ShortLevel text) : ∃ a b c, ThreeLevel text a b c := by
  obtain ⟨as, bs, cs, a, b, c, whole, -, -, first, next, last, ha, hb, hc⟩ := short
  exact ⟨a, b, c, ⟨as, bs, cs, whole, first, next, last⟩, ha, hb, hc⟩

theorem narrow_last {cs : Text} {c : Nat} (spelled : Spelled 10 cs c) (small : c ≤ 255) :
    ∃ (sub : Nat) (rest : Text), sub ≤ 255 ∧ Scanned .d (some 3) cs sub rest := by
  by_cases long : 3 ≤ cs.length
  · obtain ⟨m, le, field⟩ := spelled.scanned_cut .d (by omega) (by decide) long []
    rw [List.append_nil] at field
    exact ⟨m, _, by omega, field⟩
  · exact ⟨c, [], small, spelled.scanned_last .d (some 3) (by omega) (by simp; omega)⟩

theorem ShortLevel.narrow (short : ShortLevel text) : NarrowFits text := by
  obtain ⟨as, bs, cs, a, b, c, rfl, room, one, first, next, last, ha, hb, hc⟩ := short
  obtain ⟨sub, rest, small, field⟩ := narrow_last last hc
  refine ⟨a, b, sub, ⟨bs ++ '/' :: cs, cs, rest, ?_, ?_, field⟩, by omega, by omega, by omega⟩
  · exact first.scanned .d (some 2) (by omega) (by simpa using room) (.inr (slash_ends as _))
  · exact next.scanned .d (some 1) (by omega) (by simpa using one) (.inr (slash_ends bs _))

/-- Longer numbers are cut, and the next character is no slash. -/
theorem ThreeLevel.short {a b c : Nat} (level : ThreeLevel text a b c)
    (zero : isKnxGroupAddr text = 0) :
    ShortLevel text := by
  obtain ⟨⟨as, bs, cs, rfl, first, next, last⟩, ha, hb, hc⟩ := level
  have cut {ds rest other : Text} {n w : Nat} (spelled : Spelled 10 ds n) (long : w < ds.length) :
      ds.drop w ++ rest ≠ '/' :: other := by
    rw [List.drop_eq_getElem_cons long, List.cons_append]
    intro same
    have digit := spelled.all _ (List.getElem_mem long)
    rw [(List.cons.inj same).1] at digit
    exact absurd digit (by decide)
  by_cases room : as.length ≤ 2
  · have field := first.scanned .d (some 2) (by omega) (by simpa using room)
      (.inr (slash_ends as (bs ++ '/' :: cs)))
    rcases isKnxGroupAddr_zero.mp zero with garbage | fits
    · exact absurd field (garbage.2 _ _)
    obtain ⟨_, _, _, ⟨second, third, rest, read, middle, -⟩, -⟩ := fits
    cases (field.unique read).2
    by_cases one : bs.length ≤ 1
    · exact ⟨as, bs, cs, a, b, c, rfl, room, one, first, next, last, ha, hb, hc⟩
    · obtain ⟨m, -, field⟩ := next.scanned_cut .d (by omega) one_pos (by omega) ('/' :: cs)
      exact absurd (field.unique middle).2 (cut next (by omega))
  · obtain ⟨m, -, field⟩ :=
      first.scanned_cut .d (by omega) two_pos (by omega) ('/' :: (bs ++ '/' :: cs))
    rcases isKnxGroupAddr_zero.mp zero with garbage | fits
    · exact absurd field (garbage.2 _ _)
    · obtain ⟨_, _, _, ⟨second, third, rest, read, -⟩, -⟩ := fits
      exact absurd (field.unique read).2 (cut first (by omega))

structure ReadersAgree (text : Text) : Prop where
  accepts : isKnxGroupAddr text = 0 ↔ ∃ a b c, ThreeLevel text a b c
  value : isKnxGroupAddr text = 0 → ∃ a b c, ThreeLevel text a b c ∧
    readgaddr text = a * 2048 + b * 256 + c ∧ knxGrpAddr text = a * 2048 + b * 256 + c
  same : readgaddr text = knxGrpAddr text

/-- No three-level address, and refused as such. -/
structure Refused (text : Text) : Prop where
  other : ∀ a b c, ¬ ThreeLevel text a b c
  number : ¬ Garbage text
  unfit : ¬ NarrowFits text

theorem ThreeLevel.value {a b c : Nat} (level : ThreeLevel text a b c) :
    readgaddr text = a * 2048 + b * 256 + c ∧ knxGrpAddr text = a * 2048 + b * 256 + c := by
  have bounds := And.intro level.a (And.intro level.b level.c)
  exact ⟨(ReadsAs.three level.fields bounds).readgaddr, knxGrpAddr_of_three level.fields bounds⟩

theorem readersAgree_iff : ReadersAgree text ↔
    ShortLevel text ∨ Refused text ∧ ∀ k, Overflows text k → ReadsAs text k := by
  constructor
  · intro agree
    by_cases zero : isKnxGroupAddr text = 0
    · obtain ⟨a, b, c, level⟩ := agree.accepts.mp zero
      exact .inl (level.short zero)
    · refine .inr ⟨⟨?_, ?_, ?_⟩, same_iff.mp agree.same⟩
      · exact fun a b c level => zero (agree.accepts.mpr ⟨a, b, c, level⟩)
      · exact fun garbage => zero (isKnxGroupAddr_zero.mpr (.inl garbage))
      · exact fun fits => zero (isKnxGroupAddr_zero.mpr (.inr fits))
  · rintro (short | ⟨refused, covered⟩)
    · obtain ⟨a, b, c, level⟩ := short.level
      have zero := isKnxGroupAddr_zero.mpr (.inr short.narrow)
      obtain ⟨first, second⟩ := level.value
      exact ⟨⟨fun _ => ⟨a, b, c, level⟩, fun _ => zero⟩, fun _ => ⟨a, b, c, level, first, second⟩,
        first.trans second.symm⟩
    · have nonzero : isKnxGroupAddr text ≠ 0 := by
        intro zero
        rcases isKnxGroupAddr_zero.mp zero with garbage | fits
        · exact refused.number garbage
        · exact refused.unfit fits
      refine ⟨⟨fun zero => absurd zero nonzero, ?_⟩, fun zero => absurd zero nonzero,
        same_iff.mpr covered⟩
      rintro ⟨a, b, c, level⟩
      exact absurd level (refused.other a b c)

end

theorem digitVal_ten {c : Char} (digit : c.isDigit = true) :
    digitVal 10 c = some (c.toNat - 48) := by
  have range : 48 ≤ c.toNat ∧ c.toNat ≤ 57 := by
    simp only [Char.isDigit, Bool.and_eq_true, decide_eq_true_eq] at digit
    exact digit
  have small : c.toNat - 48 < 10 := by omega
  simp [digitVal, digit, small]

theorem decimal_spelled (n : Nat) : Spelled 10 (decimal n) n := by
  have digit : ∀ c ∈ decimal n, c.isDigit = true :=
    fun c mem => Nat.isDigit_of_mem_toDigits (by decide) (by decide) mem
  have value : ∀ (ds : Text) (acc : Nat), (∀ c ∈ ds, c.isDigit = true) →
      digitsValue 10 acc ds = Nat.ofDigitChars 10 ds acc := by
    intro ds
    induction ds with
    | nil => intro acc _; rfl
    | cons c ds ih =>
      intro acc all
      have rest := ih (acc * 10 + (c.toNat - 48)) fun c mem => all c (List.mem_cons_of_mem _ mem)
      rw [Nat.ofDigitChars_cons, Nat.mul_comm 10 acc]
      simpa [digitsValue, digitVal_ten (all c List.mem_cons_self)] using rest
  refine ⟨Nat.toDigits_ne_nil, ?_, ?_⟩
  · intro c mem
    rw [isDigitOf, digitVal_ten (digit c mem)]
    rfl
  · rw [value _ _ digit, decimal, Nat.ofDigitChars_ten_toDigits]

/-- `g>>11 / g>>8 & 7 / g & 255` -/
def printThree (g : Nat) : Text := groupText (g >>> 11) (g >>> 8 &&& 7) (g &&& 255)

/-- `g>>11 / g & 2047` -/
def printTwo (g : Nat) : Text := decimal (g >>> 11) ++ '/' :: decimal (g &&& 2047)

theorem printThree_level {g : Nat} (small : g < 2 ^ 16) :
    ThreeLevel (printThree g) (g / 2048) (g / 256 % 8) (g % 256) := by
  have shift : g >>> 11 = g / 2048 ∧ g >>> 8 &&& 7 = g / 256 % 8 ∧ g &&& 255 = g % 256 :=
    ⟨Nat.shiftRight_eq_div_pow g 11,
      by rw [Nat.shiftRight_eq_div_pow, Nat.and_two_pow_sub_one_eq_mod _ 3],
      Nat.and_two_pow_sub_one_eq_mod g 8⟩
  rw [printThree, shift.1, shift.2.1, shift.2.2]
  exact ⟨⟨_, _, _, rfl, decimal_spelled _, decimal_spelled _, decimal_spelled _⟩,
    by omega, by omega, by omega⟩

theorem printTwo_level {g : Nat} (small : g < 2 ^ 16) :
    TwoLevel (printTwo g) (g / 2048) (g % 2048) := by
  have shift : g >>> 11 = g / 2048 ∧ g &&& 2047 = g % 2048 :=
    ⟨Nat.shiftRight_eq_div_pow g 11, Nat.and_two_pow_sub_one_eq_mod g 11⟩
  rw [printTwo, shift.1, shift.2]
  exact ⟨⟨_, _, rfl, decimal_spelled _, decimal_spelled _⟩, by omega, by omega⟩

def ReadsBack (g : Nat) : Prop :=
  readgaddr (printThree g) = g ∧ knxGrpAddr (printThree g) = g ∧
    readgaddr (printTwo g) = g ∧ knxGrpAddr (printTwo g) = g

theorem reads_back {g : Nat} (small : g < 2 ^ 16) : ReadsBack g := by
  have three := (printThree_level small).value
  have level := printTwo_level small
  have bounds := And.intro level.a level.b
  have first := (ReadsAs.two level.fields bounds).readgaddr
  have second := knxGrpAddr_of_two level.fields bounds
  exact ⟨by omega, by omega, by omega, by omega⟩

theorem readers_agree_iff (text : Text) (g : Fin (2 ^ 16)) :
    (ReadersAgree text ↔
      ShortLevel text ∨ Refused text ∧ ∀ k, Overflows text k → ReadsAs text k) ∧ ReadsBack g :=
  ⟨readersAgree_iff, reads_back g.2⟩

/-- No number is read from a word, and the count of zero is the code for a valid address. -/
theorem kitchen_accepted : isKnxGroupAddr "kitchen".toList = 0 ∧ ¬ ReadersAgree "kitchen".toList ∧
    readgaddr "80000000".toList = 0xFFFF ∧ knxGrpAddr "80000000".toList = 0 := by
  have zero : isKnxGroupAddr "kitchen".toList = 0 := by decide
  refine ⟨zero, ?_, by decide, by decide⟩
  intro agree
  obtain ⟨a, b, c, level⟩ := agree.accepts.mp zero
  exact not_spells_kitchen (.three level)

end HiMaxGateway.Knx
