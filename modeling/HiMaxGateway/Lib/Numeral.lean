import HiMaxGateway.Lib.CText
import Mathlib.Data.List.TakeWhile

/-! The numerals that `sscanf` takes out of a text, as a grammar, and the reader against it: what
is read is the longest numeral that fits the width. -/
namespace CText

section

variable {base width : Nat} {text rest body : Text}

def isDigitOf (base : Nat) (c : Char) : Bool := (digitVal base c).isSome

/-- Digits only. -/
def Digits (base : Nat) (text : Text) : Prop := ∀ c ∈ text, isDigitOf base c = true

def digitsValue (base acc : Nat) (text : Text) : Nat :=
  text.foldl (fun acc c => acc * base + (digitVal base c).getD 0) acc

def StartsWith (p : Char → Bool) (text : Text) : Prop := ∃ c ∈ text.head?, p c = true

@[simp] theorem startsWith_nil (p : Char → Bool) : ¬ StartsWith p [] := by simp [StartsWith]

@[simp] theorem startsWith_cons (p : Char → Bool) (c : Char) :
    StartsWith p (c :: text) ↔ p c = true := by
  simp [StartsWith]

theorem digits_append {ds : Text} (all : Digits base ds) (fits : ds.length ≤ width)
    (ends : ds.length = width ∨ ¬ StartsWith (isDigitOf base) rest) (acc : Nat) :
    digits base width acc (ds ++ rest) = (digitsValue base acc ds, rest) := by
  induction ds generalizing width acc with
  | nil =>
    cases width with
    | zero => rfl
    | succ width =>
      have stops : ¬ StartsWith (isDigitOf base) rest := ends.resolve_left (by simp)
      cases rest with
      | nil => rfl
      | cons c rest =>
        have none : digitVal base c = none := by simpa [isDigitOf] using stops
        simp [digits, none, digitsValue]
  | cons c ds ih =>
    cases width with
    | zero => simp at fits
    | succ width =>
      obtain ⟨d, read⟩ := Option.isSome_iff_exists.mp (all c List.mem_cons_self)
      have rest := ih (fun c mem => all c (List.mem_cons_of_mem _ mem)) (by simpa using fits)
        (by simpa using ends) (acc * base + d)
      simp [digits, read, rest, digitsValue]

theorem digits_split (base width : Nat) (text : Text) :
    ∃ ds rest, text = ds ++ rest ∧ Digits base ds ∧ ds.length ≤ width ∧
      (ds.length = width ∨ ¬ StartsWith (isDigitOf base) rest) := by
  induction width generalizing text with
  | zero => exact ⟨[], text, rfl, by simp [Digits], le_rfl, .inl rfl⟩
  | succ width ih =>
    cases text with
    | nil => exact ⟨[], [], rfl, by simp [Digits], by simp, .inr (by simp)⟩
    | cons c text =>
      by_cases digit : isDigitOf base c = true
      · obtain ⟨ds, rest, rfl, all, fits, ends⟩ := ih text
        refine ⟨c :: ds, rest, rfl, ?_, by simpa using fits, by simpa using ends⟩
        intro d mem
        rcases List.mem_cons.mp mem with rfl | later
        · exact digit
        · exact all d later
      · exact ⟨[], c :: text, rfl, by simp [Digits], by simp, .inr (by simpa using digit)⟩

/-- What a number looks like without its sign. -/
inductive Magnitude (base : Nat) : Text → Nat → Prop where
  | plain {ds : Text} (nonempty : ds ≠ []) (all : Digits base ds) :
      Magnitude base ds (digitsValue base 0 ds)
  | marked {x : Char} {ds : Text} (hex : base = 16) (mark : x = 'x' ∨ x = 'X')
      (all : Digits base ds) : Magnitude base ('0' :: x :: ds) (digitsValue base 0 ds)

def isHexMark (c : Char) : Bool := c == 'x' || c == 'X'

/-- The numeral could have been read on. -/
def Continues (base : Nat) (body rest : Text) : Prop :=
  StartsWith (isDigitOf base) rest ∨ base = 16 ∧ body = ['0'] ∧ StartsWith isHexMark rest

/-- As much was read as the text and the width allow. -/
structure Longest (base width : Nat) (body rest : Text) : Prop where
  fits : body.length ≤ width
  ends : body.length = width ∨ ¬ Continues base body rest

theorem magnitude_plain {c : Char} {d : Nat} (read : digitVal base c = some d)
    (plain : ¬ (base = 16 ∧ c = '0' ∧ 0 < width ∧ StartsWith isHexMark text)) :
    magnitude base (width + 1) (c :: text) = some (digits base width d text) := by
  simp only [magnitude, read]
  split
  · rename_i zero
    simp only [Bool.and_eq_true, beq_iff_eq] at zero
    split
    · rename_i mark
      exact absurd ⟨zero.1, zero.2, by omega, by simpa [isHexMark] using mark⟩ plain
    · rfl
  · rfl

theorem magnitude_marked {x : Char} (mark : isHexMark x = true) :
    magnitude 16 (width + 2) ('0' :: x :: text) = some (digits 16 width 0 text) := by
  have zero : digitVal 16 '0' = some 0 := by decide
  simp only [isHexMark] at mark
  simp [magnitude, zero, mark]

theorem magnitude_append {n : Nat} (numeral : Magnitude base body n)
    (longest : Longest base width body rest) :
    magnitude base width (body ++ rest) = some (n, rest) := by
  obtain ⟨fits, ends⟩ := longest
  cases numeral with
  | plain nonempty all =>
    obtain ⟨c, ds, rfl⟩ := List.exists_cons_of_ne_nil nonempty
    obtain ⟨width, rfl⟩ : ∃ w, width = w + 1 := ⟨width - 1, by simp at fits; omega⟩
    obtain ⟨d, read⟩ := Option.isSome_iff_exists.mp (all c List.mem_cons_self)
    have later : Digits base ds := fun c mem => all c (List.mem_cons_of_mem _ mem)
    rw [List.cons_append, magnitude_plain read, digits_append later (by simpa using fits)]
    · simp [digitsValue, read]
    · rcases ends with full | stops
      · exact .inl (by simpa using full)
      · exact .inr fun more => stops (.inl more)
    · rintro ⟨rfl, rfl, room, mark⟩
      cases ds with
      | nil =>
        rcases ends with full | stops
        · simp only [List.length_singleton] at full
          omega
        · exact stops (.inr ⟨rfl, rfl, mark⟩)
      | cons x ds =>
        -- the marks are no digits
        have digit := later x List.mem_cons_self
        simp only [List.cons_append, startsWith_cons, isHexMark, Bool.or_eq_true,
          beq_iff_eq] at mark
        rcases mark with rfl | rfl
        · exact absurd digit (by decide)
        · exact absurd digit (by decide)
  | marked hex mark all =>
    subst hex
    rename_i x ds
    obtain ⟨width, rfl⟩ : ∃ w, width = w + 2 := ⟨width - 2, by simp at fits; omega⟩
    rw [List.cons_append, List.cons_append, magnitude_marked (by simpa [isHexMark] using mark),
      digits_append all (by simpa using fits)]
    rcases ends with full | stops
    · exact .inl (by simpa using full)
    · exact .inr fun more => stops (.inl more)

theorem magnitude_split {c : Char} (width : Nat) (text : Text) (digit : isDigitOf base c = true) :
    ∃ body rest n, c :: text = body ++ rest ∧ Magnitude base body n ∧
      Longest base (width + 1) body rest := by
  by_cases marked : base = 16 ∧ c = '0' ∧ 0 < width ∧ StartsWith isHexMark text
  · obtain ⟨rfl, rfl, room, mark⟩ := marked
    obtain ⟨width, rfl⟩ : ∃ w, width = w + 1 := ⟨width - 1, by omega⟩
    cases text with
    | nil => simp at mark
    | cons x text =>
      obtain ⟨ds, rest, rfl, all, fits, ends⟩ := digits_split 16 width text
      refine ⟨'0' :: x :: ds, rest, _, rfl, .marked rfl (by simpa [isHexMark] using mark) all,
        by simpa using fits, ?_⟩
      rcases ends with full | stops
      · exact .inl (by simpa using full)
      · refine .inr ?_
        rintro (more | ⟨-, short, -⟩)
        · exact stops more
        · simp at short
  · obtain ⟨ds, rest, rfl, all, fits, ends⟩ := digits_split base width text
    have every : Digits base (c :: ds) := by
      intro d mem
      rcases List.mem_cons.mp mem with rfl | later
      · exact digit
      · exact all d later
    refine ⟨c :: ds, rest, _, rfl, .plain (by simp) every, by simpa using fits, ?_⟩
    rcases ends with full | stops
    · exact .inl (by simpa using full)
    · by_cases room : 0 < width
      · refine .inr ?_
        rintro (more | ⟨rfl, short, mark⟩)
        · exact stops more
        · obtain ⟨rfl, rfl⟩ := List.cons.inj short
          exact marked ⟨rfl, rfl, room, mark⟩
      · exact .inl (by simp; omega)

theorem magnitude_iff {n : Nat} : magnitude base width text = some (n, rest) ↔
    ∃ body, text = body ++ rest ∧ Magnitude base body n ∧ Longest base width body rest := by
  constructor
  · intro read
    cases width with
    | zero => simp [magnitude] at read
    | succ width =>
      cases text with
      | nil => simp [magnitude] at read
      | cons c text =>
        by_cases digit : isDigitOf base c = true
        · obtain ⟨body, rest', n', whole, numeral, longest⟩ :=
            magnitude_split width text digit
          have again := magnitude_append numeral longest
          rw [← whole, read] at again
          cases again
          exact ⟨body, whole, numeral, longest⟩
        · have none : digitVal base c = none := by simpa [isDigitOf] using digit
          simp [magnitude, none] at read
  · rintro ⟨body, rfl, numeral, longest⟩
    exact magnitude_append numeral longest

/-- The longest number at the start of a text, and what comes behind it; the sign counts against
the width. -/
inductive Numeral (base width : Nat) : Text → Number → Text → Prop where
  | unsigned {body rest : Text} {n : Nat} (magnitude : Magnitude base body n)
      (longest : Longest base width body rest) : Numeral base width (body ++ rest) ⟨false, n⟩ rest
  | plus {body rest : Text} {n : Nat} (magnitude : Magnitude base body n)
      (longest : Longest base (width - 1) body rest) :
      Numeral base width ('+' :: (body ++ rest)) ⟨false, n⟩ rest
  | minus {body rest : Text} {n : Nat} (magnitude : Magnitude base body n)
      (longest : Longest base (width - 1) body rest) :
      Numeral base width ('-' :: (body ++ rest)) ⟨true, n⟩ rest

theorem digitVal_sign {c : Char} (sign : c = '-' ∨ c = '+') (base : Nat) :
    digitVal base c = none := by
  rcases sign with rfl | rfl
  · simp [digitVal, Char.isDigit]
  · simp [digitVal, Char.isDigit]

theorem Magnitude.digit {n : Nat} (numeral : Magnitude base body n) :
    ∃ c tail, body = c :: tail ∧ isDigitOf base c = true := by
  cases numeral with
  | plain nonempty all =>
    obtain ⟨c, ds, rfl⟩ := List.exists_cons_of_ne_nil nonempty
    exact ⟨c, ds, rfl, all c List.mem_cons_self⟩
  | marked hex mark all =>
    subst hex
    exact ⟨'0', _, rfl, by decide⟩

theorem number_of_digit {c : Char} (digit : isDigitOf base c = true) :
    number base width (c :: text) =
      (magnitude base width (c :: text)).map fun (mag, rest) => (⟨false, mag⟩, rest) := by
  have notSign {sign : Char} (sign_ : sign = '-' ∨ sign = '+') : c ≠ sign := by
    rintro rfl
    simp [isDigitOf, digitVal_sign sign_] at digit
  rw [number]
  · rintro text' same
    exact notSign (.inl rfl) (List.cons.inj same).1
  · rintro text' same
    exact notSign (.inr rfl) (List.cons.inj same).1

theorem number_iff {n : Number} :
    number base width text = some (n, rest) ↔ Numeral base width text n rest := by
  constructor
  · intro read
    unfold number at read
    split at read
    all_goals
      obtain ⟨⟨m, rest'⟩, inner, same⟩ := Option.map_eq_some_iff.mp read
      obtain ⟨rfl, rfl⟩ := Prod.mk.inj same
      obtain ⟨body, rfl, numeral, longest⟩ := magnitude_iff.mp inner
    · exact .minus numeral longest
    · exact .plus numeral longest
    · exact .unsigned numeral longest
  · intro numeral
    cases numeral with
    | unsigned numeral longest =>
      obtain ⟨c, tail, rfl, digit⟩ := numeral.digit
      have read := magnitude_append numeral longest
      rw [List.cons_append] at read ⊢
      rw [number_of_digit digit, read]
      rfl
    | plus numeral longest => rw [number, magnitude_append numeral longest]; rfl
    | minus numeral longest => rw [number, magnitude_append numeral longest]; rfl

/-- One conversion at the start of a text: blanks, then the longest numeral. -/
structure Scanned (conv : Conv) (width : Option Nat) (text : Text) (v : Int) (rest : Text) :
    Prop where
  read : ∃ blanks body n, text = blanks ++ body ∧ (∀ c ∈ blanks, isSpace c = true) ∧
    ¬ StartsWith isSpace body ∧ Numeral conv.base (width.getD body.length) body n rest ∧
    v = conv.value n

theorem skipSpace_append {blanks : Text} (blank : ∀ c ∈ blanks, isSpace c = true)
    (visible : ¬ StartsWith isSpace body) : skipSpace (blanks ++ body) = body := by
  rw [skipSpace, List.dropWhile_append_of_pos blank]
  cases body with
  | nil => rfl
  | cons c body => exact List.dropWhile_cons_of_neg (by simpa using visible)

theorem skipSpace_split (text : Text) : ∃ blanks, text = blanks ++ skipSpace text ∧
    (∀ c ∈ blanks, isSpace c = true) ∧ ¬ StartsWith isSpace (skipSpace text) := by
  refine ⟨text.takeWhile isSpace, List.takeWhile_append_dropWhile.symm, ?_, ?_⟩
  · intro c mem
    exact List.mem_takeWhile_imp mem
  · rintro ⟨c, head, space⟩
    have visible := List.head?_dropWhile_not isSpace text
    rw [skipSpace, Option.mem_def] at head
    rw [head] at visible
    simp [space] at visible

theorem scanned_iff {conv : Conv} {limit : Option Nat} {v : Int} : Scanned conv limit text v rest ↔
    ∃ n, number conv.base (limit.getD (skipSpace text).length) (skipSpace text) = some (n, rest) ∧
      v = conv.value n := by
  constructor
  · rintro ⟨blanks, body, n, rfl, blank, visible, numeral, rfl⟩
    exact ⟨n, by rw [skipSpace_append blank visible, number_iff]; exact numeral, rfl⟩
  · rintro ⟨n, read, rfl⟩
    obtain ⟨blanks, whole, blank, visible⟩ := skipSpace_split text
    exact ⟨blanks, _, n, whole, blank, visible, number_iff.mp read, rfl⟩

theorem scan_conv {conv : Conv} {limit : Option Nat} {v : Int}
    (field : Scanned conv limit text v rest) (format : List Directive) :
    scan (.conv conv limit :: format) text =
      (v :: (scan format rest).1, (scan format rest).2) := by
  obtain ⟨n, read, rfl⟩ := scanned_iff.mp field
  rw [scan]
  split
  · rename_i empty
    rw [empty] at read
    simp [number, magnitude] at read
  · rename_i c text' visible
    rw [visible, List.length_cons] at read
    rw [read]

theorem scan_conv_fails {conv : Conv} {limit : Option Nat}
    (fails : ∀ v rest, ¬ Scanned conv limit text v rest) (format : List Directive) :
    scan (.conv conv limit :: format) text = ([], text.all isSpace) := by
  rw [scan]
  split
  · rename_i empty
    have blank : ∀ c ∈ text, isSpace c = true := List.dropWhile_eq_nil_iff.mp empty
    rw [List.all_eq_true.mpr blank]
  · rename_i c text' visible
    have more : text.all isSpace = false := by
      rw [List.all_eq_false]
      obtain ⟨blanks, whole, -, other⟩ := skipSpace_split text
      refine ⟨c, ?_, by simpa [visible] using other⟩
      rw [whole, visible]
      simp
    cases read : number conv.base (limit.getD (text'.length + 1)) (c :: text') with
    | none => rw [more]
    | some out =>
      obtain ⟨n, rest⟩ := out
      exact absurd (scanned_iff.mpr ⟨n, by rw [visible]; exact read, rfl⟩) (fails _ _)

theorem Scanned.suffix {conv : Conv} {limit : Option Nat} {v : Int}
    (field : Scanned conv limit text v rest) : rest <:+ text := by
  obtain ⟨blanks, body, n, rfl, -, -, numeral, -⟩ := field
  have inner : rest <:+ body := by
    cases numeral with
    | unsigned => exact List.suffix_append _ _
    | plus => exact (List.suffix_append _ _).trans (List.suffix_cons _ _)
    | minus => exact (List.suffix_append _ _).trans (List.suffix_cons _ _)
  exact inner.trans (List.suffix_append _ _)

theorem Scanned.unique {conv : Conv} {limit : Option Nat} {v v' : Int} {rest' : Text}
    (first : Scanned conv limit text v rest) (second : Scanned conv limit text v' rest') :
    v = v' ∧ rest = rest' := by
  obtain ⟨n, read, rfl⟩ := scanned_iff.mp first
  obtain ⟨n', read', rfl⟩ := scanned_iff.mp second
  cases read.symm.trans read'
  exact ⟨rfl, rfl⟩

theorem sscanf_conv_cons {conv : Conv} {limit : Option Nat} {format : List Directive} {v : Int}
    {vs : List Int} : sscanf (.conv conv limit :: format) text = v :: vs ↔
      ∃ rest, Scanned conv limit text v rest ∧ sscanf format rest = vs := by
  by_cases some : ∃ v rest, Scanned conv limit text v rest
  · obtain ⟨v', rest, field⟩ := some
    simp only [sscanf, scan_conv field, List.cons.injEq]
    constructor
    · rintro ⟨rfl, rfl⟩
      exact ⟨rest, field, rfl⟩
    · rintro ⟨rest', field', rfl⟩
      obtain ⟨rfl, rfl⟩ := field.unique field'
      exact ⟨rfl, rfl⟩
  · simp only [not_exists] at some
    simp [sscanf, scan_conv_fails some, some]

theorem sscanf_conv_nil {conv : Conv} {limit : Option Nat} {format : List Directive} :
    sscanf (.conv conv limit :: format) text = [] ↔ ∀ v rest, ¬ Scanned conv limit text v rest := by
  constructor
  · intro none v rest field
    simp [sscanf, scan_conv field] at none
  · intro none
    simp [sscanf, scan_conv_fails none]

theorem sscanf_char_cons {c : Char} {format : List Directive} {v : Int} {vs : List Int} :
    sscanf (.char c :: format) text = v :: vs ↔
      ∃ rest, text = c :: rest ∧ sscanf format rest = v :: vs := by
  cases text with
  | nil => simp [sscanf, scan]
  | cons d text =>
    by_cases same : d = c
    · simp [sscanf, scan, same]
    · simp [sscanf, scan, same]

theorem sscanf_char_nil {c : Char} {format : List Directive} :
    sscanf (.char c :: format) text = [] ↔ ∀ rest, text = c :: rest → sscanf format rest = [] := by
  cases text with
  | nil => simp [sscanf, scan]
  | cons d text =>
    by_cases same : d = c
    · simp [sscanf, scan, same]
    · simp [sscanf, scan, same]

@[simp] theorem sscanf_nil : sscanf [] text = [] := rfl

theorem digit_le {base : Nat} {c : Char} (digit : isDigitOf base c = true) : 48 ≤ c.toNat := by
  simp only [isDigitOf, digitVal] at digit
  split at digit
  · rename_i dec
    simp only [Char.isDigit, Bool.and_eq_true, decide_eq_true_eq] at dec
    exact dec.1
  · split at digit
    · rename_i low
      simp only [Bool.and_eq_true, decide_eq_true_eq] at low
      have : 97 ≤ c.toNat := low.1
      omega
    · split at digit
      · rename_i up
        simp only [Bool.and_eq_true, decide_eq_true_eq] at up
        have : 65 ≤ c.toNat := up.1
        omega
      · simp at digit

theorem space_le {c : Char} (space : isSpace c = true) : c.toNat ≤ 32 := by
  simp only [isSpace, Bool.or_eq_true, beq_iff_eq, Bool.and_eq_true, decide_eq_true_eq] at space
  rcases space with rfl | ⟨-, le⟩
  · decide
  · have : c.toNat ≤ 13 := le
    omega
/-- The text is a number of the base, and nothing else. -/
structure Spelled (base : Nat) (text : Text) (n : Nat) : Prop where
  nonempty : text ≠ []
  all : Digits base text
  value : digitsValue base 0 text = n

theorem Spelled.magnitude {n : Nat} (spelled : Spelled base text n) : Magnitude base text n := by
  obtain ⟨nonempty, all, rfl⟩ := spelled
  exact .plain nonempty all

theorem Conv.value_small (conv : Conv) {n : Nat} (small : n < 2 ^ 31) :
    conv.value ⟨false, n⟩ = n := by
  have long : Number.long ⟨false, n⟩ = n := by
    have room : (n : Int) ≤ 2 ^ 31 - 1 := by omega
    exact Int.min_eq_right room
  have ulong : Number.ulong ⟨false, n⟩ = n := by
    have room : ¬ 2 ^ 32 ≤ n := by omega
    exact if_neg room
  cases conv with
  | d => exact long
  | u | x => exact congrArg _ ulong

/-- A number is read whole when it fills the width, or the width has room for it and no digit
follows. -/
theorem Spelled.scanned {n : Nat} (conv : Conv) (limit : Option Nat)
    (spelled : Spelled conv.base text n) (small : n < 2 ^ 31) (fits : ∀ w ∈ limit, text.length ≤ w)
    (ends : limit = some text.length ∨ ¬ Continues conv.base text rest) :
    Scanned conv limit (text ++ rest) n rest := by
  have visible : ¬ StartsWith isSpace (text ++ rest) := by
    obtain ⟨c, tail, rfl⟩ := List.exists_cons_of_ne_nil spelled.nonempty
    have high := digit_le (spelled.all c List.mem_cons_self)
    simp only [List.cons_append, startsWith_cons]
    intro space
    have low := space_le space
    omega
  have longest : Longest conv.base (limit.getD (text ++ rest).length) text rest := by
    constructor
    · cases limit with
      | none => simp
      | some w => exact fits w rfl
    · rcases ends with rfl | ends
      · exact .inl rfl
      · exact .inr ends
  exact ⟨[], _, _, rfl, by simp, visible, .unsigned spelled.magnitude longest,
    (conv.value_small small).symm⟩

theorem Spelled.scanned_last {n : Nat} (conv : Conv) (limit : Option Nat)
    (spelled : Spelled conv.base text n) (small : n < 2 ^ 31)
    (fits : ∀ w ∈ limit, text.length ≤ w) :
    Scanned conv limit text n [] := by
  have ends : ¬ Continues conv.base text [] := by simp [Continues]
  have field := spelled.scanned conv limit small fits (.inr ends)
  rwa [List.append_nil] at field

theorem le_digitsValue (positive : 0 < base) (acc : Nat) (text : Text) :
    acc ≤ digitsValue base acc text := by
  induction text generalizing acc with
  | nil => exact le_rfl
  | cons c text ih =>
    calc acc ≤ acc * base := Nat.le_mul_of_pos_right acc positive
      _ ≤ acc * base + (digitVal base c).getD 0 := Nat.le_add_right _ _
      _ ≤ digitsValue base acc (c :: text) := ih _

/-- A number that is too long for the width is cut, and does not get larger. -/
theorem Spelled.scanned_cut {n w : Nat} (conv : Conv) (spelled : Spelled conv.base text n)
    (small : n < 2 ^ 31) (positive : 0 < w) (long : w ≤ text.length) (rest : Text) :
    ∃ m : Nat, m ≤ n ∧ Scanned conv (some w) (text ++ rest) m (text.drop w ++ rest) := by
  have size : (text.take w).length = w := by
    rw [List.length_take]
    omega
  have split : digitsValue conv.base 0 text =
      digitsValue conv.base (digitsValue conv.base 0 (text.take w)) (text.drop w) := by
    rw [digitsValue, digitsValue, digitsValue, ← List.foldl_append, List.take_append_drop]
  have base : 0 < conv.base := by cases conv <;> decide
  have less : digitsValue conv.base 0 (text.take w) ≤ n := by
    rw [← spelled.value, split]
    exact le_digitsValue base _ _
  have part : Spelled conv.base (text.take w) (digitsValue conv.base 0 (text.take w)) := by
    refine ⟨?_, fun c mem => spelled.all c (List.mem_of_mem_take mem), rfl⟩
    intro empty
    rw [empty] at size
    exact absurd size (by simp; omega)
  refine ⟨_, less, ?_⟩
  have ends : some w = some (text.take w).length ∨
      ¬ Continues conv.base (text.take w) (text.drop w ++ rest) := .inl (by rw [size])
  have field := part.scanned conv (some w) (by omega) (by simp [size]) ends
  rwa [← List.append_assoc, List.take_append_drop] at field

end

end CText
