import Mathlib.Algebra.Ring.Int.Defs
import Mathlib.Algebra.Ring.Nat
import Mathlib.Data.List.Infix

/-! C text and the part of the standard library that reads numbers out of it:
`strstr`, `strtol` and `sscanf` with integer conversions. Text is a list of
characters without its terminator. Overflow follows glibc on a 32-bit target,
where `long` and `int` both have 32 bits and a number saturates. -/
namespace CText

abbrev Text := List Char

/-- A text as C stores it: no terminator inside. -/
abbrev Line := { text : Text // '\x00' ∉ text }

/-- Index of the first occurrence, in place of the pointer C returns. -/
def strstr (key : Text) : Text → Option Nat
  | [] => if key.isEmpty then some 0 else none
  | c :: cs => if key.isPrefixOf (c :: cs) then some 0 else (strstr key cs).map (· + 1)

theorem strstr_spec {key text : Text} (found : strstr key text = some i) :
    key <+: text.drop i := by
  induction text generalizing i with
  | nil =>
    simp only [strstr] at found
    split at found
    · rename_i empty
      simp [List.isEmpty_iff.mp empty]
    · contradiction
  | cons c cs ih =>
    simp only [strstr] at found
    split at found
    · rename_i here
      cases Option.some.inj found
      exact List.isPrefixOf_iff_prefix.mp here
    · obtain ⟨j, later, rfl⟩ := Option.map_eq_some_iff.mp found
      exact ih later

theorem strstr_isSome {key text : Text} : (strstr key text).isSome = true ↔ key <:+: text := by
  induction text with
  | nil => simp [strstr, List.isEmpty_iff, apply_ite Option.isSome]
  | cons c cs ih =>
    rw [List.infix_cons_iff, ← ih, ← List.isPrefixOf_iff_prefix, strstr]
    split <;> simp_all

theorem strstr_eq_none {key text : Text} : strstr key text = none ↔ ¬ key <:+: text := by
  rw [← strstr_isSome]
  cases strstr key text <;> simp

/-- `isspace` in the C locale. -/
def isSpace (c : Char) : Bool := c == ' ' || ('\t' ≤ c && c ≤ '\r')

def skipSpace (text : Text) : Text := text.dropWhile isSpace

def digitVal (base : Nat) (c : Char) : Option Nat :=
  let d := if c.isDigit then c.toNat - 48
    else if 'a' ≤ c && c ≤ 'f' then c.toNat - 87
    else if 'A' ≤ c && c ≤ 'F' then c.toNat - 55
    else base
  if d < base then some d else none

/-- At most `width` further digits. -/
def digits (base : Nat) : (width acc : Nat) → Text → Nat × Text
  | 0, acc, text => (acc, text)
  | _ + 1, acc, [] => (acc, [])
  | width + 1, acc, c :: text =>
      match digitVal base c with
      | some d => digits base width (acc * base + d) text
      | none => (acc, c :: text)

theorem digitVal_lt {base : Nat} {c : Char} (read : digitVal base c = some d) : d < base := by
  simp only [digitVal, Option.ite_none_right_eq_some, Option.some.injEq] at read
  obtain ⟨small, rfl⟩ := read
  exact small

/-- What was read before gives the leading digits. -/
theorem digits_leading {base : Nat} (width acc : Nat) (text : Text) :
    ∃ k, acc * base ^ k ≤ (digits base width acc text).1 ∧
      (digits base width acc text).1 < (acc + 1) * base ^ k := by
  induction width generalizing acc text with
  | zero => exact ⟨0, by simp [digits]⟩
  | succ width ih =>
    cases text with
    | nil => exact ⟨0, by simp [digits]⟩
    | cons c text =>
      cases read : digitVal base c with
      | none => exact ⟨0, by simp [digits, read]⟩
      | some d =>
        have small := digitVal_lt read
        obtain ⟨k, least, less⟩ := ih (acc * base + d) text
        simp only [digits, read]
        refine ⟨k + 1, ?_, ?_⟩
        · calc acc * base ^ (k + 1) = acc * base * base ^ k := by rw [Nat.pow_succ', Nat.mul_assoc]
            _ ≤ (acc * base + d) * base ^ k := Nat.mul_le_mul_right _ (Nat.le_add_right _ _)
            _ ≤ _ := least
        · calc (digits base width (acc * base + d) text).1
              < (acc * base + d + 1) * base ^ k := less
            _ ≤ (acc + 1) * base * base ^ k :=
                Nat.mul_le_mul_right _ (by rw [Nat.add_one_mul]; omega)
            _ = (acc + 1) * base ^ (k + 1) := by rw [Nat.pow_succ', Nat.mul_assoc]

/-- At least one digit; base 16 also takes the `0x` prefix, which counts against the width. -/
def magnitude (base : Nat) : (width : Nat) → Text → Option (Nat × Text)
  | width + 1, c :: text =>
      match digitVal base c with
      | none => none
      | some d =>
          match base == 16 && c == '0', width, text with
          | true, width' + 1, x :: text' =>
              if x == 'x' || x == 'X' then some (digits base width' 0 text')
              else some (digits base width d text)
          | _, _, _ => some (digits base width d text)
  | _, _ => none

structure Number where
  neg : Bool
  mag : Nat
  deriving DecidableEq, Repr

def number (base width : Nat) : Text → Option (Number × Text)
  | '-' :: text => (magnitude base (width - 1) text).map fun (mag, rest) => (⟨true, mag⟩, rest)
  | '+' :: text => (magnitude base (width - 1) text).map fun (mag, rest) => (⟨false, mag⟩, rest)
  | text => (magnitude base width text).map fun (mag, rest) => (⟨false, mag⟩, rest)

/-- The value of `strtol`, which saturates. -/
def Number.long (n : Number) : Int :=
  if n.neg then max (-2 ^ 31) (-n.mag) else min (2 ^ 31 - 1) n.mag

/-- `strtol` sets `errno` to `ERANGE`. -/
def Number.erange (n : Number) : Bool := if n.neg then 2 ^ 31 < n.mag else 2 ^ 31 ≤ n.mag

def Number.ulong (n : Number) : Nat :=
  if 2 ^ 32 ≤ n.mag then 2 ^ 32 - 1 else if n.neg then (2 ^ 32 - n.mag) % 2 ^ 32 else n.mag

theorem Number.ulong_lt (n : Number) : n.ulong < 2 ^ 32 := by
  rw [Number.ulong]
  split
  · decide
  · split <;> omega

/-- `strtol (text, &end, 10)`; no number when `end` is left at the start. -/
def strtol (text : Text) : Option Number :=
  let text := skipSpace text
  (number 10 text.length text).map (·.1)

inductive Conv where
  | d
  | u
  | x
  deriving DecidableEq, Repr

def Conv.base : Conv → Nat
  | .d | .u => 10
  | .x => 16

/-- The number as the object of the conversion holds it, which is as wide as a `long`. -/
def Conv.value : Conv → Number → Int
  | .d, n => n.long
  | .u, n | .x, n => n.ulong

inductive Directive where
  | conv (conv : Conv) (width : Option Nat)
  | char (c : Char)
  | space
  deriving DecidableEq, Repr

/-- The converted values, and whether the scan ran into the end of the text. -/
def scan : List Directive → Text → List Int × Bool
  | [], _ => ([], false)
  | .space :: rest, text => scan rest (skipSpace text)
  | .char c :: rest, text =>
      match text with
      | [] => ([], true)
      | c' :: text' => if c' = c then scan rest text' else ([], false)
  | .conv conv width :: rest, text =>
      match skipSpace text with
      | [] => ([], true)
      | c :: text' =>
          match number conv.base (width.getD (text'.length + 1)) (c :: text') with
          | none => ([], false)
          | some (n, text'') =>
              let (values, atEnd) := scan rest text''
              (conv.value n :: values, atEnd)

/-- The values `sscanf` assigns; their number is its result when it is not `EOF`. -/
def sscanf (format : List Directive) (text : Text) : List Int := (scan format text).1

end CText
