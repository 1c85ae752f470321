import HiMaxGateway.Lib.Search
import HiMaxGateway.Knx.PacketProofs
import Mathlib.Data.List.TakeWhile
import Mathlib.Tactic.IntervalCases

/-! A group telegram, as the bus monitor prints it, and what `KNX_ParsePacket` makes of the
line. -/
namespace HiMaxGateway.Knx
open CText CRun

/-- A number as `%d` prints it. -/
def decimal (n : Nat) : Text := Nat.toDigits 10 n

def physicalText (a b c : Nat) : Text := decimal a ++ '.' :: (decimal b ++ '.' :: decimal c)

def groupText (x y z : Nat) : Text := decimal x ++ '/' :: (decimal y ++ '/' :: decimal z)

def hexDigit (upper : Bool) (d : Nat) : Char :=
  (if upper then "0123456789ABCDEF".toList else "0123456789abcdef".toList).getD d '0'

/-- A byte as `%02X` or `%02x` prints it. -/
def hexText (upper : Bool) (byte : Nat) : Text :=
  [hexDigit upper (byte / 16), hexDigit upper (byte % 16)]

/-- The payload of a telegram: six bits within the service byte, or one or two bytes behind it. -/
inductive Payload where
  | small (value : Nat)
  | byte (value : Nat)
  | word (high low : Nat)
  deriving DecidableEq, Repr

def Payload.Valid : Payload → Prop
  | .small value => value < 64
  | .byte value => value < 256
  | .word high low => high < 256 ∧ low < 256

def Payload.value : Payload → Nat
  | .small value | .byte value => value
  | .word high low => high * 256 + low

def smallMark : Text := " (small) ".toList

def Payload.text (upper : Bool) : Payload → Text
  | .small value => smallMark ++ hexText upper value
  | .byte value => ' ' :: hexText upper value
  | .word high low => ' ' :: (hexText upper high ++ ' ' :: hexText upper low)

/-- The body of a block of one or two bytes. -/
def Payload.ofBlock : List Nat → Option Payload
  | [value] => some (.byte value)
  | [high, low] => some (.word high low)
  | _ => none

inductive GroupCmd where
  | write
  | response
  deriving DecidableEq, Repr

def GroupCmd.name : GroupCmd → Text
  | .write => "Write".toList
  | .response => "Response".toList

/-- All services of group values start so. -/
def stem : Text := "A_GroupValue_".toList

def busLine (pre source group mid service : Text) : Text :=
  pre ++ (fromKey ++ (source ++ (toKey ++ (group ++ (hopsKey ++ (mid ++ (stem ++ service)))))))

/-- The texts around the addresses and the service hold none of the keys that are looked for
before; `repeated` may stand in them. -/
structure Framed (pre mid tail : Text) : Prop where
  noFrom : ¬ fromKey <:+: pre
  noTo : ¬ toKey <:+: pre
  noHops : ¬ hopsKey <:+: pre
  noService : ¬ stem <:+: pre
  noOther : ¬ stem <:+: mid
  blank : ∀ c ∈ tail, isSpace c = true

/-- The telegram is marked as a repetition. -/
def Repeated (pre mid : Text) : Prop := repeatedKey <:+: pre ∨ repeatedKey <:+: mid

/-- A printed address. -/
structure AddrText (text : Text) : Prop where
  nonempty : text ≠ []
  chars : ∀ c ∈ text, c.isDigit = true ∨ c = '.' ∨ c = '/'

section

variable {pre mid tail source group service : Text}

theorem AddrText.absent (addr : AddrText source) (c : Char)
    (other : (c.isDigit || c == '.' || c == '/') = false) : c ∉ source := by
  intro mem
  rcases addr.chars c mem with digit | rfl | rfl
  · simp [digit] at other
  · simp at other
  · simp at other

theorem fromKey_eq : fromKey = ['f', 'r', 'o', 'm', ' '] := rfl

theorem toKey_eq : toKey = [' ', 't', 'o', ' '] := rfl

theorem hopsKey_eq : hopsKey = [' ', 'h', 'o', 'p', 's'] := rfl

theorem from_at (framed : Framed pre mid tail) :
    strstr fromKey (busLine pre source group mid service) = some pre.length := by
  apply strstr_first (by decide)
  rw [List.dropLast_append_of_ne_nil (by decide)]
  intro within
  rcases infix_split_head (c := 'f') (by decide) within with before | here | later
  · exact framed.noFrom before
  · exact absurd here (by decide)
  · exact absurd later (by decide)

theorem to_at (framed : Framed pre mid tail) (addr : AddrText source) :
    strstr toKey (busLine pre source group mid service) =
      some (pre.length + fromKey.length + source.length) := by
  have fresh : ¬ toKey <:+: (pre ++ fromKey ++ source ++ toKey).dropLast := by
    rw [List.dropLast_append_of_ne_nil (by decide), List.append_assoc, List.append_assoc,
      fromKey_eq, toKey_eq]
    intro within
    have within :
        toKey <:+: pre ++ 'f' :: (['r', 'o', 'm'] ++ ' ' :: (source ++ [' ', 't', 'o'])) :=
      within
    rcases (infix_split (by decide)).mp within with before | later
    · exact framed.noTo before
    · -- behind the blank of `from ` comes a digit, and no other blank before that of ` to `
      have later := infix_skip (by decide) later
      rcases List.infix_cons_iff.mp later with start | later
      · obtain ⟨c, rest, rfl⟩ := List.exists_cons_of_ne_nil addr.nonempty
        have digit := (List.cons_prefix_cons.mp (List.cons_prefix_cons.mp start).2).1
        exact addr.absent 't' (by decide) (digit ▸ List.mem_cons_self)
      · have later := infix_skip (addr.absent ' ' (by decide)) later
        exact absurd later (by decide)
  have found := strstr_first (by decide) fresh (group ++ (hopsKey ++ (mid ++ (stem ++ service))))
  simpa [busLine, Nat.add_assoc] using found

theorem hops_at (framed : Framed pre mid tail) (addr : AddrText source) (grp : AddrText group) :
    strstr hopsKey (busLine pre source group mid service) =
      some (pre.length + fromKey.length + source.length + toKey.length + group.length) := by
  have fresh : ¬ hopsKey <:+: (pre ++ fromKey ++ source ++ toKey ++ group ++ hopsKey).dropLast := by
    rw [List.dropLast_append_of_ne_nil (by decide), List.append_assoc, List.append_assoc,
      List.append_assoc, List.append_assoc, fromKey_eq]
    intro within
    have within : hopsKey <:+: pre ++ 'f' :: (['r', 'o', 'm', ' '] ++
        (source ++ (toKey ++ (group ++ hopsKey.dropLast)))) := within
    rcases (infix_split (by decide)).mp within with before | later
    · exact framed.noHops before
    · refine not_infix_of_mem (c := 's') (by decide) ?_ later
      rw [List.mem_append, List.mem_append, List.mem_append, List.mem_append]
      simp only [not_or]
      exact ⟨by decide, addr.absent 's' (by decide), by decide, grp.absent 's' (by decide),
        by decide⟩
  have found := strstr_first (by decide) fresh (mid ++ (stem ++ service))
  simpa [busLine, Nat.add_assoc] using found

theorem cut_middle (a b c : Text) : cut (a ++ (b ++ c)) a.length (a.length + b.length) = b := by
  simp [cut]

theorem addrFields_busLine (framed : Framed pre mid tail) (addr : AddrText source)
    (grp : AddrText group) :
    addrFields (busLine pre source group mid service) = some (source, group) := by
  have first := cut_middle (pre ++ fromKey) source
    (toKey ++ (group ++ (hopsKey ++ (mid ++ (stem ++ service)))))
  have second := cut_middle (pre ++ fromKey ++ source ++ toKey) group
    (hopsKey ++ (mid ++ (stem ++ service)))
  simp only [List.append_assoc, List.length_append, ← Nat.add_assoc] at first second
  rw [addrFields, from_at framed, to_at framed addr, hops_at framed addr grp]
  simp only [busLine, Nat.le_add_right, and_self, if_true, first, second]

/-- What stands before the service. -/
def lineHead (pre source group mid : Text) : Text :=
  pre ++ (fromKey ++ (source ++ (toKey ++ (group ++ (hopsKey ++ mid)))))

theorem busLine_eq (pre source group mid service : Text) :
    busLine pre source group mid service = lineHead pre source group mid ++ (stem ++ service) := by
  simp [busLine, lineHead]

/-- A key that cannot lie in the part with the addresses. -/
theorem infix_lineHead {k : Char} {key : Text} (addr : AddrText source) (grp : AddrText group)
    (noF : 'f' ∉ k :: key) (noH : 'h' ∉ k :: key) (hasE : 'e' ∈ k :: key)
    (start : k ∉ ['o', 'p', 's']) :
    k :: key <:+: lineHead pre source group mid ↔ k :: key <:+: pre ∨ k :: key <:+: mid := by
  have parts : lineHead pre source group mid = pre ++ 'f' :: (['r', 'o', 'm', ' '] ++
      (source ++ (toKey ++ (group ++ [' '])))  ++ 'h' :: (['o', 'p', 's'] ++ mid)) := by
    simp [lineHead, fromKey_eq, hopsKey_eq]
  have absent : 'e' ∉ ['r', 'o', 'm', ' '] ++ (source ++ (toKey ++ (group ++ [' ']))) := by
    rw [List.mem_append, List.mem_append, List.mem_append, List.mem_append]
    simp only [not_or]
    exact ⟨by decide, addr.absent 'e' (by decide), by decide, grp.absent 'e' (by decide),
      by decide⟩
  rw [parts, infix_split noF, infix_split noH]
  constructor
  · rintro (before | middle | after)
    · exact .inl before
    · exact absurd middle (not_infix_of_mem hasE absent)
    · exact .inr (infix_skip start after)
  · rintro (before | after)
    · exact .inl before
    · exact .inr (.inr (after.trans (List.suffix_append _ _).isInfix))

/-- The keys of the services are found at the service of the line, or nowhere. -/
theorem strstr_service {key : Text} (framed : Framed pre mid tail) (addr : AddrText source)
    (grp : AddrText group) (start : stem <+: key) (other : 'V' ∉ service) :
    strstr key (busLine pre source group mid service) =
      if key.isPrefixOf (stem ++ service) then
        some (lineHead pre source group mid).length
      else none := by
  rw [busLine_eq]
  apply strstr_stem (by decide) start
  · rw [List.dropLast_append_of_ne_nil (by decide)]
    intro within
    rcases infix_split_head (c := 'A') (by decide) within with before | here | later
    · rcases (infix_lineHead addr grp (by decide) (by decide) (by decide) (by decide)).mp before
        with pre | mid
      · exact framed.noService pre
      · exact framed.noOther mid
    · exact absurd here (by decide)
    · exact absurd later (by decide)
  · intro within
    have within : stem <:+: stem.tail ++ service := within
    have later := infix_skip (c := 'A') (by decide) within
    exact not_infix_of_mem (c := 'V') (by decide) other later

theorem hexDigit_spec (upper : Bool) (d : Nat) (small : d < 16) :
    digitVal 16 (hexDigit upper d) = some d ∧ isSpace (hexDigit upper d) = false ∧
      hexDigit upper d ∉ ['-', '+', 'x', 'X', '(', 'V', 'r'] := by
  revert upper d
  decide

theorem magnitude_two {c d : Char} {h l : Nat} (high : digitVal 16 c = some h)
    (low : digitVal 16 d = some l) (rest : Text) :
    magnitude 16 2 (c :: d :: rest) = some (h * 16 + l, rest) := by
  have noX : (d == 'x' || d == 'X') = false := by
    rw [Bool.or_eq_false_iff, beq_eq_false_iff_ne, beq_eq_false_iff_ne]
    constructor
    · rintro rfl
      simp [show digitVal 16 'x' = none by decide] at low
    · rintro rfl
      simp [show digitVal 16 'X' = none by decide] at low
  have two : digits 16 1 h (d :: rest) = (h * 16 + l, rest) := by
    simp only [digits, low]
  cases zero : (16 == 16 && c == '0') <;>
    simp only [magnitude, high, zero, noX, two, Bool.false_eq_true, if_false]

theorem number_two {c d : Char} {h l : Nat} (high : digitVal 16 c = some h)
    (low : digitVal 16 d = some l) (rest : Text) :
    number 16 2 (c :: d :: rest) = some (⟨false, h * 16 + l⟩, rest) := by
  unfold number
  split
  · rename_i same
    obtain ⟨rfl, -⟩ := List.cons.inj same
    simp [show digitVal 16 '-' = none by decide] at high
  · rename_i same
    obtain ⟨rfl, -⟩ := List.cons.inj same
    simp [show digitVal 16 '+' = none by decide] at high
  · rw [magnitude_two high low]
    rfl

/-- A conversion of two digits reads one byte, whatever follows. -/
theorem scan_hexText {upper : Bool} {byte : Nat} (small : byte < 256) (rest : Text)
    (format : List Directive) :
    scan (.conv .x (some 2) :: format) (hexText upper byte ++ rest) =
      ((byte : Int) :: (scan format rest).1, (scan format rest).2) := by
  have high := hexDigit_spec upper (byte / 16) (by omega)
  have low := hexDigit_spec upper (byte % 16) (by omega)
  have whole : byte / 16 * 16 + byte % 16 = byte := by omega
  have read := number_two high.1 low.1 rest
  rw [whole] at read
  have value : Conv.x.value ⟨false, byte⟩ = byte := by
    simp only [Conv.value, Number.ulong]
    rw [if_neg (by omega)]
    simp only [Bool.false_eq_true, if_false]
  simp only [hexText, List.cons_append, List.nil_append, scan, skipSpace, List.dropWhile_cons,
    high.2.1, Bool.false_eq_true, if_false, Conv.base, Option.getD_some, read, value]

theorem smallPayload_hexText {upper : Bool} {byte : Nat} (small : byte < 256) (rest : Text) :
    smallPayload (hexText upper byte ++ rest) = some byte := by
  have read : sscanf [.conv .x (some 2)] (hexText upper byte ++ rest) = [(byte : Int)] := by
    rw [sscanf, scan_hexText small]
    rfl
  simp only [smallPayload, read, Int.toNat_natCast]
  rw [Nat.mod_eq_of_lt (by omega)]

theorem payload_byte {upper : Bool} {byte : Nat} (small : byte < 256)
    (blank : ∀ c ∈ tail, isSpace c = true) : payload (hexText upper byte ++ tail) = some byte := by
  have none : skipSpace tail = [] := List.dropWhile_eq_nil_iff.mpr blank
  have read : sscanf [.conv .x (some 2), .space, .conv .x (some 2)] (hexText upper byte ++ tail) =
      [(byte : Int)] := by
    rw [sscanf, scan_hexText small, scan, none]
    rfl
  simp only [payload, read, Int.toNat_natCast]
  rw [Nat.mod_eq_of_lt (by omega)]

theorem payload_word {upper : Bool} {h l : Nat} (high : h < 256) (low : l < 256) (rest : Text) :
    payload (hexText upper h ++ ' ' :: (hexText upper l ++ rest)) = some (h * 256 + l) := by
  have visible := (hexDigit_spec upper (l / 16) (by omega)).2.1
  have skipped : skipSpace (' ' :: (hexText upper l ++ rest)) = hexText upper l ++ rest := by
    have blank : isSpace ' ' = true := by decide
    simp [skipSpace, hexText, visible, blank]
  have read : sscanf [.conv .x (some 2), .space, .conv .x (some 2)]
      (hexText upper h ++ ' ' :: (hexText upper l ++ rest)) = [(h : Int), (l : Int)] := by
    rw [sscanf, scan_hexText high, scan, skipped, scan_hexText low]
    rfl
  simp only [payload, read, Int.toNat_natCast]
  rw [Nat.mod_eq_of_lt (by omega)]

def serviceText (cmd : GroupCmd) (upper : Bool) (body : Payload) (tail : Text) : Text :=
  cmd.name ++ (body.text upper ++ tail)

theorem hexText_absent (upper : Bool) {byte : Nat} (small : byte < 256) {c : Char}
    (other : c ∈ ['(', 'V', 'r']) : c ∉ hexText upper byte := by
  have high := (hexDigit_spec upper (byte / 16) (by omega)).2.2
  have low := (hexDigit_spec upper (byte % 16) (by omega)).2.2
  have more : c ∈ ['-', '+', 'x', 'X', '(', 'V', 'r'] := by
    simp only [List.mem_cons, List.not_mem_nil, or_false] at other ⊢
    tauto
  intro mem
  simp only [hexText, List.mem_cons, List.not_mem_nil, or_false] at mem
  rcases mem with rfl | rfl
  · exact high more
  · exact low more

theorem blank_absent {c : Char} (blank : ∀ c ∈ tail, isSpace c = true)
    (visible : isSpace c = false) : c ∉ tail := by
  intro mem
  simp [blank c mem] at visible

/-- A character of none of the keys and payloads. -/
theorem Payload.text_absent {body : Payload} (valid : body.Valid) (upper : Bool) {c : Char}
    (other : c ∈ ['V', 'r']) : c ∉ body.text upper := by
  have hex : ∀ byte < 256, c ∉ hexText upper byte := fun byte small =>
    hexText_absent upper small (List.mem_cons_of_mem _ other)
  have blank : c ∉ smallMark := by
    simp only [List.mem_cons, List.not_mem_nil, or_false] at other
    rcases other with rfl | rfl <;> decide
  have space : c ≠ ' ' := by
    rintro rfl
    exact absurd blank (by decide)
  cases body with
  | small value =>
    have bound : value < 64 := valid
    rw [Payload.text, List.mem_append, not_or]
    exact ⟨blank, hex value (by omega)⟩
  | byte value =>
    rw [Payload.text, List.mem_cons, not_or]
    exact ⟨space, hex value valid⟩
  | word high low =>
    rw [Payload.text, List.mem_cons, List.mem_append, List.mem_cons, not_or, not_or, not_or]
    exact ⟨space, hex high valid.1, space, hex low valid.2⟩

theorem serviceText_noV {body : Payload} (valid : body.Valid) (cmd : GroupCmd) (upper : Bool)
    (blank : ∀ c ∈ tail, isSpace c = true) : 'V' ∉ serviceText cmd upper body tail := by
  have noTail : 'V' ∉ tail := blank_absent blank (by decide)
  have noName : 'V' ∉ cmd.name := by cases cmd <;> decide
  rw [serviceText, List.mem_append, List.mem_append, not_or, not_or]
  exact ⟨noName, body.text_absent valid upper (by decide), noTail⟩

theorem drop_lineHead {key rest : Text} (split : stem ++ service = key ++ rest) :
    (busLine pre source group mid service).drop
      ((lineHead pre source group mid).length + key.length) = rest := by
  rw [busLine_eq, split, ← List.drop_drop, List.drop_left, List.drop_left]

/-- The keys of one service, on a line with the same or the other service. -/
theorem groupService_busLine {smallKey key : Text} (framed : Framed pre mid tail)
    (addr : AddrText source) (grp : AddrText group) (stemSmall : stem <+: smallKey)
    (stemKey : stem <+: key) (noV : 'V' ∉ service) :
    (∀ rest, stem ++ service = smallKey ++ rest →
      groupService smallKey key (busLine pre source group mid service) =
        (smallPayload rest).elim .malformed .value) ∧
    (smallKey.isPrefixOf (stem ++ service) = false → ∀ rest, stem ++ service = key ++ rest →
      groupService smallKey key (busLine pre source group mid service) =
        (payload rest).elim .malformed .value) ∧
    (smallKey.isPrefixOf (stem ++ service) = false → key.isPrefixOf (stem ++ service) = false →
      groupService smallKey key (busLine pre source group mid service) = .absent) := by
  have small := strstr_service framed addr grp stemSmall noV
  have plain := strstr_service framed addr grp stemKey noV
  refine ⟨?_, ?_, ?_⟩
  · intro rest split
    have here : smallKey.isPrefixOf (stem ++ service) = true := by
      rw [split, List.isPrefixOf_iff_prefix]
      exact List.prefix_append _ _
    simp only [groupService, small, here, if_true, drop_lineHead split]
  · intro other rest split
    have here : key.isPrefixOf (stem ++ service) = true := by
      rw [split, List.isPrefixOf_iff_prefix]
      exact List.prefix_append _ _
    simp only [groupService, small, other, plain, here, if_true, Bool.false_eq_true, if_false,
      drop_lineHead split]
  · intro noSmall noKey
    simp only [groupService, small, plain, noSmall, noKey, Bool.false_eq_true, if_false]

def GroupCmd.smallKey : GroupCmd → Text
  | .write => groupWriteSmallKey
  | .response => groupResponseSmallKey

def GroupCmd.key : GroupCmd → Text
  | .write => groupWriteKey
  | .response => groupResponseKey

theorem GroupCmd.smallKey_eq (cmd : GroupCmd) : cmd.smallKey = stem ++ (cmd.name ++ smallMark) := by
  cases cmd <;> decide

theorem GroupCmd.key_eq (cmd : GroupCmd) : cmd.key = stem ++ (cmd.name ++ [' ']) := by
  cases cmd <;> decide

/-- The names differ in their first character. -/
theorem GroupCmd.name_prefix {cmd other : GroupCmd} {rest more : Text}
    (start : other.name ++ more <+: cmd.name ++ rest) : other = cmd := by
  cases cmd <;> cases other
  · rfl
  · exact absurd (List.cons_prefix_cons.mp start).1 (by decide)
  · exact absurd (List.cons_prefix_cons.mp start).1 (by decide)
  · rfl

section

variable {body : Payload} (framed : Framed pre mid tail) (addr : AddrText source)
  (grp : AddrText group) (valid : body.Valid) (cmd : GroupCmd) (upper : Bool)

include framed addr grp valid

theorem own_service :
    groupService cmd.smallKey cmd.key
      (busLine pre source group mid (serviceText cmd upper body tail)) = .value body.value := by
  obtain ⟨small, plain, -⟩ := groupService_busLine framed addr grp
    (cmd.smallKey_eq ▸ List.prefix_append _ _) (cmd.key_eq ▸ List.prefix_append _ _)
    (serviceText_noV valid cmd upper framed.blank)
  have notSmall : ∀ byte < 256, ∀ rest,
      cmd.smallKey.isPrefixOf (stem ++ (cmd.name ++ ' ' :: (hexText upper byte ++ rest))) =
          false := by
    intro byte bound rest
    rw [Bool.eq_false_iff, ne_eq, List.isPrefixOf_iff_prefix, cmd.smallKey_eq,
      List.prefix_append_right_inj, List.prefix_append_right_inj]
    intro start
    have first : '(' = hexDigit upper (byte / 16) :=
      (List.cons_prefix_cons.mp (List.cons_prefix_cons.mp start).2).1
    exact hexText_absent upper bound (c := '(') (by decide) (first ▸ List.mem_cons_self)
  cases body with
  | small value =>
    have bound : value < 64 := valid
    rw [small (hexText upper value ++ tail) (by simp [serviceText, cmd.smallKey_eq, Payload.text]),
      smallPayload_hexText (by omega)]
    rfl
  | byte value =>
    rw [plain (notSmall value valid tail) (hexText upper value ++ tail)
      (by simp [serviceText, cmd.key_eq, Payload.text]), payload_byte valid framed.blank]
    rfl
  | word high low =>
    have text : serviceText cmd upper (.word high low) tail =
        cmd.name ++ ' ' :: (hexText upper high ++ ' ' :: (hexText upper low ++ tail)) := by
      simp [serviceText, Payload.text]
    rw [text] at plain ⊢
    rw [plain (notSmall high valid.1 _) (hexText upper high ++ ' ' :: (hexText upper low ++ tail))
      (by simp [cmd.key_eq]), payload_word valid.1 valid.2]
    rfl

theorem other_service {other : GroupCmd} (differ : other ≠ cmd) :
    groupService other.smallKey other.key
      (busLine pre source group mid (serviceText cmd upper body tail)) = .absent := by
  obtain ⟨-, -, absent⟩ := groupService_busLine framed addr grp
    (other.smallKey_eq ▸ List.prefix_append _ _) (other.key_eq ▸ List.prefix_append _ _)
    (serviceText_noV valid cmd upper framed.blank)
  have nowhere : ∀ more, (stem ++ (other.name ++ more)).isPrefixOf
      (stem ++ serviceText cmd upper body tail) = false := by
    intro more
    rw [Bool.eq_false_iff, ne_eq, List.isPrefixOf_iff_prefix, List.prefix_append_right_inj]
    exact fun start => differ (GroupCmd.name_prefix start)
  apply absent
  · rw [other.smallKey_eq]
    exact nowhere smallMark
  · rw [other.key_eq]
    exact nowhere [' ']

theorem read_absent :
    (strstr groupReadKey
      (busLine pre source group mid (serviceText cmd upper body tail))).isSome = false := by
  have start : stem <+: groupReadKey := by decide
  rw [strstr_service framed addr grp start (serviceText_noV valid cmd upper framed.blank)]
  have nowhere : groupReadKey.isPrefixOf (stem ++ serviceText cmd upper body tail) = false := by
    rw [Bool.eq_false_iff, ne_eq, List.isPrefixOf_iff_prefix,
      show groupReadKey = stem ++ ['R', 'e', 'a', 'd'] by decide, List.prefix_append_right_inj]
    intro start
    cases cmd with
    | write => exact absurd (List.cons_prefix_cons.mp start).1 (by decide)
    | response =>
      have third := (List.cons_prefix_cons.mp (List.cons_prefix_cons.mp
        (List.cons_prefix_cons.mp start).2).2).1
      exact absurd third (by decide)
  simp [nowhere]

theorem repeated_busLine :
    (strstr repeatedKey
      (busLine pre source group mid (serviceText cmd upper body tail))).isSome = true ↔
      Repeated pre mid := by
  have rest : ¬ repeatedKey <:+: stem.tail ++ serviceText cmd upper body tail := by
    obtain ⟨inner, text⟩ : ∃ inner, body.text upper = ' ' :: inner := by
      cases body <;> exact ⟨_, rfl⟩
    have noR := body.text_absent valid upper (c := 'r') (by decide)
    rw [text, List.mem_cons, not_or] at noR
    rw [serviceText, text, ← List.append_assoc, List.cons_append, infix_split (by decide)]
    rintro (name | later)
    · revert name
      cases cmd <;> decide
    · refine not_infix_of_mem (c := 'r') (by decide) ?_ later
      rw [List.mem_append, not_or]
      exact ⟨noR.2, blank_absent framed.blank (by decide)⟩
  have parts : busLine pre source group mid (serviceText cmd upper body tail) =
      lineHead pre source group mid ++ 'A' :: (stem.tail ++ serviceText cmd upper body tail) := by
    rw [busLine_eq]
    rfl
  rw [strstr_isSome, parts, infix_split (by decide), or_iff_left rest]
  exact infix_lineHead addr grp (by decide) (by decide) (by decide) (by decide)

end

end

theorem decimal_chars (n : Nat) (small : n < 256) :
    decimal n ≠ [] ∧ (decimal n).length ≤ 3 ∧ ∀ c ∈ decimal n, c.isDigit = true := by
  have printed : ∀ n < 256, decimal n ≠ [] ∧ (decimal n).length ≤ 3 ∧
      (decimal n).all Char.isDigit = true := by decide +kernel
  simpa only [List.all_eq_true] using printed n small

theorem decimal_short (n : Nat) (small : n < 100) : (decimal n).length ≤ 2 := by
  revert n
  decide +kernel

theorem addrText_join {sep : Char} (separates : sep = '.' ∨ sep = '/') {x y z : Nat}
    (hx : x < 256) (hy : y < 256) (hz : z < 256) :
    AddrText (decimal x ++ sep :: (decimal y ++ sep :: decimal z)) := by
  constructor
  · simp
  · intro c mem
    simp only [List.mem_append, List.mem_cons] at mem
    rcases mem with first | rfl | second | rfl | third
    · exact .inl ((decimal_chars x hx).2.2 c first)
    · exact .inr separates
    · exact .inl ((decimal_chars y hy).2.2 c second)
    · exact .inr separates
    · exact .inl ((decimal_chars z hz).2.2 c third)

theorem number_decimal {n : Nat} (small : n < 16) (rest : Text) :
    number 10 2 (decimal n ++ '.' :: rest) = some (⟨false, n⟩, '.' :: rest) := by
  interval_cases n <;> rfl

theorem decimal_visible {n : Nat} (small : n < 16) :
    (decimal n).head?.map isSpace = some false := by
  revert n
  decide

/-- A conversion of two digits reads a number up to 15 and stops at the dot. -/
theorem scan_decimal {n : Nat} (small : n < 16) (rest : Text) (format : List Directive) :
    scan (.conv .d (some 2) :: .char '.' :: format) (decimal n ++ '.' :: rest) =
      ((n : Int) :: (scan format rest).1, (scan format rest).2) := by
  obtain ⟨c, more, text⟩ := List.exists_cons_of_ne_nil (decimal_chars n (by omega)).1
  have visible : isSpace c = false := by simpa [text] using decimal_visible small
  have read := number_decimal small rest
  rw [text, List.cons_append] at read
  have value : Conv.d.value ⟨false, n⟩ = n := by
    simp only [Conv.value, Number.long, Bool.false_eq_true, if_false]
    omega
  simp only [text, List.cons_append, scan, skipSpace, List.dropWhile_cons, visible,
    Bool.false_eq_true, if_false, Conv.base, Option.getD_some, read, value, if_true]

theorem scan_last {n : Nat} (small : n < 256) :
    scan [.conv .d (some 3)] (decimal n) = ([(n : Int)], false) := by
  revert n
  decide +kernel

theorem knxHwAddr_physicalText {a b c : Nat} (ha : a < 16) (hb : b < 16) (hc : c < 256) :
    knxHwAddr (physicalText a b c) = a * 4096 + b * 256 + c := by
  have read : sscanf [.conv .d (some 2), .char '.', .conv .d (some 2), .char '.', .conv .d (some 3)]
      (physicalText a b c) = [(a : Int), (b : Int), (c : Int)] := by
    rw [sscanf, physicalText, scan_decimal ha, scan_decimal hb, scan_last hc]
  have inRange : ¬ ((a : Int) > 15 ∨ (b : Int) > 15 ∨ (c : Int) > 255) := by omega
  simp only [knxHwAddr, read, if_neg inRange]
  omega

/-- The addresses of a telegram, and nothing else yet. -/
def addressed (source group : Text) : KnxData :=
  { hwAddr := padded source, groupAddr := padded group }

section

variable {pre mid tail service : Text} {a b c x y z : Nat}

/-- The parts of a printed physical address. -/
structure PhysicalParts (a b c : Nat) : Prop where
  area : a < 16
  line : b < 16
  device : c < 256

/-- The parts of a printed group address. -/
structure GroupParts (x y z : Nat) : Prop where
  main : x < 32
  middle : y < 8
  sub : z < 256

theorem PhysicalParts.text (physical : PhysicalParts a b c) : AddrText (physicalText a b c) :=
  addrText_join (.inl rfl) (Nat.lt_trans physical.area (by decide))
    (Nat.lt_trans physical.line (by decide)) physical.device

theorem GroupParts.text (group : GroupParts x y z) : AddrText (groupText x y z) :=
  addrText_join (.inr rfl) (Nat.lt_trans group.main (by decide))
    (Nat.lt_trans group.middle (by decide)) group.sub

theorem PhysicalParts.length (physical : PhysicalParts a b c) :
    (physicalText a b c).length < addrSize := by
  have first := decimal_short a (Nat.lt_trans physical.area (by decide))
  have second := decimal_short b (Nat.lt_trans physical.line (by decide))
  have third := (decimal_chars c physical.device).2.1
  simp only [physicalText, List.length_append, List.length_cons, addrSize]
  omega

theorem GroupParts.length (group : GroupParts x y z) : (groupText x y z).length ≤ addrSize := by
  have first := decimal_short x (Nat.lt_trans group.main (by decide))
  have second := decimal_short y (Nat.lt_trans group.middle (by decide))
  have third := (decimal_chars z group.sub).2.1
  simp only [groupText, List.length_append, List.length_cons, addrSize]
  omega

theorem parse_busLine (framed : Framed pre mid tail) (physical : PhysicalParts a b c)
    (group : GroupParts x y z) :
    knxParsePacket (busLine pre (physicalText a b c) (groupText x y z) mid service) {} =
      parseWrite (busLine pre (physicalText a b c) (groupText x y z) mid service)
        (addressed (physicalText a b c) (groupText x y z)) := by
  have cutOut : parseAddrs (busLine pre (physicalText a b c) (groupText x y z) mid service) {} =
      .ok (addressed (physicalText a b c) (groupText x y z)) :=
    parseAddrs_eq_ok.mpr ⟨_, _, addrFields_busLine framed physical.text group.text,
      physical.length.le, group.length, rfl⟩
  rw [knxParsePacket, cutOut]
  rfl

/-- The last test on a printed source. -/
theorem checkSource_physical (physical : PhysicalParts a b c) {data : KnxData}
    (field : data.hwAddr = padded (physicalText a b c)) :
    checkSource data = .ok (if a = 1 ∧ b = 0 ∧ 1 ≤ c ∧ c ≤ 8 then -4 else 0,
      { data with phy := a * 4096 + b * 256 + c }) := by
  have clean : '\x00' ∉ physicalText a b c := physical.text.absent _ (by decide)
  have text := (cString_padded clean physical.length.le).mpr ⟨physical.length, rfl⟩
  have number := knxHwAddr_physicalText physical.area physical.line physical.device
  have own : isOwnAddr (a * 4096 + b * 256 + c) = true ↔ a = 1 ∧ b = 0 ∧ 1 ≤ c ∧ c ≤ 8 := by
    have line := physical.line
    have device := physical.device
    rw [isOwnAddr, Bool.and_eq_true, decide_eq_true_iff, decide_eq_true_iff, knxHwAddressMin,
      knxHwAddressMax]
    omega
  simp only [checkSource, field, text, number, own, bind, Except.bind, pure, Except.pure]

section

variable {body : Payload} (framed : Framed pre mid tail) (physical : PhysicalParts a b c)
  (group : GroupParts x y z) (valid : body.Valid) (cmd : GroupCmd) (upper : Bool)

include framed physical group valid

/-- The line of a group telegram. -/
def telegram (pre mid tail : Text) (a b c x y z : Nat) (cmd : GroupCmd) (upper : Bool)
    (body : Payload) : Text :=
  busLine pre (physicalText a b c) (groupText x y z) mid (serviceText cmd upper body tail)

theorem parse_fresh (fresh : ¬ Repeated pre mid) :
    knxParsePacket (telegram pre mid tail a b c x y z cmd upper body) {} =
      .ok (if a = 1 ∧ b = 0 ∧ 1 ≤ c ∧ c ≤ 8 then -4 else 0,
        { addressed (physicalText a b c) (groupText x y z) with
          phy := a * 4096 + b * 256 + c, value := body.value, cmd := cmd.name }) := by
  have own := own_service framed physical.text group.text valid cmd upper
  have read := read_absent framed physical.text group.text valid cmd upper
  have again := (repeated_busLine framed physical.text group.text valid cmd upper).not.mpr fresh
  rw [telegram, parse_busLine framed physical group]
  cases cmd with
  | write =>
    have other := other_service framed physical.text group.text valid .write upper
      (show GroupCmd.response ≠ .write by decide)
    have write : writeService _ = _ := own
    have response : responseService _ = _ := other
    simp only [parseWrite, write, parseFlags, read, again, parseResponse, response,
      Bool.false_eq_true, if_false]
    exact checkSource_physical physical rfl
  | response =>
    have other := other_service framed physical.text group.text valid .response upper
      (show GroupCmd.write ≠ .response by decide)
    have write : writeService _ = _ := other
    have response : responseService _ = _ := own
    simp only [parseWrite, write, parseFlags, read, again, parseResponse, response,
      Bool.false_eq_true, if_false]
    exact checkSource_physical physical rfl

/-- A response that is marked as a repetition is left before its payload is read. -/
theorem parse_repeated (again : Repeated pre mid) :
    knxParsePacket (telegram pre mid tail a b c x y z cmd upper body) {} =
      .ok (-3, { addressed (physicalText a b c) (groupText x y z) with
        value := if cmd = .write then body.value else 0, cmd := "Repeated".toList }) := by
  have own := own_service framed physical.text group.text valid cmd upper
  have read := read_absent framed physical.text group.text valid cmd upper
  have again := (repeated_busLine framed physical.text group.text valid cmd upper).mpr again
  rw [telegram, parse_busLine framed physical group]
  cases cmd with
  | write =>
    have write : writeService _ = _ := own
    simp only [parseWrite, write, parseFlags, read, again, Bool.false_eq_true, if_false, if_true]
  | response =>
    have other := other_service framed physical.text group.text valid .response upper
      (show GroupCmd.write ≠ .response by decide)
    have write : writeService _ = _ := other
    simp only [parseWrite, write, parseFlags, read, again, Bool.false_eq_true, if_false, if_true,
      reduceCtorEq]
    rfl

end

theorem parse_read (framed : Framed pre mid tail) (physical : PhysicalParts a b c)
    (group : GroupParts x y z) :
    knxParsePacket (busLine pre (physicalText a b c) (groupText x y z) mid
      ("Read".toList ++ tail)) {} =
      .ok (-2, { addressed (physicalText a b c) (groupText x y z) with cmd := "Read".toList }) := by
  have noV : 'V' ∉ "Read".toList ++ tail := by
    rw [List.mem_append, not_or]
    exact ⟨by decide, blank_absent framed.blank (by decide)⟩
  have nowhere : ∀ more, (stem ++ (GroupCmd.write.name ++ more)).isPrefixOf
      (stem ++ ("Read".toList ++ tail)) = false := by
    intro more
    rw [Bool.eq_false_iff, ne_eq, List.isPrefixOf_iff_prefix, List.prefix_append_right_inj]
    exact fun start => absurd (List.cons_prefix_cons.mp start).1 (by decide)
  obtain ⟨-, -, absent⟩ := groupService_busLine framed physical.text group.text
    (GroupCmd.write.smallKey_eq ▸ List.prefix_append _ _)
    (GroupCmd.write.key_eq ▸ List.prefix_append _ _) noV
  have write : writeService _ = _ := absent
    (by rw [GroupCmd.smallKey_eq]; exact nowhere _) (by rw [GroupCmd.key_eq]; exact nowhere _)
  have read : (strstr groupReadKey (busLine pre (physicalText a b c) (groupText x y z) mid
      ("Read".toList ++ tail))).isSome = true := by
    have start : groupReadKey.isPrefixOf (stem ++ ("Read".toList ++ tail)) = true := by
      rw [List.isPrefixOf_iff_prefix, ← List.append_assoc,
        show stem ++ "Read".toList = groupReadKey by decide]
      exact List.prefix_append _ _
    rw [strstr_service framed physical.text group.text (by decide) noV, if_pos start]
    rfl
  rw [parse_busLine framed physical group]
  simp only [parseWrite, write, parseFlags, read, if_true]

theorem readBlock_value {v : Nat} (small : v < 2 ^ 16) :
    ∃ body, Payload.ofBlock (readBlock v) = some body ∧ body.Valid ∧ body.value = v := by
  unfold readBlock
  split
  · refine ⟨.word (v / 256) (v % 256), rfl, ⟨by omega, by omega⟩, ?_⟩
    simp only [Payload.value]
    omega
  · refine ⟨.byte (v % 256), rfl, ?_, ?_⟩
    · simp only [Payload.Valid]
      omega
    · simp only [Payload.value]
      omega

/-- What `KNX_ParsePacket` makes of a printed telegram: the addresses as they were printed, and
the value and name of its service, unless it is marked as a repetition. Every 16-bit value comes
back from the bytes `readBlock` stores for it. -/
theorem parse_telegram (framed : Framed pre mid tail) (physical : PhysicalParts a b c)
    (group : GroupParts x y z) :
    (∀ cmd upper body, body.Valid → ¬ Repeated pre mid →
      knxParsePacket (telegram pre mid tail a b c x y z cmd upper body) {} =
        .ok (if a = 1 ∧ b = 0 ∧ 1 ≤ c ∧ c ≤ 8 then -4 else 0,
          { hwAddr := padded (physicalText a b c), groupAddr := padded (groupText x y z),
            phy := a * 4096 + b * 256 + c, value := body.value, cmd := cmd.name })) ∧
    (∀ cmd upper body, body.Valid → Repeated pre mid →
      knxParsePacket (telegram pre mid tail a b c x y z cmd upper body) {} =
        .ok (-3,
          { hwAddr := padded (physicalText a b c), groupAddr := padded (groupText x y z),
            value := if cmd = .write then body.value else 0, cmd := "Repeated".toList })) ∧
    (∀ v < 2 ^ 16, ∃ body, Payload.ofBlock (readBlock v) = some body ∧ body.Valid ∧
      body.value = v) ∧
    knxParsePacket (busLine pre (physicalText a b c) (groupText x y z) mid
      ("Read".toList ++ tail)) {} =
      .ok (-2,
        { hwAddr := padded (physicalText a b c), groupAddr := padded (groupText x y z),
          cmd := "Read".toList }) := by
  refine ⟨?_, ?_, fun v small => readBlock_value small, parse_read framed physical group⟩
  · intro cmd upper body valid fresh
    exact parse_fresh framed physical group valid cmd upper fresh
  · intro cmd upper body valid again
    exact parse_repeated framed physical group valid cmd upper again

end

def samplePre : Text := "L_Data low ".toList

def repeatedPre : Text := "L_Data low (repeated) ".toList

def sampleMid : Text := ": 06 T_Data_Group ".toList

theorem framed_sample : Framed samplePre sampleMid [] ∧ Framed repeatedPre sampleMid [] ∧
    ¬ Repeated samplePre sampleMid := by
  have blank : ∀ c ∈ ([] : Text), isSpace c = true := by simp
  refine ⟨⟨by decide, by decide, by decide, by decide, by decide, blank⟩,
    ⟨by decide, by decide, by decide, by decide, by decide, blank⟩, ?_⟩
  rw [Repeated]
  decide

/-- The value 0x0C1A of group 1/2/30, printed with capital digits. -/
theorem parse_sample :
    telegram samplePre sampleMid [] 1 1 5 1 2 30 .write true (.word 0x0C 0x1A) =
      "L_Data low from 1.1.5 to 1/2/30 hops: 06 T_Data_Group A_GroupValue_Write 0C 1A".toList ∧
    knxParsePacket (telegram samplePre sampleMid [] 1 1 5 1 2 30 .write true (.word 0x0C 0x1A)) {} =
      .ok (0,
        { hwAddr := padded "1.1.5".toList, groupAddr := padded "1/2/30".toList, phy := 0x1105,
          value := 0x0C1A, cmd := "Write".toList }) := by
  refine ⟨by decide, ?_⟩
  exact (parse_telegram framed_sample.1 ⟨by decide, by decide, by decide⟩
    ⟨by decide, by decide, by decide⟩).1 .write true (.word 0x0C 0x1A) (by simp [Payload.Valid])
    framed_sample.2.2

/-- A repeated response: neither its value nor its name is stored. -/
theorem parse_repeated_response :
    telegram repeatedPre sampleMid [] 1 1 5 1 2 30 .response true (.small 1) =
      "L_Data low (repeated) from 1.1.5 to 1/2/30 hops: 06 T_Data_Group A_GroupValue_Response (small) 01".toList ∧
    knxParsePacket (telegram repeatedPre sampleMid [] 1 1 5 1 2 30 .response true (.small 1)) {} =
      .ok (-3,
        { hwAddr := padded "1.1.5".toList, groupAddr := padded "1/2/30".toList, value := 0,
          cmd := "Repeated".toList }) := by
  decide +kernel

end HiMaxGateway.Knx
