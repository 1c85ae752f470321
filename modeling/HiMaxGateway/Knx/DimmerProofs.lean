import HiMaxGateway.Knx.ClimateControl
import Mathlib.Tactic.Linarith

/-! The brightness of a dimmer: the byte `Knx_DimmerCtrl` sends, the value it reports for a channel
without feedback, and the value `Knx_DimmerReport` makes of the byte that comes back. -/
namespace HiMaxGateway.Knx
open CText Walk Loop

/-- A command for the brightness of a channel, within its range; the maximum has 16 bits. -/
structure DimCommand (chl : DimmerChannel) (cmd : KnxWrite) : Prop where
  named : chl.bright.id = cmd.obj.dpid
  u16 : chl.bright.max < 2 ^ 16
  low : 0 ≤ cmd.obj.value
  high : cmd.obj.value ≤ chl.bright.max

/-- The byte for the brightness `v` of a channel with the maximum `M`. -/
def dimByte (M v : Nat) : Nat := v * 255 / M

/-- The brightness for a byte that is fed back. -/
def dimBack (M b : Nat) : Nat := b * M / 255

theorem dimByte_le {M v : Nat} (positive : 0 < M) (le : v ≤ M) : dimByte M v ≤ 255 := by
  calc
    v * 255 / M ≤ M * 255 / M := Nat.div_le_div_right (Nat.mul_le_mul_right 255 le)
    _ = 255 := Nat.mul_div_cancel_left 255 positive

/-- The product has no more than 24 bits, so nothing is lost before the division. -/
theorem brightValue_eq {M v : Nat} (positive : 0 < M) (u16 : M < 2 ^ 16) (le : v ≤ M) :
    brightValue v M = dimByte M v := by
  have byte := dimByte_le positive le
  have product : ((v : Int) * 255 + 2 ^ 31) % 2 ^ 32 - 2 ^ 31 = ((v * 255 : Nat) : Int) := by omega
  have quotient : ((v * 255 : Nat) : Int).tdiv M = (dimByte M v : Nat) := by
    rw [Int.tdiv_eq_ediv_of_nonneg (Int.natCast_nonneg _), ← Int.natCast_div, dimByte]
  rw [brightValue, product, quotient]
  omega

theorem dimBack_le {M b : Nat} (byte : b ≤ 255) : dimBack M b ≤ M := by
  rw [dimBack]
  apply Nat.div_le_of_le_mul
  exact Nat.mul_le_mul_right M byte

theorem brightness_eq {M b : Nat} (u16 : M < 2 ^ 16) (byte : b ≤ 255) :
    brightness b M = dimBack M b := by
  have back := dimBack_le (M := M) byte
  have bound : b * M ≤ 255 * M := Nat.mul_le_mul_right M byte
  have product : (((b * M : Nat) : Int) + 2 ^ 31) % 2 ^ 32 - 2 ^ 31 = ((b * M : Nat) : Int) := by
    omega
  have quotient : ((b * M : Nat) : Int).tdiv 255 = (dimBack M b : Nat) := by
    rw [Int.tdiv_eq_ediv_of_nonneg (Int.natCast_nonneg _), dimBack, Int.natCast_div]
    rfl
  rw [brightness, product, quotient]
  omega

/-- There and back the brightness loses at most one step of the byte and one of the truncation. -/
structure Scales (M : Nat) (byte back : Nat → Nat) : Prop where
  range : ∀ v ≤ M, byte v ≤ 255
  mono : ∀ v w, v ≤ w → w ≤ M → byte v ≤ byte w
  zero : byte 0 = 0
  full : byte M = 255
  round : ∀ v ≤ M, back (byte v) ≤ v ∧ v ≤ back (byte v) + (M / 255 + 1)
  exactly : M ∣ 255 → ∀ v ≤ M, back (byte v) = v

theorem dim_round {M v : Nat} (positive : 0 < M) :
    dimBack M (dimByte M v) ≤ v ∧ v ≤ dimBack M (dimByte M v) + (M / 255 + 1) := by
  have cut : dimByte M v * M ≤ v * 255 := Nat.div_mul_le_self _ _
  have lost : v * 255 < dimByte M v * M + M := Nat.lt_div_mul_add positive
  rw [dimBack]
  generalize dimByte M v * M = n at *
  omega

theorem dim_exact {M v : Nat} (positive : 0 < M) (divides : M ∣ 255) :
    dimBack M (dimByte M v) = v := by
  obtain ⟨k, factor⟩ := divides
  have byte : dimByte M v = v * k := by
    rw [dimByte, factor, ← Nat.mul_assoc, Nat.mul_comm v M, Nat.mul_assoc,
      Nat.mul_div_cancel_left _ positive]
  rw [dimBack, byte, Nat.mul_assoc, Nat.mul_comm k M, ← factor, Nat.mul_div_cancel _ (by decide)]

theorem dim_scales {M : Nat} (positive : 0 < M) : Scales M (dimByte M) (dimBack M) where
  range v le := dimByte_le positive le
  mono v w le _ := Nat.div_le_div_right (Nat.mul_le_mul_right 255 le)
  zero := by simp [dimByte]
  full := by rw [dimByte, Nat.mul_div_cancel_left _ positive]
  round v _ := dim_round positive
  exactly divides v _ := dim_exact positive divides

section

variable {env : Replies} {cmd : KnxWrite} {dev : CtrlDevice} {chl : DimmerChannel}

theorem DimCommand.value_eq (command : DimCommand chl cmd) :
    ((cmd.obj.value.toNat : Nat) : Int) = cmd.obj.value := Int.toNat_of_nonneg command.low

theorem DimCommand.le_max (command : DimCommand chl cmd) : cmd.obj.value.toNat ≤ chl.bright.max :=
  Int.toNat_le.mpr command.high

theorem DimCommand.byte (command : DimCommand chl cmd) (positive : 0 < chl.bright.max) :
    brightValue cmd.obj.value chl.bright.max = dimByte chl.bright.max cmd.obj.value.toNat := by
  have value := brightValue_eq positive command.u16 command.le_max
  rwa [command.value_eq] at value

/-- A byte is sent as one byte. -/
theorem readBlock_byte {b : Nat} (byte : b ≤ 255) : readBlock b = [b] := by
  have small : b / 256 = 0 := by omega
  have same : b % 256 = b := by omega
  rw [readBlock, if_neg (by simp [small]), same]

/-- The visit of a channel whose brightness the command names. -/
theorem dimmerCtrlChannel_bright (command : DimCommand chl cmd) (positive : 0 < chl.bright.max)
    {addr : Text} (ctrl : chl.bright.pCtrl = some addr) (s : CtrlState) :
    let b := dimByte chl.bright.max cmd.obj.value.toNat
    let s' := { s with data := [b] }
    let reported := pointReport env dev.element.pPrimaryKey chl.bright
      { dpid := chl.bright.id % 256, type := .value, value := b } s'
    (dimmerCtrlChannel env cmd dev s chl).events = reported.2 ++
      (transmit env (some (readgaddr addr)) [0, s.knxBuf, b] reported.1).2.2 := by
  have block := readBlock_byte (dimByte_le positive command.le_max)
  simp only [dimmerCtrlChannel, if_pos command.named, if_neg positive.ne', ctrl,
    command.byte positive, block, pointSend, pointReport]
  split <;> rfl

theorem pointReport_telegrams (key : Text) (point : CtrlPoint) (obj : DpObj) (s : CtrlState) :
    telegrams (pointReport env key point obj s).2 = [] := by
  rw [pointReport]
  split <;> rfl

theorem pointReport_calls (key : Text) (point : CtrlPoint) (obj : DpObj) (s : CtrlState) :
    (pointReport env key point obj s).1.calls =
      if env.bActive && point.writeOnly then s.calls + 1 else s.calls := by
  rw [pointReport]
  split <;> rfl

theorem dimmer_telegrams (command : DimCommand chl cmd) (positive : 0 < chl.bright.max)
    {addr : Text} (ctrl : chl.bright.pCtrl = some addr) (s : CtrlState) :
    telegrams (dimmerCtrlChannel env cmd dev s chl).events =
      let n := if env.bActive && chl.bright.writeOnly then s.calls + 1 else s.calls
      if env.eibSocketURL n && env.eibOpenTGroup n then
        [(some (readgaddr addr), [0, s.knxBuf, dimByte chl.bright.max cmd.obj.value.toNat],
          env.eibSendAPDU n)]
      else [] := by
  rw [dimmerCtrlChannel_bright command positive ctrl, telegrams_append, pointReport_telegrams,
    List.nil_append, transmit_telegrams, pointReport_calls]

theorem cloudReport_obj {env : Env} {key key' : Text} {obj obj' : DpObj}
    (member : Act.report key' obj' ∈ cloudReport env key obj) : obj' = obj := by
  have parts : env.bActive = true ∧ key' = key ∧ obj' = obj := by simpa [cloudReport] using member
  exact parts.2.2

/-- The second half of a visit leaves the brightness and reports nothing of its type. -/
theorem dimmerKey_bright (env : Env) (telegram : Telegram) (dev : KnxDevice) (pt : DimmerPoint) :
    (dimmerKey env telegram dev pt).value.bright = pt.bright ∧
      ∀ key obj, .report key obj ∈ (dimmerKey env telegram dev pt).acts → obj.type = .bool := by
  rw [dimmerKey]
  split
  · simp only
    split
    · split <;> simp
    · split
      · split
        · exact ⟨rfl, fun key obj member => by rw [cloudReport_obj member]⟩
        · simp
      · simp
  · simp

end

/-- What the two handlers make of the brightness of a channel. -/
structure BrightScale (chl : DimmerChannel) : Prop where
  sent : ∀ cmd, DimCommand chl cmd → ∀ addr, chl.bright.pCtrl = some addr → ∀ env dev s,
    telegrams (dimmerCtrlChannel env cmd dev s chl).events =
      let n := if env.bActive && chl.bright.writeOnly then s.calls + 1 else s.calls
      if env.eibSocketURL n && env.eibOpenTGroup n then
        [(some (readgaddr addr), [0, s.knxBuf, dimByte chl.bright.max cmd.obj.value.toNat],
          env.eibSendAPDU n)]
      else []
  stored : ∀ (pt : DimmerPoint) telegram, pt.bright.max = chl.bright.max →
    listens pt.bright.pFeedback telegram = true → telegram.value ≤ 255 → ∀ env dev,
    (dimmerChannel env telegram dev pt).value.bright.value = dimBack chl.bright.max telegram.value
  reported : ∀ (pt : DimmerPoint) telegram, pt.bright.max = chl.bright.max →
    listens pt.bright.pFeedback telegram = true → telegram.value ≤ 255 →
    ∀ env (dev : KnxDevice), env.bActive = true → dev.element.attri = .actuator →
    (dimmerChannel env telegram dev pt).acts =
      [.report dev.element.pPrimaryKey
        { dpid := pt.bright.id % 256, type := .value,
          value := dimBack chl.bright.max telegram.value },
       .hbFresh dev.element.pPrimaryKey]
  scales : Scales chl.bright.max (dimByte chl.bright.max) (dimBack chl.bright.max)

theorem dim_round_trip (chl : DimmerChannel) (positive : 0 < chl.bright.max)
    (u16 : chl.bright.max < 2 ^ 16) : BrightScale chl where
  sent cmd command addr ctrl env dev s := dimmer_telegrams command positive ctrl s
  stored pt telegram same heard byte env dev := by
    have value := brightness_eq u16 byte
    rw [← same] at value ⊢
    simp only [dimmerChannel, if_pos heard, value]
    split
    · split <;> rfl
    · rw [(dimmerKey_bright _ _ _ _).1]
  reported pt telegram same heard byte env dev active actuator := by
    have value := brightness_eq u16 byte
    rw [← same] at value ⊢
    simp only [dimmerChannel, if_pos heard, value, if_pos active, if_pos actuator, cloudReport]
  scales := dim_scales positive

/-- A lamp with the brightness in percent. -/
def lamp : DimmerChannel where
  key := { id := 1, pCtrl := some "1/1/1".toList }
  bright := { id := 2, pCtrl := some "1/1/2".toList, max := 100, writeOnly := true }

def lampWrite (v : Int) : KnxWrite where
  pPrimaryKey := "02c7ecdad9251104".toList
  devId := 1104
  obj := { dpid := 2, type := .value, value := v }

def lampDevice : CtrlDevice where
  element := { szName := "lamp".toList, pPrimaryKey := "02c7ecdad9251104".toList, devId := 1104 }
  body := .dimmer [lamp]

/-- 50 of 100 goes out as 127 and comes back as 49. -/
theorem lamp_round_trip : BrightScale lamp ∧
    telegrams (dimmerCtrlChannel lossy (lampWrite 50) lampDevice { calls := 0 } lamp).events =
      [(some 0x902, [0, 0x80, 127], -1)] ∧ dimBack 100 127 = 49 := by
  refine ⟨dim_round_trip lamp (by decide) (by decide), ?_, by decide⟩
  decide +kernel

/-- Both values reported for a command are as near to it as the byte allows. -/
structure EchoOnScale (chl : DimmerChannel) (cmd : KnxWrite) : Prop where
  echo : ∀ env dev s key obj, .report key obj ∈ (dimmerCtrlChannel env cmd dev s chl).events →
    (obj.value - cmd.obj.value).natAbs ≤ chl.bright.max / 255 + 1
  feedback : ∀ env dev s, ∀ sent ∈ telegrams (dimmerCtrlChannel env cmd dev s chl).events,
    ∀ (pt : DimmerPoint) telegram, pt.bright.max = chl.bright.max →
    listens pt.bright.pFeedback telegram = true → sent.2.1.drop 2 = [telegram.value] →
    ∀ env' dev' key obj, .report key obj ∈ (dimmerChannel env' telegram dev' pt).acts →
      obj.type = .value → (obj.value - cmd.obj.value).natAbs ≤ chl.bright.max / 255 + 1

/-- The byte itself is near to the command, where it is reported: the steps of the channel are
those of the byte or the command is small. -/
def DimmerChannel.EchoFits (chl : DimmerChannel) (v : Nat) : Prop :=
  chl.bright.writeOnly = true → chl.bright.pCtrl ≠ none → 0 < chl.bright.max →
    v * (255 - chl.bright.max) < 2 * chl.bright.max ∧
      v * (chl.bright.max - 255) ≤ (chl.bright.max / 255 + 1) * chl.bright.max

section

variable {M v : Nat}

/-- Up to a maximum of 255 the byte is not below the command. -/
theorem byte_above (positive : 0 < M) (small : M ≤ 255) :
    ((dimByte M v : Int) - v).natAbs ≤ M / 255 + 1 ↔ v * (255 - M) < 2 * M := by
  have above : v ≤ dimByte M v :=
    (Nat.le_div_iff_mul_le positive).mpr (Nat.mul_le_mul_left v small)
  rcases Nat.lt_or_eq_of_le small with less | rfl
  · have next : dimByte M v < v + 2 ↔ v * 255 < (v + 2) * M := Nat.div_lt_iff_lt_mul positive
    have gap : v * (255 - M) = v * 255 - v * M := Nat.mul_sub v 255 M
    have spread : (v + 2) * M = v * M + 2 * M := Nat.add_mul v 2 M
    have unit : M / 255 = 0 := Nat.div_eq_of_lt less
    omega
  · have same : dimByte 255 v = v := Nat.mul_div_cancel v (by decide)
    rw [same]
    omega

/-- From a maximum of 255 on the byte is not above the command. -/
theorem byte_below (positive : 0 < M) (large : 255 ≤ M) :
    ((dimByte M v : Int) - v).natAbs ≤ M / 255 + 1 ↔ v * (M - 255) ≤ (M / 255 + 1) * M := by
  have below : dimByte M v ≤ v :=
    Nat.div_le_of_le_mul (Nat.mul_comm M v ▸ Nat.mul_le_mul_left v large)
  have back : v - (M / 255 + 1) ≤ dimByte M v ↔ (v - (M / 255 + 1)) * M ≤ v * 255 :=
    Nat.le_div_iff_mul_le positive
  have spread : (v - (M / 255 + 1)) * M = v * M - (M / 255 + 1) * M := Nat.sub_mul v _ M
  have gap : v * (M - 255) = v * M - v * 255 := Nat.mul_sub v M 255
  generalize (M / 255 + 1) * M = step at *
  omega

/-- One of the two conditions is empty. -/
theorem byte_near (positive : 0 < M) : ((dimByte M v : Int) - v).natAbs ≤ M / 255 + 1 ↔
    v * (255 - M) < 2 * M ∧ v * (M - 255) ≤ (M / 255 + 1) * M := by
  rcases Nat.le_total M 255 with small | large
  · rw [byte_above positive small, Nat.sub_eq_zero_of_le small, Nat.mul_zero]
    simp
  · rw [byte_below positive large, Nat.sub_eq_zero_of_le large, Nat.mul_zero]
    simp [positive]

end

section

variable {env : Replies} {cmd : KnxWrite} {dev : CtrlDevice} {chl : DimmerChannel}

/-- Nothing is reported or sent where the visit ends the process. -/
theorem dimmer_quiet (command : DimCommand chl cmd)
    (ends : chl.bright.max = 0 ∨ chl.bright.pCtrl = none) (s : CtrlState) :
    (dimmerCtrlChannel env cmd dev s chl).events = [] := by
  rw [dimmerCtrlChannel, if_pos command.named]
  rcases ends with zero | missing
  · rw [if_pos zero]
  · split
    · rfl
    · simp [missing]

theorem transmit_reports (gAddr : Option Nat) (apdu : List Nat) (s : CtrlState) (key : Text)
    (obj : DpObj) : .report key obj ∉ (transmit env gAddr apdu s).2.2 := by
  rw [transmit]
  split
  · simp
  · split <;> simp

theorem pointReport_reports {name key : Text} {point : CtrlPoint} {sent obj : DpObj}
    {s : CtrlState} :
    .report key obj ∈ (pointReport env name point sent s).2 ↔
      env.bActive = true ∧ point.writeOnly = true ∧ key = name ∧ obj = sent := by
  rw [pointReport]
  cases env.bActive with
  | false => simp
  | true => cases point.writeOnly <;> simp

/-- Only the brightness of a write-only channel is reported, and as the byte. -/
theorem dimmer_reports (command : DimCommand chl cmd) (positive : 0 < chl.bright.max)
    {addr : Text} (ctrl : chl.bright.pCtrl = some addr) (s : CtrlState) {key : Text} {obj : DpObj} :
    .report key obj ∈ (dimmerCtrlChannel env cmd dev s chl).events ↔
      env.bActive = true ∧ chl.bright.writeOnly = true ∧ key = dev.element.pPrimaryKey ∧
        obj = { dpid := chl.bright.id % 256, type := .value,
                value := dimByte chl.bright.max cmd.obj.value.toNat } := by
  rw [dimmerCtrlChannel_bright command positive ctrl, List.mem_append, pointReport_reports]
  simp only [transmit_reports, or_false]

theorem dimmer_sent (command : DimCommand chl cmd) (positive : 0 < chl.bright.max)
    {addr : Text} (ctrl : chl.bright.pCtrl = some addr) {s : CtrlState} {sent : Sent}
    (member : sent ∈ telegrams (dimmerCtrlChannel env cmd dev s chl).events) :
    sent.2.1.drop 2 = [dimByte chl.bright.max cmd.obj.value.toNat] := by
  rw [dimmerCtrlChannel_bright command positive ctrl, telegrams_append, pointReport_telegrams,
    List.nil_append] at member
  rw [(transmit_sent member).2]
  rfl

/-- What comes back for a byte is near to the command it was sent for. -/
theorem feedback_near (command : DimCommand chl cmd) (positive : 0 < chl.bright.max)
    {pt : DimmerPoint} {telegram : Telegram} (same : pt.bright.max = chl.bright.max)
    (heard : listens pt.bright.pFeedback telegram = true)
    (byte : telegram.value = dimByte chl.bright.max cmd.obj.value.toNat) {env : Env}
    {dev : KnxDevice}
    {key : Text} {obj : DpObj} (member : .report key obj ∈ (dimmerChannel env telegram dev pt).acts)
    (type : obj.type = .value) :
    (obj.value - cmd.obj.value).natAbs ≤ chl.bright.max / 255 + 1 := by
  have range := dimByte_le positive command.le_max
  have value := brightness_eq command.u16 range
  have near := @dim_round chl.bright.max cmd.obj.value.toNat positive
  have whole := command.value_eq
  simp only [dimmerChannel, if_pos heard, same, byte, value] at member
  split at member
  · split at member
    · rw [cloudReport_obj member]
      simp only
      omega
    · simp at member
  · have other := (dimmerKey_bright _ _ _ _).2 key obj member
    rw [type] at other
    exact absurd other (by decide)

end

theorem echo_on_scale_iff (chl : DimmerChannel) (cmd : KnxWrite) (command : DimCommand chl cmd) :
    EchoOnScale chl cmd ↔ chl.EchoFits cmd.obj.value.toNat := by
  have whole := command.value_eq
  constructor
  · intro near writeOnly ctrl positive
    obtain ⟨addr, ctrl⟩ := Option.ne_none_iff_exists'.mp ctrl
    have echoed := near.echo { lossy with bActive := true } lampDevice { calls := 0 } _ _
      ((dimmer_reports command positive ctrl _).mpr ⟨rfl, writeOnly, rfl, rfl⟩)
    refine (byte_near positive).mp ?_
    rw [whole]
    exact echoed
  · intro fits
    by_cases ends : chl.bright.max = 0 ∨ chl.bright.pCtrl = none
    · constructor
      · intro env dev s key obj member
        rw [dimmer_quiet command ends] at member
        contradiction
      · intro env dev s sent member
        rw [dimmer_quiet command ends] at member
        contradiction
    · obtain ⟨nonzero, present⟩ := not_or.mp ends
      have positive : 0 < chl.bright.max := Nat.pos_of_ne_zero nonzero
      obtain ⟨addr, ctrl⟩ := Option.ne_none_iff_exists'.mp present
      constructor
      · intro env dev s key obj member
        obtain ⟨-, writeOnly, -, rfl⟩ := (dimmer_reports command positive ctrl s).mp member
        have near := (byte_near positive).mpr (fits writeOnly present positive)
        rwa [whole] at near
      · intro env dev s sent member pt telegram same heard byte env' dev' key obj reported type
        have sentByte := dimmer_sent command positive ctrl member
        rw [sentByte, List.singleton_inj] at byte
        exact feedback_near command positive same heard byte.symm reported type

theorem lampWrite_command (v : Nat) (le : v ≤ 100) : DimCommand lamp (lampWrite v) where
  named := rfl
  u16 := by decide
  low := Int.natCast_nonneg v
  high := Int.ofNat_le.mpr le

/-- Up to one percent the lamp echoes what it was told. -/
theorem dark_lamp_echo : EchoOnScale lamp (lampWrite 1) :=
  (echo_on_scale_iff lamp (lampWrite 1) (lampWrite_command 1 (by decide))).mpr
    fun _ _ _ => by decide

/-- Half the brightness is echoed as 127 of 100. -/
theorem half_lamp_echo : DimCommand lamp (lampWrite 50) ∧
    .report "02c7ecdad9251104".toList { dpid := 2, type := .value, value := 127 } ∈
      (dimmerCtrlChannel { lossy with bActive := true } (lampWrite 50) lampDevice { calls := 0 }
        lamp).events ∧
    ¬ EchoOnScale lamp (lampWrite 50) := by
  have command := lampWrite_command 50 (by decide)
  have reported : .report "02c7ecdad9251104".toList { dpid := 2, type := .value, value := 127 } ∈
      (dimmerCtrlChannel { lossy with bActive := true } (lampWrite 50) lampDevice { calls := 0 }
        lamp).events := by
    decide +kernel
  refine ⟨command, reported, ?_⟩
  intro near
  have echoed := near.echo _ _ _ _ _ reported
  revert echoed
  decide

end HiMaxGateway.Knx
