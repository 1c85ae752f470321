import HiMaxGateway.Knx.Control
import HiMaxGateway.Lib.Fault
import HiMaxGateway.Xml.Channels

/-! What the handlers find in the memory that `realloc` adds for the channels of a KNX cell and
that nobody clears. -/
namespace HiMaxGateway.Xml
open CText CRun Turns

/-- What the added memory holds in the members of a `KnxPoints_t`. -/
structure Words where
  id : UInt16
  mode : UInt32
  value : UInt8
  max : UInt16
  pCtrl : UInt64
  pFeedback : UInt64

/-- A member that the handlers read before anybody writes to it. -/
inductive Member where
  | id
  | mode
  | value
  | max
  | pCtrl
  | pFeedback
  deriving DecidableEq

inductive Address where
  | null
  /-- A group that was configured. -/
  | group (addr : Text)
  | wild (word : UInt64)
  deriving DecidableEq

/-- Whatever a pointer member holds. -/
def pointer (word : UInt64) : Address := if word = 0 then .null else .wild word

/-- An address behind its test for null. -/
def Address.follow : Address → Result (Option Text)
  | .null => pure none
  | .group addr => pure (some addr)
  | .wild _ => .error .outOfBounds

inductive Held where
  | number (n : Nat)
  | address (addr : Address)
  deriving DecidableEq

/-- `PointMode_u`. -/
def PointMode.code : PointMode → Nat
  | .readWrite => 0
  | .readOnly => 1
  | .writeOnly => 2

/-- The memory as a member shows it. -/
def Words.held (words : Words) : Member → Held
  | .id => .number words.id.toNat
  | .mode => .number words.mode.toNat
  | .value => .number words.value.toNat
  | .max => .number words.max.toNat
  | .pCtrl => .address (pointer words.pCtrl)
  | .pFeedback => .address (pointer words.pFeedback)

/-- What the parser has written to a member. -/
def KnxPoints.written (p : KnxPoints) : Member → Option Held
  | .id => p.point.id.map .number
  | .mode => p.point.mode.map fun mode => .number mode.code
  | .value => p.point.value.map .number
  | .max => p.point.max.map .number
  | .pCtrl => p.pCtrl.map fun addr => .address (.group addr)
  | .pFeedback => p.pFeedback.map fun addr => .address (.group addr)

def KnxPoints.read (p : KnxPoints) (words : Words) (member : Member) : Held :=
  (p.written member).getD (words.held member)

/-- What a member is to mean that the document does not give. -/
def Member.absent : Member → Option Held
  | .mode => some (.number PointMode.readWrite.code)
  | .pCtrl | .pFeedback => some (.address .null)
  | _ => none

/-- A point of a channel, and what is read of it. -/
structure Part where
  points : KnxPoints
  members : List Member

def panelParts (key : KnxPoints) : List Part := [⟨key, [.id, .mode, .pCtrl, .pFeedback]⟩]

def smartPanelParts (point : SmartPanelPoint) : List Part :=
  [⟨point.key, [.id, .mode, .pCtrl, .pFeedback]⟩, ⟨point.scene, [.id, .value, .pCtrl]⟩,
    ⟨point.mode, [.id, .value]⟩]

def dimmerParts (point : DimmerPoint) : List Part :=
  [⟨point.key, [.id, .mode, .pCtrl, .pFeedback]⟩,
    ⟨point.bright, [.id, .mode, .max, .pCtrl, .pFeedback]⟩]

/-- The functions that build a device in such memory. -/
inductive KnxFunction where
  | parseKnxPanelCfg
  | parseKnxSmartPanelCfg
  | parseKnxDimmerCfg

abbrev KnxFunction.Channel : KnxFunction → Type
  | .parseKnxPanelCfg => KnxPoints
  | .parseKnxSmartPanelCfg => SmartPanelPoint
  | .parseKnxDimmerCfg => DimmerPoint

def KnxFunction.cls : (function : KnxFunction) → CellClass (KnxBody function.Channel)
  | .parseKnxPanelCfg => knxPanel
  | .parseKnxSmartPanelCfg => knxSmartPanel
  | .parseKnxDimmerCfg => knxDimmer

def KnxFunction.parts : (function : KnxFunction) → function.Channel → List Part
  | .parseKnxPanelCfg => panelParts
  | .parseKnxSmartPanelCfg => smartPanelParts
  | .parseKnxDimmerCfg => dimmerParts

section

variable {χ : Type} (parts : χ → List Part)

/-- The points of the channels, each with its place in the block. -/
def places (chl : List χ) : List (Part × Nat) := (chl.flatMap parts).zipIdx

/-- The device as the handlers of its class find it. -/
def device (memory : Nat → Words) (chl : List χ) : List (List Held) :=
  (places parts chl).map fun (part, place) => part.members.map (part.points.read (memory place))

end

/-- The points behind the header of the device. -/
def KnxFunction.block (function : KnxFunction) (chl : List function.Channel) : List KnxPoints :=
  (chl.flatMap function.parts).map Part.points

/-- What a handler reads at a place behind the header, be it in the block or behind it. -/
def memberAt (block : List KnxPoints) (memory : Nat → Words) (place : Nat) (member : Member) :
    Held :=
  (block.getD place {}).read (memory place) member

/-- The report handlers. Each takes a device for one of its class by the `primaryType`. -/
inductive KnxReport where
  | knxPanelReport
  | knxSmartPanelReport
  | knxDimmerReport
  deriving DecidableEq

def KnxReport.takes : KnxReport → Nat → Bool
  | .knxPanelReport => Config.Struct.knxPanel.takes
  | .knxSmartPanelReport => Config.Struct.knxSmartPanel.takes
  | .knxDimmerReport => Config.Struct.knxDimmer.takes

/-- The places of the feedbacks that are tested for a channel: a panel has one point a channel, a
smart panel three and a dimmer two. -/
def KnxReport.tested : KnxReport → Nat → List Nat
  | .knxPanelReport, i => [i]
  | .knxSmartPanelReport, i => [3 * i]
  | .knxDimmerReport, i => [2 * i + 1, 2 * i]

section

variable (memory : Nat → Words) (primaryType keySum : Nat) (block : List KnxPoints)

/-- The addresses that a handler tests for null and then follows. -/
def KnxReport.feedbacks (report : KnxReport) : Result (List (Option Text)) :=
  if report.takes primaryType = true then
    ((List.range keySum).flatMap report.tested).mapM fun place =>
      match memberAt block memory place .pFeedback with
      | .address addr => addr.follow
      | .number _ => pure none
  else pure []

/-- `Knx_DimmerCtrl` divides by the maximum of the brightness that a command names. -/
def Divides (dpid : Nat) : Prop :=
  Config.Struct.knxDimmer.takes primaryType = true ∧ ∃ i < keySum,
    memberAt block memory (2 * i + 1) .id = .number dpid ∧
      memberAt block memory (2 * i + 1) .max = .number 0

end

/-- What the document says is what the handlers find, whatever the memory held. -/
structure Determined (function : KnxFunction) (body : KnxBody function.Channel) : Prop where
  same : ∀ memory other,
    device function.parts memory body.chl = device function.parts other body.chl
  absent : ∀ part ∈ body.chl.flatMap function.parts, ∀ member ∈ part.members, ∀ held,
    member.absent = some held → part.points.written member = none →
      ∀ words, part.points.read words member = held
  divides : ∀ memory dpid, dpid < 2 ^ 8 →
    ¬Divides memory (function.cls.primaryType body) body.keySum (function.block body.chl) dpid
  follows : ∀ (report : KnxReport) (memory : Nat → Words), Returns
    (report.feedbacks memory (function.cls.primaryType body) body.keySum (function.block body.chl))

def zeros : Words := ⟨0, 0, 0, 0, 0, 0⟩

def ones : Words := ⟨1, 1, 1, 1, 1, 1⟩

theorem held_apart (member : Member) : zeros.held member ≠ ones.held member := by
  cases member <;> decide

theorem read_written {p : KnxPoints} {member : Member} {held : Held}
    (written : p.written member = some held) (words : Words) : p.read words member = held := by
  rw [KnxPoints.read, written, Option.getD_some]

theorem read_id {p : KnxPoints} {n : Nat} (given : p.point.id = some n) (words : Words) :
    p.read words .id = .number n :=
  read_written (by rw [KnxPoints.written, given]; rfl) words

theorem read_max {p : KnxPoints} {n : Nat} (given : p.point.max = some n) (words : Words) :
    p.read words .max = .number n :=
  read_written (by rw [KnxPoints.written, given]; rfl) words

/-- A brightness as `Knx_DimmerCtrl` takes it. -/
def KnxPoints.ctrlPoint (p : KnxPoints) (words : Words) : Knx.CtrlPoint where
  id := p.point.id.getD words.id.toNat
  pCtrl := p.pCtrl
  max := p.point.max.getD words.max.toNat
  writeOnly := (p.point.mode.map PointMode.code).getD words.mode.toNat = PointMode.writeOnly.code

/-- The division ends the process. -/
theorem division_crashes {p : KnxPoints} {words : Words} {cmd : Knx.KnxWrite} (env : Knx.Replies)
    (dev : Knx.CtrlDevice) (s : Knx.CtrlState) (key : Knx.CtrlPoint)
    (named : p.read words .id = .number cmd.obj.dpid) (zero : p.read words .max = .number 0) :
    (Knx.dimmerCtrlChannel env cmd dev s ⟨key, p.ctrlPoint words⟩).flow = .crash := by
  have id : (p.ctrlPoint words).id = cmd.obj.dpid := by
    cases given : p.point.id with
    | none =>
      simpa [KnxPoints.read, KnxPoints.written, KnxPoints.ctrlPoint, Words.held, given] using named
    | some n => simpa [KnxPoints.read, KnxPoints.written, KnxPoints.ctrlPoint, given] using named
  have max : (p.ctrlPoint words).max = 0 := by
    cases given : p.point.max with
    | none =>
      simpa [KnxPoints.read, KnxPoints.written, KnxPoints.ctrlPoint, Words.held, given] using zero
    | some n => simpa [KnxPoints.read, KnxPoints.written, KnxPoints.ctrlPoint, given] using zero
  rw [Knx.dimmerCtrlChannel, if_pos id, if_pos max]

/-- The parser has written all that is read. -/
def Part.Written (part : Part) : Prop :=
  ∀ member ∈ part.members, (part.points.written member).isSome = true

section

variable {χ : Type} {parts : χ → List Part} {chl : List χ}

theorem mem_places {part : Part} :
    part ∈ chl.flatMap parts ↔ ∃ place, (part, place) ∈ places parts chl := by
  rw [List.mem_iff_getElem?]
  simp only [places, List.mem_zipIdx_iff_getElem?]

theorem same_iff : (∀ memory other, device parts memory chl = device parts other chl) ↔
    ∀ part ∈ chl.flatMap parts, part.Written := by
  constructor
  · intro same part inside member listed
    obtain ⟨place, found⟩ := mem_places.mp inside
    have equal := same (fun _ => zeros) fun _ => ones
    have here := List.map_inj_left.mp (List.map_inj_left.mp equal (part, place) found) member listed
    cases written : part.points.written member with
    | some held => rfl
    | none =>
      rw [KnxPoints.read, KnxPoints.read, written] at here
      exact absurd here (held_apart member)
  · intro written memory other
    refine List.map_inj_left.mpr fun (part, place) found => List.map_inj_left.mpr
      fun member listed => ?_
    obtain ⟨held, given⟩ := Option.isSome_iff_exists.mp
      (written part (mem_places.mpr ⟨place, found⟩) member listed)
    rw [read_written given, read_written given]

end

/-- The handler finds a configured feedback wherever it tests for one. -/
def KnxReport.Served (report : KnxReport) (primaryType keySum : Nat) (block : List KnxPoints) :
    Prop :=
  report.takes primaryType = true → ∀ i < keySum, ∀ place ∈ report.tested i,
    (block.getD place {}).pFeedback.isSome = true

theorem feedbacks_iff {report : KnxReport} {primaryType keySum : Nat} {block : List KnxPoints} :
    (∀ memory, Returns (report.feedbacks memory primaryType keySum block)) ↔
      report.Served primaryType keySum block := by
  constructor
  · intro safe taken i inside place tested
    have followed := safe fun _ => ones
    rw [KnxReport.feedbacks, if_pos taken, returns_mapM] at followed
    have here := followed place (List.mem_flatMap.mpr ⟨i, List.mem_range.mpr inside, tested⟩)
    cases given : (block.getD place {}).pFeedback with
    | some addr => rfl
    | none =>
      -- the ones are an address that nobody configured
      have wild : memberAt block (fun _ => ones) place .pFeedback = .address (.wild 1) := by
        rw [memberAt, KnxPoints.read, KnxPoints.written, given]
        rfl
      rw [wild] at here
      exact absurd here returns_error
  · intro served memory
    refine .ite (fun taken => returns_mapM.mpr fun place found => ?_) fun _ => .pure
    obtain ⟨i, inside, tested⟩ := List.mem_flatMap.mp found
    obtain ⟨addr, given⟩ :=
      Option.isSome_iff_exists.mp (served taken i (List.mem_range.mp inside) place tested)
    have held : memberAt block memory place .pFeedback = .address (.group addr) :=
      read_written (by rw [KnxPoints.written, given]; rfl) _
    rw [held]
    exact .pure

theorem determined_iff {function : KnxFunction} {body : KnxBody function.Channel} :
    Determined function body ↔
      (∀ part ∈ body.chl.flatMap function.parts, part.Written) ∧
        (∀ memory dpid, dpid < 2 ^ 8 →
          ¬Divides memory (function.cls.primaryType body) body.keySum (function.block body.chl)
            dpid) ∧
        ∀ report : KnxReport,
          report.Served (function.cls.primaryType body) body.keySum (function.block body.chl) := by
  constructor
  · intro determined
    exact ⟨same_iff.mp determined.same, determined.divides,
      fun report => feedbacks_iff.mp (determined.follows report)⟩
  · rintro ⟨written, divides, served⟩
    refine ⟨same_iff.mpr written, ?_, divides, fun report => feedbacks_iff.mpr (served report)⟩
    intro part inside member listed held _ unwritten
    have given := written part inside member listed
    rw [unwritten] at given
    contradiction

theorem switch_written_iff {p : KnxPoints} :
    (⟨p, [.id, .mode, .pCtrl, .pFeedback]⟩ : Part).Written ↔ p.Whole := by
  constructor
  · intro written
    have id := written .id (by simp)
    have mode := written .mode (by simp)
    have pCtrl := written .pCtrl (by simp)
    have pFeedback := written .pFeedback (by simp)
    simp only [KnxPoints.written, Option.isSome_map] at id mode pCtrl pFeedback
    exact ⟨pCtrl, pFeedback, id, mode⟩
  · intro whole member listed
    simp only [List.mem_cons, List.not_mem_nil, or_false] at listed
    rcases listed with rfl | rfl | rfl | rfl
    all_goals simp only [KnxPoints.written, Option.isSome_map]
    · exact whole.id
    · exact whole.mode
    · exact whole.pCtrl
    · exact whole.pFeedback

theorem bright_written_iff {p : KnxPoints} :
    (⟨p, [.id, .mode, .max, .pCtrl, .pFeedback]⟩ : Part).Written ↔
      p.Whole ∧ p.point.max.isSome = true := by
  have max : (p.written .max).isSome = p.point.max.isSome := Option.isSome_map
  constructor
  · intro written
    refine ⟨switch_written_iff.mp fun member listed => written member ?_, max ▸ written .max
      (by simp)⟩
    simp only [List.mem_cons, List.not_mem_nil, or_false] at listed ⊢
    tauto
  · rintro ⟨whole, ranged⟩ member listed
    by_cases is_max : member = .max
    · rw [is_max, max]
      exact ranged
    · refine switch_written_iff.mpr whole member ?_
      simp only [List.mem_cons, List.not_mem_nil, or_false] at listed ⊢
      tauto

/-- The channels of a cell. -/
def channels (cell : Node) : List Node := cell.children.filter (·.named "channel")

/-- Those that a panel counts. -/
def filledChannels (cell : Node) : List Node :=
  (channels cell).filter fun node => !node.children.isEmpty

/-- A maximum of zero that a command can reach: the data points of commands have eight bits. -/
def ZeroMax (node : Node) : Prop :=
  brightMax node.children = some 0 ∧
    ∃ text, lastText "DataPoint" (inner "Brightness" node.children) = some text ∧ u16 text < 2 ^ 8

theorem panel_written_iff {chl : List KnxPoints} :
    (∀ part ∈ chl.flatMap panelParts, part.Written) ↔ ∀ key ∈ chl, key.Whole := by
  simp only [List.mem_flatMap, panelParts, List.mem_singleton]
  constructor
  · intro written key inside
    exact switch_written_iff.mp (written _ ⟨key, inside, rfl⟩)
  · rintro whole part ⟨key, inside, rfl⟩
    exact switch_written_iff.mpr (whole key inside)

theorem dimmer_written_iff {chl : List DimmerPoint} :
    (∀ part ∈ chl.flatMap dimmerParts, part.Written) ↔ ∀ point ∈ chl, point.Whole := by
  simp only [List.mem_flatMap, dimmerParts, List.mem_cons, List.not_mem_nil, or_false]
  constructor
  · intro written point inside
    have key := switch_written_iff.mp (written _ ⟨point, inside, .inl rfl⟩)
    have bright := bright_written_iff.mp (written _ ⟨point, inside, .inr rfl⟩)
    exact ⟨key, bright.1, bright.2⟩
  · rintro whole part ⟨point, inside, rfl | rfl⟩
    · exact switch_written_iff.mpr (whole point inside).key
    · exact bright_written_iff.mpr ⟨(whole point inside).bright, (whole point inside).max⟩

-- What the types that the parser computes are taken for.

theorem panel_takes {primaryType : Nat} :
    KnxReport.knxPanelReport.takes primaryType = true ↔ 8 ≤ primaryType ∧ primaryType ≤ 15 :=
  decide_eq_true_iff

theorem smartPanel_takes {primaryType : Nat} :
    KnxReport.knxSmartPanelReport.takes primaryType = true ↔ 43 ≤ primaryType ∧ primaryType ≤ 46 :=
  decide_eq_true_iff

theorem dimmer_takes {primaryType : Nat} :
    KnxReport.knxDimmerReport.takes primaryType = true ↔ 39 ≤ primaryType ∧ primaryType ≤ 42 :=
  decide_eq_true_iff

theorem block_panel (chl : List KnxPoints) : KnxFunction.block .parseKnxPanelCfg chl = chl := by
  induction chl with
  | nil => rfl
  | cons key chl ih => exact congrArg (key :: ·) ih

theorem block_dimmer (chl : List DimmerPoint) (i : Nat) :
    (KnxFunction.block .parseKnxDimmerCfg chl).getD (2 * i) {} = (chl.getD i {}).key ∧
      (KnxFunction.block .parseKnxDimmerCfg chl).getD (2 * i + 1) {} = (chl.getD i {}).bright := by
  induction chl generalizing i with
  | nil => exact ⟨rfl, rfl⟩
  | cons point chl ih =>
    cases i with
    | zero => exact ⟨rfl, rfl⟩
    | succ i => exact ih i

theorem length_block_dimmer (chl : List DimmerPoint) :
    (KnxFunction.block .parseKnxDimmerCfg chl).length = 2 * chl.length := by
  induction chl with
  | nil => rfl
  | cons point chl ih =>
    have step : (KnxFunction.block .parseKnxDimmerCfg (point :: chl)).length =
        (KnxFunction.block .parseKnxDimmerCfg chl).length + 2 := rfl
    rw [step, ih, List.length_cons]
    omega

/-- Behind the block there is nothing that was configured. -/
theorem behind_block {block : List KnxPoints} {place : Nat} (behind : block.length ≤ place) :
    ¬(block.getD place {}).pFeedback.isSome = true := by
  rw [List.getD_eq_getElem?_getD, List.getElem?_eq_none behind]
  simp

/-- A panel of 32 to 35 keys is taken for a dimmer, and one of 36 to 39 for a smart panel. -/
theorem panel_served_iff {chl : List KnxPoints} (whole : ∀ key ∈ chl, key.Whole) :
    (∀ report : KnxReport, report.Served (8 + chl.length - 1) chl.length chl) ↔
      ¬(32 ≤ chl.length ∧ chl.length ≤ 39) := by
  constructor
  · rintro served ⟨least, most⟩
    have last : chl.length - 1 < chl.length := by omega
    by_cases few : chl.length ≤ 35
    · have taken :=
        dimmer_takes.mpr (show 39 ≤ 8 + chl.length - 1 ∧ 8 + chl.length - 1 ≤ 42 by omega)
      have tested :=
        served .knxDimmerReport taken _ last (2 * (chl.length - 1) + 1) (by simp [KnxReport.tested])
      exact behind_block (by omega) tested
    · have taken := smartPanel_takes.mpr
        (show 43 ≤ 8 + chl.length - 1 ∧ 8 + chl.length - 1 ≤ 46 by omega)
      have tested :=
        served .knxSmartPanelReport taken _ last (3 * (chl.length - 1)) (by simp [KnxReport.tested])
      exact behind_block (by omega) tested
  · intro outside report taken i inside place tested
    cases report with
    | knxPanelReport =>
      rw [KnxReport.tested, List.mem_singleton] at tested
      rw [tested, List.getD_eq_getElem?_getD, List.getElem?_eq_getElem inside, Option.getD_some]
      exact (whole _ (List.getElem_mem inside)).pFeedback
    | knxSmartPanelReport =>
      have range := smartPanel_takes.mp taken
      omega
    | knxDimmerReport =>
      have range := dimmer_takes.mp taken
      omega

/-- A dimmer of five to eight channels is taken for a smart panel. -/
theorem dimmer_served_iff {chl : List DimmerPoint} (whole : ∀ point ∈ chl, point.Whole) :
    (∀ report : KnxReport, report.Served (39 + chl.length - 1) chl.length
        (KnxFunction.block .parseKnxDimmerCfg chl)) ↔
      ¬(5 ≤ chl.length ∧ chl.length ≤ 8) := by
  constructor
  · rintro served ⟨least, most⟩
    have last : chl.length - 1 < chl.length := by omega
    have taken := smartPanel_takes.mpr
      (show 43 ≤ 39 + chl.length - 1 ∧ 39 + chl.length - 1 ≤ 46 by omega)
    have tested :=
      served .knxSmartPanelReport taken _ last (3 * (chl.length - 1)) (by simp [KnxReport.tested])
    exact behind_block (by rw [length_block_dimmer]; omega) tested
  · intro outside report taken i inside place tested
    cases report with
    | knxPanelReport =>
      have range := panel_takes.mp taken
      omega
    | knxSmartPanelReport =>
      have range := smartPanel_takes.mp taken
      omega
    | knxDimmerReport =>
      have here : (chl.getD i {}).Whole := by
        rw [List.getD_eq_getElem?_getD, List.getElem?_eq_getElem inside, Option.getD_some]
        exact whole _ (List.getElem_mem inside)
      simp only [KnxReport.tested, List.mem_cons, List.not_mem_nil, or_false] at tested
      rcases tested with rfl | rfl
      · rw [(block_dimmer chl i).2]
        exact here.bright.pFeedback
      · rw [(block_dimmer chl i).1]
        exact here.key.pFeedback

section

variable {keys : Keys} {cell : Node}

theorem panel_determined_iff {s : CellState (KnxBody KnxPoints)}
    (scan : knxPanel.scan keys cell = .ok s) :
    Determined .parseKnxPanelCfg s.body ↔ PanelProvides false cell.children ∧
      ¬(32 ≤ (filledChannels cell).length ∧ (filledChannels cell).length ≤ 39) := by
  have provided : (∀ key ∈ s.body.chl, key.Whole) ↔ PanelProvides false cell.children :=
    (panel_whole_iff scan ⟨rfl, rfl, rfl⟩).trans (and_iff_right (by simp [knxPanel]))
  have count : s.body.chl.length = (filledChannels cell).length :=
    (panel_length scan).trans (Nat.zero_add _)
  have block : KnxFunction.block .parseKnxPanelCfg s.body.chl = s.body.chl := block_panel _
  refine determined_iff.trans ?_
  rw [← provided, ← count]
  constructor
  · rintro ⟨written, -, served⟩
    have whole := panel_written_iff.mp written
    rw [block] at served
    exact ⟨whole, (panel_served_iff whole).mp served⟩
  · rintro ⟨whole, outside⟩
    refine ⟨panel_written_iff.mpr whole, ?_, ?_⟩
    · rintro memory dpid - ⟨taken, -⟩
      have range := dimmer_takes.mp taken
      change 39 ≤ 8 + s.body.chl.length - 1 ∧ 8 + s.body.chl.length - 1 ≤ 42 at range
      omega
    · rw [block]
      exact (panel_served_iff whole).mpr outside

theorem smartPanel_determined_iff {s : CellState (KnxBody SmartPanelPoint)}
    (scan : knxSmartPanel.scan keys cell = .ok s) :
    Determined .parseKnxSmartPanelCfg s.body ↔ channels cell = [] := by
  obtain ⟨points, chl, each⟩ := @channels_added _ _ _ _ smartPanel_channelled {}
    (fun _ point => point.key.point.mode = none)
    (fun s t node start act => by
      obtain ⟨point, mode, rest⟩ := smartChannel_ok act
      exact ⟨point, mode.trans (by rw [start]), rest⟩) _ _ _ scan rfl
  have chl : s.body.chl = points := chl
  have each : List.Forall₂ _ (channels cell) points := each
  refine determined_iff.trans ?_
  constructor
  · rintro ⟨written, -⟩
    cases points with
    | nil => exact List.forall₂_nil_right_iff.mp each
    | cons point rest =>
      obtain ⟨node, nodes, unset, -, -⟩ := List.forall₂_cons_right_iff.mp each
      have part := written ⟨point.key, [.id, .mode, .pCtrl, .pFeedback]⟩
        (List.mem_flatMap.mpr ⟨point, by rw [chl]; exact List.mem_cons_self, List.mem_cons_self⟩)
      have mode := (switch_written_iff.mp part).mode
      rw [unset] at mode
      contradiction
  · intro none
    rw [none] at each
    cases each
    have keySum : s.body.keySum = 0 := congrArg List.length chl
    refine ⟨by simp [chl], ?_, ?_⟩
    · rintro memory dpid - ⟨-, i, inside, -⟩
      omega
    · intro report taken i inside
      omega

/-- The same for a channel that was parsed. -/
def DimmerPoint.ZeroMax (point : DimmerPoint) : Prop :=
  point.bright.point.max = some 0 ∧ ∃ id, point.bright.point.id = some id ∧ id < 2 ^ 8

theorem zeroMax_iff {node : Node} {point : DimmerPoint}
    (filled : DimmerFilled node.children (dimmerEntered node) point) :
    point.ZeroMax ↔ Xml.ZeroMax node := by
  have id := filled.bright.id
  have max := filled.bright.max
  rw [dimmerEntered, (channelMode_rest node {}).1, Option.or_none] at id
  rw [dimmerEntered, (channelMode_rest node {}).2, Option.or_none] at max
  simp only [DimmerPoint.ZeroMax, Xml.ZeroMax, id, max, Option.map_eq_some_iff]
  constructor
  · rintro ⟨zero, -, ⟨text, found, rfl⟩, small⟩
    exact ⟨zero, text, found, small⟩
  · rintro ⟨zero, text, found, small⟩
    exact ⟨zero, _, ⟨text, found, rfl⟩, small⟩

theorem undivided_iff {chl : List DimmerPoint} (whole : ∀ point ∈ chl, point.Whole) :
    (∀ memory dpid, dpid < 2 ^ 8 → ¬Divides memory (39 + chl.length - 1) chl.length
        (KnxFunction.block .parseKnxDimmerCfg chl) dpid) ↔
      (chl.length ≤ 4 → ∀ point ∈ chl, ¬point.ZeroMax) := by
  constructor
  · rintro undivided few point inside ⟨max, id, given, small⟩
    obtain ⟨i, below, rfl⟩ := List.mem_iff_getElem.mp inside
    have here : (KnxFunction.block .parseKnxDimmerCfg chl).getD (2 * i + 1) {} = chl[i].bright := by
      rw [(block_dimmer chl i).2, List.getD_eq_getElem?_getD, List.getElem?_eq_getElem below,
        Option.getD_some]
    refine undivided (fun _ => zeros) id small ⟨dimmer_takes.mpr (by omega), i, below, ?_, ?_⟩
    · rw [memberAt, here]
      exact read_id given zeros
    · rw [memberAt, here]
      exact read_max max zeros
  · rintro nonzero memory dpid small ⟨taken, i, below, id, max⟩
    have few := dimmer_takes.mp taken
    have inside := List.getElem_mem below
    rw [memberAt, (block_dimmer chl i).2, List.getD_eq_getElem?_getD,
      List.getElem?_eq_getElem below, Option.getD_some] at id max
    obtain ⟨n, given⟩ := Option.isSome_iff_exists.mp (whole _ inside).bright.id
    obtain ⟨m, ranged⟩ := Option.isSome_iff_exists.mp (whole _ inside).max
    rw [read_id given, Held.number.injEq] at id
    rw [read_max ranged, Held.number.injEq] at max
    subst dpid m
    exact nonzero (by omega) _ inside ⟨ranged, n, given, small⟩

theorem dimmer_determined_iff {s : CellState (KnxBody DimmerPoint)}
    (scan : knxDimmer.scan keys cell = .ok s) :
    Determined .parseKnxDimmerCfg s.body ↔
      (∀ node ∈ channels cell, DimmerProvides node) ∧
        ¬(5 ≤ (channels cell).length ∧ (channels cell).length ≤ 8) ∧
        ((channels cell).length ≤ 4 → ∀ node ∈ channels cell, ¬ZeroMax node) := by
  obtain ⟨points, chl, each⟩ := channels_added dimmer_channelled dimmerChannel_ok scan rfl
  have chl : s.body.chl = points := chl
  have each : List.Forall₂ _ (channels cell) points := each
  have whole := forall₂_forall_iff each fun _ _ filled => dimmer_whole_iff filled
  have zero := forall₂_forall_iff each fun _ _ filled => not_congr (zeroMax_iff filled)
  refine determined_iff.trans ?_
  rw [← whole, ← zero, each.length_eq, ← chl, ← dimmer_written_iff]
  refine and_congr_right fun written => ?_
  have whole := dimmer_written_iff.mp written
  rw [and_comm]
  exact and_congr (dimmer_served_iff whole) (undivided_iff whole)

end

/-- What the document has to give. Panels and dimmers of some sizes get the type of another
class. -/
def KnxFunction.Provides : KnxFunction → Node → Prop
  | .parseKnxPanelCfg, cell =>
      PanelProvides false cell.children ∧
        ¬(32 ≤ (filledChannels cell).length ∧ (filledChannels cell).length ≤ 39)
  -- Nothing gives a channel of a smart panel its mode.
  | .parseKnxSmartPanelCfg, cell => channels cell = []
  | .parseKnxDimmerCfg, cell =>
      (∀ node ∈ channels cell, DimmerProvides node) ∧
        ¬(5 ≤ (channels cell).length ∧ (channels cell).length ≤ 8) ∧
        ((channels cell).length ≤ 4 → ∀ node ∈ channels cell, ¬ZeroMax node)

/-- A cell is read the same in every memory just where it gives all its parts. -/
theorem knx_cell_determined_iff (function : KnxFunction) (keys : Keys) (cell : Node)
    (s : CellState (KnxBody function.Channel)) (scan : function.cls.scan keys cell = .ok s) :
    Determined function s.body ↔ function.Provides cell := by
  cases function with
  | parseKnxPanelCfg => exact panel_determined_iff scan
  | parseKnxSmartPanelCfg => exact smartPanel_determined_iff scan
  | parseKnxDimmerCfg => exact dimmer_determined_iff scan

/-- A panel with one key that is read only. -/
def keyCell (parts : List Node) : Node :=
  .element "Cell" [.mk "channel".toList none [("mode".toList, "rd".toList)] parts]

def switchPart : Node := .element "Switch" [.text "1/2/3"]

def statusPart : Node := .element "Status" [.text "1/2/4"]

def dataPointPart : Node := .element "DataPoint" [.text "1"]

theorem whole_key_determined :
    ∃ s, knxPanel.scan {} (keyCell [switchPart, statusPart, dataPointPart]) = .ok s ∧
      Determined .parseKnxPanelCfg s.body := by
  have passes : knxPanel.Passes (keyCell [switchPart, statusPart, dataPointPart]) := rfl
  obtain ⟨s, scan⟩ := passes_iff.mp passes
  refine ⟨s, scan, (knx_cell_determined_iff .parseKnxPanelCfg {} _ s scan).mpr ?_⟩
  refine ⟨?_, by decide⟩
  change PanelProvides false [_]
  rw [PanelProvides, if_pos (by decide), if_neg (by simp [Node.children])]
  exact ⟨⟨rfl, rfl, rfl, rfl⟩, trivial⟩

/-- Without a status, the report handlers follow whatever was there. -/
theorem key_without_status_wild :
    ∃ s, knxPanel.scan {} (keyCell [switchPart, dataPointPart]) = .ok s ∧
      ¬Determined .parseKnxPanelCfg s.body := by
  refine ⟨_, rfl, fun determined => ?_⟩
  exact absurd (determined.follows .knxPanelReport fun _ => ones) returns_error

end HiMaxGateway.Xml
