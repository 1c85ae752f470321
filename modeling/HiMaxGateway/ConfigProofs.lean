import HiMaxGateway.Config

/-! Which documents give every list entry the type of its structure. -/
namespace HiMaxGateway.Config
open CText
open Xml (Node keyCells lastItem itemCells)

theorem parseKey_type {rule : KeyRule} {primaryType result : Nat} {node : Node}
    (parsed : parseKey rule primaryType node = some result) :
    result = if hasKey node then rule.primaryType.code else primaryType := by
  rw [parseKey] at parsed
  rw [hasKey]
  split at parsed
  · rename_i key
    cases content : node.content? with
    | some text => simpa [content, key] using parsed.symm
    | none =>
      simp only [content] at parsed
      split at parsed
      · simp at parsed
      · simpa [key] using parsed.symm
  · rename_i other
    simp only [other, Bool.false_and, Bool.false_eq_true, if_false]
    split at parsed
    · split at parsed
      · simpa using parsed.symm
      · simp at parsed
    · split at parsed
      · split at parsed
        · split at parsed
          · split at parsed
            · simp at parsed
            · simpa using parsed.symm
          · simpa using parsed.symm
        · simp at parsed
      · simpa using parsed.symm

/-- A key anywhere in the cell overwrites the type of the template. -/
theorem parseKeys_type {rule : KeyRule} {primaryType result : Nat} {children : List Node}
    (parsed : children.foldlM (parseKey rule) primaryType = some result) :
    result = if children.any hasKey then rule.primaryType.code else primaryType := by
  induction children generalizing primaryType with
  | nil => simpa using parsed.symm
  | cons node rest ih =>
    obtain ⟨next, first, more⟩ := Option.bind_eq_some_iff.mp parsed
    rw [ih more, parseKey_type first]
    cases here : hasKey node <;> cases later : rest.any hasKey <;> simp [here, later]

/-- A property of the results of a parser that is one of what it parsed. -/
theorem mapM_forall {α β : Type} {parse : α → Option β} {P : β → Prop} {Q : α → Prop}
    (each : ∀ a b, parse a = some b → (P b ↔ Q a)) {parts : List α} {results : List β}
    (parsed : parts.mapM parse = some results) : (∀ b ∈ results, P b) ↔ ∀ a ∈ parts, Q a := by
  induction parts generalizing results with
  | nil =>
    cases parsed
    simp
  | cons a rest ih =>
    rw [List.mapM_cons] at parsed
    obtain ⟨b, here, more⟩ := Option.bind_eq_some_iff.mp parsed
    obtain ⟨bs, there, made⟩ := Option.bind_eq_some_iff.mp more
    cases made
    simp only [List.forall_mem_cons, ih there, each a b here]

section

variable {passes : Passes} {P : Entry → Prop} {entries : List Entry}

theorem parseCells_forall {parse : List Node → Option (List Entry)} {Q : List Node → Prop}
    (each : ∀ cell es, parse cell = some es → ((∀ e ∈ es, P e) ↔ Q cell)) {cells : List (List Node)}
    (parsed : parseCells parse cells = some entries) :
    (∀ e ∈ entries, P e) ↔ ∀ cell ∈ cells, Q cell := by
  obtain ⟨parts, made, rfl⟩ := Option.map_eq_some_iff.mp parsed
  rw [← mapM_forall each made]
  simp only [List.mem_flatten, forall_exists_index, and_imp]
  constructor
  · intro all es inside e member
    exact all e es inside member
  · intro all e es inside member
    exact all es inside e member

theorem parseItems_forall (rule : KeyRule) (template : DeviceType) (cell : List Node)
    (entries : List Entry)
    (parsed : parseItems passes rule.struct (parseKeys rule) template cell = some entries) :
    (∀ e ∈ entries, P e) ↔ ∀ keys ∈ itemCells cell,
      P ⟨rule.struct, if keys.children.any hasKey then rule.primaryType.code
        else template.code⟩ := by
  rw [parseItems] at parsed
  split at parsed
  · rw [itemCells]
    cases last : lastItem cell with
    | none =>
      simp only [last, Option.some.injEq] at parsed
      simp [← parsed]
    | some item =>
      simp only [last] at parsed
      apply mapM_forall _ parsed
      intro keys entry made
      obtain ⟨primaryType, folded, rfl⟩ := Option.map_eq_some_iff.mp made
      rw [parseKeys_type folded]
  · simp at parsed

theorem parseFixed_forall (struct : Struct) (type : DeviceType) (cell : List Node)
    (entries : List Entry) (parsed : parseFixed passes struct type cell = some entries) :
    (∀ e ∈ entries, P e) ↔ P ⟨struct, type.code⟩ := by
  rw [parseFixed] at parsed
  split at parsed
  · cases parsed
    simp
  · simp at parsed

theorem parseChannels_forall (struct : Struct) (first : DeviceType) (counts : Node → Bool)
    (cell : List Node) (entries : List Entry)
    (parsed : parseChannels passes struct first counts cell = some entries) :
    (∀ e ∈ entries, P e) ↔ P ⟨struct, (first.code + keySum counts cell - 1) % 2 ^ 32⟩ := by
  rw [parseChannels] at parsed
  split at parsed
  · cases parsed
    simp
  · simp at parsed

end

/-- The first and the last type that is cast to a structure. -/
def Struct.range : Struct → Nat × Nat
  | .mbusAcd => (31, 31)
  | .mbusVent => (32, 32)
  | .mbusHeat => (33, 33)
  | .mbusCurtain => (34, 34)
  | .mbusAqi => (35, 35)
  | .mbusPanel => (36, 36)
  | .knxAcd => (27, 27)
  | .knxVent => (28, 28)
  | .knxHeat => (29, 29)
  | .knxCurtain => (30, 30)
  | .knxPanel => (8, 15)
  | .knxDimmer => (39, 42)
  | .knxSmartPanel => (43, 46)

theorem takes_iff_range (struct : Struct) (primaryType : Nat) :
    struct.takes primaryType = true ↔
      struct.range.1 ≤ primaryType ∧ primaryType ≤ struct.range.2 := by
  cases struct with
  | knxPanel | knxDimmer | knxSmartPanel => exact decide_eq_true_iff
  | _ =>
    exact decide_eq_true_iff.trans
      ⟨fun same => ⟨same.ge, same.le⟩, fun h => Nat.le_antisymm h.2 h.1⟩

theorem takes_unique {first second : Struct} {primaryType : Nat}
    (left : first.takes primaryType = true) (right : second.takes primaryType = true) :
    first = second := by
  rw [takes_iff_range] at left right
  cases first <;> cases second <;> first
    | rfl
    | (simp only [Struct.range] at left right; omega)

/-- The ranges are disjoint, so it is enough that the handlers of its own class take an entry. -/
theorem sound_iff (entry : Entry) :
    entry.Sound ↔ entry.struct.range.1 ≤ entry.primaryType ∧
      entry.primaryType ≤ entry.struct.range.2 := by
  rw [← takes_iff_range]
  constructor
  · intro sound
    exact (sound entry.struct rfl).mpr rfl
  · intro own struct _
    constructor
    · intro taken
      exact takes_unique taken own
    · rintro rfl
      exact own

theorem keySum_lt (counts : Node → Bool) (cell : List Node) : keySum counts cell < 2 ^ 32 :=
  Nat.mod_lt _ (by decide)

section

variable {passes : Passes} {entries : List Entry} {cells : List (List Node)}

theorem items_sound (rule : KeyRule) (template : DeviceType)
    (key : Entry.Sound ⟨rule.struct, rule.primaryType.code⟩)
    (plain : Entry.Sound ⟨rule.struct, template.code⟩)
    (parsed : parseCells (parseItems passes rule.struct (parseKeys rule) template) cells =
      some entries) : ∀ e ∈ entries, e.Sound := by
  rw [parseCells_forall (parseItems_forall rule template) parsed]
  intro cell _ keys _
  split
  · exact key
  · exact plain

theorem items_sound_iff (rule : KeyRule) (template : DeviceType)
    (key : ¬ Entry.Sound ⟨rule.struct, rule.primaryType.code⟩)
    (plain : Entry.Sound ⟨rule.struct, template.code⟩)
    (parsed : parseCells (parseItems passes rule.struct (parseKeys rule) template) cells =
      some entries) : (∀ e ∈ entries, e.Sound) ↔
        ∀ cell ∈ cells, ∀ keys ∈ itemCells cell, keys.children.any hasKey = false := by
  have each : ∀ keyed : Bool, Entry.Sound ⟨rule.struct,
      if keyed then rule.primaryType.code else template.code⟩ ↔ keyed = false := by
    intro keyed
    cases keyed <;> simp [key, plain]
  rw [parseCells_forall (parseItems_forall rule template) parsed]
  simp only [each]

theorem fixed_sound (struct : Struct) (type : DeviceType) (sound : Entry.Sound ⟨struct, type.code⟩)
    (parsed : parseCells (parseFixed passes struct type) cells = some entries) :
    ∀ e ∈ entries, e.Sound := by
  rw [parseCells_forall (parseFixed_forall struct type) parsed]
  intro cell _
  exact sound

theorem channels_sound_iff (struct : Struct) (first : DeviceType) (counts : Node → Bool) (n : Nat)
    (low : struct.range.1 = first.code) (high : struct.range.2 + 1 = first.code + n)
    (positive : 1 ≤ first.code) (small : struct.range.2 < 2 ^ 31)
    (parsed : parseCells (parseChannels passes struct first counts) cells = some entries) :
    (∀ e ∈ entries, e.Sound) ↔
      ∀ cell ∈ cells, 1 ≤ keySum counts cell ∧ keySum counts cell ≤ n := by
  have each :
      ∀ k < 2 ^ 32, Entry.Sound ⟨struct, (first.code + k - 1) % 2 ^ 32⟩ ↔ 1 ≤ k ∧ k ≤ n := by
    intro k bound
    simp only [sound_iff, low]
    -- A sum beyond the 32 bits comes out below the first type of the class.
    omega
  rw [parseCells_forall (parseChannels_forall struct first counts) parsed]
  exact forall₂_congr fun cell _ => each _ (keySum_lt counts cell)

end

/-- The entries of both lists have the type of their structure exactly when no air quality sensor
and no Modbus panel has a key, and every KNX panel has one to eight channels, every dimmer and
smart panel one to four. -/
theorem types_sound_iff (passes : Passes) (doc : Document) (lists : DevLists)
    (accepted : parseCfg passes doc = some lists) :
    ((∀ e ∈ lists.pMbusDevList, e.Sound) ∧ ∀ e ∈ lists.pKnxDevList, e.Sound) ↔ WellTyped doc := by
  unfold parseCfg at accepted
  obtain ⟨acd, acdParsed, accepted⟩ := Option.bind_eq_some_iff.mp accepted
  obtain ⟨vent, ventParsed, accepted⟩ := Option.bind_eq_some_iff.mp accepted
  obtain ⟨heat, heatParsed, accepted⟩ := Option.bind_eq_some_iff.mp accepted
  obtain ⟨aqi, aqiParsed, accepted⟩ := Option.bind_eq_some_iff.mp accepted
  obtain ⟨panel, panelParsed, accepted⟩ := Option.bind_eq_some_iff.mp accepted
  obtain ⟨knxAcd, knxAcdParsed, accepted⟩ := Option.bind_eq_some_iff.mp accepted
  obtain ⟨knxVent, knxVentParsed, accepted⟩ := Option.bind_eq_some_iff.mp accepted
  obtain ⟨knxHeat, knxHeatParsed, accepted⟩ := Option.bind_eq_some_iff.mp accepted
  obtain ⟨knxPanel, knxPanelParsed, accepted⟩ := Option.bind_eq_some_iff.mp accepted
  obtain ⟨dimmer, dimmerParsed, accepted⟩ := Option.bind_eq_some_iff.mp accepted
  obtain ⟨smartPanel, smartPanelParsed, accepted⟩ := Option.bind_eq_some_iff.mp accepted
  obtain ⟨knxCurtain, knxCurtainParsed, accepted⟩ := Option.bind_eq_some_iff.mp accepted
  obtain ⟨curtain, curtainParsed, accepted⟩ := Option.bind_eq_some_iff.mp accepted
  cases accepted
  have sound : ∀ struct : Struct, ∀ type : DeviceType, struct.range = (type.code, type.code) →
      Entry.Sound ⟨struct, type.code⟩ := by
    intro struct type range
    simp [sound_iff, range]
  have acdSound := items_sound ⟨.mbusAcd, .modbusDeviceAircondition, true⟩ _
    (sound _ _ rfl) (sound _ _ rfl) acdParsed
  have ventSound := items_sound ⟨.mbusVent, .modbusDeviceVentilation, true⟩ _
    (sound _ _ rfl) (sound _ _ rfl) ventParsed
  have heatSound := items_sound ⟨.mbusHeat, .modbusDeviceFloorheating, false⟩ _
    (sound _ _ rfl) (sound _ _ rfl) heatParsed
  have aqiSound := items_sound_iff ⟨.mbusAqi, .modbusDeviceFloorheating, false⟩ _
    (by rw [sound_iff]; decide) (sound _ _ rfl) aqiParsed
  have panelSound := items_sound_iff ⟨.mbusPanel, .modbusDeviceVentilation, false⟩ _
    (by rw [sound_iff]; decide) (sound _ _ rfl) panelParsed
  have knxAcdSound := fixed_sound _ _ (sound _ _ rfl) knxAcdParsed
  have knxVentSound := fixed_sound _ _ (sound _ _ rfl) knxVentParsed
  have knxHeatSound := fixed_sound _ _ (sound _ _ rfl) knxHeatParsed
  have knxCurtainSound := fixed_sound _ _ (sound _ _ rfl) knxCurtainParsed
  have curtainSound := fixed_sound _ _ (sound _ _ rfl) curtainParsed
  have knxPanelSound := channels_sound_iff _ _ _ 8 rfl rfl (by decide) (by decide) knxPanelParsed
  have dimmerSound := channels_sound_iff _ _ _ 4 rfl rfl (by decide) (by decide) dimmerParsed
  have smartPanelSound :=
    channels_sound_iff _ _ _ 4 rfl rfl (by decide) (by decide) smartPanelParsed
  simp only [List.forall_mem_append]
  constructor
  · rintro ⟨⟨⟨⟨-, aqi⟩, panel⟩, -⟩, ⟨⟨⟨⟨-, knxPanel⟩, dimmer⟩, smartPanel⟩, -⟩⟩
    exact ⟨aqiSound.mp aqi, panelSound.mp panel, knxPanelSound.mp knxPanel, dimmerSound.mp dimmer,
      smartPanelSound.mp smartPanel⟩
  · intro typed
    exact ⟨⟨⟨⟨⟨⟨acdSound, ventSound⟩, heatSound⟩, aqiSound.mpr typed.aqi⟩,
      panelSound.mpr typed.panel⟩, curtainSound⟩, ⟨⟨⟨⟨⟨⟨knxAcdSound, knxVentSound⟩, knxHeatSound⟩,
      knxPanelSound.mpr typed.knxPanel⟩, dimmerSound.mpr typed.dimmer⟩,
      smartPanelSound.mpr typed.smartPanel⟩, knxCurtainSound⟩⟩

def keyedCell (key : String) : List Node :=
  [.element "Item" [.element "Cell"
    [.element "PrimaryKey" [.text key]]]]

/-- One air quality sensor with a primary key. -/
def sensorDoc : Document := { mbusAqi := [keyedCell "301"] }

theorem sensor_is_heating :
    parseCfg (fun _ _ => true) sensorDoc =
        some ⟨[⟨.mbusAqi, DeviceType.modbusDeviceFloorheating.code⟩], []⟩ ∧
      Struct.mbusHeat.takes DeviceType.modbusDeviceFloorheating.code = true ∧
      ¬ Entry.Sound ⟨.mbusAqi, DeviceType.modbusDeviceFloorheating.code⟩ := by
  refine ⟨by decide +kernel, by decide, ?_⟩
  intro sound
  exact absurd ((sound .mbusHeat rfl).mp (by decide)) (by decide)

/-- A dimmer with two channels and a heating with a key. -/
def houseDoc : Document :=
  { mbusHeat := [keyedCell "201"]
    knxDimmer := [[.element "channel" [], .element "Channel" []]] }

theorem house_types_sound : parseCfg (fun _ _ => true) houseDoc =
      some ⟨[⟨.mbusHeat, DeviceType.modbusDeviceFloorheating.code⟩],
        [⟨.knxDimmer, DeviceType.knxDimmerTwoKey.code⟩]⟩ ∧
    ∀ e ∈ [(⟨.knxDimmer, DeviceType.knxDimmerTwoKey.code⟩ : Entry)], e.Sound := by
  have accepted : parseCfg (fun _ _ => true) houseDoc =
      some ⟨[⟨.mbusHeat, DeviceType.modbusDeviceFloorheating.code⟩],
        [⟨.knxDimmer, DeviceType.knxDimmerTwoKey.code⟩]⟩ := by decide +kernel
  refine ⟨accepted, ((types_sound_iff _ houseDoc _ accepted).mpr ?_).2⟩
  constructor
  · simp [houseDoc]
  · simp [houseDoc]
  · simp [houseDoc]
  · simp only [houseDoc, List.mem_singleton, forall_eq]
    decide +kernel
  · simp [houseDoc]

end HiMaxGateway.Config
