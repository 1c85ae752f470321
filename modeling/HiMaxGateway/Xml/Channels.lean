import HiMaxGateway.Xml.CellKeys

/-! What the channels of a KNX cell get from the document. -/
namespace HiMaxGateway.Xml
open CText Turns

variable {σ τ χ : Type}

theorem chain_lift (get : σ → τ) (set : σ → τ → σ) (same : ∀ s, set s (get s) = s)
    (branches : List (Branch τ)) (s : σ) (node : Node) :
    chain (branches.map (.lift get set)) s node = (chain branches (get s) node).map (set s) := by
  induction branches with
  | nil => exact congrArg Except.ok (same s).symm
  | cons branch rest ih =>
    rw [List.map_cons, chain, chain]
    by_cases named : node.named branch.name = true
    · have lifted : node.named (branch.lift get set).name = true := named
      rw [if_pos named, if_pos lifted]
      rfl
    · have lifted : ¬node.named (branch.lift get set).name = true := named
      rw [if_neg named, if_neg lifted]
      exact ih

/-- The loop over the siblings works on the part, too. -/
theorem chains_lift {get : σ → τ} {set : σ → τ → σ} {branches : List (Branch τ)} {s t : σ}
    {nodes : List Node} (run : nodes.foldlM (chain (branches.map (.lift get set))) s = .ok t)
    (same : ∀ s, set s (get s) = s) (there : ∀ s part, get (set s part) = part)
    (twice : ∀ s one two, set (set s one) two = set s two) :
    nodes.foldlM (chain branches) (get s) = .ok (get t) ∧ t = set s (get t) := by
  induction nodes generalizing s with
  | nil =>
    cases run
    exact ⟨rfl, (same _).symm⟩
  | cons node rest ih =>
    obtain ⟨next, turn, later⟩ := foldlM_cons_inv run
    rw [chain_lift get set same] at turn
    obtain ⟨part, first, rfl⟩ := map_ok turn
    obtain ⟨rest, ends⟩ := ih later
    rw [there] at rest
    rw [twice] at ends
    exact ⟨by rw [foldlM_cons_ok first, rest], ends⟩

/-- An element that fills a part of the state. -/
theorem element_lift_ok {name : String} {get : σ → τ} {set : σ → τ → σ} {branches : List (Branch τ)}
    {s t : σ} {node : Node}
    (act : (Branch.element name [] (fun s _ => s) (branches.map (.lift get set)) fun s _ => s).act s
      node = .ok t)
    (same : ∀ s, set s (get s) = s) (there : ∀ s part, get (set s part) = part)
    (twice : ∀ s one two, set (set s one) two = set s two) :
    node.children.foldlM (chain branches) (get s) = .ok (get t) ∧ t = set s (get t) := by
  obtain ⟨last, run, rfl⟩ := Branch.element_ok act
  exact chains_lift run same there twice

theorem lastText_append (name : String) (nodes more : List Node) :
    lastText name (nodes ++ more) = (lastText name more).or (lastText name nodes) := by
  induction nodes with
  | nil => rw [List.nil_append, lastText, Option.or_none]
  | cons node rest ih => rw [List.cons_append, lastText, lastText, ih, Option.or_assoc]

/-- A number as the members of 16 bits hold it. -/
def u16 (text : Text) : Nat := (number text % 2 ^ 16).toNat

/-- What the elements for a point leave in it; `max` is what its attributes say. -/
structure Filled (name : String) (nodes : List Node) (max : Option Nat) (s t : KnxPoints) :
    Prop where
  pCtrl : t.pCtrl = ((lastText name nodes).map (·.take EIB_ADDR)).or s.pCtrl
  pFeedback : t.pFeedback = ((lastText "Status" nodes).map (·.take EIB_ADDR)).or s.pFeedback
  id : t.point.id = ((lastText "DataPoint" nodes).map u16).or s.point.id
  mode : t.point.mode = s.point.mode
  max : t.point.max = max.or s.point.max

theorem Filled.refl (name : String) (s : KnxPoints) : Filled name [] none s s := by
  constructor <;> rfl

theorem Filled.trans {name : String} {nodes more : List Node} {max later : Option Nat}
    {s t u : KnxPoints} (first : Filled name nodes max s t) (second : Filled name more later t u) :
    Filled name (nodes ++ more) (later.or max) s u where
  pCtrl := by rw [second.pCtrl, first.pCtrl, lastText_append, Option.map_or, Option.or_assoc]
  pFeedback := by
    rw [second.pFeedback, first.pFeedback, lastText_append, Option.map_or, Option.or_assoc]
  id := by rw [second.id, first.id, lastText_append, Option.map_or, Option.or_assoc]
  mode := second.mode.trans first.mode
  max := by rw [second.max, first.max, Option.or_assoc]

/-- The three branches that a switch and a brightness have. -/
def pointBranches (name : String) (feature statusFeature : PointFeature) (type : PointType)
    (threshold : Option Nat) (checked : Bool) : List (Branch KnxPoints) :=
  [ctrl name feature type, status statusFeature type threshold, dataPoint checked]

section

variable {name : String} {feature statusFeature : PointFeature} {type : PointType}
  {threshold : Option Nat} {checked : Bool} {s t : KnxPoints}

theorem point_filled {node : Node} (other : name = "Switch" ∨ name = "Ctrl")
    (turn : chain (pointBranches name feature statusFeature type threshold checked) s node =
      .ok t) :
    Filled name [node] none s t := by
  have noStatus (named : node.named name = true) : lastText "Status" [node] = none :=
    lastText_other (named_apart named (by rcases other with rfl | rfl <;> decide))
  have noPoint (named : node.named name = true) : lastText "DataPoint" [node] = none :=
    lastText_other (named_apart named (by rcases other with rfl | rfl <;> decide))
  simp only [pointBranches, chain] at turn
  split at turn
  · rename_i named
    have named : node.named name = true := named
    rcases Branch.content_ok turn with ⟨text, found, -, rfl⟩ | ⟨none, -, rfl⟩
    · constructor <;> simp [lastText_named named, found, noStatus named, noPoint named]
    · constructor <;> simp [lastText_named named, none, noStatus named, noPoint named]
  rename_i unnamed
  have noCtrl : lastText name [node] = none := lastText_other (Bool.eq_false_iff.mpr unnamed)
  split at turn
  · rename_i named
    have named : node.named "Status" = true := named
    have noPoint : lastText "DataPoint" [node] = none :=
      lastText_other (named_apart named (by decide))
    rcases Branch.content_ok turn with ⟨text, found, -, rfl⟩ | ⟨none, -, rfl⟩
    · constructor <;> simp [lastText_named named, found, noCtrl, noPoint]
    · constructor <;> simp [lastText_named named, none, noCtrl, noPoint]
  rename_i unnamed
  have noStatus : lastText "Status" [node] = none := lastText_other (Bool.eq_false_iff.mpr unnamed)
  split at turn
  · rename_i named
    have named : node.named "DataPoint" = true := named
    rw [dataPoint, Branch.number] at turn
    rcases Branch.content_ok turn with ⟨text, found, -, rfl⟩ | ⟨none, -, rfl⟩
    · constructor <;> simp [lastText_named named, found, noCtrl, noStatus, u16]
    · constructor <;> simp [lastText_named named, none, noCtrl, noStatus]
  · rename_i unnamed
    have noPoint : lastText "DataPoint" [node] = none :=
      lastText_other (Bool.eq_false_iff.mpr unnamed)
    cases turn
    constructor <;> simp [noCtrl, noStatus, noPoint]

theorem points_filled {nodes : List Node} (other : name = "Switch" ∨ name = "Ctrl")
    (run : nodes.foldlM (chain (pointBranches name feature statusFeature type threshold checked))
      s = .ok t) :
    Filled name nodes none s t := by
  induction nodes generalizing s with
  | nil =>
    cases run
    exact .refl name _
  | cons node rest ih =>
    obtain ⟨next, turn, later⟩ := foldlM_cons_inv run
    exact (point_filled other turn).trans (ih later)

end

/-- A point with an address to write to, one to listen to, a data point and a mode. -/
structure KnxPoints.Whole (p : KnxPoints) : Prop where
  pCtrl : p.pCtrl.isSome = true
  pFeedback : p.pFeedback.isSome = true
  id : p.point.id.isSome = true
  mode : p.point.mode.isSome = true

/-- Nothing but a mode. -/
structure KnxPoints.Blank (p : KnxPoints) : Prop where
  pCtrl : p.pCtrl = none
  pFeedback : p.pFeedback = none
  id : p.point.id = none

/-- The elements that a point needs. -/
structure Provides (name : String) (nodes : List Node) : Prop where
  ctrl : (lastText name nodes).isSome = true
  status : (lastText "Status" nodes).isSome = true
  dataPoint : (lastText "DataPoint" nodes).isSome = true

theorem Filled.whole_iff {name : String} {nodes : List Node} {max : Option Nat} {s t : KnxPoints}
    (filled : Filled name nodes max s t) (blank : s.Blank) :
    t.Whole ↔ s.point.mode.isSome = true ∧ Provides name nodes := by
  have pCtrl := filled.pCtrl
  have pFeedback := filled.pFeedback
  have id := filled.id
  rw [blank.pCtrl, Option.or_none] at pCtrl
  rw [blank.pFeedback, Option.or_none] at pFeedback
  rw [blank.id, Option.or_none] at id
  constructor
  · intro whole
    refine ⟨filled.mode ▸ whole.mode, ?_, ?_, ?_⟩
    · simpa only [pCtrl, Option.isSome_map] using whole.pCtrl
    · simpa only [pFeedback, Option.isSome_map] using whole.pFeedback
    · simpa only [id, Option.isSome_map] using whole.id
  · rintro ⟨mode, provides⟩
    refine ⟨?_, ?_, ?_, filled.mode ▸ mode⟩
    · simpa only [pCtrl, Option.isSome_map] using provides.ctrl
    · simpa only [pFeedback, Option.isSome_map] using provides.status
    · simpa only [id, Option.isSome_map] using provides.dataPoint

theorem channelMode_isSome (node : Node) (point : Point) :
    (channelMode node point).mode.isSome = ((node.prop "mode").isSome || point.mode.isSome) := by
  rw [channelMode]
  cases node.prop "mode" <;> rfl

theorem channelMode_rest (node : Node) (point : Point) :
    (channelMode node point).id = point.id ∧ (channelMode node point).max = point.max := by
  rw [channelMode]
  cases node.prop "mode" <;> exact ⟨rfl, rfl⟩

/-- The branch for the channels is the last one of its class, and no other touches them. -/
structure Channelled (cls : CellClass (KnxBody χ)) (others : List (Branch (KnxBody χ)))
    (channel : Branch (KnxBody χ)) : Prop where
  own : cls.own = others ++ [channel]
  name : channel.name = "channel"
  apart : ∀ branch ∈ others,
    "channel".toList.map Char.toLower ≠ branch.name.toList.map Char.toLower
  keeps : ∀ branch ∈ others, ∀ s t node, branch.act s node = .ok t →
    (t.chl, t.slot) = (s.chl, s.slot)
  product : ∀ s, ((cls.product s).chl, (cls.product s).slot) = (s.chl, s.slot)

section

variable {cls : CellClass (KnxBody χ)} {others : List (Branch (KnxBody χ))}
  {channel : Branch (KnxBody χ)} {s t : CellState (KnxBody χ)} {node : Node}

theorem channel_turn (channelled : Channelled cls others channel)
    (turn : chain cls.branches s node = .ok t) (named : node.named "channel" = true) :
    channel.act s.body node = .ok t.body := by
  have apart (name : String)
      (other : "channel".toList.map Char.toLower ≠ name.toList.map Char.toLower) :
      node.named name = false := named_apart named other
  rw [CellClass.branches, chain_append, chain_lift, channelled.own, chain_append] at turn
  · rw [chain, channelled.name, named] at turn
    obtain ⟨body, act, rfl⟩ := map_ok turn
    exact act
  · exact fun branch member => apart branch.name (channelled.apart branch member)
  · exact fun _ => rfl
  · intro branch member
    simp only [List.mem_cons, List.not_mem_nil, or_false] at member
    rcases member with rfl | rfl | rfl | rfl
    · exact apart "ProductID" (by decide)
    · exact apart "PrimaryKey" (by decide)
    · exact apart "ForeignKey" (by decide)
    · exact apart "ForeignType" (by decide)

theorem other_turn (channelled : Channelled cls others channel)
    (turn : chain cls.branches s node = .ok t) (other : node.named "channel" = false) :
    (t.body.chl, t.body.slot) = (s.body.chl, s.body.slot) := by
  refine @chain_keeps _ _ _ (fun s : CellState (KnxBody χ) => (s.body.chl, s.body.slot)) _ _ _ ?_
    turn
  intro branch member here act
  rcases List.mem_append.mp member with shared | lifted
  · simp only [List.mem_cons, List.not_mem_nil, or_false] at shared
    rcases shared with rfl | rfl | rfl | rfl
    all_goals rcases Branch.content_ok act with ⟨text, -, -, rfl⟩ | ⟨-, -, rfl⟩
    · exact channelled.product s.body
    all_goals rfl
  · obtain ⟨own, inside, rfl⟩ := List.mem_map.mp lifted
    obtain ⟨body, stored, rfl⟩ := Branch.lift_ok act
    rw [channelled.own] at inside
    rcases List.mem_append.mp inside with kept | last
    · exact channelled.keeps own kept _ _ _ stored
    · rw [List.mem_singleton] at last
      subst own
      rw [Branch.lift, channelled.name, other] at here
      contradiction

theorem chain_channel (channelled : Channelled cls others channel)
    (turn : chain cls.branches s node = .ok t) :
    (node.named "channel" = true ∧ channel.act s.body node = .ok t.body) ∨
      (node.named "channel" = false ∧ (t.body.chl, t.body.slot) = (s.body.chl, s.body.slot)) := by
  cases named : node.named "channel" with
  | true => exact .inl ⟨rfl, channel_turn channelled turn named⟩
  | false => exact .inr ⟨rfl, other_turn channelled turn named⟩

end

/-- The branches that the KNX classes share. -/
theorem base_keeps {branch : Branch (KnxBody χ)}
    (member : branch ∈ [sharedLibrary, phyAddr, onlineCheck, deviceAttr]) :
    "channel".toList.map Char.toLower ≠ branch.name.toList.map Char.toLower ∧
      ∀ s t node, branch.act s node = .ok t → (t.chl, t.slot) = (s.chl, s.slot) := by
  simp only [List.mem_cons, List.not_mem_nil, or_false] at member
  rcases member with rfl | rfl | rfl | rfl
  · refine ⟨(by decide : _ ≠ "SharedLibrary".toList.map Char.toLower), fun s t node act => ?_⟩
    rcases Branch.content_ok act with ⟨text, -, -, rfl⟩ | ⟨-, -, rfl⟩ <;> rfl
  · refine ⟨(by decide : _ ≠ "PhyAddr".toList.map Char.toLower), fun s t node act => ?_⟩
    rcases Branch.content_ok act with ⟨text, -, -, rfl⟩ | ⟨-, -, rfl⟩ <;> rfl
  · refine ⟨(by decide : _ ≠ "OnlineCheck".toList.map Char.toLower), fun s t node act => ?_⟩
    rcases Branch.content_ok act with ⟨text, -, -, rfl⟩ | ⟨-, -, rfl⟩
    · split <;> rfl
    · rfl
  · refine ⟨(by decide : _ ≠ "DeviceAttr".toList.map Char.toLower), fun s t node act => ?_⟩
    rcases Branch.content_ok act with ⟨text, -, -, rfl⟩ | ⟨-, -, rfl⟩
    · split
      · rfl
      · split <;> rfl
    · rfl

theorem channelled {cls : CellClass (KnxBody χ)} {others : List (Branch (KnxBody χ))}
    {channel : Branch (KnxBody χ)} (own : cls.own = others ++ [channel])
    (name : channel.name = "channel")
    (base : others ⊆ [sharedLibrary, phyAddr, onlineCheck, deviceAttr])
    (product : cls.product = actuator) : Channelled cls others channel where
  own := own
  name := name
  apart branch member := (base_keeps (base member)).1
  keeps branch member := (base_keeps (base member)).2
  product s := by
    rw [product]
    rfl

theorem panel_channelled :
    Channelled knxPanel [sharedLibrary, phyAddr, onlineCheck, deviceAttr] panelChannel :=
  channelled rfl rfl (fun _ member => member) rfl

theorem smartPanel_channelled :
    Channelled knxSmartPanel [phyAddr, onlineCheck, deviceAttr] smartChannel :=
  channelled rfl rfl (List.subset_cons_self _ _) rfl

theorem dimmer_channelled :
    Channelled knxDimmer [sharedLibrary, phyAddr, onlineCheck] dimmerChannel :=
  channelled rfl rfl
    (List.sublist_append_left [sharedLibrary, phyAddr, onlineCheck] [deviceAttr]).subset rfl

theorem panelChannel_ok {s t : KnxBody KnxPoints} {node : Node}
    (act : panelChannel.act s node = .ok t) :
    ∃ key, Filled "Switch" node.children none
        { s.slot with point := channelMode node s.slot.point } key ∧
      (node.children = [] ∧ t.chl = s.chl ∧ t.slot = key ∨
        node.children ≠ [] ∧ t.chl = s.chl ++ [key] ∧ t.slot = {}) := by
  obtain ⟨last, run, rfl⟩ := Branch.element_ok act
  obtain ⟨inner, ends⟩ := chains_lift run (fun _ => rfl) (fun _ _ => rfl) fun _ _ _ => rfl
  have chl : last.chl = s.chl := by rw [ends]
  refine ⟨last.slot, points_filled (.inl rfl) inner, ?_⟩
  cases node.children with
  | nil => exact .inl ⟨rfl, chl, rfl⟩
  | cons child rest => exact .inr ⟨List.cons_ne_nil _ _, by simp [KnxBody.next, chl], rfl⟩

/-- Every channel that counts has all its parts. The mode may be that of a channel without
children right before it. -/
def PanelProvides : Bool → List Node → Prop
  | _, [] => True
  | moded, node :: rest =>
      if node.named "channel" then
        if node.children = [] then PanelProvides ((node.prop "mode").isSome || moded) rest
        else
          (((node.prop "mode").isSome || moded) = true ∧ Provides "Switch" node.children) ∧
            PanelProvides false rest
      else PanelProvides moded rest

theorem panel_whole_iff {s t : CellState (KnxBody KnxPoints)} {nodes : List Node}
    (run : nodes.foldlM (chain knxPanel.branches) s = .ok t) (blank : s.body.slot.Blank) :
    (∀ key ∈ t.body.chl, key.Whole) ↔
      (∀ key ∈ s.body.chl, key.Whole) ∧ PanelProvides s.body.slot.point.mode.isSome nodes := by
  induction nodes generalizing s with
  | nil =>
    cases run
    exact (and_iff_left trivial).symm
  | cons node rest ih =>
    obtain ⟨next, turn, later⟩ := foldlM_cons_inv run
    rcases chain_channel panel_channelled turn with ⟨named, act⟩ | ⟨named, kept⟩
    · obtain ⟨key, filled, parts⟩ := panelChannel_ok act
      have entered :
          KnxPoints.Blank { s.body.slot with point := channelMode node s.body.slot.point } :=
        ⟨blank.pCtrl, blank.pFeedback, (channelMode_rest node _).1.trans blank.id⟩
      have moded := channelMode_isSome node s.body.slot.point
      rw [PanelProvides, if_pos named]
      rcases parts with ⟨childless, chl, slot⟩ | ⟨children, chl, slot⟩
      · have still : next.body.slot.Blank := by
          rw [slot]
          rw [childless] at filled
          exact ⟨filled.pCtrl.trans entered.pCtrl, filled.pFeedback.trans entered.pFeedback,
            filled.id.trans entered.id⟩
        rw [ih later still, chl, if_pos childless, slot, filled.mode, moded]
      · have still : next.body.slot.Blank := by
          rw [slot]
          exact ⟨rfl, rfl, rfl⟩
        rw [ih later still, chl, if_neg children, slot, List.forall_mem_append, and_assoc,
          List.forall_mem_singleton, filled.whole_iff entered, moded]
        rfl
    · obtain ⟨chl, slot⟩ := Prod.mk.inj kept
      rw [ih later (slot ▸ blank), chl, slot, PanelProvides, if_neg (by simp [named])]

/-- Each channel with children is a key. -/
theorem panel_length {s t : CellState (KnxBody KnxPoints)} {nodes : List Node}
    (run : nodes.foldlM (chain knxPanel.branches) s = .ok t) :
    t.body.chl.length = s.body.chl.length +
      ((nodes.filter (·.named "channel")).filter fun node => !node.children.isEmpty).length := by
  induction nodes generalizing s with
  | nil =>
    cases run
    rfl
  | cons node rest ih =>
    obtain ⟨next, turn, later⟩ := foldlM_cons_inv run
    rw [ih later]
    rcases chain_channel panel_channelled turn with ⟨named, act⟩ | ⟨named, kept⟩
    · obtain ⟨key, -, parts⟩ := panelChannel_ok act
      rw [List.filter_cons, if_pos named]
      rcases parts with ⟨childless, chl, -⟩ | ⟨children, chl, -⟩
      · rw [List.filter_cons_of_neg (by simp [childless]), chl]
      · rw [List.filter_cons_of_pos (by simpa using children), chl, List.length_append,
          List.length_cons, List.length_cons, List.length_nil]
        omega
    · rw [List.filter_cons, if_neg (by simp [named]), (Prod.mk.inj kept).1]

theorem smartSwitch_ok {s t : SmartPanelPoint} {node : Node}
    (act : smartSwitch.act s node = .ok t) :
    t.key.point.mode = s.key.point.mode := by
  obtain ⟨inner, -⟩ := element_lift_ok act (fun _ => rfl) (fun _ _ => rfl) fun _ _ _ => rfl
  exact (points_filled (.inr rfl) inner).mode

/-- The other two elements leave the switch. -/
theorem smartScene_ok {s t : SmartPanelPoint} {node : Node} (act : smartScene.act s node = .ok t) :
    t.key = s.key := by
  obtain ⟨-, ends⟩ := element_lift_ok act (fun _ => rfl) (fun _ _ => rfl) fun _ _ _ => rfl
  rw [ends]

theorem smartMode_ok {s t : SmartPanelPoint} {node : Node} (act : smartMode.act s node = .ok t) :
    t.key = s.key := by
  obtain ⟨-, ends⟩ := element_lift_ok act (fun _ => rfl) (fun _ _ => rfl) fun _ _ _ => rfl
  rw [ends]

/-- No element of a smart panel sets the mode of a switch. -/
theorem smart_mode_kept {s t : SmartPanelPoint} {nodes : List Node}
    (run : nodes.foldlM (chain [smartSwitch, smartScene, smartMode]) s = .ok t) :
    t.key.point.mode = s.key.point.mode := by
  refine @foldlM_keeps _ _ _ _ _ (fun s : SmartPanelPoint => s.key.point.mode)
    (fun s node t turn => ?_) _ _ _ run
  refine @chain_keeps _ _ _ (fun s : SmartPanelPoint => s.key.point.mode) _ _ _ ?_ turn
  intro branch member _ act
  simp only [List.mem_cons, List.not_mem_nil, or_false] at member
  rcases member with rfl | rfl | rfl
  · exact smartSwitch_ok act
  · exact congrArg (·.point.mode) (smartScene_ok act)
  · exact congrArg (·.point.mode) (smartMode_ok act)

theorem smartChannel_ok {s t : KnxBody SmartPanelPoint} {node : Node}
    (act : smartChannel.act s node = .ok t) :
    ∃ point, point.key.point.mode = s.slot.key.point.mode ∧ t.chl = s.chl ++ [point] ∧
      t.slot = {} := by
  obtain ⟨last, run, rfl⟩ := Branch.element_ok act
  obtain ⟨inner, ends⟩ := chains_lift run (fun _ => rfl) (fun _ _ => rfl) fun _ _ _ => rfl
  refine ⟨last.slot, smart_mode_kept inner, ?_, rfl⟩
  rw [ends]
  rfl

/-- Where every element for a channel adds one. -/
theorem channels_added {cls : CellClass (KnxBody χ)} {others : List (Branch (KnxBody χ))}
    {channel : Branch (KnxBody χ)} (channelled : Channelled cls others channel) {fresh : χ}
    {R : Node → χ → Prop}
    (adds : ∀ s t node, s.slot = fresh → channel.act s node = .ok t →
      ∃ point, R node point ∧ t.chl = s.chl ++ [point] ∧ t.slot = fresh)
    {s t : CellState (KnxBody χ)} {nodes : List Node}
    (run : nodes.foldlM (chain cls.branches) s = .ok t)
    (start : s.body.slot = fresh) :
    ∃ points, t.body.chl = s.body.chl ++ points ∧
      List.Forall₂ R (nodes.filter (·.named "channel")) points := by
  induction nodes generalizing s with
  | nil =>
    cases run
    exact ⟨[], (List.append_nil _).symm, .nil⟩
  | cons node rest ih =>
    obtain ⟨next, turn, later⟩ := foldlM_cons_inv run
    rcases chain_channel channelled turn with ⟨named, act⟩ | ⟨named, kept⟩
    · obtain ⟨point, holds, chl, slot⟩ := adds _ _ _ start act
      obtain ⟨points, rest, each⟩ := ih later slot
      refine ⟨point :: points, by rw [rest, chl, List.append_assoc, List.singleton_append], ?_⟩
      simp only [List.filter_cons, named, if_true]
      exact .cons holds each
    · obtain ⟨chl, slot⟩ := Prod.mk.inj kept
      obtain ⟨points, rest, each⟩ := ih later (slot.trans start)
      refine ⟨points, by rw [rest, chl], ?_⟩
      simp only [List.filter_cons, named, Bool.false_eq_true, if_false]
      exact each

/-- The elements in the elements with a name. -/
def inner (name : String) (nodes : List Node) : List Node :=
  (nodes.filter (·.named name)).flatMap Node.children

/-- The attribute of the last element that has it. -/
def lastProp (name : String) : List Node → Option Text
  | [] => none
  | node :: rest => (lastProp name rest).or (node.prop name)

def brightMax (nodes : List Node) : Option Nat :=
  (lastProp "max" (nodes.filter (·.named "Brightness"))).map u16

/-- What the elements of a channel leave in it. -/
structure DimmerFilled (nodes : List Node) (s t : DimmerPoint) : Prop where
  key : Filled "Ctrl" (inner "Switch" nodes) none s.key t.key
  bright : Filled "Ctrl" (inner "Brightness" nodes) (brightMax nodes) s.bright t.bright

theorem lastProp_append (name : String) (nodes more : List Node) :
    lastProp name (nodes ++ more) = (lastProp name more).or (lastProp name nodes) := by
  induction nodes with
  | nil => rw [List.nil_append, lastProp, Option.or_none]
  | cons node rest ih => rw [List.cons_append, lastProp, lastProp, ih, Option.or_assoc]

theorem DimmerFilled.trans {nodes more : List Node} {s t u : DimmerPoint}
    (first : DimmerFilled nodes s t) (second : DimmerFilled more t u) :
    DimmerFilled (nodes ++ more) s u where
  key := by
    rw [inner, List.filter_append, List.flatMap_append]
    exact first.key.trans second.key
  bright := by
    rw [inner, List.filter_append, List.flatMap_append, brightMax, List.filter_append,
      lastProp_append, Option.map_or]
    exact first.bright.trans second.bright

theorem dimmerSwitch_ok {s t : DimmerPoint} {node : Node} (act : dimmerSwitch.act s node = .ok t) :
    Filled "Ctrl" node.children none s.key t.key ∧ t.bright = s.bright := by
  obtain ⟨inner, ends⟩ := element_lift_ok act (fun _ => rfl) (fun _ _ => rfl) fun _ _ _ => rfl
  exact ⟨points_filled (.inr rfl) inner, by rw [ends]⟩

theorem attr_turn_ok {s t : σ} {node : Node} {attr : Branch.Attr σ}
    (turn : attr.turn node s = .ok t) :
    t = (node.prop attr.name).elim s fun value => attr.set s (number value) := by
  rw [Branch.Attr.turn] at turn
  cases found : node.prop attr.name with
  | none =>
    rw [found] at turn
    cases turn
    rfl
  | some value =>
    rw [found] at turn
    dsimp only at turn
    split at turn
    · contradiction
    · cases turn
      rfl

/-- An attribute of the brightness that keeps the rest of the point. -/
theorem brightAttr_ok {name : String} {checked : Bool} {set : Point → Nat → Point}
    {s t : DimmerPoint} {node : Node} (turn : (brightAttr name checked set).turn node s = .ok t)
    (max : Option Nat)
    (keeps : ∀ point n, (set point n).id = point.id ∧ (set point n).mode = point.mode)
    (sets : (((node.prop name).map u16).elim s.bright.point (set s.bright.point)).max =
      max.or s.bright.point.max) :
    Filled "Ctrl" [] max s.bright t.bright ∧ t.key = s.key := by
  have same := attr_turn_ok turn
  change t = (node.prop name).elim s _ at same
  cases found : node.prop name with
  | none =>
    rw [found] at same sets
    subst same
    exact ⟨⟨rfl, rfl, rfl, rfl, sets⟩, rfl⟩
  | some value =>
    rw [found] at same sets
    subst same
    exact ⟨⟨rfl, rfl, (keeps _ _).1, (keeps _ _).2, sets⟩, rfl⟩

theorem brightness_ok {s t : DimmerPoint} {node : Node} (act : brightness.act s node = .ok t) :
    Filled "Ctrl" node.children ((node.prop "max").map u16) s.bright t.bright ∧ t.key = s.key := by
  obtain ⟨ranged, attrs, act⟩ := bind_ok act
  obtain ⟨last, run, ends⟩ := bind_ok act
  cases ends
  obtain ⟨inner, same⟩ := chains_lift run (fun _ => rfl) (fun _ _ => rfl) fun _ _ _ => rfl
  obtain ⟨one, first, attrs⟩ := foldlM_cons_inv attrs
  obtain ⟨two, second, attrs⟩ := foldlM_cons_inv attrs
  obtain ⟨three, third, attrs⟩ := foldlM_cons_inv attrs
  obtain ⟨four, fourth, attrs⟩ := foldlM_cons_inv attrs
  cases attrs
  obtain ⟨max, key₁⟩ := brightAttr_ok first ((node.prop "max").map u16) (fun _ _ => ⟨rfl, rfl⟩)
    (by cases node.prop "max" <;> rfl)
  obtain ⟨min, key₂⟩ := brightAttr_ok second none (fun _ _ => ⟨rfl, rfl⟩)
    (by cases node.prop "min" <;> rfl)
  obtain ⟨step, key₃⟩ := brightAttr_ok third none (fun _ _ => ⟨rfl, rfl⟩)
    (by cases node.prop "step" <;> rfl)
  obtain ⟨scaling, key₄⟩ := brightAttr_ok fourth none (fun _ _ => ⟨rfl, rfl⟩)
    (by cases node.prop "scaling" <;> rfl)
  have filled := (((max.trans min).trans step).trans scaling).trans (points_filled (.inr rfl) inner)
  exact ⟨filled, by rw [same, key₄, key₃, key₂, key₁]⟩

theorem inner_named {name : String} {node : Node} (named : node.named name = true) :
    inner name [node] = node.children := by
  simp [inner, named]

theorem inner_other {name : String} {node : Node} (other : node.named name = false) :
    inner name [node] = [] := by
  simp [inner, other]

theorem brightMax_other {node : Node} (other : node.named "Brightness" = false) :
    brightMax [node] = none := by
  simp [brightMax, other, lastProp]

theorem dimmer_filled {s t : DimmerPoint} {node : Node}
    (turn : chain [dimmerSwitch, brightness] s node = .ok t) : DimmerFilled [node] s t := by
  simp only [chain] at turn
  split at turn
  · rename_i named
    have named : node.named "Switch" = true := named
    have other : node.named "Brightness" = false := named_apart named (by decide)
    obtain ⟨key, bright⟩ := dimmerSwitch_ok turn
    constructor
    · rw [inner_named named]
      exact key
    · rw [inner_other other, brightMax_other other, bright]
      exact .refl _ _
  rename_i unnamed
  have noSwitch : inner "Switch" [node] = [] := inner_other (Bool.eq_false_iff.mpr unnamed)
  split at turn
  · rename_i named
    have named : node.named "Brightness" = true := named
    have max : brightMax [node] = (node.prop "max").map u16 := by
      simp [brightMax, named, lastProp]
    obtain ⟨bright, key⟩ := brightness_ok turn
    constructor
    · rw [noSwitch, key]
      exact .refl _ _
    · rw [inner_named named, max]
      exact bright
  · rename_i unnamed
    have other : node.named "Brightness" = false := Bool.eq_false_iff.mpr unnamed
    cases turn
    constructor
    · rw [noSwitch]
      exact .refl _ _
    · rw [inner_other other, brightMax_other other]
      exact .refl _ _

theorem dimmers_filled {s t : DimmerPoint} {nodes : List Node}
    (run : nodes.foldlM (chain [dimmerSwitch, brightness]) s = .ok t) : DimmerFilled nodes s t := by
  induction nodes generalizing s with
  | nil =>
    cases run
    exact ⟨.refl _ _, .refl _ _⟩
  | cons node rest ih =>
    obtain ⟨next, turn, later⟩ := foldlM_cons_inv run
    exact (dimmer_filled turn).trans (ih later)

/-- A channel as it is entered. -/
def dimmerEntered (node : Node) : DimmerPoint where
  key := { point := channelMode node {} }
  bright := { point := channelMode node {} }

theorem dimmerChannel_ok (s t : KnxBody DimmerPoint) (node : Node) (start : s.slot = {})
    (act : dimmerChannel.act s node = .ok t) :
    ∃ point, DimmerFilled node.children (dimmerEntered node) point ∧ t.chl = s.chl ++ [point] ∧
      t.slot = {} := by
  obtain ⟨last, run, rfl⟩ := Branch.element_ok act
  obtain ⟨inner, ends⟩ := chains_lift run (fun _ => rfl) (fun _ _ => rfl) fun _ _ _ => rfl
  simp only [start] at inner
  refine ⟨last.slot, dimmers_filled inner, ?_, rfl⟩
  rw [ends]
  rfl

/-- The parts of a channel that a dimmer needs. -/
structure DimmerProvides (node : Node) : Prop where
  mode : (node.prop "mode").isSome = true
  switch : Provides "Ctrl" (inner "Switch" node.children)
  brightness : Provides "Ctrl" (inner "Brightness" node.children)
  max : (brightMax node.children).isSome = true

structure DimmerPoint.Whole (point : DimmerPoint) : Prop where
  key : point.key.Whole
  bright : point.bright.Whole
  max : point.bright.point.max.isSome = true

theorem dimmer_whole_iff {node : Node} {point : DimmerPoint}
    (filled : DimmerFilled node.children (dimmerEntered node) point) :
    point.Whole ↔ DimmerProvides node := by
  have mode : (channelMode node {}).mode.isSome = (node.prop "mode").isSome := by
    rw [channelMode_isSome]
    exact Bool.or_false _
  have blank : KnxPoints.Blank { point := channelMode node {} } :=
    ⟨rfl, rfl, (channelMode_rest node {}).1⟩
  have key := filled.key.whole_iff blank
  have bright := filled.bright.whole_iff blank
  have max : point.bright.point.max = brightMax node.children := by
    have max := filled.bright.max
    rw [dimmerEntered, (channelMode_rest node {}).2, Option.or_none] at max
    exact max
  simp only [dimmerEntered, mode] at key bright
  constructor
  · intro whole
    obtain ⟨moded, switch⟩ := key.mp whole.key
    exact ⟨moded, switch, (bright.mp whole.bright).2, max ▸ whole.max⟩
  · intro provides
    exact ⟨key.mpr ⟨provides.mode, provides.switch⟩, bright.mpr
      ⟨provides.mode, provides.brightness⟩, max ▸ provides.max⟩

end HiMaxGateway.Xml
