import HiMaxGateway.Xml.Cells

/-! Whose keys a device gets: the variables for the keys live longer than the cell. -/
namespace HiMaxGateway.Xml
open CText Turns

variable {β : Type}

def primaryText (cell : Node) : Option Text := lastText "PrimaryKey" cell.children

def foreignText (cell : Node) : Option Text := lastText "ForeignKey" cell.children

/-- A cell with a product ID. -/
def isMaster (cell : Node) : Bool := (lastText "ProductID" cell.children).isSome

/-- What a cell gives when it is the only one. -/
def CellClass.alone (cls : CellClass β) (mac : Text) (cell : Node) : Parse (CellDev β) := do
  let s ← cls.scan {} cell
  cls.close mac s

/-- The keys of a device are those of its cell. -/
structure CellClass.OwnKeys (cls : CellClass β) (mac : Text) (cell : Node) (dev : CellDev β) :
    Prop where
  pPrimaryKey : dev.element.pPrimaryKey = (primaryText cell).map (deviceKey mac cls.mode)
  devId : dev.element.devId =
    match primaryText cell with
    | some key =>
        if cls.numbered then (number ((deviceKey mac cls.mode key).drop 12) % 2 ^ 32).toNat else 0
    | none => 0
  pForeignKey : dev.element.pForeignKey =
    (foreignText cell).map fun key =>
      if isMaster cell then deviceKey mac dev.element.foreignType key else []

/-- Nothing of a cell stops the parser. -/
def CellClass.Passes (cls : CellClass β) (cell : Node) : Prop :=
  (cell.children.flatMap (visits cls.branches)).findSome? Visit.stop = none

/-- At each moment of the loop, each device depends on its cell alone. -/
structure CellClass.Separate (cls : CellClass β) (mac : Text) (cells : List Node) : Prop where
  alone : ∀ before, before <+: cells →
    (cls.parse mac before).map Prod.snd = before.mapM (cls.alone mac)
  own : ∀ before keys devs, before <+: cells → cls.parse mac before = .ok (keys, devs) →
    List.Forall₂ (cls.OwnKeys mac) before devs
  distinct : ∀ before keys devs, before <+: cells → cls.parse mac before = .ok (keys, devs) →
    (before.zip devs).Pairwise fun one two =>
      ∀ key other, primaryText one.1 = some key → primaryText two.1 = some other → key ≠ other →
        one.2.element.pPrimaryKey ≠ two.2.element.pPrimaryKey
  /-- Cells that pass do not fault at their keys. -/
  buffer : ∀ before, before <+: cells → (∀ c ∈ before, cls.Passes c) →
    ∃ list, cls.parse mac before = .ok list

/-- No cell that is reached takes over a key, and no two keys lose what tells them apart. -/
structure CellClass.OwnEach (cls : CellClass β) (mac : Text) (cells : List Node) : Prop where
  primary : ∀ before cell, before ++ [cell] <+: cells → (∀ c ∈ before ++ [cell], cls.Passes c) →
    primaryText cell = none → ∀ c ∈ before, primaryText c = none
  foreign : ∀ before cell, before ++ [cell] <+: cells → (∀ c ∈ before ++ [cell], cls.Passes c) →
    isMaster cell = true → foreignText cell = none → ∀ c ∈ before, foreignText c = none
  kept : ∀ before, before <+: cells → (∀ c ∈ before, cls.Passes c) →
    before.Pairwise fun one two => ∀ key other, primaryText one = some key →
      primaryText two = some other → key ≠ other →
        key.take (30 - mac.length) ≠ other.take (30 - mac.length)

/-- Keys of a cell, and behind them those that were there before. -/
def Keys.or (own older : Keys) : Keys where
  pPrimaryKey := own.pPrimaryKey.or older.pPrimaryKey
  pForeignKey := own.pForeignKey.or older.pForeignKey

def CellState.behind (older : Keys) (s : CellState β) : CellState β :=
  { s with keys := s.keys.or older }

theorem content_behind {name : String} {use : Use} {set : CellState β → Text → CellState β}
    {older : Keys} (keeps : ∀ s text, set (s.behind older) text = (set s text).behind older)
    (s : CellState β) (node : Node) :
    (Branch.content name use set).act (s.behind older) node =
      ((Branch.content name use set).act s node).map (CellState.behind older) := by
  simp only [Branch.content, Node.read]
  cases node.getContent with
  | error stop => rfl
  | ok content =>
    cases content with
    | none => cases use.null <;> rfl
    | some text =>
      by_cases refused : use.refused text = true
      · simp only [refused, if_true]
        rfl
      · simp only [refused, Bool.false_eq_true, if_false, keeps]
        rfl

theorem chain_behind (cls : CellClass β) (older : Keys) (s : CellState β) (node : Node) :
    chain cls.branches (s.behind older) node =
      (chain cls.branches s node).map (CellState.behind older) := by
  apply chain_carried
  intro branch member
  rcases List.mem_append.mp member with shared | lifted
  · simp only [List.mem_cons, List.not_mem_nil, or_false] at shared
    rcases shared with rfl | rfl | rfl | rfl
    all_goals exact content_behind fun _ _ => rfl
  · obtain ⟨own, -, rfl⟩ := List.mem_map.mp lifted
    intro s node
    simp only [Branch.lift, CellState.behind]
    cases own.act s.body node <;> rfl

/-- The older keys pass through the loop. -/
theorem scan_behind (cls : CellClass β) (older : Keys) (cell : Node) :
    cls.scan older cell = (cls.scan {} cell).map (CellState.behind older) :=
  foldlM_carried (chain_behind cls older) { keys := {}, body := cls.init } cell.children

/-- What the loop over the children does to the keys. -/
structure Scanned (nodes : List Node) (s t : CellState β) : Prop where
  primary : t.keys.pPrimaryKey = (lastText "PrimaryKey" nodes).or s.keys.pPrimaryKey
  foreign : t.keys.pForeignKey = (lastText "ForeignKey" nodes).or s.keys.pForeignKey
  master : t.element.bMaster = ((lastText "ProductID" nodes).isSome || s.element.bMaster)
  buffer : t.element.pForeignKey =
    if (lastText "ForeignKey" nodes).isSome then some [] else s.element.pForeignKey
  key : t.element.pPrimaryKey = s.element.pPrimaryKey
  devId : t.element.devId = s.element.devId

theorem Scanned.cons {node : Node} {rest : List Node} {s t u : CellState β}
    (first : Scanned [node] s t) (later : Scanned rest t u) : Scanned (node :: rest) s u where
  primary := by rw [later.primary, first.primary, lastText_cons _ node rest, Option.or_assoc]
  foreign := by rw [later.foreign, first.foreign, lastText_cons _ node rest, Option.or_assoc]
  master := by
    rw [later.master, first.master, lastText_cons _ node rest]
    cases lastText "ProductID" rest <;> rfl
  buffer := by
    rw [later.buffer, first.buffer, lastText_cons _ node rest]
    cases lastText "ForeignKey" rest <;> rfl
  key := later.key.trans first.key
  devId := later.devId.trans first.devId

/-- The own elements of a class leave all but the body. -/
theorem own_ok {own : List (Branch β)} {s t : CellState β} {node : Node}
    (turn : chain (own.map (Branch.lift CellState.body fun s body => { s with body := body })) s
      node = .ok t) :
    ∃ body, t = { s with body := body } := by
  induction own with
  | nil =>
    cases turn
    exact ⟨s.body, rfl⟩
  | cons branch rest ih =>
    rw [List.map_cons, chain] at turn
    split at turn
    · obtain ⟨body, -, rfl⟩ := Branch.lift_ok turn
      exact ⟨body, rfl⟩
    · exact ih turn

/-- What a turn that goes on has done. -/
theorem chain_cases {cls : CellClass β} {s t : CellState β} {node : Node}
    (turn : chain cls.branches s node = .ok t) :
    (node.named "ProductID" = true ∧
      ((∃ product, node.content? = some product ∧ t =
        { s with
          element := { s.element with pProductId := some product, bMaster := true }
          body := cls.product s.body }) ∨ (node.content? = none ∧ t = s))) ∨
    (node.named "PrimaryKey" = true ∧ ∃ key, node.content? = some key ∧
      t = { s with keys := { s.keys with pPrimaryKey := some key } }) ∨
    (node.named "ForeignKey" = true ∧ ∃ key, node.content? = some key ∧ t =
      { s with
        keys := { s.keys with pForeignKey := some key }
        element := { s.element with pForeignKey := some [] } }) ∨
    (node.named "ForeignType" = true ∧ ∃ type, node.content? = some type ∧
      t = { s with element := s.element.setForeignType type }) ∨
    (node.named "ProductID" = false ∧ node.named "PrimaryKey" = false ∧
      node.named "ForeignKey" = false ∧ ∃ body, t = { s with body := body }) := by
  simp only [CellClass.branches, List.cons_append, List.nil_append, chain] at turn
  split at turn
  · rename_i named
    rcases Branch.content_ok turn with ⟨product, found, -, same⟩ | ⟨null, -, same⟩
    · exact .inl ⟨named, .inl ⟨product, found, same⟩⟩
    · exact .inl ⟨named, .inr ⟨null, same⟩⟩
  rename_i product
  split at turn
  · rename_i named
    rcases Branch.content_ok turn with ⟨key, found, -, same⟩ | ⟨-, wrong, -⟩
    · exact .inr (.inl ⟨named, key, found, same⟩)
    · contradiction
  rename_i primary
  split at turn
  · rename_i named
    rcases Branch.content_ok turn with ⟨key, found, -, same⟩ | ⟨-, wrong, -⟩
    · exact .inr (.inr (.inl ⟨named, key, found, same⟩))
    · contradiction
  rename_i foreign
  split at turn
  · rename_i named
    rcases Branch.content_ok turn with ⟨type, found, -, same⟩ | ⟨-, wrong, -⟩
    · exact .inr (.inr (.inr (.inl ⟨named, type, found, same⟩)))
    · contradiction
  exact .inr (.inr (.inr (.inr ⟨Bool.eq_false_iff.mpr product, Bool.eq_false_iff.mpr primary,
    Bool.eq_false_iff.mpr foreign, own_ok turn⟩)))

theorem chain_scanned {cls : CellClass β} {s t : CellState β} {node : Node}
    (turn : chain cls.branches s node = .ok t) : Scanned [node] s t := by
  have apart {one : String} (named : node.named one = true) (two : String)
      (different : one.toList.map Char.toLower ≠ two.toList.map Char.toLower) :
      lastText two [node] = none := lastText_other (named_apart named different)
  rcases chain_cases turn with ⟨named, case⟩ | ⟨named, key, found, rfl⟩ | ⟨named, key, found, rfl⟩ |
    ⟨named, type, found, rfl⟩ | ⟨product, primary, foreign, body, rfl⟩
  · have noPrimary := apart named "PrimaryKey" (by decide)
    have noForeign := apart named "ForeignKey" (by decide)
    rcases case with ⟨product, found, rfl⟩ | ⟨null, rfl⟩
    · constructor <;> simp [noPrimary, noForeign, lastText_named named, found]
    · constructor <;> simp [noPrimary, noForeign, lastText_named named, null]
  · have noProduct := apart named "ProductID" (by decide)
    have noForeign := apart named "ForeignKey" (by decide)
    constructor <;> simp [noProduct, noForeign, lastText_named named, found]
  · have noProduct := apart named "ProductID" (by decide)
    have noPrimary := apart named "PrimaryKey" (by decide)
    constructor <;> simp [noProduct, noPrimary, lastText_named named, found]
  · have noProduct := apart named "ProductID" (by decide)
    have noPrimary := apart named "PrimaryKey" (by decide)
    have noForeign := apart named "ForeignKey" (by decide)
    have kept : ∀ element : Element, (element.setForeignType type).bMaster = element.bMaster ∧
        (element.setForeignType type).pForeignKey = element.pForeignKey ∧
        (element.setForeignType type).pPrimaryKey = element.pPrimaryKey ∧
        (element.setForeignType type).devId = element.devId := by
      intro element
      rw [Element.setForeignType]
      cases Xml.foreignType type <;> exact ⟨rfl, rfl, rfl, rfl⟩
    constructor <;> simp [noProduct, noPrimary, noForeign, kept]
  · constructor <;> simp [lastText_other product, lastText_other primary, lastText_other foreign]

theorem chains_scanned {cls : CellClass β} {s t : CellState β} {nodes : List Node}
    (run : nodes.foldlM (chain cls.branches) s = .ok t) : Scanned nodes s t := by
  induction nodes generalizing s with
  | nil =>
    cases run
    constructor <;> simp [lastText]
  | cons node rest ih =>
    obtain ⟨next, turn, later⟩ := foldlM_cons_inv run
    exact (chain_scanned turn).cons (ih later)

/-- What the loop leaves, from the variables as they are declared. -/
theorem scan_own {cls : CellClass β} {cell : Node} {s : CellState β}
    (scan : cls.scan {} cell = .ok s) :
    s.keys = ⟨primaryText cell, foreignText cell⟩ ∧ s.element.bMaster = isMaster cell ∧
      s.element.pForeignKey = (foreignText cell).map (fun _ => []) ∧
      s.element.pPrimaryKey = none ∧ s.element.devId = 0 := by
  have scanned := chains_scanned scan
  refine ⟨?_, ?_, ?_, scanned.key, scanned.devId⟩
  · have primary := scanned.primary
    have foreign := scanned.foreign
    rw [Option.or_none] at primary foreign
    rw [primaryText, foreignText, ← primary, ← foreign]
  · rw [scanned.master, isMaster, Bool.or_false]
  · rw [scanned.buffer, foreignText]
    cases lastText "ForeignKey" cell.children <;> rfl

section

variable {cls : CellClass β} {mac : Text} {s : CellState β} {cell : Node} {dev : CellDev β}
  {older : Keys}

theorem setPrimaryKey_key (element : Element) (mode : CommunicateMode) (numbered : Bool)
    (key : Option Text) : (element.setPrimaryKey mac mode numbered key).pPrimaryKey =
      (key.map (deviceKey mac mode)).or element.pPrimaryKey := by
  cases key <;> rfl

/-- The primary key leaves what the foreign key needs. -/
theorem setPrimaryKey_rest (element : Element) (mode : CommunicateMode) (numbered : Bool)
    (key : Option Text) :
    (element.setPrimaryKey mac mode numbered key).bMaster = element.bMaster ∧
      (element.setPrimaryKey mac mode numbered key).pForeignKey = element.pForeignKey := by
  cases key <;> exact ⟨rfl, rfl⟩

/-- Where the buffer is there, only it changes. -/
theorem setForeignKey_ok {element : Element} {key : Option Text}
    (buffer : element.bMaster = true → key.isSome = true → element.pForeignKey.isSome = true) :
    element.setForeignKey mac key = .ok
      { element with
        pForeignKey :=
          if element.bMaster then
            (key.map (deviceKey mac element.foreignType)).or element.pForeignKey
          else element.pForeignKey } := by
  cases key with
  | none =>
    simp only [Element.setForeignKey, Option.map_none, Option.none_or, ite_self]
  | some key =>
    simp only [Element.setForeignKey]
    split
    · rename_i master
      obtain ⟨text, found⟩ := Option.isSome_iff_exists.mp (buffer master rfl)
      simp only [found]
      rfl
    · rfl

theorem setForeignKey_buffer {element after : Element} {key : Option Text}
    (set : element.setForeignKey mac key = .ok after) :
    element.bMaster = true → key.isSome = true → element.pForeignKey.isSome = true := by
  intro master present
  obtain ⟨text, rfl⟩ := Option.isSome_iff_exists.mp present
  simp only [Element.setForeignKey, master, if_true] at set
  split at set
  · rename_i found
    rw [found]
    rfl
  · contradiction

/-- The element behind the loop, before the foreign key. -/
def CellClass.keyed (cls : CellClass β) (mac : Text) (s : CellState β) : Element :=
  Element.setPrimaryKey { s.element with primaryType := cls.primaryType s.body } mac cls.mode
    cls.numbered s.keys.pPrimaryKey

theorem close_eq : cls.close mac s =
    ((cls.keyed mac s).setForeignKey mac s.keys.pForeignKey).map fun element =>
      { element := element, body := s.body } := by
  rw [CellClass.close, CellClass.keyed]
  simp only [bind, Except.bind, pure, Except.pure, Except.map]

/-- A cell with the variables to itself gets its device, with its own keys. -/
theorem close_own (scan : cls.scan {} cell = .ok s) :
    ∃ dev, cls.close mac s = .ok dev ∧ cls.OwnKeys mac cell dev := by
  obtain ⟨keys, master, buffer, key, devId⟩ := scan_own scan
  obtain ⟨sameMaster, sameBuffer⟩ := @setPrimaryKey_rest mac
    { s.element with primaryType := cls.primaryType s.body } cls.mode cls.numbered
      s.keys.pPrimaryKey
  have allocated : (cls.keyed mac s).bMaster = true → s.keys.pForeignKey.isSome = true →
      (cls.keyed mac s).pForeignKey.isSome = true := by
    intro _ present
    rw [CellClass.keyed, sameBuffer, buffer, Option.isSome_map]
    rwa [keys] at present
  rw [close_eq, setForeignKey_ok allocated]
  refine ⟨_, rfl, ?_, ?_, ?_⟩
  · simp only [CellClass.keyed, setPrimaryKey_key, keys, key, Option.or_none]
  · simp only [CellClass.keyed, keys]
    cases primaryText cell with
    | none => exact devId
    | some text => simp only [Element.setPrimaryKey, devId]
  · have sameMaster : (cls.keyed mac s).bMaster = isMaster cell := sameMaster.trans master
    have sameBuffer : (cls.keyed mac s).pForeignKey = (foreignText cell).map (fun _ => []) :=
      sameBuffer.trans buffer
    simp only [sameMaster, sameBuffer, keys]
    cases foreignText cell <;> cases isMaster cell <;> rfl

/-- The older keys are not used. -/
theorem close_behind (primary : s.keys.pPrimaryKey = none → older.pPrimaryKey = none)
    (foreign : s.element.bMaster = true → s.keys.pForeignKey = none → older.pForeignKey = none) :
    cls.close mac (s.behind older) = cls.close mac s := by
  have samePrimary : s.keys.pPrimaryKey.or older.pPrimaryKey = s.keys.pPrimaryKey := by
    cases own : s.keys.pPrimaryKey with
    | none => exact primary own
    | some key => rfl
  have sameKeyed : cls.keyed mac (s.behind older) = cls.keyed mac s := by
    simp only [CellClass.keyed, CellState.behind, Keys.or, samePrimary]
  have master : (cls.keyed mac s).bMaster = s.element.bMaster :=
    (@setPrimaryKey_rest mac { s.element with primaryType := cls.primaryType s.body } cls.mode
      cls.numbered s.keys.pPrimaryKey).1
  rw [close_eq, close_eq, sameKeyed]
  simp only [CellState.behind, Keys.or]
  cases own : s.keys.pForeignKey with
  | some key => rfl
  | none =>
    rw [Option.none_or]
    cases held : older.pForeignKey with
    | none => rfl
    | some key =>
      have slave : ¬ s.element.bMaster = true := by
        intro yes
        rw [foreign yes own] at held
        contradiction
      simp only [Element.setForeignKey, master, slave]
      rfl

theorem close_ok (close : cls.close mac s = .ok dev) :
    dev.element.pPrimaryKey =
        (s.keys.pPrimaryKey.map (deviceKey mac cls.mode)).or s.element.pPrimaryKey ∧
      (s.element.bMaster = true → s.keys.pForeignKey.isSome = true →
        s.element.pForeignKey.isSome = true) := by
  rw [close_eq] at close
  obtain ⟨master, buffer⟩ := @setPrimaryKey_rest mac
    { s.element with primaryType := cls.primaryType s.body } cls.mode cls.numbered
      s.keys.pPrimaryKey
  obtain ⟨element, set, -⟩ := map_ok close
  have allocated := setForeignKey_buffer set
  rw [setForeignKey_ok allocated] at close
  cases close
  rw [CellClass.keyed, master, buffer] at allocated
  refine ⟨?_, allocated⟩
  simp only [CellClass.keyed, setPrimaryKey_key]

end

section

variable {cls : CellClass β} {mac : Text} {cell : Node} {before : List Node}

theorem passes_iff : cls.Passes cell ↔ ∃ s, cls.scan {} cell = .ok s := by
  rw [CellClass.Passes, ← chains_stop cls.branches { keys := {}, body := cls.init }]
  exact stop?_eq_none

theorem alone_ok (passes : cls.Passes cell) :
    ∃ dev, cls.alone mac cell = .ok dev ∧ cls.OwnKeys mac cell dev := by
  obtain ⟨s, scan⟩ := passes_iff.mp passes
  obtain ⟨dev, close, own⟩ := @close_own _ _ mac _ _ scan
  refine ⟨dev, ?_, own⟩
  rw [CellClass.alone, scan]
  exact close

theorem alone_own {dev : CellDev β} (alone : cls.alone mac cell = .ok dev) :
    cls.Passes cell ∧ cls.OwnKeys mac cell dev := by
  have passes : cls.Passes cell := by
    rw [CellClass.alone] at alone
    obtain ⟨s, scan, -⟩ := bind_ok alone
    exact passes_iff.mpr ⟨s, scan⟩
  obtain ⟨same, here, own⟩ := @alone_ok _ _ mac _ passes
  rw [alone] at here
  cases here
  exact ⟨passes, own⟩

theorem cell_eq (keys : Keys) (devs : List (CellDev β)) : cls.cell mac (keys, devs) cell =
    (cls.scan {} cell >>= fun s => (cls.close mac (s.behind keys)).map fun dev =>
      (s.keys.or keys, devs ++ [dev])) := by
  rw [CellClass.cell, scan_behind]
  cases cls.scan {} cell <;> rfl

theorem parse_append (cls : CellClass β) (mac : Text) (before : List Node) (cell : Node) :
    cls.parse mac (before ++ [cell]) =
      cls.parse mac before >>= fun list => cls.cell mac list cell := by
  rw [CellClass.parse, List.foldlM_append]
  simp only [List.foldlM_cons, List.foldlM_nil, bind_pure]
  rfl

/-- A turn of the loop that goes on. -/
theorem parse_snoc {keys : Keys} {devs : List (CellDev β)}
    (run : cls.parse mac (before ++ [cell]) = .ok (keys, devs)) :
    ∃ older earlier s dev, cls.parse mac before = .ok (older, earlier) ∧
      cls.scan {} cell = .ok s ∧ cls.close mac (s.behind older) = .ok dev ∧
      keys = s.keys.or older ∧ devs = earlier ++ [dev] := by
  rw [parse_append] at run
  obtain ⟨⟨older, earlier⟩, first, run⟩ := bind_ok run
  rw [cell_eq] at run
  obtain ⟨s, scan, run⟩ := bind_ok run
  obtain ⟨dev, close, same⟩ := map_ok run
  cases same
  exact ⟨older, earlier, s, dev, first, scan, close, rfl, rfl⟩

/-- Each cell gives a device. -/
theorem parse_length {keys : Keys} {devs : List (CellDev β)}
    (run : cls.parse mac before = .ok (keys, devs)) : devs.length = before.length := by
  induction before using List.reverseRecOn generalizing keys devs with
  | nil =>
    cases run
    rfl
  | append_singleton before cell ih =>
    obtain ⟨older, earlier, s, dev, first, -, -, -, rfl⟩ := parse_snoc run
    rw [List.length_append, List.length_append, ih first]
    rfl

/-- The variables hold a key as soon as a cell had one. -/
theorem parse_keys {keys : Keys} {devs : List (CellDev β)}
    (run : cls.parse mac before = .ok (keys, devs)) :
    (keys.pPrimaryKey = none ↔ ∀ c ∈ before, primaryText c = none) ∧
      (keys.pForeignKey = none ↔ ∀ c ∈ before, foreignText c = none) := by
  induction before using List.reverseRecOn generalizing keys devs with
  | nil =>
    cases run
    simp
  | append_singleton before cell ih =>
    obtain ⟨older, earlier, s, dev, first, scan, -, rfl, -⟩ := parse_snoc run
    obtain ⟨primary, foreign⟩ := ih first
    have own := (scan_own scan).1
    simp only [Keys.or, own, Option.or_eq_none_iff, primary, foreign, List.mem_append,
      List.mem_singleton, or_imp, forall_and, forall_eq]
    exact ⟨and_comm, and_comm⟩

/-- A cell whose keys are its own adds what it gives alone. -/
theorem parse_alone {older : Keys} {earlier : List (CellDev β)}
    (first : cls.parse mac before = .ok (older, earlier))
    (primary : cls.Passes cell → primaryText cell = none → older.pPrimaryKey = none)
    (foreign : cls.Passes cell → isMaster cell = true → foreignText cell = none →
      older.pForeignKey = none) :
    (cls.parse mac (before ++ [cell])).map Prod.snd =
      (cls.alone mac cell).map fun dev => earlier ++ [dev] := by
  rw [parse_append, first]
  change (cls.cell mac (older, earlier) cell).map Prod.snd = _
  rw [cell_eq, CellClass.alone]
  cases scan : cls.scan {} cell with
  | error stop => rfl
  | ok s =>
    have passes : cls.Passes cell := passes_iff.mpr ⟨s, scan⟩
    obtain ⟨keys, master, -⟩ := scan_own scan
    change Except.map Prod.snd ((cls.close mac (s.behind older)).map _) = _
    rw [close_behind]
    · change _ = (cls.close mac s).map _
      cases cls.close mac s <;> rfl
    · rw [keys]
      exact primary passes
    · rw [keys, master]
      exact foreign passes

theorem mapM_snoc (before : List Node) (cell : Node) (f : Node → Parse τ) :
    (before ++ [cell]).mapM f =
      (before.mapM f >>= fun devs => (f cell).map fun dev => devs ++ [dev]) := by
  rw [List.mapM_append]
  cases before.mapM f with
  | error stop => rfl
  | ok devs =>
    simp only [List.mapM_cons, List.mapM_nil]
    cases f cell <;> rfl

/-- The cells that pass all give their devices. -/
theorem alones_ok (passes : ∀ c ∈ before, cls.Passes c) :
    ∃ devs, before.mapM (cls.alone mac) = .ok devs := by
  induction before using List.reverseRecOn with
  | nil => exact ⟨[], rfl⟩
  | append_singleton before cell ih =>
    obtain ⟨devs, here⟩ := ih fun c member => passes c (List.mem_append_left _ member)
    obtain ⟨dev, alone, -⟩ := @alone_ok _ _ mac _ (passes cell (by simp))
    rw [mapM_snoc, here, alone]
    exact ⟨devs ++ [dev], rfl⟩

/-- What is kept of two keys tells them apart, or nothing does. -/
theorem deviceKey_inj (mac : Text) (mode : CommunicateMode) (key other : Text) :
    deviceKey mac mode key = deviceKey mac mode other ↔
      key.take (30 - mac.length) = other.take (30 - mac.length) := by
  rw [deviceKey, deviceKey, List.take_append, List.take_append, List.append_cancel_left_eq]
  by_cases room : mac.length ≤ 30
  · have split : 31 - mac.length = 30 - mac.length + 1 := by omega
    rw [split, List.take_succ_cons, List.take_succ_cons, List.cons.injEq]
    exact and_iff_right rfl
  · have none_left : 31 - mac.length = 0 ∧ 30 - mac.length = 0 := by omega
    rw [none_left.1, none_left.2]
    simp only [List.take_zero]

/-- Each prefix of the cells gives what its cells give alone. -/
theorem OwnEach.alone {cells : List Node} (each : cls.OwnEach mac cells)
    (inside : before <+: cells) :
    (cls.parse mac before).map Prod.snd = before.mapM (cls.alone mac) := by
  induction before using List.reverseRecOn with
  | nil => rfl
  | append_singleton before cell ih =>
    have earlier := ih ((List.prefix_append before [cell]).trans inside)
    rw [mapM_snoc, ← earlier]
    cases first : cls.parse mac before with
    | error stop =>
      rw [parse_append, first]
      rfl
    | ok list =>
      obtain ⟨older, devs⟩ := list
      obtain ⟨primary, foreign⟩ := parse_keys first
      rw [first] at earlier
      have alones := mapM_ok_iff.mp earlier.symm
      have passes (here : cls.Passes cell) : ∀ c ∈ before ++ [cell], cls.Passes c := by
        intro c member
        rcases List.mem_append.mp member with old | last
        · obtain ⟨dev, alone⟩ := exists_of_forall₂ alones old
          exact (alone_own alone).1
        · rw [List.mem_singleton.mp last]
          exact here
      apply parse_alone first
      · intro here own
        exact primary.mpr (each.primary before cell inside (passes here) own)
      · intro here master own
        exact foreign.mpr (each.foreign before cell inside (passes here) master own)

/-- The devices of a prefix have the keys of their cells. -/
theorem OwnEach.own {cells : List Node} {keys : Keys} {devs : List (CellDev β)}
    (each : cls.OwnEach mac cells) (inside : before <+: cells)
    (run : cls.parse mac before = .ok (keys, devs)) :
    List.Forall₂ (fun c dev => cls.Passes c ∧ cls.OwnKeys mac c dev) before devs := by
  have alone := OwnEach.alone each inside
  rw [run] at alone
  exact (mapM_ok_iff.mp alone.symm).imp fun _ _ => alone_own

theorem OwnEach.separate {cells : List Node} (each : cls.OwnEach mac cells) :
    cls.Separate mac cells where
  alone before inside := OwnEach.alone each inside
  own before keys devs inside run := (OwnEach.own each inside run).imp fun _ _ => And.right
  distinct before keys devs inside run := by
    have own := OwnEach.own each inside run
    obtain ⟨same, pairs⟩ := List.forall₂_iff_zip.mp own
    have kept := each.kept before inside fun c member => by
      obtain ⟨dev, passes, -⟩ := exists_of_forall₂ own member
      exact passes
    have zipped : ((before.zip devs).map Prod.fst).Pairwise fun one two => ∀ key other,
        primaryText one = some key → primaryText two = some other → key ≠ other →
          key.take (30 - mac.length) ≠ other.take (30 - mac.length) := by
      rwa [List.map_fst_zip same.le]
    rw [List.pairwise_map] at zipped
    refine zipped.imp_of_mem fun {one two} left right apart key other hasKey hasOther different =>
      ?_
    rw [(pairs left).2.pPrimaryKey, (pairs right).2.pPrimaryKey, hasKey, hasOther]
    intro equal
    apply apart key other hasKey hasOther different
    exact (deviceKey_inj mac cls.mode key other).mp (Option.some.inj equal)
  buffer before inside passes := by
    obtain ⟨devs, alones⟩ := @alones_ok _ _ mac _ passes
    have alone := OwnEach.alone each inside
    rw [alones] at alone
    cases run : cls.parse mac before with
    | ok list => exact ⟨list, rfl⟩
    | error stop =>
      rw [run] at alone
      contradiction

/-- A cell that is reached, and its device. -/
theorem Separate.reached {cells : List Node} (separate : cls.Separate mac cells)
    (inside : before ++ [cell] <+: cells) (passes : ∀ c ∈ before ++ [cell], cls.Passes c) :
    ∃ older earlier s dev, cls.parse mac before = .ok (older, earlier) ∧
      cls.scan {} cell = .ok s ∧ cls.close mac (s.behind older) = .ok dev ∧
      cls.OwnKeys mac cell dev := by
  obtain ⟨⟨keys, devs⟩, run⟩ := separate.buffer _ inside passes
  obtain ⟨older, earlier, s, dev, first, scan, close, -, rfl⟩ := parse_snoc run
  have own := separate.own _ _ _ inside run
  refine ⟨older, earlier, s, dev, first, scan, close, ?_⟩
  have earlierOwn := separate.own _ _ _ ((List.prefix_append before [cell]).trans inside) first
  apply List.forall₂_zip own
  rw [List.zip_append earlierOwn.length_eq]
  exact List.mem_append_right _ (List.mem_singleton.mpr rfl)

theorem Separate.each {cells : List Node} (separate : cls.Separate mac cells) :
    cls.OwnEach mac cells where
  primary before cell inside passes own := by
    obtain ⟨older, earlier, s, dev, first, scan, close, keys⟩ :=
      Separate.reached separate inside passes
    obtain ⟨ownKeys, -, -, unset, -⟩ := scan_own scan
    have written := (close_ok close).1
    rw [keys.pPrimaryKey, own, CellState.behind, unset] at written
    apply (parse_keys first).1.mp
    simpa [Keys.or, ownKeys, own] using written.symm
  foreign before cell inside passes master own := by
    obtain ⟨older, earlier, s, dev, first, scan, close, keys⟩ :=
      Separate.reached separate inside passes
    obtain ⟨ownKeys, isMaster, buffer, -, -⟩ := scan_own scan
    have needs := (close_ok close).2
    apply (parse_keys first).2.mp
    cases held : older.pForeignKey with
    | none => rfl
    | some key =>
      simp [CellState.behind, Keys.or, ownKeys, own, held, isMaster, master, buffer] at needs
  kept before inside passes := by
    obtain ⟨⟨keys, devs⟩, run⟩ := separate.buffer before inside passes
    obtain ⟨same, pairs⟩ := List.forall₂_iff_zip.mp (separate.own before keys devs inside run)
    have distinct := separate.distinct before keys devs inside run
    have zipped : ((before.zip devs).map Prod.fst).Pairwise fun one two => ∀ key other,
        primaryText one = some key → primaryText two = some other → key ≠ other →
          key.take (30 - mac.length) ≠ other.take (30 - mac.length) := by
      rw [List.pairwise_map]
      refine distinct.imp_of_mem
        fun {one two} left right apart key other hasKey hasOther different => ?_
      have unequal := apart key other hasKey hasOther different
      rw [(pairs left).pPrimaryKey, (pairs right).pPrimaryKey, hasKey, hasOther] at unequal
      intro equal
      apply unequal
      exact congrArg some ((deviceKey_inj mac cls.mode key other).mpr equal)
    rwa [List.map_fst_zip same.le] at zipped

end

inductive CellFunction where
  | parseKnxPanelCfg
  | parseKnxSmartPanelCfg
  | parseKnxDimmerCfg
  | parseDiCfg
  | parseDoCfg
  deriving DecidableEq, Repr

def CellFunction.Body : CellFunction → Type
  | .parseKnxPanelCfg => KnxBody KnxPoints
  | .parseKnxSmartPanelCfg => KnxBody SmartPanelPoint
  | .parseKnxDimmerCfg => KnxBody DimmerPoint
  | .parseDiCfg => DiBody
  | .parseDoCfg => DoBody

def CellFunction.cls : (function : CellFunction) → CellClass function.Body
  | .parseKnxPanelCfg => knxPanel
  | .parseKnxSmartPanelCfg => knxSmartPanel
  | .parseKnxDimmerCfg => knxDimmer
  | .parseDiCfg => di
  | .parseDoCfg => doCfg

/-- Each device has its cell's keys exactly when no cell is left to the keys of an earlier one, and
the keys differ in what is kept of them. -/
theorem cells_separate_iff (function : CellFunction) (mac : Text) (cells : List Node) :
    function.cls.Separate mac cells ↔ function.cls.OwnEach mac cells :=
  ⟨Separate.each, OwnEach.separate⟩

/-- Two panel cells, the second without keys. -/
def keylessCells : List Node :=
  [.element "Cell" [.element "PrimaryKey" [.text "1"]], .element "Cell" []]

/-- The second panel gets the key of the first. -/
theorem second_panel_inherits :
    ¬ CellFunction.parseKnxPanelCfg.cls.Separate "0123456789ab".toList keylessCells := by
  intro separate
  have inherited : (knxPanel.parse "0123456789ab".toList keylessCells).toOption.map
      (fun list => list.2.map fun dev => dev.element.pPrimaryKey) =
        some [some "0123456789ab31".toList, some "0123456789ab31".toList] := by
    rfl
  have alone : (keylessCells.mapM (knxPanel.alone "0123456789ab".toList)).toOption.map
      (fun devs => devs.map fun dev => dev.element.pPrimaryKey) =
        some [some "0123456789ab31".toList, none] := by
    rfl
  have same := separate.alone keylessCells (List.prefix_refl _)
  change (knxPanel.parse _ _).map Prod.snd = keylessCells.mapM (knxPanel.alone _) at same
  rw [← same] at alone
  cases run : knxPanel.parse "0123456789ab".toList keylessCells with
  | error stop =>
    rw [run] at inherited
    contradiction
  | ok list =>
    rw [run] at inherited alone
    have wrong := inherited.symm.trans alone
    simp at wrong

end HiMaxGateway.Xml
