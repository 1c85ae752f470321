import HiMaxGateway.Xml.Mbus

/-! Whether the loops over the children of an element end. -/
namespace HiMaxGateway.Xml
open CText Turns

theorem chains_terminate (branches : List (Branch σ)) (s : σ) (nodes : List Node) :
    Terminates (chain branches) s nodes ↔ Guarded Visit.stop (nodes.flatMap (visits branches)) := by
  rw [terminates_iff, chains_stop, guarded_iff]

/-- The functions that walk over the children of an element: an item, or a cell. -/
inductive Walker where
  | parseMbusAcdKey
  | parseMbusVentKey
  | parseMbusHeatKey
  | parseKnxPanelCfg
  | parseKnxDimmerCfg
  | parseDiCfg
  | parseDoCfg
  deriving DecidableEq, Repr

/-- From every state in which the element is reached. -/
def CellClass.Ends (cls : CellClass β) (cell : Node) : Prop :=
  ∀ keys, Terminates (chain cls.branches) { keys := keys, body := cls.init } cell.children

def KeyRule.Ends (rule : KeyRule) (mac : Text) (item : Node) : Prop :=
  ∀ template s, Terminates (chain [rule.cell mac template]) s item.children

def Walker.Ends (walker : Walker) (mac : Text) (node : Node) : Prop :=
  match walker with
  | .parseMbusAcdKey => mbusAcdKey.Ends mac node
  | .parseMbusVentKey => mbusVentKey.Ends mac node
  | .parseMbusHeatKey => mbusHeatKey.Ends mac node
  | .parseKnxPanelCfg => knxPanel.Ends node
  | .parseKnxDimmerCfg => knxDimmer.Ends node
  | .parseDiCfg => di.Ends node
  | .parseDoCfg => doCfg.Ends node

-- The places that are read, by the names of the elements.

/-- Without a content the element is passed over. -/
def skips (node : Node) : List Visit := [.content {} node]

/-- Without a content the step to the next element is skipped. -/
def loops (node : Node) : List Visit := [.content { null := some .stays } node]

/-- Without a content the process ends. -/
def exits (node : Node) : List Visit := [.content { null := some .exits } node]

/-- A null content is compared. -/
def compares (node : Node) : List Visit := [.content { null := some (.faults .content) } node]

/-- A number out of range ends the process. -/
def checks (node : Node) : List Visit := [.content { refused := outOfRange } node]

def loopsOrChecks (node : Node) : List Visit :=
  [.content { null := some .stays, refused := outOfRange } node]

def inside (places : Places) (node : Node) : List Visit := node.children.flatMap (look places)

def checkedAttr (name : String) (node : Node) : Visit := .attr outOfRange (node.prop name)

def keyPlaces (primaryKey foreignType : Node → List Visit) : Places :=
  [("Cell", inside
    [("PrimaryKey", primaryKey), ("ForeignKey", loops), ("ForeignType", foreignType),
      ("RoomNo", loopsOrChecks)])]

def cellPlaces (own : Places) : Places :=
  [("ProductID", skips), ("PrimaryKey", loops), ("ForeignKey", loops), ("ForeignType", exits)] ++
    own

def panelPlaces : Places := cellPlaces
  [("SharedLibrary", skips), ("PhyAddr", skips), ("OnlineCheck", skips), ("DeviceAttr", skips),
    ("channel", inside [("Switch", skips), ("Status", skips), ("DataPoint", skips)])]

def dimmerPlaces : Places := cellPlaces
  [("SharedLibrary", skips), ("PhyAddr", skips), ("OnlineCheck", skips),
    ("channel", inside
      [("Switch", inside [("Ctrl", skips), ("Status", skips), ("DataPoint", checks)]),
        ("Brightness", fun node =>
          checkedAttr "max" node :: .attr (fun _ => false) (node.prop "min") ::
            checkedAttr "step" node :: checkedAttr "scaling" node ::
            inside [("Ctrl", skips), ("Status", skips), ("DataPoint", checks)] node)])]

def Walker.places : Walker → Places
  | .parseMbusAcdKey => keyPlaces exits compares
  | .parseMbusVentKey => keyPlaces exits exits
  | .parseMbusHeatKey => keyPlaces skips exits
  | .parseKnxPanelCfg => panelPlaces
  | .parseKnxDimmerCfg => dimmerPlaces
  | .parseDiCfg => cellPlaces
      [("UUID", skips), ("AUTHKEY", skips), ("Trigger", exits), ("Channel", skips),
        ("DataPoint", skips)]
  | .parseDoCfg => cellPlaces
      [("UUID", skips), ("AUTHKEY", skips), ("Output", skips), ("Channel", skips),
        ("DataPoint", skips)]

theorem CellClass.ends_iff {cls : CellClass β} {places : Places}
    (same : visits cls.branches = look places) (cell : Node) :
    cls.Ends cell ↔ Guarded Visit.stop (inside places cell) := by
  constructor
  · intro ends
    have here := ends {}
    rwa [chains_terminate, same] at here
  · intro guarded keys
    rwa [chains_terminate, same]

theorem KeyRule.ends_iff {rule : KeyRule} {mac : Text} {places : Places}
    (same : ∀ template, visits [rule.cell mac template] = look places) (item : Node) :
    rule.Ends mac item ↔ Guarded Visit.stop (inside places item) := by
  constructor
  · intro ends
    have here := ends
      { mem := { heap := [], points := fun _ => none }, base := { element := {} } }
      { heap := [], list := [], dev := { base := { element := {} }, points := fun _ => none }
        pForeignKey := none }
    rwa [chains_terminate, same] at here
  · intro guarded template s
    rwa [chains_terminate, same]

/-- The loops end exactly when each element that harms is behind one at which the process exits. -/
theorem walker_ends_iff (walker : Walker) (mac : Text) (node : Node) :
    walker.Ends mac node ↔ Guarded Visit.stop (inside walker.places node) := by
  cases walker with
  | parseMbusAcdKey | parseMbusVentKey | parseMbusHeatKey =>
    exact KeyRule.ends_iff (fun _ => rfl) node
  | parseKnxPanelCfg | parseKnxDimmerCfg | parseDiCfg | parseDoCfg =>
    exact CellClass.ends_iff rfl node

/-- A panel cell whose primary key begins with a child element. -/
def nestedKeyCell : Node := .element "Cell" [.element "PrimaryKey" [.element "Key" []]]

/-- The loop stays on the key. -/
theorem nested_key_stays : ¬ Walker.parseKnxPanelCfg.Ends "0123456789ab".toList nestedKeyCell := by
  intro ends
  have here := ends {}
  rw [terminates_iff] at here
  have stays : stop? (nestedKeyCell.children.foldlM (chain knxPanel.branches)
      { keys := {}, body := knxPanel.init }) = some .stays := rfl
  rw [stays] at here
  simp at here

end HiMaxGateway.Xml
