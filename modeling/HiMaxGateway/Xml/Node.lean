import HiMaxGateway.Lib.CText
import HiMaxGateway.Lib.Turns

/-! Nodes of the configuration document as libxml2 gives them, and how `parseXML.c` reads them. -/
namespace HiMaxGateway.Xml
open CText Turns

/-- An element has no content of its own; a text, a comment or a processing instruction has. -/
inductive Node where
  | mk (name : Text) (content : Option Text) (attrs : List (Text × Text)) (children : List Node)

namespace Node

def name : Node → Text
  | .mk name _ _ _ => name

def content : Node → Option Text
  | .mk _ content _ _ => content

def attrs : Node → List (Text × Text)
  | .mk _ _ attrs _ => attrs

def children : Node → List Node
  | .mk _ _ _ children => children

def text (content : String) : Node := .mk "text".toList (some content.toList) [] []

def element (name : String) (children : List Node) : Node := .mk name.toList none [] children

end Node

/-- `!xmlStrcasecmp (text, name)`. -/
def sameName (text : Text) (name : String) : Bool :=
  text.map Char.toLower == name.toList.map Char.toLower

def Node.named (node : Node) (name : String) : Bool := sameName node.name name

theorem named_apart {node : Node} {one two : String} (named : node.named one = true)
    (apart : one.toList.map Char.toLower ≠ two.toList.map Char.toLower) :
    node.named two = false := by
  simp only [Node.named, sameName, beq_iff_eq] at named
  simpa only [Node.named, sameName, named, beq_eq_false_iff_ne] using apart

/-- `xmlGetProp`, which compares with case. -/
def Node.prop (node : Node) (name : String) : Option Text := node.attrs.lookup name.toList

/-- The last item of a cell counts. -/
def lastItem : List Node → Option Node
  | [] => none
  | node :: rest => (lastItem rest).or (if node.named "Item" then some node else none)

def keyCells (item : Node) : List Node := item.children.filter (·.named "Cell")

/-- The cells of the last item. -/
def itemCells (cell : List Node) : List Node :=
  match lastItem cell with
  | some item => keyCells item
  | none => []

/-- Memory that is used unchecked. -/
inductive Fault where
  /-- The first child of an element whose content is read. -/
  | child
  /-- A content that is compared. -/
  | content
  /-- The buffer of the foreign key. -/
  | foreignKey
  /-- A point that was not created. -/
  | point
  /-- A place outside an array. -/
  | bounds
  deriving DecidableEq, Repr

abbrev Parse (σ : Type) := Turn Fault σ

/-- `XML_GET_CONTENT (node->xmlChildrenNode)`: null where the first child is an element. -/
def Node.getContent (node : Node) : Parse (Option Text) :=
  match node.children with
  | [] => .error (.faults .child)
  | child :: _ => .ok child.content

/-- The content that is there. -/
def Node.content? (node : Node) : Option Text := node.children.head?.bind Node.content

/-- The text of the last element with a name that has one. -/
def lastText (name : String) : List Node → Option Text
  | [] => none
  | node :: rest =>
      (lastText name rest).or (if node.named name then node.content? else none)

theorem lastText_cons (name : String) (node : Node) (rest : List Node) :
    lastText name (node :: rest) = (lastText name rest).or (lastText name [node]) := rfl

/-- A child with another name leaves a text. -/
theorem lastText_other {name : String} {node : Node} (other : node.named name = false) :
    lastText name [node] = none := by
  simp [lastText, other]

theorem lastText_named {name : String} {node : Node} (named : node.named name = true) :
    lastText name [node] = node.content? := by
  simp [lastText, named]

/-- What is done with the content of a node, and without one. -/
def Node.read (node : Node) (null : Parse σ) (use : Text → Parse σ) : Parse σ :=
  match node.getContent with
  | .error stop => .error stop
  | .ok none => null
  | .ok (some content) => use content

/-- `strtol (text, NULL, 10)`, with the test of `errno` after it. -/
def number (text : Text) : Int :=
  match strtol text with
  | some n => n.long
  | none => 0

/-- A long that is stored as an int. -/
def toInt (n : Int) : Int := (n + 2 ^ 31) % 2 ^ 32 - 2 ^ 31

def outOfRange (text : Text) : Bool :=
  match strtol text with
  | some n => n.erange
  | none => false

/-- `CommunicateMode_e`. -/
inductive CommunicateMode where
  | unknown
  | zigbee
  | modbus
  | knx
  | rf433
  | dio
  deriving DecidableEq, Repr

def CommunicateMode.digit (mode : CommunicateMode) : Char := Nat.digitChar mode.ctorIdx

/-- The `memcmp` chain over the content of `ForeignType`. -/
def foreignType (text : Text) : Option CommunicateMode :=
  if "ZIGBEE".toList.isPrefixOf text then some .zigbee
  else if "MODBUS".toList.isPrefixOf text then some .modbus
  else if "KNX".toList.isPrefixOf text then some .knx
  else if "RF433".toList.isPrefixOf text then some .rf433
  else none

/-- `snprintf` into `DEVICE_ID_LENGTH` bytes: the MAC, the digit of the bus and the configured
key. -/
def deviceKey (mac : Text) (mode : CommunicateMode) (key : Text) : Text :=
  (mac ++ mode.digit :: key).take 31

end HiMaxGateway.Xml
