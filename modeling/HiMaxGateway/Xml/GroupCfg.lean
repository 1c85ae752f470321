import HiMaxGateway.Xml.Node

/-! `ParseGroupCfg`: the array of member keys of a group, and the walk of `ModbusDevGroup` over
it. -/
namespace HiMaxGateway.Xml
open CText Turns

/-- `atoi`. -/
def atoi (text : Text) : Int := toInt (number text)

def memberSum (cell : Node) : Int :=
  match cell.prop "member_sum" with
  | some sum => atoi sum
  | none => 0

def groupType (cell : Node) : CommunicateMode :=
  match cell.prop "type" with
  | some type =>
      if sameName type "485" then .modbus else if sameName type "KNX" then .knx else .unknown
  | none => .unknown

/-- A key of a group without a type stays empty. -/
def groupKey (mac : Text) (type : CommunicateMode) (key : Text) : Text :=
  match type with
  | .modbus | .knx => deviceKey mac type key
  | _ => []

/-- `Group_t`. A null entry ends the keys. -/
structure GroupCfg where
  groupId : Nat := 0
  pPrimaryKey : Option Text := none
  ppForeignKey : List (Option Text)
  memberIdx : Nat := 0

/-- A write into an array. -/
def writeKey (keys : List (Option Text)) (i : Int) (key : Option Text) :
    Parse (List (Option Text)) :=
  if 0 ≤ i ∧ i < keys.length then .ok (keys.set i.toNat key) else .error (.faults .bounds)

def groupTurn (mac : Text) (type : CommunicateMode) (group : GroupCfg) (node : Node) :
    Parse GroupCfg :=
  if node.named "group_id" then
    node.read (.ok group) fun id => .ok { group with groupId := (atoi id % 2 ^ 16).toNat }
  else if node.named "PrimaryKey" then
    node.read (.ok group) fun key => .ok { group with pPrimaryKey := some (groupKey mac type key) }
  else if node.named "ForeignKey" then
    node.read (.ok group) fun key => do
      let keys ← writeKey group.ppForeignKey group.memberIdx (some (groupKey mac type key))
      return { group with ppForeignKey := keys, memberIdx := group.memberIdx + 1 }
  else .ok group

/-- One cell of the group list. `calloc` gets no memory for a negative count, and may get none
otherwise. -/
def parseGroupCell (mac : Text) (calloc : Nat → Bool) (cell : Node) : Parse GroupCfg := do
  if memberSum cell < 0 ∨ calloc (memberSum cell).toNat = false then .error .exits
  else
    let keys ← writeKey (List.replicate (memberSum cell).toNat none) (memberSum cell - 1) none
    cell.children.foldlM (groupTurn mac (groupType cell)) { ppForeignKey := keys }

/-- `while (*ppForeignKey)`; the walk may run off the array. -/
def memberKeys : List (Option Text) → Option (List Text)
  | [] => none
  | none :: _ => some []
  | some key :: rest => (memberKeys rest).map (key :: ·)

def Node.isForeignKey (node : Node) : Bool := node.named "ForeignKey"

/-- The array has the keys of the `ForeignKey` children, in order, and a null entry behind them. -/
structure KeysRead (mac : Text) (cell : Node) (group : GroupCfg) (texts : List Text) : Prop where
  contents : (cell.children.filter Node.isForeignKey).map Node.getContent =
    texts.map fun text => .ok (some text)
  keys : group.ppForeignKey.take texts.length =
    texts.map fun text => some (groupKey mac (groupType cell) text)
  terminated : group.ppForeignKey[texts.length]? = some none
  walked : memberKeys group.ppForeignKey = some (texts.map (groupKey mac (groupType cell)))

/-- The contents that are read. -/
def Node.readsContent (node : Node) : Bool :=
  node.named "group_id" || node.named "PrimaryKey" || node.isForeignKey

/-- There is room for the keys and the null entry, and every content that is read is there. -/
structure RoomForKeys (calloc : Nat → Bool) (cell : Node) : Prop where
  room : ((cell.children.filter Node.isForeignKey).length : Int) < memberSum cell
  memory : calloc (memberSum cell).toNat = true
  child : ∀ node ∈ cell.children, node.readsContent = true → node.children ≠ []
  content : ∀ node ∈ cell.children, node.isForeignKey = true → node.getContent ≠ .ok none

section

variable {mac : Text} {type : CommunicateMode} {group : GroupCfg} {node : Node}

theorem read_ok {null : Parse σ} {use : Text → Parse σ} (ends : node.read null use = .ok s) :
    node.children ≠ [] := by
  intro empty
  simp [Node.read, Node.getContent, empty] at ends

theorem read_cases {null : Parse σ} {use : Text → Parse σ} {out : σ}
    (ends : node.read null use = .ok out) : null = .ok out ∨ ∃ text, use text = .ok out := by
  rw [Node.read] at ends
  split at ends
  · contradiction
  · exact .inl ends
  · exact .inr ⟨_, ends⟩

theorem groupTurn_key (named : node.isForeignKey = true) : groupTurn mac type group node =
    node.read (.ok group) fun key => do
      let keys ← writeKey group.ppForeignKey group.memberIdx (some (groupKey mac type key))
      return { group with ppForeignKey := keys, memberIdx := group.memberIdx + 1 } := by
  have id : node.named "group_id" = false := named_apart named (by decide)
  have primary : node.named "PrimaryKey" = false := named_apart named (by decide)
  rw [Node.isForeignKey] at named
  simp only [groupTurn, id, primary, named, if_true]
  rfl

/-- Other children leave the array. -/
theorem groupTurn_other (other : node.isForeignKey = false)
    (child : node.readsContent = true → node.children ≠ []) :
    ∃ after, groupTurn mac type group node = .ok after ∧
      after.ppForeignKey = group.ppForeignKey ∧ after.memberIdx = group.memberIdx := by
  have reads {use : Text → GroupCfg}
      (keeps : ∀ text, (use text).ppForeignKey = group.ppForeignKey ∧
        (use text).memberIdx = group.memberIdx) (read : node.readsContent = true) :
      ∃ after, node.read (.ok group) (fun text => .ok (use text)) = .ok after ∧
        after.ppForeignKey = group.ppForeignKey ∧ after.memberIdx = group.memberIdx := by
    rw [Node.read, Node.getContent]
    cases first : node.children with
    | nil => exact absurd first (child read)
    | cons a rest =>
      cases found : a.content with
      | none => exact ⟨group, by simp only [found], rfl, rfl⟩
      | some text => exact ⟨use text, by simp only [found], keeps text⟩
  rw [Node.isForeignKey] at other
  rw [groupTurn]
  split
  · rename_i named
    exact reads (fun _ => ⟨rfl, rfl⟩) (by simp [Node.readsContent, named])
  split
  · rename_i named
    exact reads (fun _ => ⟨rfl, rfl⟩) (by simp [Node.readsContent, named])
  simp only [other]
  exact ⟨group, rfl, rfl, rfl⟩

theorem writeKey_inside {keys : List (Option Text)} {i : Nat} (inside : i < keys.length)
    (key : Option Text) : writeKey keys i key = .ok (keys.set i key) := by
  rw [writeKey, if_pos ⟨by omega, by omega⟩]
  rfl

theorem writeKey_length {keys after : List (Option Text)} {i : Int} {key : Option Text}
    (written : writeKey keys i key = .ok after) :
    after.length = keys.length ∧ 0 ≤ i ∧ i < keys.length := by
  rw [writeKey] at written
  split at written
  · rename_i inside
    cases written
    exact ⟨List.length_set, inside⟩
  · contradiction

/-- A key whose text is there. -/
theorem getContent_text (filled : node.children ≠ []) (present : node.getContent ≠ .ok none) :
    ∃ text, node.getContent = .ok (some text) := by
  rw [Node.getContent] at present ⊢
  cases first : node.children with
  | nil => exact absurd first filled
  | cons a more =>
    cases found : a.content with
    | none => simp [first, found] at present
    | some text => exact ⟨text, by simp only [found]⟩

/-- A key goes to the next place of the array. -/
def GroupCfg.put (group : GroupCfg) (key : Text) : GroupCfg :=
  { group with
    ppForeignKey := group.ppForeignKey.set group.memberIdx (some key)
    memberIdx := group.memberIdx + 1 }

theorem groupTurn_put {text : Text} (named : node.isForeignKey = true)
    (found : node.getContent = .ok (some text))
    (inside : group.memberIdx < group.ppForeignKey.length) :
    groupTurn mac type group node = .ok (group.put (groupKey mac type text)) := by
  rw [groupTurn_key named, Node.read, found]
  simp only [writeKey_inside inside]
  rfl

theorem put_take {key : Text} (inside : group.memberIdx < group.ppForeignKey.length) :
    (group.put key).ppForeignKey.take (group.put key).memberIdx =
      group.ppForeignKey.take group.memberIdx ++ [some key] := by
  simp only [GroupCfg.put]
  rw [List.take_add_one, List.take_set_of_le (Nat.le_refl _), List.getElem?_set_self inside]
  rfl

theorem put_drop {key : Text} (n : Nat) :
    (group.put key).ppForeignKey.drop ((group.put key).memberIdx + n) = group.ppForeignKey.drop
      (group.memberIdx + (n + 1)) := by
  simp only [GroupCfg.put]
  rw [List.drop_set_of_lt (by omega)]
  congr 1
  omega

/-- The keys go to the array one behind the other. -/
theorem groupTurns_keys {nodes : List Node}
    (room : group.memberIdx + (nodes.filter Node.isForeignKey).length ≤ group.ppForeignKey.length)
    (child : ∀ node ∈ nodes, node.readsContent = true → node.children ≠ [])
    (content : ∀ node ∈ nodes, node.isForeignKey = true → node.getContent ≠ .ok none) :
    ∃ (texts : List Text) (after : GroupCfg), nodes.foldlM (groupTurn mac type) group = .ok after ∧
      (nodes.filter Node.isForeignKey).map Node.getContent = texts.map
        (fun text => .ok (some text)) ∧
      after.ppForeignKey = group.ppForeignKey.take group.memberIdx ++
        (texts.map (fun text => some (groupKey mac type text)) ++
          group.ppForeignKey.drop (group.memberIdx + texts.length)) := by
  induction nodes generalizing group with
  | nil => exact ⟨[], group, rfl, rfl, by simp⟩
  | cons node rest ih =>
    obtain ⟨here, later⟩ := List.forall_mem_cons.mp child
    obtain ⟨hasText, texts_later⟩ := List.forall_mem_cons.mp content
    by_cases named : node.isForeignKey = true
    · rw [List.filter_cons_of_pos named, List.length_cons] at room
      have filled := here (by simp [Node.readsContent, named])
      obtain ⟨text, found⟩ := getContent_text filled (hasText named)
      have inside : group.memberIdx < group.ppForeignKey.length := by omega
      have turn := @groupTurn_put mac type group node text named found inside
      obtain ⟨texts, last, run, contents, keys⟩ := @ih (group.put (groupKey mac type text))
        (by simp only [GroupCfg.put, List.length_set]; omega) later texts_later
      refine ⟨text :: texts, last, ?_, ?_, ?_⟩
      · rw [foldlM_cons_ok turn, run]
      · rw [List.filter_cons_of_pos named, List.map_cons, List.map_cons, found, contents]
      · rw [keys, put_take inside, put_drop, List.map_cons, List.length_cons, List.append_assoc]
        rfl
    · rw [Bool.not_eq_true] at named
      obtain ⟨after, turn, same, idx⟩ := @groupTurn_other mac type group node named here
      rw [List.filter_cons_of_neg (by simp [named])] at room ⊢
      rw [← same, ← idx] at room
      obtain ⟨texts, last, run, contents, keys⟩ := ih room later texts_later
      refine ⟨texts, last, ?_, contents, by rw [keys, same, idx]⟩
      rw [foldlM_cons_ok turn, run]

/-- A turn that goes on has read its content, and the array has its length. -/
theorem groupTurn_ok {after : GroupCfg} (turn : groupTurn mac type group node = .ok after) :
    after.ppForeignKey.length = group.ppForeignKey.length ∧
      (node.readsContent = true → node.children ≠ []) := by
  rw [groupTurn] at turn
  split at turn
  · refine ⟨?_, fun _ => read_ok turn⟩
    rcases read_cases turn with same | ⟨id, same⟩ <;> cases same <;> rfl
  split at turn
  · refine ⟨?_, fun _ => read_ok turn⟩
    rcases read_cases turn with same | ⟨key, same⟩ <;> cases same <;> rfl
  split at turn
  · refine ⟨?_, fun _ => read_ok turn⟩
    rcases read_cases turn with same | ⟨key, same⟩
    · cases same
      rfl
    · obtain ⟨keys, write, ends⟩ := bind_ok same
      cases ends
      exact (writeKey_length write).1
  · rename_i id primary foreign
    cases turn
    exact ⟨rfl,
      fun reads => by simp [Node.readsContent, Node.isForeignKey, id, primary, foreign] at reads⟩

theorem groupTurns_ok {nodes : List Node} {after : GroupCfg}
    (run : nodes.foldlM (groupTurn mac type) group = .ok after) :
    after.ppForeignKey.length = group.ppForeignKey.length ∧
      ∀ node ∈ nodes, node.readsContent = true → node.children ≠ [] := by
  induction nodes generalizing group with
  | nil =>
    cases run
    exact ⟨rfl, List.forall_mem_nil _⟩
  | cons node rest ih =>
    obtain ⟨next, turn, later⟩ := foldlM_cons_inv run
    obtain ⟨same, child⟩ := groupTurn_ok turn
    obtain ⟨length, children⟩ := ih later
    exact ⟨length.trans same, List.forall_mem_cons.mpr ⟨child, children⟩⟩

/-- The key of an owner is one of a text, in the form of the type of its group. -/
theorem groupTurn_owner {after : GroupCfg} (turn : groupTurn mac type group node = .ok after)
    (own : ∀ key ∈ group.pPrimaryKey, ∃ text, key = groupKey mac type text) :
    ∀ key ∈ after.pPrimaryKey, ∃ text, key = groupKey mac type text := by
  rw [groupTurn] at turn
  split at turn
  · rcases read_cases turn with same | ⟨id, same⟩ <;> cases same <;> exact own
  split at turn
  · rcases read_cases turn with same | ⟨text, same⟩
    · cases same
      exact own
    · cases same
      intro key named
      exact ⟨text, (Option.some.inj named).symm⟩
  split at turn
  · rcases read_cases turn with same | ⟨key, same⟩
    · cases same
      exact own
    · obtain ⟨keys, -, ends⟩ := bind_ok same
      cases ends
      exact own
  · cases turn
    exact own

theorem groupTurns_owner {nodes : List Node} {after : GroupCfg}
    (run : nodes.foldlM (groupTurn mac type) group = .ok after)
    (own : ∀ key ∈ group.pPrimaryKey, ∃ text, key = groupKey mac type text) :
    ∀ key ∈ after.pPrimaryKey, ∃ text, key = groupKey mac type text := by
  induction nodes generalizing group with
  | nil =>
    cases run
    exact own
  | cons node rest ih =>
    obtain ⟨next, turn, later⟩ := foldlM_cons_inv run
    exact ih later (groupTurn_owner turn own)

theorem parseGroupCell_owner {calloc : Nat → Bool} {cell : Node} {cfg : GroupCfg}
    (parsed : parseGroupCell mac calloc cell = .ok cfg) :
    ∀ key ∈ cfg.pPrimaryKey, ∃ text, key = groupKey mac (groupType cell) text := by
  rw [parseGroupCell] at parsed
  split at parsed
  · contradiction
  obtain ⟨keys, -, run⟩ := bind_ok parsed
  exact groupTurns_owner run (by simp)

/-- The walk reads up to the first null entry. -/
theorem memberKeys_append (keys : List Text) (rest : List (Option Text)) :
    memberKeys (keys.map some ++ none :: rest) = some keys := by
  induction keys with
  | nil => rfl
  | cons key keys ih => simp only [List.map_cons, List.cons_append, memberKeys, ih, Option.map_some]

end

/-- The cell is read right exactly when the count is above the number of keys, since the null entry
is put at the last place before the keys are written. -/
theorem group_keys_iff (mac : Text) (calloc : Nat → Bool) (cell : Node) :
    (∃ group texts, parseGroupCell mac calloc cell = .ok group ∧ KeysRead mac cell group texts) ↔
      RoomForKeys calloc cell := by
  constructor
  · rintro ⟨group, texts, parsed, read⟩
    rw [parseGroupCell] at parsed
    split at parsed
    · contradiction
    rename_i memory
    rw [not_or, Bool.not_eq_false] at memory
    obtain ⟨keys, write, parsed⟩ := bind_ok parsed
    obtain ⟨length, child⟩ := groupTurns_ok parsed
    have count := congrArg List.length read.contents
    rw [List.length_map, List.length_map] at count
    have inside : texts.length < group.ppForeignKey.length :=
      (List.getElem?_eq_some_iff.mp read.terminated).1
    rw [length, (writeKey_length write).1, List.length_replicate] at inside
    refine ⟨by omega, memory.2, child, fun node member named null => ?_⟩
    have mapped := List.mem_map_of_mem (f := Node.getContent) (List.mem_filter.mpr ⟨member, named⟩)
    rw [read.contents, null] at mapped
    simp at mapped
  · intro room
    have positive : 0 < memberSum cell := by
      have := room.room
      omega
    have write : writeKey (List.replicate (memberSum cell).toNat none) (memberSum cell - 1) none =
        .ok (List.replicate (memberSum cell).toNat none) := by
      rw [writeKey, if_pos ⟨by omega, by rw [List.length_replicate]; omega⟩]
      congr 1
      exact List.set_replicate_self
    obtain ⟨texts, group, run, contents, keys⟩ := @groupTurns_keys mac (groupType cell)
      { ppForeignKey := List.replicate (memberSum cell).toNat none } cell.children
      (by have := room.room; simp only [List.length_replicate]; omega) room.child room.content
    have count := congrArg List.length contents
    rw [List.length_map, List.length_map] at count
    have rest : ∃ rest, group.ppForeignKey =
        (texts.map (groupKey mac (groupType cell))).map some ++ none :: rest := by
      refine ⟨List.replicate ((memberSum cell).toNat - texts.length - 1) none, ?_⟩
      have := room.room
      rw [keys, List.take_zero, List.nil_append, Nat.zero_add, List.drop_replicate, List.map_map,
        ← List.replicate_succ]
      congr 2
      omega
    obtain ⟨rest, filled⟩ := rest
    refine ⟨group, texts, ?_, contents, ?_, ?_, ?_⟩
    · rw [parseGroupCell, if_neg (by simp [room.memory]; omega)]
      simp only [write, bind, Except.bind]
      exact run
    · rw [filled, List.take_left' (by simp), List.map_map]
      rfl
    · rw [filled, List.getElem?_append_right (by simp)]
      simp
    · rw [filled, memberKeys_append]

/-- A count of two and two keys. -/
def fullGroup : Node := .mk "Cell".toList none
  [("type".toList, "485".toList), ("member_sum".toList, "2".toList)]
  [.element "ForeignKey" [.text "1"], .element "ForeignKey" [.text "2"]]

/-- The second key takes the place of the null entry, and the walk runs off the array. -/
theorem full_array_unterminated : ¬ ∃ group texts,
    parseGroupCell "0123456789ab".toList (fun _ => true) fullGroup = .ok group ∧
      KeysRead "0123456789ab".toList fullGroup group texts := by
  rintro ⟨group, texts, parsed, read⟩
  have off : (parseGroupCell "0123456789ab".toList (fun _ => true) fullGroup).toOption.map
      (fun group => memberKeys group.ppForeignKey) = some none := by
    rfl
  have walked := read.walked
  rw [parsed] at off
  have ran_off : memberKeys group.ppForeignKey = none := Option.some.inj off
  rw [ran_off] at walked
  contradiction

end HiMaxGateway.Xml
