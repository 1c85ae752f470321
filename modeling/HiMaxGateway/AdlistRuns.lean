import HiMaxGateway.AdlistWalks

/-! Runs of list operations on any number of lists whose nodes share one heap. -/
namespace HiMaxGateway.Adlist
open Cells DoublyLinked

variable {β : Type}

inductive Op (β : Type) where
  | addNodeHead (i : Nat) (value : β) (node : Ptr)
  | addNodeTail (i : Nat) (value : β) (node : Ptr)
  | insertNode (i : Nat) (old_node : Addr) (value : β) (after : Bool) (node : Ptr)
  | delNode (i : Nat) (node : Addr)
  | empty (i : Nat)
  | rotateTailToHead (i : Nat)
  | rotateHeadToTail (i : Nat)
  | join (l o : Nat)
  | dup (orig copy : Nat) (nodes : List Ptr)
  | setMethods (i : Nat) (m : Methods β)

structure World (β : Type) where
  heap : Heap (Node β)
  lists : Nat → ListT β
  freed : List β

namespace World

def act (w : World β) (i : Nat) (f : State β → Option (State β)) : Option (World β) := do
  let s ← f ⟨w.heap, w.lists i, w.freed⟩
  some ⟨s.heap, Function.update w.lists i s.list, s.freed⟩

def exec (w : World β) : Op β → Option (World β)
  | .addNodeHead i value node => w.act i fun s => (listAddNodeHead s value node).map (·.2)
  | .addNodeTail i value node => w.act i fun s => (listAddNodeTail s value node).map (·.2)
  | .insertNode i old_node value after node =>
      w.act i fun s => (listInsertNode s old_node value after node).map (·.2)
  | .delNode i node => w.act i fun s => listDelNode s node
  | .empty i => w.act i listEmpty
  | .rotateTailToHead i => w.act i listRotateTailToHead
  | .rotateHeadToTail i => w.act i listRotateHeadToTail
  | .join l o => do
      let (heap, first, second) ← listJoin w.heap (w.lists l) (w.lists o)
      some { w with heap, lists := Function.update (Function.update w.lists l first) o second }
  | .dup orig copy nodes => do
      let (made, s) ← listDup ((w.lists orig).len + 1) w.heap (w.lists orig) true nodes w.freed
      some { w with
        heap := s.heap
        lists := if made then Function.update w.lists copy s.list else w.lists
        freed := s.freed }
  | .setMethods i m =>
      some { w with lists := Function.update w.lists i { w.lists i with toMethods := m } }

end World

/-- The lists as a caller sees them: entries in order, and no pointers. -/
structure Shelf (β : Type) where
  methods : Nat → Methods β
  entries : Nat → List (Entry β)
  freed : List β

namespace Shelf

def Fresh (s : Shelf β) (node : Ptr) : Prop := ∀ a i, node = some a → a ∉ addrs (s.entries i)

/-- What a caller of list.c sees to: malloc gives addresses not in use, a node belongs to the
list it is named with, a list is not joined with itself, and a copy goes to a new list. -/
def Permits (s : Shelf β) : Op β → Prop
  | .addNodeHead _ _ node => s.Fresh node
  | .addNodeTail _ _ node => s.Fresh node
  | .insertNode i old_node _ _ node => s.Fresh node ∧ old_node ∈ addrs (s.entries i)
  | .delNode i node => node ∈ addrs (s.entries i)
  | .join l o => l ≠ o
  | .dup _ copy nodes => s.entries copy = [] ∧ (∀ node ∈ nodes, s.Fresh node) ∧
      (nodes.filterMap id).Nodup
  | _ => True

def store (s : Shelf β) (i : Nat) (xs : List (Entry β)) : Shelf β :=
  { s with entries := Function.update s.entries i xs }

/-- The list with a new entry beside an old one. -/
def inserted (old : Addr) (after : Bool) (new : Entry β) (xs : List (Entry β)) : List (Entry β) :=
  xs.flatMap fun e => if e.1 = old then (if after then [e, new] else [new, e]) else [e]

def after (s : Shelf β) : Op β → Shelf β
  | .addNodeHead i value node => s.store i ((node.map (·, value)).toList ++ s.entries i)
  | .addNodeTail i value node => s.store i (s.entries i ++ (node.map (·, value)).toList)
  | .insertNode i old_node value after node =>
      match node with
      | none => s
      | some a => s.store i (inserted old_node after (a, value) (s.entries i))
  | .delNode i node =>
      { s.store i ((s.entries i).filter (·.1 ≠ node)) with
        freed := s.freed ++
          released (s.methods i) (((s.entries i).filter (·.1 = node)).map (·.2)) }
  | .empty i =>
      { s.store i [] with freed := s.freed ++ released (s.methods i) ((s.entries i).map (·.2)) }
  | .rotateTailToHead i => s.store i ((s.entries i).getLast?.toList ++ (s.entries i).dropLast)
  | .rotateHeadToTail i => s.store i ((s.entries i).tail ++ (s.entries i).head?.toList)
  | .join l o => (s.store l (s.entries l ++ s.entries o)).store o []
  | .dup orig copy nodes =>
      let c := copying (s.methods orig) (s.entries orig) nodes []
      if c.made then
        { s.store copy c.entries with
          methods := Function.update s.methods copy (s.methods orig)
          freed := s.freed ++ c.freed }
      else { s with freed := s.freed ++ c.freed }
  | .setMethods i m => { s with methods := Function.update s.methods i m }

def PermitsAll : Shelf β → List (Op β) → Prop
  | _, [] => True
  | s, op :: rest => s.Permits op ∧ PermitsAll (s.after op) rest

end Shelf

/-- The heap holds the lists, each with nodes of its own, and nothing else. -/
structure Represents (w : World β) (s : Shelf β) : Prop where
  lists : ∀ i, w.lists i = header (s.methods i) (s.entries i)
  owned : ∀ i, Owned w.heap (s.entries i)
  apart : ∀ i j, i ≠ j → ∀ a ∈ addrs (s.entries i), a ∉ addrs (s.entries j)
  live : ∀ a, w.heap a ≠ none → ∃ i, a ∈ addrs (s.entries i)
  freed : w.freed = s.freed

variable {w : World β} {s : Shelf β}

theorem Represents.fresh (rep : Represents w s) {a : Addr} (fresh : s.Fresh (some a)) :
    w.heap a = none := by
  cases cell : w.heap a with
  | none => rfl
  | some node =>
    obtain ⟨i, member⟩ := rep.live a (by simp [cell])
    exact absurd member (fresh a i rfl)

/-- One list goes over into another, in nodes it had or in new ones. -/
theorem Represents.stored (rep : Represents w s) (i : Nat) {h' : Heap (Node β)}
    {xs : List (Entry β)} (owned : Owned h' xs) (moves : Moves w.heap h' (s.entries i) xs)
    (fresh : ∀ b ∈ addrs xs, b ∈ addrs (s.entries i) ∨ w.heap b = none) (freed : List β) :
    Represents ⟨h', Function.update w.lists i (header (s.methods i) xs), freed⟩
      { s.store i xs with freed := freed } := by
  have outside :
      ∀ j, j ≠ i → ∀ b ∈ addrs (s.entries j), b ∉ addrs (s.entries i) ∧ b ∉ addrs xs := by
    intro j other b member
    have old := rep.apart j i other b member
    refine ⟨old, fun new => ?_⟩
    exact (rep.owned j).not_fresh ((fresh b new).resolve_left old) member
  refine ⟨fun j => ?_, fun j => ?_, fun j k other b member => ?_, fun b (live : h' b ≠ none) => ?_,
    rfl⟩
  · by_cases same : j = i
    · subst same
      simp [Shelf.store]
    · simp [Shelf.store, Function.update_of_ne same, rep.lists]
  · by_cases same : j = i
    · subst same
      simpa [Shelf.store] using owned
    · simp only [Shelf.store, Function.update_of_ne same]
      refine (rep.owned j).frame fun b member => moves.frame b ?_ ?_
      · exact (outside j same b member).1
      · exact (outside j same b member).2
  · by_cases here : j = i
    · subst here
      simp only [Shelf.store, Function.update_self, Function.update_of_ne
        (Ne.symm other)] at member ⊢
      exact fun there => (outside k (Ne.symm other) b there).2 member
    · by_cases there : k = i
      · subst there
        simp only [Shelf.store, Function.update_self, Function.update_of_ne here] at member ⊢
        exact (outside j here b member).2
      · simp only [Shelf.store, Function.update_of_ne here, Function.update_of_ne there] at member ⊢
        exact rep.apart j k other b member
  · by_cases new : b ∈ addrs xs
    · exact ⟨i, by simpa [Shelf.store] using new⟩
    · by_cases old : b ∈ addrs (s.entries i)
      · exact absurd (moves.freed b old new) live
      · rw [moves.frame b old new] at live
        obtain ⟨j, member⟩ := rep.live b live
        have other : j ≠ i := fun same => old (same ▸ member)
        exact ⟨j, by simpa [Shelf.store, Function.update_of_ne other] using member⟩

/-- One list goes over into another, as an operation on its header left it. -/
theorem Represents.acted (rep : Represents w s) (i : Nat) {f : State β → Option (State β)}
    {h' : Heap (Node β)} {xs : List (Entry β)} {freed : List β}
    (done : f ⟨w.heap, header (s.methods i) (s.entries i), s.freed⟩ =
      some ⟨h', header (s.methods i) xs, freed⟩)
    (owned : Owned h' xs) (moves : Moves w.heap h' (s.entries i) xs)
    (fresh : ∀ b ∈ addrs xs, b ∈ addrs (s.entries i) ∨ w.heap b = none) :
    ∃ w', w.act i f = some w' ∧ Represents w' { s.store i xs with freed := freed } := by
  refine ⟨_, ?_, rep.stored i owned moves fresh freed⟩
  rw [World.act, rep.lists i, rep.freed, done]
  rfl

theorem store_same (s : Shelf β) (i : Nat) : s.store i (s.entries i) = s := by
  simp [Shelf.store]

/-- A call that changed nothing, as malloc had no room. -/
theorem Represents.unchanged (rep : Represents w s) (i : Nat) {f : State β → Option (State β)}
    (done : f ⟨w.heap, header (s.methods i) (s.entries i), s.freed⟩ =
      some ⟨w.heap, header (s.methods i) (s.entries i), s.freed⟩) :
    ∃ w', w.act i f = some w' ∧ Represents w' s := by
  obtain ⟨w', acted, rep'⟩ := rep.acted i done (rep.owned i) (.refl ..) fun b member => .inl member
  rw [store_same] at rep'
  exact ⟨w', acted, rep'⟩

theorem inserted_at {a : Addr} {v : β} {xs ys : List (Entry β)}
    (nodup : (addrs (xs ++ (a, v) :: ys)).Nodup) (after : Bool) (new : Entry β) :
    Shelf.inserted a after new (xs ++ (a, v) :: ys) =
      if after then xs ++ (a, v) :: new :: ys else xs ++ new :: (a, v) :: ys := by
  obtain ⟨-, nodupMore, apart⟩ := nodup_parts.mp nodup
  obtain ⟨outside, -⟩ := List.nodup_cons.mp nodupMore
  have before : ∀ zs : List (Entry β), a ∉ addrs zs → Shelf.inserted a after new zs = zs := by
    intro zs outside
    induction zs with
    | nil => rfl
    | cons z zs ih =>
      obtain ⟨b, w⟩ := z
      rw [addrs_cons, List.mem_cons, not_or] at outside
      have more := ih outside.2
      rw [Shelf.inserted] at more ⊢
      simp [Ne.symm outside.1, more]
  have first := before xs fun member => apart a member (by simp)
  have last := before ys outside
  rw [Shelf.inserted] at first last ⊢
  rw [List.flatMap_append, List.flatMap_cons, first, last, if_pos rfl]
  cases after <;> simp

theorem Represents.addNodeHead (rep : Represents w s) (i : Nat) (v : β) {node : Ptr}
    (fresh : s.Fresh node) :
    ∃ w', w.exec (.addNodeHead i v node) = some w' ∧
      Represents w' (s.after (.addNodeHead i v node)) := by
  cases node with
  | none =>
    have same : s.after (.addNodeHead i v none) = s := store_same s i
    rw [same]
    exact rep.unchanged (f := fun s => (listAddNodeHead s v none).map (·.2)) i rfl
  | some a =>
    have cold := rep.fresh fresh
    obtain ⟨h', added, owned, moves⟩ :=
      listAddNodeHead_spec (m := s.methods i) s.freed (rep.owned i) cold v
    refine rep.acted (f := fun s => (listAddNodeHead s v (some a)).map (·.2)) i
      (congrArg (Option.map (·.2)) added) owned moves fun b member => ?_
    rcases List.mem_cons.mp member with rfl | old
    · exact .inr cold
    · exact .inl old

theorem Represents.addNodeTail (rep : Represents w s) (i : Nat) (v : β) {node : Ptr}
    (fresh : s.Fresh node) :
    ∃ w', w.exec (.addNodeTail i v node) = some w' ∧
      Represents w' (s.after (.addNodeTail i v node)) := by
  cases node with
  | none =>
    have same : s.after (.addNodeTail i v none) = s := by simp [Shelf.after, Shelf.store]
    rw [same]
    exact rep.unchanged (f := fun s => (listAddNodeTail s v none).map (·.2)) i rfl
  | some a =>
    have cold := rep.fresh fresh
    obtain ⟨h', added, owned, moves⟩ :=
      listAddNodeTail_spec (m := s.methods i) s.freed (rep.owned i) cold v
    refine rep.acted (f := fun s => (listAddNodeTail s v (some a)).map (·.2)) i
      (congrArg (Option.map (·.2)) added) owned moves fun b member => ?_
    rw [addrs_append, List.mem_append] at member
    rcases member with old | new
    · exact .inl old
    · rw [List.mem_singleton.mp new]
      exact .inr cold

theorem Represents.insertNode (rep : Represents w s) (i : Nat) {old : Addr} (v : β) (after : Bool)
    {node : Ptr} (fresh : s.Fresh node) (member : old ∈ addrs (s.entries i)) :
    ∃ w', w.exec (.insertNode i old v after node) = some w' ∧
      Represents w' (s.after (.insertNode i old v after node)) := by
  cases node with
  | none =>
    exact rep.unchanged (f := fun s => (listInsertNode s (some old) v after none).map (·.2)) i rfl
  | some b =>
    have cold := rep.fresh fresh
    obtain ⟨xs, u, ys, here⟩ := entry_at member
    have owned := rep.owned i
    have inserted := inserted_at (here ▸ owned.nodup) after (b, v)
    rw [← here] at inserted
    have among : ∀ zs : List (Entry β), (∀ e ∈ zs, e ∈ s.entries i ∨ e = (b, v)) →
        ∀ c ∈ addrs zs, c ∈ addrs (s.entries i) ∨ w.heap c = none := by
      intro zs each c there
      obtain ⟨e, inside, rfl⟩ := List.mem_map.mp there
      rcases each e inside with old | rfl
      · exact .inl (List.mem_map.mpr ⟨e, old, rfl⟩)
      · exact .inr cold
    have place :
      ∃ h', listInsertNode ⟨w.heap, header (s.methods i) (s.entries i), s.freed⟩ (some old) v after
          (some b) =
            some (true,
              ⟨h', header (s.methods i) (Shelf.inserted old after (b, v) (s.entries i)), s.freed⟩) ∧
        Owned h' (Shelf.inserted old after (b, v) (s.entries i)) ∧
        Moves w.heap h' (s.entries i) (Shelf.inserted old after (b, v) (s.entries i)) := by
      rw [inserted]
      rw [here] at owned ⊢
      cases after
      · exact listInsertNode_before s.freed owned cold v
      · exact listInsertNode_after s.freed owned cold v
    obtain ⟨h', added, owned', moves⟩ := place
    refine rep.acted (f := fun s => (listInsertNode s (some old) v after (some b)).map (·.2)) i
      (congrArg (Option.map (·.2)) added) owned' moves (among _ fun e inside => ?_)
    rw [inserted] at inside
    rw [here]
    cases after <;> simp at inside ⊢ <;> tauto

theorem Represents.delNode (rep : Represents w s) (i : Nat) {node : Addr}
    (member : node ∈ addrs (s.entries i)) :
    ∃ w', w.exec (.delNode i node) = some w' ∧ Represents w' (s.after (.delNode i node)) := by
  obtain ⟨xs, v, ys, here⟩ := entry_at member
  have owned := rep.owned i
  rw [here] at owned
  obtain ⟨h', deleted, owned', moves⟩ := listDelNode_spec (m := s.methods i) s.freed owned
  obtain ⟨-, nodupMore, apart⟩ := nodup_parts.mp owned.nodup
  obtain ⟨outside, -⟩ := List.nodup_cons.mp nodupMore
  have others : ∀ zs : List (Entry β), node ∉ addrs zs →
      zs.filter (·.1 ≠ node) = zs ∧ zs.filter (·.1 = node) = [] := by
    intro zs without
    have each : ∀ e ∈ zs, e.1 ≠ node := fun e inside same =>
      without (List.mem_map.mpr ⟨e, inside, same⟩)
    exact ⟨List.filter_eq_self.mpr (by simpa using each), List.filter_eq_nil_iff.mpr
      (by simpa using each)⟩
  obtain ⟨keptOne, noneOne⟩ := others xs fun member => apart node member (by simp)
  obtain ⟨keptTwo, noneTwo⟩ := others ys outside
  have kept : (s.entries i).filter (·.1 ≠ node) = xs ++ ys := by
    rw [here, List.filter_append, List.filter_cons_of_neg (by simp), keptOne, keptTwo]
  have gone : ((s.entries i).filter (·.1 = node)).map (·.2) = [v] := by
    rw [here, List.filter_append, List.filter_cons_of_pos (by simp), noneOne, noneTwo]
    rfl
  rw [← here] at deleted moves
  have after : s.after (.delNode i node) =
      { s.store i (xs ++ ys) with freed := s.freed ++ released (s.methods i) [v] } := by
    simp only [Shelf.after, kept, gone]
  rw [after]
  refine rep.acted (f := fun s => listDelNode s (some node)) i deleted owned' moves fun b there =>
    .inl ?_
  rw [here]
  simp only [addrs_append, addrs_cons, List.mem_append, List.mem_cons] at there ⊢
  tauto

theorem Represents.empty (rep : Represents w s) (i : Nat) :
    ∃ w', w.exec (.empty i) = some w' ∧ Represents w' (s.after (.empty i)) := by
  obtain ⟨h', emptied, moves⟩ := listEmpty_spec (m := s.methods i) s.freed (rep.owned i)
  exact rep.acted (f := listEmpty) i emptied (.nil h') moves (by simp)

theorem Represents.rotateTailToHead (rep : Represents w s) (i : Nat) :
    ∃ w', w.exec (.rotateTailToHead i) = some w' ∧
      Represents w' (s.after (.rotateTailToHead i)) := by
  rcases List.eq_nil_or_concat' (s.entries i) with none_ | ⟨xs, ⟨a, v⟩, here⟩
  · have same : s.after (.rotateTailToHead i) = s.store i (s.entries i) := by
      simp [Shelf.after, none_]
    rw [same, store_same]
    exact rep.unchanged (f := listRotateTailToHead) i
      (by simp [listRotateTailToHead, none_, header])
  · have owned := rep.owned i
    rw [here] at owned
    obtain ⟨h', rotated, owned', moves⟩ :=
      listRotateTailToHead_spec (m := s.methods i) s.freed owned
    rw [← here] at rotated moves
    have after : s.after (.rotateTailToHead i) = s.store i ((a, v) :: xs) := by
      simp [Shelf.after, here]
    rw [after]
    refine rep.acted (f := listRotateTailToHead) i rotated owned' moves fun b there => .inl ?_
    rw [here, addrs_append, List.mem_append]
    rcases List.mem_cons.mp there with rfl | there
    · exact .inr (by simp)
    · exact .inl there

theorem Represents.rotateHeadToTail (rep : Represents w s) (i : Nat) :
    ∃ w', w.exec (.rotateHeadToTail i) = some w' ∧
      Represents w' (s.after (.rotateHeadToTail i)) := by
  cases here : s.entries i with
  | nil =>
    have same : s.after (.rotateHeadToTail i) = s.store i (s.entries i) := by
      simp [Shelf.after, here]
    rw [same, store_same]
    exact rep.unchanged (f := listRotateHeadToTail) i (by simp [listRotateHeadToTail, here, header])
  | cons x xs =>
    obtain ⟨a, v⟩ := x
    have owned := rep.owned i
    rw [here] at owned
    obtain ⟨h', rotated, owned', moves⟩ :=
      listRotateHeadToTail_spec (m := s.methods i) s.freed owned
    rw [← here] at rotated moves
    have after : s.after (.rotateHeadToTail i) = s.store i (xs ++ [(a, v)]) := by
      simp [Shelf.after, here]
    rw [after]
    refine rep.acted (f := listRotateHeadToTail) i rotated owned' moves fun b there => .inl ?_
    rw [addrs_append, List.mem_append] at there
    rw [here, addrs_cons, List.mem_cons]
    rcases there with there | there
    · exact .inr there
    · exact .inl (List.mem_singleton.mp there)

theorem Represents.join (rep : Represents w s) {l o : Nat} (other : l ≠ o) :
    ∃ w', w.exec (.join l o) = some w' ∧ Represents w' (s.after (.join l o)) := by
  obtain ⟨h', joined, owned, moves⟩ := listJoin_spec (m := s.methods l) (k := s.methods o)
    (rep.owned l) (rep.owned o) (rep.apart l o other)
  have same : ∀ b, b ∉ addrs (s.entries l ++ s.entries o) → h' b = w.heap b :=
    fun b outside => moves.frame b outside outside
  have atFirst : (s.after (.join l o)).entries l = s.entries l ++ s.entries o := by
    simp [Shelf.after, Shelf.store, Function.update_of_ne other]
  have atSecond : (s.after (.join l o)).entries o = [] := by simp [Shelf.after, Shelf.store]
  have elsewhere : ∀ i, i ≠ l → i ≠ o → (s.after (.join l o)).entries i = s.entries i := by
    intro i first second
    simp [Shelf.after, Shelf.store, Function.update_of_ne first, Function.update_of_ne second]
  have outside :
      ∀ i, i ≠ l → i ≠ o → ∀ b ∈ addrs (s.entries i), b ∉ addrs (s.entries l ++ s.entries o) := by
    intro i first second b member
    rw [addrs_append, List.mem_append, not_or]
    exact ⟨rep.apart i l first b member, rep.apart i o second b member⟩
  have origin : ∀ i b, b ∈ addrs ((s.after (.join l o)).entries i) →
      ∃ k, b ∈ addrs (s.entries k) ∧ i = if k = o then l else k := by
    intro i b member
    by_cases second : i = o
    · rw [second, atSecond] at member
      cases member
    · by_cases first : i = l
      · rw [first, atFirst, addrs_append, List.mem_append] at member
        rcases member with member | member
        · exact ⟨l, member, by rw [if_neg other, first]⟩
        · exact ⟨o, member, by rw [if_pos rfl, first]⟩
      · rw [elsewhere i first second] at member
        exact ⟨i, member, by rw [if_neg second]⟩
  refine ⟨⟨h', Function.update
    (Function.update w.lists l (header (s.methods l) (s.entries l ++ s.entries o))) o
      (header (s.methods o) []), w.freed⟩, ?_, fun i => ?_, fun i =>
      ?_, fun i j different b here there => ?_,
    fun b (live : h' b ≠ none) => ?_, rep.freed⟩
  · rw [World.exec, rep.lists l, rep.lists o, joined]
    rfl
  · by_cases second : i = o
    · subst second
      rw [atSecond]
      exact Function.update_self ..
    · by_cases first : i = l
      · subst first
        rw [atFirst]
        exact (Function.update_of_ne second ..).trans (Function.update_self ..)
      · rw [elsewhere i first second]
        exact ((Function.update_of_ne second ..).trans (Function.update_of_ne first ..)).trans
          (rep.lists i)
  · by_cases second : i = o
    · rw [second, atSecond]
      exact .nil h'
    · by_cases first : i = l
      · rw [first, atFirst]
        exact owned
      · rw [elsewhere i first second]
        exact (rep.owned i).frame fun b member => same b (outside i first second b member)
  · obtain ⟨k, memberHere, atHere⟩ := origin i b here
    obtain ⟨k', memberThere, atThere⟩ := origin j b there
    have equal : k = k' := by
      by_contra apart
      exact rep.apart k k' apart b memberHere memberThere
    rw [atHere, atThere, equal] at different
    exact different rfl
  · by_cases inside : b ∈ addrs (s.entries l ++ s.entries o)
    · exact ⟨l, by rwa [atFirst]⟩
    · rw [same b inside] at live
      obtain ⟨i, member⟩ := rep.live b live
      rw [addrs_append, List.mem_append, not_or] at inside
      have first : i ≠ l := fun equal => inside.1 (equal ▸ member)
      have second : i ≠ o := fun equal => inside.2 (equal ▸ member)
      exact ⟨i, by rwa [elsewhere i first second]⟩

theorem Represents.setMethods (rep : Represents w s) (i : Nat) (m : Methods β) :
    Represents { w with lists := Function.update w.lists i { w.lists i with toMethods := m } }
      { s with methods := Function.update s.methods i m } := by
  refine { rep with lists := fun j => ?_ }
  by_cases same : j = i
  · subst same
    simp [rep.lists, header]
  · simp [Function.update_of_ne same, rep.lists]

theorem Represents.dup (rep : Represents w s) {orig copy : Nat} {nodes : List Ptr}
    (new : s.entries copy = []) (fresh : ∀ node ∈ nodes, s.Fresh node)
    (distinct : (nodes.filterMap id).Nodup) :
    ∃ w', w.exec (.dup orig copy nodes) = some w' ∧
      Represents w' (s.after (.dup orig copy nodes)) := by
  have cold : ∀ a, some a ∈ nodes → w.heap a = none := fun a member => rep.fresh (fresh _ member)
  have long : (w.lists orig).len = (s.entries orig).length := by rw [rep.lists]; rfl
  obtain ⟨h', copied, owned, moves⟩ := listDup_spec (m := s.methods orig) w.freed
    (rep.owned orig) cold distinct (Nat.lt_succ_self (s.entries orig).length)
  cases made : (copying (s.methods orig) (s.entries orig) nodes []).made with
  | false =>
    obtain ⟨empty, -⟩ := copying_stops made
    rw [empty] at moves
    have same : h' = w.heap := funext fun b => moves.frame b (by simp) (by simp)
    refine ⟨⟨h', w.lists, w.freed ++ (copying (s.methods orig) (s.entries orig) nodes []).freed⟩,
      ?_, ?_⟩
    · rw [World.exec, long, rep.lists orig, copied, made]
      rfl
    · rw [same, rep.freed]
      simp only [Shelf.after, made]
      exact { rep with freed := rfl }
  | true =>
    have renamed := rep.setMethods copy (s.methods orig)
    obtain ⟨zs, entries, taken, -⟩ := copying_made made
    rw [List.nil_append] at entries
    have among :
        ∀ b ∈ addrs (copying (s.methods orig) (s.entries orig) nodes []).entries, w.heap b =
        none := by
      rw [entries]
      intro b member
      refine cold b (List.mem_of_mem_take (i := (s.entries orig).length) ?_)
      rw [← taken]
      obtain ⟨e, inside, rfl⟩ := List.mem_map.mp member
      exact List.mem_map.mpr ⟨e, inside, rfl⟩
    have stored := renamed.stored copy owned (by simpa only [new] using moves)
      (fun b member => .inr (among b member))
      (w.freed ++ (copying (s.methods orig) (s.entries orig) nodes []).freed)
    simp only [Function.update_idem, Function.update_self] at stored
    refine ⟨⟨h', Function.update w.lists copy (header (s.methods orig)
      (copying (s.methods orig) (s.entries orig) nodes []).entries),
      w.freed ++ (copying (s.methods orig) (s.entries orig) nodes []).freed⟩, ?_, ?_⟩
    · rw [World.exec, long, rep.lists orig, copied, made]
      rfl
    · simp only [Shelf.after, made, if_true]
      rw [rep.freed] at stored ⊢
      exact stored

theorem Represents.exec (rep : Represents w s) {op : Op β} (permits : s.Permits op) :
    ∃ w', w.exec op = some w' ∧ Represents w' (s.after op) := by
  cases op with
  | addNodeHead i v node => exact rep.addNodeHead i v permits
  | addNodeTail i v node => exact rep.addNodeTail i v permits
  | insertNode i old v after node => exact rep.insertNode i v after permits.1 permits.2
  | delNode i node => exact rep.delNode i permits
  | empty i => exact rep.empty i
  | rotateTailToHead i => exact rep.rotateTailToHead i
  | rotateHeadToTail i => exact rep.rotateHeadToTail i
  | join l o => exact rep.join permits
  | dup orig copy nodes => exact rep.dup permits.1 permits.2.1 permits.2.2
  | setMethods i m => exact ⟨_, rfl, rep.setMethods i m⟩

theorem Represents.run (rep : Represents w s) {ops : List (Op β)} (permits : s.PermitsAll ops) :
    ∃ w', ops.foldlM World.exec w = some w' ∧ Represents w' (ops.foldl Shelf.after s) := by
  induction ops generalizing w s with
  | nil => exact ⟨w, rfl, rep⟩
  | cons op rest ih =>
    obtain ⟨w₁, first, rep₁⟩ := rep.exec permits.1
    obtain ⟨w', more, rep'⟩ := ih rep₁ permits.2
    exact ⟨w', by simp [first, more], rep'⟩

/-- Before the first node: every list is as `listCreate` gives it. -/
def World.start : World β := ⟨Cells.empty, fun _ => listCreate, []⟩

def Shelf.start : Shelf β := ⟨fun _ => {}, fun _ => [], []⟩

theorem represents_start : Represents (World.start : World β) Shelf.start where
  lists _ := rfl
  owned _ := .nil _
  apart _ _ _ a member := by cases member
  live a live := absurd rfl live
  freed := rfl

/-- No run of permitted operations goes through a null or freed pointer; it leaves each list with
the entries that the plain list operations give, linked both ways, and no node outside a list. -/
theorem runs_represent {ops : List (Op β)} (permits : Shelf.start.PermitsAll ops) :
    ∃ w, ops.foldlM World.exec World.start = some w ∧
      Represents w (ops.foldl Shelf.after Shelf.start) :=
  represents_start.run permits

theorem runs_represent_some : ∃ w,
    [Op.addNodeTail 0 7 (some 1), .addNodeHead 0 5 (some 2), .join 0 1, .delNode 0 1].foldlM
      World.exec World.start = some w ∧
    Represents w
      ([Op.addNodeTail 0 7 (some 1), .addNodeHead 0 5 (some 2), .join 0 1, .delNode 0 1].foldl
        Shelf.after Shelf.start) := by
  refine runs_represent ⟨?_, ?_, ?_, ?_, trivial⟩
  · intro a i _
    simp [Shelf.start]
  · intro a i same
    cases same
    by_cases first : i = 0
    · subst first
      simp [Shelf.start, Shelf.after, Shelf.store]
    · simp [Shelf.start, Shelf.after, Shelf.store, Function.update_of_ne first]
  · exact Nat.zero_ne_one
  · simp [Shelf.Permits, Shelf.start, Shelf.after, Shelf.store, Function.update]

/-- After any such run a node is found by its index from either end, and by its value. -/
theorem lookups_after_run [DecidableEq β] {ops : List (Op β)}
    (permits : Shelf.start.PermitsAll ops) :
    ∃ w s, ops.foldlM World.exec World.start = some w ∧ ops.foldl Shelf.after Shelf.start = s ∧
      ∀ i, (w.lists i).len = (s.entries i).length ∧
        (∀ index : Index, listIndex w.heap (w.lists i) index =
          some ((if index.1 < 0 then (s.entries i).reverse[(-index.1 - 1).toNat]?
            else (s.entries i)[index.1.toNat]?).map (·.1))) ∧
        ∀ fuel key, (s.entries i).length < fuel → listSearchKey fuel w.heap (w.lists i) key =
          some (((s.entries i).find? fun e => matching (s.methods i) e.2 key).map (·.1)) := by
  obtain ⟨w, ran, rep⟩ := runs_represent permits
  refine ⟨w, _, ran, rfl, fun i => ?_⟩
  rw [rep.lists i]
  exact ⟨rfl, listIndex_spec (rep.owned i), fun fuel key enough => listSearchKey_spec
    (rep.owned i) enough key⟩

theorem lookups_after_run_one : ∃ w s,
    [Op.addNodeTail 0 7 (some 1)].foldlM World.exec World.start = some w ∧
    [Op.addNodeTail 0 7 (some 1)].foldl Shelf.after Shelf.start = s ∧
      ∀ i, (w.lists i).len = (s.entries i).length ∧
        (∀ index : Index, listIndex w.heap (w.lists i) index =
          some ((if index.1 < 0 then (s.entries i).reverse[(-index.1 - 1).toNat]?
            else (s.entries i)[index.1.toNat]?).map (·.1))) ∧
        ∀ fuel key, (s.entries i).length < fuel → listSearchKey fuel w.heap (w.lists i) key =
          some (((s.entries i).find? fun e => matching (s.methods i) e.2 key).map (·.1)) :=
  lookups_after_run ⟨fun _ _ _ => by simp [Shelf.start], trivial⟩

end HiMaxGateway.Adlist
