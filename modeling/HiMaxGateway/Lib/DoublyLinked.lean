import HiMaxGateway.Lib.Cells

/-! Doubly linked lists in a heap. A part of a list is described by its entries and by the
pointers that lead out of it on both sides. -/
namespace DoublyLinked
open Cells

structure Node (β : Type) where
  prev : Ptr
  next : Ptr
  value : β

variable {β : Type}

def Linked (h : Heap (Node β)) : Ptr → List (Entry β) → Ptr → Prop
  | _, [], _ => True
  | p, (a, v) :: rest, n => h a = some ⟨p, front rest n, v⟩ ∧ Linked h (some a) rest n

def setNext (h : Heap (Node β)) (p : Ptr) (n : Ptr) : Option (Heap (Node β)) :=
  modify h p fun node => { node with next := n }

def setPrev (h : Heap (Node β)) (p : Ptr) (n : Ptr) : Option (Heap (Node β)) :=
  modify h p fun node => { node with prev := n }

/-- The node in front, if there is one, points to the given neighbour. -/
def linkNext (h : Heap (Node β)) (p : Ptr) (n : Ptr) : Option (Heap (Node β)) :=
  if p = none then some h else setNext h p n

def linkPrev (h : Heap (Node β)) (p : Ptr) (n : Ptr) : Option (Heap (Node β)) :=
  if p = none then some h else setPrev h p n

variable {h h' : Heap (Node β)} {p n : Ptr} {xs ys : List (Entry β)} {a : Addr} {v : β}

theorem setNext_live {node : Node β} (live : h a = some node) (n : Ptr) :
    setNext h (some a) n = some (put h a { node with next := n }) := modify_live live _

theorem setPrev_live {node : Node β} (live : h a = some node) (n : Ptr) :
    setPrev h (some a) n = some (put h a { node with prev := n }) := modify_live live _

theorem linked_append : Linked h p (xs ++ ys) n ↔
    Linked h p xs (front ys n) ∧ Linked h (back p xs) ys n := by
  induction xs generalizing p with
  | nil => simp [Linked, back]
  | cons x xs ih =>
    obtain ⟨a, v⟩ := x
    simp only [List.cons_append, Linked, back, front_append, ih, and_assoc]

theorem linked_singleton : Linked h p [(a, v)] n ↔ h a = some ⟨p, n, v⟩ := by
  simp [Linked, front]

/-- What happens elsewhere in the heap does not touch the part. -/
theorem Linked.frame (linked : Linked h p xs n) (same : ∀ a ∈ addrs xs, h' a = h a) :
    Linked h' p xs n := by
  induction xs generalizing p with
  | nil => trivial
  | cons x xs ih =>
    obtain ⟨a, v⟩ := x
    exact ⟨(same a (by simp)).trans linked.1, ih linked.2 fun b member => same b (by simp [member])⟩

theorem Linked.live (linked : Linked h p xs n) (member : a ∈ addrs xs) :
    ∃ node, h a = some node := by
  induction xs generalizing p with
  | nil => cases member
  | cons x xs ih =>
    obtain ⟨b, v⟩ := x
    rcases List.mem_cons.mp member with rfl | member
    · exact ⟨_, linked.1⟩
    · exact ih linked.2 member

theorem Linked.put_fresh (linked : Linked h p xs n) (fresh : a ∉ addrs xs) (node : Node β) :
    Linked (put h a node) p xs n :=
  linked.frame fun b member => put_other (fun same : b = a => fresh (same ▸ member)) h node

theorem Linked.drop_fresh (linked : Linked h p xs n) (fresh : a ∉ addrs xs) :
    Linked (drop h a) p xs n :=
  linked.frame fun b member => drop_other (fun same : b = a => fresh (same ▸ member)) h

/-- The node at a place of a list points to its neighbours. -/
theorem Linked.node (linked : Linked h p (xs ++ (a, v) :: ys) n) :
    h a = some ⟨back p xs, front ys n, v⟩ :=
  (linked_append.mp linked).2.1

/-- The last node of the part is led to another neighbour. -/
theorem Linked.setNext (linked : Linked h p (xs ++ [(a, v)]) n)
    (nodup : (addrs (xs ++ [(a, v)])).Nodup) (n' : Ptr) :
    setNext h (some a) n' = some (put h a ⟨back p xs, n', v⟩) ∧
      Linked (put h a ⟨back p xs, n', v⟩) p (xs ++ [(a, v)]) n' := by
  obtain ⟨before, last⟩ := linked_append.mp linked
  rw [linked_singleton] at last
  have outside : a ∉ addrs xs := by
    rw [addrs_append, List.nodup_append] at nodup
    exact fun member => nodup.2.2 a member a (by simp) rfl
  refine ⟨setNext_live last _, linked_append.mpr ⟨before.put_fresh outside _, ?_⟩⟩
  rw [linked_singleton, put_self]

/-- The first node of the part is led to another neighbour. -/
theorem Linked.setPrev (linked : Linked h p ((a, v) :: xs) n) (nodup : (addrs ((a, v) :: xs)).Nodup)
    (p' : Ptr) : setPrev h (some a) p' = some (put h a ⟨p', front xs n, v⟩) ∧
      Linked (put h a ⟨p', front xs n, v⟩) p' ((a, v) :: xs) n := by
  have outside : a ∉ addrs xs := (List.nodup_cons.mp nodup).1
  exact ⟨setPrev_live linked.1 _, put_self .., linked.2.put_fresh outside _⟩

theorem Linked.linkNext (linked : Linked h none xs n) (nodup : (addrs xs).Nodup) (n' : Ptr) :
    ∃ h', linkNext h (back none xs) n' = some h' ∧ Linked h' none xs n' ∧
      ∀ b, b ∉ addrs xs → h' b = h b := by
  rcases List.eq_nil_or_concat' xs with rfl | ⟨before, ⟨a, v⟩, rfl⟩
  · exact ⟨h, rfl, trivial, fun _ _ => rfl⟩
  · obtain ⟨stored, relinked⟩ := linked.setNext nodup n'
    refine ⟨_, ?_, relinked, fun b outside => put_other (fun same : b = a => outside ?_) h _⟩
    · rw [back_append]
      exact stored
    · simp [same]

theorem Linked.linkPrev (linked : Linked h p xs none) (nodup : (addrs xs).Nodup) (p' : Ptr) :
    ∃ h', linkPrev h (front xs none) p' = some h' ∧ Linked h' p' xs none ∧
      ∀ b, b ∉ addrs xs → h' b = h b := by
  cases xs with
  | nil => exact ⟨h, rfl, trivial, fun _ _ => rfl⟩
  | cons x rest =>
    obtain ⟨a, v⟩ := x
    obtain ⟨stored, relinked⟩ := linked.setPrev nodup p'
    refine ⟨_, stored, relinked, fun b outside => put_other (fun same : b = a => outside ?_) h _⟩
    simp [same]

/-- A whole list: its nodes are linked and no two of them share an address. -/
structure Owned (h : Heap (Node β)) (xs : List (Entry β)) : Prop where
  linked : Linked h none xs none
  nodup : (addrs xs).Nodup

theorem Owned.nil (h : Heap (Node β)) : Owned h [] where
  linked := trivial
  nodup := .nil

theorem Owned.frame (owned : Owned h xs) (same : ∀ a ∈ addrs xs, h' a = h a) : Owned h' xs where
  linked := owned.linked.frame same
  nodup := owned.nodup

theorem Owned.live (owned : Owned h xs) (member : a ∈ addrs xs) : ∃ node, h a = some node :=
  owned.linked.live member

theorem Owned.not_fresh (owned : Owned h xs) (fresh : h a = none) : a ∉ addrs xs := by
  intro member
  obtain ⟨node, live⟩ := owned.live member
  rw [fresh] at live
  cases live

/-- Two parts are joined into one. -/
theorem Owned.append (one : Linked h none xs (front ys none))
    (two : Linked h (back none xs) ys none) (nodup : (addrs (xs ++ ys)).Nodup) :
    Owned h (xs ++ ys) where
  linked := linked_append.mpr ⟨one, two⟩
  nodup := nodup

/-- The list with a new entry at some place. The heap has the new node and the two relinked
neighbours. -/
theorem Owned.insert (owned : Owned h (xs ++ ys)) (fresh : h a = none) (v : β) :
    ∃ h₁ h', DoublyLinked.linkNext (put h a ⟨back none xs, front ys none, v⟩) (back none xs)
      (some a) = some h₁ ∧ DoublyLinked.linkPrev h₁ (front ys none) (some a) = some h' ∧
      Owned h' (xs ++ (a, v) :: ys) ∧ Moves h h' (xs ++ ys) (xs ++ (a, v) :: ys) := by
  obtain ⟨one, two⟩ := linked_append.mp owned.linked
  obtain ⟨nodupOne, nodupTwo, apart⟩ := nodup_parts.mp owned.nodup
  have outside := owned.not_fresh fresh
  rw [addrs_append, List.mem_append, not_or] at outside
  obtain ⟨h₁, storedOne, linkedOne, frameOne⟩ :=
    (one.put_fresh outside.1 ⟨back none xs, front ys none, v⟩).linkNext nodupOne (some a)
  have keptTwo : Linked h₁ (back none xs) ys none := two.frame fun b member => by
    rw [frameOne b fun other => apart b other member]
    exact put_other (fun same : b = a => outside.2 (same ▸ member)) h _
  obtain ⟨h', storedTwo, linkedTwo, frameTwo⟩ := keptTwo.linkPrev nodupTwo (some a)
  have node : h' a = some ⟨back none xs, front ys none, v⟩ := by
    rw [frameTwo a outside.2, frameOne a outside.1, put_self]
  have nodup : (addrs (xs ++ (a, v) :: ys)).Nodup := by
    refine nodup_parts.mpr
      ⟨nodupOne, List.nodup_cons.mpr ⟨outside.2, nodupTwo⟩, fun b member other => ?_⟩
    rcases List.mem_cons.mp other with rfl | other
    · exact outside.1 member
    · exact apart b member other
  refine ⟨h₁, h', storedOne, storedTwo, .append ?_ ⟨node, linkedTwo⟩ nodup, ?_, ?_⟩
  · exact linkedOne.frame fun b member => frameTwo b (apart b member)
  · intro b old new
    simp only [addrs_append, addrs_cons, List.mem_append, List.mem_cons, not_or] at old new
    rw [frameTwo b old.2, frameOne b old.1, put_other new.2.1]
  · intro b old new
    simp only [addrs_append, addrs_cons, List.mem_append, List.mem_cons, not_or] at old new
    exact absurd old (by simp [new.1, new.2.2])

/-- The list without one of its entries. The heap has the two relinked neighbours. -/
theorem Owned.remove (owned : Owned h (xs ++ (a, v) :: ys)) :
    ∃ h₁ h₂, DoublyLinked.linkNext h (back none xs) (front ys none) = some h₁ ∧
      DoublyLinked.linkPrev h₁ (front ys none) (back none xs) = some h₂ ∧
      free h₂ (some a) = some (drop h₂ a) ∧
      Owned (drop h₂ a) (xs ++ ys) ∧ Moves h (drop h₂ a) (xs ++ (a, v) :: ys) (xs ++ ys) := by
  obtain ⟨one, here, two⟩ := linked_append.mp owned.linked
  obtain ⟨nodupOne, nodupMore, apart⟩ := nodup_parts.mp owned.nodup
  obtain ⟨outsideTwo, nodupTwo⟩ := List.nodup_cons.mp nodupMore
  have outsideOne : a ∉ addrs xs := fun member => apart a member (by simp)
  have apartTwo : ∀ b ∈ addrs xs, b ∉ addrs ys :=
    fun b member other => apart b member (by simp [other])
  obtain ⟨h₁, storedOne, linkedOne, frameOne⟩ := one.linkNext nodupOne (front ys none)
  have keptTwo : Linked h₁ (some a) ys none :=
    two.frame fun b member => frameOne b fun other => apartTwo b other member
  obtain ⟨h₂, storedTwo, linkedTwo, frameTwo⟩ := keptTwo.linkPrev nodupTwo (back none xs)
  have live : h₂ a = some ⟨back none xs, front ys none, v⟩ := by
    rw [frameTwo a outsideTwo, frameOne a outsideOne, here]
  have keptOne : Linked h₂ none xs (front ys none) :=
    linkedOne.frame fun b member => frameTwo b (apartTwo b member)
  have nodup : (addrs (xs ++ ys)).Nodup := nodup_parts.mpr ⟨nodupOne, nodupTwo, apartTwo⟩
  refine ⟨h₁, h₂, storedOne, storedTwo, free_live live,
    .append (keptOne.drop_fresh outsideOne) (linkedTwo.drop_fresh outsideTwo) nodup, ?_, ?_⟩
  · intro b old new
    simp only [addrs_append, addrs_cons, List.mem_append, List.mem_cons, not_or] at old new
    rw [drop_other old.2.1, frameTwo b new.2, frameOne b new.1]
  · intro b old new
    simp only [addrs_append, addrs_cons, List.mem_append, List.mem_cons, not_or] at old new
    rcases old with member | rfl | member
    · exact absurd member new.1
    · exact drop_self ..
    · exact absurd member new.2

end DoublyLinked
