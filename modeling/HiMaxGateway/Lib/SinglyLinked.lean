import HiMaxGateway.Lib.Cells

/-! Singly linked lists in a heap, with a pointer to the first node and one to the last. -/
namespace SinglyLinked
open Cells

structure Node (β : Type) where
  next : Ptr
  value : β

variable {β : Type}

def Linked (h : Heap (Node β)) : List (Entry β) → Ptr → Prop
  | [], _ => True
  | (a, v) :: rest, n => h a = some ⟨front rest n, v⟩ ∧ Linked h rest n

def setNext (h : Heap (Node β)) (p : Ptr) (n : Ptr) : Option (Heap (Node β)) :=
  modify h p fun node => { node with next := n }

variable {h h' : Heap (Node β)} {n : Ptr} {xs ys : List (Entry β)} {a : Addr} {v : β}

theorem setNext_live {node : Node β} (live : h a = some node) (n : Ptr) :
    setNext h (some a) n = some (put h a { node with next := n }) := modify_live live _

theorem setNext_dead (dead : h a = none) (n : Ptr) : setNext h (some a) n = none :=
  modify_dead dead _

theorem linked_append : Linked h (xs ++ ys) n ↔ Linked h xs (front ys n) ∧ Linked h ys n := by
  induction xs with
  | nil => simp [Linked]
  | cons x xs ih =>
    obtain ⟨a, v⟩ := x
    simp only [List.cons_append, Linked, front_append, ih, and_assoc]

theorem linked_singleton : Linked h [(a, v)] n ↔ h a = some ⟨n, v⟩ := by simp [Linked]

/-- What happens elsewhere in the heap does not touch the part. -/
theorem Linked.frame (linked : Linked h xs n) (same : ∀ a ∈ addrs xs, h' a = h a) :
    Linked h' xs n := by
  induction xs with
  | nil => trivial
  | cons x xs ih =>
    obtain ⟨a, v⟩ := x
    exact ⟨(same a (by simp)).trans linked.1, ih linked.2 fun b member => same b (by simp [member])⟩

theorem Linked.live (linked : Linked h xs n) (member : a ∈ addrs xs) : ∃ node, h a = some node := by
  induction xs with
  | nil => cases member
  | cons x xs ih =>
    obtain ⟨b, v⟩ := x
    rcases List.mem_cons.mp member with rfl | member
    · exact ⟨_, linked.1⟩
    · exact ih linked.2 member

theorem Linked.put_fresh (linked : Linked h xs n) (fresh : a ∉ addrs xs) (node : Node β) :
    Linked (put h a node) xs n :=
  linked.frame fun b member => put_other (fun same : b = a => fresh (same ▸ member)) h node

theorem Linked.drop_fresh (linked : Linked h xs n) (fresh : a ∉ addrs xs) :
    Linked (drop h a) xs n :=
  linked.frame fun b member => drop_other (fun same : b = a => fresh (same ▸ member)) h

theorem Linked.node (linked : Linked h (xs ++ (a, v) :: ys) n) : h a = some ⟨front ys n, v⟩ :=
  (linked_append.mp linked).2.1

/-- A new node goes behind the last one of a list that need not be alone in the heap. -/
theorem Linked.snoc {b : Addr} {w : β} (linked : Linked h (xs ++ [(b, w)]) none)
    (nodup : (addrs (xs ++ [(b, w)])).Nodup) (outside : a ∉ addrs (xs ++ [(b, w)])) (v : β) :
    Linked (put (put h a ⟨none, v⟩) b ⟨some a, w⟩) (xs ++ [(b, w), (a, v)]) none := by
  obtain ⟨-, -, apart⟩ := nodup_parts.mp nodup
  have outsideB : b ∉ addrs xs := fun member => apart b member (by simp)
  have outsideA : a ∉ addrs xs := fun member => outside (by simp [member])
  have other : a ≠ b := fun same => outside (by simp [same])
  refine linked_append.mpr ⟨?_, put_self .., ?_, trivial⟩
  · exact ((linked_append.mp linked).1.put_fresh outsideA _).put_fresh outsideB _
  · rw [put_other other, put_self]
    rfl

theorem Linked.unique (one : Linked h xs none) (two : Linked h ys none)
    (same : front xs none = front ys none) : xs = ys := by
  induction xs generalizing ys with
  | nil => exact (front_eq_none.mp same.symm).symm
  | cons x xs ih =>
    obtain ⟨a, v⟩ := x
    obtain ⟨w, rest, rfl⟩ := front_eq_some same.symm
    obtain ⟨hereOne, restOne⟩ := one
    obtain ⟨hereTwo, restTwo⟩ := two
    rw [hereOne] at hereTwo
    simp only [Option.some.injEq, Node.mk.injEq] at hereTwo
    rw [ih restOne restTwo hereTwo.1, hereTwo.2]

/-- A whole list, and nothing else, is in the heap. -/
structure Fills (h : Heap (Node β)) (xs : List (Entry β)) : Prop where
  linked : Linked h xs none
  nodup : (addrs xs).Nodup
  live : ∀ b, h b ≠ none → b ∈ addrs xs

theorem Fills.nil : Fills (empty : Heap (Node β)) [] where
  linked := trivial
  nodup := .nil
  live _ live := absurd rfl live

theorem Fills.not_fresh (fills : Fills h xs) (fresh : h a = none) : a ∉ addrs xs := by
  intro member
  obtain ⟨node, live⟩ := fills.linked.live member
  rw [fresh] at live
  cases live

/-- The first node of an empty list. -/
theorem Fills.single (fills : Fills h []) (a : Addr) (v : β) :
    Fills (put h a ⟨none, v⟩) [(a, v)] where
  linked := linked_singleton.mpr (put_self ..)
  nodup := by simp
  live b live := by
    by_cases here : b = a
    · simp [here]
    · rw [put_other here] at live
      cases fills.live b live

/-- A new node goes behind a node of the list, in front of what followed it. -/
theorem Fills.insert {b : Addr} {w : β} (fills : Fills h (xs ++ (b, w) :: ys)) (fresh : h a = none)
    (v : β) :
    setNext (put h a ⟨none, v⟩) (some b) (some a) =
        some (put (put h a ⟨none, v⟩) b ⟨some a, w⟩) ∧
      setNext (put (put h a ⟨none, v⟩) b ⟨some a, w⟩) (some a) (front ys none) =
        some (put (put (put h a ⟨none, v⟩) b ⟨some a, w⟩) a ⟨front ys none, v⟩) ∧
      Fills (put (put (put h a ⟨none, v⟩) b ⟨some a, w⟩) a ⟨front ys none, v⟩)
        (xs ++ (b, w) :: (a, v) :: ys) := by
  have outside := fills.not_fresh fresh
  simp only [addrs_append, addrs_cons, List.mem_append, List.mem_cons, not_or] at outside
  obtain ⟨outsideOne, other, outsideTwo⟩ := outside
  obtain ⟨nodupOne, nodupMore, apart⟩ := nodup_parts.mp fills.nodup
  obtain ⟨outsideB, nodupTwo⟩ := List.nodup_cons.mp nodupMore
  have outsideB' : b ∉ addrs xs := fun member => apart b member (by simp)
  obtain ⟨one, here, two⟩ := linked_append.mp fills.linked
  have atB : put h a ⟨none, v⟩ b = some ⟨front ys none, w⟩ := by
    rw [put_other (Ne.symm other), here]
  have atA : put (put h a ⟨none, v⟩) b ⟨some a, w⟩ a = some ⟨none, v⟩ := by
    rw [put_other other, put_self]
  refine ⟨setNext_live atB _, setNext_live atA _, linked_append.mpr ⟨?_, ?_, ?_, ?_⟩, ?_, ?_⟩
  · exact ((one.put_fresh outsideOne _).put_fresh outsideB' _).put_fresh outsideOne _
  · rw [put_other (Ne.symm other), put_self]
    rfl
  · exact put_self ..
  · exact ((two.put_fresh outsideTwo _).put_fresh outsideB _).put_fresh outsideTwo _
  · refine nodup_parts.mpr ⟨nodupOne, ?_, fun c member there => ?_⟩
    · simp only [addrs_cons, List.nodup_cons, List.mem_cons, not_or]
      exact ⟨⟨Ne.symm other, outsideB⟩, outsideTwo, nodupTwo⟩
    · simp only [addrs_cons, List.mem_cons] at there
      rcases there with rfl | rfl | there
      · exact outsideB' member
      · exact outsideOne member
      · exact apart c member (by simp [there])
  · intro c live
    simp only [addrs_append, addrs_cons, List.mem_append, List.mem_cons]
    by_cases first : c = a
    · exact .inr (.inr (.inl first))
    · by_cases second : c = b
      · exact .inr (.inl second)
      · rw [put_other first, put_other second, put_other first] at live
        have member := fills.live c live
        simp only [addrs_append, addrs_cons, List.mem_append, List.mem_cons] at member
        tauto

/-- A new node goes behind the last one. -/
theorem Fills.snoc {b : Addr} {w : β} (fills : Fills h (xs ++ [(b, w)])) (fresh : h a = none)
    (v : β) :
    setNext (put h a ⟨none, v⟩) (some b) (some a) =
        some (put (put h a ⟨none, v⟩) b ⟨some a, w⟩) ∧
      Fills (put (put h a ⟨none, v⟩) b ⟨some a, w⟩) (xs ++ [(b, w), (a, v)]) := by
  obtain ⟨stored, -, fills'⟩ := fills.insert fresh v
  refine ⟨stored, ?_⟩
  have outside := fills.not_fresh fresh
  have other : a ≠ b := fun same => outside (by simp [same])
  rw [front_nil] at fills'
  have same : put (put (put h a ⟨none, v⟩) b ⟨some a, w⟩) a ⟨none, v⟩ =
      put (put h a ⟨none, v⟩) b ⟨some a, w⟩ := by
    funext c
    by_cases here : c = a
    · rw [here, put_self, put_other other, put_self]
    · rw [put_other here]
  rwa [same] at fills'

/-- A new node goes in front of the list. -/
theorem Fills.cons (fills : Fills h xs) (fresh : h a = none) (v : β) :
    setNext (put h a ⟨none, v⟩) (some a) (front xs none) =
        some (put (put h a ⟨none, v⟩) a ⟨front xs none, v⟩) ∧
      Fills (put (put h a ⟨none, v⟩) a ⟨front xs none, v⟩) ((a, v) :: xs) := by
  have outside := fills.not_fresh fresh
  refine ⟨setNext_live (put_self ..) _, ⟨put_self .., ?_⟩, List.nodup_cons.mpr
    ⟨outside, fills.nodup⟩, ?_⟩
  · exact (fills.linked.put_fresh outside _).put_fresh outside _
  · intro c live
    by_cases first : c = a
    · simp [first]
    · rw [put_other first, put_other first] at live
      simp [fills.live c live]

/-- The first node goes. -/
theorem Fills.tail (fills : Fills h ((a, v) :: xs)) : h a = some ⟨front xs none, v⟩ ∧
    free h (some a) = some (drop h a) ∧ Fills (drop h a) xs := by
  obtain ⟨here, rest⟩ := fills.linked
  obtain ⟨outside, nodup⟩ := List.nodup_cons.mp fills.nodup
  refine ⟨here, free_live here, rest.drop_fresh outside, nodup, fun b live => ?_⟩
  have other : b ≠ a := by
    rintro rfl
    exact live (drop_self ..)
  rw [drop_other other] at live
  exact List.mem_of_ne_of_mem other (fills.live b live)

/-- A node behind another one goes. -/
theorem Fills.remove {b : Addr} {w : β} (fills : Fills h (xs ++ (b, w) :: (a, v) :: ys)) :
    h a = some ⟨front ys none, v⟩ ∧
      setNext h (some b) (front ys none) = some (put h b ⟨front ys none, w⟩) ∧
      free (put h b ⟨front ys none, w⟩) (some a) = some (drop (put h b ⟨front ys none, w⟩) a) ∧
      Fills (drop (put h b ⟨front ys none, w⟩) a) (xs ++ (b, w) :: ys) := by
  obtain ⟨nodupOne, nodupMore, apart⟩ := nodup_parts.mp fills.nodup
  simp only [addrs_cons, List.nodup_cons, List.mem_cons, not_or] at nodupMore
  obtain ⟨⟨other, outsideB⟩, outsideA, nodupTwo⟩ := nodupMore
  have outsideB' : b ∉ addrs xs := fun member => apart b member (by simp)
  have outsideA' : a ∉ addrs xs := fun member => apart a member (by simp)
  obtain ⟨one, here, at_, two⟩ := linked_append.mp fills.linked
  have live : put h b ⟨front ys none, w⟩ a = some ⟨front ys none, v⟩ := by
    rw [put_other (Ne.symm other), at_]
  refine ⟨at_, setNext_live here _, free_live live, linked_append.mpr ⟨?_, ?_, ?_⟩, ?_,
    fun c live => ?_⟩
  · exact (one.put_fresh outsideB' _).drop_fresh outsideA'
  · rw [drop_other other, put_self]
  · exact (two.put_fresh outsideB _).drop_fresh outsideA
  · refine nodup_parts.mpr
      ⟨nodupOne, List.nodup_cons.mpr ⟨outsideB, nodupTwo⟩, fun c member there => ?_⟩
    simp only [addrs_cons, List.mem_cons] at there
    rcases there with rfl | there
    · exact outsideB' member
    · exact apart c member (by simp [there])
  · have first : c ≠ a := by
      rintro rfl
      exact live (drop_self ..)
    rw [drop_other first] at live
    simp only [addrs_append, addrs_cons, List.mem_append, List.mem_cons]
    by_cases second : c = b
    · exact .inr (.inl second)
    · rw [put_other second] at live
      have member := fills.live c live
      simp only [addrs_append, addrs_cons, List.mem_append, List.mem_cons] at member
      tauto

end SinglyLinked
