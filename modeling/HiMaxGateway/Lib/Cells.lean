import Mathlib.Logic.Function.Basic
import Mathlib.Data.List.Nodup

/-! Cells that a C program allocates one by one and reaches through pointers. A run that
goes through a null pointer, or through a pointer to a cell that was freed, gives nothing. -/
namespace Cells

abbrev Addr := Nat
/-- `none` is the null pointer. -/
abbrev Ptr := Option Addr
/-- The live cells. -/
abbrev Heap (α : Type) := Addr → Option α

variable {α : Type} {h h' : Heap α} {a b : Addr} {cell : α}

def empty : Heap α := fun _ => none

def put (h : Heap α) (a : Addr) (cell : α) : Heap α := Function.update h a (some cell)

def drop (h : Heap α) (a : Addr) : Heap α := Function.update h a none

def load (h : Heap α) (p : Ptr) : Option α := p.bind h

def modify (h : Heap α) (p : Ptr) (f : α → α) : Option (Heap α) := do
  let a ← p
  let cell ← h a
  pure (put h a (f cell))

def free (h : Heap α) (p : Ptr) : Option (Heap α) :=
  match p with
  | none => some h
  | some a => (h a).map fun _ => drop h a

@[simp] theorem put_self (h : Heap α) (a : Addr) (cell : α) : put h a cell a = some cell :=
  Function.update_self ..

theorem put_other (other : b ≠ a) (h : Heap α) (cell : α) : put h a cell b = h b :=
  Function.update_of_ne other ..

@[simp] theorem drop_self (h : Heap α) (a : Addr) : drop h a a = none := Function.update_self ..

theorem drop_other (other : b ≠ a) (h : Heap α) : drop h a b = h b := Function.update_of_ne other ..

@[simp] theorem load_some (h : Heap α) (a : Addr) : load h (some a) = h a := rfl

theorem modify_live (live : h a = some cell) (f : α → α) :
    modify h (some a) f = some (put h a (f cell)) := by
  simp [modify, live]

theorem modify_dead (dead : h a = none) (f : α → α) : modify h (some a) f = none := by
  simp [modify, dead]

theorem free_live (live : h a = some cell) : free h (some a) = some (drop h a) := by
  simp [free, live]

/-- A list in the heap is described by its entries: the address and the value of each node. -/
abbrev Entry (β : Type) := Addr × β

variable {β : Type}

def addrs (xs : List (Entry β)) : List Addr := xs.map (·.1)

/-- The first node of the part, or what comes behind it. -/
def front : List (Entry β) → Ptr → Ptr
  | [], n => n
  | (a, _) :: _, _ => some a

/-- The last node of the part, or what comes before it. -/
def back : Ptr → List (Entry β) → Ptr
  | p, [] => p
  | _, (a, _) :: rest => back (some a) rest

variable {p n : Ptr} {xs ys : List (Entry β)} {v : β}

@[simp] theorem addrs_nil : addrs ([] : List (Entry β)) = [] := rfl

@[simp] theorem addrs_cons : addrs ((a, v) :: xs) = a :: addrs xs := rfl

@[simp] theorem addrs_append : addrs (xs ++ ys) = addrs xs ++ addrs ys := List.map_append

theorem entry_at (member : a ∈ addrs xs) :
    ∃ before v after, xs = before ++ (a, v) :: after := by
  obtain ⟨⟨b, v⟩, inside, rfl⟩ := List.mem_map.mp member
  obtain ⟨before, after, rfl⟩ := List.append_of_mem inside
  exact ⟨before, v, after, rfl⟩

@[simp] theorem front_nil (n : Ptr) : front ([] : List (Entry β)) n = n := rfl

@[simp] theorem front_cons (n : Ptr) : front ((a, v) :: xs) n = some a := rfl

@[simp] theorem back_nil (p : Ptr) : back p ([] : List (Entry β)) = p := rfl

@[simp] theorem back_cons (p : Ptr) : back p ((a, v) :: xs) = back (some a) xs := rfl

@[simp] theorem front_append : front (xs ++ ys) n = front xs (front ys n) := by
  cases xs <;> rfl

@[simp] theorem back_append : back p (xs ++ ys) = back (back p xs) ys := by
  induction xs generalizing p with
  | nil => rfl
  | cons x xs ih => exact ih

theorem front_eq_some (first : front xs none = some a) : ∃ v rest, xs = (a, v) :: rest := by
  cases xs with
  | nil => cases first
  | cons x rest =>
    obtain ⟨b, v⟩ := x
    cases first
    exact ⟨v, rest, rfl⟩

theorem front_eq_none : front xs none = none ↔ xs = [] := by
  cases xs <;> simp [front]

theorem back_eq_some (last : back none xs = some a) : ∃ before v, xs = before ++ [(a, v)] := by
  rcases List.eq_nil_or_concat' xs with rfl | ⟨before, ⟨b, v⟩, rfl⟩
  · cases last
  · rw [back_append] at last
    cases last
    exact ⟨before, v, rfl⟩

theorem back_eq_none : back none xs = none ↔ xs = [] := by
  constructor
  · intro last
    rcases List.eq_nil_or_concat' xs with rfl | ⟨before, ⟨b, v⟩, rfl⟩
    · rfl
    · rw [back_append] at last
      cases last
  · rintro rfl
    rfl

theorem back_mem (last : back none xs = some a) : a ∈ addrs xs := by
  obtain ⟨before, v, rfl⟩ := back_eq_some last
  simp

theorem back_behind (p : Ptr) (outside : a ∉ addrs ys) :
    back p (xs ++ (a, v) :: ys) = some a ↔ ys = [] := by
  rcases List.eq_nil_or_concat' ys with rfl | ⟨before, ⟨b, w⟩, rfl⟩
  · simp
  · have other : b ≠ a := fun same => outside (by simp [same])
    simp [other]

theorem front_outside (outside : a ∉ addrs xs) : front xs (some a) = some a ↔ xs = [] := by
  cases xs with
  | nil => simp
  | cons x rest =>
    obtain ⟨b, v⟩ := x
    have other : b ≠ a := fun same => outside (by simp [same])
    simp [other]

theorem back_outside (outside : a ∉ addrs xs) : back (some a) xs = some a ↔ xs = [] := by
  rcases List.eq_nil_or_concat' xs with rfl | ⟨before, ⟨b, v⟩, rfl⟩
  · simp
  · have other : b ≠ a := fun same => outside (by simp [same])
    simp [other]

theorem front_inner (inner : xs ≠ []) (n n' : Ptr) : front xs n = front xs n' := by
  cases xs with
  | nil => contradiction
  | cons x rest => rfl

theorem back_inner (inner : xs ≠ []) (p p' : Ptr) : back p xs = back p' xs := by
  cases xs with
  | nil => contradiction
  | cons x rest => rfl

theorem front_if (xs : List (Entry β)) (n n' : Ptr) :
    (if back none xs = none then n else front xs n') = front xs n := by
  cases xs with
  | nil => simp
  | cons x rest => rw [if_neg (mt back_eq_none.mp (by simp))]; rfl

theorem back_if (xs : List (Entry β)) (p p' : Ptr) :
    (if front xs none = none then p else back p' xs) = back p xs := by
  cases xs with
  | nil => simp
  | cons x rest => rw [if_neg (mt front_eq_none.mp (by simp))]; rfl

theorem nodup_parts : (addrs (xs ++ ys)).Nodup ↔
    (addrs xs).Nodup ∧ (addrs ys).Nodup ∧ ∀ a ∈ addrs xs, a ∉ addrs ys := by
  rw [addrs_append, List.nodup_append]
  refine and_congr_right fun _ => and_congr_right fun _ => forall₂_congr fun a _ => ?_
  exact ⟨fun apart other => apart a other rfl, fun apart b other same => apart (same ▸ other)⟩

/-- What became of the heap where one list went over into another: all cells of neither are
as they were, and what is no longer in the list is freed. -/
structure Moves (h h' : Heap α) (xs ys : List (Entry β)) : Prop where
  frame : ∀ b, b ∉ addrs xs → b ∉ addrs ys → h' b = h b
  freed : ∀ b, b ∈ addrs xs → b ∉ addrs ys → h' b = none

theorem Moves.refl (h : Heap α) (xs : List (Entry β)) : Moves h h xs xs where
  frame _ _ _ := rfl
  freed _ member outside := absurd member outside

/-- One step after another, where the nodes that the first one added were free before. -/
theorem Moves.trans {h'' : Heap α} {zs : List (Entry β)} (one : Moves h h' xs ys)
    (two : Moves h' h'' ys zs) (added : ∀ b ∈ addrs ys, b ∉ addrs xs → h b = none) :
    Moves h h'' xs zs where
  frame b old new := by
    by_cases between : b ∈ addrs ys
    · rw [two.freed b between new, added b between old]
    · rw [two.frame b between new, one.frame b old between]
  freed b old new := by
    by_cases between : b ∈ addrs ys
    · exact two.freed b between new
    · rw [two.frame b between new, one.freed b old between]

end Cells
