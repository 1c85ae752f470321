import HiMaxGateway.Adlist

/-! What the operations of the list do to a list of entries. -/
namespace HiMaxGateway.Adlist
open Cells DoublyLinked

variable {β : Type} {h : Heap (Node β)} {m : Methods β} {xs ys : List (Entry β)} {a b : Addr}
  {v w : β} (freed : List β)

/-- The header of a list with these entries. -/
def header (m : Methods β) (xs : List (Entry β)) : ListT β :=
  { m with head := front xs none, tail := back none xs, len := xs.length }

@[simp] theorem released_nil (m : Methods β) : released m ([] : List β) = [] := by simp [released]

theorem released_append (m : Methods β) (vs ws : List β) :
    released m (vs ++ ws) = released m vs ++ released m ws := by
  cases free : m.freeMethod <;> simp [released, free]

theorem released_cons (m : Methods β) (v : β) (vs : List β) :
    released m (v :: vs) = released m [v] ++ released m vs := released_append m [v] vs

@[simp] theorem header_toMethods (m : Methods β) (xs : List (Entry β)) :
    (header m xs).toMethods = m := rfl

@[simp] theorem header_nil (m : Methods β) : header m ([] : List (Entry β)) = { m with } := rfl

theorem listAddNodeHead_fails (s : State β) (v : β) : listAddNodeHead s v none = some (false, s) :=
  rfl

theorem listAddNodeTail_fails (s : State β) (v : β) : listAddNodeTail s v none = some (false, s) :=
  rfl

theorem listInsertNode_fails (s : State β) (old : Ptr) (v : β) (after : Bool) :
    listInsertNode s old v after none = some (false, s) := rfl

theorem listAddNodeHead_spec (owned : Owned h xs) (fresh : h a = none) (v : β) :
    ∃ h', listAddNodeHead ⟨h, header m xs, freed⟩ v (some a) =
      some (true, ⟨h', header m ((a, v) :: xs), freed⟩) ∧ Owned h' ((a, v) :: xs) ∧
      Moves h h' xs ((a, v) :: xs) := by
  have outside := owned.not_fresh fresh
  cases xs with
  | nil =>
    refine ⟨put h a ⟨none, none, v⟩, rfl, ⟨⟨put_self .., trivial⟩, by simp⟩, ?_, ?_⟩
    · exact fun b _ other => put_other (by simpa using other) h _
    · simp
  | cons x xs =>
    obtain ⟨b, w⟩ := x
    have kept := owned.linked.put_fresh outside ⟨none, some b, v⟩
    obtain ⟨stored, linked⟩ := kept.setPrev owned.nodup (some a)
    have other : a ≠ b := fun same => outside (by simp [same])
    refine ⟨_, ?_, ⟨⟨?_, linked⟩, List.nodup_cons.mpr ⟨outside, owned.nodup⟩⟩, ?_, ?_⟩
    · simp [listAddNodeHead, header, stored]
    · rw [put_other other, put_self]
      rfl
    · intro c old new
      rw [put_other (fun same => old (by simp [same])), put_other
        (fun same => new (by simp [same]))]
    · exact fun c old new => absurd (List.mem_cons_of_mem _ old) new

theorem listAddNodeTail_spec (owned : Owned h xs) (fresh : h a = none) (v : β) :
    ∃ h', listAddNodeTail ⟨h, header m xs, freed⟩ v (some a) =
      some (true, ⟨h', header m (xs ++ [(a, v)]), freed⟩) ∧ Owned h' (xs ++ [(a, v)]) ∧
      Moves h h' xs (xs ++ [(a, v)]) := by
  have outside := owned.not_fresh fresh
  rcases List.eq_nil_or_concat' xs with rfl | ⟨before, ⟨b, w⟩, rfl⟩
  · refine ⟨put h a ⟨none, none, v⟩, rfl, ⟨⟨put_self .., trivial⟩, by simp⟩, ?_, ?_⟩
    · exact fun b _ other => put_other (by simpa using other) h _
    · simp
  · have kept := owned.linked.put_fresh outside ⟨some b, none, v⟩
    obtain ⟨stored, linked⟩ := kept.setNext owned.nodup (some a)
    have other : a ≠ b := fun same => outside (by simp [same])
    have nodup : (addrs (before ++ [(b, w)] ++ [(a, v)])).Nodup :=
      nodup_parts.mpr ⟨owned.nodup, by simp, fun c member same => outside (by
        rw [addrs_cons, addrs_nil, List.mem_singleton] at same
        exact same ▸ member)⟩
    refine ⟨_, ?_, .append linked ?_ nodup, ?_, ?_⟩
    · simp [listAddNodeTail, header, stored]
    · rw [linked_singleton, put_other other, put_self, back_append]
      rfl
    · intro c old new
      rw [put_other (fun same => old (by simp [same])), put_other
        (fun same => new (by simp [same]))]
    · exact fun c old new => absurd (by rw [addrs_append]; exact List.mem_append_left _ old) new

theorem listInsertNode_after (owned : Owned h (xs ++ (a, v) :: ys)) (fresh : h b = none) (w : β) :
    ∃ h', listInsertNode ⟨h, header m (xs ++ (a, v) :: ys), freed⟩ (some a) w true (some b) =
        some (true, ⟨h', header m (xs ++ (a, v) :: (b, w) :: ys), freed⟩) ∧
      Owned h' (xs ++ (a, v) :: (b, w) :: ys) ∧
      Moves h h' (xs ++ (a, v) :: ys) (xs ++ (a, v) :: (b, w) :: ys) := by
  have here := owned.linked.node
  rw [List.append_cons] at owned
  have outside : a ∉ addrs ys := by
    have nodup := (nodup_parts.mp owned.nodup).2.2
    exact nodup a (by simp)
  obtain ⟨h₁, h', storedOne, storedTwo, after, moves⟩ := owned.insert fresh w
  simp only [back_append, back_cons, back_nil] at storedOne
  simp only [List.append_assoc, List.singleton_append] at after moves
  refine ⟨h', ?_, after, moves⟩
  have last :
      (if back (some a) ys = some a then some b else back (some a) ys) = back (some b) ys := by
    cases ys with
    | nil => simp
    | cons y ys => rw [if_neg (by simp [back_outside outside])]; rfl
  simp [listInsertNode, here, storedOne, storedTwo, header, last]
  omega

theorem listInsertNode_before (owned : Owned h (xs ++ (a, v) :: ys)) (fresh : h b = none) (w : β) :
    ∃ h', listInsertNode ⟨h, header m (xs ++ (a, v) :: ys), freed⟩ (some a) w false (some b) =
        some (true, ⟨h', header m (xs ++ (b, w) :: (a, v) :: ys), freed⟩) ∧
      Owned h' (xs ++ (b, w) :: (a, v) :: ys) ∧
      Moves h h' (xs ++ (a, v) :: ys) (xs ++ (b, w) :: (a, v) :: ys) := by
  have here := owned.linked.node
  have outside : a ∉ addrs xs := fun member => (nodup_parts.mp owned.nodup).2.2 a member (by simp)
  obtain ⟨h₁, h', storedOne, storedTwo, after, moves⟩ := owned.insert fresh w
  simp only [front_cons] at storedOne storedTwo
  refine ⟨h', ?_, after, moves⟩
  have first :
      (if front xs (some a) = some a then some b else front xs (some a)) = front xs (some b) := by
    cases xs with
    | nil => simp
    | cons x xs => rw [if_neg (by simp [front_outside outside])]; rfl
  simp [listInsertNode, here, storedOne, storedTwo, header, first]
  omega

theorem listDelNode_spec (owned : Owned h (xs ++ (a, v) :: ys)) :
    ∃ h', listDelNode ⟨h, header m (xs ++ (a, v) :: ys), freed⟩ (some a) =
        some ⟨h', header m (xs ++ ys), freed ++ released m [v]⟩ ∧
      Owned h' (xs ++ ys) ∧ Moves h h' (xs ++ (a, v) :: ys) (xs ++ ys) := by
  have here := owned.linked.node
  obtain ⟨h₁, h₂, storedOne, storedTwo, dropped, after, moves⟩ := owned.remove
  refine ⟨_, ?_, after, moves⟩
  simp [listDelNode, here, storedOne, storedTwo, dropped, header, front_if, back_if]

theorem emptyLoop_spec {p : Ptr} (linked : Linked h p xs none) (nodup : (addrs xs).Nodup)
    (m : Methods β) :
    ∃ h', emptyLoop m xs.length h (front xs none) freed =
        some (h', freed ++ released m (xs.map (·.2))) ∧
      (∀ b ∈ addrs xs, h' b = none) ∧ ∀ b, b ∉ addrs xs → h' b = h b := by
  induction xs generalizing h p freed with
  | nil => exact ⟨h, by simp [emptyLoop], by simp, fun _ _ => rfl⟩
  | cons x xs ih =>
    obtain ⟨a, v⟩ := x
    obtain ⟨outside, nodupRest⟩ := List.nodup_cons.mp nodup
    have rest : Linked (drop h a) (some a) xs none := linked.2.drop_fresh outside
    obtain ⟨h', emptied, gone, kept⟩ := ih (freed ++ released m [v]) rest nodupRest
    refine ⟨h', ?_, ?_, ?_⟩
    · have here := linked.1
      simp only [List.length_cons, emptyLoop, front_cons, load_some, here, free_live here,
        Option.bind_eq_bind, Option.bind_some, emptied, List.map_cons, List.append_assoc]
      rw [← released_cons]
    · intro b member
      rcases List.mem_cons.mp member with rfl | member
      · rw [kept b outside, drop_self]
      · exact gone b member
    · intro b other
      simp only [addrs_cons, List.mem_cons, not_or] at other
      rw [kept b other.2, drop_other other.1]

theorem listEmpty_spec (owned : Owned h xs) :
    ∃ h', listEmpty ⟨h, header m xs, freed⟩ =
      some ⟨h', header m [], freed ++ released m (xs.map (·.2))⟩ ∧ Moves h h' xs [] := by
  obtain ⟨h', emptied, gone, kept⟩ := emptyLoop_spec freed owned.linked owned.nodup m
  refine ⟨h', ?_, fun b outside _ => kept b outside, fun b member _ => gone b member⟩
  simp [listEmpty, header, emptied]

theorem listRotateTailToHead_spec (owned : Owned h (xs ++ [(a, v)])) :
    ∃ h', listRotateTailToHead ⟨h, header m (xs ++ [(a, v)]), freed⟩ =
      some ⟨h', header m ((a, v) :: xs), freed⟩ ∧ Owned h' ((a, v) :: xs) ∧
      Moves h h' (xs ++ [(a, v)]) ((a, v) :: xs) := by
  by_cases single : xs = []
  · subst single
    exact ⟨h, by simp [listRotateTailToHead, header], owned, .refl h _⟩
  · obtain ⟨one, here⟩ := linked_append.mp owned.linked
    rw [linked_singleton] at here
    obtain ⟨nodup, -, apart⟩ := nodup_parts.mp owned.nodup
    have outside : a ∉ addrs xs := fun member => apart a member (by simp)
    obtain ⟨h₁, storedOne, linkedOne, frameOne⟩ := one.linkNext nodup none
    obtain ⟨h₂, storedTwo, linkedTwo, frameTwo⟩ := linkedOne.linkPrev nodup (some a)
    have live : h₂ a = some ⟨back none xs, none, v⟩ := by
      rw [frameTwo a outside, frameOne a outside, here]
    rw [linkNext, if_neg (mt back_eq_none.mp single)] at storedOne
    rw [linkPrev, if_neg (mt front_eq_none.mp single)] at storedTwo
    refine ⟨put (put h₂ a ⟨none, none, v⟩) a ⟨none, front xs none, v⟩, ?_, ⟨⟨?_, ?_⟩, ?_⟩, ?_, ?_⟩
    · have long : ¬ (xs ++ [(a, v)]).length ≤ 1 := by
        have := List.length_pos_iff.mpr single
        simp
        omega
      have first : front xs (some a) = front xs none := front_inner single ..
      simp only [listRotateTailToHead, header, long, if_false, back_append, back_cons, back_nil,
        front_append, front_cons, first, load_some, here, Option.bind_eq_bind, Option.bind_some,
        storedOne, storedTwo, setPrev_live live, setNext_live (put_self ..)]
      simp [back_inner single (some a) none]
    · exact put_self ..
    · exact (linkedTwo.put_fresh outside _).put_fresh outside _
    · exact List.nodup_cons.mpr ⟨outside, nodup⟩
    · intro b old new
      simp only [addrs_cons, List.mem_cons, not_or] at new
      rw [put_other new.1, put_other new.1, frameTwo b new.2, frameOne b new.2]
    · intro b old new
      simp only [addrs_append, addrs_cons, addrs_nil, List.mem_append, List.mem_cons,
        not_or] at old new
      exact absurd old (by simp [new.1, new.2])

theorem listRotateHeadToTail_spec (owned : Owned h ((a, v) :: xs)) :
    ∃ h', listRotateHeadToTail ⟨h, header m ((a, v) :: xs), freed⟩ =
      some ⟨h', header m (xs ++ [(a, v)]), freed⟩ ∧ Owned h' (xs ++ [(a, v)]) ∧
      Moves h h' ((a, v) :: xs) (xs ++ [(a, v)]) := by
  by_cases single : xs = []
  · subst single
    exact ⟨h, by simp [listRotateHeadToTail, header], owned, .refl h _⟩
  · obtain ⟨here, rest⟩ := owned.linked
    obtain ⟨outside, nodup⟩ := List.nodup_cons.mp owned.nodup
    obtain ⟨h₁, storedOne, linkedOne, frameOne⟩ := rest.linkPrev nodup none
    obtain ⟨h₂, storedTwo, linkedTwo, frameTwo⟩ := linkedOne.linkNext nodup (some a)
    have live : h₂ a = some ⟨none, front xs none, v⟩ := by
      rw [frameTwo a outside, frameOne a outside, here]
    rw [linkPrev, if_neg (mt front_eq_none.mp single)] at storedOne
    rw [linkNext, if_neg (mt back_eq_none.mp single)] at storedTwo
    have nodup' : (addrs (xs ++ [(a, v)])).Nodup :=
      nodup_parts.mpr ⟨nodup, by simp, fun b member same => outside (by
        rw [addrs_cons, addrs_nil, List.mem_singleton] at same
        exact same ▸ member)⟩
    refine ⟨put (put h₂ a ⟨none, none, v⟩) a ⟨back none xs, none, v⟩, ?_, .append ?_ ?_ nodup', ?_,
      ?_⟩
    · have long : ¬ ((a, v) :: xs).length ≤ 1 := by
        have := List.length_pos_iff.mpr single
        simp
        omega
      have last : back (some a) xs = back none xs := back_inner single ..
      simp only [listRotateHeadToTail, header, long, if_false, back_cons, front_cons, last,
        load_some, here, Option.bind_eq_bind, Option.bind_some, storedOne, storedTwo,
          setNext_live live,
        setPrev_live (put_self ..)]
      simp [front_inner single (some a) none]
    · exact (linkedTwo.put_fresh outside _).put_fresh outside _
    · exact linked_singleton.mpr (put_self ..)
    · intro b old new
      simp only [addrs_cons, List.mem_cons, not_or] at old
      rw [put_other old.1, put_other old.1, frameTwo b old.2, frameOne b old.2]
    · intro b old new
      simp only [addrs_append, addrs_cons, addrs_nil, List.mem_append, List.mem_cons,
        not_or] at old new
      exact absurd old (by simp [new.1, new.2])

/-- The two lists in one heap, and their headers. -/
theorem listJoin_spec {k : Methods β} (one : Owned h xs) (two : Owned h ys)
    (apart : ∀ a ∈ addrs xs, a ∉ addrs ys) :
    ∃ h', listJoin h (header m xs) (header k ys) = some (h', header m (xs ++ ys), header k []) ∧
      Owned h' (xs ++ ys) ∧ Moves h h' (xs ++ ys) (xs ++ ys) := by
  by_cases empty : ys = []
  · subst empty
    refine ⟨h, by simp [listJoin, header], ?_, .refl h _⟩
    rwa [List.append_nil]
  · obtain ⟨h₁, storedOne, linkedOne, frameOne⟩ := two.linked.linkPrev two.nodup (back none xs)
    have kept : Linked h₁ none xs none :=
      one.linked.frame fun b member => frameOne b (apart b member)
    obtain ⟨h₂, storedTwo, linkedTwo, frameTwo⟩ := kept.linkNext one.nodup (front ys none)
    have keptTwo : Linked h₂ (back none xs) ys none :=
      linkedOne.frame fun b member => frameTwo b fun other => apart b other member
    rw [linkPrev, if_neg (mt front_eq_none.mp empty)] at storedOne
    refine ⟨h₂, ?_, .append linkedTwo keptTwo (nodup_parts.mpr ⟨one.nodup, two.nodup, apart⟩), ?_,
      ?_⟩
    · have some_ : ¬ ys.length = 0 := by simpa using empty
      simp [listJoin, header, some_, storedOne, storedTwo, front_if, back_inner empty none
        (back none xs)]
    · intro b old _
      simp only [addrs_append, List.mem_append, not_or] at old
      rw [frameTwo b old.1, frameOne b old.2]
    · exact fun b old new => absurd old new

end HiMaxGateway.Adlist
