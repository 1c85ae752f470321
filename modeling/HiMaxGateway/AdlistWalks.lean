import HiMaxGateway.AdlistProofs

/-! Walks over the list: loops with an iterator, the search, the index and the copy. -/
namespace HiMaxGateway.Adlist
open Cells DoublyLinked

variable {β σ : Type} {h : Heap (Node β)} {m : Methods β} {xs ys : List (Entry β)} {a : Addr}
  {v : β} (freed : List β)

/-- What a loop over these entries comes to. -/
structure Sweep (σ β : Type) where
  state : σ
  kept : List (Entry β)
  removed : List (Entry β)

def sweep (visit : σ → β → σ × Bool) : σ → List (Entry β) → Sweep σ β
  | t, [] => ⟨t, [], []⟩
  | t, (a, v) :: rest =>
      let more := sweep visit (visit t v).1 rest
      if (visit t v).2 then { more with removed := (a, v) :: more.removed }
      else { more with kept := (a, v) :: more.kept }

/-- The entries in the order of a walk. -/
def inOrder (direction : Direction) (xs : List (Entry β)) : List (Entry β) :=
  match direction with
  | .startHead => xs
  | .startTail => xs.reverse

/-- The list in the middle of a walk: what the walk has passed, and what is still to come. -/
def midway (direction : Direction) (passed todo : List (Entry β)) : List (Entry β) :=
  match direction with
  | .startHead => passed ++ todo
  | .startTail => todo.reverse ++ passed

theorem midway_nil (direction : Direction) (xs : List (Entry β)) :
    midway direction [] (inOrder direction xs) = xs := by
  cases direction <;> simp [midway, inOrder]

theorem inOrder_midway (direction : Direction) (xs : List (Entry β)) :
    midway direction [] xs = inOrder direction xs := by
  cases direction <;> simp [midway, inOrder]

theorem front_reverse (xs : List (Entry β)) : back none xs.reverse = front xs none := by
  cases xs with
  | nil => rfl
  | cons x rest =>
    obtain ⟨a, v⟩ := x
    simp

theorem listGetIterator_over (m : Methods β) (xs : List (Entry β)) (direction : Direction) :
    listGetIterator (header m xs) direction = ⟨front (inOrder direction xs) none, direction⟩ := by
  cases direction
  · rfl
  · simp [listGetIterator, header, inOrder, ← front_reverse]

/-- A walk finds the node that comes next, with its neighbours on both sides. -/
theorem midway_cons (direction : Direction) (passed todo : List (Entry β)) (a : Addr) (v : β) :
    ∃ before after, midway direction passed ((a, v) :: todo) = before ++ (a, v) :: after ∧
      midway direction passed todo = before ++ after ∧
      (∃ passed', ∀ rest, midway direction passed ((a, v) :: rest) = midway direction passed'
        rest) ∧
      ∀ h : Heap (Node β), Linked h none (before ++ (a, v) :: after) none →
        listNext h ⟨some a, direction⟩ = some (some a, ⟨front todo none, direction⟩) := by
  cases direction with
  | startHead =>
    refine ⟨passed, todo, rfl, rfl, ⟨passed ++ [(a, v)], by simp [midway]⟩, fun h linked => ?_⟩
    simp [listNext, linked.node]
  | startTail =>
    refine ⟨todo.reverse, passed, by simp [midway], rfl, ⟨(a, v) :: passed, by simp [midway]⟩,
      fun h linked => ?_⟩
    simp [listNext, linked.node, front_reverse]

theorem sweep_removes {visit : σ → β → σ × Bool} {t : σ} (gone : (visit t v).2 = true) :
    sweep visit t ((a, v) :: xs) =
      { sweep visit (visit t v).1 xs with removed := (a, v) ::
        (sweep visit (visit t v).1 xs).removed } := by
  simp [sweep, gone]

theorem sweep_keeps {visit : σ → β → σ × Bool} {t : σ} (stays : (visit t v).2 = false) :
    sweep visit t ((a, v) :: xs) =
      { sweep visit (visit t v).1 xs with kept := (a, v) :: (sweep visit (visit t v).1 xs).kept
        } := by
  simp [sweep, stays]

theorem eachNode_midway (visit : σ → β → σ × Bool) (direction : Direction)
    (owned : Owned h (midway direction ys xs)) {fuel : Nat} (enough : xs.length < fuel) (t : σ) :
    ∃ h', eachNode visit fuel t ⟨h, header m (midway direction ys xs), freed⟩
      ⟨front xs none, direction⟩ =
        some ((sweep visit t xs).state, ⟨h', header m (midway direction ys (sweep visit t xs).kept),
          freed ++ released m ((sweep visit t xs).removed.map (·.2))⟩) ∧
      Owned h' (midway direction ys (sweep visit t xs).kept) ∧
      Moves h h' (midway direction ys xs) (midway direction ys (sweep visit t xs).kept) := by
  induction xs generalizing h ys fuel t freed with
  | nil =>
    obtain ⟨fuel, rfl⟩ : ∃ k, fuel = k + 1 := ⟨fuel - 1, by omega⟩
    exact ⟨h, by simp [eachNode, listNext, sweep], owned, .refl h _⟩
  | cons x xs ih =>
    obtain ⟨a, v⟩ := x
    obtain ⟨fuel, rfl⟩ : ∃ k, fuel = k + 1 := ⟨fuel - 1, by omega⟩
    rw [List.length_cons, Nat.add_lt_add_iff_right] at enough
    obtain ⟨before, after, here, without, ⟨passed, shifted⟩, stepped⟩ :=
      midway_cons direction ys xs a v
    have linked := owned.linked
    rw [here] at linked
    have next := stepped h linked
    have node := linked.node
    cases gone : (visit t v).2 with
    | true =>
      rw [here] at owned ⊢
      obtain ⟨h₁, deleted, owned₁, moves₁⟩ := listDelNode_spec (m := m) freed owned
      rw [← without] at deleted owned₁ moves₁
      obtain ⟨h', rest, owned', moves'⟩ :=
        ih (freed ++ released m [v]) owned₁ enough (visit t v).1
      rw [sweep_removes gone]
      refine ⟨h', ?_, owned', moves₁.trans moves' ?_⟩
      · simp [eachNode, next, node, gone, deleted, rest, ← released_cons]
      · rw [without]
        intro b member outside
        simp only [addrs_append, addrs_cons, List.mem_append, List.mem_cons] at member outside
        tauto
    | false =>
      rw [shifted] at owned ⊢
      obtain ⟨h', rest, owned', moves'⟩ := ih freed owned enough (visit t v).1
      rw [sweep_keeps gone]
      refine ⟨h', ?_, by rwa [shifted], by rwa [shifted]⟩
      simp [eachNode, next, node, gone, rest, shifted]

theorem sweep_state (visit : σ → β → σ × Bool) (t : σ) (xs : List (Entry β)) :
    (sweep visit t xs).state = (xs.map (·.2)).foldl (fun t v => (visit t v).1) t := by
  induction xs generalizing t with
  | nil => rfl
  | cons x xs ih =>
    obtain ⟨a, v⟩ := x
    cases gone : (visit t v).2 with
    | true => rw [sweep_removes gone]; exact ih _
    | false => rw [sweep_keeps gone]; exact ih _

/-- A loop that removes the node it was given, and no other, comes by every node once. -/
theorem eachNode_visits (visit : σ → β → σ × Bool) (direction : Direction) (owned : Owned h xs)
    {fuel : Nat} (enough : xs.length < fuel) (t : σ) :
    ∃ h', eachNode visit fuel t ⟨h, header m xs, freed⟩ (listGetIterator (header m xs) direction) =
        some (((inOrder direction xs).map (·.2)).foldl (fun t v => (visit t v).1) t,
          ⟨h', header m (inOrder direction (sweep visit t (inOrder direction xs)).kept),
            freed ++ released m ((sweep visit t (inOrder direction xs)).removed.map (·.2))⟩) ∧
      Owned h' (inOrder direction (sweep visit t (inOrder direction xs)).kept) ∧
      Moves h h' xs (inOrder direction (sweep visit t (inOrder direction xs)).kept) := by
  have length : (inOrder direction xs).length = xs.length := by cases direction <;> simp [inOrder]
  rw [listGetIterator_over, ← sweep_state]
  rw [← midway_nil direction xs] at owned
  have walk := eachNode_midway (m := m) freed visit direction owned (length ▸ enough) t
  rwa [midway_nil, inOrder_midway] at walk

theorem eachNode_visits_pair : ∃ h',
    eachNode (fun t v => (t + v, v == 5)) 3 0
        ⟨put (put Cells.empty 1 ⟨none, some 2, 5⟩) 2 ⟨some 1, none, 6⟩,
          header { freeMethod := true } [(1, 5), (2, 6)], []⟩
        (listGetIterator (header { freeMethod := true } [(1, 5), (2, 6)]) .startTail) =
      some (11, ⟨h', header { freeMethod := true } [(2, 6)], [5]⟩) ∧
    Owned h' [(2, 6)] ∧
    Moves (put (put Cells.empty 1 ⟨none, some 2, 5⟩) 2 ⟨some 1, none, 6⟩) h' [(1, 5), (2, 6)]
      [(2, 6)] :=
  have owned :
      Owned (put (put Cells.empty 1 ⟨none, some 2, 5⟩) 2 ⟨some 1, none, 6⟩) [(1, 5), (2, 6)] :=
    ⟨⟨rfl, rfl, trivial⟩, by decide⟩
  eachNode_visits [] _ .startTail owned (by decide) 0

theorem searchLoop_spec [DecidableEq β] (list : ListT β) (key : β) {p : Ptr}
    (linked : Linked h p xs none) {fuel : Nat} (enough : xs.length < fuel) :
    searchLoop h list key fuel ⟨front xs none, .startHead⟩ =
      some ((xs.find? fun e => matching list.toMethods e.2 key).map (·.1)) := by
  induction xs generalizing p fuel with
  | nil =>
    obtain ⟨fuel, rfl⟩ : ∃ k, fuel = k + 1 := ⟨fuel - 1, by omega⟩
    simp [searchLoop, listNext]
  | cons x xs ih =>
    obtain ⟨a, v⟩ := x
    obtain ⟨fuel, rfl⟩ : ∃ k, fuel = k + 1 := ⟨fuel - 1, by omega⟩
    rw [List.length_cons, Nat.add_lt_add_iff_right] at enough
    obtain ⟨here, rest⟩ := linked
    have next : listNext h ⟨some a, .startHead⟩ = some (some a, ⟨front xs none, .startHead⟩) := by
      simp [listNext, here]
    have more := ih rest enough
    cases found : matching list.toMethods v key with
    | true => simp [searchLoop, next, here, found]
    | false => simp [searchLoop, next, here, found, more]

/-- The search gives the first node that matches, from the head on. -/
theorem listSearchKey_spec [DecidableEq β] (owned : Owned h xs) {fuel : Nat}
    (enough : xs.length < fuel) (key : β) :
    listSearchKey fuel h (header m xs) key =
      some ((xs.find? fun e => matching m e.2 key).map (·.1)) :=
  searchLoop_spec _ key owned.linked enough

theorem indexLoop_next {p : Ptr} (linked : Linked h p xs none) (index : Nat) :
    indexLoop h (·.next) index (front xs none) = some (xs[index]?.map (·.1)) := by
  induction xs generalizing p index with
  | nil => cases index <;> simp [indexLoop]
  | cons x xs ih =>
    obtain ⟨a, v⟩ := x
    cases index with
    | zero => simp [indexLoop]
    | succ index => simp [indexLoop, linked.1, ih linked.2]

theorem indexLoop_prev {n : Ptr} (linked : Linked h none xs.reverse n) (index : Nat) :
    indexLoop h (·.prev) index (front xs none) = some (xs[index]?.map (·.1)) := by
  induction xs generalizing n index with
  | nil => cases index <;> simp [indexLoop]
  | cons x xs ih =>
    obtain ⟨a, v⟩ := x
    cases index with
    | zero => simp [indexLoop]
    | succ index =>
      rw [List.reverse_cons] at linked
      obtain ⟨before, here⟩ := linked_append.mp linked
      rw [linked_singleton] at here
      simp [indexLoop, here, front_reverse, ih before]

/-- Index i counts from the head, index -1-i from the tail. -/
theorem listIndex_spec (owned : Owned h xs) (index : Index) :
    listIndex h (header m xs) index = some
      ((if index.1 < 0 then xs.reverse[(-index.1 - 1).toNat]? else xs[index.1.toNat]?).map
        (·.1)) := by
  by_cases negative : index.1 < 0
  · have linked := owned.linked
    rw [← xs.reverse_reverse] at linked
    have back_ : (header m xs).tail = front xs.reverse none := by
      rw [← front_reverse, List.reverse_reverse]
      rfl
    rw [listIndex, if_pos negative, if_pos negative, back_, indexLoop_prev linked]
  · rw [listIndex, if_neg negative, if_neg negative]
    exact indexLoop_next owned.linked _

/-- What the copy of a list comes to: whether it was made, its entries, and the values handed
to the free method. -/
structure Copy (β : Type) where
  made : Bool
  entries : List (Entry β)
  freed : List β

def copying (m : Methods β) : List (Entry β) → List Ptr → (copied : List (Entry β)) → Copy β
  | [], _, copied => ⟨true, copied, []⟩
  | (_, v) :: rest, nodes, copied =>
      match dupValue m v, nodes.head?.getD none with
      | none, _ => ⟨false, [], released m (copied.map (·.2))⟩
      | some w, none => ⟨false, [], released m [w] ++ released m (copied.map (·.2))⟩
      | some w, some a => copying m rest nodes.tail (copied ++ [(a, w)])

theorem dupLoop_spec {p : Ptr} {nodes : List Ptr} (orig : Linked h p xs none) (copy : Owned h ys)
    (apart : ∀ a ∈ addrs xs, a ∉ addrs ys) (fresh : ∀ a, some a ∈ nodes → h a = none)
    (distinct : (nodes.filterMap id).Nodup) {fuel : Nat} (enough : xs.length < fuel) :
    ∃ h', dupLoop fuel ⟨h, header m ys, freed⟩ ⟨front xs none, .startHead⟩ nodes =
        some ((copying m xs nodes ys).made,
          ⟨h', header m (copying m xs nodes ys).entries, freed ++ (copying m xs nodes ys).freed⟩) ∧
      Owned h' (copying m xs nodes ys).entries ∧ Moves h h' ys (copying m xs nodes ys).entries := by
  induction xs generalizing h p ys nodes fuel freed with
  | nil =>
    obtain ⟨fuel, rfl⟩ : ∃ k, fuel = k + 1 := ⟨fuel - 1, by omega⟩
    exact ⟨h, by simp [dupLoop, listNext, copying], copy, .refl h _⟩
  | cons x xs ih =>
    obtain ⟨a, v⟩ := x
    obtain ⟨fuel, rfl⟩ : ∃ k, fuel = k + 1 := ⟨fuel - 1, by omega⟩
    rw [List.length_cons, Nat.add_lt_add_iff_right] at enough
    obtain ⟨here, rest⟩ := orig
    have next : listNext h ⟨some a, .startHead⟩ = some (some a, ⟨front xs none, .startHead⟩) := by
      simp [listNext, here]
    cases value : dupValue m v with
    | none =>
      obtain ⟨h', emptied, moves⟩ := listEmpty_spec (m := m) freed copy
      refine ⟨h', ?_, ?_, ?_⟩
      · simp [dupLoop, next, here, copying, value, emptied]
      · simp [copying, value, Owned.nil]
      · simpa [copying, value] using moves
    | some w =>
      cases given : nodes.head?.getD none with
      | none =>
        obtain ⟨h', emptied, moves⟩ :=
          listEmpty_spec (m := m) (freed ++ released m [w]) copy
        refine ⟨h', ?_, ?_, ?_⟩
        · simp [dupLoop, next, here, copying, value, given, listAddNodeTail_fails, emptied]
        · simp [copying, value, given, Owned.nil]
        · simpa [copying, value, given] using moves
      | some b =>
        obtain ⟨others, rfl⟩ : ∃ others, nodes = some b :: others := by
          cases nodes with
          | nil => simp at given
          | cons node others => exact ⟨others, by simpa using given⟩
        have free := fresh b (by simp)
        obtain ⟨alone, distinct⟩ : b ∉ others.filterMap id ∧ (others.filterMap id).Nodup :=
          List.nodup_cons.mp distinct
        obtain ⟨h₁, added, owned, moves⟩ := listAddNodeTail_spec (m := m) freed copy free w
        have untouched : ∀ c, c ∉ addrs ys → c ≠ b → h₁ c = h c := fun c old other =>
          moves.frame c old (by simp [old, other])
        have other : ∀ c ∈ addrs xs, c ∉ addrs ys ∧ c ≠ b := by
          intro c member
          obtain ⟨node, live⟩ := rest.live member
          refine ⟨apart c (List.mem_cons_of_mem _ member), fun same => ?_⟩
          rw [same, free] at live
          cases live
        have cold : ∀ c, some c ∈ others → h₁ c = none := by
          intro c member
          have before := fresh c (by simp [member])
          rw [untouched c (copy.not_fresh before) fun same => alone (by simpa [same] using member),
            before]
        obtain ⟨h', copied, owned', moves'⟩ := ih freed
          (rest.frame fun c member => untouched c (other c member).1 (other c member).2) owned
          (fun c member => by simp [other c member]) cold distinct enough
        have same : copying m ((a, v) :: xs) (some b :: others) ys =
            copying m xs others (ys ++ [(b, w)]) := by
          simp [copying, value]
        rw [same]
        refine ⟨h', ?_, owned', moves.trans moves' ?_⟩
        · simp [dupLoop, next, here, value, added, copied]
        · intro c member old
          simp only [addrs_append, addrs_cons, addrs_nil, List.mem_append,
            List.mem_singleton] at member
          rw [member.resolve_left old, free]

theorem copying_made {nodes : List Ptr} (made : (copying m xs nodes ys).made = true) :
    ∃ zs, copying m xs nodes ys = ⟨true, ys ++ zs, []⟩ ∧
      zs.map (fun e => some e.1) = nodes.take xs.length ∧
      (xs.map (·.2)).mapM (dupValue m) = some (zs.map (·.2)) := by
  induction xs generalizing nodes ys with
  | nil => exact ⟨[], by simp [copying], by simp, by simp⟩
  | cons x xs ih =>
    obtain ⟨a, v⟩ := x
    cases value : dupValue m v with
    | none => simp [copying, value] at made
    | some w =>
      cases given : nodes.head?.getD none with
      | none => simp [copying, value, given] at made
      | some b =>
        have same :
            copying m ((a, v) :: xs) nodes ys = copying m xs nodes.tail (ys ++ [(b, w)]) := by
          simp [copying, value, given]
        rw [same] at made ⊢
        obtain ⟨zs, entries, taken, values⟩ := ih made
        obtain ⟨others, rfl⟩ : ∃ others, nodes = some b :: others := by
          cases nodes with
          | nil => simp at given
          | cons node others => exact ⟨others, by simpa using given⟩
        refine ⟨(b, w) :: zs, ?_, by simpa using taken, by simp [value, values]⟩
        rw [entries, List.append_assoc, List.singleton_append]

/-- The copy stops at the first value the dup method has no copy of, or at the first node
malloc has no room for. All copies made until then go to the free method. -/
theorem copying_stops {nodes : List Ptr} (made : (copying m xs nodes ys).made = false) :
    (copying m xs nodes ys).entries = [] ∧ ∃ k e copies, xs[k]? = some e ∧
      ((xs.take k).map (·.2)).mapM (dupValue m) = some copies ∧
      (∀ i < k, ∃ a, nodes[i]? = some (some a)) ∧
      (dupValue m e.2 = none ∨ nodes[k]?.getD none = none) ∧
      ((copying m xs nodes ys).freed).Perm
        (released m (ys.map (·.2) ++ copies ++ (dupValue m e.2).toList)) := by
  induction xs generalizing nodes ys with
  | nil => simp [copying] at made
  | cons x xs ih =>
    obtain ⟨a, v⟩ := x
    cases value : dupValue m v with
    | none =>
      refine ⟨by simp [copying, value], 0, (a, v), [], rfl, by simp, by simp, .inl value, ?_⟩
      simp [copying, value]
    | some w =>
      cases given : nodes.head?.getD none with
      | none =>
        refine ⟨by simp [copying, value, given], 0, (a, v), [], rfl, by simp, by simp, .inr ?_, ?_⟩
        · rwa [← List.head?_eq_getElem?]
        · simp only [copying, value, given, Option.toList_some, List.append_nil, released_append]
          exact List.perm_append_comm
      | some b =>
        have same :
            copying m ((a, v) :: xs) nodes ys = copying m xs nodes.tail (ys ++ [(b, w)]) := by
          simp [copying, value, given]
        rw [same] at made ⊢
        obtain ⟨empty, k, e, copies, here, values, given', stops, freed⟩ := ih made
        obtain ⟨others, rfl⟩ : ∃ others, nodes = some b :: others := by
          cases nodes with
          | nil => simp at given
          | cons node others => exact ⟨others, by simpa using given⟩
        refine ⟨empty, k + 1, e, w :: copies, by simpa using here, ?_, ?_, by simpa using stops, ?_⟩
        · rw [List.take_succ_cons, List.map_cons, List.mapM_cons, values]
          simp [value]
        · intro i below
          cases i with
          | zero => exact ⟨b, rfl⟩
          | succ i => simpa using given' i (by omega)
        · simpa using freed

theorem listDup_spec {nodes : List Ptr} (owned : Owned h xs)
    (fresh : ∀ a, some a ∈ nodes → h a = none) (distinct : (nodes.filterMap id).Nodup) {fuel : Nat}
    (enough : xs.length < fuel) :
    ∃ h', listDup fuel h (header m xs) true nodes freed =
        some ((copying m xs nodes []).made,
          ⟨h', header m (copying m xs nodes []).entries, freed ++ (copying m xs nodes []).freed⟩) ∧
      Owned h' (copying m xs nodes []).entries ∧ Moves h h' [] (copying m xs nodes []).entries :=
  dupLoop_spec freed owned.linked (.nil h) (by simp) fresh distinct enough

/-- Every value has a copy, and malloc has room for as many nodes. -/
def Copyable (m : Methods β) (xs : List (Entry β)) (nodes : List Ptr) : Prop :=
  (∀ e ∈ xs, (dupValue m e.2).isSome) ∧ ∀ i < xs.length, ∃ a, nodes[i]? = some (some a)

theorem copying_made_iff {nodes : List Ptr} :
    (copying m xs nodes ys).made = true ↔ Copyable m xs nodes := by
  constructor
  · intro made
    induction xs generalizing nodes ys with
    | nil => exact ⟨by simp, by simp⟩
    | cons x xs ih =>
      obtain ⟨a, v⟩ := x
      cases value : dupValue m v with
      | none => simp [copying, value] at made
      | some w =>
        cases given : nodes.head?.getD none with
        | none => simp [copying, value, given] at made
        | some b =>
          obtain ⟨others, rfl⟩ : ∃ others, nodes = some b :: others := by
            cases nodes with
            | nil => simp at given
            | cons node others => exact ⟨others, by simpa using given⟩
          simp only [copying, value, given] at made
          obtain ⟨values, room⟩ := ih made
          refine ⟨by simpa [value] using values, fun i below => ?_⟩
          cases i with
          | zero => exact ⟨b, rfl⟩
          | succ i => exact room i (by simpa using below)
  · rintro ⟨values, room⟩
    cases made : (copying m xs nodes ys).made with
    | true => rfl
    | false =>
      obtain ⟨-, k, e, copies, here, -, -, stops, -⟩ := copying_stops made
      obtain ⟨within, rfl⟩ := List.getElem?_eq_some_iff.mp here
      obtain ⟨a, given⟩ := room k within
      have value := values _ (List.getElem_mem within)
      rcases stops with stuck | full
      · simp [stuck] at value
      · simp [given] at full

/-- Without a dup method a value that is copied is the value itself. -/
theorem copies_own {vs copies : List β} (plain : m.dupMethod = none)
    (values : vs.mapM (dupValue m) = some copies) : copies = vs := by
  have same : dupValue m = (pure : β → Option β) := funext fun v => by simp [dupValue, plain]
  rw [same, List.mapM_pure, List.map_id'] at values
  exact (Option.some.inj values).symm

/-- A copy that is made has the copied values in order, in nodes of its own, and every other
node is as before. Where it is not made, all its nodes are freed and the other nodes are as before;
the values copied until then go to the free method, and without a dup method these are those of
the original. -/
theorem listDup_copies {nodes : List Ptr} (owned : Owned h xs)
    (fresh : ∀ a, some a ∈ nodes → h a = none)
    (distinct : (nodes.filterMap id).Nodup) {fuel : Nat} (enough : xs.length < fuel) :
    (Copyable m xs nodes → ∃ h' ys,
      listDup fuel h (header m xs) true nodes freed = some (true, ⟨h', header m ys, freed⟩) ∧
      (xs.map (·.2)).mapM (dupValue m) = some (ys.map (·.2)) ∧ Owned h' ys ∧ Owned h' xs ∧
      ∀ b, (b ∈ addrs ys → h b = none) ∧ (b ∉ addrs ys → h' b = h b)) ∧
    (¬Copyable m xs nodes → ∃ k e copies out,
      listDup fuel h (header m xs) true nodes freed = some (false, ⟨h, header m [], freed ++ out⟩) ∧
      xs[k]? = some e ∧ ((xs.take k).map (·.2)).mapM (dupValue m) = some copies ∧
      (∀ i < k, ∃ a, nodes[i]? = some (some a)) ∧
      (dupValue m e.2 = none ∨ nodes[k]?.getD none = none) ∧
      out.Perm (released m (copies ++ (dupValue m e.2).toList)) ∧
      (m.dupMethod = none → out.Perm (released m ((xs.take (k + 1)).map (·.2))))) := by
  obtain ⟨h', copied, ownedCopy, moves⟩ := listDup_spec (m := m) freed owned fresh distinct enough
  constructor
  · intro copyable
    obtain ⟨zs, same, taken, copies⟩ := copying_made (copying_made_iff.mpr copyable)
    rw [same, List.nil_append] at copied ownedCopy moves
    rw [List.append_nil] at copied
    have cold : ∀ b ∈ addrs zs, h b = none := by
      intro b member
      refine fresh b (List.mem_of_mem_take (i := xs.length) ?_)
      rw [← taken]
      obtain ⟨e, inside, rfl⟩ := List.mem_map.mp member
      exact List.mem_map.mpr ⟨e, inside, rfl⟩
    have others : ∀ b, b ∉ addrs zs → h' b = h b := fun b outside => moves.frame b (by simp) outside
    have kept : Owned h' xs :=
      owned.frame fun b member => others b fun other => owned.not_fresh (cold b other) member
    exact ⟨h', zs, copied, copies, ownedCopy, kept, fun b => ⟨cold b, others b⟩⟩
  · intro short
    have unmade : (copying m xs nodes []).made = false :=
      Bool.eq_false_iff.mpr fun made => short (copying_made_iff.mp made)
    obtain ⟨empty, k, e, copies, here, values, given, stops, out⟩ := copying_stops unmade
    rw [empty] at copied moves
    have same : h' = h := funext fun b => moves.frame b (by simp) (by simp)
    rw [unmade, same] at copied
    refine ⟨k, e, copies, _, copied, here, values, given, stops, out, fun plain => ?_⟩
    have own : copies ++ (dupValue m e.2).toList = (xs.take (k + 1)).map (·.2) := by
      rw [copies_own plain values, List.take_add_one, here]
      simp [dupValue, plain]
    rwa [← own]

theorem listDup_copies_one : ∃ (h' : Heap (Node Nat)) (ys : List (Entry Nat)),
    listDup 2 (put Cells.empty 1 ⟨none, none, 5⟩) (header {} [(1, 5)]) true [some 2] [] =
      some (true, ⟨h', header {} ys, []⟩) ∧
    [5].mapM (dupValue {}) = some (ys.map (·.2)) ∧ Owned h' ys ∧ Owned h' [(1, 5)] ∧
    ∀ b, (b ∈ addrs ys → put Cells.empty 1 (⟨none, none, 5⟩ : Node Nat) b = none) ∧
      (b ∉ addrs ys → h' b = put Cells.empty 1 ⟨none, none, 5⟩ b) := by
  have owned : Owned (put Cells.empty 1 ⟨none, none, 5⟩) [(1, 5)] := ⟨⟨rfl, trivial⟩, by decide⟩
  have fresh :
      ∀ a, some a ∈ [some 2] → put Cells.empty 1 (⟨none, none, 5⟩ : Node Nat) a = none := by
    intro a member
    cases List.mem_singleton.mp member
    rfl
  have copyable : Copyable {} [(1, 5)] [some 2] := by
    refine ⟨by simp [dupValue], fun i below => ⟨2, ?_⟩⟩
    cases Nat.lt_one_iff.mp below
    rfl
  exact (listDup_copies [] owned fresh (by decide) (Nat.lt_succ_self 1)).1 copyable

end HiMaxGateway.Adlist
