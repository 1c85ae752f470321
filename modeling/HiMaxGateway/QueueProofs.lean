import HiMaxGateway.Queue

/-! What the functions of the queue do to a list of entries. -/
namespace HiMaxGateway.Queue
open Cells SinglyLinked

variable {α : Type} {q q' : QueueT α} {xs ys : List (Entry α)} {a : Addr} {el : α}

/-- The queue holds these entries. Nothing is said of `last_el` but whether it is null. -/
structure Holds (q : QueueT α) (xs : List (Entry α)) : Prop where
  fills : Fills q.heap xs
  first : q.first_el = front xs none
  last : q.last_el = none ↔ xs = []
  num : q.num_els = xs.length
  small : xs.length ≤ uintxMax - 1

/-- `last_el` is the last element. -/
def Straight (q : QueueT α) (xs : List (Entry α)) : Prop := q.last_el = back none xs

def insertBehind (q : Settings α) (e : Entry α) : Entry α → List (Entry α) → List (Entry α)
  | s, [] => [s, e]
  | s, t :: rest =>
      if between q s.2 e.2 t.2 then s :: e :: t :: rest else s :: insertBehind q e t rest

/-- Where the element goes. -/
def inserted (q : Settings α) (e : Entry α) (xs : List (Entry α)) : List (Entry α) :=
  match xs with
  | [] => [e]
  | s :: rest =>
      if !q.sort then xs ++ [e]
      else if before q s.2 e.2 then e :: xs
      else insertBehind q e s rest

theorem Holds.straight_nil (holds : Holds q []) : Straight q [] := holds.last.mpr rfl

theorem searchPlace_spec (q : QueueT α) (e : Entry α) {rest : List (Entry α)} {b : Addr} {w : α}
    (linked : Linked q.heap ((b, w) :: rest) none) {fuel : Nat} (enough : rest.length < fuel) :
    ∃ us u vs, (b, w) :: rest = us ++ u :: vs ∧ insertBehind q.toSettings e (b, w) rest = us ++
      u :: e :: vs ∧ searchPlace q e.2 fuel (some b) (front rest none) =
        some (some u.1, front vs none) := by
  induction rest generalizing b w fuel with
  | nil =>
    obtain ⟨fuel, rfl⟩ : ∃ k, fuel = k + 1 := ⟨fuel - 1, by omega⟩
    exact ⟨[], (b, w), [], rfl, rfl, rfl⟩
  | cons t rest ih =>
    obtain ⟨c, x⟩ := t
    obtain ⟨fuel, rfl⟩ : ∃ k, fuel = k + 1 := ⟨fuel - 1, by omega⟩
    rw [List.length_cons, Nat.add_lt_add_iff_right] at enough
    obtain ⟨here, more⟩ := linked
    have there := more.1
    cases stops : between q.toSettings w e.2 x with
    | true =>
      refine ⟨[], (b, w), (c, x) :: rest, rfl, by simp [insertBehind, stops], ?_⟩
      simp [searchPlace, here, there, stops]
    | false =>
      obtain ⟨us, u, vs, parts, inserted, found⟩ := ih more enough
      refine ⟨(b, w) :: us, u, vs, by rw [parts]; rfl, by simp [insertBehind, stops, inserted], ?_⟩
      simp [searchPlace, here, there, stops, found]

theorem insertBehind_split (q : Settings α) (e s : Entry α) (rest : List (Entry α)) :
    ∃ us vs, s :: rest = us ++ vs ∧ insertBehind q e s rest = us ++ e :: vs := by
  induction rest generalizing s with
  | nil => exact ⟨[s], [], rfl, rfl⟩
  | cons t rest ih =>
    cases stops : between q s.2 e.2 t.2 with
    | true => exact ⟨[s], t :: rest, rfl, by simp [insertBehind, stops]⟩
    | false =>
      obtain ⟨us, vs, parts, inserted⟩ := ih t
      exact ⟨s :: us, vs, by rw [parts]; rfl, by simp [insertBehind, stops, inserted]⟩

/-- The element goes somewhere, and all others stay. -/
theorem inserted_split (q : Settings α) (e : Entry α) (xs : List (Entry α)) :
    ∃ us vs, xs = us ++ vs ∧ inserted q e xs = us ++ e :: vs := by
  cases xs with
  | nil => exact ⟨[], [], rfl, rfl⟩
  | cons s rest =>
    cases sorted : q.sort with
    | false => exact ⟨s :: rest, [], by simp, by simp [inserted, sorted]⟩
    | true =>
      cases front_ : before q s.2 e.2 with
      | true => exact ⟨[], s :: rest, rfl, by simp [inserted, sorted, front_]⟩
      | false =>
        obtain ⟨us, vs, parts, there⟩ := insertBehind_split q e s rest
        exact ⟨us, vs, parts, by simp [inserted, sorted, front_, there]⟩

theorem inserted_length (q : Settings α) (e : Entry α) (xs : List (Entry α)) :
    (inserted q e xs).length = xs.length + 1 := by
  obtain ⟨us, vs, rfl, there⟩ := inserted_split q e xs
  rw [there]
  simp
  omega

theorem inserted_unsorted {q : Settings α} (unsorted : q.sort = false) (e : Entry α)
    (xs : List (Entry α)) :
    inserted q e xs = xs ++ [e] := by
  cases xs <;> simp [inserted, unsorted]

theorem counted (small : xs.length < uintxMax - 1) :
    (xs.length + 1) % (uintxMax + 1) = xs.length + 1 := by
  rw [uintxMax] at small ⊢
  omega

/-- Without an order the element goes behind the last one, where `last_el` must be that one. -/
theorem insertElement_last (holds : Holds q xs) (small : xs.length < uintxMax - 1)
    (fresh : q.heap a = none) (unsorted : q.sort = false) (straight : Straight q xs) (el : α) :
    ∃ q', insertElement q el a = some q' ∧ Holds q' (xs ++ [(a, el)]) ∧
      q'.toSettings = q.toSettings ∧ Straight q' (xs ++ [(a, el)]) := by
  have length := counted small
  rw [← holds.num] at length
  rcases List.eq_nil_or_concat' xs with rfl | ⟨before, ⟨b, w⟩, rfl⟩
  · have nowhere := holds.last.mpr rfl
    refine ⟨{ q with
      heap := put q.heap a ⟨none, el⟩
      first_el := some a
      last_el := some a
      num_els := q.num_els + 1 }, ?_, ?_, rfl, rfl⟩
    · simp [insertElement, unsorted, nowhere, length]
    · refine ⟨holds.fills.single a el, rfl, by simp, ?_, by simp [uintxMax]⟩
      simp [holds.num]
  · obtain ⟨stored, fills⟩ := holds.fills.snoc fresh el
    have last : q.last_el = some b := by rw [straight, back_append]; rfl
    refine ⟨{ q with
      heap := put (put q.heap a ⟨none, el⟩) b ⟨some a, w⟩
      last_el := some a
      num_els := q.num_els + 1 }, ?_, ?_, rfl, ?_⟩
    · simp [insertElement, unsorted, last, stored, length]
    · refine ⟨by simpa using fills, ?_, by simp, ?_, ?_⟩
      · rw [holds.first]
        cases before <;> rfl
      · simp [holds.num]
      · simp at small ⊢
        omega
    · rw [Straight, back_append]
      rfl

/-- Where `last_el` points once the element at `a` is in. -/
def lastAfter (a : Addr) (last : Ptr) (xs : List (Entry α)) : Ptr :=
  if back none xs = some a then some a else last

/-- With an order `last_el` is not read, but where the queue is empty. -/
theorem insertElement_sorted (holds : Holds q xs) (small : xs.length < uintxMax - 1)
    (fresh : q.heap a = none) (sorted : q.sort = true) (el : α) :
    ∃ q', insertElement q el a = some q' ∧ Holds q' (inserted q.toSettings (a, el) xs) ∧
      q'.toSettings = q.toSettings ∧
      q'.last_el = lastAfter a q.last_el (inserted q.toSettings (a, el) xs) := by
  have length := counted small
  rw [← holds.num] at length
  have room : (inserted q.toSettings (a, el) xs).length ≤ uintxMax - 1 := by
    rw [inserted_length]; exact small
  cases xs with
  | nil =>
    have nowhere := holds.last.mpr rfl
    have first : q.first_el = none := holds.first
    refine ⟨{ q with
      heap := put q.heap a ⟨none, el⟩
      first_el := some a
      last_el := some a
      num_els := q.num_els + 1 }, ?_, ?_, rfl, by simp [inserted, lastAfter]⟩
    · simp [insertElement, first, nowhere, length]
    · refine ⟨holds.fills.single a el, rfl, by simp [inserted], ?_, room⟩
      simp [holds.num, inserted]
  | cons s rest =>
    obtain ⟨b, w⟩ := s
    have outside := holds.fills.not_fresh fresh
    have kept := holds.fills.linked.put_fresh outside ⟨none, el⟩
    have first : q.first_el = some b := holds.first
    have some_ : q.last_el ≠ none := fun none_ => by simpa using holds.last.mp none_
    cases front_ : before q.toSettings w el with
    | true =>
      have here : inserted q.toSettings (a, el) ((b, w) :: rest) = (a, el) :: (b, w) :: rest := by
        simp [inserted, sorted, front_]
      obtain ⟨stored, fills⟩ := holds.fills.cons fresh el
      rw [here] at room ⊢
      refine ⟨{ q with
        heap := put (put q.heap a ⟨none, el⟩) a ⟨some b, el⟩
        first_el := some a
        num_els := q.num_els + 1 }, ?_, ?_, rfl, ?_⟩
      · rw [front_cons] at stored
        simp [insertElement, sorted, first, kept.1, front_, stored, length]
      · exact ⟨fills, rfl, by simpa using some_, by simp [holds.num], room⟩
      · rw [lastAfter, if_neg]
        intro last
        exact outside (back_mem (back_inner (List.cons_ne_nil (b, w) rest) none (some a) ▸ last))
    | false =>
      have enough : rest.length < q.num_els := by simp [holds.num]
      have place := searchPlace_spec { q with heap := put q.heap a ⟨none, el⟩ } (a, el) kept enough
      obtain ⟨us, ⟨c, x⟩, vs, parts, here, found⟩ := place
      have there :
          inserted q.toSettings (a, el) ((b, w) :: rest) = us ++ (c, x) :: (a, el) :: vs := by
        rw [← here]
        simp [inserted, sorted, front_]
      have fills := holds.fills
      rw [parts] at fills
      obtain ⟨storedOne, storedTwo, fills⟩ := fills.insert fresh el
      rw [there] at room ⊢
      refine ⟨{ q with
        heap := put (put (put q.heap a ⟨none, el⟩) c ⟨some a, x⟩) a ⟨front vs none, el⟩
        last_el := if front vs none = none then some a else q.last_el
        num_els := q.num_els + 1 }, ?_, ?_, rfl, ?_⟩
      · rw [first] at found
        simp [insertElement, sorted, first, kept.1, front_, found, storedOne, storedTwo, length]
      · refine ⟨fills, ?_, ?_, ?_, room⟩
        · rw [holds.first, parts]
          cases us <;> rfl
        · by_cases last : front vs none = none
          · simp [last]
          · simp [last, some_]
        · have long := congrArg List.length parts
          simp only [List.length_cons, List.length_append] at long
          simp only [holds.num, List.length_cons, List.length_append]
          omega
      · have outsideV : a ∉ addrs vs := by
          rw [parts, addrs_append, addrs_cons] at outside
          exact fun member => outside (by simp [member])
        rw [lastAfter, List.append_cons]
        simp only [back_behind none outsideV, front_eq_none]

/-- Where elements go to the end, the end must be known. -/
theorem insertElement_spec (holds : Holds q xs) (small : xs.length < uintxMax - 1)
    (fresh : q.heap a = none) (straight : q.sort = false → Straight q xs) (el : α) :
    ∃ q', insertElement q el a = some q' ∧ Holds q' (inserted q.toSettings (a, el) xs) ∧
      q'.toSettings = q.toSettings ∧
      q'.last_el = lastAfter a q.last_el (inserted q.toSettings (a, el) xs) := by
  cases sorted : q.sort with
  | true => exact insertElement_sorted holds small fresh sorted el
  | false =>
    obtain ⟨q', done, holds', same, last⟩ :=
      insertElement_last holds small fresh sorted (straight sorted) el
    rw [inserted_unsorted sorted]
    exact ⟨q', done, holds', same, by rw [last, lastAfter]; simp⟩

theorem lastAfter_straight {us vs : List (Entry α)} (outside : a ∉ addrs (us ++ vs)) (el : α) :
    lastAfter a (back none (us ++ vs)) (us ++ (a, el) :: vs) = back none (us ++ (a, el) :: vs) := by
  have outsideV : a ∉ addrs vs := fun member => outside (by simp [member])
  by_cases last : back none (us ++ (a, el) :: vs) = some a
  · rw [lastAfter, if_pos last, last]
  · have behind : vs ≠ [] := mt (back_behind none outsideV).mpr last
    rw [lastAfter, if_neg last, back_append, back_append]
    exact back_inner behind _ _

/-- The first element that the test accepts, with what is before and behind it. -/
def chosen (accepts : Node α → Bool) :
    List (Entry α) → Option (List (Entry α) × Entry α × List (Entry α))
  | [] => none
  | (a, v) :: rest =>
      if accepts ⟨front rest none, v⟩ then some ([], (a, v), rest)
      else (chosen accepts rest).map fun (us, e, vs) => ((a, v) :: us, e, vs)

theorem chosen_parts {accepts : Node α → Bool} {us vs : List (Entry α)} {e : Entry α}
    (found : chosen accepts xs = some (us, e, vs)) : xs = us ++ e :: vs := by
  induction xs generalizing us with
  | nil => cases found
  | cons x xs ih =>
    obtain ⟨a, v⟩ := x
    cases accepted : accepts ⟨front xs none, v⟩ with
    | true =>
      simp only [chosen, accepted, if_true, Option.some.injEq, Prod.mk.injEq] at found
      obtain ⟨rfl, rfl, rfl⟩ := found
      rfl
    | false =>
      simp only [chosen, accepted, Bool.false_eq_true, if_false, Option.map_eq_some_iff] at found
      obtain ⟨⟨us', e', vs'⟩, later, same⟩ := found
      simp only [Prod.mk.injEq] at same
      obtain ⟨rfl, rfl, rfl⟩ := same
      rw [ih later]
      rfl

theorem findElement_none {heap : Heap (Node α)} {accepts : Node α → Bool}
    (linked : Linked heap xs none) (none_ : chosen accepts xs = none) {fuel : Nat}
    (enough : xs.length < fuel) (prev : Ptr) :
    findElement heap (some accepts) fuel prev (front xs none) = some (back prev xs, none) := by
  induction xs generalizing fuel prev with
  | nil =>
    obtain ⟨fuel, rfl⟩ : ∃ k, fuel = k + 1 := ⟨fuel - 1, by omega⟩
    rfl
  | cons x xs ih =>
    obtain ⟨a, v⟩ := x
    obtain ⟨fuel, rfl⟩ : ∃ k, fuel = k + 1 := ⟨fuel - 1, by omega⟩
    rw [List.length_cons, Nat.add_lt_add_iff_right] at enough
    obtain ⟨here, rest⟩ := linked
    cases accepted : accepts ⟨front xs none, v⟩ with
    | true => simp [chosen, accepted] at none_
    | false =>
      have later : chosen accepts xs = none := by simpa [chosen, accepted] using none_
      simp [findElement, here, accepted, ih rest later enough (some a)]

theorem findElement_some {heap : Heap (Node α)} {accepts : Node α → Bool}
    (linked : Linked heap xs none) {us vs : List (Entry α)} {e : Entry α}
    (found : chosen accepts xs = some (us, e, vs))
    {fuel : Nat} (enough : xs.length < fuel) (prev : Ptr) :
    findElement heap (some accepts) fuel prev (front xs none) = some (back prev us, some e.1) := by
  induction xs generalizing us fuel prev with
  | nil => cases found
  | cons x xs ih =>
    obtain ⟨a, v⟩ := x
    obtain ⟨fuel, rfl⟩ : ∃ k, fuel = k + 1 := ⟨fuel - 1, by omega⟩
    rw [List.length_cons, Nat.add_lt_add_iff_right] at enough
    obtain ⟨here, rest⟩ := linked
    cases accepted : accepts ⟨front xs none, v⟩ with
    | true =>
      simp only [chosen, accepted, if_true, Option.some.injEq, Prod.mk.injEq] at found
      obtain ⟨rfl, rfl, rfl⟩ := found
      simp [findElement, here, accepted]
    | false =>
      simp only [chosen, accepted, Bool.false_eq_true, if_false, Option.map_eq_some_iff] at found
      obtain ⟨⟨us', e', vs'⟩, later, same⟩ := found
      simp only [Prod.mk.injEq] at same
      obtain ⟨rfl, rfl, rfl⟩ := same
      simp [findElement, here, accepted, ih rest later enough (some a)]

theorem uncounted (some_ : xs.length ≠ 0) (small : xs.length ≤ uintxMax - 1) :
    (xs.length + uintxMax) % (uintxMax + 1) = xs.length - 1 := by
  rw [uintxMax] at small ⊢
  omega

/-- The first element is taken. -/
theorem Holds.takeFirst {v : α} (holds : Holds q ((a, v) :: xs)) {cmp : Option (Node α → Bool)}
    (found : findElement q.heap cmp (q.num_els + 1) none q.first_el = some (none, some a)) :
    ∃ q', takeElement q cmp = some (.returns .ok q' (some v)) ∧ Holds q' xs ∧
      q'.toSettings = q.toSettings ∧ q'.last_el = if xs = [] then none else q.last_el := by
  have length := uncounted (by simp) holds.small
  rw [← holds.num] at length
  obtain ⟨here, freed, fills⟩ := holds.fills.tail
  have some_ : q.last_el ≠ none := fun none_ => by simpa using holds.last.mp none_
  refine ⟨{ q with
    heap := drop q.heap a
    num_els := q.num_els - 1
    first_el := front xs none
    last_el := if front xs none = none then none else q.last_el }, ?_, ?_, rfl, ?_⟩
  · simp [takeElement, found, here, freed, length]
  · refine ⟨fills, rfl, ?_, by simp [holds.num], ?_⟩
    · by_cases last : front xs none = none
      · simp [front_eq_none.mp last]
      · simp [last, some_, mt front_eq_none.mpr last]
    · have := holds.small
      simp at this ⊢
      omega
  · simp only [front_eq_none]

/-- An element behind another one is taken; `last_el` stays as it is. -/
theorem Holds.takeInner {b : Addr} {v w : α} (holds : Holds q (xs ++ (b, w) :: (a, v) :: ys))
    {cmp : Option (Node α → Bool)}
    (found : findElement q.heap cmp (q.num_els + 1) none q.first_el = some (some b, some a)) :
    ∃ q', takeElement q cmp = some (.returns .ok q' (some v)) ∧ Holds q' (xs ++ (b, w) :: ys) ∧
      q'.toSettings = q.toSettings ∧ q'.last_el = q.last_el := by
  have length := uncounted (by simp) holds.small
  rw [← holds.num] at length
  obtain ⟨here, stored, freed, fills⟩ := holds.fills.remove
  have some_ : q.last_el ≠ none := fun none_ => by simpa using holds.last.mp none_
  refine ⟨{ q with
    heap := drop (put q.heap b ⟨front ys none, w⟩) a
    num_els := q.num_els - 1 }, ?_, ?_, rfl, rfl⟩
  · simp [takeElement, found, here, stored, freed, length]
  · refine ⟨fills, ?_, by simpa using some_, ?_, ?_⟩
    · rw [holds.first]
      cases xs <;> rfl
    · have long := holds.num
      simp at long ⊢
      omega
    · have small := holds.small
      simp at small ⊢
      omega

theorem flushLoop_spec {heap : Heap (Node α)} (linked : Linked heap xs none)
    (nodup : (addrs xs).Nodup) {fuel : Nat} (enough : xs.length < fuel) (data : List α) :
    ∃ heap', flushLoop fuel heap (front xs none) data = some (heap', data ++ xs.map (·.2)) ∧
      (∀ b ∈ addrs xs, heap' b = none) ∧ ∀ b, b ∉ addrs xs → heap' b = heap b := by
  induction xs generalizing heap fuel data with
  | nil =>
    obtain ⟨fuel, rfl⟩ : ∃ k, fuel = k + 1 := ⟨fuel - 1, by omega⟩
    exact ⟨heap, by simp [flushLoop], by simp, fun _ _ => rfl⟩
  | cons x xs ih =>
    obtain ⟨a, v⟩ := x
    obtain ⟨fuel, rfl⟩ : ∃ k, fuel = k + 1 := ⟨fuel - 1, by omega⟩
    rw [List.length_cons, Nat.add_lt_add_iff_right] at enough
    obtain ⟨here, rest⟩ := linked
    obtain ⟨outside, nodupRest⟩ := List.nodup_cons.mp nodup
    obtain ⟨heap', flushed, gone, kept⟩ :=
      ih (rest.drop_fresh outside) nodupRest enough (data ++ [v])
    refine ⟨heap', ?_, ?_, ?_⟩
    · simp [flushLoop, here, free_live here, flushed]
    · intro b member
      rcases List.mem_cons.mp member with rfl | member
      · rw [kept b outside, drop_self]
      · exact gone b member
    · intro b other
      simp only [addrs_cons, List.mem_cons, not_or] at other
      rw [kept b other.2, drop_other other.1]

theorem Holds.flush (holds : Holds q xs) : ∃ q', queue_flush_internal q = some (q', xs.map (·.2)) ∧
    Holds q' [] ∧ q'.toSettings = q.toSettings := by
  obtain ⟨heap', flushed, gone, kept⟩ := flushLoop_spec holds.fills.linked holds.fills.nodup
    (Nat.lt_succ_self xs.length) []
  refine ⟨{ q with heap := heap', first_el := none, last_el := none, num_els := 0 }, ?_, ?_, rfl⟩
  · rw [queue_flush_internal, holds.first, holds.num, flushed]
    rfl
  · refine ⟨⟨trivial, .nil, fun b live => ?_⟩, rfl, by simp, rfl, Nat.zero_le _⟩
    by_cases member : b ∈ addrs xs
    · exact absurd (gone b member) live
    · exact absurd (holds.fills.live b (kept b member ▸ live)) member

end HiMaxGateway.Queue
