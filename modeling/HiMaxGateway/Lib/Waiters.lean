import Mathlib.Data.Multiset.MapFold
import Mathlib.Data.Multiset.Filter
import Mathlib.Data.Multiset.Count

/-! Threads that wait on a condition variable. A room holds what each thread is about to do; some
of them sleep, and some were woken and have yet to look. A signal wakes a sleeping thread, if
there is one; a thread may also wake up by itself. -/
namespace Waiters

variable {φ : Type} (asleep awake : φ → Prop) (woken : φ → φ)

/-- One sleeping thread wakes up, if there is one. -/
inductive Signal : Multiset φ → Multiset φ → Prop where
  | wakes : asleep p → Signal (p ::ₘ rest) (woken p ::ₘ rest)
  | lost : (∀ p ∈ room, ¬asleep p) → Signal room room

variable [DecidablePred awake]

variable {asleep woken} in
/-- A signal changes nothing that does not depend on being asleep. -/
theorem Signal.filterMap {room room' : Multiset φ} {β : Type} {f : φ → Option β}
    (signal : Signal asleep woken room room') (same : ∀ p, f (woken p) = f p) :
    room'.filterMap f = room.filterMap f := by
  cases signal with
  | @wakes p rest slept =>
    have same := same p
    cases value : f p with
    | none =>
      rw [Multiset.filterMap_cons_none _ _ value, Multiset.filterMap_cons_none _ _
        (same.trans value)]
    | some b =>
      rw [Multiset.filterMap_cons_some _ _ _ value, Multiset.filterMap_cons_some _ _ _
        (same.trans value)]
  | lost => rfl

variable {asleep woken} in
theorem Signal.countP {room room' : Multiset φ} {f : φ → Prop} [DecidablePred f]
    (signal : Signal asleep woken room room') (same : ∀ p, f (woken p) ↔ f p) :
    room'.countP f = room.countP f := by
  cases signal with
  | wakes slept => simp only [Multiset.countP_cons, same]
  | lost => rfl

/-- While threads sleep, there is at most as much work as threads that were woken for it. -/
def Covered (work : Nat) (room : Multiset φ) : Prop :=
  (∃ p ∈ room, asleep p) → work ≤ room.countP awake

variable {asleep awake woken} {work : Nat} {room room' rest : Multiset φ} {p : φ}

theorem Covered.mono {less : Nat} (covered : Covered asleep awake work room) (fewer : less ≤ work) :
    Covered asleep awake less room :=
  fun sleeps => Nat.le_trans fewer (covered sleeps)

theorem covered_zero : Covered asleep awake 0 room := fun _ => Nat.zero_le _

theorem covered_of_none (none_ : ∀ p ∈ room, ¬asleep p) : Covered asleep awake work room := by
  rintro ⟨p, member, sleeps⟩
  exact absurd sleeps (none_ p member)

/-- New work, and a signal for it. -/
theorem Covered.signal (covered : Covered asleep awake work room)
    (wakes : ∀ p, asleep p → awake (woken p)) (sleeps : ∀ p, asleep p → ¬awake p)
    (signal : Signal asleep woken room room') :
    Covered asleep awake (work + 1) room' := by
  cases signal with
  | wakes slept =>
    rintro -
    have before := covered ⟨_, Multiset.mem_cons_self _ _, slept⟩
    rw [Multiset.countP_cons_of_neg _ (sleeps _ slept)] at before
    rw [Multiset.countP_cons_of_pos _ (wakes _ slept)]
    omega
  | lost none_ => exact covered_of_none none_

/-- A thread that was woken did a piece of the work, and is gone. -/
theorem Covered.served (covered : Covered asleep awake (work + 1) (p ::ₘ rest)) :
    Covered asleep awake work rest := by
  rintro ⟨q, member, sleeps⟩
  have before := covered ⟨q, Multiset.mem_cons_of_mem member, sleeps⟩
  rw [Multiset.countP_cons] at before
  split at before <;> omega

/-- A thread that was not woken for this work goes. -/
theorem Covered.leaves (covered : Covered asleep awake work (p ::ₘ rest)) (other : ¬awake p) :
    Covered asleep awake work rest := by
  rintro ⟨q, member, sleeps⟩
  have before := covered ⟨q, Multiset.mem_cons_of_mem member, sleeps⟩
  rwa [Multiset.countP_cons_of_neg _ other] at before

theorem Covered.joins (covered : Covered asleep awake work rest) (other : ¬asleep p) :
    Covered asleep awake work (p ::ₘ rest) := by
  rintro ⟨q, member, sleeps⟩
  rcases Multiset.mem_cons.mp member with rfl | member
  · exact absurd sleeps other
  · exact Nat.le_trans (covered ⟨q, member, sleeps⟩)
      (Multiset.countP_le_of_le _ (Multiset.le_cons_self _ _))

/-- A thread in another place: a sleeping one that wakes up, or one that does not count here. -/
theorem Covered.moves {q : φ} (covered : Covered asleep awake work (p ::ₘ rest))
    (counted : awake p → awake q) (slept : asleep q → asleep p) :
    Covered asleep awake work (q ::ₘ rest) := by
  rintro ⟨r, member, sleeps⟩
  have before : ∃ r ∈ p ::ₘ rest, asleep r := by
    rcases Multiset.mem_cons.mp member with rfl | member
    · exact ⟨p, Multiset.mem_cons_self _ _, slept sleeps⟩
    · exact ⟨r, Multiset.mem_cons_of_mem member, sleeps⟩
  refine Nat.le_trans (covered before) ?_
  rw [Multiset.countP_cons, Multiset.countP_cons]
  by_cases was : awake p
  · simp [was, counted was]
  · simp [was]

/-- Somebody is there who was woken, and there is no more than one piece of work. -/
theorem covered_one (member : p ∈ room) (wakeful : awake p) : Covered asleep awake 1 room :=
  fun _ => Multiset.countP_pos.mpr ⟨p, member, wakeful⟩

/-- Each thread in another place, such as after a broadcast for other threads. -/
theorem Covered.map {f : φ → φ} (covered : Covered asleep awake work room)
    (counted : ∀ p, awake p → awake (f p)) (slept : ∀ p, asleep (f p) → asleep p) :
    Covered asleep awake work (room.map f) := by
  rintro ⟨q, member, sleeps⟩
  obtain ⟨p, inside, rfl⟩ := Multiset.mem_map.mp member
  refine Nat.le_trans (covered ⟨p, inside, slept p sleeps⟩) ?_
  rw [Multiset.countP_map, Multiset.countP_eq_card_filter]
  exact Multiset.card_le_card (Multiset.monotone_filter_right room counted)

/-- A signal for other threads. -/
theorem Covered.other {asleep' : φ → Prop} (covered : Covered asleep awake work room)
    (signal : Signal asleep' woken room room')
    (counted : ∀ p, asleep' p → awake p → awake (woken p))
    (slept : ∀ p, asleep' p → asleep (woken p) → asleep p) : Covered asleep awake work room' := by
  cases signal with
  | wakes sleeps => exact covered.moves (counted _ sleeps) (slept _ sleeps)
  | lost => exact covered

end Waiters
