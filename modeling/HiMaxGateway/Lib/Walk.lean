import Mathlib.Data.List.Basic

/-! Loops that visit the elements of a list in place, may act at each of them
and may leave the list early. -/
namespace Walk

/-- How a visit ends: the loop goes on, is left by `break`, or the process dies. -/
inductive Flow where
  | next
  | stop
  | crash
  deriving DecidableEq, Repr

structure Visit (α ε : Type) where
  flow : Flow := .next
  value : α
  acts : List ε := []

variable {α ε : Type} (visit : α → Visit α ε)

/-- The element left behind and the actions taken, position by position. -/
def walk : List α → Flow × List (α × List ε)
  | [] => (.next, [])
  | a :: rest =>
      let step := visit a
      match step.flow with
      | .next => ((walk rest).1, (step.value, step.acts) :: (walk rest).2)
      | flow => (flow, (step.value, step.acts) :: rest.map (·, []))

/-- A loop over the parts of one element: leaving it early does not leave the outer loop. -/
def innerWalk (rebuild : List α → β) (parts : List α) : Visit β ε where
  flow := if (walk visit parts).1 = .crash then .crash else .next
  value := rebuild ((walk visit parts).2.map (·.1))
  acts := (walk visit parts).2.flatMap (·.2)

theorem walk_cons_next {a : α} (next : (visit a).flow = .next) (rest : List α) :
    walk visit (a :: rest) =
      ((walk visit rest).1, ((visit a).value, (visit a).acts) :: (walk visit rest).2) := by
  simp only [walk, next]

theorem walk_cons_left {a : α} (left : (visit a).flow ≠ .next) (rest : List α) :
    walk visit (a :: rest) =
      ((visit a).flow, ((visit a).value, (visit a).acts) :: rest.map (·, [])) := by
  cases flow : (visit a).flow with
  | next => contradiction
  | stop => simp only [walk, flow]
  | crash => simp only [walk, flow]

theorem walk_length (parts : List α) : (walk visit parts).2.length = parts.length := by
  induction parts with
  | nil => rfl
  | cons a rest ih =>
    by_cases next : (visit a).flow = .next
    · simp [walk_cons_next visit next, ih]
    · simp [walk_cons_left visit next]

theorem walk_singleton (a : α) : (walk visit [a]).2 = [((visit a).value, (visit a).acts)] := by
  by_cases next : (visit a).flow = .next
  · rw [walk_cons_next visit next]
    rfl
  · rw [walk_cons_left visit next]
    rfl

/-- What happens at a position is the visit of the element there, or nothing
when an earlier visit left the loop. -/
theorem walk_at (before : List α) (a : α) (after : List α) :
    (walk visit (before ++ a :: after)).2[before.length]? =
      some (if ∀ b ∈ before, (visit b).flow = .next then ((visit a).value, (visit a).acts)
        else (a, [])) := by
  induction before with
  | nil =>
    by_cases next : (visit a).flow = .next
    · simp [walk_cons_next visit next]
    · simp [walk_cons_left visit next]
  | cons b before ih =>
    by_cases next : (visit b).flow = .next
    · rw [List.cons_append, walk_cons_next visit next]
      simpa [next] using ih
    · rw [List.cons_append, walk_cons_left visit next]
      simp [next]

/-- The loop dies at the first element that does not go on, if that one dies. -/
theorem walk_crash (parts : List α) : (walk visit parts).1 = .crash ↔
    ∃ before a after, parts = before ++ a :: after ∧ (visit a).flow = .crash ∧
      ∀ b ∈ before, (visit b).flow = .next := by
  induction parts with
  | nil => simp [walk]
  | cons a rest ih =>
    by_cases next : (visit a).flow = .next
    · rw [walk_cons_next visit next, ih]
      constructor
      · rintro ⟨before, b, after, rfl, dies, earlier⟩
        exact ⟨a :: before, b, after, rfl, dies, List.forall_mem_cons.mpr ⟨next, earlier⟩⟩
      · rintro ⟨before, b, after, split, dies, earlier⟩
        cases before with
        | nil =>
          cases split
          simp [next] at dies
        | cons first before =>
          cases split
          exact ⟨before, b, after, rfl, dies, (List.forall_mem_cons.mp earlier).2⟩
    · rw [walk_cons_left visit next]
      constructor
      · intro dies
        exact ⟨[], a, rest, rfl, dies, by simp⟩
      · rintro ⟨before, b, after, split, dies, earlier⟩
        cases before with
        | nil =>
          cases split
          exact dies
        | cons first before =>
          cases split
          exact absurd (earlier a (by simp)) next

theorem walk_safe (parts : List α) (safe : ∀ a ∈ parts, (visit a).flow ≠ .crash) :
    (walk visit parts).1 ≠ .crash := by
  intro dies
  obtain ⟨before, a, after, rfl, here, -⟩ := (walk_crash visit parts).mp dies
  exact safe a (by simp) here

/-- Without `break` every element is reached unless the loop dies before it. -/
theorem walk_crash_of_stays (parts : List α) (stays : ∀ a, (visit a).flow ≠ .stop) :
    (walk visit parts).1 = .crash ↔ ∃ a ∈ parts, (visit a).flow = .crash := by
  induction parts with
  | nil => simp [walk]
  | cons a rest ih =>
    cases flow : (visit a).flow with
    | stop => exact absurd flow (stays a)
    | crash => simp [walk_cons_left visit (by simp [flow] : (visit a).flow ≠ .next), flow]
    | next => simp [walk_cons_next visit flow, ih, flow]

/-- The visit at a position is made when every earlier one goes on. -/
theorem walk_getElem? {parts : List α} {i : Nat} {a : α} (here : parts[i]? = some a) :
    (walk visit parts).2[i]? =
      some (if ∀ j < i, ∀ b, parts[j]? = some b → (visit b).flow = .next
        then ((visit a).value, (visit a).acts) else (a, [])) := by
  obtain ⟨bound, rfl⟩ := List.getElem?_eq_some_iff.mp here
  have split : parts = parts.take i ++ parts[i] :: parts.drop (i + 1) := by
    rw [List.getElem_cons_drop, List.take_append_drop]
  have length : (parts.take i).length = i := by
    rw [List.length_take]
    omega
  have earlier : (∀ b ∈ parts.take i, (visit b).flow = .next) ↔
      ∀ j < i, ∀ b, parts[j]? = some b → (visit b).flow = .next := by
    simp only [List.mem_take_iff_getElem, List.getElem?_eq_some_iff]
    constructor
    · rintro all j before b ⟨inside, rfl⟩
      exact all _ ⟨j, by omega, rfl⟩
    · rintro all b ⟨j, inside, rfl⟩
      exact all j (by omega) _ ⟨by omega, rfl⟩
  have visited := walk_at visit (parts.take i) parts[i] (parts.drop (i + 1))
  rw [← split, length] at visited
  simp only [visited, earlier]

/-- The loop dies exactly when it reaches an element whose visit dies. -/
theorem walk_crash_reached (parts : List α) : (walk visit parts).1 = .crash ↔
    ∃ (i : Nat) (a : α), parts[i]? = some a ∧ (visit a).flow = .crash ∧
      ∀ j < i, ∀ b, parts[j]? = some b → (visit b).flow ≠ .stop := by
  induction parts with
  | nil => simp [walk]
  | cons a rest ih =>
    cases flow : (visit a).flow with
    | crash =>
      rw [walk_cons_left visit (by simp [flow])]
      exact iff_of_true flow ⟨0, a, rfl, flow, by simp⟩
    | stop =>
      rw [walk_cons_left visit (by simp [flow])]
      refine iff_of_false (by simp [flow]) ?_
      rintro ⟨i, b, here, dies, earlier⟩
      cases i with
      | zero =>
        cases here
        simp [flow] at dies
      | succ i => exact earlier 0 (by omega) a rfl flow
    | next =>
      rw [walk_cons_next visit flow, ih]
      constructor
      · rintro ⟨i, b, here, dies, earlier⟩
        refine ⟨i + 1, b, here, dies, ?_⟩
        intro j before c there
        cases j with
        | zero =>
          cases there
          simp [flow]
        | succ j => exact earlier j (by omega) c there
      · rintro ⟨i, b, here, dies, earlier⟩
        cases i with
        | zero =>
          cases here
          simp [flow] at dies
        | succ i =>
          exact ⟨i, b, here, dies, fun j before c there => earlier (j + 1) (by omega) c there⟩

/-- What a loop does, one of its visits does. -/
theorem walk_acts {parts : List α} {act : ε} (done : act ∈ (walk visit parts).2.flatMap (·.2)) :
    ∃ a ∈ parts, act ∈ (visit a).acts := by
  obtain ⟨step, member, done⟩ := List.mem_flatMap.mp done
  obtain ⟨i, here⟩ := List.mem_iff_getElem?.mp member
  have length : (walk visit parts).2.length = parts.length := walk_length visit parts
  obtain ⟨a, there⟩ : ∃ a, parts[i]? = some a := by
    have bound := (List.getElem?_eq_some_iff.mp here).1
    exact ⟨_, List.getElem?_eq_getElem (length ▸ bound)⟩
  rw [walk_getElem? visit there] at here
  cases here
  split at done
  · exact ⟨a, List.mem_of_getElem? there, done⟩
  · simp at done

theorem walk_of_next {parts : List α} (next : ∀ a ∈ parts, (visit a).flow = .next) :
    (walk visit parts).2 = parts.map fun a => ((visit a).value, (visit a).acts) := by
  induction parts with
  | nil => rfl
  | cons a rest ih =>
    rw [walk_cons_next visit (next a (by simp)), ih fun b member => next b (by simp [member])]
    rfl

end Walk
