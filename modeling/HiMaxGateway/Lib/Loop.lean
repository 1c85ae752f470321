import HiMaxGateway.Lib.Walk
import Mathlib.Data.List.Forall2

/-! Loops that carry a state from visit to visit. -/
namespace Loop
open Walk

structure Step (σ α ε : Type) where
  flow : Flow := .next
  state : σ
  value : α
  events : List ε := []

variable {σ α ε : Type} (visit : σ → α → Step σ α ε)

def loop (s : σ) : List α → Step σ (List α) ε
  | [] => { state := s, value := [] }
  | a :: rest =>
      let step := visit s a
      match step.flow with
      | .next =>
          let more := loop step.state rest
          { more with value := step.value :: more.value, events := step.events ++ more.events }
      | flow => { flow, state := step.state, value := step.value :: rest, events := step.events }

/-- The visit does nothing. -/
def Quiet (a : α) : Prop := ∀ s, visit s a = { state := s, value := a }

/-- The visit does nothing in these states. -/
def QuietIn (states : σ → Prop) (a : α) : Prop :=
  ∀ s, states s → visit s a = { state := s, value := a }

theorem loop_cons_next {s : σ} {a : α} (next : (visit s a).flow = .next) (rest : List α) :
    loop visit s (a :: rest) =
      { flow := (loop visit (visit s a).state rest).flow
        state := (loop visit (visit s a).state rest).state
        value := (visit s a).value :: (loop visit (visit s a).state rest).value
        events := (visit s a).events ++ (loop visit (visit s a).state rest).events } := by
  simp only [loop, next]

theorem loop_cons_left {s : σ} {a : α} (left : (visit s a).flow ≠ .next) (rest : List α) :
    loop visit s (a :: rest) =
      { flow := (visit s a).flow
        state := (visit s a).state
        value := (visit s a).value :: rest
        events := (visit s a).events } := by
  cases flow : (visit s a).flow with
  | next => contradiction
  | stop => simp only [loop, flow]
  | crash => simp only [loop, flow]

theorem loop_quietIn {states : σ → Prop} {parts : List α}
    (quiet : ∀ a ∈ parts, QuietIn visit states a) {s : σ} (within : states s) :
    loop visit s parts = { state := s, value := parts } := by
  induction parts with
  | nil => rfl
  | cons a rest ih =>
    have here := quiet a (by simp) s within
    have more := ih fun b member => quiet b (by simp [member])
    rw [loop_cons_next visit (by rw [here])]
    simp [here, more]

theorem loop_quiet {parts : List α} (quiet : ∀ a ∈ parts, Quiet visit a) (s : σ) :
    loop visit s parts = { state := s, value := parts } :=
  loop_quietIn visit (fun a member s (_ : True) => quiet a member s) trivial

/-- What comes behind elements that never leave the loop is visited in some state. -/
theorem loop_reaches {before : List α} (goes : ∀ b ∈ before, ∀ s, (visit s b).flow = .next)
    (rest : List α) (s : σ) : ∃ s', (loop visit s (before ++ rest)).events =
      (loop visit s before).events ++ (loop visit s' rest).events := by
  induction before generalizing s with
  | nil => exact ⟨s, rfl⟩
  | cons b before ih =>
    have next := goes b (by simp) s
    obtain ⟨s', more⟩ := ih (fun c member => goes c (by simp [member])) (visit s b).state
    refine ⟨s', ?_⟩
    rw [List.cons_append, loop_cons_next visit next, loop_cons_next visit next]
    simp [more]

/-- Where only one element is not quiet, the loop is the visit of that element. -/
theorem loop_singleIn {states : σ → Prop} {before after : List α} (a : α)
    (earlier : ∀ b ∈ before, QuietIn visit states b) (later : ∀ b ∈ after, QuietIn visit states b)
    {s : σ} (within : states s) (goes : (visit s a).flow = .next → states (visit s a).state) :
    loop visit s (before ++ a :: after) =
      { flow := (visit s a).flow
        state := (visit s a).state
        value := before ++ (visit s a).value :: after
        events := (visit s a).events } := by
  induction before with
  | nil =>
    by_cases next : (visit s a).flow = .next
    · rw [List.nil_append, loop_cons_next visit next, loop_quietIn visit later (goes next)]
      simp [next]
    · exact loop_cons_left visit next after
  | cons b before ih =>
    have here := earlier b (by simp) s within
    have more := ih fun c member => earlier c (by simp [member])
    rw [List.cons_append, loop_cons_next visit (by rw [here])]
    simp [here, more]

theorem loop_single {before after : List α} (a : α) (earlier : ∀ b ∈ before, Quiet visit b)
    (later : ∀ b ∈ after, Quiet visit b) (s : σ) :
    loop visit s (before ++ a :: after) =
      { flow := (visit s a).flow
        state := (visit s a).state
        value := before ++ (visit s a).value :: after
        events := (visit s a).events } :=
  loop_singleIn visit a (fun b member s (_ : True) => earlier b member s)
    (fun b member s _ => later b member s) trivial (fun _ => trivial)

/-- What each visit leaves of its element, the loop leaves of the list. -/
theorem loop_forall₂ {kept : α → α → Prop} (same : ∀ a, kept a a)
    (each : ∀ s a, kept a (visit s a).value) (parts : List α) (s : σ) :
    List.Forall₂ kept parts (loop visit s parts).value := by
  induction parts generalizing s with
  | nil => exact .nil
  | cons a rest ih =>
    by_cases next : (visit s a).flow = .next
    · rw [loop_cons_next visit next]
      exact .cons (each s a) (ih _)
    · rw [loop_cons_left visit next]
      exact .cons (each s a) (List.forall₂_same.mpr fun b _ => same b)

/-- An event that ends the loop happens at most once. -/
theorem loop_count_le_one {counted : ε → Bool}
    (once : ∀ s a, (visit s a).events.countP counted ≤ 1)
    (goes : ∀ s a, (visit s a).flow = .next → (visit s a).events.countP counted = 0)
    (parts : List α) (s : σ) : (loop visit s parts).events.countP counted ≤ 1 := by
  induction parts generalizing s with
  | nil => simp [loop]
  | cons a rest ih =>
    by_cases next : (visit s a).flow = .next
    · rw [loop_cons_next visit next, List.countP_append, goes s a next, Nat.zero_add]
      exact ih _
    · rw [loop_cons_left visit next]
      exact once s a

end Loop
