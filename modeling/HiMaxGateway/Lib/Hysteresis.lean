import Mathlib.Data.List.Basic

/-! A counter that follows a two-valued signal up and down: it jumps to the middle when the signal
turns, and settles on a value only at its ends. -/
namespace Hysteresis

structure State where
  count : Int
  /-- The value it settled on. -/
  level : Option Bool
  deriving DecidableEq

/-- The middle is `n` and the upper end `2 * n`. -/
def step (n : Int) (s : State) : Bool → State
  | true =>
      if s.count < n then { s with count := n }
      else if s.count < n * 2 then { s with count := s.count + 1 }
      else { s with level := some true }
  | false =>
      if s.count > n then { s with count := n }
      else if s.count ≠ 0 then { s with count := s.count - 1 }
      else { s with level := some false }

def run (n : Int) (s : State) (signal : List Bool) : State := signal.foldl (step n) s

theorem run_append (n : Int) (s : State) (signal more : List Bool) :
    run n s (signal ++ more) = run n (run n s signal) more :=
  List.foldl_append

/-- How many of the newest values are equal to `v`. -/
def streak (v : Bool) : List Bool → Int
  | [] => 0
  | w :: older => if w = v then streak v older + 1 else 0

@[simp] theorem streak_same (v : Bool) (older : List Bool) :
    streak v (v :: older) = streak v older + 1 := by
  simp [streak]

theorem streak_nonneg (v : Bool) (newest : List Bool) : 0 ≤ streak v newest := by
  induction newest with
  | nil => exact Int.le_refl 0
  | cons w older ih =>
    unfold streak
    split <;> omega

/-- A streak as a part of the signal. -/
theorem streak_split (v : Bool) (newest : List Bool) :
    ∃ recent older, newest = recent ++ older ∧ (recent.length : Int) = streak v newest ∧
      ∀ w ∈ recent, w = v := by
  induction newest with
  | nil => exact ⟨[], [], rfl, rfl, by simp⟩
  | cons w newest ih =>
    by_cases same : w = v
    · subst w
      obtain ⟨recent, older, rfl, length, equal⟩ := ih
      refine ⟨v :: recent, older, rfl, ?_, ?_⟩
      · rw [List.length_cons, streak_same, ← length]
        rfl
      · simpa using equal
    · exact ⟨[], w :: newest, rfl, by simp [streak, same], by simp⟩

/-- The same for a signal that is written as it came. -/
theorem streak_reverse (v : Bool) (signal : List Bool) :
    ∃ earlier recent, signal = earlier ++ recent ∧ (recent.length : Int) = streak v signal.reverse ∧
      ∀ w ∈ recent, w = v := by
  obtain ⟨recent, older, split, length, equal⟩ := streak_split v signal.reverse
  refine ⟨older.reverse, recent.reverse, ?_, ?_, ?_⟩
  · rw [← List.reverse_append, ← split, List.reverse_reverse]
  · rw [List.length_reverse, length]
  · intro w member
    exact equal w (List.mem_reverse.mp member)

theorem step_true (n : Int) (s : State) :
    (s.count < n ∧ step n s true = { s with count := n }) ∨
    (n ≤ s.count ∧ s.count < n * 2 ∧ step n s true = { s with count := s.count + 1 }) ∨
    (n ≤ s.count ∧ n * 2 ≤ s.count ∧ step n s true = { s with level := some true }) := by
  by_cases low : s.count < n
  · exact .inl ⟨low, if_pos low⟩
  · by_cases inside : s.count < n * 2
    · exact .inr (.inl ⟨by omega, inside, by rw [step, if_neg low, if_pos inside]⟩)
    · exact .inr (.inr ⟨by omega, by omega, by rw [step, if_neg low, if_neg inside]⟩)

theorem step_false (n : Int) (s : State) :
    (n < s.count ∧ step n s false = { s with count := n }) ∨
    (s.count ≤ n ∧ s.count ≠ 0 ∧ step n s false = { s with count := s.count - 1 }) ∨
    (s.count ≤ n ∧ s.count = 0 ∧ step n s false = { s with level := some false }) := by
  by_cases high : s.count > n
  · exact .inl ⟨high, if_pos high⟩
  · by_cases zero : s.count = 0
    · exact .inr (.inr ⟨by omega, zero, by rw [step, if_neg high, if_neg (not_not.mpr zero)]⟩)
    · exact .inr (.inl ⟨by omega, zero, by rw [step, if_neg high, if_pos zero]⟩)

/-- What the counter knows of the signal so far, newest first: how far it is from the middle is at
most the length of the streak. Before the first `true` it rests at the lower end. -/
structure Follows (n : Int) (s : State) (newest : List Bool) : Prop where
  lower : 0 ≤ s.count
  upper : s.count ≤ n * 2
  above : s.count - n ≤ streak true newest
  below : true ∈ newest → n - s.count ≤ streak false newest
  rests : true ∉ newest → s.count = 0
  /-- It does not settle on `true` before it has seen it. -/
  seen : s.level = some true → true ∈ newest

theorem follows_start {n : Int} (nonneg : 0 ≤ n) : Follows n { count := 0, level := none } [] where
  lower := Int.le_refl 0
  upper := by simpa only using (by omega : 0 ≤ n * 2)
  above := by simpa [streak] using nonneg
  below := by simp
  rests _ := rfl
  seen := by simp

theorem follows_true {n : Int} {s : State} {newest : List Bool} (nonneg : 0 ≤ n)
    (follows : Follows n s newest) : Follows n (step n s true) (true :: newest) := by
  have ups := streak_nonneg true newest
  have fresh : streak false (true :: newest) = 0 := rfl
  have above := follows.above
  have upper := follows.upper
  rcases step_true n s with ⟨low, stepped⟩ | ⟨middle, inside, stepped⟩ | ⟨middle, full, stepped⟩
  all_goals rw [stepped]
  all_goals refine ⟨?_, ?_, ?_, fun _ => ?_, by simp, by simp⟩
  all_goals simp only [streak_same, fresh]
  all_goals omega

theorem follows_false {n : Int} {s : State} {newest : List Bool} (nonneg : 0 ≤ n)
    (follows : Follows n s newest) : Follows n (step n s false) (false :: newest) := by
  have downs := streak_nonneg false newest
  have fresh : streak true (false :: newest) = 0 := rfl
  have old : true ∈ false :: newest ↔ true ∈ newest := by simp
  have lower := follows.lower
  have upper := follows.upper
  rcases step_false n s with ⟨high, stepped⟩ | ⟨middle, inside, stepped⟩ | ⟨middle, empty, stepped⟩
  all_goals
    have kept : (step n s false).level = some true → s.level = some true := by simp [stepped]
    rw [stepped] at kept ⊢
    refine ⟨?_, ?_, ?_, fun seen => ?below, fun unseen => ?rests, fun level => ?seen⟩
    case below =>
      have below := follows.below (old.mp seen)
      simp only [streak_same]
      omega
    case rests =>
      have rests := follows.rests (mt old.mpr unseen)
      simp only
      omega
    case seen => exact old.mpr (follows.seen (kept level))
    all_goals simp only [fresh]
    all_goals omega

theorem follows_step {n : Int} {s : State} {newest : List Bool} (nonneg : 0 ≤ n)
    (follows : Follows n s newest) (v : Bool) : Follows n (step n s v) (v :: newest) := by
  cases v with
  | true => exact follows_true nonneg follows
  | false => exact follows_false nonneg follows

theorem follows_run {n : Int} {s : State} {newest : List Bool} (nonneg : 0 ≤ n)
    (follows : Follows n s newest) (signal : List Bool) :
    Follows n (run n s signal) (signal.reverse ++ newest) := by
  induction signal generalizing s newest with
  | nil => exact follows
  | cons v signal ih =>
    rw [List.reverse_cons, List.append_assoc]
    exact ih (follows_step nonneg follows v)

/-- The level turns only at the end of a streak of more than `n` values. -/
theorem turns_late {n : Int} {s : State} {newest : List Bool} {old new : Bool}
    (follows : Follows n s newest) (v : Bool) (before : s.level = some old)
    (after : (step n s v).level = some new) (turns : old ≠ new) :
    v = new ∧ n + 1 ≤ streak new (v :: newest) := by
  have stays : ∀ count, ({ s with count := count } : State).level ≠ some new := by
    intro count same
    exact turns (Option.some.inj (before.symm.trans same))
  cases v with
  | true =>
    rcases step_true n s with ⟨low, stepped⟩ | ⟨middle, inside, stepped⟩ | ⟨middle, full, stepped⟩
    · exact absurd (stepped ▸ after) (stays _)
    · exact absurd (stepped ▸ after) (stays _)
    · rw [stepped] at after
      cases after
      have above := follows.above
      exact ⟨rfl, by rw [streak_same]; omega⟩
  | false =>
    rcases step_false n s with ⟨high, stepped⟩ | ⟨middle, inside, stepped⟩ | ⟨middle, empty,
      stepped⟩
    · exact absurd (stepped ▸ after) (stays _)
    · exact absurd (stepped ▸ after) (stays _)
    · rw [stepped] at after
      cases after
      -- The old level was `true`, so it has been seen.
      have seen := follows.seen (by rw [before, Bool.not_eq_false _ |>.mp turns])
      have below := follows.below seen
      exact ⟨rfl, by rw [streak_same]; omega⟩

/-- How many equal values settle the level. -/
def need (n : Int) (s : State) : Bool → Int
  | true => if s.count < n then n + 2 else n * 2 - s.count + 1
  | false => if s.count > n then n + 2 else s.count + 1

theorem need_pos {n : Int} {s : State} (nonneg : 0 ≤ n) (lower : 0 ≤ s.count)
    (upper : s.count ≤ n * 2) (v : Bool) : 0 < need n s v := by
  cases v with
  | true =>
    unfold need
    split <;> omega
  | false =>
    unfold need
    split <;> omega

theorem need_le {n : Int} {s : State} (nonneg : 0 ≤ n) (lower : 0 ≤ s.count) (v : Bool) :
    need n s v ≤ n * 2 + 2 := by
  cases v with
  | true =>
    unfold need
    split <;> omega
  | false =>
    unfold need
    split <;> omega

/-- Each value settles the level or is one of those needed. -/
theorem step_need (n : Int) (s : State) (v : Bool) :
    (step n s v).level = some v ∨ need n (step n s v) v + 1 ≤ need n s v := by
  cases v with
  | true =>
    rcases step_true n s with ⟨low, stepped⟩ | ⟨middle, inside, stepped⟩ | ⟨middle, full, stepped⟩
    · right
      rw [stepped, need, need, if_pos low, if_neg (by simp)]
      dsimp only
      omega
    · right
      have still : ¬s.count + 1 < n := by omega
      rw [stepped, need, need, if_neg still, if_neg (by omega)]
      dsimp only
      omega
    · left
      rw [stepped]
  | false =>
    rcases step_false n s with ⟨high, stepped⟩ | ⟨middle, inside, stepped⟩ | ⟨middle, empty,
      stepped⟩
    · right
      rw [stepped, need, need, if_pos high, if_neg (by simp)]
      dsimp only
      omega
    · right
      have still : ¬s.count - 1 > n := by omega
      rw [stepped, need, need, if_neg still, if_neg (by omega)]
      dsimp only
      omega
    · left
      rw [stepped]

/-- A level is left only by the other value. -/
theorem step_settled {n : Int} {s : State} {v : Bool} (settled : s.level = some v) :
    (step n s v).level = some v := by
  cases v with
  | true =>
    rcases step_true n s with ⟨-, stepped⟩ | ⟨-, -, stepped⟩ | ⟨-, -, stepped⟩
    all_goals simp only [stepped, settled]
  | false =>
    rcases step_false n s with ⟨-, stepped⟩ | ⟨-, -, stepped⟩ | ⟨-, -, stepped⟩
    all_goals simp only [stepped, settled]

theorem run_settled {n : Int} {s : State} {v : Bool} {signal : List Bool}
    (equal : ∀ w ∈ signal, w = v) (settled : s.level = some v) :
    (run n s signal).level = some v := by
  induction signal generalizing s with
  | nil => exact settled
  | cons w signal ih =>
    cases equal w List.mem_cons_self
    exact ih (fun w member => equal w (List.mem_cons_of_mem v member)) (step_settled settled)

/-- Enough equal values settle the level. -/
theorem run_settles {n : Int} {s : State} {newest signal : List Bool} {v : Bool} (nonneg : 0 ≤ n)
    (follows : Follows n s newest) (equal : ∀ w ∈ signal, w = v)
    (enough : need n s v ≤ signal.length) :
    (run n s signal).level = some v := by
  induction signal generalizing s newest with
  | nil =>
    have := need_pos nonneg follows.lower follows.upper v
    rw [List.length_nil] at enough
    omega
  | cons w signal ih =>
    cases equal w List.mem_cons_self
    have rest : ∀ w ∈ signal, w = v := fun w member => equal w (List.mem_cons_of_mem v member)
    rcases step_need n s v with settled | fewer
    · exact run_settled (s := step n s v) rest settled
    · refine ih (follows_step nonneg follows v) rest ?_
      rw [List.length_cons] at enough
      omega

end Hysteresis
