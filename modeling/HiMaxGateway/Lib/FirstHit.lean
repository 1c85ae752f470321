/-! The result of a search through the first places of a sequence. -/
namespace FirstHit

variable {hit : Nat → Prop} {n i : Nat} {result : Option Nat}

/-- The first of all places at which the search hits is `i`, one of the first `n`. -/
structure First (hit : Nat → Prop) (n i : Nat) : Prop where
  inside : i < n
  here : hit i
  before : ∀ j < i, ¬ hit j

/-- What a search through the first `n` places has to give. -/
def Finds (hit : Nat → Prop) (n : Nat) : Option Nat → Prop
  | some i => First hit n i
  | none => ∀ i < n, ¬ hit i

theorem Finds.eq_some (found : Finds hit n result) (first : First hit n i) : result = some i := by
  cases result with
  | none => exact absurd first.here (found i first.inside)
  | some j =>
    rcases Nat.lt_trichotomy j i with earlier | same | later
    · exact absurd found.here (first.before j earlier)
    · rw [same]
    · exact absurd first.here (found.before i later)

/-- One turn of a search: the place it starts with is hit, or the search goes on behind it. -/
theorem Finds.turn_hit (here : hit 0) : Finds hit (n + 1) (some 0) :=
  ⟨Nat.succ_pos n, here, fun _ negative => absurd negative (Nat.not_lt_zero _)⟩

theorem Finds.turn_miss (miss : ¬ hit 0) (found : Finds (fun i => hit (i + 1)) n result) :
    Finds hit (n + 1) (result.map (· + 1)) := by
  cases result with
  | none =>
    intro i inside
    cases i with
    | zero => exact miss
    | succ i => exact found i (Nat.lt_of_succ_lt_succ inside)
  | some i =>
    refine ⟨Nat.succ_lt_succ found.inside, found.here, fun j earlier => ?_⟩
    cases j with
    | zero => exact miss
    | succ j => exact found.before j (Nat.lt_of_succ_lt_succ earlier)

/-- A search that leaves out the last place is right unless the first hit is there. -/
theorem Finds.wider_iff (found : Finds hit n result) :
    Finds hit (n + 1) result ↔ (hit n → ∃ i < n, hit i) := by
  cases result with
  | none =>
    constructor
    · intro absent last
      exact absurd last (absent n (Nat.lt_succ_self n))
    · intro earlier i inside here
      rcases Nat.lt_succ_iff_lt_or_eq.mp inside with below | rfl
      · exact found i below here
      · obtain ⟨j, below, hits⟩ := earlier here
        exact found j below hits
  | some i =>
    refine ⟨fun _ _ => ⟨i, found.inside, found.here⟩, fun _ => ?_⟩
    exact ⟨Nat.lt_succ_of_lt found.inside, found.here, found.before⟩

end FirstHit
