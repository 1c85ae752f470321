import Mathlib.Data.List.Nodup

/-! Singly linked cells: one link per cell, followed until it is empty. Cells
only ever gain a link at the end of a chain. -/
namespace Chain

variable {α : Type}

/-- The link of each cell. -/
abbrev Links (α : Type) := α → Option α

/-- Following the links of `a` visits exactly the cells `bs`, in this order, and ends. -/
def From (next : Links α) : α → List α → Prop
  | a, [] => next a = none
  | a, b :: bs => next a = some b ∧ From next b bs

inductive Reach (next : Links α) : α → α → Prop where
  | refl (a) : Reach next a a
  | step : next a = some b → Reach next b c → Reach next a c

/-- The last cell, found within `fuel` cells. -/
def last (next : Links α) : (fuel : Nat) → α → Option α
  | 0, _ => none
  | fuel + 1, a =>
      match next a with
      | none => some a
      | some b => last next fuel b

/-- The cells behind `a`, when there are fewer than `fuel`. -/
def follow (next : Links α) : (fuel : Nat) → α → Option (List α)
  | 0, _ => none
  | fuel + 1, a =>
      match next a with
      | none => some []
      | some b => (follow next fuel b).map (b :: ·)

def Extends (next next' : Links α) : Prop := ∀ a b, next a = some b → next' a = some b

def link [DecidableEq α] (next : Links α) (a b : α) : Links α :=
  fun c => if c = a then some b else next c

theorem Extends.refl (next : Links α) : Extends next next := fun _ _ linked => linked

theorem Extends.trans {first second third : Links α} (one : Extends first second)
    (two : Extends second third) : Extends first third :=
  fun a b linked => two a b (one a b linked)

theorem Reach.mono {next next' : Links α} (extends_ : Extends next next') (reach : Reach next a b) :
    Reach next' a b := by
  induction reach with
  | refl a => exact .refl a
  | step linked _ ih => exact .step (extends_ _ _ linked) ih

theorem last_spec {next : Links α} (found : last next fuel a = some c) :
    Reach next a c ∧ next c = none := by
  induction fuel generalizing a with
  | zero => contradiction
  | succ fuel ih =>
    cases linked : next a with
    | none =>
      simp only [last, linked, Option.some.injEq] at found
      subst c
      exact ⟨.refl a, linked⟩
    | some b =>
      simp only [last, linked] at found
      obtain ⟨reach, ends⟩ := ih found
      exact ⟨.step linked reach, ends⟩

/-- Cells on the way to an end reach that end. -/
theorem Reach.to_end {next : Links α} (ends : next c = none) (first : Reach next a c)
    (second : Reach next a b) : Reach next b c := by
  induction second with
  | refl a => exact first
  | step linked _ ih =>
    cases first with
    | refl a =>
      rw [ends] at linked
      contradiction
    | step linked' rest =>
      cases Option.some.inj (linked.symm.trans linked')
      exact ih rest

theorem From.unique {next : Links α} (first : From next a bs) (second : From next a cs) :
    bs = cs := by
  induction bs generalizing a cs with
  | nil =>
    cases cs with
    | nil => rfl
    | cons c cs =>
      rw [From] at first
      simp [From, first] at second
  | cons b bs ih =>
    cases cs with
    | nil =>
      rw [From] at second
      simp [From, second] at first
    | cons c cs =>
      cases Option.some.inj (first.1.symm.trans second.1)
      rw [ih first.2 second.2]

/-- The chain behind a cell further on is not longer. -/
theorem From.reach {next : Links α} (chain : From next a bs) (reach : Reach next a c) :
    ∃ cs, From next c cs ∧ cs.length ≤ bs.length := by
  induction reach generalizing bs with
  | refl a => exact ⟨bs, chain, Nat.le_refl _⟩
  | step linked _ ih =>
    cases bs with
    | nil =>
      rw [From, linked] at chain
      contradiction
    | cons b bs =>
      cases Option.some.inj (linked.symm.trans chain.1)
      obtain ⟨cs, rest, shorter⟩ := ih chain.2
      exact ⟨cs, rest, by simp only [List.length_cons]; omega⟩

theorem From.acyclic {next : Links α} (chain : From next a bs) (reach : Reach next a c)
    (back : next c = some a) : False := by
  obtain ⟨cs, rest, shorter⟩ := chain.reach reach
  have longer : From next c (a :: bs) := ⟨back, chain⟩
  cases rest.unique longer
  simp only [List.length_cons] at shorter
  omega

theorem follow_eq_some {next : Links α} :
    follow next fuel a = some bs ↔ From next a bs ∧ bs.length < fuel := by
  induction fuel generalizing a bs with
  | zero => simp [follow]
  | succ fuel ih =>
    cases linked : next a with
    | none =>
      cases bs with
      | nil => simp [follow, From, linked]
      | cons b bs => simp [follow, From, linked]
    | some b =>
      cases bs with
      | nil => simp [follow, From, linked]
      | cons c cs =>
        simp only [follow, linked, Option.map_eq_some_iff, From, Option.some.injEq,
          List.length_cons, List.cons.injEq]
        constructor
        · rintro ⟨ds, rest, rfl, rfl⟩
          obtain ⟨chain, short⟩ := ih.mp rest
          exact ⟨⟨rfl, chain⟩, by omega⟩
        · rintro ⟨⟨rfl, chain⟩, short⟩
          exact ⟨cs, ih.mpr ⟨chain, by omega⟩, rfl, rfl⟩

section

variable [DecidableEq α]

theorem extends_link {next : Links α} (ends : next a = none) (b : α) :
    Extends next (link next a b) := by
  intro c d linked
  have other : c ≠ a := by
    rintro rfl
    rw [ends] at linked
    contradiction
  simp only [link, other, if_false, linked]

end

end Chain
