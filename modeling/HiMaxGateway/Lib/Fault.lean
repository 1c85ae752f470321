/-! Runs of C code that may reach undefined behaviour. -/
namespace CRun

/-- What the C text leaves undefined: the process may crash or go on with
anything, so no result is given. -/
inductive Fault where
  | nullPointer
  | negativeLength
  | outOfBounds
  deriving DecidableEq, Repr

abbrev Result (α : Type) := Except Fault α

theorem bind_eq_ok {x : Result α} {next : α → Result β} {b : β} :
    (x >>= next) = .ok b ↔ ∃ a, x = .ok a ∧ next a = .ok b := by
  cases x with
  | error fault => simp [bind, Except.bind]
  | ok a => simp [bind, Except.bind]

@[simp] theorem pure_eq_ok {a b : α} : (pure a : Result α) = .ok b ↔ a = b := by
  simp [pure, Except.pure]

/-- Whatever the run ends with has the property. It may also end in a fault. -/
def Ends (P : α → Prop) (run : Result α) : Prop := ∀ a, run = .ok a → P a

namespace Ends

variable {P : α → Prop}

theorem pure (holds : P a) : Ends P (Pure.pure a) := by
  intro b ended
  cases ended
  exact holds

theorem mono {Q : α → Prop} (implies : ∀ a, P a → Q a) (ends : Ends P run) : Ends Q run :=
  fun a ended => implies a (ends a ended)

theorem bind {x : Result β} {next : β → Result α} (rest : ∀ b, x = .ok b → Ends P (next b)) :
    Ends P (x >>= next) := by
  intro a ended
  obtain ⟨b, first, second⟩ := bind_eq_ok.mp ended
  exact rest b first a second

theorem ite {c : Prop} [Decidable c] {x y : Result α} (yes : c → Ends P x) (no : ¬c → Ends P y) :
    Ends P (if c then x else y) := by
  by_cases holds : c
  · rw [if_pos holds]
    exact yes holds
  · rw [if_neg holds]
    exact no holds

end Ends

/-- The run comes to its end without a fault. -/
def Returns (run : Result α) : Prop := ∃ a, run = .ok a

theorem returns_error {fault : Fault} : ¬Returns (.error fault : Result α) := by
  rintro ⟨a, ended⟩
  cases ended

theorem returns_bind {x : Result α} {next : α → Result β} :
    Returns (x >>= next) ↔ ∃ a, x = .ok a ∧ Returns (next a) := by
  constructor
  · rintro ⟨b, ended⟩
    obtain ⟨a, first, second⟩ := bind_eq_ok.mp ended
    exact ⟨a, first, b, second⟩
  · rintro ⟨a, first, b, second⟩
    exact ⟨b, bind_eq_ok.mpr ⟨a, first, second⟩⟩

namespace Returns

theorem pure {a : α} : Returns (Pure.pure a : Result α) := ⟨a, rfl⟩

theorem bind {x : Result α} {next : α → Result β} (first : x = .ok a) (rest : Returns (next a)) :
    Returns (x >>= next) :=
  returns_bind.mpr ⟨a, first, rest⟩

theorem seq {x : Result α} {next : α → Result β} (first : Returns x)
    (rest : ∀ a, Returns (next a)) : Returns (x >>= next) := by
  obtain ⟨a, ended⟩ := first
  exact .bind ended (rest a)

theorem ite {c : Prop} [Decidable c] {x y : Result α} (yes : c → Returns x) (no : ¬c → Returns y) :
    Returns (if c then x else y) := by
  by_cases holds : c
  · rw [if_pos holds]
    exact yes holds
  · rw [if_neg holds]
    exact no holds

end Returns

theorem returns_mapM {f : α → Result β} {xs : List α} :
    Returns (xs.mapM f) ↔ ∀ x ∈ xs, Returns (f x) := by
  induction xs with
  | nil => exact iff_of_true .pure (by simp)
  | cons x rest ih =>
    rw [List.mapM_cons, returns_bind, List.forall_mem_cons, ← ih]
    constructor
    · rintro ⟨b, first, later⟩
      obtain ⟨bs, rest, -⟩ := returns_bind.mp later
      exact ⟨⟨b, first⟩, bs, rest⟩
    · rintro ⟨⟨b, first⟩, bs, later⟩
      exact ⟨b, first, .bind later .pure⟩

/-- Whatever the run gives has the property. It may also give nothing. -/
abbrev Gives (P : α → Prop) (run : Result (Option α)) : Prop := Ends (fun out => ∀ a ∈ out, P a) run

theorem gives_none {P : α → Prop} : Gives P (pure none) := .pure (by simp)

theorem gives_some {P : α → Prop} (holds : P a) : Gives P (pure (some a)) := .pure (by simpa)

theorem gives_mono {P Q : α → Prop} (implies : ∀ a, P a → Q a) (gives : Gives P run) :
    Gives Q run :=
  gives.mono fun _ each a given => implies a (each a given)

end CRun
