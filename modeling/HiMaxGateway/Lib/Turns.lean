import Mathlib.Data.List.Forall2

/-! Loops over a list whose turns may end the process, fault, or stay on their element. -/
namespace Turns

/-- Why a turn does not go on to the next element. -/
inductive Stop (φ : Type) where
  | exits
  /-- The step to the next element is skipped. -/
  | stays
  | faults (fault : φ)
  deriving DecidableEq, Repr

abbrev Turn (φ σ : Type) := Except (Stop φ) σ

variable {φ σ τ α : Type}

def stop? : Turn φ σ → Option (Stop φ)
  | .ok _ => none
  | .error stop => some stop

@[simp] theorem stop?_ok (s : σ) : stop? (.ok s : Turn φ σ) = none := rfl

@[simp] theorem stop?_error (stop : Stop φ) : stop? (.error stop : Turn φ σ) = some stop := rfl

theorem stop?_eq_none {turn : Turn φ σ} : stop? turn = none ↔ ∃ s, turn = .ok s := by
  cases turn <;> simp

theorem stop?_eq_some {turn : Turn φ σ} {stop : Stop φ} :
    stop? turn = some stop ↔ turn = .error stop := by
  cases turn <;> simp

/-- Two parts that both go on. -/
theorem bind_ok {first : Turn φ σ} {second : σ → Turn φ τ} {t : τ}
    (run : first >>= second = .ok t) :
    ∃ s, first = .ok s ∧ second s = .ok t := by
  cases first with
  | ok s => exact ⟨s, rfl, run⟩
  | error stop => contradiction

theorem map_ok {turn : Turn φ σ} {f : σ → τ} {t : τ} (run : turn.map f = .ok t) :
    ∃ s, turn = .ok s ∧ t = f s := by
  cases turn with
  | ok s => exact ⟨s, rfl, (Except.ok.inj run).symm⟩
  | error stop => contradiction

/-- Two parts one behind the other stop where the first does, or else where the second does. -/
theorem stop?_bind {first : Turn φ σ} {second : σ → Turn φ τ} {kind : Option (Stop φ)}
    (same : ∀ s, stop? (second s) = kind) : stop? (first >>= second) = (stop? first).or kind := by
  cases first with
  | ok s => exact same s
  | error stop => rfl

/-- What harms is behind an exit. -/
def Guarded (kind : α → Option (Stop φ)) (xs : List α) : Prop :=
  ∀ before a after, xs = before ++ a :: after →
    (kind a = some .stays ∨ ∃ fault, kind a = some (.faults fault)) →
      ∃ b ∈ before, kind b = some .exits

theorem guarded_iff {kind : α → Option (Stop φ)} {xs : List α} :
    Guarded kind xs ↔ xs.findSome? kind = none ∨ xs.findSome? kind = some .exits := by
  constructor
  · intro guarded
    cases found : xs.findSome? kind with
    | none => exact .inl rfl
    | some stop =>
      obtain ⟨before, a, after, rfl, here, free⟩ := List.findSome?_eq_some_iff.mp found
      have clear : ¬ ∃ b ∈ before, kind b = some .exits := by
        rintro ⟨b, member, exits⟩
        simp [free b member] at exits
      cases stop with
      | exits => exact .inr rfl
      | stays => exact absurd (guarded before a after rfl (.inl here)) clear
      | faults fault => exact absurd (guarded before a after rfl (.inr ⟨fault, here⟩)) clear
  · rintro sound before a after rfl harm
    have stops : kind a ≠ none := by
      rcases harm with harm | ⟨fault, harm⟩ <;> simp [harm]
    rcases sound with none_stops | exits
    · rw [List.findSome?_eq_none_iff] at none_stops
      exact absurd (none_stops a (by simp)) stops
    · rw [List.findSome?_append] at exits
      cases first : before.findSome? kind with
      | some stop =>
        rw [first, Option.some_or, Option.some.injEq] at exits
        obtain ⟨b, member, here⟩ := List.exists_of_findSome?_eq_some first
        exact ⟨b, member, exits ▸ here⟩
      | none =>
        rw [first, Option.none_or, List.findSome?_cons] at exits
        rcases harm with harm | ⟨fault, harm⟩ <;> simp [harm] at exits

/-- The loop as it runs. A turn that stays is taken again with nothing changed that it reads. -/
def walk (turn : σ → α → Turn φ σ) : Nat → σ → List α → Option (Turn φ σ)
  | 0, _, _ => none
  | _ + 1, s, [] => some (.ok s)
  | fuel + 1, s, a :: rest =>
      match turn s a with
      | .ok s => walk turn fuel s rest
      | .error .stays => walk turn fuel s (a :: rest)
      | .error stop => some (.error stop)

/-- The loop ends, and not in a fault. -/
def Terminates (turn : σ → α → Turn φ σ) (s : σ) (xs : List α) : Prop :=
  ∃ fuel out, walk turn fuel s xs = some out ∧ ∀ fault, out ≠ .error (.faults fault)

theorem foldlM_cons_ok {turn : σ → α → Turn φ σ} (goes : turn s a = .ok t) :
    (a :: rest).foldlM turn s = rest.foldlM turn t := by
  rw [List.foldlM_cons, goes]
  rfl

theorem foldlM_cons_error {turn : σ → α → Turn φ σ} (stops : turn s a = .error stop) :
    (a :: rest).foldlM turn s = .error stop := by
  rw [List.foldlM_cons, stops]
  rfl

/-- A loop that gets through goes on at its head. -/
theorem foldlM_cons_inv {turn : σ → α → Turn φ σ} (run : (a :: rest).foldlM turn s = .ok t) :
    ∃ next, turn s a = .ok next ∧ rest.foldlM turn next = .ok t := by
  rw [List.foldlM_cons] at run
  exact bind_ok run

theorem forall₂_forall_iff {R : α → τ → Prop} {P : τ → Prop} {Q : α → Prop} {xs : List α}
    {ys : List τ} (pairs : List.Forall₂ R xs ys) (same : ∀ x y, R x y → (P y ↔ Q x)) :
    (∀ y ∈ ys, P y) ↔ ∀ x ∈ xs, Q x := by
  induction pairs with
  | nil => simp
  | cons here _ ih => rw [List.forall_mem_cons, List.forall_mem_cons, same _ _ here, ih]

theorem exists_of_forall₂ {R : α → τ → Prop} {xs : List α} {ys : List τ}
    (pairs : List.Forall₂ R xs ys) (member : x ∈ xs) : ∃ y, R x y := by
  induction pairs with
  | nil => contradiction
  | cons here _ ih =>
    rcases List.mem_cons.mp member with rfl | later
    · exact ⟨_, here⟩
    · exact ih later

theorem mapM_ok_iff {f : α → Turn φ τ} {xs : List α} {ys : List τ} :
    xs.mapM f = .ok ys ↔ List.Forall₂ (fun x y => f x = .ok y) xs ys := by
  induction xs generalizing ys with
  | nil =>
    rw [List.mapM_nil, List.forall₂_nil_left_iff]
    exact ⟨fun same => (Except.ok.inj same).symm, fun same => congrArg _ same.symm⟩
  | cons x rest ih =>
    rw [List.mapM_cons]
    cases head : f x with
    | error stop =>
      constructor
      · intro wrong
        contradiction
      · intro pairs
        cases pairs with
        | cons here _ =>
          rw [head] at here
          contradiction
    | ok y =>
      cases tail : rest.mapM f with
      | error stop =>
        constructor
        · intro wrong
          simp [bind, Except.bind] at wrong
        · intro pairs
          cases pairs with
          | cons _ later =>
            rw [ih.mpr later] at tail
            contradiction
      | ok more =>
        constructor
        · intro same
          cases same
          exact .cons head (ih.mp tail)
        · intro pairs
          cases pairs with
          | cons here later =>
            rw [head] at here
            cases here
            rw [ih.mpr later] at tail
            cases tail
            rfl

/-- What no turn changes, the loop does not change. -/
theorem foldlM_keeps {turn : σ → α → Turn φ σ} {view : σ → τ}
    (keeps : ∀ s a t, turn s a = .ok t → view t = view s) {s t : σ} {xs : List α}
    (run : xs.foldlM turn s = .ok t) : view t = view s := by
  induction xs generalizing s with
  | nil =>
    cases run
    rfl
  | cons a rest ih =>
    obtain ⟨next, head, later⟩ := foldlM_cons_inv run
    exact (ih later).trans (keeps s a next head)

/-- What every turn carries along, the loop carries along. -/
theorem foldlM_carried {turn : σ → α → Turn φ σ} {f : σ → σ}
    (carries : ∀ s a, turn (f s) a = (turn s a).map f) (s : σ) (xs : List α) :
    xs.foldlM turn (f s) = (xs.foldlM turn s).map f := by
  induction xs generalizing s with
  | nil => rfl
  | cons a rest ih =>
    have head := carries s a
    cases here : turn s a with
    | ok t =>
      rw [here] at head
      rw [foldlM_cons_ok here, foldlM_cons_ok head]
      exact ih t
    | error stop =>
      rw [here] at head
      rw [foldlM_cons_error here, foldlM_cons_error head]
      rfl

/-- A turn that stays once stays for ever. -/
theorem walk_stays {turn : σ → α → Turn φ σ} (stays : turn s a = .error .stays) (fuel : Nat) :
    walk turn fuel s (a :: rest) = none := by
  induction fuel with
  | zero => rfl
  | succ fuel ih => simp only [walk, stays, ih]

/-- The fold gives what the loop ends with, and says when it does not end. -/
theorem walk_iff {turn : σ → α → Turn φ σ} {xs : List α} {out : Turn φ σ} :
    (∃ fuel, walk turn fuel s xs = some out) ↔ xs.foldlM turn s = out ∧ out ≠ .error .stays := by
  induction xs generalizing s with
  | nil =>
    constructor
    · rintro ⟨fuel, ends⟩
      cases fuel with
      | zero => contradiction
      | succ fuel =>
        cases Option.some.inj ends
        exact ⟨rfl, by simp⟩
    · rintro ⟨rfl, -⟩
      exact ⟨1, rfl⟩
  | cons a rest ih =>
    cases head : turn s a with
    | ok t =>
      rw [foldlM_cons_ok head, ← ih]
      constructor
      · rintro ⟨fuel, ends⟩
        cases fuel with
        | zero => contradiction
        | succ fuel =>
          simp only [walk, head] at ends
          exact ⟨fuel, ends⟩
      · rintro ⟨fuel, ends⟩
        exact ⟨fuel + 1, by simp only [walk, head, ends]⟩
    | error stop =>
      rw [foldlM_cons_error head]
      cases stop with
      | stays =>
        constructor
        · rintro ⟨fuel, ends⟩
          rw [walk_stays head] at ends
          contradiction
        · rintro ⟨rfl, wrong⟩
          exact absurd rfl wrong
      | exits | faults fault =>
        constructor
        · rintro ⟨fuel, ends⟩
          cases fuel with
          | zero => contradiction
          | succ fuel =>
            simp only [walk, head, Option.some.injEq] at ends
            exact ⟨ends, by simp [← ends]⟩
        · rintro ⟨rfl, -⟩
          exact ⟨1, by simp only [walk, head]⟩

theorem terminates_iff {turn : σ → α → Turn φ σ} {xs : List α} :
    Terminates turn s xs ↔
      stop? (xs.foldlM turn s) = none ∨ stop? (xs.foldlM turn s) = some .exits := by
  constructor
  · rintro ⟨fuel, out, ends, sound⟩
    obtain ⟨rfl, moves⟩ := walk_iff.mp ⟨fuel, ends⟩
    cases folded : xs.foldlM turn s with
    | ok t => exact .inl rfl
    | error stop =>
      rw [folded] at sound moves
      cases stop with
      | exits => exact .inr rfl
      | stays => contradiction
      | faults fault => exact absurd rfl (sound fault)
  · intro sound
    have moves : xs.foldlM turn s ≠ .error .stays := by
      intro stays
      simp [stays] at sound
    obtain ⟨fuel, ends⟩ := walk_iff.mpr ⟨rfl, moves⟩
    refine ⟨fuel, _, ends, fun fault faults => ?_⟩
    simp [faults] at sound

/-- Where the element alone decides whether a turn stops, the first that does decides for the
loop. -/
theorem stop_foldlM {turn : σ → α → Turn φ σ} {kind : α → Option (Stop φ)}
    (same : ∀ s a, stop? (turn s a) = kind a) (s : σ) (xs : List α) :
    stop? (xs.foldlM turn s) = xs.findSome? kind := by
  induction xs generalizing s with
  | nil => rfl
  | cons a rest ih =>
    have here := same s a
    cases head : turn s a with
    | ok t =>
      rw [head] at here
      rw [foldlM_cons_ok head, List.findSome?_cons, ← here]
      exact ih t
    | error stop =>
      rw [head] at here
      rw [foldlM_cons_error head, List.findSome?_cons, ← here]
      rfl

end Turns
