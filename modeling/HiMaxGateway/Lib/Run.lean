/-! Runs of a transition system with labels, and the rule for invariants. -/
namespace Run

variable {σ τ : Type}

/-- The states reached from `start`, with the labels passed. -/
inductive Reaches (step : σ → τ → σ → Prop) (start : σ) : List τ → σ → Prop where
  | start : Reaches step start [] start
  | step : Reaches step start trace s → step s label t → Reaches step start (trace ++ [label]) t

/-- An invariant that speaks of the labels passed, too. -/
theorem trace_invariant {step : σ → τ → σ → Prop} {start : σ} (holds : List τ → σ → Prop)
    (initial : holds [] start)
    (keeps : ∀ trace s label t, holds trace s → step s label t → holds (trace ++ [label]) t)
    (reached : Reaches step start trace s) : holds trace s := by
  induction reached with
  | start => exact initial
  | step _ stepped ih => exact keeps _ _ _ _ ih stepped

theorem invariant {step : σ → τ → σ → Prop} {start : σ} (holds : σ → Prop) (initial : holds start)
    (keeps : ∀ s label t, holds s → step s label t → holds t)
    (reached : Reaches step start trace s) : holds s :=
  trace_invariant (fun _ => holds) initial (fun _ => keeps) reached

/-- Every label was allowed by those before it. -/
def Allowed (allows : List τ → τ → Prop) (trace : List τ) : Prop :=
  ∀ before label after, trace = before ++ label :: after → allows before label

theorem Allowed.nil {allows : List τ → τ → Prop} : Allowed allows [] := by
  intro before label after split
  cases before <;> cases split

theorem Allowed.snoc {allows : List τ → τ → Prop} (allowed : Allowed allows trace)
    (next : allows trace label) :
    Allowed allows (trace ++ [label]) := by
  intro before other after split
  rcases List.eq_nil_or_concat after with rfl | ⟨middle, last, rfl⟩
  · obtain ⟨rfl, same⟩ := List.append_inj' split rfl
    obtain ⟨rfl, -⟩ := List.cons.inj same
    exact next
  · rw [List.concat_eq_append, ← List.cons_append, ← List.append_assoc] at split
    obtain ⟨rfl, -⟩ := List.append_inj' split rfl
    exact allowed before other middle rfl

end Run
