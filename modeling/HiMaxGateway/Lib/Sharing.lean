import HiMaxGateway.Lib.Fault
import Mathlib.Logic.Function.Basic

/-! Two users of the same cells. A call is decoded from its arguments alone, or goes
wrong there, and then acts on the cells. A user whose actions never rest on what the
other stored last cannot tell whether the other is there. -/
namespace Sharing
open CRun

variable {Call Out : Type}

inductive User where
  | own
  | other
  deriving DecidableEq, Repr

structure Machine (Call Out : Type) where
  Cell : Type
  Value : Type
  Act : Type
  [decEq : DecidableEq Cell]
  init : Cell → Value
  decode : Call → Result Act
  act : (Cell → Value) → Act → Out × (Cell → Value)
  /-- The cells the result of an action rests on. -/
  reads : Act → List Cell
  writes : Act → List Cell
  rests : ∀ cells cells' a, (∀ x ∈ reads a, cells x = cells' x) →
    (act cells a).1 = (act cells' a).1 ∧ ∀ x ∈ writes a, (act cells a).2 x = (act cells' a).2 x
  frame : ∀ cells a x, x ∉ writes a → (act cells a).2 x = cells x

attribute [instance] Machine.decEq

namespace Machine

variable (m : Machine Call Out)

def call (cells : m.Cell → m.Value) (c : Call) : Result (Out × (m.Cell → m.Value)) := do
  let a ← m.decode c
  pure (m.act cells a)

def run : (m.Cell → m.Value) → List (User × Call) → Result (List (User × Out))
  | _, [] => pure []
  | cells, (user, c) :: rest => do
      let (out, cells) ← m.call cells c
      let outs ← run cells rest
      pure ((user, out) :: outs)

/-- `theirs` holds the cells the other user stored into last. A run ends where a call
goes wrong; the other user has no such call. -/
def clean : (theirs : List m.Cell) → List (User × Call) → Bool
  | _, [] => true
  | theirs, (.own, c) :: rest =>
      match m.decode c with
      | .error _ => true
      | .ok a => (m.reads a).all (· ∉ theirs) && clean (theirs.filter (· ∉ m.writes a)) rest
  | theirs, (.other, c) :: rest =>
      match m.decode c with
      | .error _ => false
      | .ok a => clean (m.writes a ++ theirs) rest

variable {m}

theorem call_ok (decoded : m.decode c = .ok a) (cells : m.Cell → m.Value) :
    m.call cells c = .ok (m.act cells a) := by
  simp [call, decoded, bind, Except.bind, pure, Except.pure]

theorem call_error (decoded : m.decode c = .error fault) (cells : m.Cell → m.Value) :
    m.call cells c = .error fault := by
  simp [call, decoded, bind, Except.bind]

theorem run_cons (decoded : m.decode c = .ok a) (cells : m.Cell → m.Value) :
    m.run cells ((user, c) :: rest) =
      (m.run (m.act cells a).2 rest).map ((user, (m.act cells a).1) :: ·) := by
  cases outs : m.run (m.act cells a).2 rest <;>
    simp [run, call_ok decoded, outs, bind, Except.bind, pure, Except.pure, Except.map]

theorem run_error (decoded : m.decode c = .error fault) (cells : m.Cell → m.Value) :
    m.run cells ((user, c) :: rest) = .error fault := by
  simp [run, call_error decoded, bind, Except.bind]

theorem agree_own {cells cells' : m.Cell → m.Value} {theirs : List m.Cell}
    (agree : ∀ x, x ∉ theirs → cells x = cells' x)
    (same : ∀ x ∈ m.writes a, (m.act cells a).2 x = (m.act cells' a).2 x) :
    ∀ x, x ∉ theirs.filter (· ∉ m.writes a) → (m.act cells a).2 x = (m.act cells' a).2 x := by
  intro x outside
  by_cases written : x ∈ m.writes a
  · exact same x written
  · rw [m.frame _ _ _ written, m.frame _ _ _ written]
    apply agree
    simpa [written] using outside

theorem agree_other {cells cells' : m.Cell → m.Value} {theirs : List m.Cell}
    (agree : ∀ x, x ∉ theirs → cells x = cells' x) :
    ∀ x, x ∉ m.writes a ++ theirs → (m.act cells a).2 x = cells' x := by
  intro x outside
  rw [List.mem_append, not_or] at outside
  rw [m.frame _ _ _ outside.1]
  exact agree x outside.2

/-- What one user sees does not change when the calls of the other are left out. -/
theorem run_without {cells cells' : m.Cell → m.Value} {theirs : List m.Cell}
    {calls : List (User × Call)} (clean : m.clean theirs calls = true)
    (agree : ∀ x, x ∉ theirs → cells x = cells' x) :
    (m.run cells calls).map (List.filter (·.1 = .own)) =
      m.run cells' (calls.filter (·.1 = .own)) := by
  induction calls generalizing cells cells' theirs with
  | nil => rfl
  | cons first rest ih =>
    obtain ⟨user, c⟩ := first
    cases user with
    | own =>
      have kept : ((.own, c) :: rest).filter (·.1 = User.own) =
          (.own, c) :: rest.filter (·.1 = .own) := by simp
      rw [kept]
      cases decoded : m.decode c with
      | error fault => rw [run_error decoded, run_error decoded]; rfl
      | ok a =>
        simp only [Machine.clean, decoded, Bool.and_eq_true, List.all_eq_true,
          decide_eq_true_eq] at clean
        obtain ⟨out, written⟩ := m.rests cells cells' a fun x read => agree x (clean.1 x read)
        have tail := ih clean.2 (agree_own agree written)
        rw [run_cons decoded, run_cons decoded, ← tail, out]
        cases m.run (m.act cells a).2 rest <;> simp [Except.map]
    | other =>
      have dropped : ((.other, c) :: rest).filter (·.1 = User.own) = rest.filter (·.1 = .own) := by
        simp
      rw [dropped]
      cases decoded : m.decode c with
      | error fault =>
        simp only [Machine.clean, decoded, Bool.false_eq_true] at clean
      | ok a =>
        simp only [Machine.clean, decoded] at clean
        have tail := ih clean (agree_other agree)
        rw [run_cons decoded, ← tail]
        cases m.run (m.act cells a).2 rest <;> simp [Except.map]

end Machine

end Sharing
