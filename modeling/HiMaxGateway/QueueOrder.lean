import HiMaxGateway.QueueTurns
import Mathlib.Data.List.Sort

/-! What the threads at a queue put in and take out: nothing is lost, nothing comes twice, and all
comes in the order of the queue. -/
namespace HiMaxGateway.Queue
open Cells SinglyLinked Waiters Run

variable {α : Type} {s : Settings α} {t t' : Threads α} {h h' : Hall α} {ev : Event α}
  {trace more : List (Event α)}

/-- The elements of the puts that succeeded. -/
def accepted (trace : List (Event α)) : List α :=
  trace.flatMap fun
    | .put el .ok => [el]
    | _ => []

/-- The elements that came out of the queue. -/
def removed (trace : List (Event α)) : List α :=
  trace.flatMap fun
    | .get .ok (some e) => [e]
    | .flush data => data
    | _ => []

def Hall.values (h : Hall α) : List α := h.entries.map (·.2)

theorem accepted_append (trace more : List (Event α)) :
    accepted (trace ++ more) = accepted trace ++ accepted more :=
  List.flatMap_append

theorem removed_append (trace more : List (Event α)) :
    removed (trace ++ more) = removed trace ++ removed more :=
  List.flatMap_append

theorem accepted_refused {code : Code} (failed : code ≠ .ok) (el : α) :
    accepted [.put el code] = [] := by
  cases code with
  | ok => contradiction
  | _ => rfl

theorem removed_refused {code : Code} (failed : code ≠ .ok) (e : Option α) :
    removed [.get code e] = [] := by
  cases code with
  | ok => contradiction
  | _ => rfl

/-- How a turn changes what is in the queue. A turn puts an element in, or takes some from the
front. -/
theorem Turn.flow (turn : Turn h ev h') :
    (∃ el a, ev = .put el .ok ∧ h.settings.new_data ≠ 0 ∧ accepted [ev] = [el] ∧ removed [ev] = [] ∧
      h'.entries = inserted h.settings (a, el) h.entries) ∨
    accepted [ev] = [] ∧ h.values = removed [ev] ++ h'.values := by
  cases turn with
  | accepts a accepting roomy comes signal => exact .inl ⟨_, a, rfl, accepting, rfl, rfl, rfl⟩
  | refuses failed => exact .inr ⟨accepted_refused failed _, rfl⟩
  | gives some_ => exact .inr ⟨rfl, by rw [Hall.values, some_]; rfl⟩
  | givesNothing failed => exact .inr ⟨rfl, by rw [removed_refused failed]; rfl⟩
  | flush => exact .inr ⟨rfl, by simp [removed, Hall.values]⟩
  | _ => exact .inr ⟨rfl, rfl⟩

/-- Without an order, what came out is what went in first, and the rest is in the queue. -/
theorem first_in_first_out (s : Settings α) (unsorted : s.sort = false)
    (reached : Reaches Step (start s) trace t) :
    ∃ xs, Holds t.queue xs ∧ accepted trace = removed trace ++ xs.map (·.2) := by
  obtain ⟨h, turned, matched⟩ := run_turns (matches_start s) reached
  suffices accepted trace = removed trace ++ h.values from ⟨h.entries, matched.holds, this⟩
  clear reached matched
  induction turned with
  | start => rfl
  | step turned turn ih =>
    obtain ⟨v, settings⟩ := run_settings turned
    rw [accepted_append, removed_append, ih]
    obtain ⟨el, a, -, -, in_, out, entries⟩ | ⟨in_, values⟩ := turn.flow
    · rw [inserted_unsorted (by rw [settings]; exact unsorted)] at entries
      rw [in_, out, Hall.values, Hall.values, entries]
      simp
    · rw [in_, values]
      simp

theorem first_in_first_out_two : ∃ t xs, Reaches Step (start ({} : Settings Nat))
    [.put 7 .ok, .put 8 .ok, .get .ok (some 7)] t ∧ Holds t.queue xs ∧
    [7, 8] = [7] ++ xs.map (·.2) := by
  obtain ⟨t, reached⟩ := two_puts_one_get
  obtain ⟨xs, holds, same⟩ := first_in_first_out {} rfl reached
  exact ⟨t, xs, reached, holds, same⟩

/-- The documented comparator: which of two elements is smaller does not depend on their order. -/
structure Compares (s : Settings α) : Prop where
  flip : ∀ a b, 0 ≤ s.cmp_el a b ↔ s.cmp_el b a ≤ 0
  trans : ∀ a b c, s.cmp_el a b ≤ 0 → s.cmp_el b c ≤ 0 → s.cmp_el a c ≤ 0

/-- In the order of the queue, `a` does not belong behind `b`. -/
def Settings.le (s : Settings α) (a b : α) : Prop :=
  if s.asc_order then s.cmp_el a b ≤ 0 else 0 ≤ s.cmp_el a b

instance (s : Settings α) : DecidableRel s.le := fun a b =>
  inferInstanceAs (Decidable (if s.asc_order then s.cmp_el a b ≤ 0 else 0 ≤ s.cmp_el a b))

theorem Compares.total (compares : Compares s) (a b : α) : s.le a b ∨ s.le b a := by
  have ab := compares.flip a b
  have ba := compares.flip b a
  cases order : s.asc_order with
  | true =>
    simp only [Settings.le, order, if_true]
    omega
  | false =>
    simp only [Settings.le, order, Bool.false_eq_true, if_false]
    omega

theorem Compares.le_trans (compares : Compares s) (a b c : α) (ab : s.le a b) (bc : s.le b c) :
    s.le a c := by
  cases order : s.asc_order with
  | true =>
    simp only [Settings.le, order, if_true] at ab bc ⊢
    exact compares.trans a b c ab bc
  | false =>
    simp only [Settings.le, order, Bool.false_eq_true, if_false, compares.flip] at ab bc ⊢
    exact compares.trans c b a bc ab

theorem Compares.before_iff (compares : Compares s) (first el : α) :
    before s first el = true ↔ s.le el first := by
  have same := compares.flip first el
  have turned := compares.flip el first
  cases order : s.asc_order <;> simp [before, Settings.le, order, ge_iff_le, same, turned]

theorem between_iff (s : Settings α) (a el b : α) :
    between s a el b = true ↔ s.le a el ∧ s.le el b := by
  cases order : s.asc_order <;> simp [between, Settings.le, order, ge_iff_le]

theorem Compares.insertBehind_eq (compares : Compares s) (e first : Entry α) (rest : List (Entry α))
    (behind : ¬s.le e.2 first.2) :
    insertBehind s e first rest = (first :: rest).orderedInsert (fun x y => s.le x.2 y.2) e := by
  induction rest generalizing first with
  | nil => simp [insertBehind, behind]
  | cons t rest ih =>
    have here : s.le first.2 e.2 := (compares.total e.2 first.2).resolve_left behind
    rw [List.orderedInsert_cons, if_neg behind, insertBehind]
    by_cases stops : s.le e.2 t.2
    · rw [if_pos ((between_iff s _ _ _).mpr ⟨here, stops⟩), List.orderedInsert_cons, if_pos stops]
    · rw [if_neg (fun found => stops ((between_iff s _ _ _).mp found).2), ih t stops]

/-- The search of the queue is an ordered insertion. An element goes in front of its equals. -/
theorem Compares.inserted_eq (compares : Compares s) (sorted : s.sort = true) (e : Entry α)
    (xs : List (Entry α)) :
    inserted s e xs = xs.orderedInsert (fun x y => s.le x.2 y.2) e := by
  cases xs with
  | nil => rfl
  | cons first rest =>
    rw [inserted, sorted, if_neg (by simp)]
    by_cases front_ : s.le e.2 first.2
    · rw [if_pos ((compares.before_iff _ _).mpr front_), List.orderedInsert_cons, if_pos front_]
    · rw [if_neg (mt (compares.before_iff _ _).mp front_), compares.insertBehind_eq e first rest
        front_]

theorem Compares.inserted_values (compares : Compares s) (sorted : s.sort = true) (a : Addr)
    (el : α) (xs : List (Entry α)) :
    (inserted s (a, el) xs).map (·.2) = (xs.map (·.2)).orderedInsert s.le el := by
  rw [compares.inserted_eq sorted]
  exact List.map_orderedInsert _ _ _ _ _ (fun _ _ => Iff.rfl) (fun _ _ => Iff.rfl)

/-- Whether the queue takes new elements does not matter for their order. -/
theorem Compares.placed (compares : Compares s) (sorted : s.sort = true)
    (settings : h.settings = { s with new_data := v }) {a : Addr} {el : α}
    (entries : h'.entries = inserted h.settings (a, el) h.entries) :
    h'.values = h.values.orderedInsert s.le el := by
  have same : Compares h.settings := by
    rw [settings]
    exact ⟨compares.flip, compares.trans⟩
  have sorted' : h.settings.sort = true := by rw [settings]; exact sorted
  rw [Hall.values, entries, same.inserted_values sorted', settings]
  rfl

theorem sorted_turns (compares : Compares s) (sorted : s.sort = true)
    (turned : Reaches Turn (hall s) trace h) :
    h.values.Pairwise s.le ∧ (accepted trace).Perm (removed trace ++ h.values) := by
  have : Std.Total s.le := ⟨compares.total⟩
  have : IsTrans α s.le := ⟨compares.le_trans⟩
  induction turned with
  | start => exact ⟨.nil, .nil⟩
  | step turned turn ih =>
    obtain ⟨order, same⟩ := ih
    obtain ⟨v, settings⟩ := run_settings turned
    rw [accepted_append, removed_append]
    obtain ⟨el, a, -, -, in_, out, entries⟩ | ⟨in_, values⟩ := turn.flow
    · rw [compares.placed sorted settings entries, in_, out, List.append_nil]
      refine ⟨order.orderedInsert el _, (same.append_right [el]).trans ?_⟩
      rw [List.append_assoc]
      refine List.Perm.append_left _ ?_
      exact (List.perm_append_singleton el _).trans (List.perm_orderedInsert s.le el _).symm
    · rw [in_, List.append_nil, List.append_assoc, ← values]
      rw [values] at order
      exact ⟨(List.pairwise_append.mp order).2.1, same⟩

/-- A queue with an order hands out what belongs in front of all it holds. A new element goes in
front of its equals. -/
theorem sorted_queue (s : Settings α) (compares : Compares s) (sorted : s.sort = true)
    (reached : Reaches Step (start s) trace t) :
    ∃ xs, Holds t.queue xs ∧ (xs.map (·.2)).Pairwise s.le ∧
      (accepted trace).Perm (removed trace ++ xs.map (·.2)) ∧
      (∀ e t', Step t (.get .ok (some e)) t' → ∀ x ∈ xs, s.le e x.2) ∧
      ∀ el t', Step t (.put el .ok) t' → ∃ ys, Holds t'.queue ys ∧
        ys.map (·.2) = (xs.map (·.2)).orderedInsert s.le el := by
  obtain ⟨h, turned, matched⟩ := run_turns (matches_start s) reached
  obtain ⟨order, same⟩ := sorted_turns compares sorted turned
  obtain ⟨v, settings⟩ := run_settings turned
  refine ⟨h.entries, matched.holds, order, same, ?_, ?_⟩
  · intro e t' stepped x member
    obtain ⟨h', turn, -⟩ := step_turns matched stepped
    obtain ⟨el, a, put_, -⟩ | ⟨-, values⟩ := turn.flow
    · cases put_
    · have inside : x.2 ∈ h.values := List.mem_map_of_mem member
      rw [values] at order inside
      rcases List.mem_cons.mp inside with same | later
      · rw [same]
        exact (compares.total e e).elim id id
      · exact (List.pairwise_cons.mp order).1 _ later
  · intro el t' stepped
    obtain ⟨h', turn, matched'⟩ := step_turns matched stepped
    obtain ⟨el', a, put_, -, -, -, entries⟩ | ⟨in_, -⟩ := turn.flow
    · cases put_
      exact ⟨h'.entries, matched'.holds, compares.placed sorted settings entries⟩
    · cases in_

/-- The smallest first. -/
def ascending : Settings Int := { sort := true, cmp_el := fun a b => a - b }

theorem compares_ascending : Compares ascending where
  flip a b := by
    simp only [ascending]
    omega
  trans a b c := by
    simp only [ascending]
    omega

theorem five_before_nine :
    ∃ t, Reaches Step (start ascending) [.put 9 .ok, .put 5 .ok, .get .ok (some 5)] t :=
  ⟨_, .step
    (.step
      (.step .start (.put false (fresh_some (a := 0) rfl) rfl (signals_nobody (by simp) _)))
      (.put false (fresh_some (a := 1) rfl) rfl (signals_nobody (by simp) _)))
    (.get false rfl (signals_nobody (by simp) _))⟩

theorem sorted_queue_two :
    ∃ t xs, Reaches Step (start ascending) [.put 9 .ok, .put 5 .ok, .get .ok (some 5)] t ∧
      Holds t.queue xs ∧ [9, 5].Perm ([5] ++ xs.map (·.2)) := by
  obtain ⟨t, reached⟩ := five_before_nine
  obtain ⟨xs, holds, -, same, -⟩ := sorted_queue ascending compares_ascending rfl reached
  exact ⟨t, xs, reached, holds, same⟩

theorem Turn.closed (turn : Turn h ev h') (closed : h.settings.new_data = 0)
    (stays : ∀ v, ev = .newData v → v = 0) :
    h'.settings.new_data = 0 := by
  cases turn with
  | setNewData v => exact stays v rfl
  | _ => exact closed

theorem closed_turns (turned : Reaches Turn h more h') (closed : h.settings.new_data = 0)
    (stays : ∀ v, .newData v ∈ more → v = 0) :
    h'.settings.new_data = 0 ∧ accepted more = [] ∧ h.values = removed more ++ h'.values := by
  induction turned with
  | start => exact ⟨closed, rfl, rfl⟩
  | step turned turn ih =>
    obtain ⟨closed₁, in_, values⟩ := ih fun v member => stays v (List.mem_append_left _ member)
    have closed' := turn.closed closed₁ fun v same => stays v (by simp [same])
    rw [accepted_append, removed_append, in_, values]
    obtain ⟨el, a, -, accepting, -⟩ | ⟨in_', values'⟩ := turn.flow
    · exact absurd closed₁ accepting
    · exact ⟨closed', by rw [in_']; rfl, by rw [values', List.append_assoc]⟩

/-- Once the queue takes no new elements, it hands out what it holds, in order, and no more. -/
theorem drained_after_shutdown (s : Settings α) (reached : Reaches Step (start s) trace t)
    (closed : t.queue.new_data = 0) (later : Reaches Step t more t')
    (stays : ∀ v, .newData v ∈ more → v = 0) :
    accepted more = [] ∧ ∃ xs ys, Holds t.queue xs ∧ Holds t'.queue ys ∧
      xs.map (·.2) = removed more ++ ys.map (·.2) := by
  obtain ⟨h, -, matched⟩ := run_turns (matches_start s) reached
  obtain ⟨h', turned, matched'⟩ := run_turns matched later
  rw [matched.settings] at closed
  obtain ⟨-, in_, values⟩ := closed_turns turned closed stays
  exact ⟨in_, h.entries, h'.entries, matched.holds, matched'.holds, values⟩

theorem closed_with_one :
    ∃ t t', Reaches Step (start ({} : Settings Nat)) [.put 7 .ok, .newData 0] t ∧
      t.queue.new_data = 0 ∧ Reaches Step t [.get .ok (some 7)] t' :=
  ⟨_, _, .step
    (.step .start (.put false (fresh_some (a := 0) rfl) rfl (signals_nobody (by simp) _)))
    (.setNewData 0), rfl,
    .step .start (.get false rfl (signals_nobody (by simp [Phase.PutterAsleep]) _))⟩

theorem drained_after_shutdown_one :
    ∃ t xs, Reaches Step (start ({} : Settings Nat)) [.put 7 .ok, .newData 0] t ∧ Holds t.queue xs ∧
      ∃ ys, xs.map (·.2) = [7] ++ ys := by
  obtain ⟨t, t', reached, closed, later⟩ := closed_with_one
  obtain ⟨-, xs, ys, holds, -, same⟩ := drained_after_shutdown {} reached closed later (by simp)
  exact ⟨t, xs, reached, holds, ys.map (·.2), by rw [same]; rfl⟩

end HiMaxGateway.Queue
