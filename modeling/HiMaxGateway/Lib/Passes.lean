import HiMaxGateway.Lib.Walk
import Mathlib.Data.List.Forall2

/-! Several loops over one list, one after the other, each concerned with the elements of one
class. They do what they would do if each of them found the list as the first one did. -/
namespace Walk

variable {α ε κ : Type} (visit : κ → α → Visit α ε)

/-- What all loops do. Nothing comes behind a loop that dies. -/
def passes : List κ → List α → Flow × List α × List ε
  | [], parts => (.next, parts, [])
  | k :: ks, parts =>
      let steps := (walk (visit k) parts).2
      if (walk (visit k) parts).1 = .crash then (.crash, steps.map (·.1), steps.flatMap (·.2))
      else
        let rest := passes ks (steps.map (·.1))
        (rest.1, rest.2.1, steps.flatMap (·.2) ++ rest.2.2)

/-- Each loop on the same list. -/
def separately (parts : List α) : List κ → Flow × List ε
  | [] => (.next, [])
  | k :: ks =>
      let acts := (walk (visit k) parts).2.flatMap (·.2)
      if (walk (visit k) parts).1 = .crash then (.crash, acts)
      else ((separately parts ks).1, acts ++ (separately parts ks).2)

/-- A loop changes only the elements of its class, and whether another loop goes on at an element
does not depend on such changes. -/
structure Separate (cls : α → Option κ) : Prop where
  keeps : ∀ k a, cls (visit k a).value = cls a
  other : ∀ k a, cls a ≠ some k → (visit k a).value = a ∧ (visit k a).acts = []
  flow : ∀ k m a, cls a ≠ some k → (visit k (visit m a).value).flow = (visit k a).flow

/-- An element as the loops to come find it: as it was, if it is for one of them. -/
structure Untouched (cls : α → Option κ) (later : List κ) (a b : α) : Prop where
  same_class : cls b = cls a
  own : ∀ k ∈ later, cls a = some k → b = a
  flow : ∀ k, cls a ≠ some k → (visit k b).flow = (visit k a).flow

variable {visit} {cls : α → Option κ} {ks later : List κ} {k : κ} {a b : α} {parts parts' : List α}

theorem walk_congr {one two : α → Visit α ε}
    (same : List.Forall₂ (fun a b => (two b).flow = (one a).flow ∧ (two b).acts = (one a).acts)
      parts parts') :
    (walk two parts').1 = (walk one parts).1 ∧
      (walk two parts').2.flatMap (·.2) = (walk one parts).2.flatMap (·.2) := by
  induction same with
  | nil => exact ⟨rfl, rfl⟩
  | @cons a b rest rest' here _ ih =>
    obtain ⟨flow, acts⟩ := here
    by_cases next : (one a).flow = .next
    · rw [walk_cons_next two (flow.trans next), walk_cons_next one next]
      simp [ih, acts]
    · rw [walk_cons_left two (by rwa [flow]), walk_cons_left one next]
      have none_ (l : List α) : l.flatMap (fun _ => ([] : List ε)) = [] :=
        List.flatMap_eq_nil_iff.mpr fun _ _ => rfl
      simp [flow, acts, List.flatMap_map, none_]

theorem Untouched.visited (separate : Separate visit cls)
    (untouched : Untouched visit cls (k :: later) a b) (apart : k ∉ later) :
    Untouched visit cls later a (visit k b).value := by
  by_cases here : cls a = some k
  · have same : b = a := untouched.own k (by simp) here
    subst same
    refine ⟨separate.keeps k b, fun m member there => ?_, fun m other => separate.flow m k b other⟩
    cases here.symm.trans there
    exact absurd member apart
  · have left := (separate.other k b (by rwa [untouched.same_class])).1
    rw [left]
    exact ⟨untouched.same_class, fun m member => untouched.own m (by simp [member]), untouched.flow⟩

theorem Untouched.passed (untouched : Untouched visit cls (k :: later) a b) :
    Untouched visit cls later a b :=
  ⟨untouched.same_class, fun m member => untouched.own m (by simp [member]), untouched.flow⟩

/-- The loop finds each element as the first loop did, as far as it can tell. -/
theorem Untouched.looks_same (separate : Separate visit cls)
    (untouched : Untouched visit cls (k :: later) a b) :
    (visit k b).flow = (visit k a).flow ∧ (visit k b).acts = (visit k a).acts := by
  by_cases here : cls a = some k
  · rw [untouched.own k (by simp) here]
    exact ⟨rfl, rfl⟩
  · have there : cls b ≠ some k := by rwa [untouched.same_class]
    exact ⟨untouched.flow k here, (separate.other k b there).2.trans
      (separate.other k a here).2.symm⟩

theorem walk_untouched (separate : Separate visit cls) (apart : k ∉ later)
    (untouched : List.Forall₂ (Untouched visit cls (k :: later)) parts parts') :
    List.Forall₂ (Untouched visit cls later) parts ((walk (visit k) parts').2.map (·.1)) := by
  induction untouched with
  | nil => exact .nil
  | @cons a b rest rest' here others ih =>
    by_cases next : (visit k b).flow = .next
    · rw [walk_cons_next _ next]
      exact .cons (here.visited separate apart) ih
    · rw [walk_cons_left _ next]
      refine .cons (here.visited separate apart) ?_
      simp only [List.map_map, Function.comp_def, List.map_id']
      exact others.imp fun _ _ untouched => untouched.passed

theorem passes_untouched (separate : Separate visit cls) (nodup : ks.Nodup)
    (untouched : List.Forall₂ (Untouched visit cls ks) parts parts') :
    ((passes visit ks parts').1, (passes visit ks parts').2.2) = separately visit parts ks := by
  induction ks generalizing parts' with
  | nil => rfl
  | cons k ks ih =>
    obtain ⟨apart, nodup⟩ := List.nodup_cons.mp nodup
    obtain ⟨flow, acts⟩ := walk_congr (untouched.imp fun _ _ here => here.looks_same separate)
    have rest := ih nodup (walk_untouched separate apart untouched)
    rw [separately, ← rest, passes, flow, acts]
    split <;> rfl

theorem untouched_refl (parts : List α) : List.Forall₂ (Untouched visit cls ks) parts parts :=
  List.forall₂_same.mpr fun _ _ => ⟨rfl, fun _ _ _ => rfl, fun _ _ => rfl⟩

/-- Loops over separate classes do together what they do one by one. -/
theorem passes_eq_separately (separate : Separate visit cls) (nodup : ks.Nodup) (parts : List α) :
    ((passes visit ks parts).1, (passes visit ks parts).2.2) = separately visit parts ks :=
  passes_untouched separate nodup (untouched_refl parts)

theorem separately_alive (alive : (separately visit parts ks).1 ≠ .crash) :
    (separately visit parts ks).2 = ks.flatMap
      (fun k => (walk (visit k) parts).2.flatMap (·.2)) := by
  induction ks with
  | nil => rfl
  | cons k ks ih =>
    rw [separately] at alive ⊢
    split at alive
    · exact absurd rfl alive
    · rename_i lives
      rw [if_neg lives]
      exact congrArg _ (ih alive)

theorem separately_crash :
    (separately visit parts ks).1 = .crash ↔ ∃ k ∈ ks, (walk (visit k) parts).1 = .crash := by
  induction ks with
  | nil => simp [separately]
  | cons k ks ih =>
    rw [separately]
    split
    · rename_i dies
      simp [dies]
    · rename_i lives
      simp [lives, ih]

/-- A loop leaves the elements of other classes as they are. -/
theorem walk_skips {i : Nat} (separate : Separate visit cls) (other : cls a ≠ some k)
    (here : parts[i]? = some a) :
    ((walk (visit k) parts).2.map (·.1))[i]? = some a := by
  have left := (separate.other k a other).1
  rw [List.getElem?_map, walk_getElem? _ here]
  split
  · exact congrArg some left
  · rfl

theorem passes_skips {i : Nat} (separate : Separate visit cls) (other : ∀ k ∈ ks, cls a ≠ some k)
    (here : parts[i]? = some a) : (passes visit ks parts).2.1[i]? = some a := by
  induction ks generalizing parts with
  | nil => exact here
  | cons k ks ih =>
    obtain ⟨first, others⟩ := List.forall_mem_cons.mp other
    have next := walk_skips separate first here
    rw [passes]
    split
    · exact next
    · exact ih others next

/-- A loop that finds an element as it was does to it what it would have done at first. -/
theorem walk_finds {i : Nat} {one two : α → Visit α ε}
    (same : List.Forall₂ (fun a b => (two b).flow = (one a).flow) parts parts')
    (here : parts[i]? = some a) (there : parts'[i]? = some a) (agree : two a = one a) :
    (walk two parts').2[i]? = (walk one parts).2[i]? := by
  have earlier : (∀ j < i, ∀ b, parts'[j]? = some b → (two b).flow = .next) ↔
      ∀ j < i, ∀ b, parts[j]? = some b → (one b).flow = .next := by
    refine forall₂_congr fun j before => ?_
    have length := List.Forall₂.length_eq same
    have inside : j < parts.length := Nat.lt_trans before (List.getElem?_eq_some_iff.mp here).1
    have flows := (List.forall₂_iff_get.mp same).2 j inside (length ▸ inside)
    simp only [List.get_eq_getElem] at flows
    simp [List.getElem?_eq_getElem inside, List.getElem?_eq_getElem (length ▸ inside), flows]
  rw [walk_getElem? two there, walk_getElem? one here, agree]
  simp only [earlier]

theorem passes_value {i : Nat} (separate : Separate visit cls) (nodup : ks.Nodup)
    (untouched : List.Forall₂ (Untouched visit cls ks) parts parts') (own : cls a = some k)
    (member : k ∈ ks)
    (here : parts[i]? = some a) (alive : (passes visit ks parts').1 ≠ .crash) :
    (passes visit ks parts').2.1[i]? = (walk (visit k) parts).2[i]?.map (·.1) := by
  induction ks generalizing parts' with
  | nil => cases member
  | cons m ks ih =>
    obtain ⟨apart, nodup⟩ := List.nodup_cons.mp nodup
    rw [passes] at alive ⊢
    split at alive
    · exact absurd rfl alive
    · rename_i lives
      rw [if_neg lives]
      rcases List.mem_cons.mp member with rfl | later
      · have inside := (List.getElem?_eq_some_iff.mp here).1
        have length := untouched.length_eq
        have there : parts'[i]? = some a := by
          have same :=
            ((List.forall₂_iff_get.mp untouched).2 i inside (length ▸ inside)).own k (by simp)
          simp only [List.get_eq_getElem, (List.getElem?_eq_some_iff.mp here).2] at same
          rw [List.getElem?_eq_getElem (length ▸ inside), same own]
        have found :=
          walk_finds (untouched.imp fun _ _ found => (found.looks_same separate).1) here there rfl
        obtain ⟨step, at_⟩ : ∃ step, (walk (visit k) parts).2[i]? = some step :=
          ⟨_, List.getElem?_eq_getElem (by rwa [walk_length])⟩
        have class_ : cls step.1 = some k := by
          rw [walk_getElem? _ here] at at_
          cases at_
          split
          · exact (separate.keeps k a).trans own
          · exact own
        rw [passes_skips (a := step.1) separate (fun m member same => ?_)
          (by rw [List.getElem?_map, found, at_]; rfl), at_]
        · rfl
        · cases class_.symm.trans same
          exact apart member
      · exact ih nodup (walk_untouched separate apart untouched) later alive

/-- What loops over separate classes leave of an element is what the loop of its class alone would
leave. -/
theorem passes_value_own {i : Nat} (separate : Separate visit cls) (nodup : ks.Nodup)
    (own : cls a = some k) (member : k ∈ ks) (here : parts[i]? = some a)
    (alive : (passes visit ks parts).1 ≠ .crash) :
    (passes visit ks parts).2.1[i]? = (walk (visit k) parts).2[i]?.map (·.1) :=
  passes_value separate nodup (untouched_refl parts) own member here alive

end Walk
