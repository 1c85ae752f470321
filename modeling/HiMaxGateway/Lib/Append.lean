import HiMaxGateway.Lib.Chain
import Mathlib.Logic.Relation

/-! Cells put behind the last cell of chains, one after the other. Such a run is stuck at a chain
that has no last cell; the pairs alone decide whether it meets one. -/
namespace Chain
open Relation

variable {α : Type} {next result : Links α} {a b c t : α} {pairs : List (α × α)}

/-- `t` is the last cell behind `a`. -/
def EndsAt (next : Links α) (a t : α) : Prop := Reach next a t ∧ next t = none

def Ends (next : Links α) (a : α) : Prop := ∃ t, EndsAt next a t

/-- Each pair `(a, b)` puts `b` behind the last cell of `a`. -/
inductive Appends [DecidableEq α] : Links α → List (α × α) → Links α → Prop where
  | nil (next : Links α) : Appends next [] next
  | cons {next result : Links α} {a b t : α} {pairs : List (α × α)} (last : EndsAt next a t)
      (more : Appends (link next t b) pairs result) : Appends next ((a, b) :: pairs) result

/-- Cells that the pairs connect. -/
def Joined (pairs : List (α × α)) : α → α → Prop := EqvGen fun a b => (a, b) ∈ pairs

/-- A pair of cells that earlier pairs connect closes a ring among the cells of `a`. -/
def Ringed (pairs : List (α × α)) (a : α) : Prop :=
  ∃ before b c after, pairs = before ++ (b, c) :: after ∧ Joined before b c ∧ Joined pairs a b

theorem endsAt_linked (linked : next a = some b) : EndsAt next a t ↔ EndsAt next b t := by
  constructor
  · rintro ⟨reach, ends⟩
    cases reach with
    | refl =>
      rw [linked] at ends
      contradiction
    | step linked' reach =>
      cases Option.some.inj (linked.symm.trans linked')
      exact ⟨reach, ends⟩
  · rintro ⟨reach, ends⟩
    exact ⟨.step linked reach, ends⟩

/-- Connected cells have the same last cell. -/
theorem endsAt_connected (connected : EqvGen (fun a b => next a = some b) a b) :
    EndsAt next a t ↔ EndsAt next b t := by
  induction connected with
  | rel a b linked => exact endsAt_linked linked
  | refl a => exact Iff.rfl
  | symm a b _ ih => exact ih.symm
  | trans a b c _ _ first second => exact first.trans second

theorem ends_connected (connected : EqvGen (fun a b => next a = some b) a b) :
    Ends next a ↔ Ends next b :=
  exists_congr fun _ => endsAt_connected connected

theorem Reach.connected (reach : Reach next a b) : EqvGen (fun a b => next a = some b) a b := by
  induction reach with
  | refl a => exact .refl a
  | step linked _ ih => exact .trans _ _ _ (.rel _ _ linked) ih

theorem Reach.trans (first : Reach next a b) (second : Reach next b c) : Reach next a c := by
  induction first with
  | refl a => exact second
  | step linked _ ih => exact .step linked (ih second)

theorem EndsAt.unique (first : EndsAt next a b) (second : EndsAt next a c) : b = c := by
  have onward := Reach.to_end second.2 second.1 first.1
  cases onward with
  | refl => rfl
  | step linked _ =>
    rw [first.2] at linked
    contradiction

theorem EndsAt.chain (last : EndsAt next a t) : ∃ bs, From next a bs := by
  obtain ⟨reach, ends⟩ := last
  induction reach with
  | refl a => exact ⟨[], ends⟩
  | step linked _ ih =>
    obtain ⟨bs, chain⟩ := ih ends
    exact ⟨_ :: bs, linked, chain⟩

theorem last_of_endsAt (ends : EndsAt next a t) :
    ∃ least, ∀ fuel, least ≤ fuel → Chain.last next fuel a = some t := by
  obtain ⟨reach, ends⟩ := ends
  induction reach with
  | refl a =>
    refine ⟨1, fun fuel enough => ?_⟩
    cases fuel with
    | zero => contradiction
    | succ fuel => simp only [last, ends]
  | step linked _ ih =>
    obtain ⟨least, found⟩ := ih ends
    refine ⟨least + 1, fun fuel enough => ?_⟩
    cases fuel with
    | zero => contradiction
    | succ fuel => simp only [last, linked, found fuel (by omega)]

theorem not_ends_of_back (linked : next t = some b) (back : Reach next b t) : ¬ Ends next b := by
  rintro ⟨last, ends⟩
  obtain ⟨bs, chain⟩ := ends.chain
  exact chain.acyclic back linked

theorem Joined.refl (a : α) : Joined pairs a a := EqvGen.refl a

theorem Joined.symm (joined : Joined pairs a b) : Joined pairs b a := EqvGen.symm _ _ joined

theorem Joined.trans (first : Joined pairs a b) (second : Joined pairs b c) : Joined pairs a c :=
  EqvGen.trans _ _ _ first second

theorem Joined.append (joined : Joined pairs a b) (more : List (α × α)) :
    Joined (pairs ++ more) a b :=
  EqvGen.mono (fun _ _ member => List.mem_append_left _ member) _ _ joined

theorem joined_last : Joined (pairs ++ [(a, b)]) a b := EqvGen.rel _ _ (by simp)

/-- One more pair connects the cells of its two sides. -/
theorem joined_snoc {x y : α} (joined : Joined (pairs ++ [(a, b)]) x y) :
    Joined pairs x y ∨ Joined pairs x a ∧ Joined pairs b y ∨ Joined pairs x b ∧
    Joined pairs a y := by
  induction joined with
  | rel x y member =>
    rcases List.mem_append.mp member with member | member
    · exact .inl (EqvGen.rel _ _ member)
    · simp only [List.mem_singleton, Prod.mk.injEq] at member
      obtain ⟨rfl, rfl⟩ := member
      exact .inr (.inl ⟨.refl _, .refl _⟩)
  | refl x => exact .inl (.refl x)
  | symm x y _ ih =>
    rcases ih with same | ⟨one, two⟩ | ⟨one, two⟩
    · exact .inl same.symm
    · exact .inr (.inr ⟨two.symm, one.symm⟩)
    · exact .inr (.inl ⟨two.symm, one.symm⟩)
  | trans x y z _ _ first second =>
    rcases first with same | ⟨one, two⟩ | ⟨one, two⟩ <;>
      rcases second with same' | ⟨one', two'⟩ | ⟨one', two'⟩
    · exact .inl (same.trans same')
    · exact .inr (.inl ⟨same.trans one', two'⟩)
    · exact .inr (.inr ⟨same.trans one', two'⟩)
    · exact .inr (.inl ⟨one, two.trans same'⟩)
    · exact .inr (.inl ⟨one, two'⟩)
    · exact .inl (one.trans two')
    · exact .inr (.inr ⟨one, two.trans same'⟩)
    · exact .inl (one.trans two')
    · exact .inr (.inr ⟨one, two'⟩)

/-- A ring of the pairs, or the one that the last pair closes. -/
theorem ringed_snoc (ringed : Ringed (pairs ++ [(a, b)]) c) :
    (∃ d, Joined (pairs ++ [(a, b)]) c d ∧ Ringed pairs d) ∨
      Joined pairs a b ∧ Joined (pairs ++ [(a, b)]) c a := by
  obtain ⟨before, d, e, after, split, closes, joined⟩ := ringed
  rcases List.eq_nil_or_concat after with rfl | ⟨after, last, rfl⟩
  · obtain rfl : pairs = before := List.append_inj_left' split rfl
    have same : (a, b) = (d, e) := by simpa using split
    rw [Prod.mk.injEq] at same
    obtain ⟨rfl, rfl⟩ := same
    exact .inr ⟨closes, joined⟩
  · have inner : pairs = before ++ (d, e) :: after := by
      have split : pairs ++ [(a, b)] = (before ++ (d, e) :: after) ++ [last] := by simpa using split
      exact List.append_inj_left' split rfl
    exact .inl ⟨d, joined, before, d, e, after, inner, closes, .refl d⟩

theorem Ringed.append (ringed : Ringed pairs a) (more : List (α × α)) :
    Ringed (pairs ++ more) a := by
  obtain ⟨before, d, e, after, rfl, closes, joined⟩ := ringed
  exact ⟨before, d, e, after ++ more, by simp, closes, joined.append more⟩

theorem Ringed.joined (ringed : Ringed pairs a) (joined : Joined pairs c a) : Ringed pairs c := by
  obtain ⟨before, d, e, after, split, closes, joined'⟩ := ringed
  exact ⟨before, d, e, after, split, closes, joined.trans joined'⟩

theorem ringed_last (joined : Joined pairs a b) : Ringed (pairs ++ [(a, b)]) a :=
  ⟨pairs, a, b, [], rfl, joined, .refl a⟩

/-- What the links have to do with the pairs put so far. -/
structure Shape (pairs : List (α × α)) (next : Links α) : Prop where
  connected : ∀ a b, EqvGen (fun a b => next a = some b) a b ↔ Joined pairs a b
  ends : ∀ a, Ends next a ↔ ¬ Ringed pairs a

theorem Shape.unlinked : Shape [] (fun _ : α => none) where
  connected a b := by
    constructor
    · exact fun connected => EqvGen.mono (by intro _ _ linked; contradiction) _ _ connected
    · exact fun joined => EqvGen.mono (by intro _ _ member; contradiction) _ _ joined
  ends a := by
    constructor
    · rintro - ⟨before, b, c, after, split, -⟩
      simp at split
    · exact fun _ => ⟨a, .refl a, rfl⟩

section

variable [DecidableEq α]

theorem link_self : link next t b t = some b := by
  simp [link]

theorem link_other (other : c ≠ t) : link next t b c = next c := by
  simp [link, other]

/-- A chain that does not meet the changed cell stays as it is. -/
theorem endsAt_link_apart (apart : ¬ Reach next a t) :
    EndsAt (link next t b) a c ↔ EndsAt next a c := by
  constructor
  · rintro ⟨reach, ends⟩
    induction reach with
    | refl a =>
      have other : a ≠ t := by
        rintro rfl
        exact apart (.refl a)
      exact ⟨.refl a, by rwa [link_other other] at ends⟩
    | @step a d c linked _ ih =>
      have other : a ≠ t := by
        rintro rfl
        exact apart (.refl a)
      rw [link_other other] at linked
      exact (endsAt_linked linked).mpr (ih (fun reach => apart (.step linked reach)) ends)
  · rintro ⟨reach, ends⟩
    induction reach with
    | refl a =>
      have other : a ≠ t := by
        rintro rfl
        exact apart (.refl a)
      exact ⟨.refl a, by rwa [link_other other]⟩
    | @step a d c linked _ ih =>
      have other : a ≠ t := by
        rintro rfl
        exact apart (.refl a)
      exact (endsAt_linked (by rw [link_other other, linked])).mpr
        (ih (fun reach => apart (.step linked reach)) ends)

theorem ends_link_apart (apart : ¬ Reach next a t) : Ends (link next t b) a ↔ Ends next a :=
  exists_congr fun _ => endsAt_link_apart apart

theorem Shape.connected_link (shape : Shape pairs next) (last : EndsAt next a t) (x y : α) :
    EqvGen (fun x y => link next t b x = some y) x y ↔ Joined (pairs ++ [(a, b)]) x y := by
  obtain ⟨reach, ends⟩ := last
  have extended := extends_link ends b
  constructor
  · intro connected
    induction connected with
    | rel x y linked =>
      by_cases at_end : x = t
      · subst at_end
        rw [link_self, Option.some.injEq] at linked
        subst linked
        have to_end := ((shape.connected a x).mp reach.connected).append [(a, b)]
        exact to_end.symm.trans joined_last
      · rw [link_other at_end] at linked
        exact ((shape.connected x y).mp (.rel _ _ linked)).append _
    | refl x => exact .refl x
    | symm x y _ ih => exact ih.symm
    | trans x y z _ _ first second => exact first.trans second
  · have lift : ∀ {x y}, Joined pairs x y → EqvGen (fun x y => link next t b x = some y) x y :=
      fun joined => EqvGen.mono extended _ _ ((shape.connected _ _).mpr joined)
    have joins : EqvGen (fun x y => link next t b x = some y) a b :=
      .trans _ _ _ (EqvGen.mono extended _ _ reach.connected) (.rel _ _ link_self)
    intro joined
    rcases joined_snoc joined with same | ⟨one, two⟩ | ⟨one, two⟩
    · exact lift same
    · exact .trans _ _ _ (lift one) (.trans _ _ _ joins (lift two))
    · exact .trans _ _ _ (lift one) (.trans _ _ _ (.symm _ _ joins) (lift two))

/-- A chain that ended at the changed cell goes on with the new one. -/
theorem Shape.ends_link_joined (shape : Shape pairs next) (last : EndsAt next a t)
    (joined : Joined pairs c a) :
    Ends (link next t b) c ↔ ¬ Ringed (pairs ++ [(a, b)]) c := by
  have extended := extends_link last.2 b
  have connected := shape.connected_link (b := b) last
  have joins : Joined (pairs ++ [(a, b)]) c b := (joined.append _).trans joined_last
  rw [ends_connected ((connected c b).mpr joins)]
  by_cases back : Joined pairs b a
  · -- the new cell leads to the same last cell, so the link closes a ring
    have again : EndsAt next b t := (endsAt_connected ((shape.connected b a).mpr back)).mpr last
    have stuck := not_ends_of_back link_self (again.1.mono extended)
    have ringed := (ringed_last back.symm).joined (joined.append _)
    exact ⟨fun ends => absurd ends stuck, fun free => absurd ringed free⟩
  · have apart : ¬ Reach next b t := by
      intro reach
      have same := (shape.connected b t).mp reach.connected
      exact back (same.trans ((shape.connected a t).mp last.1.connected).symm)
    rw [ends_link_apart apart, shape.ends b, not_iff_not]
    constructor
    · exact fun ringed => (ringed.append _).joined joins
    · intro ringed
      rcases ringed_snoc ringed with ⟨d, near, ringed⟩ | ⟨closes, -⟩
      · have free : ¬ Ringed pairs a := (shape.ends a).mp ⟨t, last⟩
        rcases joined_snoc (joins.symm.trans near) with same | ⟨one, -⟩ | ⟨-, two⟩
        · exact ringed.joined same
        · exact absurd one back
        · exact absurd (ringed.joined two) free
      · exact absurd closes.symm back

theorem Shape.ends_link_apart (shape : Shape pairs next) (last : EndsAt next a t)
    (apart : ¬ Joined pairs c a) :
    Ends (link next t b) c ↔ ¬ Ringed (pairs ++ [(a, b)]) c := by
  have unmet : ¬ Reach next c t := by
    intro reach
    have same := (shape.connected c t).mp reach.connected
    exact apart (same.trans ((shape.connected a t).mp last.1.connected).symm)
  rw [Chain.ends_link_apart unmet, shape.ends c, not_iff_not]
  constructor
  · exact fun ringed => ringed.append _
  · intro ringed
    have free : ¬ Ringed pairs a := (shape.ends a).mp ⟨t, last⟩
    rcases ringed_snoc ringed with ⟨d, near, ringed⟩ | ⟨closes, near⟩
    · rcases joined_snoc near with same | ⟨one, -⟩ | ⟨-, two⟩
      · exact ringed.joined same
      · exact absurd one apart
      · exact absurd (ringed.joined two) free
    · rcases joined_snoc near with same | ⟨one, -⟩ | ⟨one, -⟩
      · exact absurd same apart
      · exact absurd one apart
      · exact absurd (one.trans closes.symm) apart

theorem Shape.link (shape : Shape pairs next) (last : EndsAt next a t) :
    Shape (pairs ++ [(a, b)]) (link next t b) where
  connected := shape.connected_link last
  ends c := by
    by_cases joined : Joined pairs c a
    · exact shape.ends_link_joined last joined
    · exact shape.ends_link_apart last joined

/-- A run goes through exactly when no pair comes to a chain with a ring. -/
theorem Shape.appends_iff (shape : Shape pairs next) (more : List (α × α)) :
    (∃ result, Appends next more result) ↔
      ∀ before a b after, more = before ++ (a, b) :: after → ¬ Ringed (pairs ++ before) a := by
  induction more generalizing pairs next with
  | nil =>
    constructor
    · rintro - before a b after split
      simp at split
    · exact fun _ => ⟨next, .nil next⟩
  | cons pair more ih =>
    obtain ⟨a, b⟩ := pair
    constructor
    · rintro ⟨result, run⟩ before c d after split
      cases run with
      | cons last run =>
        cases before with
        | nil =>
          simp only [List.nil_append, List.cons.injEq, Prod.mk.injEq] at split
          rw [List.append_nil, ← split.1.1]
          exact (shape.ends a).mp ⟨_, last⟩
        | cons first before =>
          simp only [List.cons_append, List.cons.injEq] at split
          obtain ⟨rfl, split⟩ := split
          have later := (ih (shape.link last)).mp ⟨result, run⟩ before c d after split
          rwa [List.append_assoc, List.singleton_append] at later
    · intro free
      have here := free [] a b more rfl
      rw [List.append_nil] at here
      obtain ⟨t, last⟩ := (shape.ends a).mpr here
      have later := (ih (shape.link (b := b) last)).mpr (by
        intro before c d after split
        rw [List.append_assoc, List.singleton_append]
        exact free ((a, b) :: before) c d after (by rw [split]; rfl))
      obtain ⟨result, run⟩ := later
      exact ⟨result, .cons last run⟩

theorem Appends.append {first second : List (α × α)} :
    Appends next (first ++ second) result ↔
      ∃ middle, Appends next first middle ∧ Appends middle second result := by
  induction first generalizing next with
  | nil =>
    constructor
    · exact fun run => ⟨next, .nil next, run⟩
    · rintro ⟨middle, ⟨⟩, run⟩
      exact run
  | cons pair first ih =>
    constructor
    · rintro (_ | ⟨last, run⟩)
      obtain ⟨middle, one, two⟩ := ih.mp run
      exact ⟨middle, .cons last one, two⟩
    · rintro ⟨middle, _ | ⟨last, one⟩, two⟩
      exact .cons last (ih.mpr ⟨middle, one, two⟩)

theorem Appends.unique {other : Links α} (one : Appends next pairs result)
    (two : Appends next pairs other) : result = other := by
  induction one with
  | nil => cases two; rfl
  | cons last _ ih =>
    cases two with
    | cons last' two =>
      cases last.unique last'
      exact ih two

theorem Appends.keeps (run : Appends next pairs result) : Extends next result := by
  induction run with
  | nil next => exact .refl next
  | cons last _ ih => exact (extends_link last.2 _).trans ih

/-- Every pair changes the links. -/
theorem Appends.nil_of_same (run : Appends next pairs next) : pairs = [] := by
  cases run with
  | nil => rfl
  | cons last run =>
    have linked := run.keeps _ _ link_self
    rw [last.2] at linked
    contradiction

/-- The cell behind `a` leads to `b`. -/
def Behind (next : Links α) (a b : α) : Prop := ∃ c, next a = some c ∧ Reach next c b

theorem Appends.behind (run : Appends next pairs result) (member : (a, b) ∈ pairs) :
    Behind result a b := by
  induction run with
  | nil => contradiction
  | @cons next result a' b' t pairs last run ih =>
    rcases List.mem_cons.mp member with same | member
    · rw [Prod.mk.injEq] at same
      obtain ⟨rfl, rfl⟩ := same
      have extended := (extends_link last.2 b).trans run.keeps
      have linked := run.keeps _ _ link_self
      cases last.1 with
      | refl => exact ⟨b, linked, .refl b⟩
      | step first reach =>
        refine ⟨_, extended _ _ first, ?_⟩
        exact (reach.mono extended).trans (.step linked (.refl b))
    · exact ih member

end

end Chain
