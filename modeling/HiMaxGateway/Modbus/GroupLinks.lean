import HiMaxGateway.Lib.Append
import HiMaxGateway.Modbus.GroupProofs
import Mathlib.Data.List.TakeWhile

/-! Group lists with unknown keys and shared devices: when `ModbusDevGroup` ends, and what it then
has linked. -/
namespace HiMaxGateway.Modbus
open CText Chain

section

variable (search known : Text → Option Nat)

/-- Owner and member, for the known members of a known owner. -/
def Group.pairs (group : Group) : List (Nat × Nat) :=
  match search group.pPrimaryKey with
  | none => []
  | some owner => (group.ppForeignKey.filterMap search).map (owner, ·)

def knownPairs (groups : List Group) : List (Nat × Nat) := groups.flatMap (Group.pairs search)

def Group.owned (group : Group) : Bool := (search group.pPrimaryKey).isSome

/-- The groups without the keys that are unknown. -/
def cleared (groups : List Group) : List Group :=
  (groups.filter (Group.owned search)).map fun group =>
    { group with ppForeignKey := group.ppForeignKey.filter fun key => (search key).isSome }

/-- The function ends, every known member stands behind its known owner, and the links are those of
the list without unknown keys. -/
def GroupsLinked (groups : List Group) : Prop :=
  ∃ fuel pNext, modbusDevGroup fuel search groups unlinked = some pNext ∧
    (∀ group ∈ groups, ∀ owner, known group.pPrimaryKey = some owner →
      ∀ key ∈ group.ppForeignKey, ∀ member, known key = some member → Behind pNext owner member) ∧
    ∃ fuel', modbusDevGroup fuel' search (cleared known groups) unlinked = some pNext

/-- The groups before the first unknown owner. -/
def reached (groups : List Group) : List Group := groups.takeWhile (Group.owned search)

structure Linkable (groups : List Group) : Prop where
  members : ∀ group ∈ reached search groups, ∀ key ∈ group.ppForeignKey, (search key).isSome = true
  owners : knownPairs search (groups.dropWhile (Group.owned search)) = []
  /-- No device is put behind an owner whose chain an earlier pair has closed. -/
  rings : ∀ before owner member after,
    knownPairs search groups = before ++ (owner, member) :: after → ¬ Ringed before owner

end

section

variable {search : Text → Option Nat} {pNext result : Links Nat} {owner base : Nat}

/-- The cell the loop stands at leads to the same last cell as the owner. -/
theorem appends_of_attach (run : attach fuel base members pNext = some result)
    (behind : Reach pNext owner base) : Appends pNext (members.map (owner, ·)) result := by
  induction members generalizing base pNext with
  | nil =>
    cases Option.some.inj run
    exact .nil _
  | cons member members ih =>
    simp only [attach] at run
    cases found : last pNext fuel base with
    | none => simp [found] at run
    | some t =>
      simp only [found] at run
      obtain ⟨reach, ends⟩ := last_spec found
      have onward : Reach pNext owner t := behind.trans reach
      exact .cons ⟨onward, ends⟩ (ih run (onward.mono (extends_link ends member)))

theorem attach_of_appends (run : Appends pNext (members.map (owner, ·)) result)
    (behind : Reach pNext owner base) :
    ∃ least, ∀ fuel, least ≤ fuel → attach fuel base members pNext = some result := by
  induction members generalizing base pNext with
  | nil =>
    cases run
    exact ⟨0, fun fuel _ => rfl⟩
  | cons member members ih =>
    rw [List.map_cons] at run
    cases run with
    | @cons _ _ _ _ t _ ends run =>
      have onward : EndsAt pNext base t := (endsAt_connected behind.connected).mp ends
      obtain ⟨least, found⟩ := last_of_endsAt onward
      obtain ⟨least', looped⟩ := ih run (ends.1.mono (extends_link ends.2 member))
      refine ⟨max least least', fun fuel enough => ?_⟩
      simp only [attach, found fuel (by omega), looped fuel (by omega)]

theorem linkMembers_known (run : linkMembers fuel search base keys pNext = some result) :
    ∀ key ∈ keys, (search key).isSome = true := by
  induction keys generalizing base pNext with
  | nil => simp
  | cons key keys ih =>
    simp only [linkMembers] at run
    cases found : search key with
    | none => simp [found] at run
    | some member =>
      simp only [found] at run
      cases at_end : last pNext fuel base with
      | none => simp [at_end] at run
      | some t =>
        simp only [at_end] at run
        exact List.forall_mem_cons.mpr ⟨by simp [found], ih run⟩

theorem pairs_known {group : Group} (owned : search group.pPrimaryKey = some owner)
    (known : ∀ key ∈ group.ppForeignKey, (search key).isSome = true) :
    group.pairs search = (group.ppForeignKey.map (place search)).map (owner, ·) := by
  have found : group.ppForeignKey.filterMap search = group.ppForeignKey.map (place search) := by
    rw [← List.filterMap_eq_map]
    exact List.filterMap_congr fun key member => search_place (known key member)
  simp only [Group.pairs, owned, found]

theorem reached_owned {group : Group} (owned : search group.pPrimaryKey = some owner)
    (groups : List Group) : reached search (group :: groups) = group :: reached search groups := by
  rw [reached, List.takeWhile_cons_of_pos (by simp [Group.owned, owned])]
  rfl

theorem reached_unowned {group : Group} (unowned : search group.pPrimaryKey = none)
    (groups : List Group) : reached search (group :: groups) = [] := by
  rw [reached, List.takeWhile_cons_of_neg (by simp [Group.owned, unowned])]

/-- The loop over the groups is the run of their pairs, up to the first unknown owner. -/
theorem modbusDevGroup_sound (run : modbusDevGroup fuel search groups pNext = some result) :
    (∀ group ∈ reached search groups, ∀ key ∈ group.ppForeignKey, (search key).isSome = true) ∧
      Appends pNext (knownPairs search (reached search groups)) result := by
  induction groups generalizing pNext with
  | nil =>
    cases Option.some.inj run
    exact ⟨by simp [reached], .nil _⟩
  | cons group groups ih =>
    simp only [modbusDevGroup] at run
    cases owned : search group.pPrimaryKey with
    | none =>
      simp only [owned, Option.some.injEq] at run
      subst run
      rw [reached_unowned owned]
      exact ⟨by simp, .nil _⟩
    | some owner =>
      simp only [owned] at run
      cases linked : linkMembers fuel search owner group.ppForeignKey pNext with
      | none => simp [linked] at run
      | some between =>
        simp only [linked] at run
        have known := linkMembers_known linked
        obtain ⟨later, appended⟩ := ih run
        rw [linkMembers_eq known] at linked
        rw [reached_owned owned, knownPairs, List.flatMap_cons, pairs_known owned known]
        refine ⟨List.forall_mem_cons.mpr ⟨known, later⟩, ?_⟩
        exact Appends.append.mpr ⟨between, appends_of_attach linked (.refl owner), appended⟩

theorem modbusDevGroup_complete
    (known : ∀ group ∈ reached search groups, ∀ key ∈ group.ppForeignKey, (search key).isSome =
      true)
    (run : Appends pNext (knownPairs search (reached search groups)) result) :
    ∃ least, ∀ fuel, least ≤ fuel → modbusDevGroup fuel search groups pNext = some result := by
  induction groups generalizing pNext with
  | nil =>
    cases run
    exact ⟨0, fun fuel _ => rfl⟩
  | cons group groups ih =>
    cases owned : search group.pPrimaryKey with
    | none =>
      rw [reached_unowned owned] at run
      cases run
      exact ⟨0, fun fuel _ => by simp only [modbusDevGroup, owned]⟩
    | some owner =>
      rw [reached_owned owned] at run known
      obtain ⟨here, later⟩ := List.forall_mem_cons.mp known
      rw [knownPairs, List.flatMap_cons, pairs_known owned here] at run
      obtain ⟨between, one, two⟩ := Appends.append.mp run
      obtain ⟨least, attached⟩ := attach_of_appends one (.refl owner)
      obtain ⟨least', looped⟩ := ih later two
      refine ⟨max least least', fun fuel enough => ?_⟩
      simp only [modbusDevGroup, owned, linkMembers_eq here, attached fuel (by omega),
        looped fuel (by omega)]

theorem reached_cleared (groups : List Group) :
    reached search (cleared search groups) = cleared search groups := by
  apply List.takeWhile_eq_self_iff.mpr
  intro group member
  simp only [cleared, List.mem_map, List.mem_filter] at member
  obtain ⟨original, ⟨-, owned⟩, rfl⟩ := member
  exact owned

theorem cleared_known (member : group ∈ cleared search groups) :
    ∀ key ∈ group.ppForeignKey, (search key).isSome = true := by
  simp only [cleared, List.mem_map, List.mem_filter] at member
  obtain ⟨original, -, rfl⟩ := member
  exact fun key listed => (List.mem_filter.mp listed).2

theorem knownPairs_cleared (groups : List Group) :
    knownPairs search (cleared search groups) = knownPairs search groups := by
  induction groups with
  | nil => rfl
  | cons group groups ih =>
    cases owned : search group.pPrimaryKey with
    | none =>
      have same : cleared search (group :: groups) = cleared search groups := by
        simp [cleared, Group.owned, owned]
      rw [same, ih, knownPairs, knownPairs, List.flatMap_cons]
      simp [Group.pairs, owned]
    | some owner =>
      have kept : cleared search (group :: groups) =
          { group with ppForeignKey := group.ppForeignKey.filter fun key => (search key).isSome } ::
            cleared search groups := by
        simp [cleared, Group.owned, owned]
      rw [kept, knownPairs, List.flatMap_cons, ← knownPairs, ih, knownPairs, knownPairs,
        List.flatMap_cons]
      congr 1
      simp only [Group.pairs, owned, List.filterMap_filter]
      congr 1
      apply List.filterMap_congr
      intro key _
      cases found : search key <;> rfl

theorem knownPairs_split (groups : List Group) :
    knownPairs search groups = knownPairs search (reached search groups) ++
      knownPairs search (groups.dropWhile (Group.owned search)) := by
  rw [reached, knownPairs, knownPairs, knownPairs, ← List.flatMap_append,
    List.takeWhile_append_dropWhile]

theorem mem_knownPairs {groups : List Group} {group : Group} (listed : group ∈ groups)
    (owned : search group.pPrimaryKey = some owner) {key : Text} (named : key ∈ group.ppForeignKey)
    (found : search key = some member) : (owner, member) ∈ knownPairs search groups := by
  refine List.mem_flatMap.mpr ⟨group, listed, ?_⟩
  simp only [Group.pairs, owned, List.mem_map, List.mem_filterMap]
  exact ⟨member, ⟨key, named, found⟩, rfl⟩

end

/-- With a search that finds the known devices, all known members are linked, as if the unknown
keys were not there, exactly when the groups before the first unknown owner have known members
only, those behind it have none, and no device is put behind an owner whose chain is a ring. -/
theorem groups_linked_iff (search : Text → Option Nat) (groups : List Group) :
    GroupsLinked search search groups ↔ Linkable search groups := by
  have rings := (@Shape.unlinked Nat).appends_iff (knownPairs search groups)
  simp only [List.nil_append] at rings
  constructor
  · rintro ⟨fuel, pNext, run, -, fuel', clean⟩
    obtain ⟨members, appended⟩ := modbusDevGroup_sound run
    obtain ⟨-, all⟩ := modbusDevGroup_sound clean
    rw [reached_cleared, knownPairs_cleared] at all
    refine ⟨members, ?_, rings.mp ⟨pNext, all⟩⟩
    -- the pairs behind an unknown owner would change the links
    rw [knownPairs_split] at all
    obtain ⟨middle, first, rest⟩ := Appends.append.mp all
    rw [first.unique appended] at rest
    exact rest.nil_of_same
  · rintro ⟨members, owners, free⟩
    obtain ⟨pNext, all⟩ := rings.mpr free
    have first : Appends unlinked (knownPairs search (reached search groups)) pNext := by
      rw [knownPairs_split, owners, List.append_nil] at all
      exact all
    obtain ⟨fuel, run⟩ := modbusDevGroup_complete members first
    obtain ⟨fuel', clean⟩ : ∃ least, ∀ fuel, least ≤ fuel →
        modbusDevGroup fuel search (cleared search groups) unlinked = some pNext := by
      apply modbusDevGroup_complete
      · rw [reached_cleared]
        exact fun group member => cleared_known member
      · rw [reached_cleared, knownPairs_cleared]
        exact all
    refine ⟨fuel, pNext, run fuel le_rfl, ?_, fuel', clean fuel' le_rfl⟩
    intro group listed owner owned key named member found
    exact all.behind (mem_knownPairs listed owned named found)

end HiMaxGateway.Modbus
