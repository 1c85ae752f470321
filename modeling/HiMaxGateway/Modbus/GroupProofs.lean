import HiMaxGateway.Modbus.Group

/-! Which group lists are linked as they are configured. -/
namespace HiMaxGateway.Modbus
open CText Chain

structure Cells where
  owner : Nat
  members : List Nat

def Cells.all (cells : Cells) : List Nat := cells.owner :: cells.members

def attach (fuel : Nat) : (base : Nat) → List Nat → Links Nat → Option (Links Nat)
  | _, [], pNext => some pNext
  | base, member :: members, pNext =>
      match last pNext fuel base with
      | none => none
      | some base => attach fuel base members (link pNext base member)

def attachAll (fuel : Nat) : List Cells → Links Nat → Option (Links Nat)
  | [], pNext => some pNext
  | cells :: rest, pNext =>
      match attach fuel cells.owner cells.members pNext with
      | none => none
      | some pNext => attachAll fuel rest pNext

/-- The cells of one group behind one another. -/
def linkAll (pNext : Links Nat) : Nat → List Nat → Links Nat
  | _, [] => pNext
  | a, b :: bs => linkAll (link pNext a b) b bs

theorem linkAll_other (pNext : Links Nat) (bs : List Nat) (other : c ∉ a :: bs) :
    linkAll pNext a bs c = pNext c := by
  induction bs generalizing pNext a with
  | nil => rfl
  | cons b bs ih =>
    simp only [List.mem_cons, not_or] at other
    rw [linkAll, ih _ (by simpa using other.2)]
    simp [link, other.1]

theorem linkAll_last (pNext : Links Nat) (bs : List Nat) (distinct : (a :: bs).Nodup)
    (isLast : (a :: bs).getLast? = some c) : linkAll pNext a bs c = pNext c := by
  induction bs generalizing pNext a with
  | nil => rfl
  | cons b bs ih =>
    have behind : (b :: bs).getLast? = some c := by simpa using isLast
    have mem : c ∈ b :: bs := List.mem_of_getLast? behind
    have other : c ≠ a := by
      rintro rfl
      exact (List.nodup_cons.mp distinct).1 mem
    rw [linkAll, ih _ (List.nodup_cons.mp distinct).2 behind]
    simp [link, other]

theorem linkAll_from (pNext : Links Nat) (bs : List Nat) (distinct : (a :: bs).Nodup)
    (fresh : ∀ b ∈ a :: bs, pNext b = none) : From (linkAll pNext a bs) a bs := by
  induction bs generalizing pNext a with
  | nil => exact fresh a (by simp)
  | cons b bs ih =>
    have apart := (List.nodup_cons.mp distinct).1
    constructor
    · rw [linkAll, linkAll_other _ bs apart]
      simp [link]
    · apply ih _ (List.nodup_cons.mp distinct).2
      intro c mem
      have other : c ≠ a := by
        rintro rfl
        exact apart mem
      simp [link, other, fresh c (by simp [mem])]

/-- On fresh cells the search for the end takes at most one step. -/
theorem attach_fresh (pNext : Links Nat) (bs : List Nat) (distinct : (a :: bs).Nodup)
    (fresh : ∀ b ∈ a :: bs, pNext b = none) (near : base = a ∨ pNext base = some a) :
    attach 2 base bs pNext = some (linkAll pNext a bs) := by
  induction bs generalizing pNext a base with
  | nil => rfl
  | cons b bs ih =>
    have ends : last pNext 2 base = some a := by
      rcases near with rfl | linked
      · simp [last, fresh base (by simp)]
      · simp [last, linked, fresh a (by simp)]
    have apart := (List.nodup_cons.mp distinct).1
    simp only [attach, ends, linkAll]
    apply ih _ (List.nodup_cons.mp distinct).2
    · intro c mem
      have other : c ≠ a := by
        rintro rfl
        exact apart mem
      simp [link, other, fresh c (by simp [mem])]
    · exact .inr (by simp [link])

/-- Two groups share a cell only as the last of both. -/
def Cells.Apart (one two : Cells) : Prop :=
  ∀ c ∈ one.all, c ∈ two.all → one.all.getLast? = some c ∧ two.all.getLast? = some c

theorem from_linkAll {pNext : Links Nat} {cells : Cells} (chain : From pNext a bs)
    (distinct : cells.all.Nodup)
    (apart : ∀ c ∈ a :: bs, c ∈ cells.all → cells.all.getLast? = some c) :
    From (linkAll pNext cells.owner cells.members) a bs := by
  have same : ∀ c ∈ a :: bs, linkAll pNext cells.owner cells.members c = pNext c := by
    intro c mem
    by_cases shared : c ∈ cells.all
    · exact linkAll_last _ _ distinct (apart c mem shared)
    · exact linkAll_other _ _ shared
  induction bs generalizing a with
  | nil => exact (same a (by simp)).trans chain
  | cons b bs ih =>
    refine ⟨(same a (by simp)).trans chain.1, ih chain.2 ?_ ?_⟩
    · exact fun c mem => apart c (by simp [mem])
    · exact fun c mem => same c (by simp [mem])

/-- Groups that are apart are all linked as configured, and chains that were
there before and touch them only at their ends stay. -/
theorem attachAll_apart (groups : List Cells) (pNext : Links Nat)
    (distinct : ∀ cells ∈ groups, cells.all.Nodup) (apart : groups.Pairwise Cells.Apart)
    (fresh : ∀ cells ∈ groups, ∀ c ∈ cells.all, pNext c = none) :
    ∃ result, attachAll 2 groups pNext = some result ∧
      (∀ cells ∈ groups, From result cells.owner cells.members) ∧
      ∀ a bs, From pNext a bs →
        (∀ cells ∈ groups, ∀ c ∈ a :: bs, c ∈ cells.all → cells.all.getLast? = some c) →
        From result a bs := by
  induction groups generalizing pNext with
  | nil => exact ⟨pNext, rfl, by simp, fun a bs chain _ => chain⟩
  | cons cells rest ih =>
    obtain ⟨here, later⟩ := List.pairwise_cons.mp apart
    obtain ⟨distinctHere, distinctLater⟩ := List.forall_mem_cons.mp distinct
    obtain ⟨freshHere, freshLater⟩ := List.forall_mem_cons.mp fresh
    have attached := attach_fresh pNext cells.members distinctHere freshHere (.inl rfl)
    have chain := linkAll_from pNext cells.members distinctHere freshHere
    have stillFresh : ∀ other ∈ rest, ∀ c ∈ other.all,
        linkAll pNext cells.owner cells.members c = none := by
      intro other mem c within
      by_cases shared : c ∈ cells.all
      · rw [linkAll_last _ _ distinctHere (here other mem c shared within).1]
        exact freshLater other mem c within
      · rw [linkAll_other _ _ shared]
        exact freshLater other mem c within
    obtain ⟨result, run, chains, keeps⟩ := ih _ distinctLater later stillFresh
    refine ⟨result, by simp only [attachAll, attached, run], ?_, ?_⟩
    · have chainHere : From result cells.owner cells.members := by
        apply keeps _ _ chain
        intro other mem c within shared
        exact (here other mem c within shared).2
      exact List.forall_mem_cons.mpr ⟨chainHere, chains⟩
    · intro a bs before ends
      obtain ⟨endsHere, endsLater⟩ := List.forall_mem_cons.mp ends
      exact keeps a bs (from_linkAll before distinctHere endsHere) endsLater

-- The converse: in a run whose chains come out right, no link is made twice.

/-- During a run from `pNext` to `result` the cell `b` was put behind the end of `a`. -/
def PutBehind (pNext result : Links Nat) (a b : Nat) : Prop :=
  ∃ between tail, Extends pNext between ∧ Reach between a tail ∧ between tail = none ∧
    Extends (link between tail b) result

theorem PutBehind.weaken {first second third fourth : Links Nat} (put : PutBehind second third a b)
    (before : Extends first second) (after : Extends third fourth) :
    PutBehind first fourth a b := by
  obtain ⟨between, tail, earlier, reach, ends, later⟩ := put
  exact ⟨between, tail, before.trans earlier, reach, ends, later.trans after⟩

theorem attach_puts {pNext result : Links Nat} (run : attach fuel base bs pNext = some result)
    (reach : Reach pNext base a) :
    Extends pNext result ∧ ∀ c d, [c, d] <:+: a :: bs → PutBehind pNext result c d := by
  induction bs generalizing pNext base a with
  | nil =>
    cases Option.some.inj run
    refine ⟨.refl _, ?_⟩
    intro c d pair
    have short := pair.length_le
    simp at short
  | cons b bs ih =>
    simp only [attach] at run
    cases found : last pNext fuel base with
    | none => simp [found] at run
    | some tail =>
      simp only [found] at run
      obtain ⟨toTail, ends⟩ := last_spec found
      have grown := extends_link ends b
      have linked : Reach (link pNext tail b) tail b := .step (by simp [link]) (.refl b)
      obtain ⟨extended, puts⟩ := ih run linked
      refine ⟨grown.trans extended, ?_⟩
      intro c d pair
      rcases List.infix_cons_iff.mp pair with here | later
      · simp only [List.cons_prefix_cons, List.nil_prefix, and_true] at here
        obtain ⟨rfl, rfl⟩ := here
        exact ⟨pNext, tail, .refl _, toTail.to_end ends reach, ends, extended⟩
      · exact (puts c d later).weaken grown (.refl _)

theorem attachAll_puts {pNext result : Links Nat}
    (run : attachAll fuel groups pNext = some result) :
    Extends pNext result ∧
      ∀ cells ∈ groups, ∀ c d, [c, d] <:+: cells.all → PutBehind pNext result c d := by
  induction groups generalizing pNext with
  | nil =>
    cases Option.some.inj run
    exact ⟨.refl _, by simp⟩
  | cons cells rest ih =>
    simp only [attachAll] at run
    cases attached : attach fuel cells.owner cells.members pNext with
    | none => simp [attached] at run
    | some between =>
      simp only [attached] at run
      obtain ⟨first, putsHere⟩ := attach_puts attached (.refl _)
      obtain ⟨second, putsLater⟩ := ih run
      refine ⟨first.trans second, List.forall_mem_cons.mpr ⟨?_, ?_⟩⟩
      · intro c d pair
        exact (putsHere c d pair).weaken (.refl _) second
      · intro other mem c d pair
        exact (putsLater other mem c d pair).weaken first (.refl _)

/-- In the end `b` follows `a`, so it was put behind `a` itself, which had no link then. -/
theorem PutBehind.here {pNext result final : Links Nat} (put : PutBehind pNext result a b)
    (later : Extends result final) (chain : From final a (b :: bs)) :
    pNext a = none ∧ result a = some b := by
  obtain ⟨between, tail, earlier, reach, ends, linked⟩ := put
  have tailLinked : result tail = some b := linked tail b (by simp [link])
  have atTail : tail = a := by
    cases reach with
    | refl a => rfl
    | step first rest =>
      have grown := (extends_link ends b).trans (linked.trans later)
      cases Option.some.inj ((grown _ _ first).symm.trans chain.1)
      exact (chain.2.acyclic (rest.mono grown) (later _ _ tailLinked)).elim
  subst tail
  refine ⟨?_, tailLinked⟩
  cases before : pNext a with
  | none => rfl
  | some c =>
    rw [earlier a c before] at ends
    contradiction

theorem from_behind {next : Links Nat} (chain : From next a bs)
    (split : a :: bs = before ++ c :: after) : From next c after := by
  induction before generalizing a bs with
  | nil =>
    cases split
    exact chain
  | cons b before ih =>
    cases bs with
    | nil => simp at split
    | cons b' bs =>
      simp only [List.cons_append, List.cons.injEq] at split
      exact ih chain.2 split.2

/-- A cell of two right chains has the same cells behind it in both. -/
theorem shared_last {final : Links Nat} {one two : Cells} (first : From final one.owner one.members)
    (second : From final two.owner two.members)
    (once : ∀ c d, [c, d] <:+: one.all → ¬ [c, d] <:+: two.all) : one.Apart two := by
  intro c inOne inTwo
  obtain ⟨before₁, after₁, split₁⟩ := List.append_of_mem inOne
  obtain ⟨before₂, after₂, split₂⟩ := List.append_of_mem inTwo
  have same := (from_behind first split₁).unique (from_behind second split₂)
  subst after₂
  cases after₁ with
  | nil => simp [split₁, split₂]
  | cons d after =>
    have pair (before : List Nat) : [c, d] <:+: before ++ c :: d :: after :=
      ⟨before, after, by simp⟩
    exact absurd (split₂ ▸ pair before₂) (once c d (split₁ ▸ pair before₁))

theorem apart_of_chains {pNext final : Links Nat} (run : attachAll fuel groups pNext = some final)
    (chains : ∀ cells ∈ groups, From final cells.owner cells.members) :
    groups.Pairwise Cells.Apart := by
  induction groups generalizing pNext with
  | nil => exact .nil
  | cons cells rest ih =>
    simp only [attachAll] at run
    cases attached : attach fuel cells.owner cells.members pNext with
    | none => simp [attached] at run
    | some between =>
      simp only [attached] at run
      obtain ⟨chainHere, chainsLater⟩ := List.forall_mem_cons.mp chains
      obtain ⟨later, putsLater⟩ := attachAll_puts run
      obtain ⟨-, putsHere⟩ := attach_puts attached (.refl _)
      refine List.pairwise_cons.mpr ⟨?_, ih run chainsLater⟩
      intro other mem
      apply shared_last chainHere (chainsLater other mem)
      intro c d pair again
      obtain ⟨before, after, split⟩ := pair
      have chain : From final c (d :: after) :=
        from_behind chainHere (by simpa [Cells.all] using split.symm)
      have linked := ((putsHere c d ⟨before, after, split⟩).here later chain).2
      have empty := ((putsLater other mem c d again).here (.refl _) chain).1
      rw [linked] at empty
      contradiction

def Group.keys (group : Group) : List Text := group.pPrimaryKey :: group.ppForeignKey

/-- A command to the owner goes to the configured members, once each and in order. -/
def Forwards (search : Text → Option Nat) (pNext : Links Nat) (group : Group) : Prop :=
  ∃ owner members fuel, search group.pPrimaryKey = some owner ∧
    group.ppForeignKey.map search = members.map some ∧
    forwardTargets fuel pNext owner = some members

/-- A device of two groups is the last of both; the owner counts as the first. -/
def KeysApart (one two : Group) : Prop :=
  ∀ key ∈ one.keys, key ∈ two.keys → one.keys.getLast? = some key ∧ two.keys.getLast? = some key

section

variable {search : Text → Option Nat}

def place (search : Text → Option Nat) (key : Text) : Nat := (search key).getD 0

def Group.cells (search : Text → Option Nat) (group : Group) : Cells :=
  ⟨place search group.pPrimaryKey, group.ppForeignKey.map (place search)⟩

theorem search_place (known : (search key).isSome = true) :
    search key = some (place search key) := by
  obtain ⟨p, found⟩ := Option.isSome_iff_exists.mp known
  simp [place, found]

theorem linkMembers_eq (known : ∀ key ∈ keys, (search key).isSome = true) (pNext : Links Nat) :
    linkMembers fuel search base keys pNext = attach fuel base (keys.map (place search)) pNext := by
  induction keys generalizing base pNext with
  | nil => rfl
  | cons key keys ih =>
    obtain ⟨here, later⟩ := List.forall_mem_cons.mp known
    simp only [linkMembers, List.map_cons, attach, search_place here]
    cases last pNext fuel base with
    | none => rfl
    | some base => exact ih later _

theorem modbusDevGroup_eq (known : ∀ group ∈ groups, ∀ key ∈ group.keys, (search key).isSome = true)
    (pNext : Links Nat) :
    modbusDevGroup fuel search groups pNext =
      attachAll fuel (groups.map (Group.cells search)) pNext := by
  induction groups generalizing pNext with
  | nil => rfl
  | cons group groups ih =>
    obtain ⟨here, later⟩ := List.forall_mem_cons.mp known
    obtain ⟨owner, members⟩ := List.forall_mem_cons.mp here
    simp only [modbusDevGroup, List.map_cons, attachAll, search_place owner,
      linkMembers_eq members, Group.cells]
    cases attach fuel (place search group.pPrimaryKey)
        (group.ppForeignKey.map (place search)) pNext with
    | none => rfl
    | some pNext => exact ih later pNext

theorem forwards_iff {group : Group} (known : ∀ key ∈ group.keys, (search key).isSome = true) :
    Forwards search pNext group ↔
      From pNext (group.cells search).owner (group.cells search).members := by
  obtain ⟨owner, members⟩ := List.forall_mem_cons.mp known
  have found :
      group.ppForeignKey.map search = (group.ppForeignKey.map (place search)).map some := by
    rw [List.map_map]
    exact List.map_congr_left fun key mem => search_place (members key mem)
  constructor
  · rintro ⟨p, ps, fuel, ownerFound, membersFound, follows⟩
    cases Option.some.inj ((search_place owner).symm.trans ownerFound)
    rw [found] at membersFound
    rw [← List.map_injective_iff.mpr (fun _ _ same => Option.some.inj same) membersFound] at follows
    exact (follow_eq_some.mp follows).1
  · intro chain
    exact ⟨_, _, _, search_place owner, found,
      follow_eq_some.mpr ⟨chain, Nat.lt_succ_self _⟩⟩

variable {keyOf : Nat → Text} (correct : ∀ key p, search key = some p → keyOf p = key)

include correct

theorem place_injective (known : (search key).isSome = true) (known' : (search key').isSome = true)
    (same : place search key = place search key') : key = key' := by
  rw [← correct key _ (search_place known), ← correct key' _ (search_place known'), same]

theorem keys_nodup {group : Group} (known : ∀ key ∈ group.keys, (search key).isSome = true)
    (distinct : group.keys.Nodup) : (group.cells search).all.Nodup := by
  change (group.keys.map (place search)).Nodup
  apply List.Nodup.map_on _ distinct
  intro key mem key' mem' same
  exact place_injective correct (known key mem) (known key' mem') same

theorem keysApart_iff {one two : Group} (known₁ : ∀ key ∈ one.keys, (search key).isSome = true)
    (known₂ : ∀ key ∈ two.keys, (search key).isSome = true) :
    (one.cells search).Apart (two.cells search) ↔ KeysApart one two := by
  have lastKey {group : Group} (known : ∀ key ∈ group.keys, (search key).isSome = true)
      {key : Text} (within : key ∈ group.keys) :
      (group.keys.map (place search)).getLast? = some (place search key) ↔
        group.keys.getLast? = some key := by
    rw [List.getLast?_map, Option.map_eq_some_iff]
    constructor
    · rintro ⟨key', isLast, same⟩
      rw [isLast, place_injective correct (known key' (List.mem_of_getLast? isLast))
        (known key within) same]
    · intro isLast
      exact ⟨key, isLast, rfl⟩
  change (∀ c ∈ one.keys.map (place search), c ∈ two.keys.map (place search) → _) ↔ _
  constructor
  · intro apart key inOne inTwo
    have ends := apart _ (List.mem_map_of_mem inOne) (List.mem_map_of_mem inTwo)
    exact ⟨(lastKey known₁ inOne).mp ends.1, (lastKey known₂ inTwo).mp ends.2⟩
  · intro apart c inOne inTwo
    obtain ⟨key, listed₁, rfl⟩ := List.mem_map.mp inOne
    obtain ⟨key', listed₂, same⟩ := List.mem_map.mp inTwo
    cases place_injective correct (known₂ key' listed₂) (known₁ key listed₁) same
    obtain ⟨ends₁, ends₂⟩ := apart key listed₁ listed₂
    exact ⟨(lastKey known₁ listed₁).mpr ends₁, (lastKey known₂ listed₂).mpr ends₂⟩

section

variable {groups : List Group}
  (known : ∀ group ∈ groups, ∀ key ∈ group.keys, (search key).isSome = true)

include known

theorem cellsApart_iff : (groups.map (Group.cells search)).Pairwise Cells.Apart ↔
    groups.Pairwise KeysApart := by
  rw [List.pairwise_map]
  constructor
  · intro pairs
    exact pairs.imp_of_mem fun inOne inTwo =>
      (keysApart_iff correct (known _ inOne) (known _ inTwo)).mp
  · intro pairs
    exact pairs.imp_of_mem fun inOne inTwo =>
      (keysApart_iff correct (known _ inOne) (known _ inTwo)).mpr

theorem keysApart_of_forwards
    (run : modbusDevGroup fuel search groups unlinked = some pNext)
    (forwards : ∀ group ∈ groups, Forwards search pNext group) : groups.Pairwise KeysApart := by
  rw [modbusDevGroup_eq known] at run
  apply (cellsApart_iff correct known).mp
  apply apart_of_chains run
  intro cells mem
  obtain ⟨group, listed, rfl⟩ := List.mem_map.mp mem
  exact (forwards_iff (known group listed)).mp (forwards group listed)

theorem forwards_of_keysApart (distinct : ∀ group ∈ groups, group.keys.Nodup)
    (apart : groups.Pairwise KeysApart) :
    ∃ pNext, modbusDevGroup 2 search groups unlinked = some pNext ∧
      ∀ group ∈ groups, Forwards search pNext group := by
  have nodup : ∀ cells ∈ groups.map (Group.cells search), cells.all.Nodup := by
    intro cells mem
    obtain ⟨group, listed, rfl⟩ := List.mem_map.mp mem
    exact keys_nodup correct (known group listed) (distinct group listed)
  have cellsApart := (cellsApart_iff correct known).mpr apart
  obtain ⟨pNext, run, chains, -⟩ :=
    attachAll_apart _ unlinked nodup cellsApart (fun _ _ _ _ => rfl)
  refine ⟨pNext, by rw [modbusDevGroup_eq known, run], ?_⟩
  intro group mem
  exact (forwards_iff (known group mem)).mpr (chains _ (List.mem_map_of_mem mem))

end

end

/-- `ModbusDevGroup` ends with every command forwarded as configured exactly
when groups share a device only as the last of both. -/
theorem group_forwards_iff (search : Text → Option Nat) (keyOf : Nat → Text)
    (correct : ∀ key p, search key = some p → keyOf p = key) (groups : List Group)
    (known : ∀ group ∈ groups, ∀ key ∈ group.keys, (search key).isSome = true)
    (distinct : ∀ group ∈ groups, group.keys.Nodup) :
    (∃ fuel pNext, modbusDevGroup fuel search groups unlinked = some pNext ∧
        ∀ group ∈ groups, Forwards search pNext group) ↔
      groups.Pairwise KeysApart := by
  constructor
  · rintro ⟨fuel, pNext, run, forwards⟩
    exact keysApart_of_forwards correct known run forwards
  · intro apart
    obtain ⟨pNext, run, forwards⟩ := forwards_of_keysApart correct known distinct apart
    exact ⟨2, pNext, run, forwards⟩

def houseKeyOf : Nat → Text
  | 0 => "100".toList
  | 1 => "101".toList
  | _ => "102".toList

/-- The devices `100`, `101` and `102` of a house. -/
def houseSearch (key : Text) : Option Nat := [0, 1, 2].find? (houseKeyOf · = key)

theorem houseSearch_correct (key : Text) (p : Nat) (found : houseSearch key = some p) :
    houseKeyOf p = key := by
  simpa using List.find?_some found

/-- The two groups of the sample configuration. -/
def sampleGroups : List Group :=
  [⟨"100".toList, ["101".toList, "102".toList]⟩, ⟨"100".toList, ["101".toList, "102".toList]⟩]

instance (one two : Group) : Decidable (KeysApart one two) := by
  unfold KeysApart
  infer_instance

theorem group_forwards_pair :
    ∃ fuel pNext,
      modbusDevGroup fuel houseSearch
          [⟨"100".toList, ["102".toList]⟩, ⟨"101".toList, ["102".toList]⟩] unlinked = some pNext ∧
        ∀ group ∈ [⟨"100".toList, ["102".toList]⟩, ⟨"101".toList, ["102".toList]⟩],
          Forwards houseSearch pNext group :=
  (group_forwards_iff houseSearch houseKeyOf houseSearch_correct _ (by decide) (by decide)).mpr
    (by decide)

theorem sampleGroups_not_forwarded :
    ¬ ∃ fuel pNext, modbusDevGroup fuel houseSearch sampleGroups unlinked = some pNext ∧
      ∀ group ∈ sampleGroups, Forwards houseSearch pNext group := by
  rintro ⟨fuel, pNext, run, forwards⟩
  have apart := keysApart_of_forwards houseSearch_correct (by decide) run forwards
  revert apart
  decide

end HiMaxGateway.Modbus
