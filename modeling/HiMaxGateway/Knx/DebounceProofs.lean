import HiMaxGateway.Knx.Debounce
import Mathlib.Data.List.Induction

/-! What the debouncer puts on the queue for a group, over whole runs. -/
namespace HiMaxGateway.Knx
open CText

section

variable {grp : Text} {table : KvTable}

@[simp] theorem kvItem_nil (grp : Text) : kvItem grp [] = none := rfl

theorem kvItem_cons (grp key : Text) (item : KvItem) (table : KvTable) :
    kvItem grp ((key, item) :: table) = if key = grp then some item else kvItem grp table := by
  by_cases here : key = grp <;> simp [kvItem, here]

theorem kvFind_eq (grp : Text) (table : KvTable) :
    kvFind grp table = (kvItem grp table).isSome := by
  induction table with
  | nil => rfl
  | cons entry table ih =>
    obtain ⟨key, item⟩ := entry
    rw [kvItem_cons, kvFind, List.any_cons]
    by_cases here : key = grp
    · simp [here]
    · have other : (key == grp) = false := by simpa using here
      simpa [here, other, kvFind] using ih

theorem kvItem_map (change : Text → KvItem → KvItem) (grp : Text) (table : KvTable) :
    kvItem grp (table.map fun entry => (entry.1, change entry.1 entry.2)) =
      (kvItem grp table).map (change grp) := by
  induction table with
  | nil => rfl
  | cons entry table ih =>
    obtain ⟨key, item⟩ := entry
    rw [List.map_cons, kvItem_cons, kvItem_cons, ih]
    by_cases here : key = grp
    · simp [here]
    · simp [here]

/-- `kv_update` and a second `kv_set` change one item in its place. -/
theorem map_at (grp : Text) (change : KvItem → KvItem) (table : KvTable) :
    (table.map fun (key, item) => if key == grp then (key, change item) else (key, item)) =
      table.map fun entry => (entry.1, if entry.1 = grp then change entry.2 else entry.2) := by
  apply List.map_congr_left
  rintro ⟨key, item⟩ -
  by_cases here : key = grp <;> simp [here]

theorem kvItem_kvUpdate (grp grp' : Text) (value : KnxData) (now : Nat) (table : KvTable) :
    kvItem grp (kvUpdate grp' value now table) = if grp' = grp then
      (kvItem grp table).map fun item =>
        { item with pValue := value, timestamp := now, bDone := false }
    else kvItem grp table := by
  rw [kvUpdate, map_at grp' fun item =>
    { item with pValue := value, timestamp := now, bDone := false }]
  rw [kvItem_map fun key item => if key = grp' then
    { item with pValue := value, timestamp := now, bDone := false } else item]
  by_cases own : grp' = grp
  · simp [own]
  · simp [own, Ne.symm own]

theorem kvItem_append (grp key : Text) (item : KvItem) (table : KvTable) :
    kvItem grp (table ++ [(key, item)]) =
      (kvItem grp table).or (if key = grp then some item else none) := by
  induction table with
  | nil => simp [kvItem_cons]
  | cons entry table ih =>
    obtain ⟨key', item'⟩ := entry
    rw [List.cons_append, kvItem_cons, kvItem_cons, ih]
    by_cases here : key' = grp <;> simp [here]

theorem kvItem_kvSet (grp grp' : Text) (expire now : Nat) (table : KvTable) :
    kvItem grp (kvSet grp' expire now table) = if grp' = grp then
      some ((kvItem grp table).elim { pValue := {}, timestamp := now, expire, bDone := false }
        fun item => { item with timestamp := now, expire })
    else kvItem grp table := by
  rw [kvSet, kvFind_eq]
  cases found : kvItem grp' table with
  | none =>
    simp only [Option.isSome_none, Bool.false_eq_true, if_false, kvItem_append]
    by_cases own : grp' = grp
    · subst own
      simp [found]
    · simp [own]
  | some item =>
    simp only [Option.isSome_some, if_true]
    rw [map_at grp' fun item => { item with timestamp := now, expire },
      kvItem_map fun key item => if key = grp' then { item with timestamp := now, expire }
        else item]
    by_cases own : grp' = grp
    · subst own
      simp [found]
    · simp [own, Ne.symm own]

theorem kvItem_debounce (grp : Text) (now : Nat) (accepts : Text → Bool) (table : KvTable) :
    kvItem grp (knxDevDebounce now accepts table).1 =
      (kvItem grp table).map fun item => (debounceItem now (accepts grp) grp item).1 :=
  kvItem_map (fun grp item => (debounceItem now (accepts grp) grp item).1) grp table

/-- The keys of a hash table are distinct. -/
def Keyed (table : KvTable) : Prop := (table.map Prod.fst).Nodup

theorem Keyed.map (keyed : Keyed table) (change : Text → KvItem → KvItem) :
    Keyed (table.map fun entry => (entry.1, change entry.1 entry.2)) := by
  simpa [Keyed, Function.comp_def] using keyed

theorem Keyed.kvUpdate (keyed : Keyed table) (grp : Text) (value : KnxData) (now : Nat) :
    Keyed (Knx.kvUpdate grp value now table) := by
  rw [Knx.kvUpdate, map_at grp fun item =>
    { item with pValue := value, timestamp := now, bDone := false }]
  exact keyed.map fun key item => if key = grp then
    { item with pValue := value, timestamp := now, bDone := false } else item

theorem Keyed.kvSet (keyed : Keyed table) (grp : Text) (expire now : Nat) :
    Keyed (Knx.kvSet grp expire now table) := by
  rw [Knx.kvSet]
  split
  · rw [map_at grp fun item => { item with timestamp := now, expire }]
    exact keyed.map fun key item => if key = grp then { item with timestamp := now, expire }
      else item
  · rename_i absent
    have fresh : grp ∉ table.map Prod.fst := by
      intro member
      obtain ⟨entry, listed, rfl⟩ := List.mem_map.mp member
      exact absent (List.any_eq_true.mpr ⟨entry, listed, by simp⟩)
    rw [Keyed, List.map_append, List.map_cons, List.map_nil, List.nodup_append]
    refine ⟨keyed, by simp, ?_⟩
    intro key member key' last same
    obtain rfl := List.mem_singleton.mp last
    exact fresh (same ▸ member)

theorem Keyed.run (keyed : Keyed table) (op : KvOp) : Keyed (op.run table).1 := by
  unfold KvOp.run
  cases op.call with
  | kvSet grp expire => exact keyed.kvSet grp expire _
  | kvUpdate grp value => exact keyed.kvUpdate grp value _
  | debounce accepts =>
    exact keyed.map fun grp item => (debounceItem (msOf op.now) (accepts grp) grp item).1

theorem debounceItem_grp {put : Put} (member : put ∈ (debounceItem now accepts grp item).2) :
    put.grp = grp := by
  unfold debounceItem at member
  split at member
  · split at member
    · obtain rfl := List.mem_singleton.mp member
      rfl
    · simp at member
  · simp at member

/-- A pass puts for a group what its own item gives. -/
theorem debounce_puts (keyed : Keyed table) (grp : Text) (now : Nat) (accepts : Text → Bool) :
    (knxDevDebounce now accepts table).2.filter (·.grp == grp) =
      (kvItem grp table).elim [] fun item => (debounceItem now (accepts grp) grp item).2 := by
  have whole : ∀ key item, (debounceItem now (accepts key) key item).2.filter (·.grp == grp) =
      if key = grp then (debounceItem now (accepts key) key item).2 else [] := by
    intro key item
    by_cases own : key = grp
    · rw [if_pos own, List.filter_eq_self]
      intro put member
      simp [debounceItem_grp member, own]
    · rw [if_neg own, List.filter_eq_nil_iff]
      intro put member
      simp [debounceItem_grp member, own]
  unfold knxDevDebounce
  induction table with
  | nil => rfl
  | cons entry table ih =>
    obtain ⟨key, item⟩ := entry
    have keyed' := List.nodup_cons.mp keyed
    simp only [List.flatMap_cons, List.filter_append, whole, ih keyed'.2, kvItem_cons]
    by_cases own : key = grp
    · have absent : kvItem grp table = none := by
        rw [← Option.not_isSome_iff_eq_none, ← kvFind_eq, kvFind, List.any_eq_true]
        rintro ⟨entry, member, same⟩
        apply keyed'.1
        exact List.mem_map.mpr ⟨entry, member, (beq_iff_eq.mp same).trans own.symm⟩
      simp [own, absent]
    · simp [own]

end

/-- What a call does to the item of its group. -/
def itemRun (grp : Text) (item : Option KvItem) (call : Nat × ItemCall) :
    Option KvItem × List Put :=
  match call.2 with
  | .set expire =>
      (some (item.elim { pValue := {}, timestamp := msOf call.1, expire, bDone := false }
        fun item => { item with timestamp := msOf call.1, expire }), [])
  | .update value =>
      (item.map fun item =>
        { item with pValue := value, timestamp := msOf call.1, bDone := false }, [])
  | .pass accepts =>
      (item.map fun item => (debounceItem (msOf call.1) accepts grp item).1,
        item.elim [] fun item => (debounceItem (msOf call.1) accepts grp item).2)

def replay (grp : Text) (item : Option KvItem) : List (Nat × ItemCall) → Option KvItem × List Put
  | [] => (item, [])
  | call :: rest =>
      let (item, puts) := itemRun grp item call
      let (item, more) := replay grp item rest
      (item, puts ++ more)

theorem run_own (keyed : Keyed table) (grp : Text) (op : KvOp) :
    (kvItem grp (op.run table).1, (op.run table).2.filter (·.grp == grp)) =
      (op.own grp).elim (kvItem grp table, []) (itemRun grp (kvItem grp table)) := by
  unfold KvOp.run KvOp.own
  cases op.call with
  | kvSet grp' expire =>
    by_cases own : grp' = grp <;> simp [own, kvItem_kvSet, itemRun]
  | kvUpdate grp' value =>
    by_cases own : grp' = grp <;> simp [own, kvItem_kvUpdate, itemRun]
  | debounce accepts => simp [kvItem_debounce, debounce_puts keyed, itemRun]

/-- The run of the whole table is, for each group, the run of its item over its own calls. -/
theorem runOps_own (keyed : Keyed table) (grp : Text) (ops : List KvOp) :
    (kvItem grp (runOps table ops).1, putsOf grp table ops) =
      replay grp (kvItem grp table) (ops.filterMap (·.own grp)) := by
  induction ops generalizing table with
  | nil => rfl
  | cons op rest ih =>
    have step := run_own keyed grp op
    have later := ih (keyed.run op)
    have first : putsOf grp table (op :: rest) =
        (op.run table).2.filter (·.grp == grp) ++ putsOf grp (op.run table).1 rest := by
      simp [putsOf, runOps]
    rw [List.filterMap_cons, first]
    cases seen : op.own grp with
    | none =>
      rw [seen] at step
      obtain ⟨same, quiet⟩ := Prod.mk.inj step
      rw [same] at later
      simpa [runOps, quiet] using later
    | some call =>
      rw [seen] at step
      have same : kvItem grp (op.run table).1 = (itemRun grp (kvItem grp table) call).1 :=
        congrArg Prod.fst step
      have puts : (op.run table).2.filter (·.grp == grp) =
          (itemRun grp (kvItem grp table) call).2 := congrArg Prod.snd step
      rw [same] at later
      simp only [runOps, replay, puts, ← later]

/-- After an update the item waits with the value, or a pass has put it once. -/
inductive Since (grp : Text) (value : KnxData) (item : KvItem) : List Put → Prop where
  | waits : item.pValue = value → item.bDone = false → Since grp value item []
  | done (accepted : Bool) : item.pValue = value → item.bDone = true →
      Since grp value item (if value.addressed then [⟨grp, value, accepted⟩] else [])

theorem Since.itemRun {item : KvItem} (since : Since grp value item puts) (call : Nat × ItemCall)
    (quiet : ∀ value, call.2 ≠ .update value) :
    ∃ item', (Knx.itemRun grp (some item) call).1 = some item' ∧
      Since grp value item' (puts ++ (Knx.itemRun grp (some item) call).2) := by
  obtain ⟨now, call⟩ := call
  cases call with
  | update value' => exact absurd rfl (quiet value')
  | set expire =>
    refine ⟨{ item with timestamp := msOf now, expire }, rfl, ?_⟩
    cases since with
    | waits same pending => exact .waits same pending
    | done accepted same done =>
      rw [show (Knx.itemRun grp (some item) (now, .set expire)).2 = [] from rfl, List.append_nil]
      exact .done accepted same done
  | pass accepts =>
    refine ⟨_, rfl, ?_⟩
    cases since with
    | waits same pending =>
      by_cases due : item.due (msOf now) = true
      · have finished : Since grp value { item with bDone := true } _ := .done accepts same rfl
        simpa [Knx.itemRun, debounceItem, due, same] using finished
      · simpa [Knx.itemRun, debounceItem, due] using Since.waits same pending
    | done accepted same done =>
      simpa [Knx.itemRun, debounceItem, KvItem.due, done] using Since.done accepted same done

theorem Since.replay {item : KvItem} (since : Since grp value item puts)
    (calls : List (Nat × ItemCall)) (quiet : ∀ call ∈ calls, ∀ value, call.2 ≠ .update value) :
    ∃ item', (Knx.replay grp (some item) calls).1 = some item' ∧
      Since grp value item' (puts ++ (Knx.replay grp (some item) calls).2) := by
  induction calls generalizing item puts with
  | nil => exact ⟨item, rfl, by simpa [Knx.replay] using since⟩
  | cons call rest ih =>
    obtain ⟨item', ran, since'⟩ := since.itemRun call (quiet call List.mem_cons_self)
    obtain ⟨item'', replayed, since''⟩ :=
      ih since' fun call member => quiet call (List.mem_cons_of_mem _ member)
    refine ⟨item'', ?_, ?_⟩
    · simpa [Knx.replay, ran] using replayed
    · simpa [Knx.replay, ran] using since''

theorem runOps_append (table : KvTable) (ops rest : List KvOp) :
    runOps table (ops ++ rest) =
      ((runOps (runOps table ops).1 rest).1,
        (runOps table ops).2 ++ (runOps (runOps table ops).1 rest).2) := by
  induction ops generalizing table with
  | nil => rfl
  | cons op ops ih => simp [runOps, ih]

theorem tableAfter_append (ops rest : List KvOp) :
    tableAfter (ops ++ rest) = (runOps (tableAfter ops) rest).1 := by
  rw [tableAfter, runOps_append]
  rfl

theorem keyed_tableAfter (ops : List KvOp) : Keyed (tableAfter ops) := by
  have keeps : ∀ (ops : List KvOp) (table : KvTable), Keyed table → Keyed (runOps table ops).1 := by
    intro ops
    induction ops with
    | nil => exact fun _ keyed => keyed
    | cons op ops ih => exact fun table keyed => ih _ (keyed.run op)
  exact keeps ops [] (by simp [Keyed])

theorem tableAfter_snoc (grp : Text) (ops : List KvOp) (op : KvOp) :
    (kvItem grp (tableAfter (ops ++ [op])), putsOf grp (tableAfter ops) [op]) =
      (op.own grp).elim (kvItem grp (tableAfter ops), [])
        (itemRun grp (kvItem grp (tableAfter ops))) := by
  rw [tableAfter_append, ← run_own (keyed_tableAfter ops) grp op]
  simp [runOps, putsOf]

theorem LastUpdate.updated {ops earlier later : List KvOp}
    (last : LastUpdate grp ops earlier later update value) :
    ∃ item, kvItem grp (tableAfter (earlier ++ [update])) = some item ∧ item.pValue = value ∧
      item.bDone = false := by
  obtain ⟨before, registered⟩ := Option.isSome_iff_exists.mp last.registered
  have step := congrArg Prod.fst (tableAfter_snoc grp earlier update)
  simp only [KvOp.own, last.call, if_true, itemRun, registered, Option.elim,
    Option.map_some] at step
  exact ⟨_, step, rfl, rfl⟩

theorem LastUpdate.since {ops earlier later : List KvOp}
    (last : LastUpdate grp ops earlier later update value) :
    ∃ item, kvItem grp (tableAfter ops) = some item ∧
      Since grp value item (putsOf grp (tableAfter (earlier ++ [update])) later) := by
  obtain ⟨item, updated, same, pending⟩ := last.updated
  have replayed := runOps_own (keyed_tableAfter (earlier ++ [update])) grp later
  rw [← tableAfter_append, List.append_assoc, List.singleton_append, ← last.split, updated]
    at replayed
  have quiet : ∀ call ∈ later.filterMap (·.own grp), ∀ value, call.2 ≠ .update value := by
    intro call member value same
    obtain ⟨op, listed, own⟩ := List.mem_filterMap.mp member
    have silent := last.quiet op listed
    unfold KvOp.own at own
    cases called : op.call with
    | kvSet grp' expire => grind
    | kvUpdate grp' value' => grind
    | debounce accepts => grind
  have start : Since grp value item [] := .waits same pending
  obtain ⟨item', found, since⟩ := start.replay _ quiet
  rw [← replayed] at found since
  exact ⟨item', found, by simpa using since⟩

theorem LastUpdate.snoc {ops earlier later : List KvOp}
    (last : LastUpdate grp ops earlier later update value) (op : KvOp)
    (silent : ∀ value, op.call ≠ .kvUpdate grp value) :
    LastUpdate grp (ops ++ [op]) earlier (later ++ [op]) update value := by
  refine ⟨by simp [last.split], last.call, last.registered, ?_⟩
  intro op' member
  rcases List.mem_append.mp member with before | new
  · exact last.quiet op' before
  · obtain rfl := List.mem_singleton.mp new
    exact silent

structure Traced (grp : Text) (ops : List KvOp) (item : KvItem) : Prop where
  expiry : lastExpiry grp ops = some item.expire
  source : item.pValue.addressed = true → ∃ earlier later update,
    LastUpdate grp ops earlier later update item.pValue ∧ msOf update.now ≤ item.timestamp

theorem lastExpiry_snoc (grp : Text) (ops : List KvOp) (op : KvOp) :
    lastExpiry grp (ops ++ [op]) = (op.expiry? grp).or (lastExpiry grp ops) := by
  cases registers : op.expiry? grp <;> simp [lastExpiry, registers]

theorem Traced.snoc {item item' : KvItem} (traced : Traced grp ops item)
    (silent : ∀ value, op.call ≠ .kvUpdate grp value)
    (expiry : (op.expiry? grp).or (some item.expire) = some item'.expire)
    (same : item'.pValue = item.pValue) (later : ∀ update ∈ ops, msOf update.now ≤ item.timestamp →
      msOf update.now ≤ item'.timestamp) : Traced grp (ops ++ [op]) item' := by
  constructor
  · rw [lastExpiry_snoc, traced.expiry, expiry]
  · rw [same]
    intro addressed
    obtain ⟨earlier, after, update, last, before⟩ := traced.source addressed
    exact ⟨earlier, after ++ [op], update, last.snoc op silent,
      later update (by simp [last.split]) before⟩

theorem debounceItem_keeps (now : Nat) (accepts : Bool) (grp : Text) (item : KvItem) :
    (debounceItem now accepts grp item).1.pValue = item.pValue ∧
      (debounceItem now accepts grp item).1.timestamp = item.timestamp ∧
      (debounceItem now accepts grp item).1.expire = item.expire := by
  unfold debounceItem
  split <;> simp

theorem traced_tableAfter (grp : Text) (ops : List KvOp)
    (monotone : ops.Pairwise (·.now ≤ ·.now)) :
    ∀ item, kvItem grp (tableAfter ops) = some item → Traced grp ops item := by
  induction ops using List.reverseRecOn with
  | nil => simp [tableAfter, runOps]
  | append_singleton ops op ih =>
    obtain ⟨monotone, -, last⟩ := List.pairwise_append.mp monotone
    have before : ∀ update ∈ ops, msOf update.now ≤ msOf op.now := fun update member =>
      Nat.div_le_div_right (last update member op (by simp))
    intro item found
    have step := congrArg Prod.fst (tableAfter_snoc grp ops op)
    simp only [found, KvOp.own] at step
    cases called : op.call with
    | kvSet grp' expire =>
      by_cases own : grp' = grp
      · cases old : kvItem grp (tableAfter ops) with
        | none =>
          simp only [called, own, if_true, itemRun, old, Option.elim, Option.some.injEq] at step
          subst item
          refine ⟨?_, by simp [KnxData.addressed, addrSize]⟩
          simp [lastExpiry_snoc, KvOp.expiry?, called, own]
        | some item' =>
          simp only [called, own, if_true, itemRun, old, Option.elim, Option.some.injEq] at step
          subst item
          refine (ih monotone item' old).snoc (by simp [called]) ?_ rfl ?_
          · simp [KvOp.expiry?, called, own]
          · exact fun update member _ => before update member
      · simp only [called, own, if_false, Option.elim] at step
        refine (ih monotone item step.symm).snoc (by simp [called]) ?_ rfl fun _ _ => id
        simp [KvOp.expiry?, called, own]
    | kvUpdate grp' value =>
      by_cases own : grp' = grp
      · cases old : kvItem grp (tableAfter ops) with
        | none => simp [called, own, itemRun, old] at step
        | some item' =>
          simp only [called, own, if_true, itemRun, old, Option.elim, Option.map_some,
            Option.some.injEq] at step
          subst item
          constructor
          · simp [lastExpiry_snoc, KvOp.expiry?, called, (ih monotone item' old).expiry]
          · intro _
            exact ⟨ops, [], op, ⟨rfl, by simp [called, own], by simp [old], by simp⟩, Nat.le_refl _⟩
      · simp only [called, own, if_false, Option.elim] at step
        refine (ih monotone item step.symm).snoc (by simp [called, own]) ?_ rfl fun _ _ => id
        simp [KvOp.expiry?, called]
    | debounce accepts =>
      cases old : kvItem grp (tableAfter ops) with
      | none => simp [called, itemRun, old] at step
      | some item' =>
        simp only [called, itemRun, old, Option.elim, Option.map_some, Option.some.injEq] at step
        subst item
        obtain ⟨value, timestamp, expire⟩ :=
          debounceItem_keeps (msOf op.now) (accepts grp) grp item'
        refine (ih monotone item' old).snoc (by simp [called]) ?_ value ?_
        · simp [KvOp.expiry?, called, expire]
        · rw [timestamp]
          exact fun _ _ => id

/-- All that a call can put for a group. -/
theorem putsOf_call (grp : Text) (before : List KvOp) (op : KvOp) :
    putsOf grp (tableAfter before) [op] = [] ∨
    ∃ accepts item, op.call = .debounce accepts ∧ kvItem grp (tableAfter before) = some item ∧
      item.due (msOf op.now) = true ∧ item.pValue.addressed = true ∧
      putsOf grp (tableAfter before) [op] = [⟨grp, item.pValue, accepts grp⟩] := by
  have puts := congrArg Prod.snd (tableAfter_snoc grp before op)
  simp only [KvOp.own] at puts
  cases called : op.call with
  | kvSet grp' expire =>
    by_cases own : grp' = grp <;> exact .inl (by simpa [called, own, itemRun] using puts)
  | kvUpdate grp' value =>
    by_cases own : grp' = grp <;> exact .inl (by simpa [called, own, itemRun] using puts)
  | debounce accepts =>
    cases found : kvItem grp (tableAfter before) with
    | none => exact .inl (by simpa [called, itemRun, found] using puts)
    | some item =>
      simp only [called, itemRun, found, Option.elim, debounceItem] at puts
      by_cases due : item.due (msOf op.now) = true
      · by_cases addressed : item.pValue.addressed = true
        · exact .inr ⟨accepts, item, rfl, rfl, due, addressed, by simpa [due, addressed] using puts⟩
        · exact .inl (by simpa [due, addressed] using puts)
      · exact .inl (by simpa [due] using puts)

/-- What is due has waited for its expiry, also in nanoseconds. -/
theorem due_after {item : KvItem} (due : item.due (msOf now) = true)
    (before : msOf start ≤ item.timestamp) : start + item.expire * 1000000 < now := by
  simp only [KvItem.due, Bool.and_eq_true, decide_eq_true_eq] at due
  unfold msOf at due before
  omega

/-- In every run of registrations, updates and passes, each telegram that is put for a group
has the value of its most recent update, at a time later than that update and the expiry of the
group together, and is the first one since that update; a pass puts at most one. Calls for
other groups make no difference. -/
theorem debounce_exact (grp : Text) (ops : List KvOp) (monotone : ops.Pairwise (·.now ≤ ·.now)) :
    (∀ before op after, ops = before ++ op :: after →
      (putsOf grp (tableAfter before) [op]).length ≤ 1 ∧
      ∀ put ∈ putsOf grp (tableAfter before) [op],
        (∃ accepts, op.call = .debounce accepts ∧ put.stored = accepts grp) ∧
        ∃ earlier update later expire, LastUpdate grp before earlier later update put.value ∧
          putsOf grp (tableAfter (earlier ++ [update])) later = [] ∧
          lastExpiry grp before = some expire ∧ update.now + expire * 1000000 < op.now) ∧
    ∀ others, others.filterMap (·.own grp) = ops.filterMap (·.own grp) →
      putsOf grp [] others = putsOf grp [] ops := by
  constructor
  · intro before op after split
    rcases putsOf_call grp before op with none | ⟨accepts, item, called, found, due, addressed, one⟩
    · simp [none]
    · rw [one]
      refine ⟨by simp, ?_⟩
      intro put member
      obtain rfl := List.mem_singleton.mp member
      refine ⟨⟨accepts, called, rfl⟩, ?_⟩
      subst ops
      have traced := traced_tableAfter grp before (List.pairwise_append.mp monotone).1 item found
      obtain ⟨earlier, later, update, last, stamped⟩ := traced.source addressed
      refine ⟨earlier, update, later, item.expire, last, ?_, traced.expiry, due_after due stamped⟩
      obtain ⟨item', found', since⟩ := last.since
      cases Option.some.inj (found.symm.trans found')
      generalize putsOf grp (tableAfter (earlier ++ [update])) later = puts at since
      cases since with
      | waits => rfl
      | done accepted same done => simp [KvItem.due, done] at due
  · intro others same
    have own : ∀ ops, putsOf grp [] ops = (replay grp none (ops.filterMap (·.own grp))).2 :=
      fun ops => congrArg Prod.snd (runOps_own (keyed_tableAfter []) grp ops)
    rw [own others, own ops, same]

def sampleGrp : Text := "1/0/1".toList

def sampleValue (value : Nat) : KnxData :=
  { groupAddr := sampleGrp ++ List.replicate 5 '\x00', value }

/-- The group is registered with 500 ms and switched on and off again within 99 ms. -/
def switchedTwice : List KvOp :=
  [⟨0, .kvSet sampleGrp 500⟩, ⟨1000000, .kvUpdate sampleGrp (sampleValue 1)⟩,
    ⟨100000000, .kvUpdate sampleGrp (sampleValue 0)⟩]

/-- A pass that would find room in the queue, or not. -/
def passAt (now : Nat) (accepts : Bool) : KvOp := ⟨now, .debounce fun _ => accepts⟩

/-- Only the last value comes through, 100 ms late. -/
theorem debounce_switchedTwice :
    putsOf sampleGrp (tableAfter switchedTwice) [passAt 700000000 true] =
      [⟨sampleGrp, sampleValue 0, true⟩] ∧
    ∃ earlier update later expire,
      LastUpdate sampleGrp switchedTwice earlier later update (sampleValue 0) ∧
      putsOf sampleGrp (tableAfter (earlier ++ [update])) later = [] ∧
      lastExpiry sampleGrp switchedTwice = some expire ∧
      update.now + expire * 1000000 < 700000000 := by
  have put : putsOf sampleGrp (tableAfter switchedTwice) [passAt 700000000 true] =
      [⟨sampleGrp, sampleValue 0, true⟩] := by decide
  have exactly := debounce_exact sampleGrp (switchedTwice ++ [passAt 700000000 true]) (by decide)
  exact ⟨put, ((exactly.1 _ _ [] rfl).2 ⟨sampleGrp, sampleValue 0, true⟩ (by simp [put])).2⟩

/-- The last value waits in the table, or the queue has taken it. -/
def Kept (grp : Text) (ops : List KvOp) : Prop :=
  ∀ earlier later update value, LastUpdate grp ops earlier later update value →
    (∃ item, kvItem grp (tableAfter ops) = some item ∧ item.pValue = value ∧
      item.bDone = false) ∨
    ⟨grp, value, true⟩ ∈ putsOf grp (tableAfter (earlier ++ [update])) later

/-- A pass at which the last value is due finds a group address in it and room in the queue. -/
def Admitted (grp : Text) (before : List KvOp) (op : KvOp) : Prop :=
  ∀ accepts item earlier later update value, op.call = .debounce accepts →
    LastUpdate grp before earlier later update value →
    kvItem grp (tableAfter before) = some item → item.due (msOf op.now) = true →
    value.addressed = true ∧ accepts grp = true

theorem putsOf_append (grp : Text) (table : KvTable) (ops rest : List KvOp) :
    putsOf grp table (ops ++ rest) = putsOf grp table ops ++ putsOf grp
      (runOps table ops).1 rest := by
  simp [putsOf, runOps_append]

theorem LastUpdate.putsOf_snoc {ops earlier later : List KvOp}
    (last : LastUpdate grp ops earlier later update value) (op : KvOp) :
    putsOf grp (tableAfter (earlier ++ [update])) (later ++ [op]) =
      putsOf grp (tableAfter (earlier ++ [update])) later ++ putsOf grp (tableAfter ops) [op] := by
  rw [putsOf_append, ← tableAfter_append, List.append_assoc, List.singleton_append, ← last.split]

/-- Only a pass at which the item is due ends its waiting. -/
theorem done_by_pass {item item' : KvItem} (found : kvItem grp (tableAfter ops) = some item)
    (pending : item.bDone = false) (after : kvItem grp (tableAfter (ops ++ [op])) = some item')
    (done : item'.bDone = true) :
    ∃ accepts, op.call = .debounce accepts ∧ item.due (msOf op.now) = true := by
  have step := congrArg Prod.fst (tableAfter_snoc grp ops op)
  simp only [after, KvOp.own] at step
  cases called : op.call with
  | kvSet grp' expire =>
    by_cases own : grp' = grp <;>
    · simp only [called, own, if_true, if_false, itemRun, found, Option.elim,
        Option.some.injEq] at step
      subst item'
      simp [pending] at done
  | kvUpdate grp' value =>
    by_cases own : grp' = grp <;>
    · simp only [called, own, if_true, if_false, itemRun, found, Option.elim, Option.map_some,
        Option.some.injEq] at step
      subst item'
      simp [pending] at done
  | debounce accepts =>
    refine ⟨accepts, rfl, ?_⟩
    simp only [called, itemRun, found, Option.elim, Option.map_some, Option.some.injEq,
      debounceItem] at step
    by_contra early
    rw [if_neg early] at step
    subst item'
    simp [pending] at done

/-- A pass at which the item is due ends its waiting, whatever the queue answers. -/
theorem pass_due {item : KvItem} (called : op.call = .debounce accepts)
    (found : kvItem grp (tableAfter ops) = some item) (due : item.due (msOf op.now) = true) :
    kvItem grp (tableAfter (ops ++ [op])) = some { item with bDone := true } ∧
      putsOf grp (tableAfter ops) [op] =
        if item.pValue.addressed then [⟨grp, item.pValue, accepts grp⟩] else [] := by
  have step := tableAfter_snoc grp ops op
  simpa [KvOp.own, called, itemRun, found, debounceItem, due] using step

theorem Since.pending {item : KvItem} (since : Since grp value item puts)
    (pending : item.bDone = false) : item.pValue = value ∧ puts = [] := by
  cases since with
  | waits same _ => exact ⟨same, rfl⟩
  | done _ _ done => rw [pending] at done; contradiction

theorem KvItem.due_pending {item : KvItem} (due : item.due now = true) : item.bDone = false := by
  simp only [KvItem.due, Bool.and_eq_true, Bool.not_eq_true'] at due
  exact due.1

theorem Kept.admitted {op : KvOp} (kept : Kept grp (ops ++ [op])) : Admitted grp ops op := by
  intro accepts item earlier later update value called last found due
  obtain ⟨item', found', since⟩ := last.since
  cases Option.some.inj (found.symm.trans found')
  obtain ⟨rfl, quiet⟩ := since.pending (KvItem.due_pending due)
  obtain ⟨after, puts⟩ := pass_due called found due
  rcases kept _ _ _ _ (last.snoc op (by simp [called])) with ⟨item', found', -, pending⟩ | stored
  · cases Option.some.inj (after.symm.trans found')
    contradiction
  · rw [last.putsOf_snoc, quiet, puts] at stored
    cases addressed : item.pValue.addressed with
    | false => simp [addressed] at stored
    | true =>
      simp only [addressed, if_true, List.nil_append, List.mem_singleton, Put.mk.injEq] at stored
      exact ⟨rfl, stored.2.2.symm⟩

theorem LastUpdate.snoc_cases {ops earlier later : List KvOp} {op : KvOp}
    (last : LastUpdate grp (ops ++ [op]) earlier later update value) :
    later = [] ∨ ∃ before, later = before ++ [op] ∧
      LastUpdate grp ops earlier before update value := by
  rcases List.eq_nil_or_concat later with none | ⟨before, op', rfl⟩
  · exact .inl none
  · rw [List.concat_eq_append] at last ⊢
    have split := last.split
    rw [← List.cons_append, ← List.append_assoc] at split
    obtain ⟨same, rfl⟩ := List.append_singleton_inj.mp split
    refine .inr ⟨before, rfl, same, last.call, last.registered, ?_⟩
    exact fun op' member => last.quiet op' (List.mem_append_left _ member)

theorem Kept.snoc {op : KvOp} (kept : Kept grp ops) (accepted : Admitted grp ops op) :
    Kept grp (ops ++ [op]) := by
  intro earlier later update value last
  obtain ⟨item', after, since⟩ := last.since
  rcases last.snoc_cases with rfl | ⟨before, rfl, last'⟩
  · -- The call is the update itself.
    rw [last.split]
    exact .inl last.updated
  · rw [last'.putsOf_snoc]
    rcases kept _ _ _ _ last' with ⟨item, found, rfl, pending⟩ | stored
    · cases done : item'.bDone with
      | false => exact .inl ⟨item', after, (since.pending done).1, done⟩
      | true =>
        obtain ⟨accepts, called, due⟩ := done_by_pass found pending after done
        obtain ⟨addressed, room⟩ := accepted accepts item _ _ _ _ called last' found due
        rw [(pass_due called found due).2]
        exact .inr (by simp [addressed, room])
    · exact .inr (List.mem_append_left _ stored)

/-- The last value of a group is kept at every moment of a run exactly when each pass at which
it is due finds room in the queue for it. -/
theorem last_value_kept_iff (grp : Text) (ops : List KvOp) :
    (∀ before after, ops = before ++ after → Kept grp before) ↔
      ∀ before op after, ops = before ++ op :: after → Admitted grp before op := by
  constructor
  · intro kept before op after split
    exact (kept (before ++ [op]) after (by simp [split])).admitted
  · intro accepted before
    induction before using List.reverseRecOn with
    | nil =>
      intro after _ earlier later update value last
      have split := last.split
      simp at split
    | append_singleton before op ih =>
      intro after split
      have split : ops = before ++ op :: after := by simp [split]
      exact (ih (op :: after) split).snoc (accepted before op after split)

/-- The queue is full when the last value is due: it is not kept, and a later pass that would
find room puts nothing. -/
theorem full_queue_loses_value :
    ¬ (∀ before after, switchedTwice ++ [passAt 700000000 false] = before ++ after →
      Kept sampleGrp before) ∧
    putsOf sampleGrp (tableAfter (switchedTwice ++ [passAt 700000000 false]))
      [passAt 800000000 true] = [] := by
  refine ⟨?_, by decide⟩
  intro kept
  have last : LastUpdate sampleGrp (switchedTwice ++ [passAt 700000000 false])
      (switchedTwice.take 2) [passAt 700000000 false]
      ⟨100000000, .kvUpdate sampleGrp (sampleValue 0)⟩ (sampleValue 0) :=
    ⟨rfl, rfl, by decide, by simp [passAt]⟩
  rcases kept _ [] rfl _ _ _ _ last with ⟨item, found, -, pending⟩ | stored
  · have done : (kvItem sampleGrp (tableAfter (switchedTwice ++ [passAt 700000000 false]))).map
        KvItem.bDone = some true := by decide
    simp [found, pending] at done
  · revert stored
    decide

end HiMaxGateway.Knx
