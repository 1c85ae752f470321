import HiMaxGateway.Knx.Pipeline

/-! The telegrams of one group on their way: in which order they are handled. -/
namespace HiMaxGateway.Knx
open CText CRun Run
open scoped List

def KnxData.isOf (grp : Text) (data : KnxData) : Bool := data.group = some grp

/-- Those of a list that carry one group. -/
def ofGroup (grp : Text) (list : List KnxData) : List KnxData := list.filter (·.isOf grp)

/-- The telegram of the group that rests in the table. -/
def waiting (grp : Text) (table : KvTable) : Option KnxData :=
  (kvItem grp table).bind KvItem.pending

/-- The telegrams of the test server. -/
def faked (trace : List PipeEvent) : List KnxData :=
  trace.flatMap fun
    | .faked data _ => [data]
    | _ => []

variable {m m' : Monitor} {ev : PipeEvent} {trace : List PipeEvent} {table before after : KvTable}
  {grp key : Text} {data value : KnxData} {now : Nat} {item : KvItem}

theorem faked_append (trace more : List PipeEvent) :
    faked (trace ++ more) = faked trace ++ faked more :=
  List.flatMap_append

theorem ofGroup_append (grp : Text) (list more : List KnxData) :
    ofGroup grp (list ++ more) = ofGroup grp list ++ ofGroup grp more :=
  List.filter_append list more

theorem ofGroup_own (own : data.group = some grp) : ofGroup grp [data] = [data] :=
  List.filter_cons_of_pos (decide_eq_true own)

theorem ofGroup_other (other : data.group ≠ some grp) : ofGroup grp [data] = [] :=
  List.filter_cons_of_neg (Bool.not_eq_true _ ▸ decide_eq_false other)

/-- Every item was registered, and waits with a telegram of its own group. -/
structure Filed (trace : List PipeEvent) (table : KvTable) : Prop where
  keyed : Keyed table
  known : ∀ key, kvFind key table = true → key ∈ registered trace
  own : ∀ key value, waiting key table = some value → value.group = some key

theorem kvItem_split (keyed : Keyed (before ++ (key, item) :: after)) (grp : Text) :
    kvItem grp (before ++ (key, item) :: after) =
      if key = grp then some item else kvItem grp (before ++ after) := by
  induction before with
  | nil => exact kvItem_cons grp key item after
  | cons entry before ih =>
    obtain ⟨other, first⟩ := entry
    obtain ⟨fresh, keyed⟩ := List.nodup_cons.mp keyed
    have distinct : other ≠ key := by
      rintro rfl
      exact fresh
        (List.mem_map.mpr ⟨(other, item), List.mem_append_right _ List.mem_cons_self, rfl⟩)
    rw [List.cons_append, List.cons_append, kvItem_cons, kvItem_cons, ih keyed]
    by_cases here : other = grp
    · have away : key ≠ grp := fun same => distinct (here.trans same.symm)
      rw [if_pos here, if_pos here, if_neg away]
    · rw [if_neg here, if_neg here]

theorem waiting_kvSet (grp key : Text) (expire now : Nat) (table : KvTable) :
    waiting grp (kvSet key expire now table) = waiting grp table := by
  rw [waiting, kvItem_kvSet, waiting]
  split
  · cases kvItem grp table <;> rfl
  · rfl

theorem waiting_kvUpdate (grp key : Text) (value : KnxData) (now : Nat) (table : KvTable) :
    waiting grp (kvUpdate key value now table) =
      if key = grp ∧ kvFind grp table then (if value.addressed then some value else none)
        else waiting grp table := by
  rw [waiting, kvItem_kvUpdate, kvFind_eq, waiting]
  by_cases own : key = grp
  · cases found : kvItem grp table with
    | none => simp [own]
    | some item => simp [own, KvItem.pending]
  · rw [if_neg own, if_neg fun both => own both.1]

/-- A pass ends the waiting of one group. -/
theorem waiting_done {done : KvItem} (keyed : Keyed (before ++ (key, item) :: after))
    (ended : done.pending = none) :
    waiting grp (before ++ (key, done) :: after) =
      if key = grp then none else waiting grp (before ++ (key, item) :: after) := by
  rw [waiting, waiting, kvItem_split keyed, kvItem_split keyed.replace]
  by_cases own : key = grp
  · rw [if_pos own, if_pos own]
    exact ended
  · rw [if_neg own, if_neg own, if_neg own]

theorem kvFind_kvUpdate (grp key : Text) (value : KnxData) (now : Nat) (table : KvTable) :
    kvFind grp (kvUpdate key value now table) = kvFind grp table := by
  rw [kvFind_eq, kvFind_eq, kvItem_kvUpdate]
  split
  · exact Option.isSome_map
  · rfl

theorem kvFind_kvSet (grp key : Text) (expire now : Nat) (table : KvTable) :
    kvFind grp (kvSet key expire now table) = true → key = grp ∨ kvFind grp table = true := by
  rw [kvFind_eq, kvFind_eq, kvItem_kvSet]
  split
  · rename_i own
    exact fun _ => .inl own
  · exact .inr

theorem kvFind_replace {done : KvItem} (keyed : Keyed (before ++ (key, item) :: after))
    (grp : Text) :
    kvFind grp (before ++ (key, done) :: after) = kvFind grp (before ++ (key, item) :: after) := by
  rw [kvFind_eq, kvFind_eq, kvItem_split keyed, kvItem_split keyed.replace]
  split <;> rfl

theorem Effect.filed (effect : Effect m ev m') (filed : Filed trace m.table) :
    Filed (trace ++ [ev]) m'.table := by
  have earlier {key : Text} (known : key ∈ registered trace) :
      key ∈ registered (trace ++ [ev]) := by
    rw [registered_append]
    exact List.mem_append_left _ known
  have same : Filed (trace ++ [ev]) m.table :=
    ⟨filed.keyed, fun key found => earlier (filed.known key found), filed.own⟩
  cases effect with
  | nothing => exact same
  | files data key now group found =>
    refine ⟨filed.keyed.kvUpdate key data now, fun key' found => ?_, fun key' value => ?_⟩
    · rw [kvFind_kvUpdate] at found
      exact same.known key' found
    · rw [waiting_kvUpdate]
      split
      · rename_i both
        intro waits
        split at waits
        · cases waits
          rw [group, both.1]
        · cases waits
      · exact filed.own key' value
  | puts data absent => exact same
  | fakes data => exact same
  | sets grp expire now =>
    refine ⟨filed.keyed.kvSet _ _ _, fun key found => ?_, fun key value => ?_⟩
    · rcases kvFind_kvSet key grp expire now m.table found with rfl | found
      · rw [registered_append]
        exact List.mem_append_right _ (List.mem_singleton_self _)
      · exact same.known key found
    · rw [waiting_kvSet]
      exact filed.own key value
  | ends before after key item done split ended =>
    rw [puts_table]
    obtain ⟨keyed, known, own⟩ := split ▸ same
    refine ⟨keyed.replace, fun key found => ?_, fun key value => ?_⟩
    · rw [kvFind_replace keyed] at found
      exact known key found
    · rw [waiting_done keyed ended]
      split
      · exact fun none_ => nomatch none_
      · exact own key value
  | handles data queue front => exact same

/-- The item that a pass comes to waits with a telegram of its key. -/
theorem Filed.item_group (filed : Filed trace m.table)
    (split : m.table = before ++ (key, item) :: after) (waits : item.pending = some value) :
    value.group = some key ∧ key ∈ registered trace := by
  have found : kvItem key m.table = some item := by
    rw [split, kvItem_split (split ▸ filed.keyed), if_pos rfl]
  refine ⟨filed.own key value ?_, filed.known key ?_⟩
  · rw [waiting, found]
    exact waits
  · rw [kvFind_eq, found]
    rfl

theorem ofGroup_put (grp : Text) (m : Monitor) (data : KnxData) :
    ofGroup grp (m.put data).queue = ofGroup grp m.queue ++ ofGroup grp
      ((queueFate m.queue).taken data) := by
  rw [put_queue, ofGroup_append]

theorem ofGroup_put_other (m : Monitor) (other : data.group ≠ some grp) :
    ofGroup grp (m.put data).queue = ofGroup grp m.queue := by
  rw [ofGroup_put]
  have none_ : ofGroup grp ((queueFate m.queue).taken data) = [] := by
    cases queueFate m.queue with
    | queued => exact ofGroup_other other
    | filed => rfl
    | refused => rfl
  rw [none_, List.append_nil]

theorem filed_run (reached : Reaches PipeStep ⟨[], []⟩ trace m) : Filed trace m.table := by
  have empty : Filed [] [] :=
    ⟨List.nodup_nil, fun key found => (Bool.false_ne_true found).elim,
      fun key value waits => nomatch waits⟩
  exact trace_invariant (fun trace m => Filed trace m.table) empty
    (fun _ _ _ _ filed stepped => stepped.effect.filed filed) reached

theorem Effect.unregistered (effect : Effect m ev m') (filed : Filed trace m.table)
    (free : grp ∉ registered trace) :
    ofGroup grp (handled [ev] ++ m'.queue) = ofGroup grp m.queue ++ ofGroup grp
      (enqueued [ev]) := by
  cases effect with
  | nothing => exact (List.append_nil _).symm
  | files data key now group found => exact (List.append_nil _).symm
  | puts data absent =>
    rw [enqueued, List.flatMap_singleton]
    exact ofGroup_put grp m data
  | fakes data =>
    rw [enqueued, List.flatMap_singleton]
    exact ofGroup_put grp m data
  | sets grp expire now => exact (List.append_nil _).symm
  | ends before after key item done split ended =>
    refine Eq.trans ?_ (List.append_nil _).symm
    cases waits : item.pending with
    | none => rfl
    | some value =>
      obtain ⟨group, known⟩ := filed.item_group split waits
      refine ofGroup_put_other _ fun same => free ?_
      obtain rfl := Option.some.inj (group.symm.trans same)
      exact known
  | handles data queue front =>
    rw [front]
    exact (List.append_nil _).symm

/-- Of a group that was never registered for the debouncer, the report functions handle exactly the
telegrams that the queue took, in the order in which it took them. -/
theorem unregistered_in_order (reached : Reaches PipeStep ⟨[], []⟩ trace m)
    (free : grp ∉ registered trace) :
    ofGroup grp (handled trace ++ m.queue) = ofGroup grp (enqueued trace) := by
  induction reached with
  | start => rfl
  | @step trace m ev m' reached stepped ih =>
    rw [registered_append, List.mem_append, not_or] at free
    have one := stepped.effect.unregistered (filed_run reached) free.1
    calc ofGroup grp (handled (trace ++ [ev]) ++ m'.queue)
        = ofGroup grp (handled trace) ++ ofGroup grp (handled [ev] ++ m'.queue) := by
          rw [handled_append, List.append_assoc, ofGroup_append]
      _ = ofGroup grp (handled trace ++ m.queue) ++ ofGroup grp (enqueued [ev]) := by
          rw [one, ← List.append_assoc, ← ofGroup_append]
      _ = ofGroup grp (enqueued (trace ++ [ev])) := by
          rw [ih free.1, enqueued_append, ofGroup_append]

theorem unregistered_in_order_overtaking :
    ofGroup "2/0/1".toList (handled overtaking ++ []) = ofGroup "2/0/1".toList
      (enqueued overtaking) :=
  unregistered_in_order overtaking_run (by decide)

theorem ofGroup_put_sublist (grp : Text) (m : Monitor) (data : KnxData) :
    ofGroup grp (m.put data).queue <+ ofGroup grp m.queue ++ ofGroup grp [data] := by
  rw [ofGroup_put]
  refine List.Sublist.append_left ?_ _
  cases queueFate m.queue with
  | queued => exact List.Sublist.refl _
  | filed => exact List.nil_sublist _
  | refused => exact List.nil_sublist _

theorem Effect.order (effect : Effect m ev m') (filed : Filed trace m.table)
    (real : ofGroup grp (faked [ev]) = []) :
    ofGroup grp (handled [ev] ++ m'.queue) ++ (waiting grp m'.table).toList <+
      ofGroup grp m.queue ++ (waiting grp m.table).toList ++ ofGroup grp (received [ev]) := by
  have quiet {list : List KnxData}
      (part : list <+ ofGroup grp m.queue ++ (waiting grp m.table).toList) :
      list <+ ofGroup grp m.queue ++ (waiting grp m.table).toList ++ [] := by
    rwa [List.append_nil]
  cases effect with
  | nothing => exact quiet (List.Sublist.refl _)
  | files data key now group found =>
    rw [waiting_kvUpdate]
    by_cases own : key = grp
    · subst own
      rw [if_pos ⟨rfl, found⟩]
      calc ofGroup key m.queue ++ (if data.addressed then some data else none).toList
          <+ ofGroup key m.queue ++ ofGroup key [data] := by
            refine List.Sublist.append_left ?_ _
            rw [ofGroup_own group]
            split
            · exact List.Sublist.refl _
            · exact List.nil_sublist _
        _ <+ ofGroup key m.queue ++ (waiting key m.table).toList ++ ofGroup key [data] :=
            List.Sublist.append_right (List.sublist_append_left _ _) _
    · rw [if_neg fun both => own both.1]
      exact List.sublist_append_left _ _
  | puts data absent =>
    by_cases own : data.group = some grp
    · have none_ : waiting grp m.table = none := by
        have free := absent grp own
        rw [kvFind_eq, Option.isSome_eq_false_iff, Option.isNone_iff_eq_none] at free
        rw [waiting, free]
        rfl
      calc ofGroup grp (m.put data).queue ++ (waiting grp m.table).toList
          <+ ofGroup grp m.queue ++ ofGroup grp [data] := by
            rw [none_]
            exact (List.append_nil _).symm ▸ ofGroup_put_sublist grp m data
        _ <+ ofGroup grp m.queue ++ (waiting grp m.table).toList ++ ofGroup grp [data] :=
            List.Sublist.append_right (List.sublist_append_left _ _) _
    · calc ofGroup grp (m.put data).queue ++ (waiting grp m.table).toList
          <+ ofGroup grp m.queue ++ (waiting grp m.table).toList := by rw [ofGroup_put_other m own]
        _ <+ ofGroup grp m.queue ++ (waiting grp m.table).toList ++ ofGroup grp [data] :=
            List.sublist_append_left _ _
  | fakes data =>
    have other : data.group ≠ some grp := by
      intro own
      rw [faked, List.flatMap_singleton, ofGroup_own own] at real
      cases real
    calc ofGroup grp (m.put data).queue ++ (waiting grp m.table).toList
        <+ ofGroup grp m.queue ++ (waiting grp m.table).toList := by rw [ofGroup_put_other m other]
      _ <+ ofGroup grp m.queue ++ (waiting grp m.table).toList ++ ofGroup grp [data] :=
          List.sublist_append_left _ _
  | sets grp' expire now =>
    refine quiet ?_
    rw [waiting_kvSet]
    exact List.Sublist.refl _
  | ends before after key item done split ended =>
    refine quiet ?_
    rw [puts_table, split, waiting_done (split ▸ filed.keyed) ended, ← split]
    by_cases own : key = grp
    · subst own
      have rests : waiting key m.table = item.pending := by
        rw [waiting, split, kvItem_split (split ▸ filed.keyed), if_pos rfl]
        rfl
      rw [if_pos rfl, rests, Option.toList_none, List.append_nil]
      cases waits : item.pending with
      | none => exact List.sublist_append_left _ _
      | some value =>
        have moved :=
          ofGroup_put_sublist key { m with table := before ++ (key, done) :: after } value
        rwa [ofGroup_own (filed.item_group split waits).1] at moved
    · rw [if_neg own]
      refine List.Sublist.append_right ?_ _
      cases waits : item.pending with
      | none => exact List.Sublist.refl _
      | some value =>
        have other : value.group ≠ some grp := by
          rw [(filed.item_group split waits).1]
          exact fun same => own (Option.some.inj same)
        rw [Option.toList_some, List.foldl_cons, List.foldl_nil, handled, List.flatMap_singleton,
          List.nil_append, ofGroup_put_other _ other]
  | handles data queue front =>
    refine quiet ?_
    rw [front]
    exact List.Sublist.refl _

/-- Of one group the report functions handle the telegrams in the order of their reception and none
twice, whether it is debounced or not and whenever it is registered; only the test server's
telegrams may overtake. -/
theorem group_in_order (reached : Reaches PipeStep ⟨[], []⟩ trace m)
    (real : ofGroup grp (faked trace) = []) :
    ofGroup grp (handled trace ++ m.queue) ++ (waiting grp m.table).toList <+ ofGroup grp
      (received trace) := by
  induction reached with
  | start => exact List.Sublist.refl _
  | @step trace m ev m' reached stepped ih =>
    rw [faked_append, ofGroup_append, List.append_eq_nil_iff] at real
    have one := stepped.effect.order (filed_run reached) real.2
    calc ofGroup grp (handled (trace ++ [ev]) ++ m'.queue) ++ (waiting grp m'.table).toList
        = ofGroup grp (handled trace) ++
            (ofGroup grp (handled [ev] ++ m'.queue) ++ (waiting grp m'.table).toList) := by
          rw [handled_append, List.append_assoc, ofGroup_append, List.append_assoc]
      _ <+ ofGroup grp (handled trace) ++
            (ofGroup grp m.queue ++ (waiting grp m.table).toList ++ ofGroup grp (received [ev])) :=
              one.append_left _
      _ = ofGroup grp (handled trace ++ m.queue) ++ (waiting grp m.table).toList ++ ofGroup grp
          (received [ev]) := by
          rw [ofGroup_append, List.append_assoc, List.append_assoc, List.append_assoc]
      _ <+ ofGroup grp (received trace) ++ ofGroup grp (received [ev]) := (ih real.1).append_right _
      _ = ofGroup grp (received (trace ++ [ev])) := by rw [received_append, ofGroup_append]

theorem group_in_order_overtaking :
    ofGroup busGroup (handled overtaking ++ []) ++ (waiting busGroup (resting true)).toList <+
      ofGroup busGroup (received overtaking) :=
  group_in_order overtaking_run (by decide)

end HiMaxGateway.Knx
