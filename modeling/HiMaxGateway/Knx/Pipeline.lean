import HiMaxGateway.Knx.DebounceProofs
import HiMaxGateway.Knx.PacketProofs
import HiMaxGateway.Lib.Run
import Mathlib.Algebra.Order.Group.Multiset
import Mathlib.Tactic.GCongr

/-! The way of a telegram from the bus to the report functions: the threads of the bus monitor, of
the debouncer, of the device monitor and of the test server over one queue and one table, in any
order. -/
namespace HiMaxGateway.Knx
open CText CRun Run

/-- The telegram that a received text is, if it is to be handled. -/
def receivedOf (line : Text) (now : Nat) : Option KnxData :=
  match knxParsePacket line {} with
  | .ok (ret, data) => if ret = 0 then some { data with timestamp := now } else none
  | .error _ => none

/-- `KNX_FakePacket`, with the group cut to the eight characters that `snprintf` leaves. -/
def knxFakePacket (pGrp pValue : Text) : Option KnxData :=
  (payload pValue).map fun value =>
    { groupAddr := padded (pGrp.take 8), value, cmd := "Write".toList }

/-- Where a telegram goes first. -/
inductive Fate where
  | filed
  | queued
  | refused
  deriving DecidableEq, Repr

def Fate.taken (data : KnxData) : Fate → List KnxData
  | .queued => [data]
  | _ => []

inductive PipeEvent where
  | received (data : KnxData) (fate : Fate)
  | faked (data : KnxData) (fate : Fate)
  | register (grp : Text)
  | handle (data : KnxData)
  | internal
  deriving DecidableEq, Repr

def queueFate (queue : List KnxData) : Fate :=
  if queue.length = monitorLimit then .refused else .queued

def KnxData.group (data : KnxData) : Option Text := (cString data.groupAddr).toOption

/-- A telegram of the bus is filed where its group is debounced; what the test server sends never
is. -/
def busFate (m : Monitor) (data : KnxData) : Fate :=
  if data.group.any (kvFind · m.table) then .filed else queueFate m.queue

def Monitor.put (m : Monitor) (data : KnxData) : Monitor :=
  { m with queue := (queuePut monitorLimit data m.queue).2 }

/-- The threads stop each other at the locks only. An item of a debouncer's pass is a step, whose
telegram the queue takes if it has room; that `kv_lock` is held for the whole pass is not used. -/
inductive PipeStep : Monitor → PipeEvent → Monitor → Prop where
  | ignores :
      receivedOf line now = none → busMonitorStep line now m = .ok m' → PipeStep m .internal m'
  | receives : receivedOf line now = some data → busMonitorStep line now m = .ok m' →
      PipeStep m (.received data (busFate m data)) m'
  | fakes :
      knxFakePacket pGrp pValue = some data → PipeStep m (.faked data (queueFate m.queue))
      (m.put data)
  | registers (grp : Text) (expire now : Nat) :
      PipeStep m (.register grp) { m with table := kvSet grp expire now m.table }
  | debounces (now : Nat) (grp : Text) (item : KvItem) (before after : KvTable) :
      m.table = before ++ (grp, item) :: after →
      debounceItem now (m.queue.length ≠ monitorLimit) grp item = (item', puts) →
      PipeStep m .internal
        (puts.foldl (fun m put => m.put put.value)
          { m with table := before ++ (grp, item') :: after })
  | handles : m.queue = data :: queue → PipeStep m (.handle data) { m with queue }

/-- From the bus and from the test server. -/
def received (trace : List PipeEvent) : List KnxData :=
  trace.flatMap fun
    | .received data _ | .faked data _ => [data]
    | _ => []

/-- Those that the queue took at once. -/
def enqueued (trace : List PipeEvent) : List KnxData :=
  trace.flatMap fun
    | .received data fate | .faked data fate => fate.taken data
    | _ => []

def handled (trace : List PipeEvent) : List KnxData :=
  trace.flatMap fun
    | .handle data => [data]
    | _ => []

/-- The groups that were registered for the debouncer. -/
def registered (trace : List PipeEvent) : List Text :=
  trace.flatMap fun
    | .register grp => [grp]
    | _ => []

/-- The telegram that an item still has to put. -/
def KvItem.pending (item : KvItem) : Option KnxData :=
  if !item.bDone && item.pValue.addressed then some item.pValue else none

def pending (table : KvTable) : List KnxData := table.filterMap fun entry => entry.2.pending

/-- What a step does: all that the proofs use of it. -/
inductive Effect : Monitor → PipeEvent → Monitor → Prop where
  | nothing : Effect m .internal m
  | files (data : KnxData) (grp : Text) (now : Nat) :
      data.group = some grp → kvFind grp m.table = true →
        Effect m (.received data .filed) { m with table := kvUpdate grp data now m.table }
  | puts (data : KnxData) : (∀ grp, data.group = some grp → kvFind grp m.table = false) →
      Effect m (.received data (queueFate m.queue)) (m.put data)
  | fakes (data : KnxData) : Effect m (.faked data (queueFate m.queue)) (m.put data)
  | sets (grp : Text) (expire now : Nat) :
      Effect m (.register grp) { m with table := kvSet grp expire now m.table }
  /-- The item no longer waits; what it had pending is put. -/
  | ends (before after : KvTable) (grp : Text) (item done : KvItem) :
      m.table = before ++ (grp, item) :: after → done.pending = none →
      Effect m .internal
        (item.pending.toList.foldl Monitor.put { m with table := before ++ (grp, done) :: after })
  | handles (data : KnxData) (queue : List KnxData) :
      m.queue = data :: queue → Effect m (.handle data) { m with queue }

variable {m m' : Monitor} {ev : PipeEvent} {trace : List PipeEvent} {table : KvTable} {grp : Text}
  {data : KnxData} {line : Text} {now : Nat} {item : KvItem}

theorem received_append (trace more : List PipeEvent) :
    received (trace ++ more) = received trace ++ received more :=
  List.flatMap_append

theorem enqueued_append (trace more : List PipeEvent) :
    enqueued (trace ++ more) = enqueued trace ++ enqueued more :=
  List.flatMap_append

theorem registered_append (trace more : List PipeEvent) :
    registered (trace ++ more) = registered trace ++ registered more :=
  List.flatMap_append

theorem handled_append (trace more : List PipeEvent) :
    handled (trace ++ more) = handled trace ++ handled more :=
  List.flatMap_append

theorem ignores_same (noise : receivedOf line now = none)
    (done : busMonitorStep line now m = .ok m') : m' = m := by
  refine busMonitorStep_rejected (fun data parsed => ?_) done
  simp [receivedOf, parsed] at noise

theorem receives_effect (telegram : receivedOf line now = some data)
    (done : busMonitorStep line now m = .ok m') :
    Effect m (.received data (busFate m data)) m' := by
  obtain ⟨⟨ret, data'⟩, parsed, done⟩ := bind_eq_ok.mp done
  simp only [receivedOf, parsed] at telegram
  split at telegram
  · rename_i zero
    cases telegram
    simp only [ne_eq, zero, not_true_eq_false, if_false] at done
    obtain ⟨grp, read, done⟩ := bind_eq_ok.mp done
    have named : KnxData.group { data' with timestamp := now } = some grp := by
      rw [KnxData.group, read]
      rfl
    rw [busFate, named, Option.any_some]
    split at done
    · rename_i found
      obtain rfl := pure_eq_ok.mp done
      rw [if_pos found]
      exact .files _ grp _ named found
    · rename_i absent
      obtain rfl := pure_eq_ok.mp done
      rw [if_neg absent]
      refine .puts _ fun grp' named' => ?_
      obtain rfl := Option.some.inj (named.symm.trans named')
      exact Bool.eq_false_iff.mpr absent
  · cases telegram

theorem debounces_effect {before after : KvTable} {item' : KvItem} {puts : List Put}
    {accepts : Bool} (split : m.table = before ++ (grp, item) :: after)
    (passed : debounceItem now accepts grp item = (item', puts)) :
    Effect m .internal
      (puts.foldl (fun m put => m.put put.value)
        { m with table := before ++ (grp, item') :: after }) := by
  rw [debounceItem] at passed
  split at passed
  · rename_i due
    obtain ⟨rfl, rfl⟩ := Prod.mk.inj passed
    have undone : item.bDone = false := by
      rw [KvItem.due, Bool.and_eq_true] at due
      simpa using due.1
    have ended : KvItem.pending { item with bDone := true } = none := rfl
    have effect := Effect.ends before after grp item _ split ended
    cases addressed : item.pValue.addressed with
    | true => simpa [KvItem.pending, undone, addressed] using effect
    | false => simpa [KvItem.pending, undone, addressed] using effect
  · obtain ⟨rfl, rfl⟩ := Prod.mk.inj passed
    rw [← split]
    exact .nothing

theorem PipeStep.effect (stepped : PipeStep m ev m') : Effect m ev m' := by
  cases stepped with
  | ignores noise done =>
    rw [ignores_same noise done]
    exact .nothing
  | receives telegram done => exact receives_effect telegram done
  | fakes made => exact .fakes _
  | registers grp expire now => exact .sets grp expire now
  | debounces now grp item before after split passed => exact debounces_effect split passed
  | handles front => exact .handles _ _ front

theorem put_queue (m : Monitor) (data : KnxData) :
    (m.put data).queue = m.queue ++ (queueFate m.queue).taken data := by
  rw [Monitor.put, queuePut, queueFate]
  split
  · exact (List.append_nil _).symm
  · rfl

theorem puts_table (m : Monitor) (values : List KnxData) :
    (values.foldl Monitor.put m).table = m.table := by
  induction values generalizing m with
  | nil => rfl
  | cons value values ih => exact ih (m.put value)

theorem pending_append (table more : KvTable) :
    pending (table ++ more) = pending table ++ pending more :=
  List.filterMap_append

theorem pending_cons (key : Text) (item : KvItem) (table : KvTable) :
    pending ((key, item) :: table) = item.pending.toList ++ pending table := by
  rw [pending, List.filterMap_cons]
  cases item.pending <;> rfl

theorem pending_le (item : KvItem) : (↑item.pending.toList : Multiset KnxData) ≤ {item.pValue} := by
  rw [KvItem.pending]
  split
  · exact le_refl _
  · exact Multiset.zero_le _

theorem kvUpdate_absent (absent : grp ∉ table.map Prod.fst) (data : KnxData) (now : Nat) :
    kvUpdate grp data now table = table := by
  rw [kvUpdate]
  refine (List.map_congr_left fun entry member => ?_).trans (List.map_id table)
  have other : ¬entry.1 = grp := fun same => absent (same ▸ List.mem_map_of_mem member)
  simp [other]

/-- An update puts its telegram in the place of the one that waited. -/
theorem pending_kvUpdate (keyed : Keyed table) (grp : Text) (data : KnxData) (now : Nat) :
    (↑(pending (kvUpdate grp data now table)) : Multiset KnxData) ≤ ↑(pending table) + {data} := by
  induction table with
  | nil => exact Multiset.zero_le _
  | cons entry table ih =>
    obtain ⟨key, item⟩ := entry
    obtain ⟨absent, keyed⟩ := List.nodup_cons.mp keyed
    by_cases here : key = grp
    · subst here
      have same := kvUpdate_absent absent data now
      rw [kvUpdate] at same
      rw [kvUpdate, List.map_cons, same]
      simp only [beq_self_eq_true, if_true, pending_cons, ← Multiset.coe_add]
      calc (↑(KvItem.pending
              { item with pValue := data, timestamp := now, bDone := false }).toList :
              Multiset KnxData)
            + ↑(pending table)
          ≤ {data} + ↑(pending table) := by gcongr; exact pending_le _
        _ ≤ ↑item.pending.toList + ({data} + ↑(pending table)) := Multiset.le_add_left _ _
        _ = ↑item.pending.toList + ↑(pending table) + {data} := by
            rw [add_comm ({data} : Multiset KnxData), add_assoc]
    · have more := ih keyed
      rw [kvUpdate] at more
      rw [kvUpdate, List.map_cons]
      simp only [beq_iff_eq, here, if_false, pending_cons, ← Multiset.coe_add, add_assoc] at more ⊢
      gcongr

theorem pending_kvSet (grp : Text) (expire now : Nat) (table : KvTable) :
    pending (kvSet grp expire now table) = pending table := by
  rw [kvSet]
  split
  · rw [pending, pending, List.filterMap_map]
    refine List.filterMap_congr fun entry _ => ?_
    obtain ⟨key, item⟩ := entry
    by_cases here : key = grp <;> simp [here, KvItem.pending]
  · rw [pending_append, pending_cons]
    exact List.append_nil _

/-- The telegrams that the monitor holds. -/
def Monitor.held (m : Monitor) : Multiset KnxData := ↑m.queue + ↑(pending m.table)

theorem taken_le (fate : Fate) (data : KnxData) :
    (↑(fate.taken data) : Multiset KnxData) ≤ {data} := by
  cases fate with
  | queued => exact le_refl _
  | filed => exact Multiset.zero_le _
  | refused => exact Multiset.zero_le _

theorem held_put (m : Monitor) (data : KnxData) : (m.put data).held ≤ m.held + {data} := by
  rw [Monitor.held, put_queue, ← Multiset.coe_add]
  calc (↑m.queue + ↑((queueFate m.queue).taken data) + ↑(pending m.table) : Multiset KnxData)
      ≤ ↑m.queue + {data} + ↑(pending m.table) := by gcongr; exact taken_le _ data
    _ = m.held + {data} := add_right_comm _ _ _

theorem held_update (keyed : Keyed m.table) (grp : Text) (data : KnxData) (now : Nat) :
    Monitor.held { m with table := kvUpdate grp data now m.table } ≤ m.held + {data} :=
  calc ↑m.queue + ↑(pending (kvUpdate grp data now m.table))
      ≤ ↑m.queue + (↑(pending m.table) + {data}) := by
        gcongr; exact pending_kvUpdate keyed grp data now
    _ = m.held + {data} := (add_assoc _ _ _).symm

/-- A pass moves a telegram from its item to the queue, or loses it. -/
theorem held_done {before after : KvTable} {done : KvItem}
    (split : m.table = before ++ (grp, item) :: after) (ended : done.pending = none) :
    Monitor.held
      (item.pending.toList.foldl Monitor.put { m with table := before ++ (grp, done) :: after }) ≤
        m.held := by
  have same : m.held =
      Monitor.held { m with table := before ++ (grp, done) :: after } + ↑item.pending.toList := by
    rw [Monitor.held, Monitor.held, split]
    simp only [pending_append, pending_cons, ended, ← Multiset.coe_add, Option.toList_none,
      Multiset.coe_nil, zero_add, add_assoc]
    rw [add_comm (↑item.pending.toList : Multiset KnxData)]
  rw [same]
  cases item.pending with
  | none => exact Multiset.le_add_right _ _
  | some value => exact held_put _ value

/-- A step makes no telegram but those it receives, and doubles none. -/
theorem Effect.flow (effect : Effect m ev m') (keyed : Keyed m.table) :
    ↑(handled [ev]) + m'.held ≤ m.held + ↑(received [ev]) := by
  have quiet {after : Monitor} (le : after.held ≤ m.held) : 0 + after.held ≤ m.held + 0 := by
    rwa [zero_add, add_zero]
  cases effect with
  | nothing => exact quiet (le_refl _)
  | files data grp now group found => exact (zero_add _).trans_le (held_update keyed grp data now)
  | puts data absent => exact (zero_add _).trans_le (held_put m data)
  | fakes data => exact (zero_add _).trans_le (held_put m data)
  | sets grp expire now =>
    have same : Monitor.held { m with table := kvSet grp expire now m.table } = m.held := by
      rw [Monitor.held, pending_kvSet, Monitor.held]
    exact quiet same.le
  | ends before after grp item done split ended => exact quiet (held_done split ended)
  | handles data queue front =>
    have taken : m.held = ↑[data] + Monitor.held { m with queue } := by
      rw [Monitor.held, front, ← List.singleton_append, ← Multiset.coe_add, add_assoc, Monitor.held]
    rw [taken]
    exact (add_zero _).ge

theorem Keyed.replace {before after : KvTable} {done : KvItem}
    (keyed : Keyed (before ++ (grp, item) :: after)) :
    Keyed (before ++ (grp, done) :: after) := by
  simpa [Keyed] using keyed

theorem Effect.keyed (effect : Effect m ev m') (keyed : Keyed m.table) : Keyed m'.table := by
  cases effect with
  | nothing => exact keyed
  | files data grp now group found => exact keyed.kvUpdate grp data now
  | puts data absent => exact keyed
  | fakes data => exact keyed
  | sets grp expire now => exact keyed.kvSet grp expire now
  | ends before after grp item done split ended =>
    rw [puts_table]
    exact (split ▸ keyed).replace
  | handles data queue front => exact keyed

/-- Room is tested before each telegram is put. -/
theorem put_room (m : Monitor) (data : KnxData) (room : m.queue.length ≤ monitorLimit) :
    (m.put data).queue.length ≤ monitorLimit := by
  rw [Monitor.put, queuePut]
  split
  · exact room
  · rw [List.length_append, List.length_singleton]
    omega

theorem Effect.room (effect : Effect m ev m') (room : m.queue.length ≤ monitorLimit) :
    m'.queue.length ≤ monitorLimit := by
  cases effect with
  | nothing => exact room
  | files data grp now group found => exact room
  | puts data absent => exact put_room m data room
  | fakes data => exact put_room m data room
  | sets grp expire now => exact room
  | ends before after grp item done split ended =>
    exact List.foldlRecOn (motive := fun m : Monitor => m.queue.length ≤ monitorLimit) _ _ room
      fun m room value _ => put_room m value room
  | handles data queue front =>
    rw [front, List.length_cons] at room
    exact Nat.le_of_succ_le room

/-- What holds of the monitor after the events. -/
structure Flowing (trace : List PipeEvent) (m : Monitor) : Prop where
  keyed : Keyed m.table
  room : m.queue.length ≤ monitorLimit
  flow : ↑(handled trace) + m.held ≤ ↑(received trace)

theorem Flowing.step (flowing : Flowing trace m) (stepped : PipeStep m ev m') :
    Flowing (trace ++ [ev]) m' where
  keyed := stepped.effect.keyed flowing.keyed
  room := stepped.effect.room flowing.room
  flow := by
    rw [handled_append, received_append, ← Multiset.coe_add, ← Multiset.coe_add, add_assoc]
    calc (↑(handled trace) + (↑(handled [ev]) + m'.held) : Multiset KnxData)
        ≤ ↑(handled trace) + (m.held + ↑(received [ev])) := by
          exact add_le_add_right (stepped.effect.flow flowing.keyed) _
      _ = ↑(handled trace) + m.held + ↑(received [ev]) := (add_assoc _ _ _).symm
      _ ≤ ↑(received trace) + ↑(received [ev]) := by gcongr; exact flowing.flow

/-- What the report functions have handled, what waits in the queue and what waits in the table was
all received, each telegram once, whatever the order of the threads; the queue never holds more
than 200. -/
theorem telegrams_handled_once (reached : Reaches PipeStep ⟨[], []⟩ trace m) :
    (↑(handled trace) + ↑m.queue + ↑(pending m.table) : Multiset KnxData) ≤ ↑(received trace) ∧
      m.queue.length ≤ monitorLimit := by
  have empty : Flowing [] ⟨[], []⟩ := ⟨List.nodup_nil, Nat.zero_le _, le_refl _⟩
  have flowing : Flowing trace m :=
    trace_invariant Flowing empty (fun _ _ _ _ flowing stepped => flowing.step stepped) reached
  exact ⟨(add_assoc _ _ _).trans_le flowing.flow, flowing.room⟩

def busGroup : Text := "1.1.7".toList

def fakedData : KnxData := { groupAddr := padded "2/0/1".toList, value := 1, cmd := "Write".toList }

/-- The test server's telegram overtakes the one that rests in the table. -/
def overtaking : List PipeEvent :=
  [.register busGroup, .received memoryReadData .filed, .faked fakedData .queued, .internal,
    .handle fakedData, .handle memoryReadData]

def resting (bDone : Bool) : KvTable :=
  [(busGroup, { pValue := memoryReadData, timestamp := 0, expire := 500, bDone })]

theorem overtaking_run : Reaches PipeStep ⟨[], []⟩ overtaking ⟨resting true, []⟩ := by
  have registers : PipeStep ⟨[], []⟩ (.register busGroup) ⟨kvSet busGroup 500 0 [], []⟩ :=
    .registers busGroup 500 0
  have read : receivedOf memoryRead 0 = some memoryReadData := by decide
  have files :
    busMonitorStep memoryRead 0 ⟨kvSet busGroup 500 0 [], []⟩ = .ok ⟨resting false, []⟩ := by decide
  have fakes : knxFakePacket "2/0/1".toList "01".toList = some fakedData := by decide
  have rested : debounceItem 501 true busGroup ⟨memoryReadData, 0, 500, false⟩ =
      (⟨memoryReadData, 0, 500, true⟩, [⟨busGroup, memoryReadData, true⟩]) := by decide
  have filed := (Reaches.start.step registers).step (.receives read files)
  have put := (filed.step (.fakes fakes)).step (.debounces 501 busGroup _ [] [] rfl rested)
  exact (put.step (.handles rfl)).step (.handles rfl)

theorem telegrams_handled_once_overtaking :
    (↑(handled overtaking) + ↑([] : List KnxData) + ↑(pending (resting true)) : Multiset KnxData) ≤
        ↑(received overtaking) ∧ ([] : List KnxData).length ≤ monitorLimit :=
  telegrams_handled_once overtaking_run

end HiMaxGateway.Knx
