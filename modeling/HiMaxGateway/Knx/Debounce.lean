import HiMaxGateway.Knx.BusMonitor

/-! `KNX_DevDebounce`: a group that was updated and then rests for its expiry is put on the
monitor queue. The calls of `kv_set` and `kv_update` and the passes of the debouncer exclude
each other by `kv_lock`, so a run is a sequence of them. -/
namespace HiMaxGateway.Knx
open CText

/-- `tv_sec * 1000 + tv_nsec / 1000000`, for a time in nanoseconds. -/
def msOf (now : Nat) : Nat := now / 1000000

/-- A call of `queue_put` for an item, and whether the queue took the telegram. -/
structure Put where
  grp : Text
  value : KnxData
  stored : Bool
  deriving DecidableEq, Repr

/-- `strlen (groupAddr) > 0`; a zeroed value has no group address. -/
def KnxData.addressed (data : KnxData) : Bool := data.groupAddr.headD '\x00' ≠ '\x00'

def KvItem.due (item : KvItem) (now : Nat) : Bool :=
  !item.bDone && item.timestamp + item.expire < now

/-- The loop body for one item. The result of `queue_put` is not looked at. -/
def debounceItem (now : Nat) (accepts : Bool) (grp : Text) (item : KvItem) : KvItem × List Put :=
  if item.due now then
    ({ item with bDone := true },
      if item.pValue.addressed then [⟨grp, item.pValue, accepts⟩] else [])
  else (item, [])

/-- One pass of the loop; `now` is read once, before the first item. -/
def knxDevDebounce (now : Nat) (accepts : Text → Bool) (table : KvTable) : KvTable × List Put :=
  (table.map fun (grp, item) => (grp, (debounceItem now (accepts grp) grp item).1),
    table.flatMap fun (grp, item) => (debounceItem now (accepts grp) grp item).2)

inductive KvCall where
  | kvSet (grp : Text) (expire : Nat)
  | kvUpdate (grp : Text) (value : KnxData)
  /-- A pass, with what `queue_put` would answer for each item. -/
  | debounce (accepts : Text → Bool)

/-- A call at a time in nanoseconds. -/
structure KvOp where
  now : Nat
  call : KvCall

def KvOp.run (op : KvOp) (table : KvTable) : KvTable × List Put :=
  match op.call with
  | .kvSet grp expire => (kvSet grp expire (msOf op.now) table, [])
  | .kvUpdate grp value => (kvUpdate grp value (msOf op.now) table, [])
  | .debounce accepts => knxDevDebounce (msOf op.now) accepts table

def runOps (table : KvTable) : List KvOp → KvTable × List Put
  | [] => (table, [])
  | op :: rest =>
      let (table, puts) := op.run table
      let (table, more) := runOps table rest
      (table, puts ++ more)

def tableAfter (ops : List KvOp) : KvTable := (runOps [] ops).1

def kvItem (grp : Text) (table : KvTable) : Option KvItem :=
  (table.find? (·.1 == grp)).map (·.2)

/-- The puts for one group. -/
def putsOf (grp : Text) (table : KvTable) (ops : List KvOp) : List Put :=
  (runOps table ops).2.filter (·.grp == grp)

/-- The most recent update of a group since it was registered. -/
structure LastUpdate (grp : Text) (ops earlier later : List KvOp) (update : KvOp)
    (value : KnxData) : Prop where
  split : ops = earlier ++ update :: later
  call : update.call = .kvUpdate grp value
  registered : (kvItem grp (tableAfter earlier)).isSome = true
  quiet : ∀ op ∈ later, ∀ value, op.call ≠ .kvUpdate grp value

/-- The expiry of the call, if it registers the group. -/
def KvOp.expiry? (grp : Text) (op : KvOp) : Option Nat :=
  match op.call with
  | .kvSet grp' expire => if grp' = grp then some expire else none
  | _ => none

/-- The expiry the group was registered with last. -/
def lastExpiry (grp : Text) (ops : List KvOp) : Option Nat :=
  ops.reverse.findSome? (KvOp.expiry? grp)

/-- A call as one item sees it. -/
inductive ItemCall where
  | set (expire : Nat)
  | update (value : KnxData)
  | pass (accepts : Bool)
  deriving DecidableEq, Repr

/-- Calls for other groups are not seen, of a pass only the answer for the own telegram. -/
def KvOp.own (grp : Text) (op : KvOp) : Option (Nat × ItemCall) :=
  match op.call with
  | .kvSet grp' expire => if grp' = grp then some (op.now, .set expire) else none
  | .kvUpdate grp' value => if grp' = grp then some (op.now, .update value) else none
  | .debounce accepts => some (op.now, .pass (accepts grp))

end HiMaxGateway.Knx
