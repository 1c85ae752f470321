import HiMaxGateway.Knx.Packet

/-! The bus monitor thread: a telegram either updates the debounce table of
`point.c` or goes to the monitor queue, where the report handlers take it. -/
namespace HiMaxGateway.Knx
open CText CRun

/-- `kv_item_t`. Times are milliseconds of the monotonic clock. -/
structure KvItem where
  pValue : KnxData
  timestamp : Nat
  expire : Nat
  bDone : Bool
  deriving DecidableEq, Repr

/-- The hash table, in the order in which `HASH_ITER` visits it. -/
abbrev KvTable := List (Text × KvItem)

/-- Keys are compared as texts, not as addresses. -/
def kvFind (grp : Text) (table : KvTable) : Bool := table.any (·.1 == grp)

/-- A new item starts with a zeroed value; a known one keeps its value. -/
def kvSet (grp : Text) (expire now : Nat) (table : KvTable) : KvTable :=
  if kvFind grp table then
    table.map fun (key, item) =>
      if key == grp then (key, { item with timestamp := now, expire }) else (key, item)
  else table ++ [(grp, { pValue := {}, timestamp := now, expire, bDone := false })]

def kvUpdate (grp : Text) (value : KnxData) (now : Nat) (table : KvTable) : KvTable :=
  table.map fun (key, item) =>
    if key == grp then (key, { item with pValue := value, timestamp := now, bDone := false })
    else (key, item)

def monitorLimit : Nat := 200

/-- `queue_put` on a limited queue: nothing is stored when it is full. -/
def queuePut (limit : Nat) (el : α) (queue : List α) : Bool × List α :=
  if queue.length = limit then (false, queue) else (true, queue ++ [el])

structure Monitor where
  table : KvTable
  queue : List KnxData
  deriving DecidableEq, Repr

/-- One pass of the loop of `KNX_BusMonitorEntry` over a received text. -/
def busMonitorStep (line : Text) (now : Nat) (monitor : Monitor) : Result Monitor := do
  let (ret, data) ← knxParsePacket line {}
  if ret ≠ 0 then return monitor
  let data := { data with timestamp := now }
  let grp ← cString data.groupAddr
  if kvFind grp monitor.table then
    return { monitor with table := kvUpdate grp data now monitor.table }
  return { monitor with queue := (queuePut monitorLimit data monitor.queue).2 }

end HiMaxGateway.Knx
