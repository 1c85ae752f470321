import HiMaxGateway.Modbus.Monitor

/-! When a report is passed on to the associated KNX device. -/
namespace HiMaxGateway.Modbus
open CText CRun Function

-- What was decided for one point, oldest first: each value with whether it was passed on.

/-- The value passed on last; `0xFFFFFFFF` stands for none. -/
def lastForwarded (log : List (UInt32 × Bool)) : UInt32 :=
  ((log.reverse.find? (·.2)).map (·.1)).getD 0xFFFFFFFF

/-- The reports held back since then. -/
def suppressedSince (log : List (UInt32 × Bool)) : Nat := (log.reverse.takeWhile (!·.2)).length

def decisionAt (place : Place) : Handled → Option (UInt32 × Bool)
  | .skipped => none
  | .taken at_ value forwarded _ => if at_ = place then some (value, forwarded) else none

def decisions (place : Place) (trace : List Taking) : List (UInt32 × Bool) :=
  trace.filterMap fun taking => decisionAt place taking.handled

@[simp] theorem lastForwarded_forwarded (log : List (UInt32 × Bool)) (value : UInt32) :
    lastForwarded (log ++ [(value, true)]) = value := by
  simp [lastForwarded]

@[simp] theorem lastForwarded_suppressed (log : List (UInt32 × Bool)) (value : UInt32) :
    lastForwarded (log ++ [(value, false)]) = lastForwarded log := by
  simp [lastForwarded]

@[simp] theorem suppressedSince_forwarded (log : List (UInt32 × Bool)) (value : UInt32) :
    suppressedSince (log ++ [(value, true)]) = 0 := by
  simp [suppressedSince]

@[simp] theorem suppressedSince_suppressed (log : List (UInt32 × Bool)) (value : UInt32) :
    suppressedSince (log ++ [(value, false)]) = suppressedSince log + 1 := by
  simp [suppressedSince]

/-- A point that remembers its log. -/
structure PointState.Tracks (point : PointState) (log : List (UInt32 × Bool)) : Prop where
  valueOld : point.valueOld = lastForwarded log
  forceSync : point.forceSync = suppressedSince log
  bounded : point.forceSync ≤ MBUS_FORCE_SYNC_NUM

theorem PointState.Tracks.init : PointState.init.Tracks [] := ⟨rfl, rfl, Nat.zero_le _⟩

theorem PointState.receive_new {point : PointState} {value : UInt32}
    (changed : point.valueOld ≠ value) : point.receive value = (⟨value, value, 0⟩, true) := by
  simp [PointState.receive, changed]

theorem PointState.receive_held {point : PointState} {value : UInt32}
    (same : point.valueOld = value) (early : point.forceSync < MBUS_FORCE_SYNC_NUM) :
    point.receive value =
      (⟨value, value, point.forceSync + 1⟩, false) := by
  simp [PointState.receive, same, early]

theorem PointState.receive_again {point : PointState} {value : UInt32}
    (same : point.valueOld = value) (late : ¬ point.forceSync < MBUS_FORCE_SYNC_NUM) :
    point.receive value = (⟨value, value, 0⟩, true) := by
  simp [PointState.receive, same, late]

theorem PointState.Tracks.receive {point : PointState} (tracks : point.Tracks log)
    (value : UInt32) :
    (point.receive value).1.Tracks (log ++ [(value, (point.receive value).2)]) := by
  by_cases same : point.valueOld = value
  · by_cases early : point.forceSync < MBUS_FORCE_SYNC_NUM
    · rw [PointState.receive_held same early]
      refine ⟨?_, ?_, early⟩
      · rw [lastForwarded_suppressed, ← tracks.valueOld, same]
      · rw [suppressedSince_suppressed, ← tracks.forceSync]
    · rw [PointState.receive_again same early]
      exact ⟨by simp, by simp, Nat.zero_le _⟩
  · rw [PointState.receive_new same]
    exact ⟨by simp, by simp, Nat.zero_le _⟩

theorem PointState.Tracks.forwards_iff {point : PointState} (tracks : point.Tracks log)
    (value : UInt32) : (point.receive value).2 = true ↔
      value ≠ lastForwarded log ∨ suppressedSince log = MBUS_FORCE_SYNC_NUM := by
  rw [← tracks.valueOld, ← tracks.forceSync]
  have bounded := tracks.bounded
  by_cases same : point.valueOld = value
  · by_cases early : point.forceSync < MBUS_FORCE_SYNC_NUM
    · rw [PointState.receive_held same early]
      simp [same, Nat.ne_of_lt early]
    · rw [PointState.receive_again same early]
      simp [same, Nat.le_antisymm bounded (Nat.not_lt.mp early)]
  · rw [PointState.receive_new same]
    simp [Ne.symm same]

variable {devs : List MonitorDev} {mem mem' : PointMem} {place : Place}

theorem findPoint_some {points : Slot → Option PointCfg}
    (found : findPoint points localPoint slots = .ok (some (slot, cfg))) :
    points slot = some cfg := by
  induction slots with
  | nil => simp [findPoint] at found
  | cons first rest ih =>
    cases present : points first with
    | none => simp [findPoint, present] at found
    | some cfg' =>
      by_cases hit : localPoint = cfg'.localPoint
      · simp only [findPoint, present, if_pos hit, pure_eq_ok, Option.some.injEq,
          Prod.mk.injEq] at found
        obtain ⟨rfl, rfl⟩ := found
        exact present
      · exact ih (by simpa [findPoint, present, hit] using found)

theorem target_point (found : target devs report = .ok (.point place dev cfg)) :
    devs[place.1]? = some dev ∧ dev.element.bMaster = true ∧ dev.points place.2 = some cfg := by
  unfold target at found
  by_cases short : report.pPrimaryKey.length < macLength
  · simp [short] at found
  rw [if_neg short] at found
  cases suffix : suffixId report.pPrimaryKey with
  | none => simp [suffix] at found
  | some devId =>
    cases search : devs.zipIdx.find? (·.1.element.devId == devId) with
    | none => simp [suffix, search] at found
    | some pair =>
      obtain ⟨dev', i⟩ := pair
      cases master : dev'.element.bMaster with
      | false => simp [suffix, search, master] at found
      | true =>
        simp only [suffix, search, master, Bool.not_true, Bool.false_eq_true, if_false,
          bind_eq_ok] at found
        obtain ⟨hit, searched, found⟩ := found
        cases hit with
        | none => simp at found
        | some hit =>
          obtain ⟨slot, cfg'⟩ := hit
          simp only [pure_eq_ok, Target.point.injEq] at found
          obtain ⟨rfl, rfl, rfl⟩ := found
          have member := List.mem_of_find?_eq_some search
          refine ⟨?_, master, findPoint_some searched⟩
          simpa using List.mem_zipIdx_iff_getElem?.mp member

/-- Everything a report can do. -/
theorem MonitorStep.cases (stepped : MonitorStep devs mem taking mem') :
    (taking.handled = .skipped ∧ mem' = mem) ∨
    ∃ place dev cfg, target devs taking.report = .ok (.point place dev cfg) ∧
      taking.handled = .taken place taking.report.value
        ((mem place).receive taking.report.value).2
        (monitorEvs taking.cloud dev place.2 cfg taking.report
          ((mem place).receive taking.report.value).2) ∧
      mem' = update mem place ((mem place).receive taking.report.value).1 := by
  unfold MonitorStep handleReport at stepped
  rw [bind_eq_ok] at stepped
  obtain ⟨found, targeted, stepped⟩ := stepped
  cases found with
  | leaves => simp at stepped
  | skipped =>
    simp only [pure_eq_ok, Option.some.injEq, Prod.mk.injEq] at stepped
    exact .inl ⟨stepped.1.symm, stepped.2.symm⟩
  | point place dev cfg =>
    simp only [pure_eq_ok, Option.some.injEq, Prod.mk.injEq] at stepped
    exact .inr ⟨place, dev, cfg, targeted, stepped.1.symm, stepped.2.symm⟩

theorem decisions_snoc (place : Place) (trace : List Taking) (taking : Taking) :
    decisions place (trace ++ [taking]) =
      decisions place trace ++ (decisionAt place taking.handled).toList := by
  cases found : decisionAt place taking.handled <;> simp [decisions, found]

/-- Every point remembers its own log. -/
theorem MonitorStep.tracks (tracks : ∀ place, (mem place).Tracks (decisions place trace))
    (stepped : MonitorStep devs mem taking mem') :
    ∀ place, (mem' place).Tracks (decisions place (trace ++ [taking])) := by
  intro place
  rw [decisions_snoc]
  rcases stepped.cases with ⟨skipped, rfl⟩ | ⟨at_, dev, cfg, -, taken, rfl⟩
  · simpa [skipped, decisionAt] using tracks place
  · by_cases here : at_ = place
    · subst at_
      simpa [taken, decisionAt] using (tracks place).receive taking.report.value
    · simpa [taken, decisionAt, here, Ne.symm here] using tracks place

theorem monitor_tracks
    (run : Run.Reaches (MonitorStep devs) (fun _ => PointState.init) trace mem) :
    ∀ place, (mem place).Tracks (decisions place trace) :=
  Run.trace_invariant (fun trace mem => ∀ place, (mem place).Tracks (decisions place trace))
    (fun _ => PointState.Tracks.init) (fun _ _ _ _ tracks stepped => stepped.tracks tracks) run

theorem knxGroupWrite_mem (master : dev.element.bMaster = true) :
    MonitorEv.knxGroupWrite key obj ∈ monitorEvs cloud dev slot cfg report forwarded ↔
      forwarded = true ∧ dev.pvForeignKey = some key ∧ obj = tyObj slot cfg report.value := by
  have heartbeat : MonitorEv.knxGroupWrite key obj ∉
      (if dev.element.bMaster && cloud.g_bActive && cloud.described dev.element.pPrimaryKey then
        (if bReport dev.primaryType slot then
          [MonitorEv.report report.pPrimaryKey (tyObj slot cfg report.value)] else []) ++
          [.hbFresh report.pPrimaryKey]
      else []) := by
    split
    · split <;> simp
    · simp
  unfold monitorEvs
  rw [List.mem_append, or_iff_left heartbeat]
  cases dev.pvForeignKey with
  | none => simp
  | some key' =>
    cases forwarded with
    | false => simp
    | true => simp [master, eq_comm]

/-- A ventilation that is associated with a KNX device. -/
def sampleVent : MonitorDev where
  element := mbusElement "aabbccddeeff".toList "1".toList
  primaryType := .ventilation
  points
    | .pSwitch => some ⟨.ventSwitch, 39, 0⟩
    | .pSpeed => some ⟨.ventSpeed, 28, 3⟩
    | _ => none
  pvForeignKey := some "aabbccddeeff11".toList

/-- The switch is reported as on; the gateway is offline. -/
def switchTaking (forwarded : Bool) : Taking where
  cloud := ⟨false, fun _ => false⟩
  report := ⟨sampleVent.element.pPrimaryKey, .ventSwitch, 1⟩
  handled := .taken (0, .pSwitch) 1 forwarded
    (if forwarded then [.knxGroupWrite "aabbccddeeff11".toList ⟨39, 0, .number 1⟩] else [])

def switchMem (forceSync : Nat) : PointMem :=
  update (fun _ => PointState.init) (0, .pSwitch) ⟨1, 1, forceSync⟩

end HiMaxGateway.Modbus
