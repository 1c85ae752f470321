import HiMaxGateway.Modbus.MonitorProofs

/-! What the loop of `ModbusDevMonitor` reports to the cloud, and when it goes on to the next
report. -/
namespace HiMaxGateway.Modbus
open CText CRun Function

variable {devs : List MonitorDev} {mem mem' : PointMem} {place : Place}

/-- The points whose branch clears `bReport`: what they measure stays in the gateway. -/
def withheld : List (PrimaryType × Slot) :=
  [(.airCondition, .pEnvTemp), (.floorHeating, .pEnvTemp), (.aqi, .pPM25), (.aqi, .pCO2)]

theorem bReport_iff (primaryType : PrimaryType) (slot : Slot) :
    bReport primaryType slot = true ↔ (primaryType, slot) ∉ withheld := by
  cases primaryType <;> cases slot <;> decide

theorem report_mem (master : dev.element.bMaster = true) :
    MonitorEv.report key obj ∈ monitorEvs cloud dev slot cfg report forwarded ↔
      cloud.g_bActive = true ∧ cloud.described dev.element.pPrimaryKey = true ∧
        (dev.primaryType, slot) ∉ withheld ∧ key = report.pPrimaryKey ∧
        obj = tyObj slot cfg report.value := by
  rw [← bReport_iff]
  have heartbeat : MonitorEv.report key obj ∈
      (if dev.element.bMaster && cloud.g_bActive && cloud.described dev.element.pPrimaryKey then
        (if bReport dev.primaryType slot then
          [MonitorEv.report report.pPrimaryKey (tyObj slot cfg report.value)] else []) ++
          [.hbFresh report.pPrimaryKey]
      else []) ↔
      cloud.g_bActive = true ∧ cloud.described dev.element.pPrimaryKey = true ∧
        bReport dev.primaryType slot = true ∧ key = report.pPrimaryKey ∧
        obj = tyObj slot cfg report.value := by
    by_cases active : cloud.g_bActive = true
    · by_cases bound : cloud.described dev.element.pPrimaryKey = true
      · cases bReport dev.primaryType slot <;> simp [master, active, bound]
      · simp [bound]
    · simp [active]
  unfold monitorEvs
  rw [List.mem_append, heartbeat]
  apply or_iff_right
  cases dev.pvForeignKey with
  | none => simp
  | some key' => cases forwarded <;> simp [master]

/-- What a report that was taken sent to the cloud. -/
def Taking.CloudExactly (devs : List MonitorDev) (taking : Taking) : Prop :=
  ∀ place value forwarded evs, taking.handled = .taken place value forwarded evs →
    ∃ dev cfg, devs[place.1]? = some dev ∧ dev.points place.2 = some cfg ∧
      ∀ key obj, .report key obj ∈ evs ↔
        taking.cloud.g_bActive = true ∧
        taking.cloud.described dev.element.pPrimaryKey = true ∧
        (dev.primaryType, place.2) ∉ withheld ∧ key = taking.report.pPrimaryKey ∧
        obj = tyObj place.2 cfg taking.report.value

theorem MonitorStep.cloudExactly (stepped : MonitorStep devs mem taking mem') :
    taking.CloudExactly devs := by
  intro place value forwarded evs handled
  rcases stepped.cases with ⟨skipped, -⟩ | ⟨at_, dev, cfg, targeted, taken, -⟩
  · rw [skipped] at handled
    contradiction
  · rw [taken] at handled
    obtain ⟨rfl, rfl, rfl, rfl⟩ := Handled.taken.inj handled
    obtain ⟨listed, master, point⟩ := target_point targeted
    exact ⟨dev, cfg, listed, point, fun key obj => report_mem master⟩

theorem taken_of_target (cloud : Cloud) (mem : PointMem)
    (targeted : target devs report = .ok (.point place dev cfg)) :
    ∃ taking mem', taking.cloud = cloud ∧ taking.report = report ∧
      MonitorStep devs mem taking mem' ∧
      ∃ forwarded evs, taking.handled = .taken place report.value forwarded evs := by
  let received := (mem place).receive report.value
  let evs := monitorEvs cloud dev place.2 cfg report received.2
  refine ⟨⟨cloud, report, .taken place report.value received.2 evs⟩, update mem place received.1,
    rfl, rfl, ?_, received.2, evs, rfl⟩
  simp [MonitorStep, handleReport, targeted, received, evs, bind, Except.bind, pure, Except.pure]

/-- In every run each report that was taken reached the cloud, with the data point and the
value of its point, exactly when the gateway is active, the device bound and the point not one
of the four withheld. The next report of a recognised point is taken, too. -/
theorem cloud_gets_all_but_withheld (devs : List MonitorDev) {trace : List Taking}
    (run : Run.Reaches (MonitorStep devs) (fun _ => PointState.init) trace mem) :
    (∀ taking ∈ trace, taking.CloudExactly devs) ∧
    ∀ cloud report place dev cfg, target devs report = .ok (.point place dev cfg) →
      ∃ taking mem', MonitorStep devs mem taking mem' ∧ taking.cloud = cloud ∧
        taking.report = report ∧ taking.CloudExactly devs ∧
        ∃ forwarded evs, taking.handled = .taken place report.value forwarded evs := by
  constructor
  · refine Run.trace_invariant (fun trace _ => ∀ taking ∈ trace, taking.CloudExactly devs)
      (by simp) ?_ run
    intro trace mem taking mem' earlier stepped taking' member
    rcases List.mem_append.mp member with before | last
    · exact earlier taking' before
    · rw [List.mem_singleton.mp last]
      exact stepped.cloudExactly
  · intro cloud report place dev cfg targeted
    obtain ⟨taking, mem', rfl, rfl, stepped, taken⟩ := taken_of_target cloud mem targeted
    exact ⟨taking, mem', stepped, rfl, rfl, stepped.cloudExactly, taken⟩

/-- An air conditioner with all its points. -/
def sampleAir : MonitorDev where
  element := mbusElement "aabbccddeeff".toList "7".toList
  primaryType := .airCondition
  points
    | .pSwitch => some ⟨.acdSwitch, 1, 0⟩
    | .pSpeed => some ⟨.acdSpeed, 5, 3⟩
    | .pMode => some ⟨.acdMode, 4, 3⟩
    | .pTemp => some ⟨.acdTemp, 2, 1⟩
    | .pEnvTemp => some ⟨.acdEnvTemp, 3, 1⟩
    | .pErrorCode => some ⟨.acdErrorCode, 20, 2⟩
    | _ => none

/-- A point of the air conditioner is reported while the gateway is active and the device bound. -/
def airTaking (slot : Slot) (localPoint : PointFeature) (value : UInt32) (evs : List MonitorEv) :
    Taking where
  cloud := ⟨true, fun _ => true⟩
  report := ⟨sampleAir.element.pPrimaryKey, localPoint, value⟩
  handled := .taken (0, slot) value true evs

def airMem (slot : Slot) (value : UInt32) : PointMem :=
  update (fun _ => PointState.init) (0, slot) ⟨value, value, 0⟩

/-- The first ambient temperature differs from what came before and stays in the gateway. -/
theorem envTemp_withheld :
    Run.Reaches (MonitorStep [sampleAir]) (fun _ => PointState.init)
      [airTaking .pEnvTemp .acdEnvTemp 26 [.hbFresh sampleAir.element.pPrimaryKey]]
      (airMem .pEnvTemp 26) ∧
    PointState.init.valueOld ≠ 26 ∧
    ∀ key obj, MonitorEv.report key obj ∉ [.hbFresh sampleAir.element.pPrimaryKey] := by
  have stepped : MonitorStep [sampleAir] (fun _ => PointState.init)
      (airTaking .pEnvTemp .acdEnvTemp 26 [.hbFresh sampleAir.element.pPrimaryKey])
      (airMem .pEnvTemp 26) := rfl
  refine ⟨.step .start stepped, by decide, ?_⟩
  intro key obj
  simp

/-- The set temperature reaches the cloud. -/
theorem setTemp_reported :
    Run.Reaches (MonitorStep [sampleAir]) (fun _ => PointState.init)
      [airTaking .pTemp .acdTemp 26 [.report sampleAir.element.pPrimaryKey ⟨2, 1, .number 26⟩,
        .hbFresh sampleAir.element.pPrimaryKey]] (airMem .pTemp 26) ∧
    (airTaking .pTemp .acdTemp 26 [.report sampleAir.element.pPrimaryKey ⟨2, 1, .number 26⟩,
        .hbFresh sampleAir.element.pPrimaryKey]).CloudExactly [sampleAir] := by
  have stepped : MonitorStep [sampleAir] (fun _ => PointState.init)
      (airTaking .pTemp .acdTemp 26 [.report sampleAir.element.pPrimaryKey ⟨2, 1, .number 26⟩,
        .hbFresh sampleAir.element.pPrimaryKey]) (airMem .pTemp 26) := rfl
  have run := Run.Reaches.step .start stepped
  exact ⟨run, (cloud_gets_all_but_withheld [sampleAir] run).1 _ (by simp)⟩

/-- Every point that is not there stands behind one with the feature, where the comparison has
ended. -/
def Covered (points : Slot → Option PointCfg) (localPoint : PointFeature) (slots : List Slot) :
    Prop :=
  ∀ before slot after, slots = before ++ slot :: after → points slot = none →
    ∃ earlier ∈ before, ∃ cfg, points earlier = some cfg ∧ cfg.localPoint = localPoint

theorem findPoint_ok_iff (points : Slot → Option PointCfg) (localPoint : PointFeature)
    (slots : List Slot) :
    (∃ found, findPoint points localPoint slots = .ok found) ↔
      Covered points localPoint slots := by
  induction slots with
  | nil => simp [findPoint, Covered, pure, Except.pure]
  | cons first rest ih =>
    cases present : points first with
    | none =>
      simp only [findPoint, present, reduceCtorEq, exists_false, false_iff]
      intro covered
      obtain ⟨earlier, member, -⟩ := covered [] first rest rfl present
      simp at member
    | some cfg =>
      by_cases hit : localPoint = cfg.localPoint
      · simp only [findPoint, present, if_pos hit, pure, Except.pure, Except.ok.injEq, exists_eq',
          true_iff]
        intro before slot after split absent
        cases before with
        | nil =>
          cases split
          rw [present] at absent
          contradiction
        | cons head before =>
          cases split
          exact ⟨first, by simp, cfg, present, hit.symm⟩
      · simp only [findPoint, present, if_neg hit]
        rw [ih]
        constructor
        · intro covered before slot after split absent
          cases before with
          | nil =>
            cases split
            rw [present] at absent
            contradiction
          | cons head before =>
            cases split
            obtain ⟨earlier, member, found⟩ := covered before slot after rfl absent
            exact ⟨earlier, by simp [member], found⟩
        · intro covered before slot after split absent
          obtain ⟨earlier, member, cfg', there, feature⟩ :=
            covered (first :: before) slot after (by rw [split]; rfl) absent
          rcases List.mem_cons.mp member with rfl | member
          · cases Option.some.inj (present.symm.trans there)
            exact absurd feature.symm hit
          · exact ⟨earlier, member, cfg', there, feature⟩

/-- What the XML parser fills in for a configured key. -/
def Configured (mac : Text) (dev : MonitorDev) : Prop :=
  ∃ item, dev.element.pPrimaryKey = primaryKey mac item ∧
    dev.element.devId = parseDevId (primaryKey mac item)

/-- A report that the loop gets past. -/
structure Passable (devs : List MonitorDev) (report : Report) : Prop where
  /-- The number behind the MAC fits a `long`. -/
  numbered : ∀ n, strtol (report.pPrimaryKey.drop macLength) = some n → n.mag < 2 ^ 31
  /-- The device the monitor takes the report for has all the points it compares. -/
  points : ∀ dev, devs.find? (·.element.devId == parseDevId report.pPrimaryKey) = some dev →
    dev.element.bMaster = true → Covered dev.points report.localPoint dev.primaryType.slots

theorem passable_iff : Passable devs report ↔
    (∀ n, strtol (report.pPrimaryKey.drop macLength) = some n → n.mag < 2 ^ 31) ∧
    ∀ dev, devs.find? (·.element.devId == parseDevId report.pPrimaryKey) = some dev →
      dev.element.bMaster = true →
        Covered dev.points report.localPoint dev.primaryType.slots :=
  ⟨fun ⟨numbered, points⟩ => ⟨numbered, points⟩, fun ⟨numbered, points⟩ => ⟨numbered, points⟩⟩

theorem find_zipIdx {p : α → Bool} (xs : List α) :
    (xs.zipIdx.find? (p ·.1)).map Prod.fst = xs.find? p := by
  calc (xs.zipIdx.find? (p ·.1)).map Prod.fst = (xs.zipIdx.map Prod.fst).find? p := by
        rw [List.find?_map]
        rfl
    _ = xs.find? p := by rw [List.zipIdx_map_fst]

theorem primaryKey_length {mac : Text} (size : mac.length = macLength) (item : Text) :
    macLength ≤ (primaryKey mac item).length := by
  simp only [primaryKey, List.length_take, List.length_append, List.length_cons, size, macLength]
  omega

/-- Whether the search of the points is left regularly decides whether the loop goes on. -/
theorem target_ok_iff {mac : Text} (size : mac.length = macLength) (item : Text)
    (key : report.pPrimaryKey = primaryKey mac item) :
    (∃ found, target devs report = .ok found ∧ ¬ found matches .leaves) ↔
      Passable devs report := by
  have long : ¬ report.pPrimaryKey.length < macLength := by
    rw [key]
    exact Nat.not_lt.mpr (primaryKey_length size item)
  have read := primaryKey_number size item
  rw [← key] at read
  have numbered : (∀ n, strtol (report.pPrimaryKey.drop macLength) = some n → n.mag < 2 ^ 31) ↔
      suffixId report.pPrimaryKey = some (parseDevId report.pPrimaryKey) := by
    unfold suffixId parseDevId
    simp [read, Number.erange]
  have search := find_zipIdx (p := (·.element.devId == parseDevId report.pPrimaryKey)) devs
  rw [passable_iff, numbered]
  unfold target
  rw [if_neg long, ← search]
  cases suffix : suffixId report.pPrimaryKey with
  | none => simp [pure, Except.pure]
  | some devId =>
    cases suffixId_eq suffix
    simp only [true_and]
    cases devs.zipIdx.find? (·.1.element.devId == parseDevId report.pPrimaryKey) with
    | none => simp [pure, Except.pure]
    | some pair =>
      obtain ⟨dev, i⟩ := pair
      cases master : dev.element.bMaster with
      | false => simp [master, pure, Except.pure]
      | true =>
        simp only [Option.map_some, Option.some.injEq, forall_eq', master, forall_const,
          ← findPoint_ok_iff, Bool.not_true, Bool.false_eq_true, if_false]
        cases findPoint dev.points report.localPoint dev.primaryType.slots with
        | error fault => simp [bind, Except.bind]
        | ok hit => cases hit <;> simp [bind, Except.bind, pure, Except.pure]

theorem step_iff {mac : Text} (size : mac.length = macLength) (item : Text)
    (key : report.pPrimaryKey = primaryKey mac item) (cloud : Cloud) (mem : PointMem) :
    (∃ handled mem', MonitorStep devs mem ⟨cloud, report, handled⟩ mem') ↔
      Passable devs report := by
  rw [← target_ok_iff size item key]
  simp only [MonitorStep, handleReport, bind_eq_ok]
  constructor
  · rintro ⟨handled, mem', found, targeted, stepped⟩
    refine ⟨found, targeted, ?_⟩
    cases found with
    | leaves => simp at stepped
    | skipped | point place dev cfg => simp
  · rintro ⟨found, targeted, stays⟩
    cases found with
    | leaves => simp at stays
    | skipped => exact ⟨_, _, .skipped, targeted, rfl⟩
    | point place dev cfg => exact ⟨_, _, .point place dev cfg, targeted, rfl⟩

/-- What comes in at a step. -/
def Taking.input (taking : Taking) : Cloud × Report := (taking.cloud, taking.report)

/-- The monitor takes all these reports, one after the other, and waits for the next. -/
def Processes (devs : List MonitorDev) (queued : List (Cloud × Report)) : Prop :=
  ∃ trace mem, trace.map Taking.input = queued ∧
    Run.Reaches (MonitorStep devs) (fun _ => PointState.init) trace mem

section

variable {mac : Text} {queued : List (Cloud × Report)}
  (key : ∀ input ∈ queued, ∃ item, input.2.pPrimaryKey = primaryKey mac item)

include key

theorem passable_of_processes (size : mac.length = macLength) (processes : Processes devs queued) :
    ∀ input ∈ queued, Passable devs input.2 := by
  obtain ⟨trace, mem, rfl, run⟩ := processes
  induction run with
  | start => simp
  | step run stepped ih =>
    rename_i trace mem taking mem'
    intro input member
    simp only [List.map_append, List.map_cons, List.map_nil, List.mem_append,
      List.mem_singleton] at member key
    rcases member with before | rfl
    · exact ih (fun input before => key input (.inl before)) input before
    · obtain ⟨item, key⟩ := key _ (.inr rfl)
      exact (step_iff size item key taking.cloud mem).mp ⟨taking.handled, mem', stepped⟩

theorem processes_of_passable (size : mac.length = macLength)
    (passable : ∀ input ∈ queued, Passable devs input.2) : Processes devs queued := by
  induction queued using List.reverseRecOn with
  | nil => exact ⟨[], _, rfl, .start⟩
  | append_singleton earlier input ih =>
    simp only [List.mem_append, List.mem_singleton] at passable key
    obtain ⟨trace, mem, rfl, run⟩ := ih (fun input before => key input (.inl before))
      (fun input before => passable input (.inl before))
    obtain ⟨item, key⟩ := key input (.inr rfl)
    obtain ⟨handled, mem', stepped⟩ :=
      (step_iff size item key input.1 mem).mpr (passable input (.inr rfl))
    exact ⟨trace ++ [⟨input.1, input.2, handled⟩], mem', by simp [Taking.input],
      .step run stepped⟩

end

/-- The reports of configured devices are all processed exactly when the number of each device fits
a `long` and the device has every point it is compared with. -/
theorem processes_iff {mac : Text} (size : mac.length = macLength) (devs : List MonitorDev)
    (configured : ∀ dev ∈ devs, Configured mac dev) (queued : List (Cloud × Report))
    (own : ∀ input ∈ queued, ∃ dev ∈ devs, input.2.pPrimaryKey = dev.element.pPrimaryKey) :
    Processes devs queued ↔ ∀ input ∈ queued, Passable devs input.2 := by
  have key : ∀ input ∈ queued, ∃ item, input.2.pPrimaryKey = primaryKey mac item := by
    intro input member
    obtain ⟨dev, listed, same⟩ := own input member
    obtain ⟨item, key, -⟩ := configured dev listed
    exact ⟨item, same.trans key⟩
  exact ⟨passable_of_processes key size, processes_of_passable key size⟩

/-- An air conditioner whose speed is not configured. -/
def plainAir : MonitorDev :=
  { sampleAir with points := fun slot => if slot = .pSpeed then none else sampleAir.points slot }

def offline : Cloud := ⟨false, fun _ => false⟩

def airReport (localPoint : PointFeature) : Cloud × Report :=
  (offline, ⟨sampleAir.element.pPrimaryKey, localPoint, 1⟩)

theorem plainAir_configured : Configured "aabbccddeeff".toList plainAir := ⟨"7".toList, rfl, rfl⟩

/-- Its switch is reported and taken. -/
theorem switch_processed : Processes [plainAir] [airReport .acdSwitch, airReport .acdSwitch] := by
  have size : "aabbccddeeff".toList.length = macLength := by decide
  refine (processes_iff size [plainAir] (by simpa using plainAir_configured) _ ?_).mpr ?_
  · intro input member
    exact ⟨plainAir, by simp, by simp_all [airReport, plainAir]⟩
  · intro input member
    obtain rfl : input = airReport .acdSwitch := by simpa using member
    constructor
    · intro n read
      cases Option.some.inj ((show _ = some (Number.mk false 27) from rfl).symm.trans read)
      decide
    · intro dev found _
      cases Option.some.inj ((show _ = some plainAir from rfl).symm.trans found)
      exact (findPoint_ok_iff _ _ _).mp ⟨some (.pSwitch, ⟨.acdSwitch, 1, 0⟩), rfl⟩

/-- Its mode stops the monitor, and with it what is reported after. -/
theorem mode_stops_monitor : Configured "aabbccddeeff".toList plainAir ∧
    handleReport [plainAir] offline (fun _ => PointState.init) (airReport .acdMode).2 =
      .error .nullPointer ∧
    ¬ Processes [plainAir] [airReport .acdMode, airReport .acdSwitch] := by
  refine ⟨plainAir_configured, rfl, ?_⟩
  intro processes
  have key : ∀ input ∈ [airReport .acdMode, airReport .acdSwitch],
      ∃ item, input.2.pPrimaryKey = primaryKey "aabbccddeeff".toList item := by
    intro input member
    simp only [List.mem_cons, List.not_mem_nil, or_false] at member
    rcases member with rfl | rfl <;> exact ⟨"7".toList, rfl⟩
  have passable := passable_of_processes key (by decide) processes _ List.mem_cons_self
  obtain ⟨found, searched⟩ := (findPoint_ok_iff _ _ _).mpr (passable.points plainAir rfl rfl)
  cases searched

end HiMaxGateway.Modbus
