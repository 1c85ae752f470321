import HiMaxGateway.Modbus.Monitor
import HiMaxGateway.Plugin.AcdZhongHong
import HiMaxGateway.Plugin.Curtain
import HiMaxGateway.Plugin.Heat
import HiMaxGateway.Plugin.Isolation
import HiMaxGateway.Plugin.Room
import HiMaxGateway.Plugin.Vent

/-! From the plugins to the monitor. A plugin and the branch of the monitor for its class
of devices are compiled apart; what they share are the numbers of the points. -/
namespace HiMaxGateway.Modbus
open CRun Plugin

inductive MbusPlugin where
  | cached (plugin : CachedPlugin)
  | acdZhongHong
  | aqiOhosure
  | curtainAok
  | curtainBinThen
  | curtainChangming
  | curtainDooya
  | curtainHeChuang
  | floorHeatingTowwire
  | heatHoneywell
  | humidifierSptc
  | panelOhosure
  | purifier
  | ventBroanDTouch
  | ventBroanErdh45
  | ventBroanNoah
  | ventDaikin
  | ventDpurat
  | ventilationBroan
  | ventilationTuoLi
  deriving DecidableEq, Repr

/-- The class of the devices a plugin is for. -/
def MbusPlugin.primaryType : MbusPlugin → PrimaryType
  | .cached .acdDaikin | .cached .acdTg | .acdZhongHong => .airCondition
  | .aqiOhosure => .aqi
  | .curtainAok | .curtainBinThen | .curtainChangming | .curtainDooya | .curtainHeChuang => .curtain
  | .floorHeatingTowwire | .heatHoneywell => .floorHeating
  | .humidifierSptc => .humidifier
  | .panelOhosure => .pannel
  | .purifier => .purifier
  | .cached .ventBroan | .cached .ventBroanErdh | .ventBroanDTouch | .ventBroanErdh45
  | .ventBroanNoah | .ventDaikin | .ventDpurat | .ventilationBroan
  | .ventilationTuoLi => .ventilation

/-- What a plugin keeps from call to call. -/
def MbusPlugin.Memory : MbusPlugin → Type
  | .cached plugin => plugin.machine.Cell → plugin.machine.Value
  | _ => Unit

/-- `parse`, or `parseExt`, which takes the whole address and no device. -/
def MbusPlugin.parse (addr : Addr) (points : Bool) (buf : List UInt8) :
    (plugin : MbusPlugin) → plugin.Memory → Parsed
  | .cached plugin, cells => do
      let (objs, _) ← cachedParse plugin.machine addr points cells buf
      pure objs
  | .acdZhongHong, _ => ZhongHong.parse addr.devId buf
  | .aqiOhosure, _ => AqiOhosure.parse addr.devId buf
  | .curtainAok, _ => Aok.parse addr.devAddr buf
  | .curtainBinThen, _ => BinThen.modbusDevReport buf
  | .curtainChangming, _ => Changming.parseExt addr.devAddr buf
  | .curtainDooya, _ => Dooya.parseExt addr.devAddr buf
  | .curtainHeChuang, _ => HeChuang.parseExt addr.devAddr buf
  | .floorHeatingTowwire, _ => Towwire.parse addr.devId buf
  | .heatHoneywell, _ => Honeywell.parse addr.devId buf
  | .humidifierSptc, _ => Humidifier.parse addr.devId buf
  | .panelOhosure, _ => PanelOhosure.parse addr.devId buf
  | .purifier, _ => Purifier.parse addr.devId buf
  | .ventBroanDTouch, _ => DTouch.parse addr.devId points buf
  | .ventBroanErdh45, _ => Erdh45.parse addr.devId points buf
  | .ventBroanNoah, _ => Noah.parse points buf
  | .ventDaikin, _ => VentDaikin.parse addr.devId addr.regAddr buf
  | .ventDpurat, _ => Dpurat.parse addr.devId buf
  | .ventilationBroan, _ => VentilationBroan.parse addr.devId buf
  | .ventilationTuoLi, _ => TuoLi.parse addr.devId buf

/-- What the XML parser configures a compared point with. -/
def PrimaryType.feature : PrimaryType → Slot → PointFeature
  | .airCondition, .pSwitch => .acdSwitch
  | .airCondition, .pSpeed => .acdSpeed
  | .airCondition, .pMode => .acdMode
  | .airCondition, .pTemp => .acdTemp
  | .airCondition, .pEnvTemp => .acdEnvTemp
  | .airCondition, .pErrorCode => .acdErrorCode
  | .ventilation, .pSwitch => .ventSwitch
  | .ventilation, .pSpeed => .ventSpeed
  | .floorHeating, .pSwitch => .heatSwitch
  | .floorHeating, .pTemp => .heatTemp
  | .floorHeating, .pEnvTemp => .heatEnvTemp
  | .aqi, .pHumi => .aqiHumi
  | .aqi, .pTemp => .aqiTemp
  | .aqi, .pPM25 => .aqiPm25
  | .aqi, .pCO2 => .aqiCo2
  | .humidifier, .pHumidity => .humidifierHumiditySet
  | .humidifier, .pSwitch => .humidifierSwitch
  | .purifier, .pFlow => .purifierFlow
  | .purifier, .pTDS => .purifierTds
  | .purifier, .pFilterTime => .purifierPpFilterTime
  | .purifier, .pReset => .purifierReset
  | .curtain, .pSwitch => .curtainSwitch
  | .pannel, .pSwitch => .panelSwitch
  | _, _ => .unknown

def PrimaryType.features (primaryType : PrimaryType) : List PointFeature :=
  primaryType.slots.map primaryType.feature

/-- Every point that the monitor compares is configured. -/
def FullyConfigured (dev : MonitorDev) : Prop :=
  ∀ slot ∈ dev.primaryType.slots, ∃ cfg, dev.points slot = some cfg ∧
    cfg.localPoint = dev.primaryType.feature slot

/-- The monitor has a point of the device for the value. -/
def Recognised (dev : MonitorDev) (localPoint : PointFeature) : Prop :=
  ∃ slot cfg, findPoint dev.points localPoint dev.primaryType.slots = .ok (some (slot, cfg))

/-- No value of a reply is dropped, and no two go to one point. -/
def Delivered (dev : MonitorDev) (objs : List ParsedObj) : Prop :=
  (∀ obj ∈ objs, Recognised dev obj.localPoint) ∧ (localPoints objs).Nodup

def Named (primaryType : PrimaryType) (points : List PointFeature) : Prop :=
  (∀ point ∈ points, point ∈ primaryType.features) ∧ points.Nodup

instance (primaryType : PrimaryType) (points : List PointFeature) :
    Decidable (Named primaryType points) :=
  inferInstanceAs (Decidable (_ ∧ _))

theorem findPoint_isSome {points : Slot → Option PointCfg} {feature : Slot → PointFeature}
    (slots : List Slot)
    (full : ∀ slot ∈ slots, ∃ cfg, points slot = some cfg ∧ cfg.localPoint = feature slot) :
    (∃ slot cfg, findPoint points localPoint slots = .ok (some (slot, cfg))) ↔
      localPoint ∈ slots.map feature := by
  induction slots with
  | nil => simp [findPoint]
  | cons first rest ih =>
    obtain ⟨cfg, present, named⟩ := full first (by simp)
    by_cases hit : localPoint = cfg.localPoint
    · simp [findPoint, present, hit, named, pure, Except.pure]
    · have later := ih fun slot member => full slot (by simp [member])
      have other : localPoint ≠ feature first := named ▸ hit
      simp only [findPoint, present, if_neg hit, later, List.map_cons, List.mem_cons, other,
        false_or]

theorem delivered_iff {dev : MonitorDev} (full : FullyConfigured dev) (objs : List ParsedObj) :
    Delivered dev objs ↔ Named dev.primaryType (localPoints objs) := by
  have recognised (localPoint : PointFeature) :
      Recognised dev localPoint ↔ localPoint ∈ dev.primaryType.features :=
    findPoint_isSome dev.primaryType.slots full
  simp [Delivered, Named, recognised, localPoints]

/-- The replies without an object that the monitor has no point for. -/
def MbusPlugin.Known (addr : Addr) (buf : List UInt8) : MbusPlugin → Prop
  -- The seventh object of an answer to a read is left empty.
  | .cached .acdDaikin =>
      (frameAt buf (findFrame addr.devId Daikin.readCode Daikin.writeCode 8 8 buf))[1]? =
        some Daikin.writeCode
  | .cached .ventBroan =>
      Broan.Complete (frameAt buf (findFrame addr.devId Broan.readCode Broan.writeCode 7 7 buf))
  | .curtainChangming | .curtainHeChuang =>
      KnownKind (frameAt buf (findKey ((addr.devAddr <<< 8) ||| addr.devAddr) 6 buf))
  | .curtainDooya => KnownKind (frameAt buf (findKey addr.devAddr 7 buf))
  | .ventDaikin =>
      VentDaikin.WritesFirst
        (frameAt buf (findFrame addr.devId VentDaikin.readCode VentDaikin.writeCode 7 7 buf))
  | .purifier => buf[2]? = some Purifier.readCode ∨ Purifier.Cleared buf
  -- Points of another class, or points that the branch of the class does not compare.
  | .aqiOhosure | .cached .ventBroanErdh | .ventBroanDTouch | .ventBroanErdh45
  | .ventilationBroan => False
  | .cached .acdTg | .acdZhongHong | .curtainAok | .curtainBinThen | .floorHeatingTowwire
  | .heatHoneywell | .humidifierSptc | .panelOhosure | .ventBroanNoah | .ventDpurat
  | .ventilationTuoLi => True

theorem unknown_not_named (primaryType : PrimaryType) (empty : .unknown ∈ points) :
    ¬ Named primaryType points := by
  intro named
  have listed := named.1 _ empty
  cases primaryType <;> exact absurd listed (by decide)

theorem named_of_eq {run : Parsed} (decided : Named primaryType points ↔ verdict)
    (gives : Gives (fun objs => localPoints objs = points) run) :
    Gives (fun objs => Named primaryType (localPoints objs) ↔ verdict) run :=
  gives_mono (fun _ same => by rw [same]; exact decided) gives

theorem always_named {run : Parsed} (named : Named primaryType points)
    (gives : Gives (fun objs => localPoints objs = points) run) :
    Gives (fun objs => Named primaryType (localPoints objs) ↔ True) run :=
  named_of_eq (iff_of_true named trivial) gives

theorem never_named {run : Parsed} (other : ¬ Named primaryType points)
    (gives : Gives (fun objs => localPoints objs = points) run) :
    Gives (fun objs => Named primaryType (localPoints objs) ↔ False) run :=
  named_of_eq (iff_of_false other id) gives

theorem named_of_mem {run : Parsed} {lists : List (List PointFeature)}
    (each : ∀ points ∈ lists, Named primaryType points)
    (gives : Gives (fun objs => localPoints objs ∈ lists) run) :
    Gives (fun objs => Named primaryType (localPoints objs) ↔ True) run :=
  gives_mono (fun _ member => iff_true_intro (each _ member)) gives

/-- What a plugin with a cache gives rests on the action of the call alone. -/
theorem cachedParse_gives {m : Sharing.Machine (Addr × Request) Reply}
    (acts : Ends (fun act => ∀ cells objs, (m.act cells act).1 = .objs (some objs) → P objs)
      (m.decode (addr, .parse points buf)))
    (cells : m.Cell → m.Value) :
    Gives P (do
      let (objs, _) ← cachedParse m addr points cells buf
      pure objs) := by
  refine .bind fun out parsed => .pure ?_
  intro objs given
  simp only [cachedParse, Sharing.Machine.call, bind_eq_ok, pure_eq_ok] at parsed
  obtain ⟨called, ⟨act, decoded, rfl⟩, replied⟩ := parsed
  cases reply : (m.act cells act).1 with
  | frame frame =>
    simp only [reply, pure_eq_ok] at replied
    subst replied
    simp at given
  | objs found =>
    simp only [reply, pure_eq_ok] at replied
    subst replied
    simp only [Option.mem_def] at given
    exact acts act decoded cells objs (by rw [reply, given])

theorem kindPoints_named (frame : List UInt8) :
    Named .curtain (kindPoints frame) ↔ KnownKind frame := by
  by_cases known : KnownKind frame
  · simp only [kindPoints, known, iff_true]
    decide
  · simp only [kindPoints, known, iff_false]
    decide

theorem daikin_named (frame : List UInt8)
    (given : frame[1]? = some Daikin.readCode ∧ points = [.acdSwitch, .acdTemp, .acdMode, .acdSpeed,
        .acdEnvTemp, .acdErrorCode, .unknown] ∨
      frame[1]? = some Daikin.writeCode ∧
        points ∈ [[.acdSwitch, .acdSpeed], [.acdMode], [.acdTemp]]) :
    Named .airCondition points ↔ frame[1]? = some Daikin.writeCode := by
  rcases given with ⟨read, rfl⟩ | ⟨written, listed⟩
  · rw [read]
    decide
  · have each : ∀ points ∈ [[PointFeature.acdSwitch, .acdSpeed], [.acdMode], [.acdTemp]],
        Named .airCondition points := by decide
    exact iff_of_true (each points listed) written

theorem parse_named (plugin : MbusPlugin) (mem : plugin.Memory) (addr : Addr) (points : Bool)
    (buf : List UInt8) :
    Gives (fun objs => Named plugin.primaryType (localPoints objs) ↔ plugin.Known addr buf)
      (plugin.parse addr points buf mem) := by
  cases plugin with
  | cached plugin =>
    cases plugin with
    | ventBroan =>
      refine cachedParse_gives ((Broan.parse_points addr.devId points buf).mono ?_) mem
      intro act given cells objs replied
      rcases given cells objs replied with ⟨complete, same⟩ | ⟨incomplete, empty⟩
      · rw [same]
        exact iff_of_true (by decide) complete
      · exact iff_of_false (unknown_not_named _ empty) incomplete
    | ventBroanErdh =>
      refine cachedParse_gives ((BroanErdh.parse_points addr.devId points buf).mono ?_) mem
      intro act given cells objs replied
      rw [given cells objs replied]
      exact iff_of_false (by decide) id
    | acdDaikin =>
      refine cachedParse_gives ((Daikin.parse_points addr.devId addr.regAddr buf).mono ?_) mem
      intro act given cells objs replied
      exact daikin_named _ (given cells objs replied)
    | acdTg =>
      refine cachedParse_gives ((Tg.parse_points addr.devId addr.regAddr buf).mono ?_) mem
      intro act given cells objs replied
      rw [given cells objs replied]
      exact iff_of_true (by decide) trivial
  | acdZhongHong => exact named_of_mem (by decide) (ZhongHong.parse_points addr.devId buf)
  | aqiOhosure => exact never_named (by decide) (AqiOhosure.parse_points addr.devId buf)
  | curtainAok => exact always_named (by decide) (Aok.parse_points addr.devAddr buf)
  | curtainBinThen => exact always_named (by decide) (BinThen.modbusDevReport_points buf)
  | curtainChangming | curtainHeChuang =>
    exact named_of_eq (kindPoints_named _) (motorParse_points addr.devAddr buf)
  | curtainDooya => exact named_of_eq (kindPoints_named _) (Dooya.parseExt_points addr.devAddr buf)
  | floorHeatingTowwire => exact named_of_mem (by decide) (Towwire.parse_points addr.devId buf)
  | heatHoneywell => exact named_of_mem (by decide) (Honeywell.parse_points addr.devId buf)
  | humidifierSptc => exact named_of_mem (by decide) (Humidifier.parse_points addr.devId buf)
  | panelOhosure => exact always_named (by decide) (PanelOhosure.parse_points addr.devId buf)
  | purifier =>
    refine gives_mono (fun objs given => ?_) (Purifier.parse_points addr.devId buf)
    rcases given with ⟨read, same⟩ | ⟨cleared, same⟩ | ⟨reset, failed, same⟩
    · rw [same]
      exact iff_of_true (by decide) (.inl read)
    · rw [same]
      exact iff_of_true (by decide) (.inr cleared)
    · rw [same]
      refine iff_of_false (by decide) ?_
      rintro (read | cleared)
      · exact absurd (reset.symm.trans read) (by decide)
      · exact failed cleared
  | ventBroanDTouch => exact never_named (by decide) (DTouch.parse_points addr.devId points buf)
  | ventBroanErdh45 => exact never_named (by decide) (Erdh45.parse_points addr.devId points buf)
  | ventBroanNoah => exact always_named (by decide) (Noah.parse_points points buf)
  | ventDaikin =>
    refine gives_mono (fun objs given => ?_) (VentDaikin.parse_points addr.devId addr.regAddr buf)
    rcases given with ⟨first, same⟩ | ⟨other, listed⟩
    · rw [same]
      exact iff_of_true (by decide) first
    · have each : ∀ points ∈ [[PointFeature.ventSwitch, .ventSpeed, .ventWindDir],
          [.unknown, .unknown]], ¬ Named .ventilation points := by decide
      exact iff_of_false (each _ listed) other
  | ventDpurat => exact named_of_mem (by decide) (Dpurat.parse_points addr.devId buf)
  | ventilationBroan => exact never_named (by decide) (VentilationBroan.parse_points addr.devId buf)
  | ventilationTuoLi => exact always_named (by decide) (TuoLi.parse_points addr.devId buf)

/-- A reply that a plugin accepts gets to a device with all its points, each value to a point of
its own, exactly when it is one of the known replies of the plugin. -/
theorem reply_delivered_iff (plugin : MbusPlugin) (mem : plugin.Memory) (addr : Addr)
    (points : Bool) (buf : List UInt8) (objs : List ParsedObj)
    (accepted : plugin.parse addr points buf mem = .ok (some objs)) (dev : MonitorDev)
    (served : dev.primaryType = plugin.primaryType) (full : FullyConfigured dev) :
    Delivered dev objs ↔ plugin.Known addr buf := by
  rw [delivered_iff full, served]
  exact parse_named plugin mem addr points buf _ accepted objs rfl

/-- A device of a class with all its points. -/
def completeDev (primaryType : PrimaryType) : MonitorDev :=
  { element := ⟨"plant room".toList, "aabbccddeeff31".toList, 31, true, .actuator⟩
    primaryType
    points := fun slot => some ⟨primaryType.feature slot, 0, 1⟩ }

theorem completeDev_full (primaryType : PrimaryType) : FullyConfigured (completeDev primaryType) :=
  fun _ _ => ⟨_, rfl, rfl⟩

/-- A reply of the air sensor, with its temperature, humidity, PM2.5 and CO2. -/
def airReply : List UInt8 :=
  [0x01, 0x42, 0x12, 0x00, 0x01, 0x00, 0x01, 0x00, 0x01, 0x00, 0x01, 0x00, 0x35, 0x00, 0x2B, 0x00,
    0x60, 0x00, 0x02, 0x01, 0x92, 0x06, 0xD7]

/-- The answer of a ventilation that is switched off. -/
def offReply : List UInt8 := withCrc [0x01, 0x03, 0x04, 0x00, 0x00, 0x00, 0x00]

def runningReply : List UInt8 := withCrc [0x01, 0x03, 0x04, 0x00, 0x01, 0x00, 0x02]

/-- Nothing of the air sensor is recognised, and two of its values have one point; a ventilation
that is off reports an object without a point. -/
theorem reply_points_dropped :
    (∃ objs, MbusPlugin.parse deviceA true airReply .aqiOhosure () = .ok (some objs) ∧
      FullyConfigured (completeDev .aqi) ∧ objs.length = 4 ∧
      (∀ obj ∈ objs, ¬ Recognised (completeDev .aqi) obj.localPoint) ∧
      ¬ (localPoints objs).Nodup) ∧
    ∃ objs, MbusPlugin.parse deviceA true offReply (.cached .ventBroan) Broan.machine.init =
        .ok (some objs) ∧
      FullyConfigured (completeDev .ventilation) ∧ ¬ Delivered (completeDev .ventilation) objs := by
  have dropped (primaryType : PrimaryType) (localPoint : PointFeature)
      (foreign : localPoint ∉ primaryType.features) :
      ¬ Recognised (completeDev primaryType) localPoint :=
    mt (findPoint_isSome _ (completeDev_full primaryType)).mp foreign
  constructor
  · refine ⟨AqiOhosure.objs 28 43 96 402, by decide +kernel, completeDev_full _, rfl, ?_, by decide⟩
    intro obj member
    apply dropped
    revert obj
    decide
  · refine ⟨[⟨.ventSwitch, 0, 0⟩, {}], by decide +kernel, completeDev_full _, ?_⟩
    intro delivered
    exact dropped .ventilation .unknown (by decide) (delivered.1 {} (by simp))

/-- A ventilation that runs. -/
theorem running_reply_delivered : ∃ objs,
    MbusPlugin.parse deviceA true runningReply (.cached .ventBroan) Broan.machine.init =
      .ok (some objs) ∧ Delivered (completeDev .ventilation) objs := by
  have accepted :
    MbusPlugin.parse deviceA true runningReply (.cached .ventBroan) Broan.machine.init =
      .ok (some [⟨.ventSwitch, 1, 1⟩, ⟨.ventSpeed, 2, 2⟩]) := by decide +kernel
  refine ⟨_, accepted, ?_⟩
  rw [reply_delivered_iff (.cached .ventBroan) _ deviceA true runningReply _ accepted
    (completeDev .ventilation) rfl (completeDev_full _)]
  exact .inl (by decide +kernel)

end HiMaxGateway.Modbus
