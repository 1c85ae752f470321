import HiMaxGateway.Modbus.Confirm
import HiMaxGateway.Modbus.Points
import HiMaxGateway.Plugin.BinThen

/-! A command for a data point that the `switch` of a plugin's `build` does not have. Some
plugins drop the message there; the others log an error and leave the `switch` with the message
they began, which `ModbusDevWrite` sends. -/
namespace HiMaxGateway.Modbus
open CRun Chain Plugin

/-- The static variables that go into a message. -/
structure Statics where
  daikin : Daikin.Cache := fun _ => 0
  tg : Tg.Cache := fun _ => 0
  broan : Broan.Point → UInt32 := fun _ => 0
  broanErdh : BroanErdh.Point → UInt32 := fun _ => 0
  ventDaikin : VentDaikin.Cache := fun _ _ => 0
  humidifier : UInt8 := 0

/-- A call of `build` or `buildExt`, but for the command. `points` is as in a `Request`. -/
structure BuildCall where
  plugin : MbusPlugin
  statics : Statics := {}
  addr : Addr
  groupAddr : UInt16
  points : Option Bool

def frameOf : Reply → Option (List UInt8)
  | .frame frame => frame
  | .objs _ => none

/-- `buildExt` takes the whole address. -/
def BuildCall.build (call : BuildCall) (obj : DpObj) : Result (Option (List UInt8)) :=
  let devAddr := call.addr.devAddr
  let devId := call.addr.devId
  let regAddr := call.addr.regAddr
  match call.plugin with
  | .cached .acdDaikin => do
      let act ← Daikin.build devId regAddr call.groupAddr (some obj)
      pure (frameOf (act.run call.statics.daikin).1)
  | .cached .acdTg => do
      let act ← Tg.build devId regAddr call.groupAddr (some obj)
      pure (frameOf (act.run call.statics.tg).1)
  | .cached .ventBroan =>
      pure (frameOf ((Broan.build devId call.points (some obj)).run call.statics.broan).1)
  | .cached .ventBroanErdh =>
      pure (frameOf ((BroanErdh.build devId call.points (some obj)).run call.statics.broanErdh).1)
  | .acdZhongHong => pure (some (ZhongHong.build devId regAddr (some obj)))
  | .aqiOhosure => pure (AqiOhosure.build (some obj))
  | .curtainAok => pure (some (Aok.build devAddr (some obj)))
  | .curtainBinThen => pure (some (BinThen.modbusDevControl devId (some obj)))
  | .curtainChangming => pure (some (Changming.buildExt devAddr (some obj)))
  | .curtainDooya => pure (some (Dooya.buildExt devAddr (some obj)))
  | .curtainHeChuang => pure (some (HeChuang.buildExt devAddr (some obj)))
  | .floorHeatingTowwire => pure (Towwire.build devId regAddr (some obj))
  | .heatHoneywell => pure (some (Honeywell.build devId (some obj)))
  | .humidifierSptc => pure (Humidifier.build call.statics.humidifier devId (some obj)).1
  | .panelOhosure => pure (some (PanelOhosure.build devId (some obj)))
  | .purifier => Purifier.build devId (some obj)
  | .ventBroanDTouch => pure (DTouch.build devId call.points (some obj))
  | .ventBroanErdh45 => pure (Erdh45.build devId call.points (some obj))
  | .ventBroanNoah => pure (Noah.build devId call.points (some obj))
  | .ventDaikin => do
      pure (some (← VentDaikin.build call.statics.ventDaikin devId regAddr call.groupAddr
        (some obj)))
  | .ventDpurat => pure (some (Dpurat.build devId (some obj)))
  | .ventilationBroan => pure (VentilationBroan.build devId (some obj))
  | .ventilationTuoLi => pure (some (TuoLi.build devId (some obj)))

/-- The data points of a plugin's `switch`. The sensor has none, and the package of the BinThen
curtain is made from the value alone. -/
def MbusPlugin.table : MbusPlugin → Option (List UInt8)
  | .cached .acdDaikin | .cached .acdTg | .acdZhongHong => some [1, 2, 4, 5]
  | .aqiOhosure | .curtainBinThen => none
  | .curtainAok | .floorHeatingTowwire | .heatHoneywell => some [1, 2]
  | .curtainChangming | .curtainHeChuang => some [1, 101]
  | .curtainDooya | .panelOhosure => some [1]
  | .humidifierSptc => some [101, 102]
  | .purifier => some [104]
  | .cached .ventBroan | .ventBroanDTouch | .ventBroanNoah => some [39, 28, 101]
  | .cached .ventBroanErdh | .ventBroanErdh45 => some [8, 22, 28, 39, 101]
  | .ventDaikin | .ventilationBroan => some [39, 28]
  | .ventDpurat | .ventilationTuoLi => some [39, 101]

def BuildCall.Unsupported (call : BuildCall) (obj : DpObj) : Prop :=
  ∃ table, call.plugin.table = some table ∧ obj.dpid ∉ table

/-- The message is freed where the `switch` does not have the data point. -/
def MbusPlugin.dropsUnsupported : MbusPlugin → Bool
  | .floorHeatingTowwire | .humidifierSptc | .purifier | .ventilationBroan => true
  | _ => false

/-- `build` returns early without `pSwitch` or `pSpeed`. -/
def MbusPlugin.needsPoints : MbusPlugin → Bool
  | .cached .ventBroan | .cached .ventBroanErdh | .ventBroanDTouch | .ventBroanErdh45
  | .ventBroanNoah => true
  | _ => false

def BuildCall.Refuses (call : BuildCall) : Prop :=
  call.plugin.dropsUnsupported = true ∨
    call.plugin.needsPoints = true ∧ call.points ≠ some true

/-- The message of a `switch` that is left without a case, when the points are there. Neither the
data point nor the value is in it. The plugins that drop it, and those without a table, have
none. -/
def BuildCall.started (call : BuildCall) : Result (Option (List UInt8)) :=
  let devAddr := call.addr.devAddr
  let devId := call.addr.devId
  match call.plugin with
  | .cached .acdDaikin | .heatHoneywell | .panelOhosure | .ventBroanDTouch | .ventDaikin
  | .ventDpurat => pure (some (withCrc [devId, 6, 0, 0, 0, 0]))
  | .cached .acdTg => do
      let group ← Tg.row call.groupAddr
      pure (some (withCrc ([devId, 6] ++ htons (Tg.regBase + 2 * call.addr.regAddr) ++
        [call.statics.tg (Tg.high group), call.statics.tg (Tg.low group)])))
  | .cached .ventBroan => pure (some (withCrc ([devId, 0x10] ++ List.replicate 9 0)))
  | .cached .ventBroanErdh | .ventBroanErdh45 =>
      pure (some (withCrc [devId, 0x11, 0, 0, 0, 4, 0, 0, 0, 0]))
  | .acdZhongHong => pure (some (ZhongHong.withCs [devId, 0, 0, 0, 0, 0]))
  | .curtainAok => pure (some (Aok.withBcc [0x9A, devId, 0x80, 0, 0, 0]))
  | .curtainChangming => pure (some (withCrc [0xAA, devId, devId, 0, 0, 0]))
  | .curtainHeChuang => pure (some (withCrc [0x55, devId, devId, 0, 0, 0]))
  | .curtainDooya => pure (some (withCrc ([0x55] ++ htons devAddr ++ [3, 0])))
  | .ventBroanNoah =>
      pure (some (ZhongHong.withCs ([0xAA, 0x5A, devId, 1, 0, 0, 0, 0, 0, 0])))
  | .ventilationTuoLi => pure (some (withCrc [devId, 0x10, 0, 0, 0, 0, 0, 0]))
  | .aqiOhosure | .curtainBinThen | .floorHeatingTowwire | .humidifierSptc | .purifier
  | .ventilationBroan => pure none

variable {call : BuildCall} {obj : DpObj}

theorem unsupported_iff (has : call.plugin.table = some table) :
    call.Unsupported obj ↔ obj.dpid ∉ table := by
  simp [BuildCall.Unsupported, has]

theorem build_dropped (drops : call.plugin.dropsUnsupported = true)
    (outside : call.Unsupported obj) : call.build obj = .ok none := by
  obtain ⟨plugin, statics, addr, groupAddr, points⟩ := call
  cases plugin with
  | floorHeatingTowwire =>
    have outside : obj.dpid ∉ [1, 2] := (unsupported_iff rfl).mp outside
    simp_all [BuildCall.build, Towwire.build]
  | humidifierSptc =>
    have outside : obj.dpid ∉ [101, 102] := (unsupported_iff rfl).mp outside
    simp_all [BuildCall.build, Humidifier.build]
  | purifier =>
    have outside : obj.dpid ∉ [104] := (unsupported_iff rfl).mp outside
    simp_all [BuildCall.build, Purifier.build]
  | ventilationBroan =>
    have outside : obj.dpid ∉ [39, 28] := (unsupported_iff rfl).mp outside
    simp_all [BuildCall.build, VentilationBroan.build, VentilationBroan.command]
  | _ => contradiction

theorem build_pointless (needs : call.plugin.needsPoints = true)
    (missing : call.points ≠ some true) :
    call.build obj = .ok none := by
  obtain ⟨plugin, statics, addr, groupAddr, points⟩ := call
  have early : points = none ∨ points = some false := by
    rcases points with - | - | - <;> simp_all
  cases plugin with
  | cached plugin => cases plugin <;> first | contradiction | rcases early with rfl | rfl <;> rfl
  | ventBroanDTouch | ventBroanErdh45 | ventBroanNoah => rcases early with rfl | rfl <;> rfl
  | _ => contradiction

/-- The register is written as it was. -/
theorem command_outside (outside : obj.dpid ∉ [1, 2, 4, 5]) (b4 b5 : UInt8) :
    Tg.command obj b4 b5 = (b4, b5) := by
  simp only [List.mem_cons, List.not_mem_nil, or_false, not_or] at outside
  obtain ⟨switch, temp, mode, speed⟩ := outside
  rw [Tg.command, if_neg switch, if_neg temp, if_neg mode, if_neg speed]

theorem build_started_ready (needs : call.plugin.needsPoints = true)
    (ready : call.points = some true) (outside : call.Unsupported obj) :
    call.build obj = call.started := by
  obtain ⟨plugin, statics, addr, groupAddr, points⟩ := call
  cases ready
  cases plugin with
  | cached plugin =>
    cases plugin with
    | ventBroan =>
      have outside : obj.dpid ∉ [39, 28, 101] := (unsupported_iff rfl).mp outside
      simp_all [BuildCall.build, BuildCall.started, Broan.build, Broan.Act.run, Broan.writeCode,
        frameOf]
    | ventBroanErdh =>
      have outside : obj.dpid ∉ [8, 22, 28, 39, 101] := (unsupported_iff rfl).mp outside
      simp_all [BuildCall.build, BuildCall.started, BroanErdh.build, BroanErdh.Act.run,
        BroanErdh.writeCode, frameOf]
      rfl
    | acdDaikin | acdTg => contradiction
  | ventBroanDTouch =>
    have outside : obj.dpid ∉ [39, 28, 101] := (unsupported_iff rfl).mp outside
    simp_all [BuildCall.build, BuildCall.started, DTouch.build, DTouch.request, DTouch.writeCode]
  | ventBroanErdh45 =>
    have outside : obj.dpid ∉ [8, 22, 28, 39, 101] := (unsupported_iff rfl).mp outside
    simp_all [BuildCall.build, BuildCall.started, Erdh45.build, Erdh45.command, Erdh45.writeCode]
    rfl
  | ventBroanNoah =>
    have outside : obj.dpid ∉ [39, 28, 101] := (unsupported_iff rfl).mp outside
    simp_all [BuildCall.build, BuildCall.started, Noah.build, Noah.command]
  | _ => contradiction

theorem build_started_kept (keeps : call.plugin.dropsUnsupported = false)
    (free : call.plugin.needsPoints = false) (outside : call.Unsupported obj) :
    call.build obj = call.started := by
  obtain ⟨plugin, statics, addr, groupAddr, points⟩ := call
  cases plugin with
  | cached plugin =>
    cases plugin with
    | acdDaikin =>
      have outside : obj.dpid ∉ [1, 2, 4, 5] := (unsupported_iff rfl).mp outside
      simp_all [BuildCall.build, BuildCall.started, Daikin.build, Daikin.Act.run, Daikin.writeCode,
        frameOf]
    | acdTg =>
      have outside : obj.dpid ∉ [1, 2, 4, 5] := (unsupported_iff rfl).mp outside
      simp only [BuildCall.build, BuildCall.started, Tg.build, bind_assoc, pure_bind, Tg.Act.run,
        frameOf, command_outside outside, Tg.writeCode]
    | ventBroan | ventBroanErdh => contradiction
  | acdZhongHong =>
    have outside : obj.dpid ∉ [1, 2, 4, 5] := (unsupported_iff rfl).mp outside
    simp_all [BuildCall.build, BuildCall.started, ZhongHong.build]
  | curtainAok =>
    have outside : obj.dpid ∉ [1, 2] := (unsupported_iff rfl).mp outside
    simp_all [BuildCall.build, BuildCall.started, Aok.build, Aok.command]
    rfl
  | curtainChangming =>
    have outside : obj.dpid ∉ [1, 101] := (unsupported_iff rfl).mp outside
    simp_all [BuildCall.build, BuildCall.started, Changming.buildExt, motorBuild, Changming.header,
      Addr.devId]
  | curtainDooya =>
    have outside : obj.dpid ∉ [1] := (unsupported_iff rfl).mp outside
    simp_all [BuildCall.build, BuildCall.started, Dooya.buildExt]
  | curtainHeChuang =>
    have outside : obj.dpid ∉ [1, 101] := (unsupported_iff rfl).mp outside
    simp_all [BuildCall.build, BuildCall.started, HeChuang.buildExt, motorBuild, HeChuang.header,
      Addr.devId]
  | heatHoneywell =>
    have outside : obj.dpid ∉ [1, 2] := (unsupported_iff rfl).mp outside
    simp_all [BuildCall.build, BuildCall.started, Honeywell.build, Honeywell.writeCode]
  | panelOhosure =>
    have outside : obj.dpid ∉ [1] := (unsupported_iff rfl).mp outside
    simp_all [BuildCall.build, BuildCall.started, PanelOhosure.build, PanelOhosure.writeCode]
  | ventDaikin =>
    have outside : obj.dpid ∉ [39, 28] := (unsupported_iff rfl).mp outside
    simp_all [BuildCall.build, BuildCall.started, VentDaikin.build, VentDaikin.writeCode]
  | ventDpurat =>
    have outside : obj.dpid ∉ [39, 101] := (unsupported_iff rfl).mp outside
    simp_all [BuildCall.build, BuildCall.started, Dpurat.build, Dpurat.writeCode]
  | ventilationTuoLi =>
    have outside : obj.dpid ∉ [39, 101] := (unsupported_iff rfl).mp outside
    simp_all [BuildCall.build, BuildCall.started, TuoLi.build, TuoLi.command, TuoLi.writeCode]
  | aqiOhosure | curtainBinThen =>
    obtain ⟨table, has, -⟩ := outside
    contradiction
  | _ => contradiction

theorem build_started (accepts : ¬ call.Refuses) (outside : call.Unsupported obj) :
    call.build obj = call.started := by
  obtain ⟨keeps, points⟩ := not_or.mp accepts
  rw [Bool.not_eq_true] at keeps
  cases needs : call.plugin.needsPoints with
  | true =>
    have ready : call.points = some true := by
      by_contra missing
      exact points ⟨needs, missing⟩
    exact build_started_ready needs ready outside
  | false => exact build_started_kept keeps needs outside

theorem started_some (accepts : ¬ call.Refuses) (outside : call.Unsupported obj) :
    call.started ≠ .ok none := by
  obtain ⟨plugin, statics, addr, groupAddr, points⟩ := call
  cases plugin with
  | cached plugin =>
    cases plugin with
    | acdTg =>
      intro none
      obtain ⟨group, -, none⟩ := bind_eq_ok.mp none
      cases none
    | _ => rintro ⟨⟩
  | aqiOhosure | curtainBinThen =>
    obtain ⟨table, has, -⟩ := outside
    contradiction
  | floorHeatingTowwire | humidifierSptc | purifier | ventilationBroan =>
    exact absurd (.inl rfl) accepts
  | _ => rintro ⟨⟩

theorem build_none_iff (outside : call.Unsupported obj) :
    call.build obj = .ok none ↔ call.Refuses := by
  constructor
  · intro none
    by_contra accepts
    rw [build_started accepts outside] at none
    exact started_some accepts outside none
  · rintro (drops | ⟨needs, missing⟩)
    · exact build_dropped drops outside
    · exact build_pointless needs missing

/-- Nothing is sent, to whatever device. -/
def Silent (evs : List Ev) : Prop := ∀ via dev done, Ev.send via dev done ∉ evs

theorem Silent.append (first : Silent one) (second : Silent two) : Silent (one ++ two) := by
  intro via dev done sent
  rcases List.mem_append.mp sent with sent | sent
  · exact first via dev done sent
  · exact second via dev done sent

theorem Quiet.silent (quiet : Quiet evs) : Silent evs := fun _ _ _ => quiet.unsent

section

variable {devs : Nat → MbusDev}

theorem unframed_refused (opens : Opens devs dev answers) (unframed : answers.built ≠ .frame) :
    Refused devs dev answers := by
  refine ⟨opens, ?_⟩
  rw [msg]
  cases (devs dev).build with
  | true => exact unframed
  | false => rintro ⟨⟩

theorem writeMembers_silent (serial : (devs owner).pSerial = true)
    (unframed : ∀ n, (answers n).built ≠ .frame)
    (done : writeMembers devs pNext owner answers fuel n next = some (ret, evs)) : Silent evs := by
  induction fuel generalizing n next ret evs with
  | zero => contradiction
  | succ fuel ih =>
    cases next with
    | none =>
      cases done
      exact fun _ _ _ => List.not_mem_nil
    | some base =>
      by_cases ready : MemberReady devs base (answers n)
      · by_cases opens : Opens devs base (answers n)
        · rw [writeMembers_refused serial ready (unframed_refused opens (unframed n))] at done
          cases done
          exact quiet_serialOpen.silent
        · rw [writeMembers_passed serial ready (fun refused => opens refused.1)] at done
          simp only [Option.map_eq_some_iff, Prod.mk.injEq] at done
          obtain ⟨⟨ret', rest⟩, looped, -, rfl⟩ := done
          rw [memberTurn, if_neg (mt serialOpen_zero.mp opens), List.append_nil]
          exact quiet_serialOpen.silent.append (ih looped)
      · rw [writeMembers_null serial ready] at done
        contradiction

theorem modbusDevWrite_silent (own : answers.built ≠ .frame)
    (others : ∀ n, (members n).built ≠ .frame)
    (done : modbusDevWrite devs pNext bActive dev answers members fuel = some (ret, evs)) :
    Silent evs := by
  rw [modbusDevWrite] at done
  by_cases usable : Usable devs dev
  · by_cases opens : Opens devs dev answers
    · rw [writeOwner_unframed usable opens own] at done
      cases done
      exact (quiet_serialOpen.append quiet_serialClose).silent
    · -- The group is still gone through.
      rw [writeOwner_closed usable opens] at done
      simp only [Option.map_eq_some_iff, Prod.mk.injEq] at done
      obtain ⟨⟨ret', rest⟩, looped, -, rfl⟩ := done
      have echoed : Silent (echo devs bActive dev) := fun _ _ _ => echo_unsent
      exact (quiet_serialOpen.silent.append echoed).append
        (writeMembers_silent usable.2.2 others looped)
  · rw [writeOwner_unusable usable] at done
    cases done
    exact fun _ _ _ => List.not_mem_nil

end

/-- What `ModbusDevWrite` sees of a message. -/
def Built.of : Option (List UInt8) → Built
  | none => .null
  | some [] => .zeroLength
  | some (_ :: _) => .frame

/-- The plugin was called for this device. -/
def BuildCall.Answered (call : BuildCall) (obj : DpObj) (answers : Answers) : Prop :=
  ∃ msg, call.build obj = .ok msg ∧ answers.built = Built.of msg

/-- No call gives a frame, and nothing is sent. The first call is for the device the command
names, the others are for the members of its group. -/
structure Unanswered (calls : Nat → BuildCall) (obj : DpObj) : Prop where
  noFrame : ∀ n, (calls n).build obj = .ok none
  silent : ∀ devs pNext bActive id (answers : Nat → Answers) fuel ret evs,
    (∀ n, (calls n).Answered obj (answers n)) →
    modbusDevWrite devs pNext bActive id (answers 0) (fun n => answers (n + 1)) fuel =
      some (ret, evs) →
    Silent evs

theorem unanswered_of_none {calls : Nat → BuildCall} (none : ∀ n, (calls n).build obj = .ok none) :
    Unanswered calls obj := by
  refine ⟨none, ?_⟩
  intro devs pNext bActive id answers fuel ret evs answered done
  have unframed (n : Nat) : (answers n).built ≠ .frame := by
    obtain ⟨msg, built, seen⟩ := answered n
    rw [none n] at built
    cases built
    rw [seen]
    rintro ⟨⟩
  exact modbusDevWrite_silent (unframed 0) (fun n => unframed (n + 1)) done

theorem unanswered_iff (calls : Nat → BuildCall) (obj : DpObj)
    (outside : ∀ n, (calls n).Unsupported obj) :
    Unanswered calls obj ↔ ∀ n, (calls n).Refuses := by
  constructor
  · intro unanswered n
    exact (build_none_iff (outside n)).mp (unanswered.noFrame n)
  · intro refuses
    exact unanswered_of_none fun n => (build_none_iff (outside n)).mpr (refuses n)

/-- A device at address 1, with a register in the cache of TG_A21MC. -/
def firstDevice (plugin : MbusPlugin) : BuildCall where
  plugin := plugin
  statics := { tg := fun cell => if cell.2 then 0x34 else 0x12 }
  addr := ⟨1, 0⟩
  groupAddr := 0
  points := some true

theorem unanswered_towwire :
    (∀ _ : Nat, (firstDevice .floorHeatingTowwire).Unsupported ⟨3, 1⟩) ∧
      Unanswered (fun _ => firstDevice .floorHeatingTowwire) ⟨3, 1⟩ := by
  have outside : (firstDevice .floorHeatingTowwire).Unsupported ⟨3, 1⟩ := ⟨[1, 2], rfl, by decide⟩
  exact ⟨fun _ => outside, (unanswered_iff _ _ fun _ => outside).mpr fun _ => .inl rfl⟩

theorem honeywell_unsupported_sent :
    (firstDevice .heatHoneywell).Unsupported ⟨3, 1⟩ ∧
      (firstDevice .heatHoneywell).build ⟨3, 1⟩ = .ok (some [1, 6, 0, 0, 0, 0, 0x89, 0xCA]) ∧
      (firstDevice .heatHoneywell).Answered ⟨3, 1⟩ {} ∧
      (∃ evs, modbusDevWrite (fun _ => { port := 0 }) (fun _ => none) false 0 {} (fun _ => {}) 1 =
        some (0, evs) ∧ Ev.send 0 0 true ∈ evs) ∧
      ¬ Unanswered (fun _ => firstDevice .heatHoneywell) ⟨3, 1⟩ ∧
      (firstDevice (.cached .acdTg)).Unsupported ⟨3, 1⟩ ∧
      (firstDevice (.cached .acdTg)).build ⟨3, 1⟩ =
        .ok (some [1, 6, 0, 0x64, 0x12, 0x34, 0xC5, 0x62]) := by
  have stray : (firstDevice .heatHoneywell).build ⟨3, 1⟩ =
      .ok (some [1, 6, 0, 0, 0, 0, 0x89, 0xCA]) := by decide +kernel
  refine ⟨⟨[1, 2], rfl, by decide⟩, stray, ⟨_, stray, rfl⟩, ⟨_, rfl, by decide⟩, ?_,
    ⟨[1, 2, 4, 5], rfl, by decide⟩, by decide +kernel⟩
  intro unanswered
  cases stray.symm.trans (unanswered.noFrame 0)

end HiMaxGateway.Modbus
