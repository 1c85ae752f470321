import HiMaxGateway.DiScan
import HiMaxGateway.Lib.Hysteresis
import HiMaxGateway.Xml.CellKeys

/-! What `di_scan` makes of the samples of a contact. -/
namespace HiMaxGateway.DiScan
open CText CRun Xml

/-- The sample speaks for a level, and the counter is at its end. -/
def DiDev.Ready (dev : DiDev) : DiLevel → Prop
  | .low => levelCode dev.body.eLevel = dev.value ∧ dev.retryNum ≤ dev.retryCnt ∧
      dev.retryNum * 2 ≤ dev.retryCnt
  | .high => levelCode dev.body.eLevel ≠ dev.value ∧ dev.retryCnt ≤ dev.retryNum ∧ dev.retryCnt = 0

/-- A turn commits the level that is ready, or else moves the counter. -/
theorem debounce_cases (dev : DiDev) (bActive : Bool) :
    (∃ level, dev.Ready level ∧ dev.debounce bActive = dev.commit bActive level) ∨
      ((∀ level, ¬dev.Ready level) ∧
      ∃ cnt, dev.debounce bActive = ({ dev with retryCnt := cnt }, [])) := by
  unfold DiDev.debounce
  by_cases equal : levelCode dev.body.eLevel = dev.value
  · rw [if_pos equal]
    have refuses : ¬dev.Ready .high := fun ready => ready.1 equal
    by_cases low : dev.retryCnt < dev.retryNum
    · rw [if_pos low]
      refine .inr ⟨fun level ready => ?_, _, rfl⟩
      cases level with
      | low => exact absurd ready.2.1 (by omega)
      | high => exact refuses ready
    · rw [if_neg low]
      by_cases inside : dev.retryCnt < dev.retryNum * 2
      · rw [if_pos inside]
        refine .inr ⟨fun level ready => ?_, _, rfl⟩
        cases level with
        | low => exact absurd ready.2.2 (by omega)
        | high => exact refuses ready
      · rw [if_neg inside]
        exact .inl ⟨.low, ⟨equal, by omega, by omega⟩, rfl⟩
  · rw [if_neg equal]
    have refuses : ¬dev.Ready .low := fun ready => equal ready.1
    by_cases high : dev.retryCnt > dev.retryNum
    · rw [if_pos high]
      refine .inr ⟨fun level ready => ?_, _, rfl⟩
      cases level with
      | low => exact refuses ready
      | high => exact absurd ready.2.1 (by omega)
    · rw [if_neg high]
      by_cases inside : dev.retryCnt ≠ 0
      · rw [if_pos inside]
        refine .inr ⟨fun level ready => ?_, _, rfl⟩
        cases level with
        | low => exact refuses ready
        | high => exact absurd ready.2.2 inside
      · rw [if_neg inside]
        exact .inl ⟨.high, ⟨equal, by omega, by omega⟩, rfl⟩

theorem ready_unique {dev : DiDev} (one : dev.Ready level) (two : dev.Ready other) :
    level = other := by
  cases level <;> cases other
  · rfl
  · exact absurd one.1 two.1
  · exact absurd two.1 one.1
  · rfl

/-- The number is in range. -/
def Reading.valid (reading : Reading) : Bool := !outOfRange reading.buf

/-- The sample is the trigger level. -/
def DiDev.equals (dev : DiDev) (reading : Reading) : Bool :=
  levelCode dev.body.eLevel = (number reading.buf % 2 ^ 8).toNat

/-- A sample that speaks for a status: the trigger level for a low one, another for a high one. -/
def DiDev.Speaks (dev : DiDev) (level : DiLevel) (reading : Reading) : Prop :=
  dev.equals reading = true ↔ level = .low

instance (dev : DiDev) (level : DiLevel) (reading : Reading) :
    Decidable (dev.Speaks level reading) :=
  inferInstanceAs (Decidable (_ ↔ _))

/-- A channel follows its contact, and not its bounces. Samples out of range do not count. -/
structure DiDev.Debounced (dev : DiDev) : Prop where
  bounded : ∀ readings,
    0 ≤ (dev.samples readings).retryCnt ∧ (dev.samples readings).retryCnt ≤ 2 * dev.retryNum
  late : ∀ readings reading old new, (dev.samples readings).status = some old →
    (dev.samples (readings ++ [reading])).status = some new → old ≠ new →
      reading.valid = true ∧ ∃ earlier recent,
        (readings ++ [reading]).filter Reading.valid = earlier ++ recent ∧
          dev.retryNum + 1 ≤ recent.length ∧ ∀ r ∈ recent, dev.Speaks new r
  settles : ∀ readings more level, 2 * dev.retryNum + 2 ≤ (more.filter Reading.valid).length →
    (∀ r ∈ more, r.valid = true → dev.Speaks level r) →
      (dev.samples (readings ++ more)).status = some level

/-- The counter of a channel; the trigger level is `true`. -/
def DiDev.counter (dev : DiDev) : Hysteresis.State where
  count := dev.retryCnt
  level := dev.status.map (· == .low)

/-- What the counter is fed with. -/
def DiDev.signal (dev : DiDev) (readings : List Reading) : List Bool :=
  (readings.filter Reading.valid).map dev.equals

/-- What a turn leaves. -/
structure DiDev.Kept (dev after : DiDev) : Prop where
  element : after.element = dev.element
  body : after.body = dev.body
  retryNum : after.retryNum = dev.retryNum

theorem commit_kept (dev : DiDev) (bActive : Bool) (level : DiLevel) :
    dev.Kept (dev.commit bActive level).1 := by
  unfold DiDev.commit
  split <;> exact ⟨rfl, rfl, rfl⟩

theorem commit_counter (dev : DiDev) (bActive : Bool) (level : DiLevel) :
    (dev.commit bActive level).1.counter = { dev.counter with level := some (level == .low) } := by
  unfold DiDev.commit
  split
  · rfl
  · rename_i same
    rw [not_not] at same
    simp only [DiDev.counter, same, Option.map_some]

theorem debounce_kept (dev : DiDev) (bActive : Bool) : dev.Kept (dev.debounce bActive).1 := by
  rcases debounce_cases dev bActive with ⟨level, -, commits⟩ | ⟨-, cnt, counts⟩
  · rw [commits]
    exact commit_kept dev bActive level
  · rw [counts]
    exact ⟨rfl, rfl, rfl⟩

theorem debounce_counter (dev : DiDev) (bActive : Bool) :
    (dev.debounce bActive).1.counter =
      Hysteresis.step dev.retryNum dev.counter (levelCode dev.body.eLevel = dev.value) := by
  have count : dev.counter.count = dev.retryCnt := rfl
  unfold DiDev.debounce
  by_cases equal : levelCode dev.body.eLevel = dev.value
  · rw [if_pos equal, decide_eq_true equal, Hysteresis.step, count]
    by_cases low : dev.retryCnt < dev.retryNum
    · rw [if_pos low, if_pos low]
      rfl
    · rw [if_neg low, if_neg low]
      by_cases inside : dev.retryCnt < dev.retryNum * 2
      · rw [if_pos inside, if_pos inside]
        rfl
      · rw [if_neg inside, if_neg inside]
        exact commit_counter dev bActive .low
  · rw [if_neg equal, decide_eq_false equal, Hysteresis.step, count]
    by_cases high : dev.retryCnt > dev.retryNum
    · rw [if_pos high, if_pos high]
      rfl
    · rw [if_neg high, if_neg high]
      by_cases inside : dev.retryCnt ≠ 0
      · rw [if_pos inside, if_pos inside]
        rfl
      · rw [if_neg inside, if_neg inside]
        exact commit_counter dev bActive .high

theorem sample_kept (dev : DiDev) (reading : Reading) : dev.Kept (dev.sample reading).1 := by
  unfold DiDev.sample
  dsimp only
  split
  · exact ⟨rfl, rfl, rfl⟩
  · obtain ⟨element, body, retryNum⟩ :=
      debounce_kept { dev with value := (number reading.buf % 2 ^ 8).toNat } reading.bActive
    exact ⟨element, body, retryNum⟩

theorem sample_counter (dev : DiDev) (reading : Reading) :
    (dev.sample reading).1.counter =
      Hysteresis.run dev.retryNum dev.counter (dev.signal [reading]) := by
  unfold DiDev.sample DiDev.signal
  by_cases range : outOfRange reading.buf = true
  · simp only [range, if_true, List.filter_cons, Reading.valid, Bool.not_true, Bool.false_eq_true,
      if_false]
    rfl
  · simp only [range, Bool.false_eq_true, if_false, List.filter_cons, Reading.valid, Bool.not_false,
      if_true]
    exact debounce_counter _ reading.bActive

theorem signal_append (dev : DiDev) (readings more : List Reading) :
    dev.signal (readings ++ more) = dev.signal readings ++ dev.signal more := by
  rw [DiDev.signal, List.filter_append, List.map_append]
  rfl

theorem sample_signal (dev : DiDev) (reading : Reading) :
    (dev.sample reading).1.signal = dev.signal := by
  funext readings
  have equals : (dev.sample reading).1.equals = dev.equals := by
    funext r
    rw [DiDev.equals, DiDev.equals, (sample_kept dev reading).body]
  rw [DiDev.signal, DiDev.signal, equals]

/-- The channel is such a counter. -/
theorem samples_counter (dev : DiDev) (readings : List Reading) :
    (dev.samples readings).counter =
      Hysteresis.run dev.retryNum dev.counter (dev.signal readings) := by
  induction readings generalizing dev with
  | nil => rfl
  | cons reading readings ih =>
    calc (dev.samples (reading :: readings)).counter
        = Hysteresis.run (dev.sample reading).1.retryNum (dev.sample reading).1.counter
            ((dev.sample reading).1.signal readings) := ih (dev.sample reading).1
      _ = Hysteresis.run dev.retryNum
            (Hysteresis.run dev.retryNum dev.counter (dev.signal [reading]))
                (dev.signal readings) := by
          rw [(sample_kept dev reading).retryNum, sample_counter, sample_signal]
      _ = Hysteresis.run dev.retryNum dev.counter (dev.signal (reading :: readings)) := by
          rw [← Hysteresis.run_append, ← signal_append, List.singleton_append]

/-- What the counter says about a new channel says the same about its samples. -/
theorem counter_follows {dev : DiDev} (nonneg : 0 ≤ dev.retryNum) (cnt : dev.retryCnt = 0)
    (status : dev.status = none) (readings : List Reading) :
    Hysteresis.Follows dev.retryNum (dev.samples readings).counter
      (dev.signal readings).reverse := by
  have start : dev.counter = { count := 0, level := none } := by
    simp only [DiDev.counter, cnt, status, Option.map_none]
  have follows :=
    Hysteresis.follows_run nonneg (start ▸ Hysteresis.follows_start nonneg) (dev.signal readings)
  rw [List.append_nil] at follows
  rw [samples_counter]
  exact follows

theorem samples_append (dev : DiDev) (readings more : List Reading) :
    (dev.samples (readings ++ more)).counter =
      Hysteresis.run dev.retryNum (dev.samples readings).counter (dev.signal more) := by
  rw [samples_counter, samples_counter, signal_append, Hysteresis.run_append]

theorem equals_iff_speaks {dev : DiDev} {level : DiLevel} {reading : Reading} :
    dev.equals reading = (level == .low) ↔ dev.Speaks level reading := by
  cases level with
  | low => simp [DiDev.Speaks]
  | high =>
    have other : (DiLevel.high == DiLevel.low) = false := rfl
    simp [DiDev.Speaks, other]

theorem counter_level {dev : DiDev} {level : DiLevel} :
    dev.counter.level = some (level == .low) ↔ dev.status = some level := by
  cases status : dev.status with
  | none => simp [DiDev.counter, status]
  | some old => cases old <;> cases level <;> simp [DiDev.counter, status]

section

variable {dev : DiDev} (nonneg : 0 ≤ dev.retryNum) (cnt : dev.retryCnt = 0)
  (status : dev.status = none)

include nonneg cnt status

theorem retryCnt_bounded (readings : List Reading) :
    0 ≤ (dev.samples readings).retryCnt ∧ (dev.samples readings).retryCnt ≤ 2 * dev.retryNum := by
  have follows := counter_follows nonneg cnt status readings
  have upper := follows.upper
  exact ⟨follows.lower, by rw [Int.mul_comm]; exact upper⟩

theorem status_turns_late {readings : List Reading} {reading : Reading} {old new : DiLevel}
    (before : (dev.samples readings).status = some old)
    (after : (dev.samples (readings ++ [reading])).status = some new) (turns : old ≠ new) :
    reading.valid = true ∧ ∃ earlier recent,
      (readings ++ [reading]).filter Reading.valid = earlier ++ recent ∧
        dev.retryNum + 1 ≤ recent.length ∧ ∀ r ∈ recent, dev.Speaks new r := by
  have follows := counter_follows nonneg cnt status readings
  have level := counter_level.mpr after
  rw [samples_append] at level
  by_cases valid : reading.valid = true
  · have signal : dev.signal [reading] = [dev.equals reading] := by simp [DiDev.signal, valid]
    rw [signal] at level
    have apart : (old == DiLevel.low) ≠ (new == DiLevel.low) := by
      cases old <;> cases new <;> simp_all
    obtain ⟨-, long⟩ := Hysteresis.turns_late follows _ (counter_level.mpr before) level apart
    have newest : dev.equals reading :: (dev.signal readings).reverse =
        (dev.signal (readings ++ [reading])).reverse := by
      rw [signal_append, signal, List.reverse_append, List.reverse_singleton, List.singleton_append]
    obtain ⟨earlier, recent, split, length, equal⟩ :=
      Hysteresis.streak_reverse (new == .low) (dev.signal (readings ++ [reading]))
    obtain ⟨older, latest, parts, -, rfl⟩ := List.map_eq_append_iff.mp split
    refine ⟨valid, older, latest, parts, ?_, fun r member => ?_⟩
    · rw [List.length_map] at length
      rw [newest] at long
      omega
    · exact equals_iff_speaks.mp (equal _ (List.mem_map_of_mem member))
  · -- A sample out of range leaves the status.
    have signal : dev.signal [reading] = [] := by simp [DiDev.signal, valid]
    rw [signal] at level
    have same := before.symm.trans (counter_level.mp level)
    exact absurd (Option.some.inj same) turns

theorem status_settles {readings more : List Reading} {level : DiLevel}
    (enough : 2 * dev.retryNum + 2 ≤ (more.filter Reading.valid).length)
    (agree : ∀ r ∈ more, r.valid = true → dev.Speaks level r) :
    (dev.samples (readings ++ more)).status = some level := by
  have follows := counter_follows nonneg cnt status readings
  apply counter_level.mp
  rw [samples_append]
  apply Hysteresis.run_settles nonneg follows
  · intro v member
    obtain ⟨r, inside, rfl⟩ := List.mem_map.mp member
    obtain ⟨inside, valid⟩ := List.mem_filter.mp inside
    exact equals_iff_speaks.mpr (agree r inside valid)
  · have bound := Hysteresis.need_le nonneg follows.lower (level == .low)
    rw [DiDev.signal, List.length_map]
    omega

end

/-- Every channel that begins without a status is debounced, whatever its number of retries. -/
theorem channel_debounced (dev : DiDev) (nonneg : 0 ≤ dev.retryNum) (cnt : dev.retryCnt = 0)
    (status : dev.status = none) : dev.Debounced where
  bounded := retryCnt_bounded nonneg cnt status
  late _ _ _ _ := status_turns_late nonneg cnt status
  settles _ _ _ := status_settles nonneg cnt status

/-- With the values of `ParseDiCfg`. -/
theorem new_channel_debounced : ({} : DiDev).retryNum = 3 ∧ ({} : DiDev).Debounced :=
  ⟨rfl, channel_debounced {} (by decide) rfl rfl⟩

/-- A channel with its cloud. -/
structure Channel where
  dev : DiDev
  bActive : Bool := false
  /-- The last value that a report delivered. -/
  cloud : Option DiLevel := none

inductive Event where
  /-- `_gw_online_status_changed_cb`, which reports nothing of a contact. -/
  | online (online : Bool)
  /-- A turn of `di_scan`, and whether a report succeeds. -/
  | turn (buf : Text) (success : Bool)

def Channel.step (c : Channel) : Event → Channel
  | .online online => { c with bActive := online }
  | .turn buf success =>
      let (dev, reports) := c.dev.sample ⟨buf, c.bActive⟩
      { c with
        dev := dev
        cloud := if success then (reports.getLast?.map DiReport.value).or c.cloud else c.cloud }

def Channel.run (c : Channel) (events : List Event) : Channel := events.foldl Channel.step c

theorem Channel.run_append (c : Channel) (events more : List Event) :
    c.run (events ++ more) = (c.run events).run more :=
  List.foldl_append

/-- At every moment of a run, one turn that can report leaves the cloud with the status. -/
def Channel.Delivers (c : Channel) (events : List Event) : Prop :=
  ∀ before, before <+: events → ∀ buf,
    (c.run (before ++ [.online true, .turn buf true])).cloud =
      (c.run (before ++ [.online true, .turn buf true])).dev.status

/-- The next sample changes the status. -/
def DiDev.Turns (dev : DiDev) (buf : Text) : Prop :=
  outOfRange buf = false ∧ ∃ level,
    { dev with value := (number buf % 2 ^ 8).toNat }.Ready level ∧ dev.status ≠ some level

/-- A turn that changes the status comes when it can be reported. -/
def Channel.Told (c : Channel) : Event → Prop
  | .online _ => True
  | .turn buf success => c.dev.Turns buf → c.bActive = true ∧ success = true

/-- Every event of a run, in the state that it meets. -/
def Channel.AllTold (c : Channel) : List Event → Prop
  | [] => True
  | event :: later => c.Told event ∧ (c.step event).AllTold later

/-- What a turn does to the status, and what it reports. -/
structure Turned (dev : DiDev) (bActive : Bool) (turned : DiDev × List DiReport) (level : DiLevel) :
    Prop where
  before : dev.status ≠ some level
  after : turned.1.status = some level
  reports : turned.2 =
    if bActive then [⟨dev.element.pPrimaryKey, dev.body.dataPoint, level⟩] else []

theorem commit_cases (dev : DiDev) (bActive : Bool) (level : DiLevel) :
    (dev.status = some level ∧ dev.commit bActive level = (dev, [])) ∨
      Turned dev bActive (dev.commit bActive level) level := by
  unfold DiDev.commit
  split
  · rename_i other
    exact .inr ⟨other, rfl, rfl⟩
  · rename_i same
    exact .inl ⟨not_not.mp same, rfl⟩

theorem sample_cases (dev : DiDev) (reading : Reading) :
    (¬dev.Turns reading.buf ∧ (dev.sample reading).1.status = dev.status ∧
    (dev.sample reading).2 = []) ∨
      (dev.Turns reading.buf ∧ ∃ level, Turned dev reading.bActive (dev.sample reading) level) := by
  unfold DiDev.sample
  dsimp only
  by_cases range : outOfRange reading.buf = true
  · rw [if_pos range]
    refine .inl ⟨fun turns => ?_, rfl, rfl⟩
    rw [turns.1] at range
    contradiction
  · rw [if_neg range]
    have inside : outOfRange reading.buf = false := Bool.eq_false_iff.mpr range
    rcases debounce_cases { dev with value := (number reading.buf % 2 ^ 8).toNat }
      reading.bActive with
      ⟨level, ready, commits⟩ | ⟨rests, cnt, counts⟩
    · rw [commits]
      rcases commit_cases { dev with value := (number reading.buf % 2 ^ 8).toNat } reading.bActive
        level with
        ⟨same, keeps⟩ | turned
      · rw [keeps]
        refine .inl ⟨?_, rfl, rfl⟩
        rintro ⟨-, other, also, changes⟩
        exact changes (ready_unique ready also ▸ same)
      · exact .inr ⟨⟨inside, level, ready, turned.before⟩, level, turned.before, turned.after,
          turned.reports⟩
    · rw [counts]
      refine .inl ⟨?_, rfl, rfl⟩
      rintro ⟨-, level, ready, -⟩
      exact rests level ready

/-- The cloud knows the status. -/
def Channel.Synced (c : Channel) : Prop := c.cloud = c.dev.status

theorem turn_synced {c : Channel} {buf : Text} {success : Bool} (synced : c.Synced) :
    (c.step (.turn buf success)).Synced ↔ c.Told (.turn buf success) := by
  rcases sample_cases c.dev ⟨buf, c.bActive⟩ with ⟨rests, status, reports⟩ | ⟨turns, level, turned⟩
  · refine ⟨fun _ turns => absurd turns rests, fun _ => ?_⟩
    simp only [Channel.Synced, Channel.step, status, reports, List.getLast?_nil, Option.map_none,
      Option.none_or, ite_self]
    exact synced
  · have before : c.cloud ≠ some level := fun same => turned.before (synced.symm.trans same)
    simp only [Channel.Synced, Channel.step, Channel.Told, turned.after, turned.reports]
    cases c.bActive <;> cases success <;> simp [before, turns]

theorem step_synced {c : Channel} (synced : c.Synced) (event : Event) :
    (c.step event).Synced ↔ c.Told event := by
  cases event with
  | online online => exact ⟨fun _ => trivial, fun _ => synced⟩
  | turn buf success => exact turn_synced synced

/-- A text that is no sample. -/
def unreadable : Text := "9223372036854775808".toList

/-- A turn that reads nothing shows whether the cloud knew the status before. -/
theorem delivers_iff_synced (c : Channel) (events : List Event) :
    c.Delivers events ↔ ∀ before, before <+: events → (c.run before).Synced := by
  constructor
  · intro delivers before inside
    have after := delivers before inside unreadable
    rw [Channel.run_append] at after
    have skipped : ∀ dev : DiDev, dev.sample ⟨unreadable, true⟩ =
        ({ dev with value := (number unreadable % 2 ^ 8).toNat }, []) := by
      intro dev
      have range : outOfRange unreadable = true := by decide
      rw [DiDev.sample, if_pos range]
    simpa only [Channel.Synced, Channel.run, Channel.step, List.foldl_cons, List.foldl_nil, skipped,
      List.getLast?_nil, Option.map_none, Option.none_or, ite_self] using after
  · intro synced before inside buf
    rw [Channel.run_append]
    apply (turn_synced (c := (c.run before).step (.online true)) (synced before inside)).mpr
    exact fun _ => ⟨rfl, rfl⟩

theorem synced_iff_told {c : Channel} (start : c.Synced) (events : List Event) :
    (∀ before, before <+: events → (c.run before).Synced) ↔ c.AllTold events := by
  induction events generalizing c with
  | nil =>
    refine ⟨fun _ => trivial, fun _ before inside => ?_⟩
    rw [List.prefix_nil.mp inside]
    exact start
  | cons event later ih =>
    constructor
    · intro synced
      have next : (c.step event).Synced := synced [event] (List.prefix_append [event] later)
      refine ⟨(step_synced start event).mp next, (ih next).mp fun before inside => ?_⟩
      exact synced (event :: before) ((List.prefix_cons_inj event).mpr inside)
    · rintro ⟨told, rest⟩ before inside
      have next := (step_synced start event).mpr told
      rcases List.prefix_cons_iff.mp inside with rfl | ⟨more, rfl, within⟩
      · exact start
      · exact (ih next).mpr rest more within

/-- The cloud gets to know the status of a channel just where each change can be reported at
once. -/
theorem channel_delivers_iff (dev : DiDev) (status : dev.status = none) (events : List Event) :
    Channel.Delivers { dev := dev } events ↔ Channel.AllTold { dev := dev } events := by
  have start : Channel.Synced { dev := dev } := status.symm
  rw [delivers_iff_synced, synced_iff_told start]

/-- An open contact of a gateway that is online. -/
theorem online_change_delivered :
    Channel.Delivers { dev := {} } [.online true, .turn "1".toList true] :=
  (channel_delivers_iff {} rfl _).mpr ⟨trivial, fun _ => ⟨rfl, rfl⟩, trivial⟩

/-- A contact that opens before the gateway is online stays unknown. -/
theorem offline_change_lost : ¬Channel.Delivers { dev := {} } [.turn "1".toList true] := by
  intro delivers
  exact absurd (delivers _ List.prefix_rfl "1".toList) (by decide)

/-- The loop over a list of inputs takes one sample of each channel. -/
theorem scan_channels (readings : Nat → Reading) (i : Nat) (devs : List DiDev) :
    ∃ reports, scan readings i (devs.map .input) =
      .ok ((devs.mapIdx fun k dev => (dev.sample (readings (i + k))).1).map .input, reports) := by
  induction devs generalizing i with
  | nil => exact ⟨[], rfl⟩
  | cons dev devs ih =>
    obtain ⟨reports, rest⟩ := ih (i + 1)
    refine ⟨(dev.sample (readings i)).2 ++ reports, ?_⟩
    rw [List.map_cons, scan, rest, List.mapIdx_cons, List.map_cons]
    simp only [Nat.add_comm, Nat.add_left_comm]
    rfl

/-- So the turns of the thread are the runs of the channels. -/
theorem diScan_channels (turns : List (Nat → Reading)) (devs : List DiDev) :
    ∃ reports, diScan turns (devs.map .input) =
      .ok ((devs.mapIdx fun k dev => dev.samples (turns.map (· k))).map .input, reports) := by
  induction turns generalizing devs with
  | nil =>
    have same : (devs.mapIdx fun _ dev => dev.samples []) = devs := by
      rw [List.mapIdx_eq_iff]
      intro k
      exact Option.map_id'.symm
    exact ⟨[], by simp only [List.map_nil, same]; rfl⟩
  | cons readings turns ih =>
    obtain ⟨reports, first⟩ := scan_channels readings 0 devs
    simp only [Nat.zero_add] at first
    obtain ⟨more, later⟩ := ih (devs.mapIdx fun k dev => (dev.sample (readings k)).1)
    refine ⟨reports ++ more, ?_⟩
    rw [List.mapIdx_mapIdx] at later
    calc diScan (readings :: turns) (devs.map .input)
        = (diScan turns ((devs.mapIdx fun k dev => (dev.sample (readings k)).1).map .input)).map
            (fun after => (after.1, reports ++ after.2)) := by
          rw [diScan, first]
          rfl
      _ = _ := by
          rw [later]
          rfl

/-- An output ends the loop in a fault, wherever it stands. -/
theorem scan_output (readings : Nat → Reading) (i : Nat) (devs : List DiDev)
    (output : CellDev DoBody) (rest : List DioDev) :
    scan readings i (devs.map .input ++ .output output :: rest) = .error .outOfBounds := by
  induction devs generalizing i with
  | nil => rfl
  | cons dev devs ih =>
    rw [List.map_cons, List.cons_append, scan, ih]
    rfl

/-- The thread takes no output for an input, and reports as if there were none. -/
structure InputsOnly (inputs : List (CellDev DiBody)) (outputs : List (CellDev DoBody)) : Prop where
  returns : ∀ turns, Returns (diThread turns inputs outputs)
  reports : ∀ turns,
    (diThread turns inputs outputs).map Prod.snd = (diThread turns inputs []).map Prod.snd

theorem inputsOnly_iff (inputs : List (CellDev DiBody)) (outputs : List (CellDev DoBody)) :
    InputsOnly inputs outputs ↔ inputs = [] ∨ outputs = [] := by
  constructor
  · intro only
    cases inputs with
    | nil => exact .inl rfl
    | cons input inputs =>
      cases outputs with
      | nil => exact .inr rfl
      | cons output outputs =>
        have faults := scan_output (fun _ => ⟨[], false⟩) 0 ((input :: inputs).map .ofCell) output
          (outputs.map .output)
        rw [List.map_map] at faults
        have first : diThread [fun _ => ⟨[], false⟩] (input :: inputs) (output :: outputs) =
            .error .outOfBounds := by
          rw [diThread, if_neg (by simp), dioDevList, diScan]
          exact congrArg (· >>= _) faults
        exact absurd (only.returns [fun _ => ⟨[], false⟩]) (first ▸ returns_error)
  · rintro (rfl | rfl)
    · exact ⟨fun _ => .pure, fun _ => rfl⟩
    · refine ⟨fun turns => .ite (fun _ => .pure) fun _ => ?_, fun _ => rfl⟩
      obtain ⟨reports, runs⟩ := diScan_channels turns (inputs.map .ofCell)
      rw [List.map_map] at runs
      rw [dioDevList, List.map_nil, List.append_nil]
      exact ⟨_, runs⟩

/-- An installation keeps its outputs from being taken for inputs only if it has one kind. -/
theorem dio_inputsOnly_iff (mac : Text) (inputCells outputCells : List Node)
    (parsedInputs : di.parse mac inputCells = .ok (inputKeys, inputs))
    (parsedOutputs : doCfg.parse mac outputCells = .ok (outputKeys, outputs)) :
    InputsOnly inputs outputs ↔ inputCells = [] ∨ outputCells = [] := by
  rw [inputsOnly_iff, ← List.length_eq_zero_iff, ← List.length_eq_zero_iff,
    parse_length parsedInputs, parse_length parsedOutputs, List.length_eq_zero_iff,
      List.length_eq_zero_iff]

def contactCell : Node := .element "Cell" [.element "Channel" [.text "1"]]

/-- A gateway with inputs and no outputs. -/
theorem inputs_alone :
    ∃ keys inputs, di.parse [] [contactCell] = .ok (keys, inputs) ∧ InputsOnly inputs [] :=
  ⟨_, _, rfl, (dio_inputsOnly_iff [] [contactCell] [] rfl rfl).mpr (.inr rfl)⟩

/-- One output is enough. -/
theorem output_taken_for_input : ∃ inputKeys inputs outputKeys outputs,
    di.parse [] [contactCell] = .ok (inputKeys, inputs) ∧
      doCfg.parse [] [contactCell] = .ok (outputKeys, outputs) ∧ ¬InputsOnly inputs outputs := by
  refine ⟨_, _, _, _, rfl, rfl, fun only => ?_⟩
  exact absurd (only.returns [fun _ => ⟨[], true⟩]) returns_error

end HiMaxGateway.DiScan
