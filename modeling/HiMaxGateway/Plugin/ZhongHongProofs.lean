import HiMaxGateway.Plugin.AcdZhongHong
import HiMaxGateway.Plugin.Locate

/-! What `Mbus_Acd_ZhongHong.c` reads back of its own commands, and which frames it takes. -/
namespace HiMaxGateway.Plugin.ZhongHong
open CRun

def writeCmds : List UInt8 := [writeCmdSwitch, writeCmdSpeed, writeCmdTemp, writeCmdMode]

/-- The object reported for an answer to a write. -/
def echoObj (code byte : UInt8) : ParsedObj :=
  if code = writeCmdSwitch then ⟨.acdSwitch, byte.toUInt32, 0⟩
  else if code = writeCmdTemp then ⟨.acdTemp, byte.toUInt32, 0⟩
  else if code = writeCmdMode then ⟨.acdMode, modeValue byte, 0⟩
  else ⟨.acdSpeed, speedEcho byte, 0⟩

/-- The objects reported for the first five state bytes. -/
def statusObjs (switch temp mode speed roomTemp : UInt8) : List ParsedObj :=
  [⟨.acdSwitch, switch.toUInt32, 0⟩, ⟨.acdTemp, temp.toUInt32, 0⟩, ⟨.acdMode, modeValue mode, 0⟩,
    ⟨.acdSpeed, speedValue speed, 0⟩, ⟨.acdEnvTemp, roomTemp.toUInt32 * 10, 0⟩]

-- The commands of the product, and what a poll tells of them.

inductive Command where
  | switch (on : Bool)
  | temp (value : UInt8)
  | mode (value : Fin 4)
  | speed (value : Fin 4)
  deriving DecidableEq, Repr

def Command.dp : Command → DpObj
  | .switch on => ⟨1, if on then 1 else 0⟩
  | .temp value => ⟨2, value.toUInt32⟩
  | .mode value => ⟨4, UInt32.ofNat value⟩
  | .speed value => ⟨5, UInt32.ofNat value⟩

/-- The commanded point with the commanded value. -/
def Command.obj : Command → ParsedObj
  | .switch on => ⟨.acdSwitch, if on then 1 else 0, 0⟩
  | .temp value => ⟨.acdTemp, value.toUInt32, 0⟩
  | .mode value => ⟨.acdMode, UInt32.ofNat value, 0⟩
  | .speed value => ⟨.acdSpeed, UInt32.ofNat value, 0⟩

/-- Where a status reply has the byte of a point. -/
def column : PointFeature → Nat
  | .acdSwitch => 6
  | .acdTemp => 7
  | .acdMode => 8
  | .acdSpeed => 9
  | _ => 10

/-- The value a call of `parse` reports for a point. -/
def reported (point : PointFeature) : Parsed → Option UInt32
  | .ok (some objs) => (objs.find? (·.localPoint = point)).map (·.value)
  | _ => none

/-- A frame of the gateway that `parse` takes, with all the bytes it reads. -/
structure Takes (devId code : UInt8) (buf : List UInt8) (pos : Nat) : Prop where
  found : findCmd devId buf = some pos
  second : buf[pos + 1]? = some code
  complete : code = readCmdStatus → pos + 10 < buf.length

def Command.code : Command → UInt8
  | .switch _ => writeCmdSwitch
  | .temp _ => writeCmdTemp
  | .mode _ => writeCmdMode
  | .speed _ => writeCmdSpeed

def Command.byte : Command → UInt8
  | .switch on => if on then 1 else 0
  | .temp value => value
  | .mode value => modeByte (UInt32.ofNat value)
  | .speed value => speedByte (UInt32.ofNat value)

variable {devId code byte : UInt8} {regAddr : UInt16} {buf : List UInt8} {pos : Nat}

theorem findCmd_some (found : findCmd devId buf = some pos) :
    pos + 7 ≤ frameLen buf ∧ buf[pos]? = some devId ∧
      ∃ code ∈ writeCmds ++ [readCmdStatus], buf[pos + 1]? = some code := by
  obtain ⟨code, known, key⟩ := List.exists_of_findSome?_eq_some found
  obtain ⟨enough, inside, first, second⟩ := findKey_some key
  rw [(key_bytes devId code).1] at first
  rw [(key_bytes devId code).2] at second
  exact ⟨by omega, first, code, known, second⟩

/-- A frame of seven bytes is found at its start, whatever its other bytes are. -/
theorem findCmd_whole (length : frameLen buf = 7) (first : buf[0]? = some devId)
    (second : buf[1]? = some code) (known : code ∈ writeCmds ++ [readCmdStatus]) :
    findCmd devId buf = some 0 := by
  have key (code' : UInt8) :
      findKey ((devId.toUInt16 <<< 8) + code'.toUInt16) 7 buf =
        if code = code' then some 0 else none := by
    rw [findKey_whole _ length (by decide), (key_bytes devId code').1, (key_bytes devId code').2,
      first, second]
    simp
  simp only [findCmd, key]
  simp only [writeCmds, List.cons_append, List.nil_append, List.mem_cons, List.not_mem_nil,
    or_false] at known
  obtain rfl | rfl | rfl | rfl | rfl := known <;> decide

theorem parse_found (found : findCmd devId buf = some pos) (second : buf[pos + 1]? = some code)
    (third : buf[pos + 2]? = some byte) (write : code ∈ writeCmds) :
    parse devId buf = .ok (some [echoObj code byte]) := by
  obtain ⟨enough, -⟩ := findCmd_some found
  rw [parse, if_neg (by omega), found]
  simp only [byteAt_eq_ok.mpr second, byteAt_eq_ok.mpr third]
  simp only [writeCmds, List.mem_cons, List.not_mem_nil, or_false] at write
  obtain rfl | rfl | rfl | rfl := write <;> rfl

theorem parse_status (found : findCmd devId buf = some pos)
    (second : buf[pos + 1]? = some readCmdStatus) (switch : buf[pos + 6]? = some b6)
    (temp : buf[pos + 7]? = some b7) (mode : buf[pos + 8]? = some b8)
    (speed : buf[pos + 9]? = some b9) (roomTemp : buf[pos + 10]? = some b10) :
    parse devId buf = .ok (some (statusObjs b6 b7 b8 b9 b10)) := by
  obtain ⟨enough, -⟩ := findCmd_some found
  rw [parse, if_neg (by omega), found]
  simp only [byteAt_eq_ok.mpr second, byteAt_eq_ok.mpr switch, byteAt_eq_ok.mpr temp,
    byteAt_eq_ok.mpr mode, byteAt_eq_ok.mpr speed, byteAt_eq_ok.mpr roomTemp]
  rfl

/-- The search was content with seven bytes. -/
theorem parse_cut (found : findCmd devId buf = some pos)
    (second : buf[pos + 1]? = some readCmdStatus) (short : buf.length ≤ pos + 10) :
    parse devId buf = .error .outOfBounds := by
  obtain ⟨enough, -⟩ := findCmd_some found
  have seven : pos + 6 < buf.length := by
    have := frameLen_le buf
    omega
  obtain ⟨switch, sixth⟩ := byteAt_inside seven
  rw [parse, if_neg (by omega), found]
  simp only [byteAt_eq_ok.mpr second, sixth, byteAt_outside short]
  -- The bytes between the seventh and the eleventh may be there or not.
  unfold byteAt
  cases buf[pos + 7]? <;> rfl

theorem build_command (cmd : Command) :
    build devId regAddr (some cmd.dp) = withCs (request devId cmd.code cmd.byte regAddr) := by
  cases cmd with
  | switch on => cases on <;> rfl
  | temp value => simp [build, Command.dp, Command.code, Command.byte, DpObj.dpValue]
  | mode value => rfl
  | speed value => rfl

theorem parse_build (cmd : Command) :
    parse devId (build devId regAddr (some cmd.dp)) = .ok (some [echoObj cmd.code cmd.byte]) := by
  have write : cmd.code ∈ writeCmds := by cases cmd <;> simp [Command.code, writeCmds]
  have known : cmd.code ∈ writeCmds ++ [readCmdStatus] := List.mem_append_left _ write
  rw [build_command]
  exact parse_found (findCmd_whole rfl rfl rfl known) rfl rfl write

theorem modeValue_modeByte (value : Fin 4) :
    modeValue (modeByte (UInt32.ofNat value)) = UInt32.ofNat value := by
  revert value
  decide

theorem speedValue_speedByte (value : Fin 4) :
    speedValue (speedByte (UInt32.ofNat value)) = UInt32.ofNat value := by
  revert value
  decide

theorem parse_taken (takes : Takes devId readCmdStatus buf pos) :
    ∃ b6 b7 b8 b9 b10, buf[pos + 6]? = some b6 ∧ buf[pos + 7]? = some b7 ∧
      buf[pos + 8]? = some b8 ∧ buf[pos + 9]? = some b9 ∧ buf[pos + 10]? = some b10 ∧
      parse devId buf = .ok (some (statusObjs b6 b7 b8 b9 b10)) := by
  have inside := takes.complete rfl
  have there (k : Nat) (le : k ≤ 10) : ∃ byte, buf[pos + k]? = some byte :=
    ⟨_, List.getElem?_eq_getElem (by omega)⟩
  obtain ⟨b6, switch⟩ := there 6 (by decide)
  obtain ⟨b7, temp⟩ := there 7 (by decide)
  obtain ⟨b8, mode⟩ := there 8 (by decide)
  obtain ⟨b9, speed⟩ := there 9 (by decide)
  obtain ⟨b10, roomTemp⟩ := there 10 (by decide)
  exact ⟨b6, b7, b8, b9, b10, switch, temp, mode, speed, roomTemp,
    parse_status takes.found takes.second switch temp mode speed roomTemp⟩

/-- What a poll reports for a command's byte. -/
theorem reported_status (cmd : Command) (takes : Takes devId readCmdStatus buf pos)
    (there : buf[pos + column cmd.obj.localPoint]? = some cmd.byte) :
    reported cmd.obj.localPoint (parse devId buf) = some cmd.obj.value := by
  obtain ⟨b6, b7, b8, b9, b10, switch, temp, mode, speed, roomTemp, parsed⟩ := parse_taken takes
  rw [parsed]
  cases cmd with
  | switch on =>
    obtain rfl : b6 = _ := Option.some.inj (switch.symm.trans there)
    cases on <;> rfl
  | temp value =>
    obtain rfl : b7 = _ := Option.some.inj (temp.symm.trans there)
    rfl
  | mode value =>
    obtain rfl : b8 = _ := Option.some.inj (mode.symm.trans there)
    exact congrArg some (modeValue_modeByte value)
  | speed value =>
    obtain rfl : b9 = _ := Option.some.inj (speed.symm.trans there)
    exact congrArg some (speedValue_speedByte value)

/-- A command's answer and every later poll that carries its byte report what was commanded. -/
def ReadsBack (devId : UInt8) (regAddr : UInt16) (cmd : Command) : Prop :=
  parse devId (build devId regAddr (some cmd.dp)) = .ok (some [cmd.obj]) ∧
    ∀ status pos, Takes devId readCmdStatus status pos →
      status[pos + column cmd.obj.localPoint]? = (build devId regAddr (some cmd.dp))[2]? →
      reported cmd.obj.localPoint (parse devId status) = some cmd.obj.value

/-- A byte means the same in an answer to the write with this code and in a status reply. -/
def SameDecode (point : PointFeature) (code byte : UInt8) : Prop :=
  ∀ devId echo status at_echo at_status, Takes devId code echo at_echo →
    echo[at_echo + 2]? = some byte → Takes devId readCmdStatus status at_status →
    status[at_status + column point]? = some byte →
    reported point (parse devId echo) = reported point (parse devId status)

theorem parse_build_iff (cmd : Command) :
    parse devId (build devId regAddr (some cmd.dp)) = .ok (some [cmd.obj]) ↔
      cmd ≠ .speed 1 ∧ cmd ≠ .speed 3 := by
  rw [parse_build]
  cases cmd with
  | switch on => cases on <;> simp [echoObj, Command.code, Command.obj, Command.byte]
  | temp value =>
    simp [echoObj, Command.code, Command.obj, Command.byte, writeCmdTemp, writeCmdSwitch]
  | mode value =>
    have back : echoObj (Command.mode value).code (Command.mode value).byte =
        (Command.mode value).obj := by
      revert value
      decide
    simp [back]
  | speed value =>
    revert value
    decide

theorem speedEcho_eq_iff (byte : UInt8) :
    speedEcho byte = speedValue byte ↔ byte ≠ 1 ∧ byte ≠ 4 := by
  by_cases low : byte = 4
  · subst low
    decide
  by_cases high : byte = 1
  · subst high
    decide
  · simp [speedEcho, speedValue, low, high]

/-- A status reply of unit `0x0006` with this fan speed. -/
def speedReply (byte : UInt8) : List UInt8 :=
  withCs ([1, readCmdStatus, 1, 1] ++ htons 6 ++ [1, 0x1C, 1, byte, 0x1A, 0, 0, 0])

theorem sameDecode_speed_iff (byte : UInt8) :
    SameDecode .acdSpeed writeCmdSpeed byte ↔ byte ≠ 1 ∧ byte ≠ 4 := by
  constructor
  · intro same
    have apart := same 1 (withCs (request 1 writeCmdSpeed byte 6)) (speedReply byte) 0 0
    constructor
    · rintro rfl
      exact absurd (apart ⟨by decide, rfl, by decide⟩ rfl ⟨by decide, rfl, by decide⟩ rfl)
        (by decide)
    · rintro rfl
      exact absurd (apart ⟨by decide, rfl, by decide⟩ rfl ⟨by decide, rfl, by decide⟩ rfl)
        (by decide)
  · intro other devId echo status at_echo at_status taken third polled there
    obtain ⟨b6, b7, b8, b9, b10, -, -, -, speed, -, parsed⟩ := parse_taken polled
    obtain rfl : b9 = byte := Option.some.inj (speed.symm.trans there)
    rw [parsed, parse_found taken.found taken.second third (by decide)]
    exact congrArg some ((speedEcho_eq_iff b9).mpr other)

/-- Only the fan speeds low and high come back changed, and only in the answer to the write. -/
theorem readsBack_iff (devId : UInt8) (regAddr : UInt16) :
    (∀ cmd, ReadsBack devId regAddr cmd ↔ cmd ≠ .speed 1 ∧ cmd ≠ .speed 3) ∧
      (∀ byte, SameDecode .acdMode writeCmdMode byte) ∧
      ∀ byte, SameDecode .acdSpeed writeCmdSpeed byte ↔ byte ≠ 1 ∧ byte ≠ 4 := by
  refine ⟨?_, ?_, ?_⟩
  · intro cmd
    rw [ReadsBack, parse_build_iff, and_iff_left]
    intro status pos takes there
    rw [build_command] at there
    exact reported_status cmd takes there
  · intro byte devId echo status at_echo at_status taken third polled there
    obtain ⟨b6, b7, b8, b9, b10, -, -, mode, -, -, parsed⟩ := parse_taken polled
    obtain rfl : b8 = byte := Option.some.inj (mode.symm.trans there)
    rw [parsed, parse_found taken.found taken.second third (by decide)]
    rfl
  · exact sameDecode_speed_iff

/-- Fan speed low of unit `0x0106`: the answer to the command reports high. -/
theorem speed_low_not_readsBack :
    ¬ReadsBack 1 0x0106 (.speed 1) ∧
      parse 1 (build 1 0x0106 (some ⟨5, 1⟩)) = .ok (some [⟨.acdSpeed, 3, 0⟩]) ∧
      reported .acdSpeed (parse 1 (speedReply (speedByte 1))) = some 1 := by
  refine ⟨?_, by decide, by decide⟩
  rintro ⟨echo, -⟩
  revert echo
  decide

/-- The object a write of this byte stands for. -/
def writtenObj (code byte : UInt8) : ParsedObj :=
  if code = writeCmdSpeed then ⟨.acdSpeed, speedValue byte, 0⟩ else echoObj code byte

/-- A complete frame about one unit, as the source's table has it, and what its fields say. -/
inductive Documented (devId : UInt8) (regAddr : UInt16) : List UInt8 → List ParsedObj → Prop
  | write (code byte : UInt8) (known : code ∈ writeCmds) :
      Documented devId regAddr (withCs (request devId code byte regAddr)) [writtenObj code byte]
  | status (value b6 b7 b8 b9 b10 b11 b12 b13 : UInt8) :
      Documented devId regAddr
        (withCs (request devId readCmdStatus value regAddr ++ [b6, b7, b8, b9, b10, b11, b12, b13]))
        (statusObjs b6 b7 b8 b9 b10)

/-- Whatever is returned was read from a frame of this unit at the matched position. -/
def Sound (devId : UInt8) (regAddr : UInt16) (buf : List UInt8) : Prop :=
  match parse devId buf with
  | .error _ => False
  | .ok none => True
  | .ok (some objs) => ∃ pos frame rest,
      findCmd devId buf = some pos ∧ buf.drop pos = frame ++ rest ∧
        Documented devId regAddr frame objs

/-- One unit, this one, and a checksum that is right behind the other bytes of the frame. -/
structure Intact (regAddr : UInt16) (size : Nat) (frame : List UInt8) : Prop where
  count : frame[3]? = some 1
  unit : [frame[4]?, frame[5]?] = (htons regAddr).map some
  sum : frame[size]? = some (cs (frame.take size))

/-- The frame that follows the first key of the search. -/
def Addressed (regAddr : UInt16) (frame : List UInt8) : Prop :=
  if frame[1]? = some readCmdStatus then Intact regAddr 14 frame
  else Intact regAddr 6 frame ∧
    ¬(frame[1]? = some writeCmdSpeed ∧ (frame[2]? = some 1 ∨ frame[2]? = some 4))

variable {frame : List UInt8}

theorem intact_write_iff (first : frame[0]? = some devId) (second : frame[1]? = some code)
    (third : frame[2]? = some byte) :
    Intact regAddr 6 frame ↔ ∃ rest, frame = withCs (request devId code byte regAddr) ++ rest := by
  constructor
  · rintro ⟨count, unit, sum⟩
    match frame with
    | b0 :: b1 :: b2 :: b3 :: b4 :: b5 :: b6 :: rest =>
      simp only [List.getElem?_cons_zero, List.getElem?_cons_succ, Option.some.injEq,
        List.take_succ_cons, List.take_zero] at *
      subst first second third count
      simp only [htons, List.map_cons, List.map_nil, List.cons.injEq, Option.some.injEq,
        and_true] at unit
      obtain ⟨rfl, rfl⟩ := unit
      subst sum
      exact ⟨rest, rfl⟩
  · rintro ⟨rest, rfl⟩
    exact ⟨rfl, rfl, rfl⟩

theorem intact_status_iff (first : frame[0]? = some devId)
    (second : frame[1]? = some readCmdStatus) :
    Intact regAddr 14 frame ↔ ∃ value b6 b7 b8 b9 b10 b11 b12 b13 rest, frame =
      withCs (request devId readCmdStatus value regAddr ++ [b6, b7, b8, b9, b10, b11, b12, b13]) ++
        rest := by
  constructor
  · rintro ⟨count, unit, sum⟩
    match frame with
    | b0 :: b1 :: b2 :: b3 :: b4 :: b5 :: b6 :: b7 :: b8 :: b9 :: b10 :: b11 :: b12 :: b13 :: b14 ::
        rest =>
      simp only [List.getElem?_cons_zero, List.getElem?_cons_succ, Option.some.injEq,
        List.take_succ_cons, List.take_zero] at *
      subst first second count
      simp only [htons, List.map_cons, List.map_nil, List.cons.injEq, Option.some.injEq,
        and_true] at unit
      obtain ⟨rfl, rfl⟩ := unit
      subst sum
      exact ⟨b2, b6, b7, b8, b9, b10, b11, b12, b13, rest, rfl⟩
  · rintro ⟨value, b6, b7, b8, b9, b10, b11, b12, b13, rest, rfl⟩
    exact ⟨rfl, rfl, rfl⟩

theorem writtenObj_eq_iff (known : code ∈ writeCmds) :
    echoObj code byte = writtenObj code byte ↔ ¬(code = writeCmdSpeed ∧ (byte = 1 ∨ byte = 4)) := by
  by_cases speed : code = writeCmdSpeed
  · subst speed
    rw [writtenObj, if_pos rfl]
    simpa [echoObj, writeCmdSpeed, writeCmdSwitch, writeCmdTemp, writeCmdMode] using
      speedEcho_eq_iff byte
  · simp [writtenObj, speed]

theorem sound_of_write (found : findCmd devId buf = some pos) (second : buf[pos + 1]? = some code)
    (third : buf[pos + 2]? = some byte) (known : code ∈ writeCmds) :
    Sound devId regAddr buf ↔ Addressed regAddr (buf.drop pos) := by
  obtain ⟨-, first, -⟩ := findCmd_some found
  have first' : (buf.drop pos)[0]? = some devId := by simpa using first
  have second' : (buf.drop pos)[1]? = some code := by simpa using second
  have third' : (buf.drop pos)[2]? = some byte := by simpa using third
  have notStatus : code ≠ readCmdStatus := by
    rintro rfl
    revert known
    decide
  simp only [Sound, parse_found found second third known, Addressed, second', third',
    Option.some.injEq, notStatus, if_false, intact_write_iff first' second' third',
    ← writtenObj_eq_iff known]
  constructor
  · rintro ⟨at_pos, frame, rest, same, whole, documented⟩
    cases found.symm.trans same
    generalize objs : [echoObj code byte] = given at documented
    cases documented with
    | write code' byte' known' =>
      rw [whole] at second' third'
      cases second'
      cases third'
      exact ⟨⟨rest, whole⟩, List.head_eq_of_cons_eq objs⟩
    | status value b6 b7 b8 b9 b10 b11 b12 b13 =>
      exact absurd (congrArg List.length objs) (by simp [statusObjs])
  · rintro ⟨⟨rest, whole⟩, same⟩
    rw [same]
    exact ⟨pos, _, rest, found, whole, .write code byte known⟩

theorem sound_of_status (found : findCmd devId buf = some pos)
    (second : buf[pos + 1]? = some readCmdStatus) :
    Sound devId regAddr buf ↔ Addressed regAddr (buf.drop pos) := by
  obtain ⟨-, first, -⟩ := findCmd_some found
  have first' : (buf.drop pos)[0]? = some devId := by simpa using first
  have second' : (buf.drop pos)[1]? = some readCmdStatus := by simpa using second
  simp only [Addressed, second', if_true, intact_status_iff first' second']
  by_cases complete : pos + 10 < buf.length
  · obtain ⟨c6, c7, c8, c9, c10, h6, h7, h8, h9, h10, parsed⟩ :=
      parse_taken ⟨found, second, fun _ => complete⟩
    simp only [Sound, parsed]
    constructor
    · rintro ⟨at_pos, frame, rest, same, whole, documented⟩
      cases found.symm.trans same
      generalize objs : statusObjs c6 c7 c8 c9 c10 = given at documented
      cases documented with
      | write code' byte' known' => exact absurd (congrArg List.length objs) (by simp [statusObjs])
      | status value b6 b7 b8 b9 b10 b11 b12 b13 =>
        exact ⟨value, b6, b7, b8, b9, b10, b11, b12, b13, rest, whole⟩
    · rintro ⟨value, b6, b7, b8, b9, b10, b11, b12, b13, rest, whole⟩
      rw [← List.getElem?_drop, whole] at h6 h7 h8 h9 h10
      obtain rfl : b6 = c6 := Option.some.inj h6
      obtain rfl : b7 = c7 := Option.some.inj h7
      obtain rfl : b8 = c8 := Option.some.inj h8
      obtain rfl : b9 = c9 := Option.some.inj h9
      obtain rfl : b10 = c10 := Option.some.inj h10
      exact ⟨pos, _, rest, found, whole, .status value b6 b7 b8 b9 b10 b11 b12 b13⟩
  · have cut := parse_cut found second (Nat.le_of_not_lt complete)
    simp only [Sound, cut, false_iff]
    rintro ⟨value, b6, b7, b8, b9, b10, b11, b12, b13, rest, whole⟩
    have length := congrArg List.length whole
    simp [withCs, request, htons] at length
    omega

/-- `parse` trusts the frame it finds: its objects are right exactly when that frame is complete,
about this unit alone, with a right checksum, and no fan speed that is read the wrong way round. -/
theorem parse_sound_iff_addressed (devId : UInt8) (regAddr : UInt16) (buf : List UInt8) :
    Sound devId regAddr buf ↔
      ∀ pos, findCmd devId buf = some pos → Addressed regAddr (buf.drop pos) := by
  cases found : findCmd devId buf with
  | none =>
    have nothing : parse devId buf = .ok none := by
      rw [parse, found]
      split <;> rfl
    simp [Sound, nothing]
  | some pos =>
    simp only [Option.some.injEq, forall_eq']
    obtain ⟨enough, -, code, known, second⟩ := findCmd_some found
    obtain write | status := List.mem_append.mp known
    · have inside : pos + 2 < buf.length := by
        have := frameLen_le buf
        omega
      exact sound_of_write found second (List.getElem?_eq_getElem inside) write
    · obtain rfl : code = readCmdStatus := List.mem_singleton.mp status
      exact sound_of_status found second

/-- The reply of unit `0x0109` that the source shows. -/
def neighbourReply : List UInt8 :=
  [0x01, 0x50, 0x01, 0x01, 0x01, 0x09, 0x00, 0x1C, 0x04, 0x00, 0x0A, 0x00, 0x00, 0x00, 0x87]

/-- It is reported for unit `0x0108` as well. -/
theorem neighbourReply_not_sound :
    ¬Sound 1 0x0108 neighbourReply ∧
      parse 1 neighbourReply = .ok (some (statusObjs 0x00 0x1C 0x04 0x00 0x0A)) := by
  have found : findCmd 1 neighbourReply = some 0 := by decide
  refine ⟨?_, parse_status found rfl rfl rfl rfl rfl rfl⟩
  intro sound
  have intact := (sound_of_status found rfl).mp sound
  rw [Addressed, if_pos (by decide)] at intact
  exact absurd intact.unit (by decide)

end HiMaxGateway.Plugin.ZhongHong
