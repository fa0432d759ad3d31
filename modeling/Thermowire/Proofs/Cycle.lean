import Thermowire.Proofs.Line

/-! A full cycle over the simulated line. The bus that a master makes of the line serves the plan of a
session: the device recognises both commands, and sends its register behind the second one. -/
namespace Thermowire

namespace Device
variable {device : Device}

structure Silent (device : Device) : Prop where
  slot : device.slot = none
  transmit : device.transmit = []

theorem receive_of_silent (silent : device.Silent) (now : Nat) (bit : Bool) :
    (device.openSlot now).receive bit = { device with received := device.received ++ [bit] }.obey := by
  have opened : device.openSlot now = device := by
    rw [openSlot, silent.transmit]
    change { device with slot := none, transmit := [] } = device
    rw [← silent.slot, ← silent.transmit]
  rw [opened, receive, silent.slot]
  rfl

theorem obey_of_length (unfinished : device.received.length ≠ 16) : device.obey = device := by
  have other (command : UInt8) : device.received ≠ bits Command.skipRom ++ bits command := by
    intro same
    apply unfinished
    rw [same, List.length_append, length_bits, length_bits]
  rw [obey, if_neg (other _), if_neg (other _)]

theorem obey_eq (device : Device) : device.obey =
    { device with
      conversions := device.conversions +
        if device.received = bits Command.skipRom ++ bits Command.convert then 1 else 0
      transmit := device.transmit ++
        if device.received = bits Command.skipRom ++ bits Command.readScratchpad then
          device.register.elim [] registerBits
        else [] } := by
  have other : bits Command.skipRom ++ bits Command.convert ≠ bits Command.skipRom ++ bits Command.readScratchpad := by
    decide
  unfold obey
  by_cases convert : device.received = bits Command.skipRom ++ bits Command.convert
  · rw [if_pos convert, if_pos convert, convert, if_neg other, List.append_nil]
  · rw [if_neg convert, if_neg convert]
    by_cases read : device.received = bits Command.skipRom ++ bits Command.readScratchpad
    · rw [if_pos read, if_pos read]
      rfl
    · rw [if_neg read, if_neg read, List.append_nil]
      rfl

@[simp] theorem received_obey : device.obey.received = device.received := by rw [obey_eq]
@[simp] theorem register_obey : device.obey.register = device.register := by rw [obey_eq]
@[simp] theorem present_obey : device.obey.present = device.present := by rw [obey_eq]
@[simp] theorem window_obey : device.obey.window = device.window := by rw [obey_eq]
@[simp] theorem slot_obey : device.obey.slot = device.slot := by rw [obey_eq]

theorem obey_convert (told : device.received = bits Command.skipRom ++ bits Command.convert) :
    device.obey = { device with conversions := device.conversions + 1 } := if_pos told

theorem obey_readScratchpad (device : Device) {pad : Scratchpad}
    (told : device.received = bits Command.skipRom ++ bits Command.readScratchpad)
    (register : device.register = some pad) (silent : device.transmit = []) :
    device.obey = { device with transmit := registerBits pad } := by
  have other : device.received ≠ bits Command.skipRom ++ bits Command.convert := by
    rw [told]
    decide
  rw [obey, if_neg other, if_pos told, register, silent]
  rfl

theorem registerBits_inj {pad other : Scratchpad} (same : registerBits pad = registerBits other) :
    pad = other := by
  have equal := List.append_inj same ((length_bits _).trans (length_bits _).symm)
  have low := congrArg ofBits equal.1
  have high := congrArg ofBits equal.2
  rw [ofBits_bits, ofBits_bits] at low high
  cases pad
  cases other
  cases low
  cases high
  rfl

theorem holdsLow_slot {now : Nat} {bit : Bool} (spent : ∀ window ∈ device.window, window.2 ≤ now)
    (sends : device.slot = some (now, bit)) : device.holdsLow (now + 10000) = !bit := by
  have within : now + 10000 < now + 15000 := by omega
  have sent : (!bit && decide (now + 10000 < now + 15000)) = !bit := by
    rw [decide_eq_true within, Bool.and_true]
  cases kept : device.window with
  | none =>
    rw [holdsLow, kept, sends, Option.any_none, Option.any_some, Bool.false_or]
    exact sent
  | some window =>
    have outside : ¬ now + 10000 < window.2 := by
      have bound := spent window kept
      omega
    have passed : (decide (window.1 ≤ now + 10000) && decide (now + 10000 < window.2)) = false := by
      rw [decide_eq_false outside, Bool.and_false]
    rw [holdsLow, kept, sends, Option.any_some, Option.any_some]
    change ((decide (window.1 ≤ now + 10000) && decide (now + 10000 < window.2)) ||
      (!bit && decide (now + 10000 < now + 15000))) = !bit
    rw [passed, sent, Bool.false_or]

/-- The device that has been reset, is about to answer, and has received these bits since. -/
def addressed (device : Device) (now : Nat) (wire : List Bool) : Device :=
  { device with slot := none, received := wire, window := some (now + 15000, now + 135000) }

theorem holdsLow_addressed (now later : Nat) (wire : List Bool) : (device.addressed now wire).holdsLow later =
    (decide (now + 15000 ≤ later) && decide (later < now + 135000)) := by
  rw [holdsLow, addressed, Option.any_some, Option.any_none, Bool.or_false]

theorem answers_addressed (device : Device) (now : Nat) (wire : List Bool) :
    (device.addressed now wire).holdsLow (now + 70000) = true ∧
      (device.addressed now wire).holdsLow (now + 480000) = false := by
  constructor
  · have begun : now + 15000 ≤ now + 70000 := by omega
    have lasting : now + 70000 < now + 135000 := by omega
    rw [holdsLow_addressed, decide_eq_true begun, decide_eq_true lasting, Bool.and_true]
  · have spent : ¬ now + 480000 < now + 135000 := by omega
    rw [holdsLow_addressed, decide_eq_false spent, Bool.and_false]

end Device

namespace Line
variable {line : Line} {device : Device} {direction : Direction} {now : Nat}

abbrev bus : World (BitInterface Presence (MasterError Misuse)).surrounded (Direction × Line) :=
  World.onPin Line.pin

theorem bus_own (call : BitCall) (direction : Direction) (line : Line) :
    ∃ history answer left last, bus (.own call) (direction, line) = (answer, left, last) ∧
      call.CourseOnPin direction history left answer ∧ Carries Line.pin line history last :=
  ⟨_, _, _, _, rfl, BitCall.course_onPin (Program.course_run _ Line.pin line),
    Program.carries_run _ Line.pin line⟩

theorem reset_opened (present : line.device.present = true) (silent : line.device.transmit = []) (now : Nat) :
    line.opened.reset now = line.device.addressed now [] := by
  have slotless : ({ line.device with slot := none, transmit := [] } : Device).addressed now [] =
      line.device.addressed now [] := by
    rw [← silent]
    rfl
  by_cases low : line.low = true
  · rw [opened, if_pos low, Device.reset, if_pos present]
    rfl
  · rw [← slotless, opened, if_neg low, Device.openSlot, silent]
    change Device.reset { line.device with slot := none, transmit := [] } now = _
    rw [Device.reset, if_pos present]
    rfl

/-- A device that is there and sends nothing answers every reset. -/
theorem bus_reset (direction : Direction) (timely : line.Timely) (present : line.device.present = true)
    (silent : line.device.transmit = []) :
    ∃ left last, bus (.own .reset) (direction, line) = (.ok (.ofSamples true true), left, last) ∧
      last.Rests (line.now + 960000) (line.device.addressed (line.now + 480000) []) := by
  obtain ⟨history, answer, left, last, same, course, carries⟩ := bus_own .reset direction line
  rw [same]
  cases course with
  | reset course =>
    obtain ⟨rfl, rests⟩ := carries_reset timely course carries
    obtain ⟨answered, recovered⟩ := line.device.answers_addressed (line.now + 480000) []
    have time : line.now + 480000 + 480000 = line.now + 960000 := by omega
    rw [reset_opened present silent, time] at rests
    refine ⟨left, last, ?_, rests⟩
    rw [reset_opened present silent, answered, recovered]
    rfl

theorem bus_write (direction : Direction) (bit : Bool) (rests : line.Rests now device) (silent : device.Silent) :
    ∃ left last, bus (.own (.write bit)) (direction, line) = (.ok (), left, last) ∧
      last.Rests (now + writeTime bit) { device with received := device.received ++ [bit] }.obey := by
  obtain ⟨history, answer, left, last, same, course, carries⟩ := bus_own (.write bit) direction line
  rw [same]
  cases course with
  | write course =>
    obtain ⟨rfl, after⟩ := carries_write rests.released course carries
    rw [rests.now, rests.device, Device.receive_of_silent silent] at after
    exact ⟨left, last, rfl, after⟩

theorem bus_read {bit : Bool} {rest : List Bool} (direction : Direction) (rests : line.Rests now device)
    (sends : device.transmit = bit :: rest) (spent : ∀ window ∈ device.window, window.2 ≤ now) :
    ∃ left last, bus (.own .read) (direction, line) = (.ok bit, left, last) ∧
      last.Rests (now + 60000) { device with slot := some (now, bit), transmit := rest } := by
  obtain ⟨history, answer, left, last, same, course, carries⟩ := bus_own .read direction line
  rw [same]
  cases course with
  | read course =>
    obtain ⟨rfl, after⟩ := carries_read rests.released course carries
    have opened : (device.openSlot now).receive true =
        { device with slot := some (now, bit), transmit := rest } := by
      rw [Device.openSlot, sends]
      rfl
    have level : Device.holdsLow { device with slot := some (now, bit), transmit := rest } (now + 10000) =
        !bit := Device.holdsLow_slot spent rfl
    rw [rests.now, rests.device, opened] at after
    refine ⟨left, last, ?_, after⟩
    rw [rests.now, rests.device, opened, level, Bool.not_not]
    rfl

def sendTime : List Bool → Nat
  | [] => 0
  | bit :: wire => writeTime bit + sendTime wire

/-- Bits written one after the other reach the device in order; it obeys once there are two bytes. -/
theorem serves_writes (direction : Direction) (wire : List Bool) (rests : line.Rests now device)
    (silent : device.Silent) (unfinished : device.received.length < 16)
    (fits : device.received.length + wire.length ≤ 16) :
    ∃ left last, Serves bus (direction, line) (wire.map fun bit => .own (.write bit)) [] (left, last) ∧
      last.Rests (now + sendTime wire) { device with received := device.received ++ wire }.obey := by
  induction wire generalizing line device direction now with
  | nil =>
    have waiting : device.obey = device := Device.obey_of_length (Nat.ne_of_lt unfinished)
    refine ⟨direction, line, .nil _, ?_⟩
    rw [List.append_nil, waiting]
    exact rests
  | cons bit wire ih =>
    obtain ⟨left, next, answered, rested⟩ := bus_write direction bit rests silent
    -- The command is complete with the last bit at the earliest.
    by_cases done : wire = []
    · subst done
      exact ⟨left, next, .first answered rfl (.nil _), rested⟩
    · have more := List.length_pos_iff.mpr done
      have counted : (device.received ++ [bit]).length = device.received.length + 1 := List.length_append
      rw [List.length_cons] at fits
      have short : (device.received ++ [bit]).length < 16 := by omega
      have room : (device.received ++ [bit]).length + wire.length ≤ 16 := by omega
      have waiting : Device.obey { device with received := device.received ++ [bit] } =
          { device with received := device.received ++ [bit] } := Device.obey_of_length (Nat.ne_of_lt short)
      rw [waiting] at rested
      obtain ⟨right, last, served, after⟩ := ih left rested ⟨silent.slot, silent.transmit⟩ short room
      refine ⟨right, last, .first answered rfl served, ?_⟩
      rw [List.append_assoc] at after
      rw [sendTime, ← Nat.add_assoc]
      exact after

theorem serves_reads (direction : Direction) (wire : List Bool) (rests : line.Rests now device)
    (sends : device.transmit = wire) (spent : ∀ window ∈ device.window, window.2 ≤ now) :
    ∃ left last slot, Serves bus (direction, line) (.replicate wire.length (.own .read)) wire (left, last) ∧
      last.Rests (now + wire.length * 60000) { device with slot, transmit := [] } := by
  induction wire generalizing line device direction now with
  | nil =>
    have same : { device with transmit := [] } = device := by rw [← sends]
    refine ⟨direction, line, device.slot, .nil _, ?_⟩
    rw [same, List.length_nil, Nat.zero_mul]
    exact rests
  | cons bit wire ih =>
    obtain ⟨left, next, answered, rested⟩ := bus_read direction rests sends spent
    have later : ∀ window ∈ device.window, window.2 ≤ now + 60000 := by
      intro window kept
      have bound := spent window kept
      omega
    obtain ⟨right, last, slot, served, after⟩ := ih left rested rfl later
    have time : now + 60000 + wire.length * 60000 = now + (bit :: wire).length * 60000 := by
      rw [List.length_cons]
      omega
    rw [time] at after
    exact ⟨right, last, slot, .first answered rfl served, after⟩

theorem bitwise_command (command : UInt8) (phase : Phase) : (bitwise (commandPlan command phase)).map Prod.fst =
    .own .reset :: (bits Command.skipRom ++ bits command).map fun bit => .own (.write bit) := by
  simp only [commandPlan, bitwise_own, BusCall.bitCalls, List.map_append, List.map_map]
  rfl

theorem serves_command (direction : Direction) (command : UInt8) (phase : Phase) (timely : line.Timely)
    (present : line.device.present = true) (silent : line.device.transmit = []) :
    let wire := bits Command.skipRom ++ bits command
    ∃ left last, Serves bus (direction, line) ((bitwise (commandPlan command phase)).map Prod.fst) [] (left, last) ∧
      last.Rests (line.now + 960000 + sendTime wire)
        (line.device.addressed (line.now + 480000) wire).obey := by
  intro wire
  have length : wire.length = 16 := by rw [List.length_append, length_bits, length_bits]
  obtain ⟨left, next, answered, rested⟩ := bus_reset direction timely present silent
  have quiet : (line.device.addressed (line.now + 480000) []).Silent := ⟨rfl, silent⟩
  have unfinished : ([] : List Bool).length < 16 := by decide
  have fits : ([] : List Bool).length + wire.length ≤ 16 := by
    rw [length]
    decide
  obtain ⟨right, last, served, after⟩ := serves_writes left wire rested quiet unfinished fits
  rw [bitwise_command]
  exact ⟨right, last, .first answered rfl served, after⟩

theorem serves_conversion (direction : Direction) (timely : line.Timely) (present : line.device.present = true)
    (silent : line.device.transmit = []) :
    ∃ left last, Serves bus (direction, line) ((bitwise Session.conversionPlan).map Prod.fst) [] (left, last) ∧
      last.low = false ∧ last.now = line.now + 751970000 ∧
      last.device.conversions = line.device.conversions + 1 ∧ last.device.transmit = [] ∧
      last.device.present = line.device.present ∧ last.device.register = line.device.register := by
  obtain ⟨left, next, served, rested⟩ :=
    serves_command direction Command.convert .convertReset timely present silent
  have sending : sendTime (bits Command.skipRom ++ bits Command.convert) = 1010000 := by decide
  have waiting : Session.conversionTime.nanoseconds = 750000000 := by
    simp [Session.conversionTime, Wait.nanoseconds, TimeUnit.nanoseconds]
  have waits : Serves bus (left, next) [.ambient (.wait Session.conversionTime)] []
      (left, next.elapse Session.conversionTime) := .first rfl rfl (.nil _)
  rw [sending, Device.obey_convert rfl] at rested
  refine ⟨left, next.elapse Session.conversionTime, ?_, rested.released, ?_, ?_⟩
  · rw [Session.conversionPlan, bitwise_append, List.map_append]
    exact served.append waits
  · calc
      (next.elapse Session.conversionTime).now = next.now + 750000000 := by rw [now_elapse, waiting]
      _ = line.now + 960000 + 1010000 + 750000000 := by rw [rested.now]
      _ = line.now + 751970000 := by simp only [Nat.add_assoc, Nat.reduceAdd]
  · rw [device_elapse, rested.device]
    exact ⟨rfl, silent, rfl, rfl⟩

theorem serves_register (direction : Direction) {pad : Scratchpad} (timely : line.Timely)
    (present : line.device.present = true) (silent : line.device.transmit = [])
    (register : line.device.register = some pad) :
    ∃ left last, Serves bus (direction, line) ((bitwise Session.registerPlan).map Prod.fst)
        (Device.registerBits pad) (left, last) ∧
      last.now = line.now + 2910000 ∧ last.device.conversions = line.device.conversions ∧
      last.device.transmit = [] ∧
      last.device.received = bits Command.skipRom ++ bits Command.readScratchpad := by
  obtain ⟨left, next, served, rested⟩ :=
    serves_command direction Command.readScratchpad .readReset timely present silent
  have sending : sendTime (bits Command.skipRom ++ bits Command.readScratchpad) = 990000 := by decide
  rw [sending, (line.device.addressed _ _).obey_readScratchpad rfl register silent] at rested
  have spent : ∀ window ∈ some (line.now + 480000 + 15000, line.now + 480000 + 135000),
      window.2 ≤ line.now + 960000 + 990000 := by
    intro window kept
    cases kept
    omega
  have length : (Device.registerBits pad).length = 16 := by
    rw [Device.registerBits, List.length_append, length_bits, length_bits]
  obtain ⟨right, last, slot, read, after⟩ := serves_reads left (Device.registerBits pad) rested rfl spent
  rw [length] at read after
  refine ⟨right, last, ?_, ?_, ?_⟩
  · rw [Session.registerPlan, bitwise_append, List.map_append]
    exact served.append read
  · calc
      last.now = line.now + 960000 + 990000 + 16 * 60000 := after.now
      _ = line.now + 2910000 := by simp only [Nat.add_assoc, Nat.reduceAdd, Nat.reduceMul]
  · rw [after.device]
    exact ⟨rfl, rfl, rfl⟩

theorem serves_cycle (direction : Direction) {pad : Scratchpad} (timely : line.Timely)
    (present : line.device.present = true) (silent : line.device.transmit = [])
    (register : line.device.register = some pad) :
    ∃ left last, Serves bus (direction, line) ((bitwise SensorStep.readTemperature.plan).map Prod.fst)
        (Device.registerBits pad) (left, last) ∧
      last.now = line.now + 754880000 ∧ last.device.conversions = line.device.conversions + 1 ∧
      last.device.transmit = [] ∧
      last.device.received = bits Command.skipRom ++ bits Command.readScratchpad := by
  obtain ⟨left, next, converted, released, time, count, unsent, there, kept⟩ :=
    serves_conversion direction timely present silent
  have ready : next.Timely := by
    intro low
    rw [released] at low
    cases low
  obtain ⟨right, last, read, later, same, sent, told⟩ :=
    serves_register left ready (there.trans present) unsent (kept.trans register)
  refine ⟨right, last, ?_, ?_, same.trans count, sent, told⟩
  · rw [SensorStep.plan, bitwise_append, List.map_append]
    exact converted.append read
  · calc
      last.now = next.now + 2910000 := later
      _ = line.now + 751970000 + 2910000 := by rw [time]
      _ = line.now + 754880000 := by simp only [Nat.add_assoc, Nat.reduceAdd]

theorem outcome_perform (step : MasterStep) (rig : Rig) (line : Line) :
    (perform (.master step) (rig, line)).1.outcome = ((step.program.run rig).run Line.pin line).value.1 := rfl

theorem state_perform (step : MasterStep) (rig : Rig) (line : Line) : (perform (.master step) (rig, line)).2 =
    (((step.program.run rig).run Line.pin line).value.2, ((step.program.run rig).run Line.pin line).state) := rfl

def cycle : Rig × Line → Report × Rig × Line := perform (.master (.session (.sensor .readTemperature)))

/-- A cycle over the line, from whatever state it is in, with a device that is there and sends nothing:
what it gives is what its register decodes to, the code of its two bytes if that lies between -55 and 125
degrees. It takes the same time for every register, in which the device converts once, sends all of its
register, and is left with the last command. -/
theorem cycle_reads_register {state : Rig × Line} {pad : Scratchpad} (reachable : Reachable state)
    (present : state.2.device.present = true) (silent : state.2.device.transmit = [])
    (register : state.2.device.register = some pad) :
    let code := ((pad.high.toUInt16 <<< 8) ||| pad.low.toUInt16).toInt16
    ((cycle state).1.outcome, (cycle state).2.1.phase) = (match pad.decode with
        | .ok reading => (.ok (.temperature reading), .decoded)
        | .error refused => (.error (.sensor (.outOfRange refused)), .reading)) ∧
      (cycle state).1.outcome = (if -880 ≤ code.toInt ∧ code.toInt ≤ 2000 then .ok (.temperature ⟨code⟩)
        else .error (.sensor (.outOfRange ⟨code⟩))) ∧
      (cycle state).2.2.device.conversions = state.2.device.conversions + 1 ∧
      (cycle state).2.2.device.transmit = [] ∧
      (cycle state).2.2.device.received = bits Command.skipRom ++ bits Command.readScratchpad ∧
      (cycle state).2.2.now = state.2.now + 754880000 := by
  intro code
  have timely : state.2.Timely := reachable.timely
  obtain ⟨rig, line⟩ := state
  have outcome := outcome_perform (.session (.sensor .readTemperature)) rig line
  have left := state_perform (.session (.sensor .readTemperature)) rig line
  rw [← cycle] at outcome left
  generalize cycle (rig, line) = performed at outcome left ⊢
  obtain ⟨report, after⟩ := performed
  have deaf (record : Record) (state : Line) : (Line.pin (.ambient (.log record)) state).2 = state := rfl
  obtain ⟨direction, last, served, time, count, sent, told⟩ :=
    serves_cycle rig.direction timely present silent register
  obtain ⟨result, ⟨read, wire, finished⟩, value, same⟩ := MasterStep.sensor_of_serves rig deaf served
  -- the bits that were read determine the register
  obtain rfl : pad = read := Device.registerBits_inj wire
  rw [value] at outcome
  rw [value, same] at left
  obtain rfl : after = (⟨result.2, direction⟩, last) := left
  refine ⟨?_, ?_, count, sent, told, time⟩
  · change (report.outcome, result.2) = _
    rw [outcome, finished]
    cases pad.decode <;> rfl
  · change report.outcome = _
    rw [outcome, finished, pad.decode_eq]
    by_cases rated : -880 ≤ pad.raw.toInt ∧ pad.raw.toInt ≤ 2000
    · rw [if_pos rated]
      exact (if_pos rated).symm
    · rw [if_neg rated]
      exact (if_neg rated).symm

/-- The cycle begins well even on a line that is held low from its other end. -/
theorem cycle_from_line_held_low :
    let held := (perform (.pin (.drive false)) (perform (.pin .setOutput)
      (perform (.register (some ⟨0x91, 0x01⟩)) ({}, .fresh true)).2).2).2
    held.2.low = true ∧ (cycle held).1.outcome = .ok (.temperature ⟨401⟩) ∧
      (cycle held).2.2.now = 754880000 := by
  intro held
  have reachable : Reachable held := .step (.step (.step (.fresh true) _) _) _
  have begun : held.2.now = 0 := rfl
  obtain ⟨-, read, -, -, -, time⟩ := cycle_reads_register reachable rfl rfl rfl
  rw [begun, Nat.zero_add] at time
  exact ⟨rfl, read.trans (if_pos (by decide)), time⟩

end Line

end Thermowire
