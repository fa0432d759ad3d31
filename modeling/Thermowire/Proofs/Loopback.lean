import Thermowire.Proofs.Slots
import Thermowire.Proofs.Transport

/-! Bytes out and back. Bytes that are written to a line at rest reach its device bit by bit, and when the device is to
send what it has received, as many bytes are read back. Main statement: they are the same bytes in the same order, in
a time that the zeros among their bits tell. -/
namespace Thermowire

theorem prefix_of_bits {start whole : List UInt8} (begins : start.flatMap bits <+: whole.flatMap bits) :
    start <+: whole := by
  induction start generalizing whole with
  | nil => exact List.nil_prefix
  | cons byte start ih =>
    cases whole with
    | nil =>
      have long := begins.length_le
      rw [List.flatMap_cons, List.length_append, length_bits] at long
      exact absurd long (by simp)
    | cons first whole =>
      obtain ⟨rest, same⟩ := begins
      rw [List.flatMap_cons, List.flatMap_cons, List.append_assoc] at same
      obtain ⟨equal, others⟩ := List.append_inj same ((length_bits _).trans (length_bits _).symm)
      have both := congrArg ofBits equal
      rw [ofBits_bits, ofBits_bits] at both
      exact List.cons_prefix_cons.mpr ⟨both, ih ⟨rest, others⟩⟩

theorem length_flatMap_bits (bytes : List UInt8) : (bytes.flatMap bits).length = 8 * bytes.length := by
  induction bytes with
  | nil => rfl
  | cons byte bytes ih =>
    rw [List.flatMap_cons, List.length_append, length_bits, ih, List.length_cons]
    omega

namespace Line

theorem sendTime_eq (wire : List Bool) : sendTime wire = 60000 * wire.length + 5000 * wire.count false := by
  induction wire with
  | nil => rfl
  | cons bit wire ih =>
    rw [sendTime, ih, List.length_cons, List.count_cons]
    cases bit
    · change 65000 + _ = _ + 5000 * (_ + 1)
      omega
    · change 60000 + _ = _ + 5000 * (_ + 0)
      omega

theorem sendTime_append (first second : List Bool) :
    sendTime (first ++ second) = sendTime first + sendTime second := by
  rw [sendTime_eq, sendTime_eq, sendTime_eq, List.length_append, List.count_append]
  omega

theorem sendTime_bytes (bytes : List UInt8) :
    sendTime (bytes.flatMap bits) = 480000 * bytes.length + 5000 * (bytes.flatMap bits).count false := by
  rw [sendTime_eq, length_flatMap_bits]
  omega

end Line

namespace Device
variable {device : Device} {phase : Phase} {now : Nat}

/-- A device that sends nothing and is not asked for its register receives all bits that are sent to it. -/
theorem play_silent (slots : List BitSlot) (silent : device.transmit = [])
    (unasked : device.register = none ∨
      ¬ Command.Came Command.readScratchpad device.received (device.received ++ slots.map BitSlot.bit)) :
    (device.play slots).received = device.received ++ slots.map BitSlot.bit ∧ (device.play slots).transmit = [] := by
  induction slots generalizing device with
  | nil => exact ⟨(List.append_nil _).symm, silent⟩
  | cons slot slots ih =>
    obtain ⟨middle, sampled, settles, kept, -, played, -⟩ := play_settles slot slots device
    rw [played]
    cases settles with
    | sends waiting => exact absurd (silent.symm.trans waiting) (List.cons_ne_nil _ _).symm
    | receives _ received conversions transmit =>
      have whole : device.received ++ (slot :: slots).map BitSlot.bit =
          middle.received ++ slots.map BitSlot.bit := by
        rw [received, List.append_assoc]
        rfl
      rw [whole] at unasked ⊢
      rcases unasked with none | uncalled
      · have quiet : middle.transmit = [] := by
          rw [transmit, none]
          exact ite_self _
        exact ih quiet (.inl (kept.trans none))
      · have grows : device.received ++ [slot.bit] <+: middle.received ++ slots.map BitSlot.bit := by
          rw [received]
          exact List.prefix_append _ _
        -- The bit completes no command, or the one that does not come.
        obtain ⟨-, came, -⟩ | ⟨untold, same⟩ := Command.came_cases Command.readScratchpad grows
        · exact absurd came uncalled
        · rw [same, ← received] at uncalled
          rw [← received] at untold
          rw [if_neg untold] at transmit
          exact ih transmit (.inr uncalled)

theorem with_transmit {rest : List Bool} (sends : device.transmit = rest) : { device with transmit := rest } = device := by
  rw [← sends]

theorem carries_bitsWritten (wire : List Bool) (device : Device) (now : Nat) :
    Carries bus (device, now) (bitsWritten wire) (device.play (wire.map .write), now + Line.sendTime wire) := by
  induction wire generalizing device now with
  | nil => exact rfl
  | cons bit wire ih =>
    rw [Line.sendTime, ← Nat.add_assoc]
    exact ⟨rfl, ih (device.slotted bit) (now + Line.writeTime bit)⟩

theorem carries_bitsRead (wire rest : List Bool) (sends : device.transmit = wire ++ rest) (now : Nat) :
    Carries bus (device, now) (bitsRead wire) ({ device with transmit := rest }, now + wire.length * 60000) := by
  induction wire generalizing device now with
  | nil =>
    rw [List.nil_append] at sends
    rw [with_transmit sends]
    exact rfl
  | cons bit wire ih =>
    have next : device.next = bit := by
      rw [next, sends]
      rfl
    have slotted : device.slotted true = { device with transmit := wire ++ rest } := by
      rw [slotted, sends]
      rfl
    have time : now + (bit :: wire).length * 60000 = now + 60000 + wire.length * 60000 := by
      rw [List.length_cons]
      omega
    rw [time]
    refine ⟨congrArg Except.ok next.symm, ?_⟩
    change Carries bus (device.slotted true, now + 60000) _ _
    rw [slotted]
    exact @ih { device with transmit := wire ++ rest } rfl (now + 60000)

theorem perform_writeByte (byte : UInt8) (phase : Phase) (device : Device) (now : Nat) :
    perform (.bus (.writeByte byte)) (phase, device, now) =
      (.ok .nothing, phase, device.play ((bits byte).map .write), now + Line.sendTime (bits byte)) := by
  have course : ((SessionStep.bus (.writeByte byte)).program.run phase).byBits.Course (bitsWritten (bits byte))
      ((.ok .nothing : Outcome Presence (MasterError Misuse)), phase) :=
    Program.course_bind.mpr ⟨_, .ok (), [], BusCall.course_writeByte byte, ⟨rfl, rfl⟩, (List.append_nil _).symm⟩
  unfold perform
  dsimp only
  rw [Program.run_eq_of_carries course (carries_bitsWritten (bits byte) device now)]

theorem perform_readByte (byte : UInt8) (rest : List Bool) (phase : Phase) (now : Nat)
    (sends : device.transmit = bits byte ++ rest) : perform (.bus .readByte) (phase, device, now) =
      (.ok (.byte byte), phase, { device with transmit := rest }, now + 480000) := by
  have course : ((SessionStep.bus .readByte).program.run phase).byBits.Course (bitsRead (bits byte))
      ((.ok (.byte byte) : Outcome Presence (MasterError Misuse)), phase) :=
    Program.course_bind.mpr ⟨_, .ok byte, [], BusCall.course_readByte byte, ⟨rfl, rfl⟩, (List.append_nil _).symm⟩
  have carries := carries_bitsRead (bits byte) rest sends now
  rw [length_bits] at carries
  unfold perform
  dsimp only
  rw [Program.run_eq_of_carries course carries]

def writes (bytes : List UInt8) : List SessionStep := bytes.map fun byte => .bus (.writeByte byte)

def reads (count : Nat) : List SessionStep := .replicate count (.bus .readByte)

theorem perform_writes (bytes : List UInt8) (phase : Phase) (device : Device) (now : Nat) :
    reports perform (writes bytes) (phase, device, now) = bytes.map (fun _ => .ok .nothing) ∧
      after (writes bytes) (phase, device, now) =
        (phase, device.play ((bytes.flatMap bits).map .write), now + Line.sendTime (bytes.flatMap bits)) := by
  induction bytes generalizing device now with
  | nil => exact ⟨rfl, rfl⟩
  | cons byte bytes ih =>
    have first := perform_writeByte byte phase device now
    obtain ⟨others, last⟩ := ih (device.play ((bits byte).map .write)) (now + Line.sendTime (bits byte))
    rw [writes, List.map_cons, ← writes, reports_cons, after_cons, first, others, last]
    refine ⟨rfl, ?_⟩
    rw [List.flatMap_cons, Line.sendTime_append, Nat.add_assoc, List.map_append, play, play, play, List.foldl_append]

theorem perform_reads (bytes : List UInt8) (rest : List Bool) (phase : Phase) (now : Nat)
    (sends : device.transmit = bytes.flatMap bits ++ rest) :
    reports perform (reads bytes.length) (phase, device, now) = bytes.map (fun byte => .ok (.byte byte)) ∧
      after (reads bytes.length) (phase, device, now) =
        (phase, { device with transmit := rest }, now + 480000 * bytes.length) := by
  induction bytes generalizing device now with
  | nil =>
    rw [List.flatMap_nil, List.nil_append] at sends
    rw [with_transmit sends]
    exact ⟨rfl, rfl⟩
  | cons byte bytes ih =>
    rw [List.flatMap_cons, List.append_assoc] at sends
    have first := perform_readByte byte _ phase now sends
    obtain ⟨others, last⟩ := @ih { device with transmit := bytes.flatMap bits ++ rest } (now + 480000) rfl
    have time : now + 480000 * (byte :: bytes).length = now + 480000 + 480000 * bytes.length := by
      rw [List.length_cons]
      omega
    rw [List.length_cons, reads, List.replicate_succ, ← reads, reports_cons, after_cons, first, others, last, ← time]
    exact ⟨rfl, rfl⟩

end Device

namespace Line

def send (bytes : List UInt8) : List Step := sessions (Device.writes bytes)

def fetch (count : Nat) : List Step := sessions (Device.reads count)

/-- Bytes that do not ask for a register that the device has are received bit by bit. -/
theorem send_idle (bytes : List UInt8) {state : Rig × Line} (idle : state.2.Idle)
    (unheard : state.2.device.received = []) (silent : state.2.device.transmit = [])
    (unasked : state.2.device.register = none ∨ ¬ [Command.skipRom, Command.readScratchpad] <+: bytes) :
    outcomes (send bytes) state = bytes.map (fun _ => .ok .nothing) ∧
      (after (send bytes) state).2.device.received = bytes.flatMap bits ∧
      (after (send bytes) state).2.device.transmit = [] ∧
      (after (send bytes) state).2.now = state.2.now + sendTime (bytes.flatMap bits) := by
  obtain ⟨outcome, -, seen⟩ := performs_idle (Device.writes bytes) idle
  obtain ⟨reported, left⟩ := Device.perform_writes bytes state.1.phase state.2.device.bare state.2.now
  have uncalled : state.2.device.bare.register = none ∨
      ¬ Command.Came Command.readScratchpad state.2.device.bare.received
        (state.2.device.bare.received ++ ((bytes.flatMap bits).map BitSlot.write).map BitSlot.bit) := by
    refine unasked.imp id fun other came => other ?_
    have begins := came.2
    rw [BitSlot.bits_write, Device.received_bare, unheard] at begins
    exact prefix_of_bits begins
  have quiet : state.2.device.bare.transmit = [] := silent
  obtain ⟨received, transmit⟩ := Device.play_silent _ quiet uncalled
  rw [BitSlot.bits_write, Device.received_bare, unheard] at received
  rw [left] at seen
  rw [← send] at outcome seen
  generalize after (send bytes) state = last at seen ⊢
  refine ⟨outcome.trans reported, ?_, ?_, congrArg Prod.snd seen⟩
  · rw [← Device.received_bare, ← device_gist, seen]
    exact received
  · rw [← Device.transmit_bare, ← device_gist, seen]
    exact transmit

theorem fetch_idle (bytes : List UInt8) {state : Rig × Line} (idle : state.2.Idle)
    (unheard : state.2.device.received = []) (sends : state.2.device.transmit = bytes.flatMap bits) :
    outcomes (fetch bytes.length) state = bytes.map (fun byte => .ok (.byte byte)) ∧
      (after (fetch bytes.length) state).2.device.received = [] ∧
      (after (fetch bytes.length) state).2.device.transmit = [] ∧
      (after (fetch bytes.length) state).2.now = state.2.now + 480000 * bytes.length := by
  have waiting : state.2.device.bare.transmit = bytes.flatMap bits ++ [] := by
    rw [List.append_nil]
    exact sends
  obtain ⟨outcome, -, seen⟩ := performs_idle (Device.reads bytes.length) idle
  obtain ⟨reported, left⟩ := Device.perform_reads bytes [] state.1.phase state.2.now waiting
  rw [left] at seen
  rw [← fetch] at outcome seen
  generalize after (fetch bytes.length) state = last at seen ⊢
  refine ⟨outcome.trans reported, ?_, ?_, congrArg Prod.snd seen⟩
  · rw [← Device.received_bare, ← device_gist, seen]
    exact unheard
  · rw [← Device.transmit_bare, ← device_gist, seen]

/-- Bytes come back as they were written, unless they ask for a register that the device has. They are received bit by
bit, and when they have been moved they are read in order, with nothing left in the device. Each byte takes 480 µs to
read, and 5 µs more for each zero in it to write. -/
theorem bytes_come_back {rig : Rig} {line : Line} (tended : Tended (rig, line)) (bytes : List UInt8)
    (unheard : line.device.received = []) (silent : line.device.transmit = [])
    (unasked : line.device.register = none ∨ ¬ [Command.skipRom, Command.readScratchpad] <+: bytes) :
    let written := after (send bytes) (rig, line)
    let moved := (perform .echo written).2
    let back := after (fetch bytes.length) moved
    outcomes (send bytes) (rig, line) = bytes.map (fun _ => .ok .nothing) ∧
      written.2.device.received = bytes.flatMap bits ∧ written.2.device.transmit = [] ∧
      written.2.now = line.now + (480000 * bytes.length + 5000 * (bytes.flatMap bits).count false) ∧
      outcomes (fetch bytes.length) moved = bytes.map (fun byte => .ok (.byte byte)) ∧
      back.2.device.received = [] ∧ back.2.device.transmit = [] ∧
      back.2.now = written.2.now + 480000 * bytes.length := by
  obtain ⟨outcome, received, transmit, time⟩ := send_idle bytes tended.idle unheard silent unasked
  rw [sendTime_bytes] at time
  have next : Tended (after (send bytes) (rig, line)) := tended.sessions _
  generalize after (send bytes) (rig, line) = written at received transmit time next ⊢
  have moved : Tended (perform .echo written).2 := next.step .echo rfl
  have waiting : (perform .echo written).2.2.device.transmit = bytes.flatMap bits := by
    change written.2.device.transmit ++ written.2.device.received = _
    rw [transmit, received]
    exact List.nil_append _
  obtain ⟨read, empty, spent, later⟩ := fetch_idle bytes moved.idle rfl waiting
  exact ⟨outcome, received, transmit, time, read, empty, spent, later⟩

/-- The device has a register and is asked for it, but not with the first two bytes: they come back with the others. -/
theorem bytes_come_back_command_inside :
    let line : Line := { device := { present := true, register := some ⟨0x91, 0x01⟩ } }
    let bytes : List UInt8 := [0xa5, 0xcc, 0xbe]
    let written := after (send bytes) ({}, line)
    let moved := (perform .echo written).2
    Tended ({}, line) ∧ ¬ [Command.skipRom, Command.readScratchpad] <+: bytes ∧
      written.2.device.received = bytes.flatMap bits ∧ written.2.now = 1490000 ∧
      outcomes (fetch 3) moved = bytes.map (fun byte => .ok (.byte byte)) ∧
      (after (fetch 3) moved).2.device.transmit = [] ∧ (after (fetch 3) moved).2.now = 2930000 := by
  intro line bytes
  have tended : Tended ({}, line) := .step (.fresh true) (.register (some ⟨0x91, 0x01⟩)) rfl
  have other : ¬ [Command.skipRom, Command.readScratchpad] <+: bytes := by decide
  have three : bytes.length = 3 := rfl
  have sending : line.now + (480000 * bytes.length + 5000 * (bytes.flatMap bits).count false) = 1490000 := by decide
  obtain ⟨-, received, -, time, read, -, spent, later⟩ := bytes_come_back tended bytes rfl rfl (.inr other)
  generalize after (send bytes) ({}, line) = written at received time read spent later ⊢
  rw [sending] at time
  rw [time] at later
  rw [three] at read spent later
  dsimp only
  generalize (perform .echo written).2 = moved at read spent later ⊢
  exact ⟨tended, other, received, time, read, spent, later⟩

end Line
end Thermowire
