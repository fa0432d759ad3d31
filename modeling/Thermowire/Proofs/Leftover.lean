import Thermowire.Proofs.Slots

/-! What a reset leaves of an answer that was not read to its end. The device forgets what it has received, but of
what it has to send its reset takes no more than a bit; while it still sends, bits that are written do not reach it.
Main statement: sixteen bits reach it behind a reset, and a cycle behind it starts a conversion, just when little
enough was left unread. -/
namespace Thermowire

namespace Device
variable {device : Device} {now : Nat}

def commandSlots (command : UInt8) : List BitSlot := (Command.wire command).map .write

theorem heard_sublist (slots : List BitSlot) (marks : List (Option Bool)) :
    (heard slots marks).Sublist (slots.map BitSlot.bit) := by
  fun_induction heard slots marks with
  | case1 slot slots marks ih => exact ih.cons_cons _
  | case2 slot slots sent marks ih => exact ih.cons _
  | case3 slots marks => exact List.nil_sublist _

/-- Up to its sixteenth bit, a device receives what is sent to it behind the bits that it sends itself. -/
theorem received_play (slots : List BitSlot) (fits : device.received.length + slots.length ≤ 16) :
    (device.play slots).received = device.received ++ (slots.map BitSlot.bit).drop device.transmit.length := by
  induction slots generalizing device with
  | nil =>
    rw [List.map_nil, List.drop_nil]
    exact (List.append_nil _).symm
  | cons slot slots ih =>
    obtain ⟨middle, sampled, settles, -, -, played, -⟩ := play_settles slot slots device
    rw [played]
    rw [List.length_cons] at fits
    cases settles with
    | sends waiting transmit received conversions =>
      have room : middle.received.length + slots.length ≤ 16 := by
        rw [received]
        omega
      rw [ih room, received, transmit, waiting]
      rfl
    | receives silent received conversions transmit =>
      have grown : middle.received.length = device.received.length + 1 := by
        rw [received]
        exact List.length_append
      have room : middle.received.length + slots.length ≤ 16 := by omega
      rw [ih room, received, silent, List.append_assoc]
      refine congrArg (device.received ++ ·) ?_
      -- An answer is begun with the last of the sixteen bits at the earliest.
      by_cases done : slots = []
      · subst done
        exact congrArg (slot.bit :: ·) List.drop_nil
      · have more := List.length_pos_iff.mpr done
        have untold : middle.received ≠ Command.wire Command.readScratchpad := by
          intro told
          rw [told, Command.length_wire] at grown
          omega
        rw [transmit, if_neg untold]
        rfl

theorem conversions_cleared (slots : List BitSlot) : (device.cleared.play slots).conversions = device.conversions +
    if Command.wire Command.convert <+: (device.cleared.play slots).received then 1 else 0 := by
  have none : device.cleared.received = [] := rfl
  have came : Command.Came Command.convert [] (device.cleared.play slots).received ↔
      Command.wire Command.convert <+: (device.cleared.play slots).received := by
    exact and_iff_right (by decide)
  have tallied := (tallied_play slots device.cleared).conversions
  rw [none, if_congr came rfl rfl] at tallied
  exact tallied

theorem conversions_convert : (device.cleared.play (commandSlots Command.convert)).conversions =
    device.conversions + if device.transmit.length ≤ 1 then 1 else 0 := by
  have length := Command.length_wire Command.convert
  have fits : device.cleared.received.length + (commandSlots Command.convert).length ≤ 16 := by
    rw [commandSlots, List.length_map, length]
    exact Nat.le_of_eq (Nat.zero_add 16)
  have left : device.cleared.transmit.length = device.transmit.length - 1 := List.length_tail
  have received := received_play _ fits
  rw [left, commandSlots, BitSlot.bits_write, ← commandSlots] at received
  have whole : Command.wire Command.convert <+: (device.cleared.play (commandSlots Command.convert)).received ↔
      device.transmit.length ≤ 1 := by
    rw [received]
    change _ <+: List.drop _ _ ↔ _
    constructor
    · intro begins
      have long := begins.length_le
      rw [List.length_drop] at long
      omega
    · intro few
      have none : device.transmit.length - 1 = 0 := by omega
      rw [none]
      exact List.prefix_refl _
  rw [conversions_cleared, if_congr whole rfl rfl]

def registerSlots : List BitSlot := commandSlots Command.readScratchpad ++ .replicate 16 .read

/-- No conversion is started while the register is asked for and read, whatever of it is lost: the command for that
has more zeros than all these slots. -/
theorem conversions_register : (device.cleared.play registerSlots).conversions = device.conversions := by
  have heard : (device.cleared.play registerSlots).received =
      [] ++ heard registerSlots (device.cleared.marks registerSlots) :=
    (tallied_play registerSlots device.cleared).received
  rw [conversions_cleared, if_neg, Nat.add_zero]
  intro begins
  rw [heard, List.nil_append] at begins
  have zeros := (begins.sublist.trans (heard_sublist _ _)).count_le false
  revert zeros
  decide

theorem serves_slots (slots : List BitSlot) (device : Device) (now : Nat) : ∃ wire later,
    Serves bus (device, now) (slots.map fun slot => .own slot.call) wire (device.play slots, later) := by
  induction slots generalizing device now with
  | nil => exact ⟨[], now, .nil _⟩
  | cons slot slots ih =>
    obtain ⟨later, answered⟩ := bus_slot slot device now
    obtain ⟨wire, last, served⟩ := ih (device.slotted slot.bit) later
    have passed : Event.failure? (I := BitInterface Presence (MasterError Misuse))
        ⟨.own slot.call, slot.answer device.next⟩ = none := by
      cases slot <;> rfl
    exact ⟨_, last, .first answered passed served⟩

theorem serves_reset (slots : List BitSlot) (present : device.present = true) (now : Nat) : ∃ wire later,
    Serves bus (device, now) (.own .reset :: slots.map fun slot => .own slot.call) wire
      (device.cleared.play slots, later) := by
  obtain ⟨wire, later, served⟩ := serves_slots slots device.cleared (now + 960000)
  have answered : bus (.own .reset) (device, now) = (Line.found true, device.cleared, now + 960000) := by
    rw [← present]
    rfl
  exact ⟨_, later, .first answered rfl served⟩

theorem bitwise_cycle : (bitwise SensorStep.readTemperature.plan).map Prod.fst =
    (.own .reset :: (commandSlots Command.convert).map fun slot => .own slot.call) ++
      [.ambient (.wait Session.conversionTime)] ++ .own .reset :: registerSlots.map fun slot => .own slot.call := by
  have command (command : UInt8) : (commandSlots command).map (fun slot => Surrounded.own slot.call) =
      (bits Command.skipRom ++ bits command).map fun bit => .own (.write bit) := List.map_map
  rw [registerSlots, List.map_append, command, command]
  simp only [SensorStep.plan, Session.conversionPlan, Session.registerPlan, bitwise_append, List.map_append,
    Line.bitwise_command]
  rfl

theorem serves_cycle (present : device.present = true) (now : Nat) : ∃ wire later,
    Serves bus (device, now) ((bitwise SensorStep.readTemperature.plan).map Prod.fst) wire
      ((device.cleared.play (commandSlots Command.convert)).cleared.play registerSlots, later) := by
  obtain ⟨sent, converting, converts⟩ := serves_reset (commandSlots Command.convert) present now
  have waits : Serves bus (device.cleared.play (commandSlots Command.convert), converting)
      [.ambient (.wait Session.conversionTime)] [] (_, converting + Session.conversionTime.nanoseconds) :=
    .first rfl rfl (.nil _)
  have there : (device.cleared.play (commandSlots Command.convert)).present = true :=
    (tallied_play _ device.cleared).present.trans present
  obtain ⟨read, later, reads⟩ := serves_reset registerSlots there (converting + Session.conversionTime.nanoseconds)
  rw [bitwise_cycle]
  exact ⟨_, later, (converts.append waits).append reads⟩

theorem perform_cycle (present : device.present = true) (phase : Phase) (now : Nat) : ∃ later,
    (perform (.sensor .readTemperature) (phase, device, now)).2.2 =
      ((device.cleared.play (commandSlots Command.convert)).cleared.play registerSlots, later) := by
  obtain ⟨wire, later, served⟩ := serves_cycle present now
  have deaf (record : Record) (state : Device × Nat) : (bus (.ambient (.log record)) state).2 = state := rfl
  obtain ⟨-, finished⟩ := SensorStep.finishes_of_serves phase deaf served
  obtain ⟨-, stepped⟩ := SensorStep.readTemperature.run_program phase bus (device, now)
  refine ⟨later, ?_⟩
  unfold perform
  dsimp only
  rw [stepped, finished]

end Device

namespace Line
variable {line : Line}

theorem gist_reset {state : Rig × Line} (idle : state.2.Idle) :
    (reset state).2.2.gist = (state.2.device.bare.cleared, state.2.now + 960000) := by
  obtain ⟨rig, line⟩ := state
  obtain ⟨left, last, answered, -, seen⟩ := bus_idle_reset rig.direction idle
  rw [(reset_eq answered).2]
  exact seen

theorem received_writes (wire : List Bool) {state : Rig × Line} (idle : state.2.Idle)
    (fits : state.2.device.received.length + wire.length ≤ 16) :
    (after (slotSteps (wire.map .write)) state).2.device.received =
      state.2.device.received ++ wire.drop state.2.device.transmit.length := by
  obtain ⟨-, seen⟩ := perform_slots (wire.map .write) idle
  have room : state.2.device.bare.received.length + (wire.map BitSlot.write).length ≤ 16 := by
    rw [List.length_map]
    exact fits
  have received := Device.received_play (wire.map BitSlot.write) room
  rw [BitSlot.bits_write, ← seen] at received
  exact received

theorem conversions_cycle {state : Rig × Line} (idle : state.2.Idle) (present : state.2.device.present = true) :
    (cycle state).2.2.device.conversions =
      state.2.device.conversions + if state.2.device.transmit.length ≤ 1 then 1 else 0 := by
  have there : state.2.device.bare.present = true := present
  obtain ⟨later, performed⟩ := Device.perform_cycle there state.1.phase state.2.now
  obtain ⟨-, -, -, seen⟩ := perform_idle (.sensor .readTemperature) idle
  rw [performed, ← cycle] at seen
  rw [← Device.conversions_bare, ← device_gist, seen, Device.conversions_register, Device.conversions_convert]
  rw [Device.conversions_bare, Device.transmit_bare]

theorem device_reset {state : Rig × Line} (idle : state.2.Idle) :
    let device := (reset state).2.2.device
    device.received = [] ∧ device.transmit = state.2.device.transmit.tail ∧
      device.conversions = state.2.device.conversions ∧ device.present = state.2.device.present := by
  have seen := gist_reset idle
  generalize (reset state).2.2 = last at seen ⊢
  intro device
  have cleared : device.bare = state.2.device.bare.cleared := congrArg Prod.fst seen
  rw [← device.received_bare, ← device.transmit_bare, ← device.conversions_bare, ← device.present_bare, cleared]
  exact ⟨rfl, rfl, rfl, rfl⟩

theorem received_behind_reset (wire : List Bool) {state : Rig × Line} (tended : Tended state)
    (fits : wire.length ≤ 16) :
    (after (slotSteps (wire.map .write)) (reset state).2).2.device.received =
      wire.drop (state.2.device.transmit.length - 1) := by
  have next : Tended (reset state).2 := tended.step (.master (.session (.bus .reset))) rfl
  obtain ⟨received, transmit, -, -⟩ := device_reset tended.idle
  generalize (reset state).2 = left at next received transmit ⊢
  have room : left.2.device.received.length + wire.length ≤ 16 := by
    rw [received, List.length_nil]
    omega
  rw [received_writes wire next.idle room, received, transmit, List.length_tail]
  rfl

theorem conversions_behind_reset {state : Rig × Line} (tended : Tended state)
    (present : state.2.device.present = true) : (cycle (reset state).2).2.2.device.conversions =
      state.2.device.conversions + if state.2.device.transmit.length ≤ 2 then 1 else 0 := by
  have next : Tended (reset state).2 := tended.step (.master (.session (.bus .reset))) rfl
  obtain ⟨-, transmit, conversions, there⟩ := device_reset tended.idle
  generalize (reset state).2 = left at next transmit conversions there ⊢
  have few : state.2.device.transmit.tail.length ≤ 1 ↔ state.2.device.transmit.length ≤ 2 := by
    rw [List.length_tail]
    omega
  rw [conversions_cycle next.idle (there.trans present), conversions, transmit, if_congr few rfl rfl]

/-- Behind a reset the device has received nothing, and all that it had to send is there still, one bit apart. It takes
sixteen bits that are written then without those that it spends on sending, and the next cycle starts a conversion just
if there were no more than two. -/
theorem reset_leaves_unsent {rig : Rig} {line : Line} (tended : Tended (rig, line))
    (present : line.device.present = true) :
    let left := (reset (rig, line)).2
    left.2.device.received = [] ∧ left.2.device.transmit = line.device.transmit.tail ∧
      (∀ wire : List Bool, wire.length = 16 →
        (after (slotSteps (wire.map .write)) left).2.device.received =
          wire.drop (line.device.transmit.length - 1)) ∧
      (cycle left).2.2.device.conversions =
        line.device.conversions + if line.device.transmit.length ≤ 2 then 1 else 0 := by
  obtain ⟨received, transmit, -, -⟩ := device_reset tended.idle
  have taken (wire : List Bool) (length : wire.length = 16) :=
    received_behind_reset wire tended (Nat.le_of_eq length)
  exact ⟨received, transmit, taken, conversions_behind_reset tended present⟩

/-- Two bits are left unread. One goes with the reset and one with the first bit written behind it; the reset of a cycle
takes the other one just as well. -/
theorem reset_leaves_unsent_two_bits :
    let line : Line := { device := { present := true, transmit := [true, false], register := some ⟨0x91, 0x01⟩ } }
    let left := (reset ({}, line)).2
    Tended ({}, line) ∧ left.2.device.transmit = [false] ∧
      (after (slotSteps ((Command.wire Command.convert).map .write)) left).2.device.received =
        (Command.wire Command.convert).drop 1 ∧
      (cycle left).2.2.device.conversions = 1 := by
  intro line
  have tended : Tended ({}, line) := .change (.step (.fresh true) (.register (some ⟨0x91, 0x01⟩)) rfl) [] _ 0
  have two : line.device.transmit.length = 2 := rfl
  have none : line.device.conversions = 0 := rfl
  obtain ⟨-, transmit, received, conversions⟩ := reset_leaves_unsent tended rfl
  generalize (reset ({}, line)).2 = left at transmit received conversions ⊢
  have taken := received _ (Command.length_wire Command.convert)
  rw [two] at taken conversions
  rw [none, if_pos (Nat.le_refl 2), Nat.zero_add] at conversions
  exact ⟨tended, transmit, taken, conversions⟩

def unread : Rig × Line :=
  after (sessions [.bus .addressAll, .bus (.writeByte Command.readScratchpad)])
    (perform (.register (some ⟨0x91, 0x01⟩)) ({}, .fresh true)).2

theorem tended_unread : Tended unread := .sessions (.step (.fresh true) _ rfl) _

theorem gist_unread : unread.2.device.bare =
    { present := true, received := Command.wire Command.readScratchpad,
      transmit := Device.registerBits ⟨0x91, 0x01⟩, register := some ⟨0x91, 0x01⟩ } := by
  have idle : (perform (.register (some ⟨0x91, 0x01⟩)) ({}, .fresh true)).2.2.Idle :=
    (Tended.step (.fresh true) _ rfl).idle
  obtain ⟨-, -, seen⟩ := performs_idle [.bus .addressAll, .bus (.writeByte Command.readScratchpad)] idle
  rw [← device_gist, unread, seen]
  decide

/-- An answer of which nothing was read outlives a reset: the device is still sending behind it, takes the last of
sixteen bits alone, and has no conversion started by the next cycle. -/
theorem unread_answer_outlives_reset :
    Tended unread ∧ unread.2.device.present = true ∧ unread.2.device.register = some ⟨0x91, 0x01⟩ ∧
      (reset unread).2.2.device.transmit = (Device.registerBits ⟨0x91, 0x01⟩).tail ∧
      (after (slotSteps ((Command.wire Command.convert).map .write)) (reset unread).2).2.device.received =
        (Command.wire Command.convert).drop 15 ∧
      (cycle (reset unread).2).2.2.device.conversions = (reset unread).2.2.device.conversions := by
  have present : unread.2.device.present = true := by rw [← Device.present_bare, gist_unread]
  have register : unread.2.device.register = some ⟨0x91, 0x01⟩ := by rw [← Device.register_bare, gist_unread]
  have sends : unread.2.device.transmit = Device.registerBits ⟨0x91, 0x01⟩ := by
    rw [← Device.transmit_bare, gist_unread]
  obtain ⟨-, transmit, conversions, -⟩ := device_reset tended_unread.idle
  have taken := received_behind_reset (Command.wire Command.convert) tended_unread
    (Nat.le_of_eq (Command.length_wire _))
  have converted := conversions_behind_reset tended_unread present
  have many : ¬ (Device.registerBits ⟨0x91, 0x01⟩).length ≤ 2 := by decide
  rw [sends] at transmit taken converted
  rw [if_neg many, Nat.add_zero, ← conversions] at converted
  exact ⟨tended_unread, present, register, transmit, taken, converted⟩

end Line
end Thermowire
