import Mathlib.Data.List.ReduceOption
import Thermowire.Proofs.Queues

/-! Slots on a line at rest, one by one and one after the other. In each of them the device sends the bit that is next,
or receives the one that is sent to it; and what was received, is still to be sent, and was converted behind any
number of slots tells that no bit was lost on the way, doubled or turned over. -/
namespace Thermowire

inductive BitSlot where
  | write (bit : Bool)
  | read
  deriving DecidableEq, Repr

namespace BitSlot

def call : BitSlot → BitCall
  | write bit => .write bit
  | read => .read

def step : BitSlot → BusStep
  | write bit => .writeBit bit
  | read => .readBit

def bit : BitSlot → Bool
  | write bit => bit
  | read => true

def answer : (slot : BitSlot) → Bool → slot.call.Answer Presence (MasterError Misuse)
  | write _, _ => .ok ()
  | read, sampled => .ok sampled

def value : BitSlot → Bool → Value Presence
  | write _, _ => .nothing
  | read, sampled => .bit sampled

theorem bits_write (wire : List Bool) : (wire.map write).map bit = wire := by
  rw [List.map_map]
  exact List.map_id wire

end BitSlot

namespace Command
variable {before later : List Bool} {bit : Bool}

abbrev wire (command : UInt8) : List Bool := bits skipRom ++ bits command

theorem length_wire (command : UInt8) : (wire command).length = 16 := by
  rw [List.length_append, length_bits, length_bits]

/-- Whether a command was completed while the bits received grew from some to others. -/
def Came (command : UInt8) (before later : List Bool) : Prop := before.length < 16 ∧ wire command <+: later

instance (command : UInt8) (before later : List Bool) : Decidable (Came command before later) :=
  inferInstanceAs (Decidable (_ ∧ _))

theorem not_came_self (command : UInt8) (bits : List Bool) : ¬ Came command bits bits := by
  rintro ⟨short, begins⟩
  have long := begins.length_le
  rw [length_wire] at long
  omega

theorem came_cases (command : UInt8) (grows : before ++ [bit] <+: later) :
    (before ++ [bit] = wire command ∧ Came command before later ∧ ¬ Came command (before ++ [bit]) later) ∨
      before ++ [bit] ≠ wire command ∧ (Came command before later ↔ Came command (before ++ [bit]) later) := by
  have length : (before ++ [bit]).length = before.length + 1 := List.length_append
  have full := length_wire command
  by_cases told : before ++ [bit] = wire command
  · refine .inl ⟨told, ⟨?_, told ▸ grows⟩, fun again => ?_⟩
    · rw [told] at length
      omega
    · have short := again.1
      rw [told] at short
      omega
  · refine .inr ⟨told, fun came => ⟨?_, came.2⟩, fun came => ⟨?_, came.2⟩⟩
    · have short := came.1
      by_contra full
      have same : (before ++ [bit]).length = (wire command).length := by omega
      have begins := List.prefix_of_prefix_length_le grows came.2 (Nat.le_of_eq same)
      exact told (begins.eq_of_length same)
    · have short := came.1
      omega

end Command

namespace Device
variable {device before after : Device} {slot : BitSlot}

/-- What a slot does: the device sends the bit that is next, which is taken from what there is to send; or it has none
and receives a bit, which may complete a command of two bytes. -/
inductive Settles (slot : BitSlot) (before after : Device) : Bool → Prop where
  | sends {next : Bool} {rest : List Bool} (waiting : before.transmit = next :: rest) (transmit : after.transmit = rest)
      (received : after.received = before.received) (conversions : after.conversions = before.conversions) :
      Settles slot before after next
  | receives (silent : before.transmit = []) (received : after.received = before.received ++ [slot.bit])
      (conversions : after.conversions =
        before.conversions + if after.received = Command.wire Command.convert then 1 else 0)
      (transmit : after.transmit =
        if after.received = Command.wire Command.readScratchpad then before.register.elim [] registerBits else []) :
      Settles slot before after true

theorem settles_slotted (device : Device) (slot : BitSlot) :
    Settles slot device (device.slotted slot.bit) device.next := by
  unfold slotted next
  cases waiting : device.transmit with
  | cons next rest => exact .sends waiting rfl rfl rfl
  | nil =>
    refine .receives waiting received_obey ?_ ?_
    · dsimp only
      rw [received_obey, obey_eq]
    · dsimp only
      rw [received_obey, obey_eq]
      exact List.nil_append _

theorem kept_slotted (device : Device) (bit : Bool) :
    (device.slotted bit).register = device.register ∧ (device.slotted bit).present = device.present := by
  unfold slotted
  cases device.transmit with
  | cons next rest => exact ⟨rfl, rfl⟩
  | nil => exact ⟨register_obey, present_obey⟩

def play (device : Device) (slots : List BitSlot) : Device :=
  slots.foldl (fun device slot => device.slotted slot.bit) device

def marks : List BitSlot → Device → List (Option Bool)
  | [], _ => []
  | slot :: slots, device => device.transmit.head? :: marks slots (device.slotted slot.bit)

def heard : List BitSlot → List (Option Bool) → List Bool
  | slot :: slots, none :: marks => slot.bit :: heard slots marks
  | _ :: slots, some _ :: marks => heard slots marks
  | _, _ => []

/-- What slots come to: bits are received in the order of the slots and sent in the order in which they wait, those
of the register behind all others, and a conversion is counted for each command. -/
structure Tallied (slots : List BitSlot) (before after : Device) (marks : List (Option Bool)) : Prop where
  length : marks.length = slots.length
  received : after.received = before.received ++ heard slots marks
  transmit : before.transmit ++
      (if Command.Came Command.readScratchpad before.received after.received then
        before.register.elim [] registerBits
      else []) =
    marks.reduceOption ++ after.transmit
  conversions : after.conversions = before.conversions +
    if Command.Came Command.convert before.received after.received then 1 else 0
  register : after.register = before.register
  present : after.present = before.present

theorem tallied_nil (device : Device) : Tallied [] device device [] := by
  have none (command : UInt8) := Command.not_came_self command device.received
  refine ⟨rfl, (List.append_nil _).symm, ?_, ?_, rfl, rfl⟩
  · rw [if_neg (none _)]
    exact List.append_nil _
  · rw [if_neg (none _)]
    rfl

/-- A slot in front of others. If it sends, what they come to is what there was behind its bit; if it receives, the
command that its bit completes is not completed once more by them. -/
theorem Tallied.cons {middle last : Device} {sampled : Bool} {slots : List BitSlot} {marks : List (Option Bool)}
    (settles : Settles slot device middle sampled) (register : middle.register = device.register)
    (present : middle.present = device.present) (tallied : Tallied slots middle last marks) :
    Tallied (slot :: slots) device last (device.transmit.head? :: marks) := by
  have length : (device.transmit.head? :: marks).length = (slot :: slots).length := congrArg Nat.succ tallied.length
  have whole := tallied.register.trans register
  have there := tallied.present.trans present
  have sum := tallied.transmit
  rw [register] at sum
  cases settles with
  | sends waiting transmit received conversions =>
    rw [waiting] at length ⊢
    rw [received, transmit] at sum
    refine ⟨length, ?_, ?_, ?_, whole, there⟩
    · rw [tallied.received, received]
      rfl
    · rw [waiting, List.cons_append, sum]
      rfl
    · rw [tallied.conversions, received, conversions]
  | receives silent received conversions transmit =>
    have grows : device.received ++ [slot.bit] <+: last.received := ⟨_, (received ▸ tallied.received).symm⟩
    rw [silent] at length ⊢
    rw [received] at sum conversions transmit
    rw [transmit] at sum
    refine ⟨length, ?_, ?_, ?_, whole, there⟩
    · rw [tallied.received, received, List.append_assoc]
      rfl
    · change _ = marks.reduceOption ++ last.transmit
      rw [silent, ← sum]
      obtain ⟨told, now, later⟩ | ⟨untold, same⟩ := Command.came_cases Command.readScratchpad grows
      · rw [if_pos told, if_pos now, if_neg later, List.append_nil, List.nil_append]
      · rw [if_neg untold, if_congr same rfl rfl]
    · rw [tallied.conversions, conversions, received]
      obtain ⟨told, now, later⟩ | ⟨untold, same⟩ := Command.came_cases Command.convert grows
      · rw [if_pos told, if_pos now, if_neg later]
      · rw [if_neg untold, if_congr same rfl rfl, Nat.add_zero]

theorem play_settles (slot : BitSlot) (slots : List BitSlot) (device : Device) : ∃ middle sampled,
    Settles slot device middle sampled ∧ middle.register = device.register ∧ middle.present = device.present ∧
      device.play (slot :: slots) = middle.play slots ∧
      device.marks (slot :: slots) = device.transmit.head? :: middle.marks slots := by
  obtain ⟨register, present⟩ := kept_slotted device slot.bit
  exact ⟨_, _, settles_slotted device slot, register, present, rfl, rfl⟩

theorem tallied_play (slots : List BitSlot) (device : Device) :
    Tallied slots device (device.play slots) (device.marks slots) := by
  induction slots generalizing device with
  | nil => exact tallied_nil device
  | cons slot slots ih =>
    obtain ⟨middle, sampled, settles, register, present, played, marked⟩ := play_settles slot slots device
    rw [played, marked]
    exact .cons settles register present (ih middle)

theorem bare_slotted (device : Device) (bit : Bool) : (device.slotted bit).bare = device.bare.slotted bit := by
  have same : device.bare.transmit = device.transmit := rfl
  unfold slotted
  rw [same]
  cases device.transmit with
  | nil => exact bare_obey _
  | cons next rest => rfl

theorem marks_bare (slots : List BitSlot) (device : Device) : marks slots device.bare = marks slots device := by
  induction slots generalizing device with
  | nil => rfl
  | cons slot slots ih =>
    unfold marks
    rw [← bare_slotted, ih]
    rfl

theorem Settles.of_bare {sampled : Bool} (settles : Settles slot before.bare after.bare sampled) :
    Settles slot before after sampled := by
  cases settles with
  | sends waiting transmit received conversions => exact .sends waiting transmit received conversions
  | receives silent received conversions transmit => exact .receives silent received conversions transmit

theorem Tallied.of_bare {slots : List BitSlot} {marks : List (Option Bool)}
    (tallied : Tallied slots before.bare after.bare marks) : Tallied slots before after marks :=
  ⟨tallied.length, tallied.received, tallied.transmit, tallied.conversions, tallied.register,
    tallied.present⟩

theorem bus_slot (slot : BitSlot) (device : Device) (now : Nat) : ∃ later,
    bus (.own slot.call) (device, now) = (slot.answer device.next, device.slotted slot.bit, later) := by
  cases slot <;> exact ⟨_, rfl⟩

theorem perform_slot (slot : BitSlot) (phase : Phase) (device : Device) (now : Nat) : ∃ later,
    perform (.bus slot.step) (phase, device, now) =
      (.ok (slot.value device.next), phase, device.slotted slot.bit, later) := by
  cases slot <;> exact ⟨_, rfl⟩

def slotSteps (slots : List BitSlot) : List SessionStep := slots.map fun slot => .bus slot.step

theorem perform_slots (slots : List BitSlot) (phase : Phase) (device : Device) (now : Nat) :
    reports perform (slotSteps slots) (phase, device, now) =
        List.zipWith (fun slot mark => .ok (slot.value (mark.getD true))) slots (device.marks slots) ∧
      (Device.after (slotSteps slots) (phase, device, now)).2.1 = device.play slots := by
  induction slots generalizing device now with
  | nil => exact ⟨rfl, rfl⟩
  | cons slot slots ih =>
    obtain ⟨later, performed⟩ := perform_slot slot phase device now
    obtain ⟨others, last⟩ := ih (device.slotted slot.bit) later
    have mark : device.next = device.transmit.head?.getD true := List.headD_eq_head?_getD
    rw [slotSteps, List.map_cons, ← slotSteps, reports_cons, after_cons, performed, others, last, mark]
    exact ⟨rfl, rfl⟩

end Device

namespace Line
variable {line : Line}

theorem settles_bus (slot : BitSlot) {state : Direction × Line} (idle : state.2.Idle) :
    (bus (.own slot.call) state).1 = slot.answer state.2.device.next ∧
      state.2.device.Settles slot (bus (.own slot.call) state).2.2.device state.2.device.next := by
  obtain ⟨later, answered⟩ := Device.bus_slot slot state.2.device.bare state.2.now
  have given := viewed_bus.answers (.own slot.call) state idle
  have moved := viewed_bus.moves (.own slot.call) state idle
  change _ = (Device.bus _ (state.2.device.bare, state.2.now)).1 at given
  change _ = (Device.bus _ (state.2.device.bare, state.2.now)).2 at moved
  rw [answered] at given moved
  refine ⟨given, .of_bare ?_⟩
  rw [show (bus (.own slot.call) state).2.2.device.bare = _ from congrArg Prod.fst moved]
  exact Device.settles_slotted state.2.device.bare slot

def slotSteps (slots : List BitSlot) : List Step := sessions (Device.slotSteps slots)

theorem perform_slots (slots : List BitSlot) {state : Rig × Line} (idle : state.2.Idle) :
    outcomes (slotSteps slots) state =
        List.zipWith (fun slot mark => .ok (slot.value (mark.getD true))) slots (state.2.device.marks slots) ∧
      (after (slotSteps slots) state).2.device.bare = state.2.device.bare.play slots := by
  obtain ⟨outcome, -, seen⟩ := performs_idle (Device.slotSteps slots) idle
  obtain ⟨reported, last⟩ := Device.perform_slots slots state.1.phase state.2.device.bare state.2.now
  rw [Device.marks_bare] at reported
  exact ⟨outcome.trans reported, (congrArg Prod.fst seen).trans last⟩

theorem perform_slot (slot : BitSlot) (rig : Rig) (idle : line.Idle) :
    let performed := perform (.master (.session (.bus slot.step))) (rig, line)
    performed.1.outcome = .ok (slot.value line.device.next) ∧
      line.device.Settles slot performed.2.2.device line.device.next := by
  intro performed
  obtain ⟨outcome, -, -, seen⟩ := @perform_idle (.bus slot.step) (rig, line) idle
  obtain ⟨later, told⟩ := Device.perform_slot slot rig.phase line.device.bare line.now
  rw [told] at outcome seen
  refine ⟨outcome, .of_bare ?_⟩
  rw [show performed.2.2.device.bare = _ from congrArg Prod.fst seen]
  exact Device.settles_slotted line.device.bare slot

/-- Whether a slot within a step settles: the calls before it lead to a state in which it does, and those behind it go
on from there to the end of the step. -/
def SettlesWithin (step : SessionStep) (rig : Rig) (line : Line) (slot : BitSlot)
    (past later : List (Event (BitInterface Presence (MasterError Misuse)).surrounded))
    (answer : slot.call.Answer Presence (MasterError Misuse)) : Prop :=
  let performed := perform (.master (.session step)) (rig, line)
  ∃ before next : Direction × Line, ∃ sampled,
    Carries bus (rig.direction, line) past before ∧ bus (.own slot.call) before = (answer, next) ∧
      Carries bus next later (performed.2.1.direction, performed.2.2) ∧
      answer = slot.answer sampled ∧ before.2.device.Settles slot next.2.device sampled

/-- The account of the slots on a line: what any slot does, be it a step of its own or within another, and what slots
one after the other come to. -/
structure Accounted (rig : Rig) (line : Line) : Prop where
  single (slot : BitSlot) :
    let performed := perform (.master (.session (.bus slot.step))) (rig, line)
    ∃ sampled, performed.1.outcome = .ok (slot.value sampled) ∧
      line.device.Settles slot performed.2.2.device sampled
  within (step : SessionStep) (slot : BitSlot)
      (past later : List (Event (BitInterface Presence (MasterError Misuse)).surrounded))
      (answer : slot.call.Answer Presence (MasterError Misuse)) :
    ((step.program.run rig.phase).byBits.run bus (rig.direction, line)).history =
      past ++ ⟨.own slot.call, answer⟩ :: later → SettlesWithin step rig line slot past later answer
  sequence (slots : List BitSlot) :
    line.device.Tallied slots (after (slotSteps slots) (rig, line)).2.device (line.device.marks slots) ∧
      outcomes (slotSteps slots) (rig, line) =
        List.zipWith (fun slot mark => .ok (slot.value (mark.getD true))) slots (line.device.marks slots)

theorem settles_within (step : SessionStep) (rig : Rig) (slot : BitSlot) (idle : line.Idle)
    {past later : List (Event (BitInterface Presence (MasterError Misuse)).surrounded)}
    {answer : slot.call.Answer Presence (MasterError Misuse)}
    (split : ((step.program.run rig.phase).byBits.run bus (rig.direction, line)).history =
      past ++ ⟨.own slot.call, answer⟩ :: later) : SettlesWithin step rig line slot past later answer := by
  obtain ⟨-, state⟩ := perform_session step rig line
  have carries := Program.carries_run (step.program.run rig.phase).byBits bus (rig.direction, line)
  rw [split] at carries
  obtain ⟨before, first, given, last⟩ := carries_append.mp carries
  obtain ⟨rests, -⟩ := viewed_bus.carries first idle
  obtain ⟨answered, settles⟩ := settles_bus slot rests
  refine ⟨before, _, _, first, Prod.ext given.symm rfl, ?_, given.trans answered, settles⟩
  rw [show (perform (.master (.session step)) (rig, line)).2 = _ from state]
  exact last

/-- While only its users act on it, every slot on the line sends the next bit or receives one, and obeys the command
that the bits received come to; and no bit is lost, doubled or turned over in however many slots. -/
theorem slots_accounted {rig : Rig} {line : Line} (tended : Tended (rig, line)) : Accounted rig line := by
  have idle : line.Idle := tended.idle
  constructor
  case single =>
    intro slot _
    obtain ⟨outcome, settles⟩ := perform_slot slot rig idle
    exact ⟨_, outcome, settles⟩
  case within => exact fun step slot past later answer split => settles_within step rig slot idle split
  case sequence =>
    intro slots
    obtain ⟨outcome, seen⟩ := @perform_slots slots (rig, line) idle
    have tallied := Device.tallied_play slots line.device.bare
    rw [← seen, Device.marks_bare] at tallied
    exact ⟨tallied.of_bare, outcome⟩

/-- A slot that reads nothing completes the command to send the register, and the next slots already send it. -/
theorem slots_accounted_read_completes :
    let device : Device :=
      { present := true, received := (Command.wire Command.readScratchpad).take 15, transmit := [false],
        register := some ⟨0x91, 0x01⟩ }
    let line : Line := { device }
    let slots : List BitSlot := [.write true, .read, .read, .write true]
    let last := (after (slotSteps slots) ({}, line)).2.device
    Tended ({}, line) ∧ line.device.marks slots = [some false, none, some true, some false] ∧
      last.received = Command.wire Command.readScratchpad ∧
      last.transmit = (Device.registerBits ⟨0x91, 0x01⟩).drop 2 ∧
      outcomes (slotSteps slots) ({}, line) = [.ok .nothing, .ok (.bit true), .ok (.bit true), .ok .nothing] := by
  intro device line slots last
  have tended : Tended ({}, line) := .change (.step (.fresh true) (.register (some ⟨0x91, 0x01⟩)) rfl) _ _ 0
  have marks : line.device.marks slots = [some false, none, some true, some false] := by decide
  obtain ⟨tallied, outcome⟩ := (slots_accounted tended).sequence slots
  rw [marks] at tallied outcome
  have received : last.received = Command.wire Command.readScratchpad := tallied.received
  have came : Command.Came Command.readScratchpad line.device.received last.received := by
    rw [received]
    decide
  have transmit := tallied.transmit
  rw [if_pos came] at transmit
  have sent : Device.registerBits ⟨0x91, 0x01⟩ = [true, false] ++ last.transmit := (List.cons.inj transmit).2
  refine ⟨tended, marks, received, ?_, outcome⟩
  rw [sent]
  rfl

end Line
end Thermowire
