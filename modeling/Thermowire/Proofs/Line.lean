import Thermowire.Bench
import Thermowire.Proofs.Master
import Thermowire.Proofs.Service

/-! The master's slots on the simulated line. Whatever the line and its device have been through, a reset
clears them; from then on every slot finds the line at rest, hands the device one bit or takes one from
it, and leaves the line at rest again. -/
namespace Thermowire

def Device.ended (device : Device) (fall now : Nat) : Device :=
  if 480 ≤ (now - fall) / 1000 then device.reset now else device.receive ((now - fall) / 1000 < 15)

namespace Device
variable {device : Device} {fall now : Nat}

theorem ended_of_long (long : fall + 480000 ≤ now) : device.ended fall now = device.reset now :=
  if_pos (by omega)

theorem ended_of_short {width : Nat} (short : width < 480000) :
    device.ended fall (fall + width) = device.receive (width < 15000) := by
  have narrow : ¬ 480 ≤ width / 1000 := by omega
  have one : decide (width / 1000 < 15) = decide (width < 15000) := by
    rw [decide_eq_decide]
    omega
  rw [ended, Nat.add_sub_cancel_left, if_neg narrow, one]

end Device

namespace Line

def role (line : Line) (output : Bool) : Line := { line with output }

def opened (line : Line) : Device := if line.low then line.device else line.device.openSlot line.now

def edge (line : Line) : Nat := if line.low then line.fall else line.now

section Fields
variable {line : Line} {event : PinEvent} {wait : Wait} {output : Bool}

@[simp] theorem device_note : (line.note event).device = line.device := rfl
@[simp] theorem now_note : (line.note event).now = line.now := rfl
@[simp] theorem low_note : (line.note event).low = line.low := rfl
@[simp] theorem fall_note : (line.note event).fall = line.fall := rfl
@[simp] theorem output_note : (line.note event).output = line.output := rfl
@[simp] theorem opened_note : (line.note event).opened = line.opened := rfl
@[simp] theorem edge_note : (line.note event).edge = line.edge := rfl

@[simp] theorem device_role : (line.role output).device = line.device := rfl
@[simp] theorem now_role : (line.role output).now = line.now := rfl
@[simp] theorem low_role : (line.role output).low = line.low := rfl
@[simp] theorem fall_role : (line.role output).fall = line.fall := rfl
@[simp] theorem output_role : (line.role output).output = output := rfl
@[simp] theorem opened_role : (line.role output).opened = line.opened := rfl
@[simp] theorem edge_role : (line.role output).edge = line.edge := rfl

@[simp] theorem device_elapse : (line.elapse wait).device = line.device := rfl
@[simp] theorem now_elapse : (line.elapse wait).now = line.now + wait.nanoseconds := rfl
@[simp] theorem low_elapse : (line.elapse wait).low = line.low := rfl
@[simp] theorem fall_elapse : (line.elapse wait).fall = line.fall := rfl
@[simp] theorem output_elapse : (line.elapse wait).output = line.output := rfl

@[simp] theorem device_pullLow : line.pullLow.device = line.opened := rfl
@[simp] theorem now_pullLow : line.pullLow.now = line.now := rfl
@[simp] theorem low_pullLow : line.pullLow.low = true := rfl
@[simp] theorem fall_pullLow : line.pullLow.fall = line.edge := rfl
@[simp] theorem output_pullLow : line.pullLow.output = line.output := rfl

@[simp] theorem device_letGo :
    line.letGo.device = if line.low then line.device.ended line.fall line.now else line.device := rfl
@[simp] theorem now_letGo : line.letGo.now = line.now := rfl
@[simp] theorem low_letGo : line.letGo.low = false := rfl
@[simp] theorem fall_letGo : line.letGo.fall = line.fall := rfl
@[simp] theorem output_letGo : line.letGo.output = line.output := rfl

end Fields

section Pin
variable {line : Line}

@[simp] theorem pin_setOutput : pin (.own .setOutput : Surrounded PinCall) line =
    (.ok (), (line.role true).note .output) := rfl

@[simp] theorem pin_setInput : pin (.own .setInput : Surrounded PinCall) line =
    (.ok (), (line.role false).letGo.note .input) := rfl

@[simp] theorem pin_drive {high : Bool} : pin (.own (.drive high) : Surrounded PinCall) line =
    if line.output then (.ok (), (if high then line.letGo else line.pullLow).note (.drive high))
    else (.error .drivenAsInput, line) := rfl

@[simp] theorem pin_sample : pin (.own .sample : Surrounded PinCall) line =
    if line.output then (.error .sampledAsOutput, line)
    else (.ok line.level, line.note (.sample line.level)) := rfl

@[simp] theorem pin_wait {wait : Wait} : pin (.ambient (.wait wait) : Surrounded PinCall) line =
    ((), line.elapse wait) := rfl

@[simp] theorem pin_enter : pin (.ambient .enter : Surrounded PinCall) line = ((), line) := rfl

@[simp] theorem pin_leave : pin (.ambient .leave : Surrounded PinCall) line = ((), line) := rfl

@[simp] theorem pin_log {record : Record} : pin (.ambient (.log record) : Surrounded PinCall) line =
    ((), line) := rfl

end Pin

/-- A line that is let go, with its device and its clock. -/
structure Rests (line : Line) (now : Nat) (device : Device) : Prop where
  released : line.low = false
  now : line.now = now
  device : line.device = device

/-- A fall that is still going on lies in the past. -/
def Timely (line : Line) : Prop := line.low = true → line.fall ≤ line.now

variable {line last : Line} {history : PinHistory Misuse} {before after : Direction}

theorem edge_le (timely : line.Timely) : line.edge ≤ line.now := by
  by_cases low : line.low = true
  · rw [edge, if_pos low]
    exact timely low
  · exact Nat.le_of_eq (if_neg low)

theorem opened_of_released (released : line.low = false) : line.opened = line.device.openSlot line.now := by
  rw [opened, released]
  exact if_neg Bool.false_ne_true

theorem edge_of_released (released : line.low = false) : line.edge = line.now := by
  rw [edge, released]
  exact if_neg Bool.false_ne_true

/-- A reset pulse always is one to the device, and its samples are the device's answer. -/
theorem carries_reset {pulse : Except (MasterError Misuse) (Bool × Bool)} (timely : line.Timely)
    (course : Wire.ResetCourse before history pulse after) (carries : Carries Line.pin line history last) :
    let ending := line.now + 480000
    let device := line.opened.reset ending
    pulse = .ok (device.holdsLow (ending + 70000), !device.holdsLow (ending + 480000)) ∧
      last.Rests (ending + 480000) device := by
  cases course with
  | unset error => cases carries.1
  | undriven error => cases carries.2.1
  | unreleased error => cases carries.2.2.2.2.1
  | unsampled error => cases carries.2.2.2.2.2.2.1
  | unrecovered high error => cases carries.2.2.2.2.2.2.2.2.2.1
  | finished high idle =>
    obtain ⟨-, -, -, -, -, -, first, -, -, second, -, rfl⟩ := carries
    have lowTime : Slot.resetLow.wait.nanoseconds = 480000 := rfl
    have sampleTime : Slot.presenceSample.wait.nanoseconds = 70000 := rfl
    have recoveryTime : Slot.resetRecovery.wait.nanoseconds = 410000 := rfl
    have began := edge_le timely
    have ended : line.opened.ended line.edge (line.now + 480000) = line.opened.reset (line.now + 480000) :=
      Device.ended_of_long (by omega)
    have answered : (.ok high : Except Misuse Bool) =
        .ok !(line.opened.reset (line.now + 480000)).holdsLow (line.now + 480000 + 70000) := by
      refine first.trans ?_
      simp [level, ended, lowTime, sampleTime, Nat.add_assoc]
      rfl
    have recovered : (.ok idle : Except Misuse Bool) =
        .ok !(line.opened.reset (line.now + 480000)).holdsLow (line.now + 480000 + 480000) := by
      refine second.trans ?_
      simp [level, ended, lowTime, sampleTime, recoveryTime, Nat.add_assoc]
      rfl
    refine ⟨?_, ?_, ?_, ?_⟩
    · rw [Except.ok.inj answered, Except.ok.inj recovered, Bool.not_not]
    · simp
    · simp [lowTime, sampleTime, recoveryTime, Nat.add_assoc]
    · simp [ended, lowTime]

def writeTime (bit : Bool) : Nat := if bit then 60000 else 65000

theorem carries_write {bit : Bool} {result : Except (MasterError Misuse) Unit} (rests : line.low = false)
    (course : Wire.WriteCourse bit before history result after) (carries : Carries Line.pin line history last) :
    result = .ok () ∧
      last.Rests (line.now + writeTime bit) ((line.device.openSlot line.now).receive bit) := by
  have opened := opened_of_released rests
  have edge := edge_of_released rests
  cases course with
  | unset error => cases carries.2.1
  | undriven error => cases carries.2.2.1
  | unreleased error => cases carries.2.2.2.2.1
  | finished =>
    obtain ⟨-, -, -, -, -, -, -, rfl⟩ := carries
    have time : (Slot.writeLow bit).wait.nanoseconds + (Slot.writeRelease bit).wait.nanoseconds =
        writeTime bit := by
      cases bit <;> rfl
    have ended (device : Device) : device.ended line.now (line.now + (Slot.writeLow bit).wait.nanoseconds) =
        device.receive bit := by
      cases bit with
      | true => exact Device.ended_of_short (by decide)
      | false => exact Device.ended_of_short (by decide)
    refine ⟨rfl, ?_, ?_, ?_⟩
    · simp
    · simp [Nat.add_assoc, time]
    · simp [opened, edge, ended]

theorem carries_read {result : Except (MasterError Misuse) Bool} (rests : line.low = false)
    (course : Wire.ReadCourse before history result after) (carries : Carries Line.pin line history last) :
    let device := (line.device.openSlot line.now).receive true
    result = .ok (!device.holdsLow (line.now + 10000)) ∧ last.Rests (line.now + 60000) device := by
  have opened := opened_of_released rests
  have edge := edge_of_released rests
  cases course with
  | unset error => cases carries.2.1
  | undriven error => cases carries.2.2.1
  | unreleased error => cases carries.2.2.2.2.1
  | unsampled error => cases carries.2.2.2.2.2.2.1
  | finished bit =>
    obtain ⟨-, -, -, -, -, -, sample, -, -, rfl⟩ := carries
    have lowTime : Slot.readLow.wait.nanoseconds = 5000 := rfl
    have sampleTime : Slot.readSample.wait.nanoseconds = 5000 := rfl
    have recoveryTime : Slot.readRecovery.wait.nanoseconds = 50000 := rfl
    have ended (device : Device) : device.ended line.now (line.now + 5000) = device.receive true :=
      Device.ended_of_short (by decide)
    simp [level, opened, edge, ended, lowTime, sampleTime, Nat.add_assoc] at sample
    refine ⟨?_, ?_, ?_, ?_⟩
    · rw [Except.ok.inj sample]
    · simp
    · simp [lowTime, sampleTime, recoveryTime, Nat.add_assoc]
    · simp [opened, edge, ended, lowTime]

/-- The states that a rig and its line can be in, after steps of any kind. What the device has received,
has to send and has counted can be changed at will in between. -/
inductive Reachable : Rig × Line → Prop where
  | fresh (present : Bool) : Reachable ({}, .fresh present)
  | step {state : Rig × Line} (reachable : Reachable state) (step : Step) : Reachable (perform step state).2
  | change {rig : Rig} {line : Line} (reachable : Reachable (rig, line)) (received transmit : List Bool)
      (conversions : Nat) :
      Reachable (rig, { line with device := { line.device with received, transmit, conversions } })

theorem timely_pin (request : Surrounded PinCall) (timely : line.Timely) :
    (Line.pin request line).2.Timely := by
  rcases request with call | call
  · cases call with
    | setOutput => exact timely
    | setInput => nofun
    | sample =>
      rw [pin_sample]
      cases line.output <;> exact timely
    | drive high =>
      rw [pin_drive]
      cases line.output with
      | false => exact timely
      | true =>
        cases high with
        | true => nofun
        | false => exact fun _ => edge_le timely
  · cases call with
    | wait wait => exact fun low => Nat.le_trans (timely low) (Nat.le_add_right _ _)
    | _ => exact timely

theorem timely_perform (step : Step) (state : Rig × Line) (timely : state.2.Timely) :
    (perform step state).2.2.Timely := by
  cases step with
  | master step => exact Program.run_keeps (fun request _ => timely_pin request) _ timely
  | pin call => exact timely_pin (.own call) timely
  | wait wait => exact timely_pin (.ambient (.wait wait)) timely
  | _ => exact timely

theorem Reachable.timely {state : Rig × Line} (reachable : Reachable state) : state.2.Timely := by
  induction reachable with
  | fresh present => nofun
  | step _ step ih => exact timely_perform step _ ih
  | change _ _ _ _ ih => exact ih

end Line

end Thermowire
