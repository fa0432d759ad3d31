import Thermowire.Master
import Thermowire.Proofs.Course

/-! What the master can do on its pin, whatever the pin answers. Each piece of its work (bringing the
line up, a reset pulse, a slot that writes or reads a bit) has a handful of courses: it stops at the
first pin call that fails, or it is finished. -/
namespace Thermowire

abbrev PinHistory (E : Type) := List (Event (PinInterface E).surrounded)

namespace Wire
variable {E : Type}

inductive SettleCourse (before : Direction) :
    PinHistory E → Except (MasterError E) Unit → Direction → Prop where
  | unset (error : E) :
      SettleCourse before [⟨.own .setOutput, .error error⟩] (.error (.configure error)) before
  | undriven (error : E) :
      SettleCourse before [⟨.own .setOutput, .ok ()⟩, ⟨.own (.drive true), .error error⟩]
        (.error (.pin error)) .output
  | finished :
      SettleCourse before
        [⟨.own .setOutput, .ok ()⟩, ⟨.own (.drive true), .ok ()⟩, ⟨.ambient (.wait Slot.settle), ()⟩]
        (.ok ()) .output

/-- The courses of a reset pulse. The section around the first sample is left in any case, and both
samples are logged once they have been taken. -/
inductive ResetCourse (before : Direction) :
    PinHistory E → Except (MasterError E) (Bool × Bool) → Direction → Prop where
  | unset (error : E) :
      ResetCourse before [⟨.own .setOutput, .error error⟩] (.error (.configure error)) before
  | undriven (error : E) :
      ResetCourse before [⟨.own .setOutput, .ok ()⟩, ⟨.own (.drive false), .error error⟩]
        (.error (.pin error)) .output
  | unreleased (error : E) :
      ResetCourse before
        [⟨.own .setOutput, .ok ()⟩, ⟨.own (.drive false), .ok ()⟩,
          ⟨.ambient (.wait Slot.resetLow.wait), ()⟩, ⟨.ambient .enter, ()⟩,
          ⟨.own .setInput, .error error⟩, ⟨.ambient .leave, ()⟩]
        (.error (.configure error)) .output
  | unsampled (error : E) :
      ResetCourse before
        [⟨.own .setOutput, .ok ()⟩, ⟨.own (.drive false), .ok ()⟩,
          ⟨.ambient (.wait Slot.resetLow.wait), ()⟩, ⟨.ambient .enter, ()⟩, ⟨.own .setInput, .ok ()⟩,
          ⟨.ambient (.wait Slot.presenceSample.wait), ()⟩, ⟨.own .sample, .error error⟩,
          ⟨.ambient .leave, ()⟩]
        (.error (.pin error)) .input
  | unrecovered (high : Bool) (error : E) :
      ResetCourse before
        [⟨.own .setOutput, .ok ()⟩, ⟨.own (.drive false), .ok ()⟩,
          ⟨.ambient (.wait Slot.resetLow.wait), ()⟩, ⟨.ambient .enter, ()⟩, ⟨.own .setInput, .ok ()⟩,
          ⟨.ambient (.wait Slot.presenceSample.wait), ()⟩, ⟨.own .sample, .ok high⟩,
          ⟨.ambient .leave, ()⟩, ⟨.ambient (.wait Slot.resetRecovery.wait), ()⟩,
          ⟨.own .sample, .error error⟩]
        (.error (.pin error)) .input
  | finished (high idle : Bool) :
      ResetCourse before
        [⟨.own .setOutput, .ok ()⟩, ⟨.own (.drive false), .ok ()⟩,
          ⟨.ambient (.wait Slot.resetLow.wait), ()⟩, ⟨.ambient .enter, ()⟩, ⟨.own .setInput, .ok ()⟩,
          ⟨.ambient (.wait Slot.presenceSample.wait), ()⟩, ⟨.own .sample, .ok high⟩,
          ⟨.ambient .leave, ()⟩, ⟨.ambient (.wait Slot.resetRecovery.wait), ()⟩,
          ⟨.own .sample, .ok idle⟩, ⟨.ambient (.log (.reset (!high) idle)), ()⟩]
        (.ok (!high, idle)) .input

inductive WriteCourse (bit : Bool) (before : Direction) :
    PinHistory E → Except (MasterError E) Unit → Direction → Prop where
  | unset (error : E) :
      WriteCourse bit before
        [⟨.ambient .enter, ()⟩, ⟨.own .setOutput, .error error⟩, ⟨.ambient .leave, ()⟩]
        (.error (.configure error)) before
  | undriven (error : E) :
      WriteCourse bit before
        [⟨.ambient .enter, ()⟩, ⟨.own .setOutput, .ok ()⟩, ⟨.own (.drive false), .error error⟩,
          ⟨.ambient .leave, ()⟩]
        (.error (.pin error)) .output
  | unreleased (error : E) :
      WriteCourse bit before
        [⟨.ambient .enter, ()⟩, ⟨.own .setOutput, .ok ()⟩, ⟨.own (.drive false), .ok ()⟩,
          ⟨.ambient (.wait (Slot.writeLow bit).wait), ()⟩, ⟨.own (.drive true), .error error⟩,
          ⟨.ambient .leave, ()⟩]
        (.error (.pin error)) .output
  | finished :
      WriteCourse bit before
        [⟨.ambient .enter, ()⟩, ⟨.own .setOutput, .ok ()⟩, ⟨.own (.drive false), .ok ()⟩,
          ⟨.ambient (.wait (Slot.writeLow bit).wait), ()⟩, ⟨.own (.drive true), .ok ()⟩,
          ⟨.ambient (.wait (Slot.writeRelease bit).wait), ()⟩, ⟨.ambient .leave, ()⟩]
        (.ok ()) .output

/-- The courses of a slot that reads a bit. The section is left before the slot recovers. -/
inductive ReadCourse (before : Direction) :
    PinHistory E → Except (MasterError E) Bool → Direction → Prop where
  | unset (error : E) :
      ReadCourse before
        [⟨.ambient .enter, ()⟩, ⟨.own .setOutput, .error error⟩, ⟨.ambient .leave, ()⟩]
        (.error (.configure error)) before
  | undriven (error : E) :
      ReadCourse before
        [⟨.ambient .enter, ()⟩, ⟨.own .setOutput, .ok ()⟩, ⟨.own (.drive false), .error error⟩,
          ⟨.ambient .leave, ()⟩]
        (.error (.pin error)) .output
  | unreleased (error : E) :
      ReadCourse before
        [⟨.ambient .enter, ()⟩, ⟨.own .setOutput, .ok ()⟩, ⟨.own (.drive false), .ok ()⟩,
          ⟨.ambient (.wait Slot.readLow.wait), ()⟩, ⟨.own .setInput, .error error⟩,
          ⟨.ambient .leave, ()⟩]
        (.error (.configure error)) .output
  | unsampled (error : E) :
      ReadCourse before
        [⟨.ambient .enter, ()⟩, ⟨.own .setOutput, .ok ()⟩, ⟨.own (.drive false), .ok ()⟩,
          ⟨.ambient (.wait Slot.readLow.wait), ()⟩, ⟨.own .setInput, .ok ()⟩,
          ⟨.ambient (.wait Slot.readSample.wait), ()⟩, ⟨.own .sample, .error error⟩,
          ⟨.ambient .leave, ()⟩]
        (.error (.pin error)) .input
  | finished (bit : Bool) :
      ReadCourse before
        [⟨.ambient .enter, ()⟩, ⟨.own .setOutput, .ok ()⟩, ⟨.own (.drive false), .ok ()⟩,
          ⟨.ambient (.wait Slot.readLow.wait), ()⟩, ⟨.own .setInput, .ok ()⟩,
          ⟨.ambient (.wait Slot.readSample.wait), ()⟩, ⟨.own .sample, .ok bit⟩,
          ⟨.ambient .leave, ()⟩, ⟨.ambient (.wait Slot.readRecovery.wait), ()⟩]
        (.ok bit) .input

variable {before after : Direction} {history : PinHistory E}

theorem leads_output {result : Except (MasterError E) Unit}
    (leads : Leads (output : Wire E Unit) before history result after) :
    (∃ error, history = [⟨.own .setOutput, .error error⟩] ∧ result = .error (.configure error) ∧
        after = before) ∨
      history = [⟨.own .setOutput, .ok ()⟩] ∧ result = .ok () ∧ after = .output := by
  obtain ⟨answer, _, rfl, course⟩ := leads
  cases answer with
  | error error =>
    obtain ⟨rfl, same⟩ := course
    cases same
    exact .inl ⟨error, rfl, rfl, rfl⟩
  | ok _ =>
    obtain ⟨rfl, same⟩ := course
    cases same
    exact .inr ⟨rfl, rfl, rfl⟩

theorem leads_input {result : Except (MasterError E) Unit}
    (leads : Leads (input : Wire E Unit) before history result after) :
    (∃ error, history = [⟨.own .setInput, .error error⟩] ∧ result = .error (.configure error) ∧
        after = before) ∨
      history = [⟨.own .setInput, .ok ()⟩] ∧ result = .ok () ∧ after = .input := by
  obtain ⟨answer, _, rfl, course⟩ := leads
  cases answer with
  | error error =>
    obtain ⟨rfl, same⟩ := course
    cases same
    exact .inl ⟨error, rfl, rfl, rfl⟩
  | ok _ =>
    obtain ⟨rfl, same⟩ := course
    cases same
    exact .inr ⟨rfl, rfl, rfl⟩

theorem leads_drive {high : Bool} {result : Except (MasterError E) Unit}
    (leads : Leads (drive high : Wire E Unit) before history result after) : after = before ∧
      ((before = .output ∧ ∃ answer, history = [⟨.own (.drive high), answer⟩] ∧
          result = answer.mapError .pin) ∨
        before ≠ .output ∧ history = [] ∧ result = .error .direction) := by
  by_cases driven : before = .output
  · subst driven
    obtain ⟨answer, _, rfl, rfl, same⟩ := leads
    cases same
    exact ⟨rfl, .inl ⟨rfl, answer, rfl, rfl⟩⟩
  · have refused : history = [] ∧ (result, after) = (.error .direction, before) := by
      cases before with
      | output => exact absurd rfl driven
      | _ => exact leads
    obtain ⟨rfl, same⟩ := refused
    cases same
    exact ⟨rfl, .inr ⟨driven, rfl, rfl⟩⟩

theorem leads_sample {result : Except (MasterError E) Bool}
    (leads : Leads (sample : Wire E Bool) before history result after) : after = before ∧
      ((before = .input ∧ ∃ answer, history = [⟨.own .sample, answer⟩] ∧
          result = answer.mapError .pin) ∨
        before ≠ .input ∧ history = [] ∧ result = .error .direction) := by
  by_cases sampled : before = .input
  · subst sampled
    obtain ⟨answer, _, rfl, rfl, same⟩ := leads
    cases same
    exact ⟨rfl, .inl ⟨rfl, answer, rfl, rfl⟩⟩
  · have refused : history = [] ∧ (result, after) = (.error .direction, before) := by
      cases before with
      | input => exact absurd rfl sampled
      | _ => exact leads
    obtain ⟨rfl, same⟩ := refused
    cases same
    exact ⟨rfl, .inr ⟨sampled, rfl, rfl⟩⟩

theorem leads_settle {result : Except (MasterError E) Unit}
    (leads : Leads (settle : Wire E Unit) before history result after) :
    SettleCourse before history result after := by
  obtain ⟨answer, _, rfl, course⟩ := leads
  cases answer with
  | error error =>
    obtain ⟨rfl, same⟩ := course
    cases same
    exact .unset error
  | ok _ =>
    obtain ⟨answer, _, rfl, course⟩ := course
    cases answer with
    | error error =>
      obtain ⟨rfl, same⟩ := course
      cases same
      exact .undriven error
    | ok _ =>
      obtain ⟨_, _, rfl, rfl, same⟩ := course
      cases same
      exact .finished

theorem leads_resetPulse {result : Except (MasterError E) (Bool × Bool)}
    (leads : Leads (resetPulse : Wire E (Bool × Bool)) before history result after) :
    ResetCourse before history result after := by
  -- each call that can fail ends the pulse, and the section around the middle three is left first
  obtain ⟨answer, _, rfl, course⟩ := leads
  cases answer with
  | error error =>
    obtain ⟨rfl, same⟩ := course
    cases same
    exact .unset error
  | ok _ =>
  obtain ⟨answer, _, rfl, course⟩ := course
  cases answer with
  | error error =>
    obtain ⟨rfl, same⟩ := course
    cases same
    exact .undriven error
  | ok _ =>
  obtain ⟨_, _, rfl, _, _, rfl, answer, _, rfl, course⟩ := course
  cases answer with
  | error error =>
    obtain ⟨_, _, rfl, rfl, same⟩ := course
    cases same
    exact .unreleased error
  | ok _ =>
  obtain ⟨_, _, rfl, answer, _, rfl, course⟩ := course
  cases answer with
  | error error =>
    obtain ⟨_, _, rfl, rfl, same⟩ := course
    cases same
    exact .unsampled error
  | ok high =>
  obtain ⟨_, _, rfl, _, _, rfl, answer, _, rfl, course⟩ := course
  cases answer with
  | error error =>
    obtain ⟨rfl, same⟩ := course
    cases same
    exact .unrecovered high error
  | ok idle =>
  obtain ⟨_, _, rfl, rfl, same⟩ := course
  cases same
  exact .finished high idle

theorem leads_writeBit {bit : Bool} {result : Except (MasterError E) Unit}
    (leads : Leads (writeBit bit : Wire E Unit) before history result after) :
    WriteCourse bit before history result after := by
  obtain ⟨_, _, rfl, answer, _, rfl, course⟩ := leads
  cases answer with
  | error error =>
    obtain ⟨_, _, rfl, rfl, same⟩ := course
    cases same
    exact .unset error
  | ok _ =>
  obtain ⟨answer, _, rfl, course⟩ := course
  cases answer with
  | error error =>
    obtain ⟨_, _, rfl, rfl, same⟩ := course
    cases same
    exact .undriven error
  | ok _ =>
  obtain ⟨_, _, rfl, answer, _, rfl, course⟩ := course
  cases answer with
  | error error =>
    obtain ⟨_, _, rfl, rfl, same⟩ := course
    cases same
    exact .unreleased error
  | ok _ =>
  obtain ⟨_, _, rfl, _, _, rfl, rfl, same⟩ := course
  cases same
  exact .finished

theorem leads_readBit {result : Except (MasterError E) Bool}
    (leads : Leads (readBit : Wire E Bool) before history result after) :
    ReadCourse before history result after := by
  obtain ⟨_, _, rfl, answer, _, rfl, course⟩ := leads
  cases answer with
  | error error =>
    obtain ⟨_, _, rfl, rfl, same⟩ := course
    cases same
    exact .unset error
  | ok _ =>
  obtain ⟨answer, _, rfl, course⟩ := course
  cases answer with
  | error error =>
    obtain ⟨_, _, rfl, rfl, same⟩ := course
    cases same
    exact .undriven error
  | ok _ =>
  obtain ⟨_, _, rfl, answer, _, rfl, course⟩ := course
  cases answer with
  | error error =>
    obtain ⟨_, _, rfl, rfl, same⟩ := course
    cases same
    exact .unreleased error
  | ok _ =>
  obtain ⟨_, _, rfl, answer, _, rfl, course⟩ := course
  cases answer with
  | error error =>
    obtain ⟨_, _, rfl, rfl, same⟩ := course
    cases same
    exact .unsampled error
  | ok bit =>
  obtain ⟨_, _, rfl, _, _, rfl, rfl, same⟩ := course
  cases same
  exact .finished bit

end Wire

namespace BusWire
variable {E α : Type} {before after : Direction} {history : PinHistory E}

def verdict : Except (MasterError E) (Bool × Bool) → Except (BusError (MasterError E)) Presence
  | .error error => .error (.other error)
  | .ok (present, idle) =>
    if !idle then .error .shortCircuit
    else if !present then .error .noDevice
    else .ok (.ofSamples present idle)

theorem leads_onWire {wire : Wire E α} {result : Except (BusError (MasterError E)) α}
    (leads : Leads (onWire wire) before history result after) :
    ∃ given, Leads wire before history given after ∧ result = given.mapError .other := by
  obtain ⟨first, ⟨given, middle⟩, second, course, ⟨rfl, same⟩, rfl⟩ := Program.course_bind.mp leads
  cases same
  rw [List.append_nil]
  exact ⟨given, course, rfl⟩

theorem leads_reset {result : Except (BusError (MasterError E)) Presence}
    (leads : Leads (reset : BusWire E Presence) before history result after) :
    ∃ pulse, Wire.ResetCourse before history pulse after ∧ result = verdict pulse := by
  rcases leads_bind leads with ⟨error, rfl, stopped⟩ | ⟨first, samples, middle, second, pulsed, judged, rfl⟩
  · obtain ⟨pulse, course, same⟩ := leads_onWire stopped
    refine ⟨pulse, Wire.leads_resetPulse course, ?_⟩
    cases pulse with
    | error given =>
      cases same
      rfl
    | ok given => cases same
  · obtain ⟨pulse, course, same⟩ := leads_onWire pulsed
    cases pulse with
    | error given => cases same
    | ok given =>
      obtain ⟨present, idle⟩ := samples
      cases same
      have judged : second = [] ∧ result = verdict (.ok (present, idle)) ∧ after = middle := by
        cases present <;> cases idle <;>
        · obtain ⟨rfl, same⟩ := judged
          cases same
          exact ⟨rfl, rfl, rfl⟩
      obtain ⟨rfl, rfl, rfl⟩ := judged
      rw [List.append_nil]
      exact ⟨_, Wire.leads_resetPulse course, rfl⟩

end BusWire

/-- The courses of a bit call on the pin, with what the bus answers. -/
inductive BitCall.CourseOnPin {E : Type} (before : Direction) (history : PinHistory E) (after : Direction) :
    (call : BitCall) → call.Answer Presence (MasterError E) → Prop where
  | reset {pulse : Except (MasterError E) (Bool × Bool)}
      (course : Wire.ResetCourse before history pulse after) :
      CourseOnPin before history after .reset (BusWire.verdict pulse)
  | write {bit : Bool} {result : Except (MasterError E) Unit}
      (course : Wire.WriteCourse bit before history result after) :
      CourseOnPin before history after (.write bit) (result.mapError .other)
  | read {result : Except (MasterError E) Bool} (course : Wire.ReadCourse before history result after) :
      CourseOnPin before history after .read (result.mapError .other)

theorem BitCall.course_onPin {E : Type} {call : BitCall} {before after : Direction} {history : PinHistory E}
    {answer : call.Answer Presence (MasterError E)}
    (course : (call.onPin.run before).Course history (answer, after)) :
    call.CourseOnPin before history after answer := by
  cases call with
  | reset =>
    obtain ⟨pulse, pulsed, rfl⟩ := BusWire.leads_reset course
    exact .reset pulsed
  | write bit =>
    obtain ⟨result, leads, rfl⟩ := BusWire.leads_onWire course
    exact .write (Wire.leads_writeBit leads)
  | read =>
    obtain ⟨result, leads, rfl⟩ := BusWire.leads_onWire course
    exact .read (Wire.leads_readBit leads)

end Thermowire
