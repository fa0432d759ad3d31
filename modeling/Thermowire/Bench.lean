import Thermowire.Line
import Thermowire.ScriptedBus
import Thermowire.Steps

/-!
Benches on which lists of steps are run: a scripted bus, a scripted pin or pad under a master, and
a master on the simulated line. Each step is reported with what it gave, what the parts remember
and what was observed meanwhile.
-/
namespace Thermowire

def Run.records {I : Interface} {σ α : Type} (run : Run I.surrounded σ α) : List Record :=
  run.history.filterMap Event.record?

namespace ScriptedBus

inductive Transport where
  | bits
  | bytes
  deriving DecidableEq, Repr

structure Report where
  outcome : Outcome ScriptedStatus PinFault
  phase : Phase
  trace : String
  log : List Record

def report {I : Interface}
    (run : Run I.surrounded ScriptedBus (Outcome ScriptedStatus PinFault × Phase)) :
    Report × Phase × ScriptedBus :=
  let (outcome, phase) := run.value
  (⟨outcome, phase, run.state.trace, run.records⟩, phase, run.state)

def perform (transport : Transport) (step : SessionStep) :
    Phase × ScriptedBus → Report × Phase × ScriptedBus
  | (phase, bus) =>
    let program := step.program.run phase
    let bus := { bus with notes := [] }
    match transport with
    | .bits => report (program.byBits.run bitwise bus)
    | .bytes => report (program.run bytewise bus)

end ScriptedBus

namespace Script

inductive Wiring where
  | direct
  | openDrain
  deriving DecidableEq, Repr

structure Report where
  outcome : Outcome Presence (MasterError PinFault)
  rig : Rig
  trace : String
  log : List Record

def report {I : Interface} (own : (call : I.Call) → I.Answer call → String)
    (run : Run I.surrounded Script (Outcome Presence (MasterError PinFault) × Rig)) :
    Report × Rig × Script :=
  let (outcome, rig) := run.value
  let trace := " ".intercalate (run.history.filterMap (Event.traced? own))
  (⟨outcome, rig, trace, run.records⟩, rig, run.state)

/-- A step on the scripted pin or pad; a release tells how many calls were made so far. -/
def perform (wiring : Wiring) (step : MasterStep) : Rig × Script → Report × Rig × Script
  | (rig, script) =>
    let program := step.program.run rig
    let (reported, after) :=
      match wiring with
      | .direct => report PinCall.traced (program.run pin script)
      | .openDrain => report PadCall.traced (program.onPad.run pad script)
    match step with
    | .release => ({ reported with outcome := .ok (.pinCalls script.calls) }, after)
    | _ => (reported, after)

end Script

namespace Line

inductive Step where
  | master (step : MasterStep)
  | pin (call : PinCall)
  | wait (wait : Wait)
  | present (present : Bool)
  | transmit (wire : List Bool)
  | echo
  | register (register : Option Scratchpad)
  deriving DecidableEq, Repr

structure Report where
  outcome : Outcome Presence (MasterError Misuse)
  rig : Rig
  line : Line
  events : List (Nat × PinEvent)
  log : List Record

def pinValue : (call : PinCall) → call.Answer Misuse → Except Misuse (Value Presence)
  | .sample, answer => answer.map .bit
  | .setOutput, answer => answer.map fun _ => .nothing
  | .setInput, answer => answer.map fun _ => .nothing
  | .drive _, answer => answer.map fun _ => .nothing

def perform (step : Step) : Rig × Line → Report × Rig × Line
  | (rig, line) =>
    let quiet (device : Device) : Report × Rig × Line :=
      (⟨.ok .nothing, rig, { line with device }, [], []⟩, rig, { line with device })
    match step with
    | .master step =>
      let run := (step.program.run rig).run Line.pin line
      let (outcome, rig) := run.value
      (⟨outcome, rig, run.state, run.state.eventsSince line, run.records⟩, rig, run.state)
    | .pin call =>
      let (answer, after) := Line.pin (.own call) line
      let outcome := (pinValue call answer).mapError fun misuse => .hardware (.pin misuse)
      (⟨outcome, rig, after, after.eventsSince line, []⟩, rig, after)
    | .wait wait => (⟨.ok .nothing, rig, line.elapse wait, [], []⟩, rig, line.elapse wait)
    | .present present => quiet { line.device with present }
    | .transmit wire => quiet { line.device with transmit := line.device.transmit ++ wire }
    | .echo => quiet line.device.echo
    | .register register => quiet { line.device with register }

end Line

end Thermowire
