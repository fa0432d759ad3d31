import Thermowire.Master
import Thermowire.Sensor

/-!
Single steps on a bus, on a sensor and on a master, each as one program with one kind of outcome,
so that lists of steps can be run on whatever the bus or the pin is.
-/
namespace Thermowire

inductive Value (S : Type) where
  | nothing
  | bit (bit : Bool)
  | byte (byte : UInt8)
  | status (status : S)
  | scratchpad (pad : Scratchpad)
  | temperature (reading : Temperature)
  | pinCalls (count : Nat)
  deriving DecidableEq, Repr

inductive Failure (E : Type) where
  | bus (error : BusError E)
  | sensor (error : SensorError E)
  | hardware (error : E)
  deriving DecidableEq, Repr

abbrev Outcome (S E : Type) := Except (Failure E) (Value S)

namespace Failure
variable {E : Type}

def hardware? : Failure E → Option E
  | bus (.other error) => some error
  | sensor (.bus (.other error)) => some error
  | hardware error => some error
  | _ => none

end Failure

inductive BusStep where
  | reset
  | addressAll
  | writeBit (bit : Bool)
  | writeByte (byte : UInt8)
  | readBit
  | readByte
  deriving DecidableEq, Repr

def BusStep.exchange {S E : Type} : BusStep → Exchange S E (Value S)
  | reset => .status <$> Exchange.reset
  | addressAll => .status <$> Exchange.addressAll
  | writeBit bit => (fun _ => .nothing) <$> Exchange.writeBit bit
  | writeByte byte => (fun _ => .nothing) <$> Exchange.writeByte byte
  | readBit => .bit <$> Exchange.readBit
  | readByte => .byte <$> Exchange.readByte

inductive SensorStep where
  | convert
  | readScratchpad
  | readTemperature
  deriving DecidableEq, Repr

def SensorStep.session {S E : Type} : SensorStep → Session S E (Value S)
  | convert => (fun _ => .nothing) <$> Session.convert
  | readScratchpad => .scratchpad <$> Session.readScratchpad
  | readTemperature => .temperature <$> Session.readTemperature

inductive SessionStep where
  | bus (step : BusStep)
  | sensor (step : SensorStep)
  | newSensor
  deriving DecidableEq, Repr

def SessionStep.program {S E : Type} :
    SessionStep → StateT Phase (Program (BusInterface S E).surrounded) (Outcome S E)
  | bus step => StateT.lift (Except.mapError .bus <$> step.exchange.run)
  | sensor step => Except.mapError .sensor <$> step.session.run
  | newSensor => do
    set Phase.idle
    return .ok .nothing

/-- What a master and a sensor on it remember between steps. -/
structure Rig where
  phase : Phase := .idle
  direction : Direction := .unconfigured
  deriving DecidableEq, Repr

def PinAction.onRig {E ε α : Type} (action : PinAction E ε α) :
    StateT Rig (Program (PinInterface E).surrounded) (Except ε α) := fun rig => do
  let (result, direction) ← action.run.run rig.direction
  return (result, { rig with direction })

def onRig {E α : Type}
    (program : StateT Phase (Program (BusInterface Presence (MasterError E)).surrounded) α) :
    StateT Rig (Program (PinInterface E).surrounded) α := fun rig => do
  let ((result, phase), direction) ← (program.run rig.phase).onPin.run rig.direction
  return (result, { phase, direction })

/-- A step on a master with one sensor. A release takes the master apart and builds a new one on the
same pin; the last four steps are the master's own means. -/
inductive MasterStep where
  | session (step : SessionStep)
  | start
  | release
  | output
  | input
  | drive (high : Bool)
  | sample
  deriving DecidableEq, Repr

namespace MasterStep
variable {E : Type}

def onWire (wire : Wire E (Value Presence)) :
    StateT Rig (Program (PinInterface E).surrounded) (Outcome Presence (MasterError E)) :=
  Except.mapError .hardware <$> PinAction.onRig wire

def program : MasterStep →
    StateT Rig (Program (PinInterface E).surrounded) (Outcome Presence (MasterError E))
  | session step => onRig step.program
  | start => Except.mapError .bus <$> PinAction.onRig (.status <$> BusWire.start)
  | release => do
    modify fun rig => { rig with direction := .unconfigured }
    return .ok .nothing
  | output => onWire ((fun _ => .nothing) <$> Wire.output)
  | input => onWire ((fun _ => .nothing) <$> Wire.input)
  | drive high => onWire ((fun _ => .nothing) <$> Wire.drive high)
  | sample => onWire (.bit <$> Wire.sample)

end MasterStep

/-- Runs steps one after the other and keeps a report of each; an error stops only its own step. -/
def reports {σ τ ρ : Type} (step : τ → σ → ρ × σ) : List τ → σ → List ρ
  | [], _ => []
  | first :: rest, state =>
    let (report, state) := step first state
    report :: reports step rest state

end Thermowire
