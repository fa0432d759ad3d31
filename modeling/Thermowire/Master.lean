import Thermowire.DataPin
import Thermowire.Presence
import Thermowire.Slot

/-!
A bit-banged bus master on one pin. It remembers the direction that it last gave the pin, refuses to
drive an input or to sample an output, and keeps whatever is critical in time inside a critical
section.
-/
namespace Thermowire

inductive MasterError (E : Type) where
  | configure (error : E)
  | pin (error : E)
  | direction
  deriving DecidableEq, Repr

instance {E : Type} [ToString E] : ToString (MasterError E) where
  toString
    | .configure error => "Configure(" ++ toString error ++ ")"
    | .pin error => "Pin(" ++ toString error ++ ")"
    | .direction => "Direction"

/-- What the master does on its pin: it carries the direction along and stops at the first error. -/
abbrev PinAction (E ε : Type) := ExceptT ε (StateT Direction (Program (PinInterface E).surrounded))

abbrev Wire (E : Type) := PinAction E (MasterError E)

namespace Wire
variable {E α : Type}

def ambient (call : Ambient) : Wire E Unit := ExceptT.lift (StateT.lift (.ambient call))

def wait (slot : Slot) : Wire E Unit := ambient (.wait slot.wait)

def onPin (cause : E → MasterError E)
    (program : Program (PinInterface E).surrounded (Except E α)) : Wire E α :=
  .mk (StateT.lift (Except.mapError cause <$> program))

def output : Wire E Unit := do
  onPin .configure (.own (I := PinInterface E) .setOutput)
  set Direction.output

def input : Wire E Unit := do
  onPin .configure (.own (I := PinInterface E) .setInput)
  set Direction.input

def drive (high : Bool) : Wire E Unit := do
  if (← get) = .output then
    onPin .pin (.own (I := PinInterface E) (.drive high))
  else
    throw .direction

def sample : Wire E Bool := do
  if (← get) = .input then
    onPin .pin (.own (I := PinInterface E) .sample)
  else
    throw .direction

/-- Runs the body with interrupts held off; the section is left on an error too. -/
def critical (body : Wire E α) : Wire E α := .mk do
  StateT.lift (.ambient .enter)
  let result ← body.run
  StateT.lift (.ambient .leave)
  return result

def resetPulse : Wire E (Bool × Bool) := do
  output
  drive false
  wait .resetLow
  let high ← critical do
    input
    wait .presenceSample
    sample
  wait .resetRecovery
  let idle ← sample
  ambient (.log (.reset (!high) idle))
  return (!high, idle)

def writeBit (bit : Bool) : Wire E Unit := critical do
  output
  drive false
  wait (.writeLow bit)
  drive true
  wait (.writeRelease bit)

def readBit : Wire E Bool := do
  let bit ← critical do
    output
    drive false
    wait .readLow
    input
    wait .readSample
    sample
  wait .readRecovery
  return bit

def settle : Wire E Unit := do
  output
  drive true
  ambient (.wait Slot.settle)

end Wire

abbrev BusWire (E : Type) := PinAction E (BusError (MasterError E))

namespace BusWire
variable {E α : Type}

def onWire (wire : Wire E α) : BusWire E α := ExceptT.adapt .other wire

/-- A line that stays low is shorted, whatever the first sample was. -/
def reset : BusWire E Presence := do
  let (present, idle) ← onWire Wire.resetPulse
  if !idle then throw .shortCircuit
  else if !present then throw .noDevice
  else return .ofSamples present idle

def start : BusWire E Presence := do
  onWire Wire.settle
  reset

end BusWire

/-- The master as a bus that moves bits. -/
def BitCall.onPin {E : Type} : (call : BitCall) →
    StateT Direction (Program (PinInterface E).surrounded) (call.Answer Presence (MasterError E))
  | reset => BusWire.reset.run
  | write bit => (BusWire.onWire (Wire.writeBit bit)).run
  | read => (BusWire.onWire Wire.readBit).run

namespace Program
variable {E α : Type}

def onPin (program : Program (BusInterface Presence (MasterError E)).surrounded α) :
    StateT Direction (Program (PinInterface E).surrounded) α :=
  interpret (answering BitCall.onPin fun call => StateT.lift (.ambient call)) program.byBits

def onPad : Program (PinInterface E).surrounded α → Program (PadInterface E).surrounded α :=
  interpret (answering (fun call => call.openDrain.surrounded) ambient)

end Program

end Thermowire
