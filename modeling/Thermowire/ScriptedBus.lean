import Thermowire.Bus
import Thermowire.Script

/-!
A bus that follows a script: the outcomes of its resets, the levels of its bits, the bytes it
serves and the calls that fail. It notes its calls itself, since the note of a failed call shows
what the call would have given.
-/
namespace Thermowire

/-- What a scripted reset does; `mute` succeeds without presence pulse on a shorted line. -/
inductive ResetOutcome where
  | present
  | mute
  | absent
  | shorted
  deriving DecidableEq, Repr

structure ScriptedStatus where
  present : Bool
  shorted : Bool
  deriving DecidableEq, Repr

instance : ResetReport ScriptedStatus where
  present := ScriptedStatus.present
  shorted := ScriptedStatus.shorted

namespace ResetOutcome

def symbol : ResetOutcome → String
  | present => "P"
  | mute => "p"
  | absent => "A"
  | shorted => "S"

def answer : ResetOutcome → Except (BusError PinFault) ScriptedStatus
  | present => .ok ⟨true, false⟩
  | mute => .ok ⟨false, true⟩
  | absent => .error .noDevice
  | shorted => .error .shortCircuit

end ResetOutcome

inductive BusNote where
  | reset (outcome : ResetOutcome)
  | write (bit : Bool)
  | read (bit : Option Bool)
  | writeByte (byte : UInt8)
  | readByte (byte : UInt8)
  | ambient (call : Ambient)
  deriving DecidableEq, Repr

def byteText (byte : UInt8) : String := String.ofList (digits 16 2 byte.toNat)

def BusNote.text? : BusNote → Option String
  | reset outcome => some ("reset" ++ outcome.symbol)
  | write bit => some ("w" ++ bitText bit)
  | read none => some "r"
  | read (some bit) => some ("r" ++ bitText bit)
  | writeByte byte => some ("W" ++ byteText byte)
  | readByte byte => some ("R" ++ byteText byte)
  | ambient call => call.traced?

structure ScriptedBus where
  script : Script
  resets : List ResetOutcome
  data : List UInt8
  notes : List (BusNote × Option PinFault) := []
  deriving DecidableEq, Repr

namespace ScriptedBus
variable {α : Type}

def note (bus : ScriptedBus) (entry : BusNote) (fault : Option PinFault) : ScriptedBus :=
  { bus with notes := bus.notes ++ [(entry, fault)] }

def attempt (bus : ScriptedBus) (entry : BusNote) (value : Except (BusError PinFault) α)
    (next : ScriptedBus → ScriptedBus := id) : Except (BusError PinFault) α × ScriptedBus :=
  let fault := bus.script.fault?
  let bus := { bus with script := bus.script.count }.note entry fault
  match fault with
  | some fault => (.error (.other fault), bus)
  | none => (value, next bus)

/-- An outcome is used up even by a reset that fails. -/
def reset (bus : ScriptedBus) : Except (BusError PinFault) ScriptedStatus × ScriptedBus :=
  let outcome := bus.resets.headD .present
  { bus with resets := bus.resets.tail }.attempt (.reset outcome) outcome.answer

def readBit (bus : ScriptedBus) : Except (BusError PinFault) Bool × ScriptedBus :=
  let (level, script) := bus.script.nextLevel
  match bus.script.fault? with
  | some _ => bus.attempt (.read none) (.ok level)
  | none => { bus with script }.attempt (.read (some level)) (.ok level)

def readByte (bus : ScriptedBus) : Except (BusError PinFault) UInt8 × ScriptedBus :=
  let byte := bus.data.headD 0xff
  bus.attempt (.readByte byte) (.ok byte) fun bus => { bus with data := bus.data.tail }

def onBit : (call : BitCall) → ScriptedBus → call.Answer ScriptedStatus PinFault × ScriptedBus
  | .reset, bus => bus.reset
  | .write bit, bus => bus.attempt (.write bit) (.ok ())
  | .read, bus => bus.readBit

def bitwise : World (BitInterface ScriptedStatus PinFault).surrounded ScriptedBus
  | .own call, bus => onBit call bus
  | .ambient call, bus => ((), bus.note (.ambient call) none)

def bytewise : World (BusInterface ScriptedStatus PinFault).surrounded ScriptedBus
  | .own (.bit call), bus => onBit call bus
  | .own (.writeByte byte), bus => bus.attempt (.writeByte byte) (.ok ())
  | .own .readByte, bus => bus.readByte
  | .ambient call, bus => ((), bus.note (.ambient call) none)

def trace (bus : ScriptedBus) : String :=
  " ".intercalate <| bus.notes.filterMap fun (entry, fault) =>
    entry.text?.map fun text => tracedCall text (fun _ => "") (fault.elim (.ok ()) .error)

end ScriptedBus

end Thermowire
