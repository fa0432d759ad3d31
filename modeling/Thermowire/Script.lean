import Thermowire.DataPin
import Thermowire.Ambient

/-!
Pins and pads that follow a script: which of their calls fail, numbered from the first, and which
levels the others read. What a program did on them is told by a trace of its calls.
-/
namespace Thermowire

structure PinFault where
  code : UInt8
  deriving DecidableEq, Repr

instance : ToString PinFault := ⟨fun fault => "PinFault(" ++ toString fault.code ++ ")"⟩

/-- Levels still to be read, the numbers of the calls that fail, and the calls made so far. -/
structure Script where
  levels : List Bool
  faults : List (Nat × UInt8)
  calls : Nat := 0
  deriving DecidableEq, Repr

namespace Script
variable {α : Type}

/-- The fault of the next call; of two faults under one number the first counts. -/
def fault? (script : Script) : Option PinFault := (script.faults.lookup script.calls).map .mk

def count (script : Script) : Script := { script with calls := script.calls + 1 }

def nextLevel (script : Script) : Bool × Script :=
  match script.levels with
  | [] => (true, script)
  | level :: rest => (level, { script with levels := rest })

/-- A call fails, or does what it is for; either way it counts. -/
def attempt (script : Script) (succeed : Script → α × Script) : Except PinFault α × Script :=
  match script.fault? with
  | some fault => (.error fault, script.count)
  | none =>
    let (value, script) := succeed script.count
    (.ok value, script)

def pin : World (PinInterface PinFault).surrounded Script
  | .own .setOutput, script => script.attempt fun script => ((), script)
  | .own .setInput, script => script.attempt fun script => ((), script)
  | .own (.drive _), script => script.attempt fun script => ((), script)
  | .own .sample, script => script.attempt nextLevel
  | .ambient _, script => ((), script)

def pad : World (PadInterface PinFault).surrounded Script
  | .own (.put _), script => script.attempt fun script => ((), script)
  | .own .read, script => script.attempt nextLevel
  | .ambient _, script => ((), script)

end Script

def bitText (bit : Bool) : String := if bit then "1" else "0"

def tracedCall {α : Type} (name : String) (shown : α → String) : Except PinFault α → String
  | .ok value => name ++ shown value
  | .error fault => name ++ "!" ++ toString fault.code

def PinCall.traced : (call : PinCall) → call.Answer PinFault → String
  | setOutput => tracedCall "out" fun _ => ""
  | setInput => tracedCall "in" fun _ => ""
  | drive high => tracedCall ("d" ++ bitText high) fun _ => ""
  | sample => tracedCall "s" bitText

def PadCall.traced : (call : PadCall) → call.Answer PinFault → String
  | put high => tracedCall (if high then "H" else "L") fun _ => ""
  | read => tracedCall "r" bitText

def Ambient.traced? : Ambient → Option String
  | wait asked => some (asked.unit.symbol ++ toString asked.amount)
  | enter => some "["
  | leave => some "]"
  | log _ => none

namespace Event
variable {I : Interface}

def traced? (own : (call : I.Call) → I.Answer call → String) : Event I.surrounded → Option String
  | ⟨.own call, answer⟩ => some (own call answer)
  | ⟨.ambient call, _⟩ => call.traced?

def record? : Event I.surrounded → Option Record
  | ⟨.ambient (.log record), _⟩ => some record
  | _ => none

end Event

end Thermowire
