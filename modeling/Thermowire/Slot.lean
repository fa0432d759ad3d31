import Thermowire.Ambient

/-!
The phases of the time slots at standard speed and how long each of them lasts.
-/
namespace Thermowire

inductive Slot where
  | resetLow
  | presenceSample
  | resetRecovery
  | write1Low
  | write1Release
  | write0Low
  | write0Release
  | readLow
  | readSample
  | readRecovery
  deriving DecidableEq, Repr

namespace Slot

def micros : Slot → UInt32
  | resetLow => 480
  | presenceSample => 70
  | resetRecovery => 410
  | write1Low => 5
  | write1Release => 55
  | write0Low => 60
  | write0Release => 5
  | readLow => 5
  | readSample => 5
  | readRecovery => 50

def wait (slot : Slot) : Wait := ⟨.micros, slot.micros⟩

def writeLow (bit : Bool) : Slot := if bit then write1Low else write0Low

def writeRelease (bit : Bool) : Slot := if bit then write1Release else write0Release

/-- How long the line is held high after power-up before the first reset. -/
def settle : Wait := ⟨.millis, 100⟩

end Slot

end Thermowire
