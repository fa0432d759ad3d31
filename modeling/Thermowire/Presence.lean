import Thermowire.Bus

/-!
The outcome of a reset, packed into one byte: bit 0 tells a presence pulse, bit 1 a short to ground
and bit 2 the final level of the line. The five bits above are padding and kept as they are.
-/
namespace Thermowire

structure Presence where
  byte : UInt8
  deriving DecidableEq, Repr

namespace Presence

inductive Flag where
  | present
  | shorted
  | level
  deriving DecidableEq, Repr

def Flag.mask : Flag → UInt8
  | present => 1
  | shorted => 2
  | level => 4

def empty : Presence := ⟨0⟩

def get (status : Presence) (flag : Flag) : Bool := status.byte &&& flag.mask != 0

def set (status : Presence) (flag : Flag) (value : Bool) : Presence :=
  ⟨if value then status.byte ||| flag.mask else status.byte &&& ~~~flag.mask⟩

/-- The outcome of a reset whose first sample tells `present` and whose second is `idleHigh`. -/
def ofSamples (present idleHigh : Bool) : Presence :=
  ((empty.set .present present).set .shorted (!idleHigh)).set .level idleHigh

def text (status : Presence) : String :=
  "PresenceStatus \x7b present_pulse_detect: " ++ toString (status.get .present) ++
    ", short_detect: " ++ toString (status.get .shorted) ++
    ", logic_level: " ++ toString (status.get .level) ++ " \x7d"

instance : ResetReport Presence where
  present status := status.get .present
  shorted status := status.get .shorted
  level status := some (status.get .level)

theorem get_set (status : Presence) (flag other : Flag) (value : Bool) :
    (status.set flag value).get other = if flag = other then value else status.get other := by
  obtain ⟨byte⟩ := status
  revert byte
  apply forall_byte
  cases flag <;> cases other <;> cases value <;> decide +kernel

end Presence

end Thermowire
