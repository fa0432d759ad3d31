import Thermowire.Ambient

/-!
How a host spends a wait: it spins through waits that are too short to sleep through, and sleeps
through the others.
-/
namespace Thermowire.Host

inductive Pause where
  | spin (nanos : UInt32)
  | sleep (wait : Wait)
  deriving DecidableEq, Repr

def shortestSleep : UInt32 := 1000000

def Pause.ofNanos (nanos : UInt32) : Pause :=
  if shortestSleep ≤ nanos then .sleep ⟨.nanos, nanos⟩ else .spin nanos

/-- A wait in microseconds is taken in nanoseconds where 32 bits can hold them. -/
def Pause.ofMicros (micros : UInt32) : Pause :=
  if micros.toNat * 1000 < UInt32.size then .ofNanos (micros * 1000) else .sleep ⟨.micros, micros⟩

def Pause.ofWait : Wait → Pause
  | ⟨.nanos, amount⟩ => .ofNanos amount
  | ⟨.micros, amount⟩ => .ofMicros amount
  | ⟨.millis, amount⟩ => .sleep ⟨.millis, amount⟩

def Pause.nanoseconds : Pause → Nat
  | spin nanos => nanos.toNat
  | sleep wait => wait.nanoseconds

def sleepText (wait : Wait) : String := "sleep_" ++ wait.unit.symbol ++ " " ++ toString wait.amount

end Thermowire.Host
