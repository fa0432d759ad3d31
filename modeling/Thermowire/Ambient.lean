import Thermowire.Log
import Thermowire.Program

/-!
What every program on the wire does besides its own calls: it waits, marks critical sections and
logs. `Interface.surrounded` adds these calls to an interface.
-/
namespace Thermowire

inductive TimeUnit where
  | nanos
  | micros
  | millis
  deriving DecidableEq, Repr

namespace TimeUnit

def symbol : TimeUnit → String
  | nanos => "ns"
  | micros => "us"
  | millis => "ms"

def nanoseconds : TimeUnit → Nat
  | nanos => 1
  | micros => 1000
  | millis => 1000000

end TimeUnit

structure Wait where
  unit : TimeUnit
  amount : UInt32
  deriving DecidableEq, Repr

def Wait.nanoseconds (wait : Wait) : Nat := wait.amount.toNat * wait.unit.nanoseconds

inductive Ambient where
  | wait (wait : Wait)
  | enter
  | leave
  | log (record : Record)
  deriving DecidableEq, Repr

inductive Surrounded (Call : Type) where
  | own (call : Call)
  | ambient (call : Ambient)

/-- The interface together with waits, critical section marks and log records. -/
abbrev Interface.surrounded (I : Interface) : Interface where
  Call := Surrounded I.Call
  Answer
    | .own call => I.Answer call
    | .ambient _ => Unit

namespace Program
variable {I : Interface} {α : Type}

def ambient (request : Ambient) : Program I.surrounded Unit := ask (I := I.surrounded) (.ambient request)

def own (request : I.Call) : Program I.surrounded (I.Answer request) :=
  ask (I := I.surrounded) (.own request)

def surrounded : Program I α → Program I.surrounded α := interpret own

def answering {m : Type → Type} (onOwn : (call : I.Call) → m (I.Answer call))
    (onAmbient : Ambient → m Unit) : (request : I.surrounded.Call) → m (I.surrounded.Answer request)
  | .own request => onOwn request
  | .ambient request => onAmbient request

end Program

end Thermowire
