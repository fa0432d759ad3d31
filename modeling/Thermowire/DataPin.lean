import Thermowire.Program

/-!
The data pin of a bus. It is an output that is driven or an input with a pull-up that is sampled;
an open-drain pad with an external pull-up stands in for it, since a pad that is set high lets the
line go.
-/
namespace Thermowire

inductive Direction where
  | unconfigured
  | output
  | input
  deriving DecidableEq, Repr

def Direction.name : Direction → String
  | unconfigured => "Unconfigured"
  | output => "Output"
  | input => "InputPullUp"

inductive PinCall where
  | setOutput
  | setInput
  | drive (high : Bool)
  | sample
  deriving DecidableEq, Repr

inductive PadCall where
  | put (high : Bool)
  | read
  deriving DecidableEq, Repr

def PinCall.Answer (E : Type) : PinCall → Type
  | setOutput => Except E Unit
  | setInput => Except E Unit
  | drive _ => Except E Unit
  | sample => Except E Bool

def PadCall.Answer (E : Type) : PadCall → Type
  | put _ => Except E Unit
  | read => Except E Bool

abbrev PinInterface (E : Type) : Interface := ⟨PinCall, PinCall.Answer E⟩
abbrev PadInterface (E : Type) : Interface := ⟨PadCall, PadCall.Answer E⟩

/-- A pin made of an open-drain pad: an input is a pad set high, and an output needs no call. -/
def PinCall.openDrain {E : Type} : (call : PinCall) → Program (PadInterface E) (call.Answer E)
  | setOutput => .done (.ok ())
  | setInput => .ask (I := PadInterface E) (.put true)
  | drive high => .ask (I := PadInterface E) (.put high)
  | sample => .ask (I := PadInterface E) .read

end Thermowire
