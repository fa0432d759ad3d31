import Thermowire.Ambient
import Thermowire.Bits

/-!
A 1-Wire bus as its user sees it. A bus moves bits between resets; byte transfers are eight bit
transfers, least significant bit first, unless the bus has its own. `Program.byBits` turns the
former into the latter.
-/
namespace Thermowire

inductive BusError (E : Type) where
  | other (error : E)
  | noDevice
  | shortCircuit
  deriving DecidableEq, Repr

namespace BusError
variable {E : Type}

instance [ToString E] : ToString (BusError E) where
  toString
    | other error => "Other(" ++ toString error ++ ")"
    | noDevice => "NoDevicePresent"
    | shortCircuit => "ShortCircuit"

def isAbsent : BusError E → Bool
  | noDevice => true
  | _ => false

end BusError

/-- What a bus reports of a reset: a presence pulse, a short to ground, and the final level of the
line if the bus samples it. -/
class ResetReport (S : Type) where
  present : S → Bool
  shorted : S → Bool
  level : S → Option Bool := fun _ => none

inductive BitCall where
  | reset
  | write (bit : Bool)
  | read
  deriving DecidableEq, Repr

inductive BusCall where
  | bit (call : BitCall)
  | writeByte (byte : UInt8)
  | readByte
  deriving DecidableEq, Repr

def BitCall.Answer (S E : Type) : BitCall → Type
  | reset => Except (BusError E) S
  | write _ => Except (BusError E) Unit
  | read => Except (BusError E) Bool

def BusCall.Answer (S E : Type) : BusCall → Type
  | bit call => call.Answer S E
  | writeByte _ => Except (BusError E) Unit
  | readByte => Except (BusError E) UInt8

abbrev BitInterface (S E : Type) : Interface := ⟨BitCall, BitCall.Answer S E⟩

abbrev BusInterface (S E : Type) : Interface := ⟨BusCall, BusCall.Answer S E⟩

abbrev Transfer (S E : Type) := ExceptT (BusError E) (Program (BitInterface S E))

namespace Transfer
variable {S E : Type}

def writeBit (bit : Bool) : Transfer S E Unit := .mk (.ask (I := BitInterface S E) (.write bit))
def readBit : Transfer S E Bool := .mk (.ask (I := BitInterface S E) .read)

def writeBits (wire : List Bool) : Transfer S E Unit := wire.forM writeBit

def readBits : Nat → Transfer S E (List Bool)
  | 0 => return []
  | n + 1 => return (← readBit) :: (← readBits n)

end Transfer

/-- A bus call made of bit calls alone; the first bit that fails ends its byte. -/
def BusCall.byBits {S E : Type} : (call : BusCall) → Program (BitInterface S E) (call.Answer S E)
  | bit call => .ask (I := BitInterface S E) call
  | writeByte byte => (Transfer.writeBits (bits byte)).run
  | readByte => (ofBits <$> Transfer.readBits 8).run

def Program.byBits {S E α : Type} :
    Program (BusInterface S E).surrounded α → Program (BitInterface S E).surrounded α :=
  interpret (answering (fun call => call.byBits.surrounded) ambient)

def Command.skipRom : UInt8 := 0xcc

abbrev Exchange (S E : Type) := ExceptT (BusError E) (Program (BusInterface S E).surrounded)

namespace Exchange
variable {S E : Type}

def reset : Exchange S E S := .mk (.own (I := BusInterface S E) (.bit .reset))
def writeBit (bit : Bool) : Exchange S E Unit := .mk (.own (I := BusInterface S E) (.bit (.write bit)))
def readBit : Exchange S E Bool := .mk (.own (I := BusInterface S E) (.bit .read))
def writeByte (byte : UInt8) : Exchange S E Unit :=
  .mk (.own (I := BusInterface S E) (.writeByte byte))
def readByte : Exchange S E UInt8 := .mk (.own (I := BusInterface S E) .readByte)

def addressAll : Exchange S E S := do
  let status ← reset
  writeByte Command.skipRom
  return status

end Exchange

end Thermowire
