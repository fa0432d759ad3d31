import Thermowire.Bus

/-!
A DS18B20 alone on a bus: it is told to convert, given time, and asked for its register. Every step
notes the phase that it enters, so a cycle that fails leaves the phase that failed.
-/
namespace Thermowire

inductive SensorError (E : Type) where
  | bus (error : BusError E)
  | outOfRange (error : OutOfRange)
  deriving DecidableEq, Repr

namespace SensorError
variable {E : Type}

instance [ToString E] : ToString (SensorError E) where
  toString
    | bus error => "Bus(" ++ toString error ++ ")"
    | outOfRange error => "OutOfRange(" ++ error.text ++ ")"

def isAbsent : SensorError E → Bool
  | bus error => error.isAbsent
  | outOfRange _ => false

end SensorError

def Command.convert : UInt8 := 0x44

def Command.readScratchpad : UInt8 := 0xbe

/-- Sessions with the sensor: they carry its phase along and stop at the first error. -/
abbrev Session (S E : Type) :=
  ExceptT (SensorError E) (StateT Phase (Program (BusInterface S E).surrounded))

namespace Session
variable {S E α : Type}

def ambient (call : Ambient) : Session S E Unit := ExceptT.lift (StateT.lift (.ambient call))

def onBus (exchange : Exchange S E α) : Session S E α :=
  .mk (StateT.lift (Except.mapError .bus <$> exchange.run))

def enter (phase : Phase) : Session S E Unit := do
  ambient (.log (.phase (← get) phase))
  set phase

def conversionTime : Wait := ⟨.millis, 750⟩

def convert : Session S E Unit := do
  enter .convertReset
  onBus do
    let _ ← Exchange.addressAll
    Exchange.writeByte Command.convert
  enter .convertSent
  enter .converting
  ambient (.wait conversionTime)

def readScratchpad : Session S E Scratchpad := do
  enter .readReset
  onBus do
    let _ ← Exchange.addressAll
    Exchange.writeByte Command.readScratchpad
  enter .readSent
  enter .reading
  onBus do
    let low ← Exchange.readByte
    let high ← Exchange.readByte
    return ⟨low, high⟩

/-- A full cycle; a register outside the rated range is no reading. -/
def readTemperature : Session S E Temperature := do
  convert
  let pad ← readScratchpad
  let reading ← ExceptT.mk (pure (pad.decode.mapError .outOfRange))
  enter .decoded
  ambient (.log (.reading reading))
  return reading

end Session

end Thermowire
