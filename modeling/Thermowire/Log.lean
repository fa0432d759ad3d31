import Thermowire.Register

/-!
Log records of a bus and of the sensor on it, with the phases of a sensor's cycle that they name.
-/
namespace Thermowire

/-- The phase that the last cycle of a sensor reached. -/
inductive Phase where
  | idle
  | convertReset
  | convertSent
  | converting
  | readReset
  | readSent
  | reading
  | decoded
  deriving DecidableEq, Repr

def Phase.name : Phase → String
  | idle => "Idle"
  | convertReset => "Reset1"
  | convertSent => "ConvertCmdSent"
  | converting => "ConversionWait"
  | readReset => "Reset2"
  | readSent => "ReadCmdSent"
  | reading => "ReadingBytes"
  | decoded => "Decoded"

inductive Level where
  | error
  | warn
  | info
  | debug
  | trace
  deriving DecidableEq, Repr

namespace Level

def name : Level → String
  | error => "ERROR"
  | warn => "WARN"
  | info => "INFO"
  | debug => "DEBUG"
  | trace => "TRACE"

def verbosity : Level → Nat
  | error => 1
  | warn => 2
  | info => 3
  | debug => 4
  | trace => 5

end Level

inductive Record where
  | reset (present idleHigh : Bool)
  | phase (before after : Phase)
  | reading (temperature : Temperature)
  deriving DecidableEq, Repr

namespace Record

def level : Record → Level
  | reset .. => .trace
  | phase .. => .trace
  | reading .. => .debug

def text : Record → String
  | reset present idleHigh =>
    "1-Wire reset: present=" ++ toString present ++ " idle_high=" ++ toString idleHigh
  | phase before after => "DS18B20 " ++ before.name ++ " -> " ++ after.name
  | reading temperature => "DS18B20 raw " ++ temperature.codeText ++ ": " ++ temperature.text ++ " C"

def target : Record → String
  | reset .. => "onewire_gpio::onewire"
  | phase .. => "ds18b20"
  | reading .. => "ds18b20"

end Record

end Thermowire
