import Thermowire.DataPin
import Thermowire.Sensor
import Thermowire.Slot

/-!
A pulled-up line on a clock of its own, with one device attached. The device takes the master's
pulses for resets, ones and zeros by their length, answers resets with a presence pulse, holds the
line low for each zero that it sends, and obeys two commands of a temperature sensor.
-/
namespace Thermowire

/-- The device at the far end. Times are in nanoseconds; `window` is the presence pulse of the last
reset that was answered and `slot` the bit sent in the current slot with the slot's falling edge. -/
structure Device where
  present : Bool
  received : List Bool := []
  transmit : List Bool := []
  register : Option Scratchpad := none
  conversions : Nat := 0
  window : Option (Nat × Nat) := none
  slot : Option (Nat × Bool) := none
  deriving DecidableEq, Repr

namespace Device

def registerBits (pad : Scratchpad) : List Bool := bits pad.low ++ bits pad.high

/-- Obeys a command of two bytes, once exactly its bits have been received. -/
def obey (device : Device) : Device :=
  if device.received = bits Command.skipRom ++ bits Command.convert then
    { device with conversions := device.conversions + 1 }
  else if device.received = bits Command.skipRom ++ bits Command.readScratchpad then
    { device with transmit := device.transmit ++ device.register.elim [] registerBits }
  else device

/-- A slot opens with a falling edge; the device sends in it if it has a bit to send. -/
def openSlot (device : Device) (now : Nat) : Device :=
  { device with slot := device.transmit.head?.map (now, ·), transmit := device.transmit.tail }

/-- A reset clears what was received; a device that is present answers with a pulse. -/
def reset (device : Device) (now : Nat) : Device :=
  -- what is yet to be sent outlasts the reset
  { device with
    slot := none
    received := []
    window := if device.present then some (now + 15000, now + 135000) else device.window }

/-- The end of a slot's pulse is the bit received, unless the device was sending. -/
def receive (device : Device) (bit : Bool) : Device :=
  if device.slot.isNone then { device with received := device.received ++ [bit] }.obey else device

def holdsLow (device : Device) (now : Nat) : Bool :=
  (device.window.any fun (start, stop) => start ≤ now && now < stop) ||
    device.slot.any fun (fall, bit) => !bit && now < fall + 15000

def echo (device : Device) : Device :=
  { device with received := [], transmit := device.transmit ++ device.received }

end Device

inductive PinEvent where
  | output
  | input
  | drive (high : Bool)
  | sample (high : Bool)
  deriving DecidableEq, Repr

def PinEvent.text : PinEvent → String
  | output => "Output"
  | input => "InputPullUp"
  | drive high => "Drive(" ++ toString high ++ ")"
  | sample high => "Sample(" ++ toString high ++ ")"

/-- The line with its clock in nanoseconds and the last falling edge of the master; `trail` holds
the events with their times in microseconds, the newest first. -/
structure Line where
  device : Device
  now : Nat := 0
  output : Bool := false
  low : Bool := false
  fall : Nat := 0
  trail : List (Nat × PinEvent) := []
  deriving DecidableEq, Repr

inductive Misuse where
  | drivenAsInput
  | sampledAsOutput
  deriving DecidableEq, Repr

instance : ToString Misuse where
  toString
    | .drivenAsInput => "driving a pin configured as input"
    | .sampledAsOutput => "sampling a pin configured as output"

namespace Line

def fresh (present : Bool) : Line := { device := { present } }

def micros (line : Line) : Nat := line.now / 1000

def note (line : Line) (event : PinEvent) : Line :=
  { line with trail := (line.micros, event) :: line.trail }

def pullLow (line : Line) : Line :=
  -- a line that is low already has no falling edge, so no slot opens
  { line with
    low := true
    fall := if line.low then line.fall else line.now
    device := if line.low then line.device else line.device.openSlot line.now }

def pulseEnd (line : Line) : Device :=
  let micros := (line.now - line.fall) / 1000
  if Slot.resetLow.micros.toNat ≤ micros then line.device.reset line.now
  else line.device.receive (micros < 15)

def letGo (line : Line) : Line :=
  { line with low := false, device := if line.low then line.pulseEnd else line.device }

def level (line : Line) : Bool := !line.low && !line.device.holdsLow line.now

def elapse (line : Line) (wait : Wait) : Line := { line with now := line.now + wait.nanoseconds }

/-- The pin at the master's end. It fails, and changes nothing, only when it is misused. -/
def pin : World (PinInterface Misuse).surrounded Line
  | .own .setOutput, line => (.ok (), { line with output := true }.note .output)
  | .own .setInput, line => (.ok (), { line with output := false }.letGo.note .input)
  | .own (.drive high), line =>
    if line.output then
      (.ok (), (if high then line.letGo else line.pullLow).note (.drive high))
    else (.error .drivenAsInput, line)
  | .own .sample, line =>
    if line.output then (.error .sampledAsOutput, line)
    else (.ok line.level, line.note (.sample line.level))
  | .ambient (.wait wait), line => ((), line.elapse wait)
  | .ambient _, line => ((), line)

def eventsSince (line earlier : Line) : List (Nat × PinEvent) :=
  (line.trail.take (line.trail.length - earlier.trail.length)).reverse

end Line

end Thermowire
