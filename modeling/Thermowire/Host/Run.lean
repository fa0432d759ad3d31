import Thermowire.Host.Arguments
import Thermowire.Host.Pause
import Thermowire.Script
import Thermowire.Steps

/-!
The host program: it requests a line of a chip as open drain, brings the bus up on it and reads the
sensor once a second without end. It is run on a scripted pad and ends right after a given number of
sleeps, so that many cycles are enough to tell the whole run. What reads its command line and which of
its log records are shown is told from without.
-/
namespace Thermowire.Host

/-- What has to succeed, in this order, before the bus is brought up. -/
inductive Stage where
  | openChip
  | getLine
  | requestLine
  | makePin
  deriving DecidableEq, Repr

namespace Stage

def all : List Stage := [openChip, getLine, requestLine, makePin]

def failure : Stage → String
  | openChip => "Failed to open GPIO chip"
  | getLine => "Failed to get GPIO line"
  | requestLine => "Failed to request GPIO line"
  | makePin => "Failed to create GPIO pin"

def text (arguments : Arguments) : Stage → String
  | openChip => "open " ++ String.ofList arguments.chip
  | getLine => "line " ++ toString arguments.line
  | requestLine => "request flags=10 default=1 consumer=ds18b20-linux"
  | makePin => "pin-new"

def upTo (failing : Option Stage) : List Stage :=
  match failing with
  | none => all
  | some stage => all.takeWhile (· ≠ stage) ++ [stage]

end Stage

abbrev LineTrouble := MasterError PinFault

inductive HostRecord where
  | started
  | startFailed (error : BusError LineTrouble)
  | reading (temperature : Temperature)
  | noReading (phase : Phase) (error : SensorError LineTrouble)
  | driven (record : Record)
  deriving DecidableEq, Repr

namespace HostRecord

def level : HostRecord → Level
  | started => .info
  | startFailed _ => .error
  | reading _ => .info
  | noReading .. => .warn
  | driven record => record.level

def text : HostRecord → String
  | started => "Sensor initialized successfully"
  | startFailed error => "Sensor initialization failed: " ++ toString error
  | reading temperature => "Temperature: " ++ temperature.text ++ "°C"
  | noReading phase error => "No valid reading (" ++ phase.name ++ "): " ++ toString error
  | driven record => record.text

def target : HostRecord → String
  | driven record => record.target
  | _ => "ds18b20_linux"

def line (record : HostRecord) : String := record.level.name ++ " " ++ record.text

end HostRecord

inductive Moment where
  | stage (stage : Stage)
  | pad (call : PadCall) (answer : call.Answer PinFault)
  | sleep (wait : Wait)
  | log (record : HostRecord)

namespace Moment

def isSleep : Moment → Bool
  | sleep _ => true
  | _ => false

def isPad : Moment → Bool
  | pad .. => true
  | _ => false

def record? : Moment → Option HostRecord
  | log record => some record
  | _ => none

/-- A wait is a moment only if the host sleeps through it; critical sections are none. -/
def ofEvent? : Event (PadInterface PinFault).surrounded → Option Moment
  | ⟨.own call, answer⟩ => some (pad call answer)
  | ⟨.ambient (.wait wait), _⟩ =>
    match Pause.ofWait wait with
    | .sleep wait => some (sleep wait)
    | .spin _ => none
  | ⟨.ambient (.log record), _⟩ => some (log (.driven record))
  | ⟨.ambient _, _⟩ => none

end Moment

structure Machine where
  rig : Rig := {}
  script : Script

def drive {α : Type}
    (program : StateT Rig (Program (PinInterface PinFault).surrounded) α) (machine : Machine) :
    α × List Moment × Machine :=
  let run := (program.run machine.rig).onPad.run Script.pad machine.script
  let (value, rig) := run.value
  (value, run.history.filterMap Moment.ofEvent?, { rig, script := run.state })

def readInterval : Wait := ⟨.millis, 1000⟩

def cycle (machine : Machine) : List Moment × Machine :=
  let (result, moments, machine) := drive (onRig Session.readTemperature.run) machine
  let record : HostRecord :=
    match result with
    | .ok temperature => .reading temperature
    | .error error => .noReading machine.rig.phase error
  (moments ++ [.log record, .sleep readInterval], machine)

def cycles : Nat → Machine → List Moment
  | 0, _ => []
  | n + 1, machine =>
    let (moments, machine) := cycle machine
    moments ++ cycles n machine

/-- The moments up to the n-th sleep, if there are as many. -/
def untilSleep : Nat → List Moment → Option (List Moment)
  | 0, _ => some []
  | _ + 1, [] => none
  | n + 1, moment :: rest =>
    (untilSleep (if moment.isSleep then n else n + 1) rest).map (moment :: ·)

inductive Ending where
  | slept
  | startFailed
  | died (stage : Stage)
  deriving DecidableEq, Repr

def Ending.exitCode : Ending → Nat
  | slept => 0
  | startFailed => 1
  | died _ => 101

/-- What a run meets: the stage that fails, the pad's script, and the sleep that ends it. -/
structure Surroundings where
  failing : Option Stage := none
  script : Script
  sleeps : Nat

def busMoments (script : Script) (count : Nat) : List Moment :=
  let (result, moments, machine) := drive BusWire.start.onRig { script }
  moments ++
    match result with
    | .ok _ => .log .started :: cycles count machine
    | .error error => [.log (.startFailed error)]

/-- A run ends at a stage that fails, on its last sleep, or else because the start failed. -/
def run (surroundings : Surroundings) : List Moment × Ending :=
  let stages := (Stage.upTo surroundings.failing).map Moment.stage
  match surroundings.failing with
  | some stage => (stages, .died stage)
  | none =>
    let moments := busMoments surroundings.script surroundings.sleeps
    match untilSleep surroundings.sleeps moments with
    | some moments => (stages ++ moments, .slept)
    | none => (stages ++ moments, .startFailed)

def eventText (arguments : Arguments) (moments : List Moment) : String :=
  match moments with
  | [.stage stage] => stage.text arguments
  | [.sleep wait] => sleepText wait
  | calls => " ".intercalate <| "pin" :: calls.filterMap fun
    | .pad call answer => some (call.traced answer)
    | _ => none

def eventTexts (arguments : Arguments) (moments : List Moment) : List String :=
  let events := moments.filter (·.record?.isNone)
  (events.splitBy fun a b => a.isPad && b.isPad).map (eventText arguments)

def logTexts (shows : HostRecord → Bool) (moments : List Moment) : List String :=
  ((moments.filterMap Moment.record?).filter shows).map HostRecord.line

inductive Answer where
  | exited (exit : Exit)
  | ran (ending : Ending) (events log : List String)

namespace Answer

def exitCode : Answer → Nat
  | exited exit => exit.code
  | ran ending .. => ending.exitCode

def events : Answer → List String
  | exited _ => []
  | ran _ events _ => events

def log : Answer → List String
  | exited _ => []
  | ran _ _ log => log

end Answer

/-- The program reads its command line before it does anything else. -/
def answer (parse : OptionParser) (shows : HostRecord → Bool) (arguments : List Text) (surroundings : Surroundings) :
    Answer :=
  match parse Setting.declaration arguments with
  | .error exit => .exited exit
  | .ok arguments =>
    let (moments, ending) := run surroundings
    .ran ending (eventTexts arguments moments) (logTexts shows moments)

end Thermowire.Host
