import Thermowire.Host.CommandLine
import Thermowire.Host.LogFilter

/-!
The host program on a recording: the pad reads the levels that standard input gives as a string of
zeros and ones, and the run ends with the sleep behind its first cycle.
-/
namespace Thermowire.Host

def firstCycle : Nat := 3

def recordedLevels (text : String) : List Bool :=
  text.toList.filterMap fun
    | '0' => some false
    | '1' => some true
    | _ => none

def Answer.print (answer : Answer) : IO UInt32 := do
  answer.log.forM IO.eprintln
  answer.events.forM IO.println
  match answer with
  | .exited exit =>
    IO.print (String.ofList exit.output)
    unless exit.errors.isEmpty do IO.eprintln (String.ofList exit.errors)
  | .ran (.died stage) .. => IO.eprintln stage.failure
  | .ran .. => pure ()
  return .ofNat answer.exitCode

/-- The filter that the environment names. What is passed over of its text is said first. -/
def environmentFilter : IO LogFilter := do
  let text ← IO.getEnv "RUST_LOG"
  let filter : LogFilter := (text.map fun text => .ofText text.toList).getD {}
  filter.faults.forM fun fault => IO.eprintln (String.ofList fault.warning)
  return filter

end Thermowire.Host

open Thermowire Thermowire.Host

def main (arguments : List String) : IO UInt32 := do
  let filter ← environmentFilter
  let text ← (← IO.getStdin).getLine
  let script : Script := { levels := recordedLevels text, faults := [] }
  (answer parseOptions filter.shows (arguments.map String.toList) { script, sleeps := firstCycle }).print
