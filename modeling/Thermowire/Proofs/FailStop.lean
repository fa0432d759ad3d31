import Mathlib.Data.Nat.Find
import Thermowire.Proofs.Halt
import Thermowire.Proofs.Wiring

/-! The master stops at the first call of its pin that fails. A monitor follows it through its calls and
critical sections: behind a failure it lets the section be left that is open, and nothing else. So an operation
that is struck on a scripted pin or pad is the operation without failures, cut off where it is struck. -/
namespace Thermowire

namespace PinCall
variable {E : Type}

def fail : (call : PinCall) → E → call.Answer E
  | setOutput, error => .error error
  | setInput, error => .error error
  | drive _, error => .error error
  | sample, error => .error error

def cause : PinCall → E → MasterError E
  | setOutput, error => .configure error
  | setInput, error => .configure error
  | drive _, error => .pin error
  | sample, error => .pin error

theorem eq_fail {call : PinCall} {answer : call.Answer E} {error : E}
    (failed : PinLike.fault? (I := PinInterface E) call answer = some error) : answer = call.fail error := by
  cases call <;> cases answer <;> cases failed <;> rfl

theorem fault?_fail (call : PinCall) (error : E) :
    PinLike.fault? (I := PinInterface E) call (call.fail error) = some error := by
  cases call <;> rfl

end PinCall

section Monitor
variable {E : Type}

/-- How far the master has come: it goes on, or it has met an error; and whether a section is open. -/
inductive Watch (E : Type) where
  | going (inside : Bool)
  | broken (cause : MasterError E) (inside : Bool)

namespace Watch

def next : Watch E → Event (PinInterface E).surrounded → Option (Watch E)
  | going inside, ⟨.own call, answer⟩ =>
    match PinLike.fault? (I := PinInterface E) call answer with
    | some error => some (broken (call.cause error) inside)
    | none => some (going inside)
  | going inside, ⟨.ambient call, _⟩ => some (going (call.section?.getD inside))
  | broken cause true, ⟨.ambient .leave, _⟩ => some (broken cause false)
  | broken _ _, _ => none

def through (watch : Watch E) (history : PinHistory E) : Option (Watch E) := history.foldlM next watch

theorem through_append (watch : Watch E) (first second : PinHistory E) :
    watch.through (first ++ second) = (watch.through first).bind (·.through second) := List.foldlM_append

def ended : Option (BusError (MasterError E)) → Watch E
  | some (.other cause) => broken cause false
  | _ => going false

theorem through_reset {before after : Direction} {history : PinHistory E}
    {pulse : Except (MasterError E) (Bool × Bool)} (course : Wire.ResetCourse before history pulse after) :
    (going false).through history = some (ended (failureOf (BusWire.verdict pulse))) := by
  cases course with
  | finished high idle => cases high <;> cases idle <;> rfl
  | _ => rfl

/-- The answer of a bit call tells whether a call of the pin failed in it, and which. -/
theorem through_segment {before after : Direction} {segment : PinHistory E}
    {event : Event (BitInterface Presence (MasterError E)).surrounded} (made : OnPin before event segment after)
    (unmarked : event.section? = none) : (going false).through segment = some (ended event.failure?) := by
  obtain ⟨call | call, answer⟩ := event
  · cases BitCall.course_onPin made with
    | reset course => exact through_reset course
    | write course => cases course <;> rfl
    | read course => cases course <;> rfl
  · obtain ⟨rfl, rfl⟩ := onPin_ambient made
    change some (going (call.section?.getD false)) = _
    rw [show call.section? = none from unmarked]
    rfl

theorem through_stitched {before after : Direction} {history : PinHistory E}
    {events : List (Event (BitInterface Presence (MasterError E)).surrounded)}
    {stop : Option (BusError (MasterError E))} (stitched : Program.Stitched OnPin before events history after)
    (halts : Halts events stop) : (going false).through history = some (ended stop) := by
  induction stitched generalizing stop with
  | nil memory =>
    cases halts
    rfl
  | cons head tail ih =>
    rw [through_append]
    cases halts with
    | @stopped _ error failed =>
      rw [through_segment head (Event.section?_of_failed failed), failed]
      cases tail
      cases error <;> rfl
    | next passed unmarked others =>
      rw [through_segment head unmarked, passed]
      exact ih others

def inSection (history : PinHistory E) : Bool := latest Event.section? false history

/-- The end of the section that is open behind a history. -/
def closing (history : PinHistory E) : PinHistory E :=
  if inSection history then [⟨.ambient .leave, ()⟩] else []

theorem of_next_broken {cause : MasterError E} {inside : Bool} {event : Event (PinInterface E).surrounded}
    {watch : Watch E} (made : (broken cause inside).next event = some watch) :
    inside = true ∧ event = ⟨.ambient .leave, ()⟩ ∧ watch = broken cause false := by
  cases inside with
  | false => cases made
  | true =>
    rcases event with ⟨call | (_ | _ | _ | _), answer⟩
    case ambient.leave =>
      cases made
      exact ⟨rfl, rfl, rfl⟩
    all_goals cases made

theorem not_going_of_broken {cause : MasterError E} {inside outside : Bool} {tail : PinHistory E} :
    (broken cause inside).through tail ≠ some (going outside) := by
  induction tail generalizing inside with
  | nil => nofun
  | cons event rest ih =>
    intro through
    obtain ⟨watch, made, others⟩ := Option.bind_eq_some_iff.mp through
    obtain ⟨-, -, rfl⟩ := of_next_broken made
    exact ih others

theorem inside_of_through {outside inside : Bool} {history : PinHistory E}
    (through : (going outside).through history = some (going inside)) :
    inside = latest Event.section? outside history := by
  induction history generalizing outside with
  | nil =>
    cases through
    rfl
  | cons event rest ih =>
    obtain ⟨watch, made, others⟩ := Option.bind_eq_some_iff.mp through
    rw [latest_cons]
    obtain ⟨call | call, answer⟩ := event
    · rw [next] at made
      cases failed : PinLike.fault? (I := PinInterface E) call answer with
      | some error =>
        rw [failed] at made
        cases made
        exact absurd others not_going_of_broken
      | none =>
        rw [failed] at made
        cases made
        exact ih others
    · cases made
      exact ih others

theorem of_through_broken {cause : MasterError E} {inside : Bool} {tail : PinHistory E}
    {stop : Option (BusError (MasterError E))} (through : (broken cause inside).through tail = some (ended stop)) :
    stop = some (.other cause) ∧ tail = if inside then [⟨.ambient .leave, ()⟩] else [] := by
  have stopped : ∀ {held}, broken cause held = ended stop → stop = some (.other cause) ∧ held = false := by
    intro held same
    rcases stop with _ | (error | _ | _)
    case some.other =>
      cases same
      exact ⟨rfl, rfl⟩
    all_goals cases same
  cases tail with
  | nil =>
    obtain ⟨same, rfl⟩ := stopped (Option.some.inj through)
    exact ⟨same, rfl⟩
  | cons event rest =>
    obtain ⟨watch, made, others⟩ := Option.bind_eq_some_iff.mp through
    obtain ⟨rfl, rfl, rfl⟩ := of_next_broken made
    cases rest with
    | nil => exact ⟨(stopped (Option.some.inj others)).1, rfl⟩
    | cons event rest => cases others

theorem of_through_failed {past tail : PinHistory E} {call : PinCall} {error : E}
    {stop : Option (BusError (MasterError E))}
    (through : (going false).through (past ++ ⟨.own call, call.fail error⟩ :: tail) = some (ended stop)) :
    stop = some (.other (call.cause error)) ∧ tail = closing past := by
  rw [through_append] at through
  obtain ⟨watch, reached, through⟩ := Option.bind_eq_some_iff.mp through
  cases watch with
  | broken cause inside => cases inside <;> cases through
  | going inside =>
    obtain ⟨watch, struck, through⟩ := Option.bind_eq_some_iff.mp through
    rw [next, call.fault?_fail] at struck
    cases struck
    obtain ⟨stopped, ends⟩ := of_through_broken through
    rw [inside_of_through reached] at ends
    exact ⟨stopped, ends⟩

end Watch

def MasterStep.blame : MasterStep → MasterError E → Failure (MasterError E)
  | .session (.sensor _), cause => .sensor (.bus (.other cause))
  | _, cause => .bus (.other cause)

open Watch in
/-- Every public step ends well or with the error of a call that failed, and then it fails with that. -/
theorem MasterStep.CourseOnPin.watched {step : MasterStep} {rig after : Rig} {history : PinHistory E}
    {outcome : Outcome Presence (MasterError E)} (course : step.CourseOnPin rig history outcome after)
    (publicly : step.isPublic) :
    ∃ stop, (going false).through history = some (ended stop) ∧
      ∀ cause, stop = some (.other cause) → outcome = .error (step.blame cause) := by
  cases course with
  | @session step _ _ _ _ _ course stitched =>
    obtain ⟨stop, halts, failed⟩ := SessionStep.halts_byBits course
    refine ⟨stop, through_stitched stitched halts, fun cause stopped => ?_⟩
    rw [failed _ stopped]
    cases step <;> rfl
  | @unsettled _ error _ settles =>
    refine ⟨some (.other error), ?_, fun cause stopped => ?_⟩
    · cases settles <;> rfl
    · cases stopped
      rfl
  | @started _ _ pulse _ _ settles resets =>
    refine ⟨failureOf (BusWire.verdict pulse), ?_, fun cause stopped => ?_⟩
    · cases settles
      rw [through_append]
      exact through_reset resets
    · cases judged : BusWire.verdict pulse with
      | error error =>
        rw [judged] at stopped
        cases stopped
        rfl
      | ok status =>
        rw [judged] at stopped
        cases stopped
  | release => exact ⟨none, rfl, nofun⟩
  | output => cases publicly
  | input => cases publicly
  | drive => cases publicly
  | sample => cases publicly

end Monitor

namespace Script
variable {script : Script}

def sound (script : Script) : Script := { script with faults := [] }

theorem fault?_pin (call : PinCall) (script : Script) :
    PinLike.fault? (I := PinInterface PinFault) call (pin (.own call) script).1 = script.fault? := by
  have attempted {α : Type} (succeed : Script → α × Script) :
      failureOf (script.attempt succeed).1 = script.fault? := by
    unfold attempt
    cases script.fault? <;> rfl
  cases call <;> exact attempted _

namespace Wiring
variable {wiring : Wiring}

theorem fault?_first (wiring : Wiring) (call : PinCall) (script : Script) :
    PinLike.fault? (I := PinInterface PinFault) call (wiring.pin (.own call) script).1 =
      wiring.fault? script [] call := by
  by_cases scripted : wiring.counts call
  · rw [pin_of_counts scripted, fault?, if_pos scripted]
    exact fault?_pin call script
  · rw [fault?, if_neg scripted]
    cases wiring with
    | direct => exact absurd rfl scripted
    | openDrain =>
      cases call with
      | setOutput => rfl
      | _ => exact absurd rfl scripted

theorem pin_of_fault {call : PinCall} {fault : PinFault} {script : Script} {levels : List Bool} {count : Nat}
    (scripted : wiring.counts call) (stored : script.faultAfter count = some fault) :
    (wiring.pin (.own call) { script with calls := script.calls + count, levels := levels }).1 =
      call.fail fault := by
  apply PinCall.eq_fail
  rw [pin_of_counts scripted, fault?_pin]
  exact stored

theorem strikes_of_carries {history : PinHistory PinFault} {last : Script}
    (carries : Carries wiring.pin script history last) : wiring.Strikes script history := by
  induction history generalizing script with
  | nil => exact fun past call answer later split => absurd split (by simp)
  | cons event rest ih =>
    obtain ⟨given, carries⟩ := carries
    intro past call answer later split
    cases past with
    | nil =>
      cases split
      rw [show answer = (wiring.pin (.own call) script).1 from given]
      exact wiring.fault?_first call script
    | cons head past =>
      obtain ⟨rfl, rfl⟩ := List.cons.inj split
      have behind := ih carries past call answer later rfl
      obtain ⟨made | made, reply⟩ := event
      · obtain ⟨-, next⟩ := pin_rewired wiring wiring id rfl (wiring.fault?_first made script)
        rwa [next, fault?_cons] at behind
      · rwa [pin_ambient, fault?, ← counted_ambient] at behind

theorem exists_counted {history : PinHistory PinFault} {number : Nat} (less : number < wiring.counted history) :
    ∃ past call answer later, history = past ++ ⟨.own call, answer⟩ :: later ∧ wiring.counts call ∧
      wiring.counted past = number := by
  induction history generalizing number with
  | nil =>
    rw [counted_nil] at less
    cases less
  | cons event rest ih =>
    have shifts (past : PinHistory PinFault) :
        wiring.counted (event :: past) = wiring.counted [event] + wiring.counted past :=
      wiring.counted_append [event] past
    rw [shifts] at less
    by_cases passed : wiring.counted [event] ≤ number
    · have behind : number - wiring.counted [event] < wiring.counted rest := by omega
      obtain ⟨past, call, answer, later, rfl, scripted, reached⟩ := ih behind
      refine ⟨event :: past, call, answer, later, rfl, scripted, ?_⟩
      rw [shifts, reached]
      omega
    · obtain ⟨call | call, answer⟩ := event
      · rw [counted_own, counted_nil] at passed
        split at passed
        case isTrue scripted =>
          refine ⟨[], call, answer, rest, rfl, scripted, ?_⟩
          rw [counted_nil]
          omega
        case isFalse => omega
      · rw [counted_ambient, counted_nil] at passed
        omega

/-- The call of a history that a script strikes first. -/
theorem exists_struck {history : PinHistory PinFault}
    (hit : ∃ count < wiring.counted history, (script.faultAfter count).isSome) :
    ∃ past call answer later fault, history = past ++ ⟨.own call, answer⟩ :: later ∧ wiring.counts call ∧
      (∀ count < wiring.counted past, script.faultAfter count = none) ∧
      script.faultAfter (wiring.counted past) = some fault := by
  obtain ⟨less, stored⟩ := Nat.find_spec hit
  obtain ⟨past, call, answer, later, split, scripted, reached⟩ := exists_counted less
  obtain ⟨fault, stored⟩ := Option.isSome_iff_exists.mp stored
  rw [← reached] at stored
  refine ⟨past, call, answer, later, fault, split, scripted, fun count before => ?_, stored⟩
  rw [reached] at before
  have missed := Nat.find_min hit before
  exact Option.not_isSome_iff_eq_none.mp fun struck => missed ⟨Nat.lt_trans before less, struck⟩

theorem carries_unstruck {past later : PinHistory PinFault} {last : Script}
    (carries : Carries wiring.pin script.sound (past ++ later) last)
    (unstruck : ∀ count < wiring.counted past, script.faultAfter count = none) :
    ∃ levels, Carries wiring.pin script past
      { script with calls := script.calls + wiring.counted past, levels := levels } := by
  obtain ⟨middle, carried, -⟩ := carries_append.mp carries
  refine ⟨middle.levels, carries_rewired wiring wiring (fun _ => id) carried rfl ?_⟩
  intro earlier call answer rest split
  rw [strikes_of_carries carried earlier call answer rest split, fault?, fault?]
  by_cases scripted : wiring.counts call
  · rw [if_pos scripted, if_pos scripted, unstruck]
    · rfl
    · rw [split, counted_append, counted_own, if_pos scripted]
      omega
  · rw [if_neg scripted, if_neg scripted]

end Wiring
end Script

/-- A step as it goes on a script, against the same step on the same levels without failures: it makes the same
calls, waits, marks and records until the first call that the script strikes, leaves the section that is open and
fails for that call. -/
structure MasterStep.BreaksOff (wiring : Script.Wiring) (step : MasterStep) (rig : Rig) (script : Script)
    (past : PinHistory PinFault) (call : PinCall) (answer : call.Answer PinFault) (later : PinHistory PinFault)
    (fault : PinFault) : Prop where
  scripted : wiring.counts call
  unstruck : ∀ count < wiring.counted past, script.faultAfter count = none
  struck : script.faultAfter (wiring.counted past) = some fault
  whole : (wiring.run (step.program.run rig) script.sound).history =
    (past ++ ⟨.own call, answer⟩ :: later).filterMap wiring.record
  broken : (wiring.run (step.program.run rig) script).history =
    (past ++ ⟨.own call, call.fail fault⟩ :: Watch.closing past).filterMap wiring.record
  blamed : (wiring.run (step.program.run rig) script).value.1 = .error (step.blame (call.cause fault))

theorem MasterStep.unbroken (wiring : Script.Wiring) (step : MasterStep) (rig : Rig) (script : Script)
    (missed : ∀ count < ownCalls (wiring.run (step.program.run rig) script.sound).history,
      script.faultAfter count = none) :
    (wiring.run (step.program.run rig) script).history =
        (wiring.run (step.program.run rig) script.sound).history ∧
      (wiring.run (step.program.run rig) script).value =
        (wiring.run (step.program.run rig) script.sound).value := by
  have course := Program.course_run (step.program.run rig) wiring.pin script.sound
  have carries := Program.carries_run (step.program.run rig) wiring.pin script.sound
  rw [wiring.run_eq] at missed
  rw [← List.append_nil (Run.history _)] at carries
  obtain ⟨levels, carried⟩ := Script.Wiring.carries_unstruck carries missed
  rw [wiring.run_eq, wiring.run_eq, Program.run_eq_of_carries course carried]
  exact ⟨rfl, rfl⟩

/-- Whenever a script has a failure in store for a call that the step would make on its levels, the step breaks
off at the first such call. -/
theorem MasterStep.breaks_off (wiring : Script.Wiring) {step : MasterStep} (publicly : step.isPublic) (rig : Rig)
    (script : Script)
    (hit : ∃ count < ownCalls (wiring.run (step.program.run rig) script.sound).history,
      (script.faultAfter count).isSome) :
    ∃ past call answer later fault, step.BreaksOff wiring rig script past call answer later fault := by
  have course := Program.course_run (step.program.run rig) wiring.pin script.sound
  have carries := Program.carries_run (step.program.run rig) wiring.pin script.sound
  rw [wiring.run_eq] at hit
  obtain ⟨past, call, answer, later, fault, split, scripted, unstruck, struck⟩ := Script.Wiring.exists_struck hit
  rw [split] at course carries
  -- up to the call that is struck both runs are one; behind it the watch leaves no choice
  obtain ⟨levels, carried⟩ := Script.Wiring.carries_unstruck carries unstruck
  obtain ⟨tail, broken⟩ := Program.run_follows course carried
  rw [Script.Wiring.pin_of_fault scripted struck] at broken
  obtain ⟨stop, through, failed⟩ :=
    (course_onPin (Program.course_run (step.program.run rig) wiring.pin script)).watched publicly
  rw [broken] at through
  obtain ⟨stopped, rfl⟩ := Watch.of_through_failed through
  refine ⟨past, call, answer, later, fault, scripted, unstruck, struck, ?_, ?_, ?_⟩
  · rw [wiring.run_eq, ← split]
  · rw [wiring.run_eq, ← broken]
  · rw [wiring.run_eq]
    exact failed _ stopped

/-- A pad that cannot be set high in the first slot behind the reset of a sensor step. -/
theorem MasterStep.breaks_off_in_first_slot :
    let step : MasterStep := .session (.sensor .convert)
    let script : Script := ⟨[false, true], [(5, 9), (7, 3)], 0⟩
    step.isPublic ∧
      (∃ count < ownCalls (Script.Wiring.openDrain.run (step.program.run {}) script.sound).history,
        (script.faultAfter count).isSome) ∧
      (∃ past call answer later fault, step.BreaksOff .openDrain {} script past call answer later fault) ∧
      (Script.Wiring.openDrain.run (step.program.run {}) script).value.1 =
        .error (.sensor (.bus (.other (.pin ⟨9⟩)))) := by
  intro step script
  have hit : ∃ count < ownCalls (Script.Wiring.openDrain.run (step.program.run {}) script.sound).history,
      (script.faultAfter count).isSome := ⟨5, by decide +kernel, by decide⟩
  exact ⟨rfl, hit, breaks_off .openDrain rfl {} script hit, by decide +kernel⟩

end Thermowire
