import Thermowire.Proofs.Host.Sleeps
import Thermowire.Proofs.Wiring

/-! The sleep of a conversion. What the master does on its pin is too short to sleep through, so that the sleeps of a
session are those that the sensor itself asks for: one for its conversion, if the command was sent. -/
namespace Thermowire

section Event
variable {I : Interface}

def Event.sleep? : Event I.surrounded → Option Wait
  | ⟨.ambient (.wait wait), _⟩ =>
    match Host.Pause.ofWait wait with
    | .sleep wait => some wait
    | .spin _ => none
  | _ => none

def slept (history : List (Event I.surrounded)) : List Wait := history.filterMap Event.sleep?

theorem slept_append (first second : List (Event I.surrounded)) :
    slept (first ++ second) = slept first ++ slept second := List.filterMap_append

theorem slept_calls (history : List (Event I.surrounded)) : slept (calls history) = slept history := by
  rw [slept, calls, List.filterMap_filter]
  congr 1
  funext event
  obtain ⟨_ | (_ | _ | _ | record), answer⟩ := event <;> rfl

theorem Follows.slept {E μ : Type} [BusLike I E] {plan : List (Surrounded I.Call × μ)}
    {events : List (Event I.surrounded)} {stop : Option (BusError E × μ)} (follows : Follows plan events stop)
    (own : ∀ entry ∈ plan, ∃ call, entry.1 = .own call) : slept events = [] := by
  apply List.filterMap_eq_nil_iff.mpr
  intro event member
  obtain ⟨mark, planned⟩ := follows.mem_plan member
  obtain ⟨call, same⟩ := own _ planned
  obtain ⟨request, answer⟩ := event
  cases same
  rfl

end Event

section Pin
variable {E α β σ : Type}

theorem Host.Pause.ofWait_slot (slot : Slot) : ofWait slot.wait = .spin (slot.micros * 1000) := by
  cases slot <;> decide

/-- No phase of a slot or of a reset is long enough to be slept through. -/
theorem BitCall.CourseOnPin.awake {before after : Direction} {history : PinHistory E} {call : BitCall}
    {answer : call.Answer Presence (MasterError E)} (course : call.CourseOnPin before history after answer) :
    ∀ event ∈ history, event.sleep? = none := by
  cases course with
  | reset course => cases course <;> simp [Event.sleep?, Host.Pause.ofWait_slot]
  | write course => cases course <;> simp [Event.sleep?, Host.Pause.ofWait_slot]
  | read course => cases course <;> simp [Event.sleep?, Host.Pause.ofWait_slot]

theorem slept_stitched {before after : Direction} {history : PinHistory E}
    {events : List (Event (BitInterface Presence (MasterError E)).surrounded)}
    (stitched : Program.Stitched OnPin before events history after) : slept history = slept events := by
  induction stitched with
  | nil memory => rfl
  | @cons _ _ _ event events segment rest head tail ih =>
    change slept (segment ++ rest) = slept ([event] ++ events)
    rw [slept_append, slept_append, ih]
    congr 1
    obtain ⟨call | call, answer⟩ := event
    · exact List.filterMap_eq_nil_iff.mpr (BitCall.course_onPin head).awake
    · obtain ⟨rfl, -⟩ := onPin_ambient head
      cases call <;> rfl

namespace Program

theorem onPin_bind (program : Program (BusInterface Presence (MasterError E)).surrounded α)
    (f : α → Program (BusInterface Presence (MasterError E)).surrounded β) :
    (program >>= f).onPin = program.onPin >>= fun value => (f value).onPin := by
  rw [onPin, byBits, interpret_bind]
  exact interpret_bind _ _ _

theorem slept_ask (request : (BusInterface Presence (MasterError E)).surrounded.Call)
    (world : World (PinInterface E).surrounded σ) (direction : Direction) (state : σ) :
    let run := ((ask request).onPin.run direction).run world state
    slept run.history = slept (I := BusInterface Presence (MasterError E)) [⟨request, run.value.1⟩] := by
  intro run
  obtain ⟨events, made, stitched⟩ := course_interpret_state (course_run ((ask request).onPin.run direction) world state)
  rw [slept_stitched stitched]
  obtain ⟨segment, answer, _, expands, ⟨rfl, same⟩, rfl⟩ := course_bind.mp made
  rw [List.append_nil]
  rcases request with call | call
  · exact (BusCall.follows_byBits () expands).1.slept (by simp)
  · obtain rfl := expands_ambient expands
    cases call <;> rfl

end Program

/-- The bus with byte transfers that a master makes of its pin; the master's direction is part of the state. -/
def World.bus (world : World (PinInterface E).surrounded σ) :
    World (BusInterface Presence (MasterError E)).surrounded (Direction × σ) :=
  world.behind fun request => (Program.ask request).onPin

theorem Program.run_onPin (program : Program (BusInterface Presence (MasterError E)).surrounded α)
    (world : World (PinInterface E).surrounded σ) (direction : Direction) (state : σ) :
    let inner := (program.onPin.run direction).run world state
    let outer := program.run world.bus (direction, state)
    inner.value = (outer.value, outer.state.1) ∧ inner.state = outer.state.2 ∧
      slept inner.history = slept outer.history := by
  induction program generalizing direction state with
  | done value => exact ⟨rfl, rfl, rfl⟩
  | call request next ih =>
    have bound : (call request next).onPin = (ask request).onPin >>= fun reply => (next reply).onPin :=
      onPin_bind (ask request) next
    have inner : ((call request next).onPin.run direction).run world state =
        (((ask request).onPin.run direction) >>= fun reply => (next reply.1).onPin.run reply.2).run world state := by
      rw [bound]
      rfl
    have asked := slept_ask request world direction state
    obtain ⟨value, left, rest⟩ := ih (((ask request).onPin.run direction).run world state).value.1
      (((ask request).onPin.run direction).run world state).value.2
      (((ask request).onPin.run direction).run world state).state
    rw [inner, run_bind]
    refine ⟨value, left, ?_⟩
    dsimp only
    rw [slept_append, asked, rest]
    exact (slept_append (I := BusInterface Presence (MasterError E)) [_] _).symm

theorem run_onRig_bus (program : StateT Phase (Program (BusInterface Presence (MasterError E)).surrounded) α)
    (rig : Rig) (world : World (PinInterface E).surrounded σ) (state : σ) :
    let inner := ((onRig program).run rig).run world state
    let outer := (program.run rig.phase).run world.bus (rig.direction, state)
    inner.value = (outer.value.1, ⟨outer.value.2, outer.state.1⟩) ∧ inner.state = outer.state.2 ∧
      slept inner.history = slept outer.history := by
  obtain ⟨value, left, same⟩ := (program.run rig.phase).run_onPin world rig.direction state
  have inner : ((onRig program).run rig).run world state =
      (((program.run rig.phase).onPin.run rig.direction) >>= fun result =>
        Program.done (result.1.1, Rig.mk result.1.2 result.2)).run world state := rfl
  rw [inner, Program.run_bind]
  refine ⟨?_, left, ?_⟩
  · exact congrArg (fun result => (result.1.1, Rig.mk result.1.2 result.2)) value
  · rw [← same]
    exact congrArg slept (List.append_nil _)

end Pin

namespace Session
variable {S E σ : Type}

def conversionCommand : Exchange S E Unit := do
  let _ ← Exchange.addressAll
  Exchange.writeByte Command.convert

theorem slept_command {history : List (Event (BusInterface S E).surrounded)} {command : UInt8}
    {given : Except (BusError E) Unit} (course : (do
      let _ ← Exchange.addressAll
      Exchange.writeByte command : Exchange S E Unit).run.Course history given) : slept history = [] :=
  ((obeys_command command).follows () course).slept (by simp)

theorem slept_readScratchpad {before after : Phase} {history : List (Event (BusInterface S E).surrounded)}
    {result : Except (SensorError E) Scratchpad}
    (leads : Leads (readScratchpad : Session S E Scratchpad) before history result after) : slept history = [] := by
  have own : ∀ entry ∈ registerPlan, ∃ call, entry.1 = .own call := by
    simp [registerPlan, commandPlan]
  rw [← slept_calls]
  rcases leads_readScratchpad leads with ⟨error, phase, follows, -, -⟩ | ⟨pad, follows, -, -, -⟩
  · exact follows.slept own
  · exact follows.slept own

theorem leads_conversionCommand {before after : Phase} {history : List (Event (BusInterface S E).surrounded)}
    {result : Except (SensorError E) Unit} (leads : Leads (convert : Session S E Unit) before history result after) :
    ∃ record sent given rest, history = ⟨.ambient (.log record), ()⟩ :: (sent ++ rest) ∧
      (conversionCommand : Exchange S E Unit).run.Course sent given ∧
      slept history = if given.isOk then [conversionTime] else [] := by
  obtain ⟨_, behind, rfl, tried⟩ := leads
  rcases leads_bind tried with ⟨error, rfl, stopped⟩ | ⟨sent, value, held, rest, sending, going, rfl⟩
  · obtain ⟨given, course, same, rfl⟩ := leads_onBus stopped
    cases given with
    | ok value => cases same
    | error error =>
      refine ⟨_, behind, _, [], by rw [List.append_nil], course, ?_⟩
      change slept behind = []
      exact slept_command course
  · obtain ⟨given, course, same, rfl⟩ := leads_onBus sending
    cases given with
    | error error => cases same
    | ok value =>
      obtain ⟨_, _, rfl, _, _, rfl, _, _, rfl, rfl, -⟩ := going
      refine ⟨_, sent, _, _, rfl, course, ?_⟩
      change slept (sent ++ _) = _
      rw [slept_append, slept_command course]
      rfl

/-- A cycle of the sensor sleeps through its conversion if the command for it was sent. -/
theorem slept_readTemperature {world : World (BusInterface S E).surrounded σ}
    (deaf : ∀ record state, (world (.ambient (.log record)) state).2 = state) (phase : Phase) (state : σ) :
    slept ((readTemperature.run.run phase).run world state).history =
      if (conversionCommand.run.run world state).value.isOk then [conversionTime] else [] := by
  have course : Leads (readTemperature : Session S E Temperature) phase _ _ _ := Program.course_run _ world state
  have carries := Program.carries_run (readTemperature.run.run phase) world state
  generalize ((readTemperature.run.run phase).run world state) = run at course carries
  -- what comes behind the conversion is transfers and records, and those are not slept through
  have whole : ∃ first later result after, run.history = first ++ later ∧
      Leads (convert : Session S E Unit) phase first result after ∧ slept later = [] := by
    rcases leads_bind course with ⟨error, -, broken⟩ | ⟨first, _, middle, later, converts, others, split⟩
    · exact ⟨run.history, [], _, _, (List.append_nil _).symm, broken, rfl⟩
    · refine ⟨first, later, _, _, split, converts, ?_⟩
      rcases leads_bind others with ⟨error, -, broken⟩ | ⟨reading, pad, _, last, reads, decodes, rfl⟩
      · exact slept_readScratchpad broken
      · rw [slept_append, slept_readScratchpad reads, ← slept_calls last, (leads_decode decodes).1]
        rfl
  obtain ⟨first, later, result, after, split, converts, silent⟩ := whole
  obtain ⟨record, sent, given, rest, rfl, command, sleeps⟩ := leads_conversionCommand converts
  rw [split, List.cons_append, List.append_assoc] at carries
  obtain ⟨-, carries⟩ := carries
  rw [deaf] at carries
  obtain ⟨middle, carried, -⟩ := carries_append.mp carries
  rw [split, slept_append, silent, List.append_nil, sleeps, Program.run_eq_of_carries command carried]

end Session
end Thermowire
