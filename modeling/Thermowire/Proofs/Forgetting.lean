import Mathlib.Data.List.Forall2
import Thermowire.Proofs.FailStop
import Thermowire.Proofs.Gate

/-! Steps that do not remember. Whatever a step on the bus does with the pin, it makes it an output first, and a
session with the sensor names the phase before it only to log it. So what a step gives and what it does with the
pin is the same on a master and a sensor that were used before as on new ones. -/
namespace Thermowire

section Forgetful
variable {E ε α β : Type}

/-- Whether all that was done with the pin is that it could not be made an output. -/
def Unset (history : PinHistory E) : Prop :=
  ∃ error, history.filter Event.isOwn = [⟨.own .setOutput, .error error⟩]

/-- An action that goes the same way from every direction, and leaves the same one unless it failed to begin. -/
structure PinAction.Forgetful (action : PinAction E ε α) : Prop where
  again : ∀ {before history result after}, Leads action before history result after → ∀ other,
    ∃ later, Leads action other history result later ∧
      (later = after ∨ Unset history ∧ ∃ error, result = .error error)

theorem Wire.leads_critical {body : Wire E α} {before after : Direction} {history : PinHistory E}
    {result : Except (MasterError E) α} :
    Leads (critical body) before history result after ↔
      ∃ inner, Leads body before inner result after ∧
        history = ⟨.ambient .enter, ()⟩ :: (inner ++ [⟨.ambient .leave, ()⟩]) := by
  constructor
  · rintro ⟨_, _, rfl, course⟩
    have course : (body.run.run before >>= fun result =>
        Program.call (I := (PinInterface E).surrounded) (.ambient .leave) fun _ => .done result).Course _ _ := course
    obtain ⟨inner, given, _, within, ⟨_, _, rfl, rfl, same⟩, rfl⟩ := Program.course_bind.mp course
    cases same
    exact ⟨inner, within, rfl⟩
  · rintro ⟨inner, within, rfl⟩
    have course : (body.run.run before >>= fun result =>
        Program.call (I := (PinInterface E).surrounded) (.ambient .leave) fun _ => .done result).Course
          (inner ++ [⟨.ambient .leave, ()⟩]) (result, after) :=
      Program.course_bind.mpr ⟨inner, _, _, within, ⟨_, _, rfl, rfl, rfl⟩, rfl⟩
    exact ⟨_, _, rfl, course⟩

namespace PinAction.Forgetful

theorem output : (Wire.output : Wire E Unit).Forgetful := by
  constructor
  intro before history result after leads other
  rcases Wire.leads_output leads with ⟨error, rfl, rfl, rfl⟩ | ⟨rfl, rfl, rfl⟩
  · exact ⟨other, ⟨_, _, rfl, rfl, rfl⟩, .inr ⟨⟨error, rfl⟩, _, rfl⟩⟩
  · exact ⟨.output, ⟨_, _, rfl, rfl, rfl⟩, .inl rfl⟩

theorem bind {action : PinAction E ε α} (first : PinAction.Forgetful action) (f : α → PinAction E ε β) :
    PinAction.Forgetful (action >>= f) := by
  constructor
  intro before history result after leads other
  rcases leads_bind leads with ⟨error, rfl, broken⟩ | ⟨begun, value, middle, rest, begins, goes, rfl⟩
  · obtain ⟨later, again, same⟩ := first.again broken other
    refine ⟨later, leads_bind_of_error again, ?_⟩
    exact same.imp id fun ⟨unset, _⟩ => ⟨unset, error, rfl⟩
  · obtain ⟨later, again, same⟩ := first.again begins other
    rcases same with rfl | ⟨-, error, failed⟩
    · exact ⟨after, leads_bind_of_ok again goes, .inl rfl⟩
    · cases failed

theorem map {action : PinAction E ε α} (forgetful : action.Forgetful) (f : α → β) : (f <$> action).Forgetful := by
  rw [← bind_pure_comp]
  exact forgetful.bind _

theorem critical {body : Wire E α} (forgetful : body.Forgetful) : (Wire.critical body).Forgetful := by
  constructor
  intro before history result after leads other
  obtain ⟨inner, within, rfl⟩ := Wire.leads_critical.mp leads
  obtain ⟨later, again, same⟩ := forgetful.again within other
  refine ⟨later, Wire.leads_critical.mpr ⟨inner, again, rfl⟩, ?_⟩
  refine same.imp id fun ⟨⟨error, unset⟩, failed⟩ => ⟨⟨error, ?_⟩, failed⟩
  change List.filter Event.isOwn (inner ++ [_]) = _
  rw [List.filter_append, unset]
  rfl

theorem onWire {wire : Wire E α} (forgetful : PinAction.Forgetful wire) :
    PinAction.Forgetful (BusWire.onWire wire) := by
  constructor
  intro before history result after leads other
  obtain ⟨given, own, rfl⟩ := BusWire.leads_onWire leads
  obtain ⟨later, again, same⟩ := forgetful.again own other
  refine ⟨later, Program.course_bind_done again, ?_⟩
  refine same.imp id fun ⟨unset, error, failed⟩ => ⟨unset, .other error, ?_⟩
  rw [failed]
  rfl

theorem reset : PinAction.Forgetful (BusWire.reset : BusWire E Presence) := (onWire (output.bind _)).bind _

theorem start : PinAction.Forgetful (BusWire.start : BusWire E Presence) := (onWire (output.bind _)).bind _

theorem writeBit (bit : Bool) : PinAction.Forgetful (Wire.writeBit bit : Wire E Unit) := critical (output.bind _)

theorem readBit : PinAction.Forgetful (Wire.readBit : Wire E Bool) := (critical (output.bind _)).bind _

end PinAction.Forgetful

theorem BitCall.again {call : BitCall} {before after : Direction} {segment : PinHistory E}
    {answer : call.Answer Presence (MasterError E)}
    (course : (call.onPin.run before).Course segment (answer, after)) (other : Direction) :
    ∃ later, (call.onPin.run other).Course segment (answer, later) ∧
      (later = after ∨ Unset segment ∧
        ∃ error, Event.failure? (I := BitInterface Presence (MasterError E)) ⟨.own call, answer⟩ = some error) := by
  have failing {α : Type} {result : Except (BusError (MasterError E)) α} :
      (∃ error, result = .error error) → ∃ error, failureOf result = some error :=
    fun ⟨error, failed⟩ => ⟨error, congrArg failureOf failed⟩
  cases call with
  | reset =>
    obtain ⟨later, again, same⟩ := PinAction.Forgetful.reset.again course other
    exact ⟨later, again, same.imp id fun unset => ⟨unset.1, failing unset.2⟩⟩
  | write bit =>
    obtain ⟨later, again, same⟩ := (PinAction.Forgetful.writeBit bit).onWire.again course other
    exact ⟨later, again, same.imp id fun unset => ⟨unset.1, failing unset.2⟩⟩
  | read =>
    obtain ⟨later, again, same⟩ := PinAction.Forgetful.readBit.onWire.again course other
    exact ⟨later, again, same.imp id fun unset => ⟨unset.1, failing unset.2⟩⟩

theorem Program.again {call : BitCall}
    {next : call.Answer Presence (MasterError E) → Program (BitInterface Presence (MasterError E)).surrounded α}
    {program : Program (BitInterface Presence (MasterError E)).surrounded α} (begins : program = .call (.own call) next)
    (halting : ∀ {events value}, program.Course events value → ∃ stop, Halts events stop)
    {before after : Direction} {history : PinHistory E} {value : α}
    (course : ((interpret (answering BitCall.onPin fun call => StateT.lift (ambient call)) program).run
      before).Course history (value, after)) (other : Direction) :
    ∃ later, ((interpret (answering BitCall.onPin fun call => StateT.lift (ambient call)) program).run
      other).Course history (value, later) ∧ (later = after ∨ Unset history) := by
  subst begins
  obtain ⟨segment, ⟨answer, middle⟩, rest, first, others, rfl⟩ := course_bind.mp course
  obtain ⟨later, again, same⟩ := BitCall.again first other
  rcases same with rfl | ⟨unset, error, failed⟩
  · exact ⟨after, course_bind.mpr ⟨segment, _, rest, again, others, rfl⟩, .inl rfl⟩
  · -- the directions differ, but a call that failed is the last, so nothing looks at them any more
    obtain ⟨events, made, stitched⟩ := course_interpret_state others
    obtain ⟨stop, halts⟩ := halting ⟨answer, events, rfl, made⟩
    obtain ⟨rfl, -⟩ := halts.eq_nil_of_failed failed
    cases stitched
    have ended : next answer = .done value := by
      cases rest : next answer with
      | done given =>
        rw [rest] at made
        rw [made.2]
      | call request next =>
        rw [rest] at made
        obtain ⟨_, _, split, -⟩ := made
        cases split
    have behind : ((interpret (answering BitCall.onPin fun call => StateT.lift (ambient call)) (next answer)).run
        later).Course [] (value, later) := by
      rw [ended]
      exact ⟨rfl, rfl⟩
    rw [List.append_nil]
    exact ⟨later, course_bind.mpr ⟨segment, _, [], again, behind, (List.append_nil _).symm⟩, .inr unset⟩

end Forgetful

section Session
variable {S E : Type}

theorem BusStep.begins (step : BusStep) :
    ∃ (call : BitCall) (next : call.Answer S E → Program (BitInterface S E).surrounded (Outcome S E)),
      (Except.mapError .bus <$> step.exchange.run : Program _ (Outcome S E)).byBits = .call (.own call) next := by
  cases step <;> exact ⟨_, _, rfl⟩

theorem BusStep.byBits_eq (step : BusStep) (phase : Phase) :
    ((SessionStep.bus step).program.run phase : Program _ (Outcome S E × Phase)).byBits =
      (Except.mapError .bus <$> step.exchange.run : Program _ (Outcome S E)).byBits >>=
        fun outcome => .done (outcome, phase) := Program.interpret_bind _ _ _

theorem BusStep.halting (step : BusStep) {events : List (Event (BitInterface S E).surrounded)} {outcome : Outcome S E}
    (course : (Except.mapError .bus <$> step.exchange.run : Program _ (Outcome S E)).byBits.Course events outcome) :
    ∃ stop, Halts events stop := by
  have whole : ((SessionStep.bus step).program.run .idle).byBits.Course events (outcome, .idle) := by
    rw [byBits_eq]
    exact Program.course_bind_done course
  obtain ⟨stop, halts, -⟩ := SessionStep.halts_byBits whole
  exact ⟨stop, halts⟩

theorem SensorStep.begins (step : SensorStep) :
    ∃ next : BitCall.reset.Answer S E → Program (BitInterface S E).surrounded (Outcome S E × Phase), ∀ phase,
      ((SessionStep.sensor step).program.run phase).byBits =
        .call (I := (BitInterface S E).surrounded) (.ambient (.log (.phase phase step.opening))) fun _ =>
          .call (I := (BitInterface S E).surrounded) (.own .reset) next := by
  cases step <;> exact ⟨_, fun _ => rfl⟩

theorem SensorStep.halting {step : SensorStep} {phase : Phase}
    {rest : Program (BitInterface S E).surrounded (Outcome S E × Phase)}
    (begins : ((SessionStep.sensor step).program.run phase).byBits =
      .call (I := (BitInterface S E).surrounded) (.ambient (.log (.phase phase step.opening))) fun _ => rest)
    {events : List (Event (BitInterface S E).surrounded)} {value : Outcome S E × Phase}
    (course : rest.Course events value) : ∃ stop, Halts events stop := by
  have whole : ((SessionStep.sensor step).program.run phase).byBits.Course
      (⟨.ambient (.log (.phase phase step.opening)), ()⟩ :: events) value := by
    rw [begins]
    exact ⟨(), events, rfl, course⟩
  obtain ⟨stop, halts, -⟩ := SessionStep.halts_byBits whole
  cases halts with
  | stopped failed => cases failed
  | next _ _ rest => exact ⟨stop, rest⟩

end Session

section Step
variable {E : Type}

/-- The record of a step with the sensor that names the phase before it. -/
def SessionStep.heading : SessionStep → Phase → PinHistory E
  | sensor step, phase => [⟨.ambient (.log (.phase phase step.opening)), ()⟩]
  | _, _ => []

def SessionStep.isOperation : SessionStep → Bool
  | newSensor => false
  | _ => true

theorem SessionStep.again {step : SessionStep} (operation : step.isOperation) {before after : Phase}
    {direction last : Direction} {history : PinHistory E} {outcome : Outcome Presence (MasterError E)}
    (course : ((step.program.run before).onPin.run direction).Course history ((outcome, after), last))
    (phase : Phase) (other : Direction) :
    ∃ rest left later, history = step.heading before ++ rest ∧
      ((step.program.run phase).onPin.run other).Course (step.heading phase ++ rest) ((outcome, left), later) ∧
      (∀ sensor, step = .sensor sensor → left = after) ∧ (later = last ∨ Unset history) := by
  cases step with
  | bus step =>
    obtain ⟨call, next, begins⟩ := step.begins (S := Presence) (E := MasterError E)
    rw [Program.onPin, step.byBits_eq, Program.interpret_bind] at course
    obtain ⟨_, ⟨given, middle⟩, _, one, ⟨rfl, same⟩, rfl⟩ := Program.course_bind.mp course
    cases same
    obtain ⟨later, again, same⟩ := Program.again begins step.halting one other
    rw [List.append_nil]
    refine ⟨_, phase, later, rfl, ?_, nofun, same⟩
    rw [Program.onPin, step.byBits_eq, Program.interpret_bind]
    exact Program.course_bind_done again
  | sensor step =>
    obtain ⟨next, begins⟩ := step.begins (S := Presence) (E := MasterError E)
    rw [Program.onPin, begins] at course
    obtain ⟨_, ⟨_, middle⟩, rest, logs, others, rfl⟩ := Program.course_bind.mp course
    obtain ⟨rfl, rfl⟩ := onPin_ambient logs
    obtain ⟨later, again, same⟩ := Program.again rfl (SensorStep.halting (begins before)) others other
    refine ⟨rest, after, later, rfl, ?_, fun _ _ => rfl, same⟩
    rw [Program.onPin, begins]
    exact Program.course_bind.mpr ⟨_, _, rest, ⟨_, _, rfl, rfl, rfl⟩, again, rfl⟩
  | newSensor => cases operation

namespace MasterStep

def heading : MasterStep → Phase → PinHistory E
  | session step, phase => step.heading phase
  | _, _ => []

def isOperation : MasterStep → Bool
  | session step => step.isOperation
  | start => true
  | _ => false

theorem onRig_course {ε α : Type} {action : PinAction E ε α} {f : Except ε α → Outcome Presence (MasterError E)}
    {rig : Rig} {history : PinHistory E} {result : Except ε α} {direction : Direction}
    (leads : Leads action rig.direction history result direction) :
    ((f <$> action.onRig).run rig).Course history (f result, { rig with direction }) := by
  have onRig : (action.onRig.run rig).Course history (result, { rig with direction }) :=
    Program.course_bind_done leads
  exact Program.course_bind_done onRig

theorem again {step : MasterStep} (operation : step.isOperation) {rig after : Rig} {history : PinHistory E}
    {outcome : Outcome Presence (MasterError E)} (course : (step.program.run rig).Course history (outcome, after))
    (other : Rig) :
    ∃ rest later, history = step.heading rig.phase ++ rest ∧
      (step.program.run other).Course (step.heading other.phase ++ rest) (outcome, later) ∧
      (∀ sensor, step = .session (.sensor sensor) → later.phase = after.phase) ∧
      (later.direction = after.direction ∨ Unset history) := by
  cases step with
  | session step =>
    obtain ⟨_, ⟨⟨given, phase⟩, direction⟩, _, one, ⟨rfl, same⟩, rfl⟩ := Program.course_bind.mp course
    cases same
    obtain ⟨rest, left, later, split, again, phases, directions⟩ :=
      SessionStep.again operation one other.phase other.direction
    rw [List.append_nil]
    refine ⟨rest, ⟨left, later⟩, split, ?_, ?_, directions⟩
    · exact Program.course_bind_done again
    · rintro sensor ⟨⟩
      exact phases sensor rfl
  | start =>
    obtain ⟨result, direction, leads, rfl, rfl⟩ := course_onRig course
    obtain ⟨later, again, same⟩ := (PinAction.Forgetful.start.map _).again leads other.direction
    exact ⟨history, { other with direction := later }, rfl, onRig_course again, nofun, same.imp id And.left⟩
  | _ => cases operation

end MasterStep
end Step

section Run
variable {E σ : Type}

/-- A world that takes no notice of log records. -/
def World.Deaf {I : Interface} (world : World I.surrounded σ) : Prop :=
  ∀ record state, (world (.ambient (.log record)) state).2 = state

def Passage.isOperation (passage : Passage E σ) : Bool := passage.step.isOperation

/-- Two passages of one operation that cannot be told apart but by the phase that was left before, which the first
record of a step with the sensor names, and by the direction that stays when the pin cannot be made an output. -/
structure Passage.Alike (one two : Passage E σ) : Prop where
  step : two.step = one.step
  before : two.before.2 = one.before.2
  after : two.after.2 = one.after.2
  outcome : two.outcome = one.outcome
  history : ∃ rest, one.history = one.step.heading one.before.1.phase ++ rest ∧
    two.history = one.step.heading two.before.1.phase ++ rest
  phase : ∀ sensor, one.step = .session (.sensor sensor) → two.after.1.phase = one.after.1.phase
  direction : two.after.1.direction = one.after.1.direction ∨
    ∃ error, one.history.filter Event.isOwn = [⟨.own .setOutput, .error error⟩] ∧
      one.outcome = .error (one.step.blame (.configure error))

variable {world : World (PinInterface E).surrounded σ}

theorem World.Deaf.carries_heading (deaf : world.Deaf) (step : MasterStep) (phase : Phase) {state last : σ}
    {rest : PinHistory E} : Carries world state (step.heading phase ++ rest) last ↔ Carries world state rest last := by
  have quiet : ∀ record, Carries world state (⟨.ambient (.log record), ()⟩ :: rest) last ↔
      Carries world state rest last := by
    intro record
    rw [Carries, deaf record state]
    exact and_iff_right rfl
  cases step with
  | session step =>
    cases step with
    | sensor step => exact quiet _
    | _ => rfl
  | _ => rfl

theorem MasterStep.isPublic_of_isOperation {step : MasterStep} (operation : step.isOperation) : step.isPublic := by
  cases step <;> first | rfl | cases operation

theorem MasterStep.CourseOnPin.blamed {step : MasterStep} {rig after : Rig} {history : PinHistory E}
    {outcome : Outcome Presence (MasterError E)} (course : step.CourseOnPin rig history outcome after)
    (publicly : step.isPublic) {error : E} (only : history.filter Event.isOwn = [⟨.own .setOutput, .error error⟩]) :
    outcome = .error (step.blame (.configure error)) := by
  obtain ⟨past, tail, rfl, -, -, -⟩ := List.filter_eq_cons_iff.mp only
  obtain ⟨stop, through, failed⟩ := course.watched publicly
  have struck : (Watch.going false).through (past ++ ⟨.own .setOutput, PinCall.setOutput.fail error⟩ :: tail) =
      some (Watch.ended stop) := through
  exact failed _ (Watch.of_through_failed struck).1

theorem MasterStep.pass_alike (deaf : world.Deaf) {step : MasterStep} (operation : step.isOperation)
    (rig other : Rig) (state : σ) :
    (step.pass world (rig, state)).1.Alike (step.pass world (other, state)).1 := by
  have course := Program.course_run (step.program.run rig) world state
  have carries := Program.carries_run (step.program.run rig) world state
  obtain ⟨rest, later, split, again, phases, directions⟩ := again operation course other
  rw [split] at carries
  have carried := (deaf.carries_heading step other.phase).mpr ((deaf.carries_heading step rig.phase).mp carries)
  have same := Program.run_eq_of_carries again carried
  have passed : (step.pass world (other, state)).1 = _ :=
    congrArg (fun run : Run _ σ (_ × Rig) =>
      (⟨step, (other, state), (run.value.2, run.state), run.value.1, run.history⟩ : Passage E σ)) same
  rw [passed]
  refine ⟨rfl, rfl, rfl, rfl, ⟨rest, split, rfl⟩, phases, directions.imp id ?_⟩
  rintro ⟨error, only⟩
  exact ⟨error, only, (course_onPin course).blamed (isPublic_of_isOperation operation) only⟩

theorem MasterStep.state_pass (world : World (PinInterface E).surrounded σ) {step : MasterStep}
    (publicly : step.isPublic) (idle : ¬ step.isOperation) (state : Rig × σ) : (step.pass world state).2.2 = state.2 := by
  cases step with
  | session step =>
    cases step with
    | newSensor => rfl
    | _ => exact absurd rfl idle
  | release => rfl
  | start => exact absurd rfl idle
  | _ => cases publicly

/-- Operations of any number and kind, on a pin that answers as it likes: whatever was remembered before the first of
them, and wherever the sensor is replaced or the master is built anew between them, they cannot be told apart. -/
theorem passages_alike (world : World (PinInterface E).surrounded σ) (deaf : world.Deaf) (steps : List MasterStep)
    (publicly : ∀ step ∈ steps, step.isPublic) (rig other : Rig) (state : σ) :
    List.Forall₂ Passage.Alike ((passages world steps (rig, state)).filter Passage.isOperation)
      (passages world (steps.filter MasterStep.isOperation) (other, state)) := by
  induction steps generalizing rig other state with
  | nil => exact .nil
  | cons step steps ih =>
    have going := ih fun later member => publicly later (List.mem_cons_of_mem _ member)
    rw [passages_cons]
    by_cases operation : step.isOperation
    · have among : (step.pass world (rig, state)).1.isOperation := operation
      have alike := step.pass_alike deaf operation rig other state
      have next : (step.pass world (other, state)).2 =
          ((step.pass world (other, state)).2.1, (step.pass world (rig, state)).2.2) := Prod.ext rfl alike.after
      rw [List.filter_cons_of_pos operation, List.filter_cons_of_pos among, passages_cons, next]
      exact .cons alike (going _ _ _)
    · have apart : ¬ (step.pass world (rig, state)).1.isOperation := operation
      have next : (step.pass world (rig, state)).2 = ((step.pass world (rig, state)).2.1, state) :=
        Prod.ext rfl (MasterStep.state_pass world (publicly step (List.mem_cons_self ..)) operation (rig, state))
      rw [List.filter_cons_of_neg operation, List.filter_cons_of_neg apart, next]
      exact going _ _ _

/-- A master that is built anew and a sensor that is replaced, behind a start that failed and a session that broke
off. -/
theorem passages_alike_behind_failures :
    let steps : List MasterStep := [.start, .session (.sensor .convert), .release, .session .newSensor,
      .session (.sensor .readTemperature), .session (.bus .reset)]
    let script : Script := ⟨[false, true, false], [(4, 7), (12, 9)], 0⟩
    World.Deaf Script.pin ∧ (∀ step ∈ steps, step.isPublic) ∧
      List.Forall₂ Passage.Alike ((passages Script.pin steps ({}, script)).filter Passage.isOperation)
        (passages Script.pin (steps.filter MasterStep.isOperation) ({}, script)) := by
  intro steps script
  have deaf : World.Deaf Script.pin := fun _ _ => rfl
  have publicly : ∀ step ∈ steps, step.isPublic := by decide
  exact ⟨deaf, publicly, passages_alike Script.pin deaf steps publicly {} {} script⟩

end Run

end Thermowire
