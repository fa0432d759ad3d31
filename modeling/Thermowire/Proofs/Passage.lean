import Thermowire.Proofs.Master
import Thermowire.Proofs.Session

/-! Steps of a master on its pin, one after the other, whatever the pin answers. All that a step can
do is said once, in terms of the courses of its bit calls; what every course keeps is then kept by
every step. -/
namespace Thermowire

section Blame
variable {S E α : Type}

theorem hardware?_map_bus {result : Except (BusError E) (Value S)} {failure : Failure E} {error : E}
    (failed : result.mapError .bus = .error failure) (blamed : failure.hardware? = some error) :
    result = .error (.other error) := by
  cases result with
  | ok value => cases failed
  | error given =>
    cases failed
    cases given with
    | other hardware =>
      cases blamed
      rfl
    | _ => cases blamed

theorem hardware?_map_sensor {result : Except (SensorError E) (Value S)} {failure : Failure E} {error : E}
    (failed : result.mapError .sensor = .error failure) (blamed : failure.hardware? = some error) :
    result = .error (.bus (.other error)) := by
  cases result with
  | ok value => cases failed
  | error given =>
    cases failed
    rcases given with given | refused
    · cases given with
      | other hardware =>
        cases blamed
        rfl
      | _ => cases blamed
    · cases blamed

theorem SessionStep.exists_blamed {step : SessionStep} {before after : Phase}
    {events : List (Event (BitInterface S E).surrounded)} {failure : Failure E} {error : E}
    (course : ((step.program.run before).byBits : Program _ (Outcome S E × Phase)).Course events
      (.error failure, after))
    (blamed : failure.hardware? = some error) :
    ∃ event ∈ events, event.failure? = some (.other error) := by
  obtain ⟨made, performed, stitched⟩ := Program.course_interpret course
  have failed : ∃ event ∈ calls events, event.failure? = some (.other error) := by
    cases step with
    | bus step =>
      obtain ⟨first, outcome, second, one, ⟨rfl, same⟩, rfl⟩ := Program.course_bind.mp performed
      obtain ⟨result, exchanged, rfl⟩ := Program.course_map.mp one
      have failed := hardware?_map_bus (congrArg Prod.fst same).symm blamed
      subst failed
      rw [List.append_nil] at stitched
      have follows := step.obeys.follows () exchanged
      rw [← follows.calls_eq (by cases step <;> simp [BusStep.plan])] at follows
      exact (follows.bitwise stitched).1.exists_failed rfl
    | sensor step =>
      obtain ⟨first, ⟨result, phase⟩, second, one, ⟨rfl, same⟩, rfl⟩ := Program.course_bind.mp performed
      have failed := hardware?_map_sensor (congrArg Prod.fst same).symm blamed
      subst failed
      rw [List.append_nil] at stitched
      exact ((SensorStep.keeps_plan one).bitwise stitched).bus_iff.mp rfl
    | newSensor =>
      obtain ⟨rfl, same⟩ := performed
      cases same
  obtain ⟨event, member, failed⟩ := failed
  exact ⟨event, (List.mem_filter.mp member).1, failed⟩

end Blame

section Pin
variable {E α : Type}

/-- What a segment of pin calls owes to the event on the bus that it stands for. -/
def OnPin (before : Direction) (event : Event (BitInterface Presence (MasterError E)).surrounded)
    (segment : PinHistory E) (after : Direction) : Prop :=
  ((Program.answering BitCall.onPin (fun call => StateT.lift (Program.ambient call)) event.request).run
    before).Course segment (event.answer, after)

theorem onPin_ambient {before after : Direction} {call : Ambient} {answer : Unit} {segment : PinHistory E}
    (made : OnPin before ⟨.ambient call, answer⟩ segment after) :
    segment = [⟨.ambient call, ()⟩] ∧ after = before := by
  obtain ⟨_, _, rfl, rfl, same⟩ := made
  cases same
  exact ⟨rfl, rfl⟩

namespace MasterStep

inductive CourseOnPin (rig : Rig) :
    MasterStep → PinHistory E → Outcome Presence (MasterError E) → Rig → Prop where
  | session {step : SessionStep} {events : List (Event (BitInterface Presence (MasterError E)).surrounded)}
      {history : PinHistory E} {outcome : Outcome Presence (MasterError E)} {phase : Phase}
      {direction : Direction} (course : (step.program.run rig.phase).byBits.Course events (outcome, phase))
      (stitched : Program.Stitched OnPin rig.direction events history direction) :
      CourseOnPin rig (.session step) history outcome ⟨phase, direction⟩
  | unsettled {history : PinHistory E} {error : MasterError E} {direction : Direction}
      (settles : Wire.SettleCourse rig.direction history (.error error) direction) :
      CourseOnPin rig .start history (.error (.bus (.other error))) { rig with direction }
  | started {first second : PinHistory E} {pulse : Except (MasterError E) (Bool × Bool)}
      {middle direction : Direction} (settles : Wire.SettleCourse rig.direction first (.ok ()) middle)
      (resets : Wire.ResetCourse middle second pulse direction) :
      CourseOnPin rig .start (first ++ second)
        ((Value.status <$> BusWire.verdict pulse).mapError .bus) { rig with direction }
  | release : CourseOnPin rig .release [] (.ok .nothing) { rig with direction := .unconfigured }
  | output {history : PinHistory E} {result : Except (MasterError E) Unit} {direction : Direction}
      (leads : Leads Wire.output rig.direction history result direction) :
      CourseOnPin rig .output history (((fun _ => .nothing) <$> result).mapError .hardware)
        { rig with direction }
  | input {history : PinHistory E} {result : Except (MasterError E) Unit} {direction : Direction}
      (leads : Leads Wire.input rig.direction history result direction) :
      CourseOnPin rig .input history (((fun _ => .nothing) <$> result).mapError .hardware)
        { rig with direction }
  | drive {high : Bool} {history : PinHistory E} {result : Except (MasterError E) Unit}
      {direction : Direction} (leads : Leads (Wire.drive high) rig.direction history result direction) :
      CourseOnPin rig (.drive high) history (((fun _ => .nothing) <$> result).mapError .hardware)
        { rig with direction }
  | sample {history : PinHistory E} {result : Except (MasterError E) Bool} {direction : Direction}
      (leads : Leads Wire.sample rig.direction history result direction) :
      CourseOnPin rig .sample history ((Value.bit <$> result).mapError .hardware) { rig with direction }

variable {rig after : Rig} {history : PinHistory E} {outcome : Outcome Presence (MasterError E)}

theorem course_onRig {ε : Type} {action : PinAction E ε α} {f : Except ε α → Outcome Presence (MasterError E)}
    (course : ((f <$> action.onRig).run rig).Course history (outcome, after)) :
    ∃ result direction, Leads action rig.direction history result direction ∧ outcome = f result ∧
      after = { rig with direction } := by
  obtain ⟨first, ⟨result, left⟩, second, one, ⟨rfl, same⟩, rfl⟩ := Program.course_bind.mp course
  obtain ⟨third, ⟨given, direction⟩, fourth, leads, ⟨rfl, kept⟩, rfl⟩ := Program.course_bind.mp one
  cases same
  cases kept
  rw [List.append_nil, List.append_nil]
  exact ⟨result, direction, leads, rfl, rfl⟩

theorem course_onPin {step : MasterStep} (course : (step.program.run rig).Course history (outcome, after)) :
    step.CourseOnPin rig history outcome after := by
  cases step with
  | session step =>
    obtain ⟨first, ⟨⟨outcome, phase⟩, direction⟩, second, one, ⟨rfl, same⟩, rfl⟩ :=
      Program.course_bind.mp course
    cases same
    obtain ⟨events, made, stitched⟩ := Program.course_interpret_state one
    rw [List.append_nil]
    exact .session made stitched
  | start =>
    obtain ⟨result, direction, leads, rfl, rfl⟩ := course_onRig course
    obtain ⟨given, starts, rfl⟩ := leads_map leads
    -- a line that cannot be settled is not reset
    rcases leads_bind starts with ⟨error, rfl, broken⟩ | ⟨first, _, middle, second, settles, resets, rfl⟩
    · obtain ⟨given, settles, same⟩ := BusWire.leads_onWire broken
      cases given with
      | ok _ => cases same
      | error error =>
        cases same
        exact .unsettled (Wire.leads_settle settles)
    · obtain ⟨given, settles, same⟩ := BusWire.leads_onWire settles
      cases given with
      | error error => cases same
      | ok _ =>
        obtain ⟨pulse, pulsed, rfl⟩ := BusWire.leads_reset resets
        exact .started (Wire.leads_settle settles) pulsed
  | release =>
    obtain ⟨rfl, same⟩ := course
    cases same
    exact .release
  | output =>
    obtain ⟨result, direction, leads, rfl, rfl⟩ := course_onRig course
    obtain ⟨given, own, rfl⟩ := leads_map leads
    exact .output own
  | input =>
    obtain ⟨result, direction, leads, rfl, rfl⟩ := course_onRig course
    obtain ⟨given, own, rfl⟩ := leads_map leads
    exact .input own
  | drive high =>
    obtain ⟨result, direction, leads, rfl, rfl⟩ := course_onRig course
    obtain ⟨given, own, rfl⟩ := leads_map leads
    exact .drive own
  | sample =>
    obtain ⟨result, direction, leads, rfl, rfl⟩ := course_onRig course
    obtain ⟨given, own, rfl⟩ := leads_map leads
    exact .sample own

end MasterStep

/-- What is kept by whatever the master does on its pin by itself or as a bus, between the direction
before and the direction after. -/
structure Kept (keeps : Direction → PinHistory E → Direction → Prop) : Prop where
  nil : ∀ direction, keeps direction [] direction
  append : ∀ {one two three first second}, keeps one first two → keeps two second three →
    keeps one (first ++ second) three
  ambient : ∀ direction call, keeps direction [⟨.ambient call, ()⟩] direction
  settle : ∀ {before history result after}, Wire.SettleCourse before history result after →
    keeps before history after
  reset : ∀ {before history result after}, Wire.ResetCourse before history result after →
    keeps before history after
  write : ∀ {bit before history result after}, Wire.WriteCourse bit before history result after →
    keeps before history after
  read : ∀ {before history result after}, Wire.ReadCourse before history result after →
    keeps before history after

theorem Kept.onPin {keeps : Direction → PinHistory E → Direction → Prop} (kept : Kept keeps)
    {before after : Direction} {event : Event (BitInterface Presence (MasterError E)).surrounded}
    {segment : PinHistory E} (made : OnPin before event segment after) : keeps before segment after := by
  obtain ⟨call | call, answer⟩ := event
  · cases BitCall.course_onPin made with
    | reset course => exact kept.reset course
    | write course => exact kept.write course
    | read course => exact kept.read course
  · obtain ⟨rfl, rfl⟩ := onPin_ambient made
    exact kept.ambient after call

namespace MasterStep

/-- Whether the step is open to the users of the master; the others are its own means. -/
def isPublic : MasterStep → Bool
  | session _ => true
  | start => true
  | release => true
  | _ => false

theorem CourseOnPin.kept {keeps : Direction → PinHistory E → Direction → Prop} {step : MasterStep}
    {rig after : Rig} {history : PinHistory E} {outcome : Outcome Presence (MasterError E)}
    (course : step.CourseOnPin rig history outcome after) (kept : Kept keeps) (publicly : step.isPublic) :
    keeps rig.direction history after.direction ∨
      step = .release ∧ history = [] ∧ after.direction = .unconfigured := by
  cases course with
  | session course stitched => exact .inl (stitched.lift kept.nil kept.append kept.onPin)
  | unsettled settles => exact .inl (kept.settle settles)
  | started settles resets => exact .inl (kept.append (kept.settle settles) (kept.reset resets))
  | release => exact .inr ⟨rfl, rfl, rfl⟩
  | output => cases publicly
  | input => cases publicly
  | drive => cases publicly
  | sample => cases publicly

end MasterStep

end Pin

section Run
variable {E σ : Type}

/-- One step as it went: the state it was made in, the state it left, what it gave and what happened on
the pin. -/
structure Passage (E σ : Type) where
  step : MasterStep
  before : Rig × σ
  after : Rig × σ
  outcome : Outcome Presence (MasterError E)
  history : PinHistory E

def MasterStep.pass (world : World (PinInterface E).surrounded σ) (step : MasterStep) (state : Rig × σ) :
    Passage E σ × Rig × σ :=
  let run := (step.program.run state.1).run world state.2
  (⟨step, state, (run.value.2, run.state), run.value.1, run.history⟩, run.value.2, run.state)

def passages (world : World (PinInterface E).surrounded σ) : List MasterStep → Rig × σ → List (Passage E σ) :=
  reports (MasterStep.pass world)

theorem passages_cons (world : World (PinInterface E).surrounded σ) (step : MasterStep) (steps : List MasterStep)
    (state : Rig × σ) :
    passages world (step :: steps) state =
      (step.pass world state).1 :: passages world steps (step.pass world state).2 := rfl

def reached (world : World (PinInterface E).surrounded σ) (steps : List MasterStep) (state : Rig × σ) :
    Rig × σ := steps.foldl (fun state step => (step.pass world state).2) state

theorem MasterStep.course_pass (world : World (PinInterface E).surrounded σ) (step : MasterStep)
    (state : Rig × σ) :
    step.CourseOnPin state.1 (step.pass world state).1.history (step.pass world state).1.outcome
      (step.pass world state).1.after.1 := course_onPin (Program.course_run _ world state.2)

end Run

section Latest
variable {I : Interface} {γ : Type} {shows : Event I → Option γ}

/-- The last value that the events show, or the one there was before them. -/
def latest (shows : Event I → Option γ) (before : γ) (events : List (Event I)) : γ :=
  (events.filterMap shows).getLast?.getD before

theorem latest_append (before : γ) (first second : List (Event I)) :
    latest shows before (first ++ second) = latest shows (latest shows before first) second := by
  unfold latest
  rw [List.filterMap_append, List.getLast?_append]
  cases (second.filterMap shows).getLast? <;> rfl

theorem latest_cons (before : γ) (event : Event I) (rest : List (Event I)) :
    latest shows before (event :: rest) = latest shows ((shows event).getD before) rest := by
  change latest shows before ([event] ++ rest) = _
  rw [latest_append]
  congr 1
  cases shown : shows event <;> simp [latest, shown]

theorem exists_of_latest {before value : γ} {events : List (Event I)} (new : value ≠ before)
    (last : latest shows before events = value) :
    ∃ past event later, events = past ++ event :: later ∧ shows event = some value ∧
      ∀ other ∈ later, shows other = none := by
  unfold latest at last
  cases shown : (events.filterMap shows).getLast? with
  | none =>
    rw [shown] at last
    exact absurd last.symm new
  | some found =>
    rw [shown] at last
    obtain rfl : found = value := last
    obtain ⟨values, split⟩ := List.getLast?_eq_some_iff.mp shown
    obtain ⟨past, rest, rfl, -, ends⟩ := List.filterMap_eq_append_iff.mp split
    obtain ⟨quiet, event, later, rfl, -, shows, silent⟩ := List.filterMap_eq_cons_iff.mp ends
    refine ⟨past ++ quiet, event, later, by rw [List.append_assoc], shows, ?_⟩
    exact List.filterMap_eq_nil_iff.mp silent

end Latest

end Thermowire
