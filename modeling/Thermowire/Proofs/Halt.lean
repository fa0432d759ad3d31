import Thermowire.Proofs.Session

/-! Sessions end with their first failure. Whatever a step on a bus does, log records included, passes
until a bus call fails, and then the step does nothing more and fails with that call's error. Critical sections
it leaves to the bus. -/
namespace Thermowire

def Ambient.section? : Ambient → Option Bool
  | enter => some true
  | leave => some false
  | _ => none

def Event.section? {I : Interface} : Event I.surrounded → Option Bool
  | ⟨.own _, _⟩ => none
  | ⟨.ambient call, _⟩ => call.section?

section Interface
variable {I : Interface} {E μ : Type} [BusLike I E]

theorem Event.section?_of_failed {event : Event I.surrounded} {error : BusError E}
    (failed : event.failure? = some error) : event.section? = none := by
  obtain ⟨call | call, answer⟩ := event
  · rfl
  · cases failed

/-- The events pass one after the other, but for the last, whose error is left behind if it fails; and none of
them marks a section. -/
inductive Halts : List (Event I.surrounded) → Option (BusError E) → Prop where
  | done : Halts [] none
  | stopped {event : Event I.surrounded} {error : BusError E} (failed : event.failure? = some error) :
      Halts [event] (some error)
  | next {event : Event I.surrounded} {events : List (Event I.surrounded)} {stop : Option (BusError E)}
      (passed : event.failure? = none) (unmarked : event.section? = none) (rest : Halts events stop) :
      Halts (event :: events) stop

namespace Halts
variable {events later : List (Event I.surrounded)} {stop : Option (BusError E)}

theorem append (first : Halts events none) (second : Halts later stop) : Halts (events ++ later) stop := by
  generalize whole : (none : Option (BusError E)) = end' at first
  induction first with
  | done => exact second
  | stopped failed => cases whole
  | next passed unmarked _ ih => exact .next passed unmarked (ih whole)

theorem eq_nil_of_failed {event : Event I.surrounded} (halts : Halts (event :: events) stop) {error : BusError E}
    (failed : event.failure? = some error) : events = [] ∧ stop = some error := by
  cases halts with
  | stopped given =>
    rw [given] at failed
    exact ⟨rfl, failed⟩
  | next passed _ rest =>
    rw [passed] at failed
    cases failed

theorem ambient {call : Ambient} (unmarked : call.section? = none) :
    Halts (I := I) [⟨.ambient call, ()⟩] none := by
  have passed : Event.failure? (I := I) ⟨.ambient call, ()⟩ = none := rfl
  exact .next passed unmarked .done

end Halts

theorem Follows.halts {plan : List (Surrounded I.Call × μ)} {events : List (Event I.surrounded)}
    {stop : Option (BusError E × μ)} (follows : Follows plan events stop)
    (owned : ∀ entry ∈ plan, ∃ call, entry.1 = .own call) : Halts events (stop.map Prod.fst) := by
  induction follows with
  | done => exact .done
  | stopped failed => exact .stopped failed
  | @next event _ _ _ _ passed _ ih =>
    have unmarked : event.section? = none := by
      obtain ⟨call, own⟩ := owned _ (List.mem_cons_self ..)
      obtain ⟨request, answer⟩ := event
      obtain rfl : request = .own call := own
      rfl
    exact .next passed unmarked (ih fun entry member => owned entry (List.mem_cons_of_mem _ member))

end Interface

section Session
variable {S E α β : Type}

/-- A session that fails with the first failure of a bus call and then does nothing more. -/
structure Halting (session : Session S E α) : Prop where
  halts : ∀ {before history result after}, Leads session before history result after →
    ∃ stop, Halts history stop ∧ ∀ error, stop = some error → result = .error (.bus error)

namespace Halting

theorem bind {session : Session S E α} {f : α → Session S E β} (first : Halting session)
    (second : ∀ value, Halting (f value)) : Halting (session >>= f) := by
  constructor
  intro before history result after leads
  rcases leads_bind leads with ⟨error, rfl, broken⟩ | ⟨one, value, middle, two, begun, goes, rfl⟩
  · obtain ⟨stop, halts, failed⟩ := first.halts broken
    refine ⟨stop, halts, fun given same => ?_⟩
    cases failed given same
    rfl
  · obtain ⟨stop, halts, failed⟩ := first.halts begun
    cases stop with
    | some error => cases failed error rfl
    | none =>
      obtain ⟨stop, rest, failed⟩ := (second value).halts goes
      exact ⟨stop, halts.append rest, failed⟩

theorem map {session : Session S E α} (halting : Halting session) (f : α → β) : Halting (f <$> session) := by
  constructor
  intro before history result after leads
  obtain ⟨given, own, rfl⟩ := leads_map leads
  obtain ⟨stop, halts, failed⟩ := halting.halts own
  refine ⟨stop, halts, fun error same => ?_⟩
  rw [failed error same]
  rfl

theorem ambient {call : Ambient} (unmarked : call.section? = none) :
    Halting (Session.ambient call : Session S E Unit) := by
  constructor
  intro before history result after leads
  obtain ⟨rfl, -, -⟩ := Session.leads_ambient leads
  exact ⟨none, .ambient unmarked, nofun⟩

theorem enter (phase : Phase) : Halting (Session.enter phase : Session S E Unit) := by
  constructor
  rintro before history result after ⟨_, _, rfl, rfl, -⟩
  exact ⟨none, .ambient rfl, nofun⟩

theorem onBus {exchange : Exchange S E α} {plan : List (Surrounded BusCall)} (obeys : Obeys exchange.run plan)
    (owned : ∀ request ∈ plan, ∃ call, request = .own call) : Halting (Session.onBus exchange) := by
  constructor
  intro before history result after leads
  obtain ⟨given, course, rfl, -⟩ := Session.leads_onBus leads
  refine ⟨_, (obeys.follows () course).halts (by simpa using owned), fun error same => ?_⟩
  cases given with
  | ok value => cases same
  | error error =>
    cases same
    rfl

theorem still (result : Except (SensorError E) α) : Halting (ExceptT.mk (pure result) : Session S E α) := by
  constructor
  rintro before history result after ⟨rfl, -⟩
  exact ⟨none, .done, nofun⟩

theorem convert : Halting (Session.convert : Session S E Unit) :=
  (enter _).bind fun _ => (onBus (Session.obeys_command _) (by simp)).bind fun _ =>
    (enter _).bind fun _ => (enter _).bind fun _ => ambient rfl

theorem readScratchpad : Halting (Session.readScratchpad : Session S E Scratchpad) :=
  (enter _).bind fun _ => (onBus (Session.obeys_command _) (by simp)).bind fun _ =>
    (enter _).bind fun _ => (enter _).bind fun _ => onBus Session.obeys_register (by simp)

theorem readTemperature : Halting (Session.readTemperature : Session S E Temperature) :=
  convert.bind fun _ => readScratchpad.bind fun pad =>
    (still (pad.decode.mapError .outOfRange)).bind fun reading =>
      (enter _).bind fun _ => (ambient rfl).bind fun _ => still (.ok reading)

theorem sensorStep (step : SensorStep) : Halting (step.session : Session S E (Value S)) := by
  cases step with
  | convert => exact convert.map _
  | readScratchpad => exact readScratchpad.map _
  | readTemperature => exact readTemperature.map _

end Halting

def SessionStep.failure : SessionStep → BusError E → Failure E
  | .sensor _, error => .sensor (.bus error)
  | _, error => .bus error

theorem SessionStep.halts {step : SessionStep} {before after : Phase}
    {events : List (Event (BusInterface S E).surrounded)} {outcome : Outcome S E}
    (course : (step.program.run before).Course events (outcome, after)) :
    ∃ stop, Halts events stop ∧ ∀ error, stop = some error → outcome = .error (step.failure error) := by
  cases step with
  | bus step =>
    obtain ⟨first, given, second, one, ⟨rfl, same⟩, rfl⟩ := Program.course_bind.mp course
    obtain ⟨result, exchanged, rfl⟩ := Program.course_map.mp one
    cases same
    rw [List.append_nil]
    have owned : ∀ request ∈ step.plan, ∃ call, request = .own call := by
      cases step <;> simp [BusStep.plan]
    refine ⟨_, (step.obeys.follows () exchanged).halts (by simpa using owned), fun error stopped => ?_⟩
    cases result with
    | ok value => cases stopped
    | error error =>
      cases stopped
      rfl
  | sensor step =>
    obtain ⟨first, ⟨result, phase⟩, second, one, ⟨rfl, same⟩, rfl⟩ := Program.course_bind.mp course
    cases same
    obtain ⟨stop, halts, failed⟩ := (Halting.sensorStep step).halts one
    rw [List.append_nil]
    refine ⟨stop, halts, fun error stopped => ?_⟩
    rw [failed error stopped]
    rfl
  | newSensor =>
    obtain ⟨rfl, -⟩ := course
    exact ⟨none, .done, nofun⟩

/-- What halts on a bus that moves bytes halts bit by bit on one that moves bits only. -/
theorem Halts.bitwise {one two : Unit} {events : List (Event (BusInterface S E).surrounded)}
    {history : List (Event (BitInterface S E).surrounded)} {stop : Option (BusError E)}
    (stitched : Program.Stitched (fun _ event segment _ => Expands event segment) one events history two)
    (halts : Halts events stop) : Halts history stop := by
  induction stitched generalizing stop with
  | nil memory =>
    cases halts
    exact .done
  | @cons _ _ _ event events segment rest head tail ih =>
    obtain ⟨call | call, answer⟩ := event
    · have made : Halts segment (BusLike.failure? (I := BusInterface S E) call answer) := by
        simpa only [Option.map_map, Function.comp_def, Option.map_id'] using
          (BusCall.follows_byBits () head).1.halts (by simp)
      cases halts with
      | stopped failed =>
        change BusLike.failure? call answer = some _ at failed
        rw [failed] at made
        cases tail
        rwa [List.append_nil]
      | next passed _ others =>
        change BusLike.failure? call answer = none at passed
        rw [passed] at made
        exact made.append (ih others)
    · obtain rfl := expands_ambient head
      cases halts with
      | stopped failed => cases failed
      | next passed unmarked others => exact (Halts.ambient unmarked).append (ih others)

theorem SessionStep.halts_byBits {step : SessionStep} {before after : Phase}
    {history : List (Event (BitInterface S E).surrounded)} {outcome : Outcome S E}
    (course : (step.program.run before).byBits.Course history (outcome, after)) :
    ∃ stop, Halts history stop ∧ ∀ error, stop = some error → outcome = .error (step.failure error) := by
  obtain ⟨events, made, stitched⟩ := Program.course_interpret course
  obtain ⟨stop, halts, failed⟩ := halts made
  exact ⟨stop, halts.bitwise stitched, failed⟩

end Session

end Thermowire
