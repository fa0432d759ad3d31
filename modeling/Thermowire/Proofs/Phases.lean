import Thermowire.Bench
import Thermowire.Proofs.Session

/-! The phases of a sensor as a machine. Whatever buses a sensor is used on and whatever they answer, the phases that
its log names are steps of the machine in one unbroken chain, from a new sensor to the phase that it has now. -/
namespace Thermowire

namespace Phase

/-- Whether a sensor can be left in the phase. A command that was sent is followed by the next phase at once. -/
def isRest : Phase → Bool
  | convertSent => false
  | readSent => false
  | _ => true

def isStop : Phase → Bool
  | convertReset => true
  | readReset => true
  | reading => true
  | _ => false

theorem of_isStop {phase : Phase} (stop : phase.isStop) : phase.isRest ∧ phase ≠ idle ∧ phase ≠ decoded := by
  cases phase with
  | convertReset => decide
  | readReset => decide
  | reading => decide
  | _ => cases stop

/-- The steps of the machine. Both sessions begin with a reset, wherever the sensor was left. -/
inductive Step : Phase → Phase → Prop where
  | convertReset {phase : Phase} (rest : phase.isRest) : Step phase convertReset
  | convertSent : Step convertReset convertSent
  | converting : Step convertSent converting
  | readReset {phase : Phase} (rest : phase.isRest) : Step phase readReset
  | readSent : Step readReset readSent
  | reading : Step readSent reading
  | decoded : Step reading decoded

/-- Steps in a row, each beginning where the one before it ended. -/
inductive Chain : Phase → List (Phase × Phase) → Phase → Prop where
  | nil (phase : Phase) : Chain phase [] phase
  | cons {before middle after : Phase} {links : List (Phase × Phase)} (step : before.Step middle)
      (rest : Chain middle links after) : Chain before ((before, middle) :: links) after

theorem Chain.append {before middle after : Phase} {first second : List (Phase × Phase)}
    (begun : Chain before first middle) (rest : Chain middle second after) :
    Chain before (first ++ second) after := by
  induction begun with
  | nil phase => exact rest
  | cons step _ ih => exact .cons step (ih rest)

def Ends {ε α : Type} (goal : Phase) : Except ε α → Phase → Prop
  | .ok _, after => after = goal
  | .error _, after => after.isStop

end Phase

open Phase (Chain)

def Record.link? : Record → Option (Phase × Phase)
  | phase before after => some (before, after)
  | _ => none

section Interface
variable {I : Interface}

def Event.link? (event : Event I.surrounded) : Option (Phase × Phase) := event.record?.bind Record.link?

def links (history : List (Event I.surrounded)) : List (Phase × Phase) := history.filterMap Event.link?

theorem links_append (first second : List (Event I.surrounded)) :
    links (first ++ second) = links first ++ links second := List.filterMap_append ..

theorem links_eq_nil {history : List (Event I.surrounded)} (silent : calls history = history) :
    links history = [] := by
  apply List.filterMap_eq_nil_iff.mpr
  intro event member
  have call := List.filter_eq_self.mp silent event member
  obtain ⟨_ | (_ | _ | _ | record), answer⟩ := event
  case ambient.log => cases call
  all_goals rfl

end Interface

namespace Session
variable {S E α β : Type} {before middle goal : Phase}

/-- A session that takes steps of the machine in a row, from `before` to `goal` if it succeeds. -/
structure Moves (session : Session S E α) (before goal : Phase) : Prop where
  leads : ∀ {history result after}, Leads session before history result after →
    Chain before (links history) after ∧ goal.Ends result after

namespace Moves

theorem bind {session : Session S E α} {f : α → Session S E β} (first : Moves session before middle)
    (second : ∀ value, Moves (f value) middle goal) : Moves (session >>= f) before goal := by
  constructor
  intro history result after leads
  rcases leads_bind leads with ⟨error, rfl, broken⟩ | ⟨one, value, reached, two, begun, goes, rfl⟩
  · exact first.leads broken
  · obtain ⟨begins, rfl⟩ := first.leads begun
    obtain ⟨rest, ends⟩ := (second value).leads goes
    rw [links_append]
    exact ⟨begins.append rest, ends⟩

theorem map {session : Session S E α} (moves : Moves session before goal) (f : α → β) :
    Moves (f <$> session) before goal := by
  constructor
  intro history result after leads
  obtain ⟨given, own, rfl⟩ := leads_map leads
  obtain ⟨chain, ends⟩ := moves.leads own
  refine ⟨chain, ?_⟩
  cases given <;> exact ends

theorem enter (step : before.Step goal) : Moves (Session.enter goal : Session S E Unit) before goal := by
  constructor
  rintro history result after ⟨_, _, rfl, rfl, same⟩
  cases same
  exact ⟨.cons step (.nil goal), rfl⟩

theorem ambient {call : Ambient} (unnamed : ∀ record, call = .log record → record.link? = none) :
    Moves (Session.ambient call : Session S E Unit) before before := by
  constructor
  intro history result after leads
  obtain ⟨rfl, rfl, rfl⟩ := leads_ambient leads
  have silent : links (I := BusInterface S E) [⟨.ambient call, ()⟩] = [] := by
    cases call with
    | log record => exact List.filterMap_cons_none (unnamed record rfl)
    | _ => rfl
  rw [silent]
  exact ⟨.nil after, rfl⟩

theorem onBus {exchange : Exchange S E α} {plan : List (Surrounded BusCall)} (stop : before.isStop)
    (obeys : Obeys exchange.run plan) (quiet : ∀ request ∈ plan, ∀ record, request ≠ .ambient (.log record)) :
    Moves (Session.onBus exchange) before before := by
  constructor
  intro history result after leads
  obtain ⟨given, course, rfl, rfl⟩ := leads_onBus leads
  have silent := links_eq_nil ((obeys.follows () course).calls_eq (by simpa using quiet))
  rw [silent]
  refine ⟨.nil after, ?_⟩
  cases given with
  | error error => exact stop
  | ok value => rfl

theorem still {result : Except (SensorError E) α} (stop : ∀ error, result = .error error → before.isStop) :
    Moves (ExceptT.mk (pure result) : Session S E α) before before := by
  constructor
  rintro history given after ⟨rfl, same⟩
  cases same
  refine ⟨.nil _, ?_⟩
  cases result with
  | error error => exact stop error rfl
  | ok value => rfl

theorem convert (rest : before.isRest) : Moves (Session.convert : Session S E Unit) before .converting :=
  (enter (.convertReset rest)).bind fun _ => (onBus rfl (obeys_command _) (by simp)).bind fun _ =>
    (enter .convertSent).bind fun _ => (enter .converting).bind fun _ => ambient nofun

theorem readScratchpad (rest : before.isRest) :
    Moves (Session.readScratchpad : Session S E Scratchpad) before .reading :=
  (enter (.readReset rest)).bind fun _ => (onBus rfl (obeys_command _) (by simp)).bind fun _ =>
    (enter .readSent).bind fun _ => (enter .reading).bind fun _ => onBus rfl obeys_register (by simp)

theorem readTemperature (rest : before.isRest) :
    Moves (Session.readTemperature : Session S E Temperature) before .decoded :=
  (convert rest).bind fun _ => (readScratchpad rfl).bind fun _ => (still fun _ _ => rfl).bind fun _ =>
    (enter .decoded).bind fun _ => (ambient (by simp [Record.link?])).bind fun _ => still nofun

end Moves
end Session

namespace SensorStep
variable {S E : Type} {before : Phase}

def goal : SensorStep → Phase
  | convert => .converting
  | readScratchpad => .reading
  | readTemperature => .decoded

theorem moves (step : SensorStep) (rest : before.isRest) :
    Session.Moves (step.session : Session S E (Value S)) before step.goal := by
  cases step with
  | convert => exact (Session.Moves.convert rest).map _
  | readScratchpad => exact (Session.Moves.readScratchpad rest).map _
  | readTemperature => exact (Session.Moves.readTemperature rest).map _

end SensorStep

theorem links_stitched {S E : Type} {one two : Unit} {events : List (Event (BusInterface S E).surrounded)}
    {history : List (Event (BitInterface S E).surrounded)}
    (stitched : Program.Stitched (fun _ event segment _ => Expands event segment) one events history two) :
    links history = links events := by
  induction stitched with
  | nil memory => rfl
  | @cons _ _ _ event events segment rest head tail ih =>
    rw [links_append, ih]
    obtain ⟨call | call, answer⟩ := event
    · have made := (BusCall.follows_byBits () head).1
      rw [links_eq_nil (made.calls_eq (by simp))]
      rfl
    · obtain rfl := expands_ambient head
      change _ = links ([⟨.ambient call, ()⟩] ++ events)
      rw [links_append]
      cases call <;> rfl

section Visit

/-- Some bus in some state: one that moves bits only, or one that has byte transfers of its own. -/
inductive AnyBus where
  | bits {S E σ : Type} (world : World (BitInterface S E).surrounded σ) (state : σ)
  | bytes {S E σ : Type} (world : World (BusInterface S E).surrounded σ) (state : σ)

structure Visit where
  step : SensorStep
  after : Phase
  log : List Record
  succeeded : Bool

def Visit.links (visit : Visit) : List (Phase × Phase) := visit.log.filterMap Record.link?

def Visit.ofRun {I : Interface} {S E σ : Type} (step : SensorStep)
    (run : Run I.surrounded σ (Except (SensorError E) (Value S) × Phase)) : Visit :=
  ⟨step, run.value.2, run.records, run.value.1.isOk⟩

def AnyBus.visit (bus : AnyBus) (step : SensorStep) (before : Phase) : Visit :=
  match bus with
  | bits world state => .ofRun step ((step.session.run.run before).byBits.run world state)
  | bytes world state => .ofRun step ((step.session.run.run before).run world state)

def visits : List (SensorStep × AnyBus) → Phase → List Visit
  | [], _ => []
  | (step, bus) :: rest, before => bus.visit step before :: visits rest (bus.visit step before).after

/-- What a call can leave. -/
structure Visit.Settled (visit : Visit) : Prop where
  rest : visit.after.isRest
  used : visit.after ≠ .idle
  decoded_iff : visit.after = .decoded ↔ visit.step = .readTemperature ∧ visit.succeeded

theorem Visit.settled_ofRun {I : Interface} {S E σ : Type} {step : SensorStep}
    {run : Run I.surrounded σ (Except (SensorError E) (Value S) × Phase)}
    (ends : step.goal.Ends run.value.1 run.value.2) : (Visit.ofRun step run).Settled := by
  obtain ⟨⟨result, after⟩, state, history⟩ := run
  cases result with
  | ok value =>
    obtain rfl : after = step.goal := ends
    cases step <;> exact ⟨rfl, nofun, by simp [ofRun, SensorStep.goal, Except.isOk, Except.toBool]⟩
  | error error =>
    obtain ⟨rest, used, failed⟩ := Phase.of_isStop ends
    exact ⟨rest, used, fun decoded => absurd decoded failed, nofun⟩

theorem Visit.links_ofRun {I : Interface} {S E σ : Type} (step : SensorStep)
    (run : Run I.surrounded σ (Except (SensorError E) (Value S) × Phase)) :
    (Visit.ofRun step run).links = Thermowire.links run.history := List.filterMap_filterMap

theorem AnyBus.visit_moves (bus : AnyBus) (step : SensorStep) {before : Phase} (rest : before.isRest) :
    Chain before (bus.visit step before).links (bus.visit step before).after ∧ (bus.visit step before).Settled := by
  cases bus with
  | bits world state =>
    have course := Program.course_run (step.session.run.run before).byBits world state
    obtain ⟨events, made, stitched⟩ := Program.course_interpret course
    obtain ⟨chain, ends⟩ := (step.moves rest).leads made
    rw [visit, Visit.links_ofRun, links_stitched stitched]
    exact ⟨chain, Visit.settled_ofRun ends⟩
  | bytes world state =>
    have course := Program.course_run (step.session.run.run before) world state
    obtain ⟨chain, ends⟩ := (step.moves rest).leads course
    rw [visit, Visit.links_ofRun]
    exact ⟨chain, Visit.settled_ofRun ends⟩

def leftBehind (seen : List Visit) (before : Phase) : Phase := (seen.getLast?.map Visit.after).getD before

theorem leftBehind_cons (visit : Visit) (seen : List Visit) (before : Phase) :
    leftBehind (visit :: seen) before = leftBehind seen visit.after := by
  rw [leftBehind, leftBehind, List.getLast?_cons]
  cases seen.getLast? <;> rfl

theorem chain_visits (calls : List (SensorStep × AnyBus)) {before : Phase} (rest : before.isRest) :
    Chain before ((visits calls before).flatMap Visit.links) (leftBehind (visits calls before) before) ∧
      ∀ visit ∈ visits calls before, visit.Settled := by
  induction calls generalizing before with
  | nil => exact ⟨.nil before, nofun⟩
  | cons call calls ih =>
    obtain ⟨step, bus⟩ := call
    obtain ⟨chain, settled⟩ := bus.visit_moves step rest
    obtain ⟨chains, others⟩ := ih settled.rest
    rw [visits, leftBehind_cons]
    refine ⟨chain.append chains, ?_⟩
    intro visit member
    rcases List.mem_cons.mp member with rfl | later
    · exact settled
    · exact others visit later

/-- Calls of any number and kind on a new sensor, on any buses: the phases that the log names are one chain of the
machine's steps to the phase that the sensor is left in. That is never a command just sent and never again that of a
new sensor, and it tells whether the last call gave a temperature. -/
theorem phases_chain (calls : List (SensorStep × AnyBus)) :
    let seen := visits calls .idle
    let phase := leftBehind seen .idle
    Chain .idle (seen.flatMap Visit.links) phase ∧ phase ≠ .convertSent ∧ phase ≠ .readSent ∧
      (calls ≠ [] → phase ≠ .idle) ∧
      (phase = .decoded ↔
        ∃ last, seen.getLast? = some last ∧ last.step = .readTemperature ∧ last.succeeded) := by
  intro seen phase
  have begun : Phase.idle.isRest := rfl
  obtain ⟨chain, settled⟩ := chain_visits calls begun
  refine ⟨chain, ?_⟩
  -- the phase is what the last call left, or that of a new sensor
  cases final : seen.getLast? with
  | none =>
    have idle : phase = .idle := congrArg (fun last => (last.map Visit.after).getD .idle) final
    have none : visits calls .idle = [] := List.getLast?_eq_none_iff.mp final
    have unused : calls = [] := by
      cases calls with
      | nil => rfl
      | cons call rest => cases none
    rw [idle]
    exact ⟨nofun, nofun, fun used => absurd unused used, nofun, nofun⟩
  | some last =>
    have left : phase = last.after := congrArg (fun last => (last.map Visit.after).getD .idle) final
    obtain ⟨rest, used, decoded⟩ := settled last (List.mem_of_getLast? final)
    rw [left]
    refine ⟨?_, ?_, fun _ => used, decoded.trans ?_⟩
    · intro sent
      rw [sent] at rest
      cases rest
    · intro sent
      rw [sent] at rest
      cases rest
    · constructor
      · intro gave
        exact ⟨last, rfl, gave⟩
      · rintro ⟨_, same, gave⟩
        cases same
        exact gave

end Visit

end Thermowire
