import Thermowire.Proofs.Halt
import Thermowire.Proofs.Passage

/-! The bus calls of a step on the master, each with what happened on the pin meanwhile. A span is one of
them; the spans of a step put together are its history, and their calls are those of the session. -/
namespace Thermowire

section Session
variable {S E : Type} {before after : Phase} {events : List (Event (BitInterface S E).surrounded)}
  {outcome : Outcome S E}

theorem BusStep.course_byBits {step : BusStep}
    (course : ((SessionStep.bus step).program.run before).byBits.Course events (outcome, after)) :
    ∃ result : Except (BusError E) (Value S),
      Follows (bitwise (step.plan.map (·, ()))) (calls events) ((failureOf result).map (·, ())) ∧
        outcome = result.mapError .bus ∧ after = before := by
  obtain ⟨made, performed, stitched⟩ := Program.course_interpret course
  obtain ⟨first, given, second, one, ⟨rfl, same⟩, rfl⟩ := Program.course_bind.mp performed
  obtain ⟨result, exchanged, rfl⟩ := Program.course_map.mp one
  cases same
  rw [List.append_nil] at stitched
  have follows := step.obeys.follows () exchanged
  rw [← follows.calls_eq (by cases step <;> simp [BusStep.plan])] at follows
  exact ⟨result, (follows.bitwise stitched).1, rfl, rfl⟩

theorem SensorStep.course_byBits {step : SensorStep}
    (course : ((SessionStep.sensor step).program.run before).byBits.Course events (outcome, after)) :
    ∃ result : Except (SensorError E) (Value S),
      step.Keeps (bitwise step.plan) events (result, after) ∧ outcome = result.mapError .sensor := by
  obtain ⟨made, performed, stitched⟩ := Program.course_interpret course
  obtain ⟨first, ⟨result, phase⟩, second, one, ⟨rfl, same⟩, rfl⟩ := Program.course_bind.mp performed
  cases same
  rw [List.append_nil] at stitched
  exact ⟨result, (keeps_plan one).bitwise stitched, rfl⟩

end Session

/-- A call on a bus, or of what surrounds it, with what happened on the pin meanwhile. -/
structure Span (E : Type) where
  event : Event (BitInterface Presence (MasterError E)).surrounded
  segment : PinHistory E

section Run
variable {E α σ : Type}

def Program.spans (world : World (PinInterface E).surrounded σ) :
    Program (BitInterface Presence (MasterError E)).surrounded α → Direction → σ → List (Span E)
  | done _, _, _ => []
  | call request next, direction, state =>
    let run := ((answering BitCall.onPin (fun call => StateT.lift (ambient call)) request).run direction).run
      world state
    ⟨⟨request, run.value.1⟩, run.history⟩ :: (next run.value.1).spans world run.value.2 run.state

/-- What a list of spans owes to the program and the history that it is made from. -/
structure Program.Spanned (program : Program (BitInterface Presence (MasterError E)).surrounded α)
    (history : PinHistory E) (value : α) (spans : List (Span E)) : Prop where
  history_eq : history = spans.flatMap Span.segment
  course : program.Course (spans.map Span.event) value
  each : ∀ span ∈ spans, ∃ before after, OnPin before span.event span.segment after

theorem Program.spanned_run (world : World (PinInterface E).surrounded σ)
    (program : Program (BitInterface Presence (MasterError E)).surrounded α) (direction : Direction) (state : σ) :
    let run := ((interpret (answering BitCall.onPin fun call => StateT.lift (ambient call)) program).run
      direction).run world state
    program.Spanned run.history run.value.1 (program.spans world direction state) := by
  induction program generalizing direction state with
  | done value => exact ⟨rfl, ⟨rfl, rfl⟩, nofun⟩
  | call request next ih =>
    have inner : ((interpret (answering BitCall.onPin fun call => StateT.lift (ambient call))
          (call request next)).run direction).run world state =
        ((answering BitCall.onPin (fun call => StateT.lift (ambient call)) request).run direction >>= fun reply =>
          (interpret (answering BitCall.onPin fun call => StateT.lift (ambient call)) (next reply.1)).run
            reply.2).run world state := rfl
    rw [inner, run_bind]
    obtain ⟨same, course, each⟩ := ih _ _ _
    refine ⟨congrArg (_ ++ ·) same, ⟨_, _, rfl, course⟩, ?_⟩
    intro span member
    rcases List.mem_cons.mp member with rfl | later
    · exact ⟨direction, _, course_run _ world state⟩
    · exact each span later

def MasterStep.spans (world : World (PinInterface E).surrounded σ) : MasterStep → Rig × σ → List (Span E)
  | session step, (rig, state) => (step.program.run rig.phase).byBits.spans world rig.direction state
  | _, _ => []

theorem SessionStep.spanned (world : World (PinInterface E).surrounded σ) (step : SessionStep) (state : Rig × σ) :
    let passage := ((MasterStep.session step).pass world state).1
    (step.program.run state.1.phase).byBits.Spanned passage.history (passage.outcome, passage.after.1.phase)
      ((MasterStep.session step).spans world state) := by
  have spanned := Program.spanned_run world (step.program.run state.1.phase).byBits state.1.direction state.2
  have inner : ((onRig step.program).run state.1).run world state.2 =
      ((step.program.run state.1.phase).onPin.run state.1.direction >>= fun result =>
        Program.done (result.1.1, Rig.mk result.1.2 result.2)).run world state.2 := rfl
  rw [Program.run_bind] at inner
  intro passage
  have history : passage.history = _ := (congrArg Run.history inner).trans (List.append_nil _)
  have value : (passage.outcome, passage.after.1.phase) = _ :=
    congrArg (fun run : Run _ σ (_ × Rig) => (run.value.1, run.value.2.phase)) inner
  rw [history, value]
  exact spanned

end Run

end Thermowire
