import Thermowire.Proofs.Session

/-! Programs in worlds that serve them. A world that stands behind another answers the calls of a
program by running programs of its own; one that serves a plan of bus calls answers each of them without
failing, so that a sensor step on it finishes with the bits it brings in. -/
namespace Thermowire

section World
variable {I J : Interface} {α σ τ : Type}

/-- A world that answers calls by programs in another world, with a memory handed on between them. -/
def World.behind (world : World J σ) (answer : (request : I.Call) → StateT τ (Program J) (I.Answer request)) :
    World I (τ × σ) := fun request state =>
  let run := ((answer request).run state.1).run world state.2
  (run.value.1, run.value.2, run.state)

namespace Program

theorem run_interpret_state (answer : (request : I.Call) → StateT τ (Program J) (I.Answer request))
    (program : Program I α) (world : World J σ) (memory : τ) (state : σ) :
    let inner := ((interpret answer program).run memory).run world state
    let outer := program.run (world.behind answer) (memory, state)
    inner.value = (outer.value, outer.state.1) ∧ inner.state = outer.state.2 := by
  induction program generalizing memory state with
  | done value => exact ⟨rfl, rfl⟩
  | call request next ih =>
    have inner : ((interpret answer (call request next)).run memory).run world state =
        ((answer request).run memory >>= fun reply =>
          (interpret answer (next reply.1)).run reply.2).run world state := rfl
    rw [inner, run_bind]
    exact ih _ _ _

theorem run_keeps {world : World I σ} {keeps : σ → Prop}
    (each : ∀ request state, keeps state → keeps (world request state).2) (program : Program I α) {state : σ}
    (before : keeps state) : keeps (program.run world state).state := by
  induction program generalizing state with
  | done value => exact before
  | call request next ih => exact ih _ (each request state before)

end Program

def Carries (world : World I σ) : σ → List (Event I) → σ → Prop
  | state, [], last => last = state
  | state, event :: rest, last =>
    event.answer = (world event.request state).1 ∧ Carries world (world event.request state).2 rest last

theorem Program.carries_run (program : Program I α) (world : World I σ) (state : σ) :
    Carries world state (program.run world state).history (program.run world state).state := by
  induction program generalizing state with
  | done value => rfl
  | call request next ih => exact ⟨rfl, ih _ _⟩

end World

section Serves
variable {I : Interface} {S E σ μ : Type} [BusLike I E]

/-- From its state the world answers the calls in order without failing any, brings these bits in, and
is left in the state `last`. -/
inductive Serves (world : World I.surrounded σ) : σ → List (Surrounded I.Call) → List Bool → σ → Prop where
  | nil (state : σ) : Serves world state [] [] state
  | cons {state last : σ} {request : Surrounded I.Call} {plan : List (Surrounded I.Call)} {wire : List Bool}
      (passed : Event.failure? (I := I) ⟨request, (world request state).1⟩ = none)
      (rest : Serves world (world request state).2 plan wire last) :
      Serves world state (request :: plan)
        (Event.received (I := I) ⟨request, (world request state).1⟩ ++ wire) last

namespace Serves
variable {world : World I.surrounded σ} {state middle last : σ} {wire other : List Bool}

theorem first {next : σ} {request : Surrounded I.Call} {answer : I.surrounded.Answer request}
    {plan : List (Surrounded I.Call)} (answered : world request state = (answer, next))
    (passed : Event.failure? (I := I) ⟨request, answer⟩ = none) (rest : Serves world next plan wire last) :
    Serves world state (request :: plan) (Event.received (I := I) ⟨request, answer⟩ ++ wire) last := by
  obtain rfl : (world request state).1 = answer := congrArg Prod.fst answered
  obtain rfl : (world request state).2 = next := congrArg Prod.snd answered
  exact .cons passed rest

theorem append {plan rest : List (Surrounded I.Call)} (first : Serves world state plan wire middle)
    (second : Serves world middle rest other last) :
    Serves world state (plan ++ rest) (wire ++ other) last := by
  induction first with
  | nil state => exact second
  | cons passed _ ih =>
    rw [List.append_assoc]
    exact .cons passed (ih second)

theorem of_follows {plan : List (Surrounded I.Call × μ)} {history : List (Event I.surrounded)} {final : σ}
    {stop : Option (BusError E × μ)} (serves : Serves world state (plan.map Prod.fst) wire last)
    (deaf : ∀ record state, (world (.ambient (.log record)) state).2 = state)
    (carries : Carries world state history final) (follows : Follows plan (calls history) stop) :
    stop = none ∧ final = last ∧ (calls history).flatMap Event.received = wire := by
  induction history generalizing plan state wire with
  | nil =>
    obtain ⟨rfl, rfl⟩ := follows.of_nil
    cases serves
    cases carries
    exact ⟨rfl, rfl, rfl⟩
  | cons event rest ih =>
    obtain ⟨request, answer⟩ := event
    obtain ⟨given, carries⟩ := carries
    obtain rfl : answer = (world request state).1 := given
    by_cases call : Event.isCall (I := I) ⟨request, (world request state).1⟩
    · rw [calls, List.filter_cons_of_pos call, ← calls] at follows ⊢
      obtain ⟨mark, remaining, rfl, ends⟩ := follows.of_cons
      cases serves with
      | cons passed served =>
        rcases ends with ⟨error, failed, -, -⟩ | ⟨-, others⟩
        · rw [passed] at failed
          cases failed
        · obtain ⟨whole, same, read⟩ := ih served carries others
          exact ⟨whole, same, congrArg _ read⟩
    · rw [calls, List.filter_cons_of_neg call, ← calls] at follows ⊢
      refine ih serves ?_ follows
      rcases request with own | ambient
      · exact absurd rfl call
      · cases ambient with
        | log record =>
          rw [deaf record state] at carries
          exact carries
        | _ => exact absurd rfl call

end Serves

end Serves

/-- On a bus that moves bits and serves its plan, a sensor step finishes with the bits brought in. -/
theorem SensorStep.finishes_of_serves {S E σ : Type} {step : SensorStep} {wire : List Bool} (before : Phase)
    {world : World (BitInterface S E).surrounded σ} {state last : σ}
    (deaf : ∀ record state, (world (.ambient (.log record)) state).2 = state)
    (serves : Serves world state ((bitwise step.plan).map Prod.fst) wire last) :
    let run := (step.session.run.run before).byBits.run world state
    step.Finishes wire (run.value : Except (SensorError E) (Value S) × Phase) ∧ run.state = last := by
  intro run
  obtain ⟨stop, follows, ends⟩ : step.Keeps (bitwise step.plan) run.history run.value :=
    keeps_byBits (Program.course_run _ world state)
  obtain ⟨rfl, same, read⟩ := serves.of_follows deaf (Program.carries_run _ world state) follows
  change step.Finishes ((calls run.history).flatMap Event.received) run.value at ends
  rw [read] at ends
  exact ⟨ends, same⟩

section Master
variable {E α σ : Type}

def World.onPin (world : World (PinInterface E).surrounded σ) :
    World (BitInterface Presence (MasterError E)).surrounded (Direction × σ) :=
  world.behind (Program.answering BitCall.onPin fun call => StateT.lift (Program.ambient call))

theorem run_onRig (program : StateT Phase (Program (BusInterface Presence (MasterError E)).surrounded) α)
    (rig : Rig) (world : World (PinInterface E).surrounded σ) (state : σ) :
    let inner := ((onRig program).run rig).run world state
    let outer := (program.run rig.phase).byBits.run world.onPin (rig.direction, state)
    inner.value = (outer.value.1, ⟨outer.value.2, outer.state.1⟩) ∧ inner.state = outer.state.2 := by
  obtain ⟨value, left⟩ := Program.run_interpret_state
    (Program.answering BitCall.onPin fun call => StateT.lift (Program.ambient call))
    (program.run rig.phase).byBits world rig.direction state
  have inner : ((onRig program).run rig).run world state =
      (((program.run rig.phase).onPin.run rig.direction) >>= fun result =>
        Program.done (result.1.1, Rig.mk result.1.2 result.2)).run world state := rfl
  rw [inner, Program.run_bind]
  refine ⟨?_, left⟩
  exact congrArg (fun result => (result.1.1, Rig.mk result.1.2 result.2)) value

end Master

theorem SensorStep.run_program {S E σ : Type} (step : SensorStep) (phase : Phase)
    (world : World (BitInterface S E).surrounded σ) (state : σ) :
    let inner := ((SessionStep.sensor step).program.run phase).byBits.run world state
    let outer := (step.session.run.run phase).byBits.run world state
    inner.value = ((outer.value.1.mapError .sensor : Outcome S E), outer.value.2) ∧ inner.state = outer.state := by
  have inner : (((SessionStep.sensor step).program.run phase).byBits : Program _ (Outcome S E × Phase)) =
      (step.session.run.run phase >>= fun result =>
        Program.done (result.1.mapError .sensor, result.2)).byBits := rfl
  rw [inner, Program.byBits, Program.interpret_bind, Program.run_bind]
  exact ⟨rfl, rfl⟩

theorem MasterStep.sensor_of_serves {E σ : Type} {step : SensorStep} {wire : List Bool} (rig : Rig)
    {world : World (PinInterface E).surrounded σ} {state last : σ} {direction : Direction}
    (deaf : ∀ record state, (world (.ambient (.log record)) state).2 = state)
    (served : Serves world.onPin (rig.direction, state) ((bitwise step.plan).map Prod.fst) wire (direction, last)) :
    ∃ result : Except (SensorError (MasterError E)) (Value Presence) × Phase, step.Finishes wire result ∧
      (((session (.sensor step)).program.run rig).run world state).value =
        (result.1.mapError .sensor, ⟨result.2, direction⟩) ∧
      (((session (.sensor step)).program.run rig).run world state).state = last := by
  have deafBus (record : Record) (state : Direction × σ) :
      (world.onPin (.ambient (.log record)) state).2 = state := Prod.ext rfl (deaf record state.2)
  obtain ⟨finished, same⟩ := step.finishes_of_serves rig.phase deafBus served
  obtain ⟨stepped, left⟩ := step.run_program rig.phase world.onPin (rig.direction, state)
  obtain ⟨value, reached⟩ := run_onRig (SessionStep.sensor step).program rig world state
  refine ⟨_, finished, ?_, ?_⟩
  · refine value.trans ?_
    rw [stepped, left, same]
  · refine reached.trans ?_
    rw [left, same]

end Thermowire
