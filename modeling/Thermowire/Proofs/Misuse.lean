import Thermowire.Proofs.Direction
import Thermowire.Proofs.FailStop
import Thermowire.Proofs.Queues

/-! Misuse of the line's pin. The master gives the pin a role before it uses it, so that the line never refuses what it
does for its users, whatever a second pin on the line has done; its own means rely on what it remembers, which is true
as long as there is no second pin. Main statement: who misuses the pin changes nothing, and no pulse ends before it
began. -/
namespace Thermowire

section Master
variable {E : Type}

theorem kept_trackable : Kept fun _ (history : PinHistory E) _ => ∀ role, ∃ left, track role history = some left where
  nil _ role := ⟨role, rfl⟩
  append := by
    intro one two three first second begun rest role
    obtain ⟨middle, tracked⟩ := begun role
    rw [track_append, tracked]
    exact rest middle
  ambient _ _ role := ⟨role, rfl⟩
  settle course := by cases course <;> exact fun _ => ⟨_, rfl⟩
  reset course := by cases course <;> exact fun _ => ⟨_, rfl⟩
  write course := by cases course <;> exact fun _ => ⟨_, rfl⟩
  read course := by cases course <;> exact fun _ => ⟨_, rfl⟩

theorem MasterStep.CourseOnPin.trackable {step : MasterStep} {rig after : Rig} {history : PinHistory E}
    {outcome : Outcome Presence (MasterError E)} (course : step.CourseOnPin rig history outcome after)
    (publicly : step.isPublic) (role : Direction) : ∃ left, track role history = some left := by
  rcases course.kept kept_trackable publicly with trackable | ⟨-, rfl, -⟩
  · exact trackable role
  · exact ⟨role, rfl⟩

theorem MasterStep.CourseOnPin.alone {step : MasterStep} {rig after : Rig} {history : PinHistory E}
    {outcome : Outcome Presence (MasterError E)} (course : step.CourseOnPin rig history outcome after)
    (own : step.isPublic = false) : history = [] ∨ ∃ call answer, history = [⟨.own call, answer⟩] ∧
      ∀ error, PinLike.fault? (I := PinInterface E) call answer = some error →
        outcome = .error (.hardware (call.cause error)) ∧ after = rig := by
  cases course with
  | output leads =>
    rcases Wire.leads_output leads with ⟨given, rfl, rfl, rfl⟩ | ⟨rfl, rfl, rfl⟩
    · refine .inr ⟨_, _, rfl, fun error failed => ?_⟩
      cases failed
      exact ⟨rfl, rfl⟩
    · exact .inr ⟨_, _, rfl, nofun⟩
  | input leads =>
    rcases Wire.leads_input leads with ⟨given, rfl, rfl, rfl⟩ | ⟨rfl, rfl, rfl⟩
    · refine .inr ⟨_, _, rfl, fun error failed => ?_⟩
      cases failed
      exact ⟨rfl, rfl⟩
    · exact .inr ⟨_, _, rfl, nofun⟩
  | drive leads =>
    obtain ⟨rfl, ⟨-, answer, rfl, rfl⟩ | ⟨-, rfl, -⟩⟩ := Wire.leads_drive leads
    · refine .inr ⟨_, _, rfl, fun error failed => ?_⟩
      rw [PinCall.eq_fail failed]
      exact ⟨rfl, rfl⟩
    · exact .inl rfl
  | sample leads =>
    obtain ⟨rfl, ⟨-, answer, rfl, rfl⟩ | ⟨-, rfl, -⟩⟩ := Wire.leads_sample leads
    · refine .inr ⟨_, _, rfl, fun error failed => ?_⟩
      rw [PinCall.eq_fail failed]
      exact ⟨rfl, rfl⟩
    · exact .inl rfl
  | _ => cases own

end Master

namespace Line
variable {line last : Line} {before after : Direction} {history : PinHistory Misuse}

def pinRole (line : Line) : Direction := if line.output then .output else .input

/-- The direction is unknown or the pin's role. -/
def Agrees (direction : Direction) (line : Line) : Prop := direction = .unconfigured ∨ direction = line.pinRole

theorem agrees_output : Agrees .output line ↔ line.output = true := by
  cases driven : line.output <;> simp [Agrees, pinRole, driven]

theorem agrees_input : Agrees .input line ↔ line.output = false := by
  cases driven : line.output <;> simp [Agrees, pinRole, driven]

theorem pinRole_eq_output : line.pinRole = .output ↔ line.output = true := by
  cases driven : line.output <;> simp [pinRole, driven]

theorem pin_fits (request : Surrounded PinCall) (agrees : Agrees before line) :
    let event : Event (PinInterface Misuse).surrounded := ⟨request, (Line.pin request line).1⟩
    event.role?.all (· = before) →
      event.fault? = none ∧ (event.configured? = some (Line.pin request line).2.pinRole ∨
        event.configured? = none ∧ (Line.pin request line).2.output = line.output) := by
  intro event fits
  rcases request with (_ | _ | high | _) | call
  case own.setOutput => exact ⟨rfl, .inl rfl⟩
  case own.setInput => exact ⟨rfl, .inl rfl⟩
  case own.drive =>
    obtain rfl : Direction.output = before := of_decide_eq_true fits
    have driven := agrees_output.mp agrees
    have answered : Line.pin (.own (.drive high)) line = _ := if_pos driven
    change Event.fault? ⟨_, (Line.pin (.own (.drive high)) line).1⟩ = none ∧ _
    rw [answered]
    refine ⟨rfl, .inr ⟨rfl, ?_⟩⟩
    cases high <;> rfl
  case own.sample =>
    obtain rfl : Direction.input = before := of_decide_eq_true fits
    have undriven := agrees_input.mp agrees
    have answered : Line.pin (.own .sample) line = _ := if_neg (by rw [undriven]; exact Bool.false_ne_true)
    change Event.fault? ⟨_, (Line.pin (.own .sample) line).1⟩ = none ∧ _
    rw [answered]
    exact ⟨rfl, .inr ⟨rfl, rfl⟩⟩
  case ambient => cases call <;> exact ⟨rfl, .inr ⟨rfl, rfl⟩⟩

/-- From a direction that agrees with the line, a history that is tracked misuses the pin nowhere. The direction it
ends in is the pin's role, or neither has changed. -/
theorem fits_of_track (agrees : Agrees before line) (tracked : track before history = some after)
    (carries : Carries Line.pin line history last) :
    (∀ event ∈ history, event.fault? = none) ∧
      (after = last.pinRole ∨ after = before ∧ last.output = line.output) := by
  induction history generalizing before line with
  | nil =>
    cases tracked
    cases carries
    exact ⟨nofun, .inr ⟨rfl, rfl⟩⟩
  | cons event rest ih =>
    obtain ⟨request, answer⟩ := event
    obtain ⟨given, carries⟩ := carries
    obtain rfl : answer = (Line.pin request line).1 := given
    by_cases fits : (⟨request, (Line.pin request line).1⟩ : Event (PinInterface Misuse).surrounded).role?.all
        (· = before)
    · rw [track, if_pos fits] at tracked
      obtain ⟨sound, given⟩ := pin_fits request agrees fits
      rcases given with configured | ⟨unconfigured, kept⟩
      · rw [configured] at tracked
        obtain ⟨others, ends⟩ := ih (.inr rfl) tracked carries
        refine ⟨List.forall_mem_cons.mpr ⟨sound, others⟩, .inl ?_⟩
        rcases ends with role | ⟨same, kept⟩
        · exact role
        · exact same.trans (by rw [pinRole, pinRole, kept])
      · rw [unconfigured] at tracked
        have still : Agrees before (Line.pin request line).2 := by
          rwa [Agrees, pinRole, kept]
        obtain ⟨others, ends⟩ := ih still tracked carries
        refine ⟨List.forall_mem_cons.mpr ⟨sound, others⟩, ?_⟩
        rcases ends with role | ⟨same, left⟩
        · exact .inl role
        · exact .inr ⟨same, left.trans kept⟩
    · rw [track, if_neg fits] at tracked
      cases tracked

theorem Agrees.of_output {other : Line} (agrees : Agrees before line) (kept : other.output = line.output) :
    Agrees before other := by
  rwa [Agrees, pinRole, kept]

def Step.calls : Step → Rig × Line → PinHistory Misuse
  | master step, (rig, line) => ((step.program.run rig).run Line.pin line).history
  | pin call, (_, line) => [⟨.own call, (Line.pin (.own call) line).1⟩]
  | _, _ => []

def Step.isRaw : Step → Bool
  | pin _ => true
  | _ => false

/-- The states that a rig and its line can be in, after steps of some kinds. What the device has received, has to send
and has counted can be changed at will in between. -/
inductive ReachableBy (allowed : Step → Prop) : Rig × Line → Prop where
  | fresh (present : Bool) : ReachableBy allowed ({}, .fresh present)
  | step {state : Rig × Line} (reachable : ReachableBy allowed state) (step : Step) (kind : allowed step) :
      ReachableBy allowed (perform step state).2
  | change {rig : Rig} {line : Line} (reachable : ReachableBy allowed (rig, line)) (received transmit : List Bool)
      (conversions : Nat) :
      ReachableBy allowed (rig, { line with device := { line.device with received, transmit, conversions } })

section Master
variable {rig : Rig}

theorem course_perform (step : MasterStep) (rig : Rig) (line : Line) :
    step.CourseOnPin rig ((Step.master step).calls (rig, line)) (perform (.master step) (rig, line)).1.outcome
      (perform (.master step) (rig, line)).2.1 := MasterStep.course_onPin (Program.course_run _ Line.pin line)

theorem carries_perform (step : MasterStep) (rig : Rig) (line : Line) :
    Carries Line.pin line ((Step.master step).calls (rig, line)) (perform (.master step) (rig, line)).2.2 :=
  Program.carries_run _ Line.pin line

theorem fits_master (step : MasterStep) (agrees : Agrees rig.direction line) :
    (∀ event ∈ (Step.master step).calls (rig, line), event.fault? = none) ∧
      ((perform (.master step) (rig, line)).2.1.direction = (perform (.master step) (rig, line)).2.2.pinRole ∨
        (perform (.master step) (rig, line)).2.1.direction = rig.direction ∧
          (perform (.master step) (rig, line)).2.2.output = line.output ∨
        step = .release ∧ (perform (.master step) (rig, line)).2.1.direction = .unconfigured) := by
  rcases (course_perform step rig line).tracked with tracked | ⟨released, none, forgotten⟩
  · obtain ⟨sound, ends⟩ := fits_of_track agrees tracked (carries_perform step rig line)
    exact ⟨sound, ends.imp id .inl⟩
  · rw [none]
    exact ⟨nofun, .inr (.inr ⟨released, forgotten⟩)⟩

theorem sound_public {step : MasterStep} (publicly : step.isPublic) (rig : Rig) (line : Line) :
    ∀ event ∈ (Step.master step).calls (rig, line), event.fault? = none := by
  obtain ⟨left, tracked⟩ := (course_perform step rig line).trackable publicly line.pinRole
  exact (fits_of_track (.inr rfl) tracked (carries_perform step rig line)).1

end Master

theorem agrees_perform {step : Step} {state : Rig × Line} (mastered : step.isRaw = false)
    (agrees : Agrees state.1.direction state.2) :
    Agrees (perform step state).2.1.direction (perform step state).2.2 := by
  cases step with
  | master step =>
    rcases (fits_master step agrees).2 with role | ⟨same, kept⟩ | ⟨-, forgotten⟩
    · exact .inr role
    · rw [same]
      exact agrees.of_output kept
    · exact .inl forgotten
  | pin call => cases mastered
  | _ => exact agrees

/-- As long as there is no second pin, what the master remembers of its pin is true, if it remembers anything. -/
theorem ReachableBy.agrees {state : Rig × Line} (reachable : ReachableBy (·.isRaw = false) state) :
    Agrees state.1.direction state.2 := by
  induction reachable with
  | fresh present => exact .inl rfl
  | step _ step mastered ih => exact agrees_perform mastered ih
  | change _ _ _ _ ih => exact ih

theorem ReachableBy.mono {allowed other : Step → Prop} (wider : ∀ step, allowed step → other step)
    {state : Rig × Line} (reachable : ReachableBy allowed state) : ReachableBy other state := by
  induction reachable with
  | fresh present => exact .fresh present
  | step _ step kind ih => exact .step ih step (wider step kind)
  | change _ received transmit conversions ih => exact .change ih received transmit conversions

theorem ReachableBy.output_iff {state : Rig × Line}
    (reachable : ReachableBy (fun step => step.isRaw = false ∧ step ≠ .master .release) state) :
    state.2.output = true ↔ state.1.direction = .output := by
  induction reachable with
  | fresh present => exact ⟨nofun, nofun⟩
  | @step state reached step kind ih =>
    obtain ⟨mastered, kept⟩ := kind
    cases step with
    | master step =>
      have agrees := (reached.mono fun _ kind => kind.1).agrees
      rcases (fits_master step agrees).2 with role | ⟨same, left⟩ | ⟨rfl, -⟩
      · rw [role]
        exact pinRole_eq_output.symm
      · rw [same, left]
        exact ih
      · exact absurd rfl kept
    | pin call => cases mastered
    | _ => exact ih
  | change _ _ _ _ ih => exact ih

theorem pin_of_misuse {call : PinCall} {misuse : Misuse}
    (failed : PinLike.fault? (I := PinInterface Misuse) call (Line.pin (.own call) line).1 = some misuse) :
    (Line.pin (.own call) line).2 = line ∧ call.cause misuse = .pin misuse := by
  cases call with
  | setOutput => cases failed
  | setInput => cases failed
  | drive high =>
    rw [pin_drive] at failed ⊢
    cases driven : line.output with
    | true =>
      rw [driven] at failed
      cases failed
    | false => exact ⟨rfl, rfl⟩
  | sample =>
    rw [pin_sample] at failed ⊢
    cases driven : line.output with
    | true => exact ⟨rfl, rfl⟩
    | false =>
      rw [driven] at failed
      cases failed

theorem eventsSince_self (line : Line) : line.eventsSince line = [] := by
  rw [eventsSince, Nat.sub_self]
  rfl

/-- What a line owes to whoever uses its pin. -/
structure Guarded (state : Rig × Line) : Prop where
  operations : ∀ step : MasterStep, step.isPublic → ∀ event ∈ (Step.master step).calls state, event.fault? = none
  unchanged : ∀ step event misuse, event ∈ step.calls state → event.fault? = some misuse →
    step.calls state = [event] ∧ (perform step state).1.outcome = .error (.hardware (.pin misuse)) ∧
      (perform step state).2 = state ∧ (perform step state).1.events = [] ∧ (perform step state).1.log = []
  timely : ∀ (step : Step) past event later, step.calls state = past ++ event :: later →
    ∃ line, Carries Line.pin state.2 past line ∧ (line.low = true → line.fall ≤ line.now)

theorem unchanged_pin {call : PinCall} {misuse : Misuse} (state : Rig × Line)
    (failed : PinLike.fault? (I := PinInterface Misuse) call (Line.pin (.own call) state.2).1 = some misuse) :
    (perform (.pin call) state).1.outcome = .error (.hardware (.pin misuse)) ∧
      (perform (.pin call) state).2 = state ∧ (perform (.pin call) state).1.events = [] := by
  obtain ⟨rig, line⟩ := state
  have kept : (Line.pin (.own call) line).2 = line := (pin_of_misuse failed).1
  refine ⟨?_, Prod.ext rfl kept, ?_⟩
  · change (pinValue call (Line.pin (.own call) line).1).mapError (fun misuse => Failure.hardware (MasterError.pin misuse)) = _
    rw [PinCall.eq_fail failed]
    cases call <;> rfl
  · change (Line.pin (.own call) line).2.eventsSince line = []
    rw [kept]
    exact eventsSince_self line

theorem unchanged_master {step : MasterStep} {event : Event (PinInterface Misuse).surrounded} {misuse : Misuse}
    (state : Rig × Line) (made : event ∈ (Step.master step).calls state) (failed : event.fault? = some misuse) :
    (Step.master step).calls state = [event] ∧
      (perform (.master step) state).1.outcome = .error (.hardware (.pin misuse)) ∧
      (perform (.master step) state).2 = state ∧ (perform (.master step) state).1.events = [] ∧
      (perform (.master step) state).1.log = [] := by
  obtain ⟨rig, line⟩ := state
  cases own : step.isPublic with
  | true =>
    rw [sound_public own rig line event made] at failed
    cases failed
  | false =>
  rcases (course_perform step rig line).alone own with none | ⟨call, answer, only, ends⟩
  · rw [none] at made
    cases made
  have carries := carries_perform step rig line
  rw [only] at made carries
  obtain rfl := List.mem_singleton.mp made
  obtain ⟨given, left⟩ := carries
  obtain rfl : answer = (Line.pin (.own call) line).1 := given
  obtain ⟨kept, cause⟩ := pin_of_misuse failed
  obtain ⟨outcome, rig⟩ := ends misuse failed
  have still : (perform (.master step) (_, line)).2.2 = line := left.trans kept
  refine ⟨only, by rw [outcome, cause], Prod.ext rig still, ?_, ?_⟩
  · change (perform (.master step) (_, line)).2.2.eventsSince line = []
    rw [still]
    exact eventsSince_self line
  · change ((Step.master step).calls (_, line)).filterMap Event.record? = []
    rw [only]
    rfl

theorem timely_carries (timely : line.Timely) (carries : Carries Line.pin line history last) : last.Timely := by
  induction history generalizing line with
  | nil =>
    cases carries
    exact timely
  | cons event rest ih => exact ih (timely_pin event.request timely) carries.2

theorem carries_calls (step : Step) (state : Rig × Line) :
    ∃ last, Carries Line.pin state.2 (step.calls state) last := by
  cases step with
  | master step => exact ⟨_, carries_perform step state.1 state.2⟩
  | pin call => exact ⟨_, rfl, rfl⟩
  | _ => exact ⟨_, rfl⟩

theorem Reachable.guarded {state : Rig × Line} (reachable : Reachable state) : Guarded state where
  operations _ publicly := sound_public publicly state.1 state.2
  unchanged := by
    intro step event misuse made failed
    cases step with
    | master step => exact unchanged_master state made failed
    | pin call =>
      obtain rfl := List.mem_singleton.mp made
      obtain ⟨outcome, kept, unseen⟩ := unchanged_pin state failed
      exact ⟨rfl, outcome, kept, unseen, rfl⟩
    | _ => cases made
  timely := by
    intro step past event later split
    obtain ⟨last, carries⟩ := carries_calls step state
    rw [split] at carries
    obtain ⟨middle, made, -⟩ := carries_append.mp carries
    exact ⟨middle, made, timely_carries reachable.timely made⟩

/-- In every state that the line can be in, whatever a second pin on it has done, what the master does for its users
misuses the pin nowhere; a step that does misuse it fails for that call alone and leaves everything as it was; and
whenever the pin is called, a fall that is still going on lies in the past. Without a second pin the master's own means
misuse nothing either, since the pin is an output just when the master remembers so, until it is built anew. -/
theorem misuse_foreign {state : Rig × Line} (reachable : Reachable state) :
    Guarded state ∧
      (ReachableBy (·.isRaw = false) state →
        ∀ step : MasterStep, ∀ event ∈ (Step.master step).calls state, event.fault? = none) ∧
      (ReachableBy (fun step => step.isRaw = false ∧ step ≠ .master .release) state →
        (state.2.output = true ↔ state.1.direction = .output)) :=
  ⟨reachable.guarded, fun mastered step => (fits_master step mastered.agrees).1, ReachableBy.output_iff⟩

/-- A second pin pulls the line low that the master remembers as its input: a sample of the master's own is refused and
changes nothing, but a reset goes as ever. And a pin that only the master has used is the output that it remembers. -/
theorem misuse_foreign_second_pin :
    let disturbed := Line.after [.master (.session (.bus .reset)), .pin .setOutput, .pin (.drive false)] ({}, .fresh true)
    let tidy := Line.after [.master .output] ({}, .fresh true)
    Reachable disturbed ∧ disturbed.1.direction = .input ∧ disturbed.2.output = true ∧
      (perform (.master .sample) disturbed).1.outcome = .error (.hardware (.pin .sampledAsOutput)) ∧
      (perform (.master .sample) disturbed).2 = disturbed ∧
      (∀ event ∈ (Step.master (.session (.bus .reset))).calls disturbed, event.fault? = none) ∧
      ReachableBy (fun step => step.isRaw = false ∧ step ≠ .master .release) tidy ∧
      (tidy.2.output = true ↔ tidy.1.direction = .output) ∧
      ∀ event ∈ (Step.master (.drive false)).calls tidy, event.fault? = none := by
  intro disturbed tidy
  have reachable : Reachable disturbed := .step (.step (.step (.fresh true) _) _) _
  have clean : Reachable tidy := .step (.fresh true) _
  have mastered : ReachableBy (fun step => step.isRaw = false ∧ step ≠ .master .release) tidy :=
    .step (.fresh true) _ ⟨rfl, nofun⟩
  have direction : disturbed.1.direction = .input := by decide +kernel
  have output : disturbed.2.output = true := by decide +kernel
  have sampled : (Step.master .sample).calls disturbed = [⟨.own .sample, .error .sampledAsOutput⟩] := rfl
  obtain ⟨guarded, -, -⟩ := misuse_foreign reachable
  have member : ⟨.own .sample, .error .sampledAsOutput⟩ ∈ (Step.master .sample).calls disturbed := by
    rw [sampled]
    exact List.mem_singleton_self _
  obtain ⟨-, refused, kept, -, -⟩ := guarded.unchanged _ _ _ member rfl
  obtain ⟨-, own, same⟩ := misuse_foreign clean
  exact ⟨reachable, direction, output, refused, kept, guarded.operations _ rfl, mastered, same mastered,
    own (mastered.mono fun _ kind => kind.1) _⟩

end Line
end Thermowire
