import Thermowire.Proofs.Passage

/-! The direction that the master remembers is the role that the pin was last given, so every call that
needs a role is made in it. A monitor that follows the pin's role through the calls accepts every course
of the master; its own refusals stay out of its users' sight. -/
namespace Thermowire

section Monitor
variable {E : Type}

def Event.configured? : Event (PinInterface E).surrounded → Option Direction
  | ⟨.own .setOutput, .ok _⟩ => some .output
  | ⟨.own .setInput, .ok _⟩ => some .input
  | _ => none

def Event.role? : Event (PinInterface E).surrounded → Option Direction
  | ⟨.own (.drive _), _⟩ => some .output
  | ⟨.own .sample, _⟩ => some .input
  | _ => none

def configured (history : PinHistory E) : Direction := latest Event.configured? .unconfigured history

/-- Follows the role of the pin through its calls, as long as each call finds the role that it needs. -/
def track : Direction → PinHistory E → Option Direction
  | direction, [] => some direction
  | direction, event :: rest =>
    if event.role?.all (· = direction) then track (event.configured?.getD direction) rest else none

theorem track_append (before : Direction) (first second : PinHistory E) :
    track before (first ++ second) = (track before first).bind (track · second) := by
  induction first generalizing before with
  | nil => rfl
  | cons event rest ih =>
    by_cases fits : event.role?.all (· = before)
    · simp only [List.cons_append, track, if_pos fits, ih]
    · simp only [List.cons_append, track, if_neg fits, Option.bind_none]

theorem track_eq_latest {before after : Direction} {history : PinHistory E}
    (tracked : track before history = some after) : after = latest Event.configured? before history := by
  induction history generalizing before with
  | nil =>
    cases tracked
    rfl
  | cons event rest ih =>
    by_cases fits : event.role?.all (· = before)
    · rw [track, if_pos fits] at tracked
      rw [latest_cons]
      exact ih tracked
    · rw [track, if_neg fits] at tracked
      cases tracked

theorem role_of_track {before after role : Direction} {past later : PinHistory E}
    {event : Event (PinInterface E).surrounded}
    (tracked : track before (past ++ event :: later) = some after) (needed : event.role? = some role) :
    latest Event.configured? before past = role := by
  rw [track_append] at tracked
  obtain ⟨direction, reached, others⟩ := Option.bind_eq_some_iff.mp tracked
  rw [← track_eq_latest reached]
  by_cases fits : event.role?.all (· = direction)
  · rw [needed] at fits
    exact (of_decide_eq_true fits).symm
  · rw [track, if_neg fits] at others
    cases others

/-- The master's direction and the pin's role stay the same through every course. -/
theorem kept_track : Kept fun before (history : PinHistory E) after => track before history = some after where
  nil _ := rfl
  append := by
    intro one two three first second begun rest
    rw [track_append, begun]
    exact rest
  ambient _ _ := rfl
  settle course := by cases course <;> rfl
  reset course := by cases course <;> rfl
  write course := by cases course <;> rfl
  read course := by cases course <;> rfl

end Monitor

theorem BitCall.CourseOnPin.failure?_ne {E : Type} {call : BitCall} {before after : Direction}
    {history : PinHistory E} {answer : call.Answer Presence (MasterError E)}
    (course : call.CourseOnPin before history after answer) :
    BusLike.failure? (I := BitInterface Presence (MasterError E)) call answer ≠ some (.other .direction) := by
  cases course with
  | reset course =>
    cases course with
    | finished high idle => cases high <;> cases idle <;> nofun
    | _ => nofun
  | write course => cases course <;> nofun
  | read course => cases course <;> nofun

namespace MasterStep
variable {E σ : Type} {rig after : Rig} {history : PinHistory E}
  {outcome : Outcome Presence (MasterError E)}

/-- The role without which the step is refused. Only two of the master's own means need one. -/
def role? : MasterStep → Option Direction
  | drive _ => some .output
  | sample => some .input
  | _ => none

theorem CourseOnPin.tracked {step : MasterStep} (course : step.CourseOnPin rig history outcome after) :
    track rig.direction history = some after.direction ∨
      step = .release ∧ history = [] ∧ after.direction = .unconfigured := by
  by_cases publicly : step.isPublic
  · exact course.kept kept_track publicly
  left
  cases course with
  | output leads =>
    rcases Wire.leads_output leads with ⟨error, rfl, rfl, rfl⟩ | ⟨rfl, rfl, rfl⟩ <;> rfl
  | input leads =>
    rcases Wire.leads_input leads with ⟨error, rfl, rfl, rfl⟩ | ⟨rfl, rfl, rfl⟩ <;> rfl
  | drive leads =>
    obtain ⟨rfl, ⟨driven, answer, rfl, -⟩ | ⟨-, rfl, -⟩⟩ := Wire.leads_drive leads
    · cases answer <;>
      · rw [driven]
        rfl
    · rfl
  | sample leads =>
    obtain ⟨rfl, ⟨sampled, answer, rfl, -⟩ | ⟨-, rfl, -⟩⟩ := Wire.leads_sample leads
    · cases answer <;>
      · rw [sampled]
        rfl
    · rfl
  | _ => exact absurd rfl publicly

theorem CourseOnPin.refused {step : MasterStep} {role : Direction}
    (course : step.CourseOnPin rig history outcome after) (needed : step.role? = some role)
    (other : role ≠ rig.direction) :
    outcome = .error (.hardware .direction) ∧ history = [] ∧ after = rig := by
  cases course with
  | drive leads =>
    cases needed
    obtain ⟨rfl, ⟨driven, -⟩ | ⟨-, rfl, rfl⟩⟩ := Wire.leads_drive leads
    · exact absurd driven.symm other
    · exact ⟨rfl, rfl, rfl⟩
  | sample leads =>
    cases needed
    obtain ⟨rfl, ⟨sampled, -⟩ | ⟨-, rfl, rfl⟩⟩ := Wire.leads_sample leads
    · exact absurd sampled.symm other
    · exact ⟨rfl, rfl, rfl⟩
  | _ => cases needed

theorem CourseOnPin.blameless {step : MasterStep} (course : step.CourseOnPin rig history outcome after)
    (free : step.role? = none) {failure : Failure (MasterError E)} (failed : outcome = .error failure) :
    failure.hardware? ≠ some .direction := by
  cases course with
  | @session _ events _ _ _ _ course stitched =>
    intro blamed
    subst failed
    have fair : ∀ event ∈ events, event.failure? ≠ some (.other .direction) := by
      refine stitched.forall_mem ?_
      rintro one ⟨call | call, answer⟩ segment two made
      · exact (BitCall.course_onPin made).failure?_ne
      · nofun
    obtain ⟨event, member, refused⟩ := SessionStep.exists_blamed course blamed
    exact fair event member refused
  | unsettled settles =>
    cases failed
    cases settles <;> nofun
  | @started _ _ pulse _ _ settles resets =>
    intro blamed
    have broken := hardware?_map_bus failed blamed
    apply (BitCall.CourseOnPin.reset resets).failure?_ne
    cases judged : BusWire.verdict pulse with
    | error error =>
      rw [judged] at broken
      cases broken
      rfl
    | ok status =>
      rw [judged] at broken
      cases broken
  | release => cases failed
  | output leads =>
    rcases Wire.leads_output leads with ⟨error, rfl, rfl, rfl⟩ | ⟨rfl, rfl, rfl⟩ <;> cases failed
    nofun
  | input leads =>
    rcases Wire.leads_input leads with ⟨error, rfl, rfl, rfl⟩ | ⟨rfl, rfl, rfl⟩ <;> cases failed
    nofun
  | drive leads => cases free
  | sample leads => cases free

end MasterStep

def Passage.sinceBuilt {E σ : Type} (passage : Passage E σ) (earlier : PinHistory E) : PinHistory E :=
  if passage.step = .release then [] else earlier ++ passage.history

/-- What a passage owes to the direction, by the pin's calls since the master on it was built. -/
structure Passage.Disciplined {E σ : Type} (passage : Passage E σ) (earlier : PinHistory E) : Prop where
  before : passage.before.1.direction = configured earlier
  after : passage.after.1.direction = configured (passage.sinceBuilt earlier)
  roles : ∀ past event later role, passage.history = past ++ event :: later → event.role? = some role →
    configured (earlier ++ past) = role
  refused : ∀ role, passage.step.role? = some role → role ≠ configured earlier →
    passage.outcome = .error (.hardware .direction) ∧ passage.history = [] ∧ passage.after = passage.before
  blameless : passage.step.role? = none → ∀ failure, passage.outcome = .error failure →
    failure.hardware? ≠ some .direction

namespace MasterStep
variable {E σ : Type} (world : World (PinInterface E).surrounded σ)

theorem direction_pass (step : MasterStep) (state : Rig × σ) {earlier : PinHistory E}
    (same : state.1.direction = configured earlier) :
    (step.pass world state).1.after.1.direction = configured ((step.pass world state).1.sinceBuilt earlier) := by
  by_cases released : step = .release
  · subst released
    rfl
  · have tracked := (step.course_pass world state).tracked.resolve_right fun forgets => released forgets.1
    rw [track_eq_latest tracked, same]
    have going : (step.pass world state).1.sinceBuilt earlier =
        earlier ++ (step.pass world state).1.history := if_neg released
    rw [going, configured, configured, latest_append]

theorem direction_reached (steps : List MasterStep) (state : Rig × σ) {earlier : PinHistory E}
    (same : state.1.direction = configured earlier) :
    (reached world steps state).1.direction =
      configured ((passages world steps state).foldl (fun calls passage => passage.sinceBuilt calls) earlier) := by
  induction steps generalizing state earlier with
  | nil => exact same
  | cons step rest ih => exact ih _ (direction_pass world step state same)

theorem disciplined_pass (step : MasterStep) (state : Rig × σ) {earlier : PinHistory E}
    (same : state.1.direction = configured earlier) : (step.pass world state).1.Disciplined earlier where
  before := same
  after := direction_pass world step state same
  roles := by
    intro past event later role split needed
    rw [configured, latest_append, ← configured, ← same]
    rcases (step.course_pass world state).tracked with tracked | ⟨-, none, -⟩
    · rw [split] at tracked
      exact role_of_track tracked needed
    · rw [split] at none
      exact absurd none (List.append_ne_nil_of_right_ne_nil _ (List.cons_ne_nil _ _))
  refused := by
    intro role needed other
    obtain ⟨failed, none, kept⟩ := (step.course_pass world state).refused needed (same ▸ other)
    exact ⟨failed, none, Prod.ext kept (Program.run_state_of_nil none)⟩
  blameless free _ := (step.course_pass world state).blameless free

/-- Whatever the pin answers and whichever steps were made on it before, the master's direction is the
role that the pin was last given, every call of the next step finds the pin in the role that it needs,
and only the master's own means are ever refused for want of it. -/
theorem disciplined (earlier : List MasterStep) (step : MasterStep) (phase : Phase) (state : σ) :
    (step.pass world (reached world earlier (⟨phase, .unconfigured⟩, state))).1.Disciplined
      ((passages world earlier (⟨phase, .unconfigured⟩, state)).foldl
        (fun calls passage => passage.sinceBuilt calls) []) :=
  disciplined_pass world step _ (direction_reached world earlier _ rfl)

end MasterStep

end Thermowire
