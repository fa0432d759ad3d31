import Thermowire.Proofs.FailStop
import Thermowire.Proofs.Span

/-! Critical sections. A monitor follows the master into its sections and out of them, with the time that it waits in
each. Main statement: whatever the pin answers, sections are entered and left by turns, each is left with the operation
that entered it, none holds a long wait, and what a slot does to the pin is done in one. -/
namespace Thermowire

def Wait.unhurried : List Wait :=
  [Slot.settle, Slot.resetLow.wait, Slot.resetRecovery.wait, Slot.readRecovery.wait, Session.conversionTime]

/-- Nothing is held off, or interrupts have been through waits of so many nanoseconds. -/
inductive Hold where
  | outside
  | inside (waited : Nat)
  deriving DecidableEq, Repr

section Event
variable {I : Interface}

def Event.wait? : Event I.surrounded → Option Wait
  | ⟨.ambient (.wait wait), _⟩ => some wait
  | _ => none

def waits (history : List (Event I.surrounded)) : List Wait := history.filterMap Event.wait?

theorem waits_append (first second : List (Event I.surrounded)) : waits (first ++ second) = waits first ++ waits second :=
  List.filterMap_append

theorem waits_calls (events : List (Event I.surrounded)) : waits (calls events) = waits events := by
  rw [waits, calls, List.filterMap_filter]
  refine congrArg (List.filterMap · events) (funext fun event => ?_)
  obtain ⟨_ | (_ | _ | _ | _), answer⟩ := event <;> rfl

def waited (history : List (Event I.surrounded)) : Nat :=
  (waits history).foldr (fun wait total => wait.nanoseconds + total) 0

end Event

namespace Hold
variable {E : Type} {hold held : Hold} {history : PinHistory E}

def isInside : Hold → Bool
  | outside => false
  | inside _ => true

/-- What the surroundings may be asked for next. A section holds no other, is left once, and is brief. -/
def next : Hold → Ambient → Option Hold
  | outside, .enter => some (inside 0)
  | outside, .leave => none
  | outside, _ => some outside
  | inside _, .enter => none
  | inside _, .leave => some outside
  | inside waited, .wait wait =>
    if waited + wait.nanoseconds ≤ 70000 ∧ wait ∉ Wait.unhurried then some (inside (waited + wait.nanoseconds))
    else none
  | inside waited, .log _ => some (inside waited)

def follow (hold : Hold) : Event (PinInterface E).surrounded → Option Hold
  | ⟨.own _, _⟩ => some hold
  | ⟨.ambient call, _⟩ => hold.next call

def through (hold : Hold) (history : PinHistory E) : Option Hold := history.foldlM follow hold

theorem through_append (hold : Hold) (first second : PinHistory E) :
    hold.through (first ++ second) = (hold.through first).bind (·.through second) := List.foldlM_append

theorem through_cons (hold : Hold) (event : Event (PinInterface E).surrounded) (rest : PinHistory E) :
    hold.through (event :: rest) = (hold.follow event).bind (·.through rest) := List.foldlM_cons

theorem isInside_follow {event : Event (PinInterface E).surrounded} (follows : hold.follow event = some held) :
    held.isInside = event.section?.getD hold.isInside ∧
      ∀ inside, event.section? = some inside → hold.isInside = !inside := by
  obtain ⟨call | call, answer⟩ := event
  · cases follows
    exact ⟨rfl, nofun⟩
  · have marked (mark : Bool) (same : call.section? = some mark) (was : hold.isInside = !mark) :
        ∀ inside, call.section? = some inside → hold.isInside = !inside := by
      intro inside set
      rw [same] at set
      cases set
      exact was
    cases hold with
    | outside =>
      cases call with
      | enter =>
        cases follows
        exact ⟨rfl, marked true rfl rfl⟩
      | leave => cases follows
      | _ =>
        cases follows
        exact ⟨rfl, nofun⟩
    | inside waited =>
      cases call with
      | enter => cases follows
      | leave =>
        cases follows
        exact ⟨rfl, marked false rfl rfl⟩
      | wait wait =>
        change (if _ then _ else _) = _ at follows
        split at follows <;> cases follows
        exact ⟨rfl, nofun⟩
      | log record =>
        cases follows
        exact ⟨rfl, nofun⟩

theorem latest_through (through : hold.through history = some held) :
    latest Event.section? hold.isInside history = held.isInside := by
  induction history generalizing hold with
  | nil =>
    cases through
    rfl
  | cons event rest ih =>
    rw [through_cons] at through
    obtain ⟨next, follows, others⟩ := Option.bind_eq_some_iff.mp through
    rw [latest_cons, ← (isInside_follow follows).1]
    exact ih others

def marks (count : Nat) : List Bool := (List.replicate count [true, false]).flatten

theorem marks_through (through : hold.through history = some outside) :
    ∃ count, history.filterMap Event.section? = (if hold.isInside then [false] else []) ++ marks count := by
  induction history generalizing hold with
  | nil =>
    cases through
    exact ⟨0, rfl⟩
  | cons event rest ih =>
    rw [through_cons] at through
    obtain ⟨next, follows, others⟩ := Option.bind_eq_some_iff.mp through
    obtain ⟨count, rest⟩ := ih others
    obtain ⟨after, before⟩ := isInside_follow follows
    cases mark : event.section? with
    | none =>
      rw [mark] at after
      rw [List.filterMap_cons_none mark, rest, after]
      exact ⟨count, rfl⟩
    | some inside =>
      rw [mark] at after
      rw [List.filterMap_cons_some mark, rest, after, before inside mark]
      cases inside with
      | true => exact ⟨count + 1, rfl⟩
      | false => exact ⟨count, rfl⟩

theorem through_body {already : Nat} {body : PinHistory E} (unmarked : ∀ event ∈ body, event.section? = none)
    (brief : already ≤ 70000) (through : (inside already).through body = some held) :
    already + waited body ≤ 70000 ∧ ∀ wait ∈ waits body, wait ∉ Wait.unhurried := by
  induction body generalizing already with
  | nil => exact ⟨brief, nofun⟩
  | cons event rest ih =>
    rw [through_cons] at through
    obtain ⟨next, follows, others⟩ := Option.bind_eq_some_iff.mp through
    obtain ⟨now, later⟩ := List.forall_mem_cons.mp unmarked
    obtain ⟨call | (wait | _ | _ | record), answer⟩ := event
    case own =>
      cases follows
      exact ih later brief others
    case ambient.wait =>
      change (if _ then _ else _) = _ at follows
      split at follows
      case isFalse => cases follows
      case isTrue allowed =>
        cases follows
        obtain ⟨total, free⟩ := ih later allowed.1 others
        refine ⟨?_, List.forall_mem_cons.mpr ⟨allowed.2, free⟩⟩
        rw [Nat.add_assoc] at total
        exact total
    case ambient.log =>
      cases follows
      exact ih later brief others
    all_goals cases now

theorem brief_of_through {past body later : PinHistory E}
    (through : hold.through (past ++ ⟨.ambient .enter, ()⟩ :: (body ++ ⟨.ambient .leave, ()⟩ :: later)) = some held)
    (unmarked : ∀ event ∈ body, event.section? = none) :
    waited body ≤ 70000 ∧ ∀ wait ∈ waits body, wait ∉ Wait.unhurried := by
  rw [through_append] at through
  obtain ⟨reached, -, through⟩ := Option.bind_eq_some_iff.mp through
  rw [through_cons] at through
  obtain ⟨entered, follows, through⟩ := Option.bind_eq_some_iff.mp through
  obtain rfl : entered = inside 0 := by
    cases reached <;> cases follows
    rfl
  rw [through_append] at through
  obtain ⟨_, within, -⟩ := Option.bind_eq_some_iff.mp through
  obtain ⟨brief, free⟩ := through_body unmarked (Nat.zero_le _) within
  rw [Nat.zero_add] at brief
  exact ⟨brief, free⟩

theorem through_onPin {before after : Direction} {segment : PinHistory E}
    {event : Event (BitInterface Presence (MasterError E)).surrounded} (made : OnPin before event segment after)
    (unmarked : event.section? = none) : outside.through segment = some outside := by
  obtain ⟨call | call, answer⟩ := event
  · cases BitCall.course_onPin made with
    | reset course => cases course <;> rfl
    | write course =>
      rename_i bit _
      cases bit <;> cases course <;> rfl
    | read course => cases course <;> rfl
  · obtain ⟨rfl, -⟩ := onPin_ambient made
    cases call with
    | enter => cases unmarked
    | leave => cases unmarked
    | _ => rfl

theorem through_stitched {before after : Direction} {history : PinHistory E}
    {events : List (Event (BitInterface Presence (MasterError E)).surrounded)}
    (stitched : Program.Stitched OnPin before events history after)
    (unmarked : ∀ event ∈ events, event.section? = none) : outside.through history = some outside := by
  induction stitched with
  | nil memory => rfl
  | cons head tail ih =>
    obtain ⟨first, others⟩ := List.forall_mem_cons.mp unmarked
    rw [through_append, through_onPin head first]
    exact ih others

theorem through_flatMap {α : Type} {segment : α → PinHistory E} {list : List α}
    (each : ∀ entry ∈ list, outside.through (segment entry) = some outside) :
    outside.through (list.flatMap segment) = some outside := by
  induction list with
  | nil => rfl
  | cons entry rest ih =>
    obtain ⟨first, others⟩ := List.forall_mem_cons.mp each
    rw [List.flatMap_cons, through_append, first]
    exact ih others

end Hold

section Check
variable {E : Type}

def Event.isSample : Event (PinInterface E).surrounded → Bool
  | ⟨.own .sample, _⟩ => true
  | _ => false

/-- What is critical in a reset behind some of its calls: that the line is let go, and the first sample. -/
def Event.isCritical (past : PinHistory E) : Event (PinInterface E).surrounded → Bool
  | ⟨.own .setInput, _⟩ => true
  | ⟨.own .sample, _⟩ => !past.any Event.isSample
  | _ => false

/-- Whether interrupts are held off from each event that needs it, by what came before. -/
def heldOff (needs : PinHistory E → Event (PinInterface E).surrounded → Bool) (past : PinHistory E) :
    PinHistory E → Bool
  | [] => true
  | event :: rest => (!needs past event || Watch.inSection past) && heldOff needs (past ++ [event]) rest

theorem inSection_of_heldOff {needs : PinHistory E → Event (PinInterface E).surrounded → Bool}
    {earlier past later : PinHistory E} {event : Event (PinInterface E).surrounded}
    (held : heldOff needs earlier (past ++ event :: later)) (needed : needs (earlier ++ past) event) :
    Watch.inSection (earlier ++ past) := by
  induction past generalizing earlier with
  | nil =>
    rw [List.append_nil] at needed ⊢
    have first := (Bool.and_eq_true_iff.mp held).1
    rwa [needed] at first
  | cons head past ih =>
    have rest := ih (Bool.and_eq_true_iff.mp held).2
    rw [List.append_assoc] at rest
    exact rest needed

/-- All that a slot does to the pin is done in a section, and in a reset all that is critical. -/
theorem BitCall.CourseOnPin.guarded {before after : Direction} {segment : PinHistory E} {call : BitCall}
    {answer : call.Answer Presence (MasterError E)} (course : call.CourseOnPin before segment after answer) :
    (call ≠ .reset → heldOff (fun _ event => event.isOwn) [] segment) ∧
      (call = .reset → heldOff (fun past event => event.isCritical past) [] segment) := by
  cases course with
  | reset course =>
    refine ⟨fun other => absurd rfl other, fun _ => ?_⟩
    cases course <;> rfl
  | write course =>
    refine ⟨fun _ => ?_, nofun⟩
    cases course <;> rfl
  | read course =>
    refine ⟨fun _ => ?_, nofun⟩
    cases course <;> rfl

end Check

theorem Halts.unmarked {I : Interface} {E : Type} [BusLike I E] {events : List (Event I.surrounded)}
    {stop : Option (BusError E)} (halts : Halts events stop) : ∀ event ∈ events, event.section? = none := by
  induction halts with
  | done => nofun
  | stopped failed => exact List.forall_mem_singleton.mpr (Event.section?_of_failed failed)
  | next _ unmarked _ ih => exact List.forall_mem_cons.mpr ⟨unmarked, ih⟩

/-- What a passage owes to critical sections, by the spans of its step and all that happened on the pin before. -/
structure Passage.Sectioned {E σ : Type} (passage : Passage E σ) (spans : List (Span E)) (ahead : PinHistory E) :
    Prop where
  history_eq : ∀ step, passage.step = .session step → passage.history = spans.flatMap Span.segment
  alternate : ∃ count, (ahead ++ passage.history).filterMap Event.section? = Hold.marks count
  closed : Watch.inSection (ahead ++ passage.history) = false
  brief : ∀ past body later,
    ahead ++ passage.history = past ++ ⟨.ambient .enter, ()⟩ :: (body ++ ⟨.ambient .leave, ()⟩ :: later) →
    (∀ event ∈ body, event.section? = none) → waited body ≤ 70000 ∧ ∀ wait ∈ waits body, wait ∉ Wait.unhurried
  slots : ∀ before call answer segment after past event later,
    spans = before ++ ⟨⟨.own call, answer⟩, segment⟩ :: after → call ≠ .reset → segment = past ++ event :: later →
    event.isOwn → Watch.inSection (ahead ++ (before.flatMap Span.segment ++ past))
  resets : ∀ before answer segment after past event later,
    spans = before ++ ⟨⟨.own .reset, answer⟩, segment⟩ :: after → segment = past ++ event :: later →
    event.isCritical past → Watch.inSection (ahead ++ (before.flatMap Span.segment ++ past))
  start : passage.step = .start → ∀ past event later, passage.history = past ++ event :: later →
    event.isCritical past → Watch.inSection (ahead ++ past)

section Run
variable {E σ : Type} (world : World (PinInterface E).surrounded σ)

namespace MasterStep

theorem onPin_of_mem_spans (step : MasterStep) (state : Rig × σ) {span : Span E}
    (member : span ∈ step.spans world state) :
    span.event.section? = none ∧ ∃ before after, OnPin before span.event span.segment after := by
  cases step with
  | session step =>
    have spanned := step.spanned world state
    obtain ⟨stop, halts, -⟩ := SessionStep.halts_byBits spanned.course
    exact ⟨halts.unmarked _ (List.mem_map_of_mem member), spanned.each span member⟩
  | _ => cases member

theorem CourseOnPin.through {step : MasterStep} {rig after : Rig} {history : PinHistory E}
    {outcome : Outcome Presence (MasterError E)} (course : step.CourseOnPin rig history outcome after) :
    Hold.outside.through history = some .outside := by
  cases course with
  | session made stitched =>
    obtain ⟨stop, halts, -⟩ := SessionStep.halts_byBits made
    exact Hold.through_stitched stitched halts.unmarked
  | unsettled settles => cases settles <;> rfl
  | started settles resets =>
    cases settles
    cases resets <;> rfl
  | release => rfl
  | output leads => rcases Wire.leads_output leads with ⟨error, rfl, -⟩ | ⟨rfl, -⟩ <;> rfl
  | input leads => rcases Wire.leads_input leads with ⟨error, rfl, -⟩ | ⟨rfl, -⟩ <;> rfl
  | drive leads => obtain ⟨-, ⟨-, answer, rfl, -⟩ | ⟨-, rfl, -⟩⟩ := Wire.leads_drive leads <;> rfl
  | sample leads => obtain ⟨-, ⟨-, answer, rfl, -⟩ | ⟨-, rfl, -⟩⟩ := Wire.leads_sample leads <;> rfl

theorem CourseOnPin.heldOff_start {rig after : Rig} {history : PinHistory E}
    {outcome : Outcome Presence (MasterError E)} (course : start.CourseOnPin rig history outcome after) :
    heldOff (fun past event => event.isCritical past) [] history := by
  cases course with
  | unsettled settles => cases settles <;> rfl
  | started settles resets =>
    cases settles
    cases resets <;> rfl

end MasterStep

theorem through_passages (steps : List MasterStep) (state : Rig × σ) :
    Hold.outside.through ((passages world steps state).flatMap Passage.history) = some .outside := by
  induction steps generalizing state with
  | nil => rfl
  | cons step rest ih =>
    have first : Hold.outside.through (step.pass world state).1.history = some .outside :=
      (step.course_pass world state).through
    rw [passages_cons, List.flatMap_cons, Hold.through_append, first]
    exact ih _

namespace MasterStep

theorem inSection_behind {ahead past : PinHistory E} (finished : Hold.outside.through ahead = some .outside) :
    Watch.inSection (ahead ++ past) = Watch.inSection past := by
  rw [Watch.inSection, latest_append]
  exact congrArg (latest Event.section? · past) (Hold.latest_through finished)

theorem sectioned_pass (step : MasterStep) (state : Rig × σ) {ahead : PinHistory E}
    (finished : Hold.outside.through ahead = some .outside) :
    (step.pass world state).1.Sectioned (step.spans world state) ahead := by
  have course := step.course_pass world state
  -- every call on the pin enters and leaves its sections itself: in front of each of them none is open
  have whole : Hold.outside.through (ahead ++ (step.pass world state).1.history) = some .outside := by
    rw [Hold.through_append, finished]
    exact course.through
  have within {before after : List (Span E)} {span : Span E} (split : step.spans world state = before ++ span :: after) :
      Hold.outside.through (ahead ++ before.flatMap Span.segment) = some .outside ∧
        ∃ one two, OnPin one span.event span.segment two := by
    have planned (other : Span E) (member : other ∈ before ++ span :: after) :
        other.event.section? = none ∧ ∃ one two, OnPin one other.event other.segment two := by
      rw [← split] at member
      exact step.onPin_of_mem_spans world state member
    have passed : ∀ other ∈ before, Hold.outside.through other.segment = some .outside := by
      intro other member
      obtain ⟨unmarked, one, two, made⟩ := planned other (List.mem_append_left _ member)
      exact Hold.through_onPin made unmarked
    refine ⟨?_, (planned span (List.mem_append_right _ (List.mem_cons_self ..))).2⟩
    rw [Hold.through_append, finished]
    exact Hold.through_flatMap passed
  constructor
  case history_eq =>
    rintro session ⟨⟩
    exact (session.spanned world state).history_eq
  case alternate =>
    exact Hold.marks_through whole
  case closed => exact Hold.latest_through whole
  case brief =>
    intro past body later split unmarked
    rw [split] at whole
    exact Hold.brief_of_through whole unmarked
  case slots =>
    intro before call answer segment after past event later split slot made own
    obtain ⟨finished, one, two, onPin⟩ := within split
    rw [← List.append_assoc, inSection_behind finished]
    have held := (BitCall.course_onPin onPin).guarded.1 slot
    rw [made] at held
    exact inSection_of_heldOff held own
  case resets =>
    intro before answer segment after past event later split made critical
    obtain ⟨finished, one, two, onPin⟩ := within split
    rw [← List.append_assoc, inSection_behind finished]
    have course : BitCall.reset.CourseOnPin one segment two answer := BitCall.course_onPin onPin
    have held := course.guarded.2 rfl
    rw [made] at held
    exact inSection_of_heldOff held critical
  case start =>
    rintro ⟨⟩ past event later made critical
    rw [inSection_behind finished]
    have held := course.heldOff_start
    rw [made] at held
    exact inSection_of_heldOff held critical

/-- Behind steps of any number and kind, whatever the pin answers, a step keeps to critical sections: they have been
entered and left by turns and none is open, none of them held more than 70 µs of waits or one of the long waits, and
all that a slot does to the pin, and in a reset the release and the first sample, was done in one. -/
theorem sectioned (earlier : List MasterStep) (step : MasterStep) (state : Rig × σ) :
    (step.pass world (reached world earlier state)).1.Sectioned (step.spans world (reached world earlier state))
      ((passages world earlier state).flatMap Passage.history) :=
  sectioned_pass world step _ (through_passages world earlier state)

end MasterStep

end Run
end Thermowire
