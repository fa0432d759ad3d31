import Thermowire.Proofs.Misuse
import Thermowire.Proofs.Waits
import Thermowire.Proofs.Waveform

/-! What is recorded on the simulated line. As long as nobody but the master uses its pin and waits on its clock, each of
its calls is one beat of a waveform that begins where the last one ended. Main statement: the events of any steps, from
a line at its beginning, are such a waveform, and the clock is the time that its beats take. -/
namespace Thermowire

def Event.beat? {S E : Type} : Event (BitInterface S E).surrounded → Option Beat
  | ⟨.own call, _⟩ => some (.pulse call)
  | ⟨.ambient (.wait _), _⟩ => some .rest
  | _ => none

def Event.seen? {E : Type} : Event (PinInterface E).surrounded → Option PinEvent
  | ⟨.own .setOutput, .ok _⟩ => some .output
  | ⟨.own .setInput, .ok _⟩ => some .input
  | ⟨.own (.drive high), .ok _⟩ => some (.drive high)
  | ⟨.own .sample, .ok high⟩ => some (.sample high)
  | _ => none

def seen {E : Type} (now : Nat) : PinHistory E → List (Nat × PinEvent)
  | [] => []
  | event :: rest => (event.seen?.map (now / 1000, ·)).toList ++ seen (now + waited [event]) rest

section Seen
variable {E : Type} {micros : Nat} {rest : PinHistory E} {event : Event (PinInterface E).surrounded}

theorem seen_of_some {noted : PinEvent} (shown : event.seen? = some noted) (instant : waited [event] = 0) :
    seen (1000 * micros) (event :: rest) = (micros, noted) :: seen (1000 * micros) rest := by
  rw [seen, shown, instant, Nat.add_zero, Option.map_some, Nat.mul_div_cancel_left micros (by decide)]
  rfl

theorem seen_of_none (hidden : event.seen? = none) (instant : waited [event] = 0) :
    seen (1000 * micros) (event :: rest) = seen (1000 * micros) rest := by
  rw [seen, hidden, instant, Nat.add_zero]
  rfl

-- None of these holds by `rfl` alone: the kernel would count a time out that has a number in it.
@[simp] theorem seen_nil : seen (1000 * micros) ([] : PinHistory E) = [] := by rw [seen]

@[simp] theorem seen_setOutput : seen (1000 * micros) (⟨(.own .setOutput : Surrounded PinCall), .ok ()⟩ :: rest) =
    (micros, .output) :: seen (1000 * micros) rest := seen_of_some rfl rfl

@[simp] theorem seen_setInput : seen (1000 * micros) (⟨(.own .setInput : Surrounded PinCall), .ok ()⟩ :: rest) =
    (micros, .input) :: seen (1000 * micros) rest := seen_of_some rfl rfl

@[simp] theorem seen_drive {high : Bool} :
    seen (1000 * micros) (⟨(.own (.drive high) : Surrounded PinCall), .ok ()⟩ :: rest) =
      (micros, .drive high) :: seen (1000 * micros) rest := seen_of_some rfl rfl

@[simp] theorem seen_sample {high : Bool} :
    seen (1000 * micros) (⟨(.own .sample : Surrounded PinCall), .ok high⟩ :: rest) =
      (micros, .sample high) :: seen (1000 * micros) rest := seen_of_some rfl rfl

@[simp] theorem seen_slot {slot : Slot} :
    seen (1000 * micros) (⟨(.ambient (.wait slot.wait) : Surrounded PinCall), ()⟩ :: rest) =
      seen (1000 * (micros + slot.micros.toNat)) rest := by
  have spent : waited (I := PinInterface E) [⟨(.ambient (.wait slot.wait) : Surrounded PinCall), ()⟩] =
      1000 * slot.micros.toNat := (Nat.add_zero _).trans (Nat.mul_comm slot.micros.toNat 1000)
  rw [seen, spent, ← Nat.mul_add]
  rfl

@[simp] theorem seen_enter : seen (1000 * micros) (⟨(.ambient .enter : Surrounded PinCall), ()⟩ :: rest) =
    seen (1000 * micros) rest := seen_of_none rfl rfl

@[simp] theorem seen_leave : seen (1000 * micros) (⟨(.ambient .leave : Surrounded PinCall), ()⟩ :: rest) =
    seen (1000 * micros) rest := seen_of_none rfl rfl

@[simp] theorem seen_log {record : Record} :
    seen (1000 * micros) (⟨(.ambient (.log record) : Surrounded PinCall), ()⟩ :: rest) =
      seen (1000 * micros) rest := seen_of_none rfl rfl

end Seen

section Beats
variable {S E : Type} {history : List (Event (BitInterface S E).surrounded)}

theorem count_rest : (history.filterMap Event.beat?).count .rest = (waits history).length := by
  induction history with
  | nil => rfl
  | cons event rest ih =>
    obtain ⟨_ | (_ | _ | _ | _), answer⟩ := event
    case ambient.wait => exact (List.count_cons_self ..).trans (congrArg (· + 1) ih)
    case own => exact (List.count_cons_of_ne (by simp) ..).trans ih
    all_goals exact ih

theorem count_settle : (history.filterMap Event.beat?).count .settle = 0 := by
  refine List.count_eq_zero.mpr fun member => ?_
  obtain ⟨⟨_ | (_ | _ | _ | _), answer⟩, -, same⟩ := List.mem_filterMap.mp member <;> cases same

end Beats

namespace Line
variable {line middle last : Line} {before after : Direction} {history : PinHistory Misuse}

theorem pin_seen (request : Surrounded PinCall) (line : Line) :
    let event : Event (PinInterface Misuse).surrounded := ⟨request, (Line.pin request line).1⟩
    (Line.pin request line).2.trail = (event.seen?.map (line.now / 1000, ·)).toList.reverse ++ line.trail ∧
      (Line.pin request line).2.now = line.now + waited [event] := by
  rcases request with (_ | _ | high | _) | (_ | _ | _ | _)
  case own.drive =>
    rw [pin_drive]
    cases line.output with
    | true => cases high <;> exact ⟨rfl, rfl⟩
    | false => exact ⟨rfl, rfl⟩
  case own.sample =>
    rw [pin_sample]
    cases line.output <;> exact ⟨rfl, rfl⟩
  all_goals exact ⟨rfl, rfl⟩

theorem trail_of_carries (carries : Carries Line.pin line history last) :
    last.trail = (seen line.now history).reverse ++ line.trail := by
  induction history generalizing line with
  | nil =>
    obtain rfl : last = line := carries
    rfl
  | cons event rest ih =>
    obtain ⟨request, answer⟩ := event
    obtain ⟨given, carries⟩ := carries
    obtain rfl : answer = (Line.pin request line).1 := given
    obtain ⟨noted, spent⟩ := pin_seen request line
    rw [ih carries, noted, spent, seen, List.reverse_append, List.append_assoc]

/-- The line is let go, so many microseconds from its beginning. -/
structure At (line : Line) (micros : Nat) : Prop where
  now : line.now = 1000 * micros
  released : line.low = false

/-- From one line to another the beats are played and recorded. -/
def Plays (line : Line) (beats : List Beat) (last : Line) : Prop :=
  ∀ start, line.At start → ∃ events stop, Waveform start beats events stop ∧
    last.trail = events.reverse ++ line.trail ∧ last.At stop

theorem Plays.silent (trail : last.trail = line.trail) (now : last.now = line.now) (low : last.low = line.low) :
    line.Plays [] last := fun start begins =>
  ⟨[], start, .nil start, trail, now.trans begins.now, low.trans begins.released⟩

theorem Plays.append {beats others : List Beat} (first : line.Plays beats middle) (second : middle.Plays others last) :
    line.Plays (beats ++ others) last := by
  intro start begins
  obtain ⟨events, between, one, recorded, next⟩ := first start begins
  obtain ⟨more, stop, two, noted, ends⟩ := second between next
  refine ⟨events ++ more, stop, one.append two, ?_, ends⟩
  rw [noted, recorded, List.reverse_append, List.append_assoc]

theorem Plays.of_shows {beat : Beat} (carries : Carries Line.pin line history last)
    (shows : ∀ start, beat.Shows start (seen (1000 * start) history))
    (ends : line.low = false → last.low = false ∧ last.now = line.now + 1000 * beat.time) :
    line.Plays [beat] last := by
  intro start begins
  obtain ⟨released, now⟩ := ends begins.released
  have trail := trail_of_carries carries
  rw [begins.now] at trail now
  refine ⟨seen (1000 * start) history ++ [], _, .cons (shows start) (.nil _), ?_, ?_, released⟩
  · rwa [List.append_nil]
  · rw [now, Nat.mul_add]

theorem plays_settle {result : Except (MasterError Misuse) Unit} (course : Wire.SettleCourse before history result after)
    (carries : Carries Line.pin line history last) : line.Plays [.settle] last ∧ result = .ok () := by
  cases course with
  | unset error => cases carries.1
  | undriven error => cases carries.2.1
  | finished =>
    refine ⟨.of_shows carries (fun start => ?_) fun _ => ?_, rfl⟩
    · rw [seen_setOutput, seen_drive]
      exact .settle
    · obtain ⟨-, -, -, rfl⟩ := carries
      exact ⟨rfl, rfl⟩

theorem plays_reset {pulse : Except (MasterError Misuse) (Bool × Bool)}
    (course : Wire.ResetCourse before history pulse after) (carries : Carries Line.pin line history last) :
    line.Plays [.pulse .reset] last := by
  refine .of_shows carries (fun start => ?_) fun released => ?_
  · -- the line refuses nothing that the master does here, so only the finished course is left
    cases course with
    | unset error => cases carries.1
    | undriven error => cases carries.2.1
    | unreleased error => cases carries.2.2.2.2.1
    | unsampled error => cases carries.2.2.2.2.2.2.1
    | unrecovered high error => cases carries.2.2.2.2.2.2.2.2.2.1
    | finished high idle =>
      simp only [seen_setOutput, seen_drive, seen_slot, seen_enter, seen_setInput, seen_sample, seen_leave, seen_log,
        seen_nil, Nat.add_assoc]
      exact .pulse .reset [high, idle] rfl
  · have timely : line.Timely := by
      rw [Timely, released]
      nofun
    obtain ⟨-, rests⟩ := carries_reset timely course carries
    have now : last.now = line.now + 960000 := rests.now.trans (by omega)
    exact ⟨rests.released, now⟩

theorem plays_write {bit : Bool} {result : Except (MasterError Misuse) Unit}
    (course : Wire.WriteCourse bit before history result after) (carries : Carries Line.pin line history last) :
    line.Plays [.pulse (.write bit)] last := by
  refine .of_shows carries (fun start => ?_) fun released => ?_
  · cases course with
    | unset error => cases carries.2.1
    | undriven error => cases carries.2.2.1
    | unreleased error => cases carries.2.2.2.2.1
    | finished =>
      have time : (Slot.writeLow bit).micros.toNat = (BitCall.write bit).low := by cases bit <;> rfl
      simp only [seen_enter, seen_setOutput, seen_drive, seen_slot, seen_leave, seen_nil, time]
      exact .pulse (.write bit) [] rfl
  · have time : writeTime bit = 1000 * (Beat.pulse (.write bit)).time := by cases bit <;> rfl
    obtain ⟨-, rests⟩ := carries_write released course carries
    refine ⟨rests.released, ?_⟩
    rw [rests.now, time]

theorem plays_read {result : Except (MasterError Misuse) Bool} (course : Wire.ReadCourse before history result after)
    (carries : Carries Line.pin line history last) : line.Plays [.pulse .read] last := by
  refine .of_shows carries (fun start => ?_) fun released => ?_
  · cases course with
    | unset error => cases carries.2.1
    | undriven error => cases carries.2.2.1
    | unreleased error => cases carries.2.2.2.2.1
    | unsampled error => cases carries.2.2.2.2.2.2.1
    | finished bit =>
      simp only [seen_enter, seen_setOutput, seen_drive, seen_slot, seen_setInput, seen_sample, seen_leave, seen_nil,
        Nat.add_assoc]
      exact .pulse .read [bit] rfl
  · obtain ⟨-, rests⟩ := carries_read released course carries
    exact ⟨rests.released, rests.now⟩

theorem plays_started {rig left : Rig} {outcome : Outcome Presence (MasterError Misuse)}
    (course : MasterStep.CourseOnPin rig .start history outcome left) (carries : Carries Line.pin line history last) :
    line.Plays [.settle, .pulse .reset] last := by
  cases course with
  | unsettled settles => cases (plays_settle settles carries).2
  | started settles resets =>
    obtain ⟨middle, settling, resetting⟩ := carries_append.mp carries
    exact (plays_settle settles settling).1.append (plays_reset resets resetting)

/-- What the bus does for a call is the beat of the call, and a session waits for nothing but a conversion. -/
theorem plays_bus (request : (BitInterface Presence (MasterError Misuse)).surrounded.Call)
    (answer : (BitInterface Presence (MasterError Misuse)).surrounded.Answer request) (direction : Direction)
    (line : Line) (patient : ∀ wait, request = .ambient (.wait wait) → wait = Session.conversionTime) :
    line.Plays ([⟨request, answer⟩].filterMap Event.beat?) (bus request (direction, line)).2.2 := by
  rcases request with call | (wait | _ | _ | _)
  case own =>
    obtain ⟨history, given, left, last, same, course, carries⟩ := bus_own call direction line
    rw [same]
    cases course with
    | reset course => exact plays_reset course carries
    | write course => exact plays_write course carries
    | read course => exact plays_read course carries
  case ambient.wait =>
    obtain rfl := patient wait rfl
    have carries : Carries Line.pin line [⟨.ambient (.wait Session.conversionTime), ()⟩]
        (line.elapse Session.conversionTime) := ⟨rfl, rfl⟩
    have time : Session.conversionTime.nanoseconds = 1000 * Beat.rest.time := by decide
    refine .of_shows carries (fun start => .rest) fun released => ⟨released, ?_⟩
    change line.now + Session.conversionTime.nanoseconds = _
    rw [time]
  all_goals exact .silent rfl rfl rfl

theorem plays_carries {state last : Direction × Line}
    {history : List (Event (BitInterface Presence (MasterError Misuse)).surrounded)}
    (carries : Carries bus state history last) (patient : ∀ wait ∈ waits history, wait = Session.conversionTime) :
    state.2.Plays (history.filterMap Event.beat?) last.2 := by
  induction history generalizing state with
  | nil =>
    obtain rfl : last = state := carries
    exact .silent rfl rfl rfl
  | cons event rest ih =>
    obtain ⟨-, carries⟩ := carries
    have ahead : waits (event :: rest) = waits [event] ++ waits rest := waits_append [event] rest
    have played : (event :: rest).filterMap Event.beat? = [event].filterMap Event.beat? ++ rest.filterMap Event.beat? :=
      List.filterMap_append (l := [event])
    rw [ahead] at patient
    rw [played]
    have first : ∀ wait, event.request = .ambient (.wait wait) → wait = Session.conversionTime := by
      intro wait same
      obtain ⟨request, answer⟩ := event
      obtain rfl : request = .ambient (.wait wait) := same
      exact patient wait (List.mem_append_left _ (List.mem_singleton_self wait))
    have others := ih carries fun wait member => patient wait (List.mem_append_right _ member)
    exact (plays_bus event.request event.answer state.1 state.2 first).append others

def Step.keepsTime : Step → Bool
  | wait _ => false
  | step => step.isPublic

def Step.beats : Step → Rig × Line → List Beat
  | master (.session step), (rig, line) =>
    ((step.program.run rig.phase).byBits.run bus (rig.direction, line)).history.filterMap Event.beat?
  | master .start, _ => [.settle, .pulse .reset]
  | _, _ => []

def beats : List Step → Rig × Line → List Beat
  | [], _ => []
  | step :: steps, state => step.beats state ++ beats steps (perform step state).2

def Step.converts : Step → Report → Bool
  | master (.session step), report => step.converts report.outcome report.rig.phase
  | _, _ => false

def conversions (steps : List Step) (state : Rig × Line) : Nat :=
  (steps.zip (reports perform steps state)).countP fun (step, report) => step.converts report

theorem waits_session (step : SessionStep) (rig : Rig) (line : Line) :
    waits ((step.program.run rig.phase).byBits.run bus (rig.direction, line)).history =
      if (Step.master (.session step)).converts (perform (.master (.session step)) (rig, line)).1 then
        [Session.conversionTime]
      else [] := by
  obtain ⟨outcome, state⟩ := perform_session step rig line
  have phase := congrArg (fun state => state.1.phase) state
  have course := Program.course_run (step.program.run rig.phase).byBits bus (rig.direction, line)
  rw [SessionStep.waits_eq course, ← outcome]
  exact congrArg (fun phase => if step.converts _ phase then _ else _) phase.symm

theorem plays_perform (step : Step) (state : Rig × Line) (keeps : step.keepsTime) :
    state.2.Plays (step.beats state) (perform step state).2.2 := by
  obtain ⟨rig, line⟩ := state
  cases step with
  | master step =>
    cases step with
    | session step =>
      obtain ⟨-, state⟩ := perform_session step rig line
      rw [state]
      refine plays_carries (Program.carries_run _ bus (rig.direction, line)) ?_
      rw [waits_session]
      split
      · exact fun wait member => List.mem_singleton.mp member
      · nofun
    | start => exact plays_started (course_perform .start rig line) (carries_perform .start rig line)
    | release => exact .silent rfl rfl rfl
    | output => cases keeps
    | input => cases keeps
    | drive high => cases keeps
    | sample => cases keeps
  | pin call => cases keeps
  | wait wait => cases keeps
  | _ => exact .silent rfl rfl rfl

theorem plays_steps (steps : List Step) (state : Rig × Line) (keep : ∀ step ∈ steps, step.keepsTime) :
    state.2.Plays (beats steps state) (Line.after steps state).2 := by
  induction steps generalizing state with
  | nil => exact .silent rfl rfl rfl
  | cons step steps ih =>
    have first := plays_perform step state (keep step (List.mem_cons_self ..))
    exact first.append (ih _ fun later member => keep later (List.mem_cons_of_mem _ member))

theorem Step.count_settle (step : Step) (state : Rig × Line) :
    (step.beats state).count .settle = [step].count (.master .start) := by
  obtain ⟨rig, line⟩ := state
  cases step with
  | master step => cases step <;> simp [Step.beats, Thermowire.count_settle]
  | _ => simp [Step.beats]

theorem Step.count_rest (step : Step) (state : Rig × Line) :
    (step.beats state).count .rest = if step.converts (perform step state).1 then 1 else 0 := by
  obtain ⟨rig, line⟩ := state
  cases step with
  | master step =>
    cases step with
    | session step =>
      rw [Step.beats, Thermowire.count_rest, waits_session]
      split <;> rfl
    | _ => rfl
  | _ => rfl

theorem count_beats (steps : List Step) (state : Rig × Line) :
    (beats steps state).count .settle = steps.count (.master .start) ∧
      (beats steps state).count .rest = conversions steps state := by
  induction steps generalizing state with
  | nil => exact ⟨rfl, rfl⟩
  | cons step steps ih =>
    obtain ⟨settled, rested⟩ := ih (perform step state).2
    constructor
    · rw [beats, List.count_append, settled, step.count_settle, ← List.count_append]
      rfl
    · rw [beats, List.count_append, rested, step.count_rest, conversions, conversions, reports_cons,
        List.zip_cons_cons, List.countP_cons, Nat.add_comm]

/-- What steps owe to time: the line records a waveform of the resets and slots that they make, and its clock, in
nanoseconds, goes on with these, with bringing the line up and with the conversions that are completed. -/
structure Recorded (steps : List Step) (state : Rig × Line) : Prop where
  conforms : Conforms (pulses (beats steps state)) (Line.after steps state).2.trail.reverse
  clock :
    let calls := pulses (beats steps state)
    (Line.after steps state).2.now =
      1000 * (960 * calls.count .reset + 60 * calls.count (.write true) + 65 * calls.count (.write false) +
        60 * calls.count .read + 100000 * steps.count (.master .start) + 750000 * conversions steps state)

/-- On a line at its beginning, whatever its device is and has to send, and whatever becomes of the device between the
steps, steps that leave the pin and the clock to the master are recorded as they should be. -/
theorem recorded_steps (steps : List Step) (rig : Rig) (device : Device) (keep : ∀ step ∈ steps, step.keepsTime) :
    Recorded steps (rig, { device }) := by
  have begins : Line.At { device } 0 := ⟨rfl, rfl⟩
  obtain ⟨events, stop, waveform, trail, ends⟩ := plays_steps steps (rig, { device }) keep 0 begins
  obtain ⟨settled, rested⟩ := count_beats steps (rig, { device })
  constructor
  case conforms =>
    rw [trail, List.append_nil, List.reverse_reverse]
    exact waveform.conforms
  case clock => rw [ends.now, waveform.stop_eq, Nat.zero_add, duration_eq, settled, rested]

/-- A conversion, and a cycle that is cut short because the device is gone by then, with a slot of each kind behind it. -/
theorem recorded_steps_cut_short :
    let steps : List Step := [.master .start, .master (.session (.sensor .convert)), .present false,
      .master (.session (.sensor .readTemperature)), .master (.session (.bus (.writeBit false))),
      .master (.session (.bus .readBit))]
    let state : Rig × Line := ({}, { device := { present := true } })
    let calls := .reset :: .reset :: (bits Command.skipRom ++ bits Command.convert).map BitCall.write ++
      [.reset, .write false, .read]
    (∀ step ∈ steps, step.keepsTime) ∧ Conforms calls (Line.after steps state).2.trail.reverse ∧
      (Line.after steps state).2.now = 854015000 := by
  intro steps state calls
  have keep : ∀ step ∈ steps, step.keepsTime := by decide
  have made : pulses (beats steps state) = calls := by decide +kernel
  have converted : conversions steps state = 1 := by decide +kernel
  obtain ⟨conforms, clock⟩ : Recorded steps state := recorded_steps steps {} { present := true } keep
  rw [made] at conforms
  dsimp only at clock
  rw [made, converted] at clock
  have total : 1000 * (960 * calls.count .reset + 60 * calls.count (.write true) + 65 * calls.count (.write false) +
      60 * calls.count .read + 100000 * steps.count (.master .start) + 750000 * 1) = 854015000 := by decide +kernel
  exact ⟨keep, conforms, clock.trans total⟩

end Line
end Thermowire
