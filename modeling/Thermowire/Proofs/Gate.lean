import Thermowire.Proofs.Span
import Thermowire.Proofs.Wiring

/-! Resets as the gate to the bus. A reset is judged by its two samples alone. What addresses the devices
writes behind a reset that found one, and without such a reset it comes to nothing. -/
namespace Thermowire

section Judged
variable {E : Type}

def Event.sampled? : Event (PinInterface E).surrounded → Option Bool
  | ⟨.own .sample, .ok high⟩ => some high
  | _ => none

def sampled (history : PinHistory E) : List Bool := history.filterMap Event.sampled?

def Wire.pulse (high idle : Bool) : PinHistory E :=
  [⟨.own .setOutput, .ok ()⟩, ⟨.own (.drive false), .ok ()⟩, ⟨.ambient (.wait ⟨.micros, 480⟩), ()⟩,
    ⟨.ambient .enter, ()⟩, ⟨.own .setInput, .ok ()⟩, ⟨.ambient (.wait ⟨.micros, 70⟩), ()⟩,
    ⟨.own .sample, .ok high⟩, ⟨.ambient .leave, ()⟩, ⟨.ambient (.wait ⟨.micros, 410⟩), ()⟩,
    ⟨.own .sample, .ok idle⟩, ⟨.ambient (.log (.reset (!high) idle)), ()⟩]

def Wire.settled : PinHistory E :=
  [⟨.own .setOutput, .ok ()⟩, ⟨.own (.drive true), .ok ()⟩, ⟨.ambient (.wait Slot.settle), ()⟩]

/-- What a reset's answer, samples and record say of each other. When both samples were read, the history is that
of a whole reset behind what was done ahead of it. -/
structure Judged (ahead history : PinHistory E) (answer : Except (BusError (MasterError E)) Presence) : Prop where
  found : (∃ status, answer = .ok status) ↔
    (∀ event ∈ history, event.fault? = none) ∧ sampled history = [false, true]
  status : ∀ status, answer = .ok status →
    status.get .present = true ∧ status.get .shorted = false ∧ status.get .level = true
  shorted : answer = .error .shortCircuit ↔ ∃ high, sampled history = [high, false]
  absent : answer = .error .noDevice ↔ sampled history = [true, true]
  other : (∃ error, answer = .error (.other error)) ↔ ∀ high idle, sampled history ≠ [high, idle]
  logged : history.filterMap Event.record? =
    match sampled history with
    | [high, idle] => [.reset (!high) idle]
    | _ => []
  whole : ∀ high idle, sampled history = [high, idle] → history = ahead ++ Wire.pulse high idle

namespace Judged
variable {ahead history : PinHistory E}

theorem of_other (few : ∀ high idle, sampled history ≠ [high, idle])
    (unlogged : history.filterMap Event.record? = []) (error : MasterError E) :
    Judged ahead history (.error (.other error)) where
  found := ⟨nofun, fun found => absurd found.2 (few _ _)⟩
  status := nofun
  shorted := ⟨nofun, fun ⟨_, same⟩ => absurd same (few _ _)⟩
  absent := ⟨nofun, fun same => absurd same (few _ _)⟩
  other := ⟨fun _ => few, fun _ => ⟨error, rfl⟩⟩
  logged := by
    rw [unlogged]
    split
    case h_1 high idle same => exact absurd same (few high idle)
    case h_2 => rfl
  whole high idle same := absurd same (few high idle)

/-- What may be done ahead of a reset: no call fails, none samples, and nothing is logged. -/
structure Clear (ahead : PinHistory E) : Prop where
  sound : ∀ event ∈ ahead, event.fault? = none
  unread : sampled ahead = []
  unlogged : ahead.filterMap Event.record? = []

theorem clear_nil : Clear ([] : PinHistory E) := ⟨nofun, rfl, rfl⟩

theorem clear_settled : Clear (Wire.settled : PinHistory E) := by
  refine ⟨?_, rfl, rfl⟩
  simp only [Wire.settled, List.forall_mem_cons]
  exact ⟨rfl, rfl, rfl, nofun⟩

theorem sampled_behind (clear : Clear ahead) : sampled (ahead ++ history) = sampled history := by
  rw [sampled, List.filterMap_append, ← sampled, clear.unread]
  rfl

theorem logged_behind (clear : Clear ahead) :
    (ahead ++ history).filterMap Event.record? = history.filterMap Event.record? := by
  rw [List.filterMap_append, clear.unlogged]
  rfl

theorem of_pulse (clear : Clear ahead) (high idle : Bool) :
    Judged ahead (ahead ++ Wire.pulse high idle) (BusWire.verdict (.ok (!high, idle))) := by
  have read : sampled (ahead ++ Wire.pulse high idle) = [high, idle] := sampled_behind clear
  have sound : ∀ event ∈ ahead ++ Wire.pulse high idle, event.fault? = none := by
    rw [List.forall_mem_append]
    refine ⟨clear.sound, ?_⟩
    simp only [Wire.pulse, List.forall_mem_cons]
    exact ⟨rfl, rfl, rfl, rfl, rfl, rfl, rfl, rfl, rfl, rfl, rfl, nofun⟩
  constructor
  case found =>
    rw [read, and_iff_right sound]
    cases high <;> cases idle <;> simp [BusWire.verdict]
  case status =>
    rintro status same
    cases high <;> cases idle <;> cases same
    exact ⟨by decide, by decide, by decide⟩
  case shorted =>
    rw [read]
    cases high <;> cases idle <;> simp [BusWire.verdict]
  case absent =>
    rw [read]
    cases high <;> cases idle <;> simp [BusWire.verdict]
  case other =>
    rw [read]
    cases high <;> cases idle <;> simp [BusWire.verdict]
  case logged =>
    rw [read]
    exact logged_behind clear
  case whole =>
    intro first second same
    rw [read] at same
    cases same
    rfl

theorem of_reset (clear : Clear ahead) {before after : Direction}
    {pulse : Except (MasterError E) (Bool × Bool)} (course : Wire.ResetCourse before history pulse after) :
    Judged ahead (ahead ++ history) (BusWire.verdict pulse) := by
  cases course with
  | finished high idle => exact of_pulse clear high idle
  | _ =>
    refine of_other ?_ (logged_behind clear) _
    rw [sampled_behind clear]
    nofun

end Judged
end Judged

section Opening
variable {I : Interface} {S E μ : Type}

theorem Follows.opens [BusLike I E] {request : Surrounded I.Call} {mark : μ} {plan : List (Surrounded I.Call × μ)}
    {events : List (Event I.surrounded)} {stop : Option (BusError E × μ)}
    (follows : Follows ((request, mark) :: plan) events stop) :
    ∃ answer rest, events = ⟨request, answer⟩ :: rest ∧
      ∀ error, Event.failure? (I := I) ⟨request, answer⟩ = some error → rest = [] ∧ stop = some (error, mark) := by
  obtain ⟨answer, rest, rfl, ⟨given, failed, rfl, rfl⟩ | ⟨passed, -⟩⟩ := follows.of_planned
  · refine ⟨answer, [], rfl, fun error same => ⟨rfl, ?_⟩⟩
    rw [failed] at same
    cases same
    rfl
  · refine ⟨answer, rest, rfl, fun error failed => ?_⟩
    rw [passed] at failed
    cases failed

namespace Halts
variable [BusLike I E] {past later : List (Event I.surrounded)} {event : Event I.surrounded}
  {stop : Option (BusError E)}

theorem passed (halts : Halts (past ++ event :: later) stop) :
    (∀ other ∈ past, other.failure? = none) ∧ Halts (event :: later) stop := by
  induction past with
  | nil => exact ⟨nofun, halts⟩
  | cons first past ih =>
    rw [List.cons_append] at halts
    generalize same : past ++ event :: later = events at halts
    cases halts with
    | stopped failed => exact absurd same (List.append_ne_nil_of_right_ne_nil _ (List.cons_ne_nil _ _))
    | next passed _ rest =>
      rw [← same] at rest
      obtain ⟨before, behind⟩ := ih rest
      exact ⟨List.forall_mem_cons.mpr ⟨passed, before⟩, behind⟩

theorem last_of_failed {events : List (Event I.surrounded)} (halts : Halts events stop) (member : event ∈ events)
    {error : BusError E} (failed : event.failure? = some error) : ∃ past, events = past ++ [event] := by
  obtain ⟨past, later, rfl⟩ := List.append_of_mem member
  obtain ⟨rfl, -⟩ := halts.passed.2.eq_nil_of_failed failed
  exact ⟨past, rfl⟩

end Halts

def SessionStep.addresses : SessionStep → Bool
  | bus .addressAll => true
  | sensor _ => true
  | _ => false

def SensorStep.opening : SensorStep → Phase
  | convert => .convertReset
  | readScratchpad => .readReset
  | readTemperature => .convertReset

def Failure.isAbsent : Failure E → Bool
  | bus error => error.isAbsent
  | sensor error => error.isAbsent
  | hardware _ => false

variable {before after : Phase} {events : List (Event (BitInterface S E).surrounded)} {outcome : Outcome S E}

theorem SessionStep.opens {step : SessionStep}
    (course : (step.program.run before).byBits.Course events (outcome, after)) (addresses : step.addresses) :
    ∃ answer rest, calls events = ⟨.own .reset, answer⟩ :: rest ∧ ∀ error, answer = .error error →
      rest = [] ∧ outcome = .error (step.failure error) ∧ ∀ sensor, step = .sensor sensor → after = sensor.opening := by
  cases step with
  | bus step =>
    cases step with
    | addressAll =>
      obtain ⟨result, follows, rfl, -⟩ := BusStep.course_byBits course
      obtain ⟨answer, rest, opens, closed⟩ := Follows.opens follows
      refine ⟨answer, rest, opens, ?_⟩
      rintro error rfl
      obtain ⟨ended, stopped⟩ := closed error rfl
      cases result with
      | ok value => cases stopped
      | error given =>
        cases stopped
        exact ⟨ended, rfl, nofun⟩
    | _ => cases addresses
  | sensor step =>
    obtain ⟨result, ⟨stop, follows, ends⟩, rfl⟩ := SensorStep.course_byBits course
    have opening : ∃ plan, bitwise step.plan = (.own .reset, step.opening) :: plan := by
      cases step <;> exact ⟨_, rfl⟩
    obtain ⟨plan, opening⟩ := opening
    rw [opening] at follows
    obtain ⟨answer, rest, opens, closed⟩ := follows.opens
    refine ⟨answer, rest, opens, ?_⟩
    rintro error rfl
    obtain ⟨ended, rfl⟩ := closed error rfl
    cases ends
    refine ⟨ended, rfl, ?_⟩
    rintro _ ⟨⟩
    rfl
  | newSensor => cases addresses

theorem SessionStep.absent_iff {step : SessionStep} {failure : Failure E}
    (course : (step.program.run before).byBits.Course events (.error failure, after)) :
    failure.isAbsent ↔ ∃ event ∈ events, event.failure? = some .noDevice := by
  have among : (∃ event ∈ calls events, event.failure? = some .noDevice) ↔
      ∃ event ∈ events, event.failure? = some .noDevice := by
    constructor
    · rintro ⟨event, member, failed⟩
      exact ⟨event, (List.mem_filter.mp member).1, failed⟩
    · rintro ⟨⟨call | call, answer⟩, member, failed⟩
      · exact ⟨_, List.mem_filter.mpr ⟨member, rfl⟩, failed⟩
      · cases failed
  rw [← among]
  cases step with
  | bus step =>
    obtain ⟨result, follows, same, -⟩ := BusStep.course_byBits course
    cases result with
    | ok value => cases same
    | error error =>
      cases same
      constructor
      · intro absent
        cases error with
        | noDevice => exact follows.exists_failed rfl
        | _ => cases absent
      · rintro ⟨event, member, failed⟩
        obtain ⟨mark, same⟩ := follows.eq_some member failed
        cases same
        rfl
  | sensor step =>
    obtain ⟨result, keeps, same⟩ := SensorStep.course_byBits course
    cases result with
    | ok value => cases same
    | error error =>
      cases same
      exact keeps.absent_iff rfl
  | newSensor =>
    obtain ⟨-, same⟩ := course
    cases same

end Opening

theorem eq_error_of_failure {ε α : Type} {result : Except ε α} {error : ε} (failed : failureOf result = some error) :
    result = .error error := by
  cases result <;> cases failed
  rfl

section Span
variable {E α : Type} {history : PinHistory E} {spans : List (Span E)}

theorem Program.Spanned.judged {program : Program (BitInterface Presence (MasterError E)).surrounded α} {value : α}
    (spanned : program.Spanned history value spans) {answer : Except (BusError (MasterError E)) Presence}
    {segment : PinHistory E} (member : ⟨⟨.own .reset, answer⟩, segment⟩ ∈ spans) : Judged [] segment answer := by
  obtain ⟨before, after, made⟩ := spanned.each _ member
  have course : BitCall.reset.CourseOnPin before segment after answer := BitCall.course_onPin made
  cases course with
  | reset course => exact Judged.of_reset Judged.clear_nil course

/-- Only a reset fails for want of a device, and then it read high twice. -/
theorem Program.Spanned.of_absent {program : Program (BitInterface Presence (MasterError E)).surrounded α} {value : α}
    (spanned : program.Spanned history value spans)
    {event : Event (BitInterface Presence (MasterError E)).surrounded} {segment : PinHistory E}
    (member : ⟨event, segment⟩ ∈ spans) (failed : event.failure? = some .noDevice) :
    ∃ answer, event = ⟨.own .reset, answer⟩ ∧ sampled segment = [true, true] := by
  obtain ⟨before, after, made⟩ := spanned.each _ member
  obtain ⟨call | call, answer⟩ := event
  case ambient => cases failed
  have course : call.CourseOnPin before segment after answer := BitCall.course_onPin made
  cases course with
  | reset course =>
    have absent : BusWire.verdict _ = .error .noDevice := eq_error_of_failure failed
    exact ⟨_, rfl, (Judged.of_reset Judged.clear_nil course).absent.mp absent⟩
  | @write _ result _ => cases result <;> cases failed
  | @read result _ => cases result <;> cases failed

theorem exists_last {holds : α → Prop} {list : List α} (some : ∃ entry ∈ list, holds entry) :
    ∃ earlier entry between, list = earlier ++ entry :: between ∧ holds entry ∧
      ∀ other ∈ between, ¬ holds other := by
  induction list with
  | nil =>
    obtain ⟨_, member, -⟩ := some
    cases member
  | cons head tail ih =>
    by_cases later : ∃ entry ∈ tail, holds entry
    · obtain ⟨earlier, entry, between, rfl, good, none⟩ := ih later
      exact ⟨head :: earlier, entry, between, rfl, good, none⟩
    · obtain ⟨entry, member, good⟩ := some
      rcases List.mem_cons.mp member with rfl | within
      · exact ⟨[], entry, tail, rfl, good, fun other among holds => later ⟨other, among, holds⟩⟩
      · exact absurd ⟨entry, within, good⟩ later

namespace SessionStep
variable {step : SessionStep} {before after : Phase} {outcome : Outcome Presence (MasterError E)}

/-- Ahead of a slot that writes there is a reset, and the last one found a device. -/
theorem gate (spanned : (step.program.run before).byBits.Spanned history (outcome, after) spans)
    (addresses : step.addresses) {past later : List (Span E)} {bit : Bool}
    {answer : Except (BusError (MasterError E)) Unit} {segment : PinHistory E}
    (split : spans = past ++ ⟨⟨.own (.write bit), answer⟩, segment⟩ :: later) :
    ∃ earlier status between, past = earlier ++ ⟨⟨.own .reset, .ok status⟩, Wire.pulse false true⟩ :: between ∧
      ∀ span ∈ between, span.event.request ≠ .own .reset := by
  obtain ⟨first, rest, opens, -⟩ := opens spanned.course addresses
  obtain ⟨stop, halts, -⟩ := halts_byBits spanned.course
  have events : spans.map Span.event =
      past.map Span.event ++ ⟨.own (.write bit), answer⟩ :: later.map Span.event := by
    rw [split, List.map_append, List.map_cons]
  rw [events] at opens halts
  rw [calls_append] at opens
  -- the first call of the step is a reset, and the slot is not
  have found : ∃ span ∈ past, span.event.request = .own .reset := by
    cases begun : calls (past.map Span.event) with
    | nil =>
      rw [begun] at opens
      cases opens
    | cons head tail =>
      rw [begun] at opens
      obtain ⟨rfl, -⟩ := List.cons.inj opens
      have among := (List.mem_filter.mp (begun ▸ List.mem_cons_self ..)).1
      obtain ⟨span, member, same⟩ := List.mem_map.mp among
      exact ⟨span, member, congrArg Event.request same⟩
  obtain ⟨earlier, ⟨⟨request, given⟩, part⟩, between, rfl, reset, none⟩ := exists_last found
  obtain rfl : request = .own .reset := reset
  have passed := halts.passed.1 ⟨.own .reset, given⟩ (by simp)
  have judged : Judged [] part given := spanned.judged (by simp [split])
  cases given with
  | error error => cases passed
  | ok status =>
    have read := (judged.found.mp ⟨status, rfl⟩).2
    obtain rfl := judged.whole _ _ read
    exact ⟨earlier, status, between, rfl, none⟩

theorem absent_span {failure : Failure (MasterError E)}
    (spanned : (step.program.run before).byBits.Spanned history (outcome, after) spans)
    (broken : outcome = .error failure) :
    failure.isAbsent ↔ ∃ past answer segment, spans = past ++ [⟨⟨.own .reset, answer⟩, segment⟩] ∧
      sampled segment = [true, true] := by
  subst broken
  rw [absent_iff spanned.course]
  constructor
  · rintro ⟨event, member, failed⟩
    obtain ⟨stop, halts, -⟩ := halts_byBits spanned.course
    obtain ⟨ahead, split⟩ := halts.last_of_failed member failed
    obtain ⟨past, last, rfl, -, ends⟩ := List.map_eq_append_iff.mp split
    obtain ⟨⟨event, segment⟩, _, rfl, rfl, none⟩ := List.map_eq_cons_iff.mp ends
    obtain rfl := List.map_eq_nil_iff.mp none
    obtain ⟨answer, rfl, read⟩ := spanned.of_absent (List.mem_append_right past (List.mem_singleton_self _)) failed
    exact ⟨past, answer, segment, rfl, read⟩
  · rintro ⟨past, answer, segment, rfl, read⟩
    have member := List.mem_append_right past (List.mem_singleton_self (⟨⟨.own .reset, answer⟩, segment⟩ : Span E))
    have failed := (spanned.judged member).absent.mpr read
    exact ⟨_, List.mem_map_of_mem member, congrArg failureOf failed⟩

theorem stuck (spanned : (step.program.run before).byBits.Spanned history (outcome, after) spans)
    (addresses : step.addresses) {level : Bool} (steady : ∀ other ∈ sampled history, other = level) :
    ∃ error, outcome = .error (step.failure error) ∧
      calls (spans.map Span.event) = [⟨.own .reset, .error error⟩] ∧
      ∀ sensor, step = .sensor sensor → after = sensor.opening := by
  obtain ⟨answer, rest, opens, closed⟩ := opens spanned.course addresses
  cases answer with
  | error error =>
    obtain ⟨rfl, failed, left⟩ := closed error rfl
    exact ⟨error, failed, opens, left⟩
  | ok status =>
    have among := (List.mem_filter.mp (opens ▸ List.mem_cons_self ..)).1
    obtain ⟨⟨event, segment⟩, member, rfl⟩ := List.mem_map.mp among
    have read := ((spanned.judged member).found.mp ⟨status, rfl⟩).2
    have within : ∀ other ∈ sampled segment, other = level := by
      intro other sample
      obtain ⟨event, made, same⟩ := List.mem_filterMap.mp sample
      refine steady other (List.mem_filterMap.mpr ⟨event, ?_, same⟩)
      rw [spanned.history_eq]
      exact List.mem_flatMap_of_mem member made
    rw [read] at within
    have low := within false (by simp)
    have high := within true (by simp)
    rw [← low] at high
    cases high

end SessionStep
end Span

section Run
variable {E σ : Type} (world : World (PinInterface E).surrounded σ)

namespace MasterStep

theorem spans_reset (state : Rig × σ) :
    let passage := ((session (.bus .reset)).pass world state).1
    ∃ answer, (session (.bus .reset)).spans world state = [⟨⟨.own .reset, answer⟩, passage.history⟩] ∧
      passage.outcome = (Value.status <$> answer).mapError .bus := by
  intro passage
  obtain ⟨same, course, -⟩ := SessionStep.spanned world (.bus .reset) state
  obtain ⟨answer, rest, events, ends⟩ := course
  have ends : rest = [] ∧ passage.outcome = (Value.status <$> answer).mapError .bus := by
    cases answer <;> exact ⟨ends.1, congrArg Prod.fst ends.2⟩
  obtain ⟨rfl, given⟩ := ends
  obtain ⟨⟨_, segment⟩, _, alone, rfl, none⟩ := List.map_eq_cons_iff.mp events
  obtain rfl := List.map_eq_nil_iff.mp none
  rw [alone, List.flatMap_singleton] at same
  exact ⟨answer, by rw [alone, same], given⟩

theorem judged_start (state : Rig × σ) :
    let passage := (start.pass world state).1
    ∃ answer, Judged Wire.settled passage.history answer ∧
      passage.outcome = (Value.status <$> answer).mapError .bus := by
  intro passage
  have course := course_pass world start state
  change start.CourseOnPin state.1 passage.history passage.outcome passage.after.1 at course
  generalize passage.history = history, passage.outcome = outcome, passage.after.1 = after at course
  cases course with
  | unsettled settles =>
    refine ⟨.error (.other _), Judged.of_other ?_ ?_ _, rfl⟩
    · cases settles <;> nofun
    · cases settles <;> rfl
  | started settles resets =>
    cases settles
    exact ⟨_, Judged.of_reset Judged.clear_settled resets, rfl⟩

end MasterStep

/-- What a passage owes to its resets, by the spans of its step. -/
structure Passage.Gated (passage : Passage E σ) (spans : List (Span E)) : Prop where
  history_eq : ∀ step, passage.step = .session step → passage.history = spans.flatMap Span.segment
  judged : ∀ answer segment, ⟨⟨.own .reset, answer⟩, segment⟩ ∈ spans → Judged [] segment answer
  reset : passage.step = .session (.bus .reset) →
    ∃ answer, spans = [⟨⟨.own .reset, answer⟩, passage.history⟩] ∧
      passage.outcome = (Value.status <$> answer).mapError .bus
  start : passage.step = .start →
    ∃ answer, Judged Wire.settled passage.history answer ∧ passage.outcome = (Value.status <$> answer).mapError .bus
  gate : ∀ step, passage.step = .session step → step.addresses →
    ∀ past bit answer segment later, spans = past ++ ⟨⟨.own (.write bit), answer⟩, segment⟩ :: later →
      ∃ earlier status between,
        past = earlier ++ ⟨⟨.own .reset, .ok status⟩, Wire.pulse false true⟩ :: between ∧
          ∀ span ∈ between, span.event.request ≠ .own .reset
  absent : ∀ step, passage.step = .session step → ∀ failure, passage.outcome = .error failure →
    (failure.isAbsent ↔ ∃ past answer segment, spans = past ++ [⟨⟨.own .reset, answer⟩, segment⟩] ∧
      sampled segment = [true, true])
  stuck : ∀ step, passage.step = .session step → step.addresses →
    ∀ level, (∀ other ∈ sampled passage.history, other = level) →
      ∃ error, passage.outcome = .error (step.failure error) ∧
        calls (spans.map Span.event) = [⟨.own .reset, .error error⟩] ∧
        ∀ sensor, step = .sensor sensor → passage.after.1.phase = sensor.opening

theorem MasterStep.gated_pass (step : MasterStep) (state : Rig × σ) :
    (step.pass world state).1.Gated (step.spans world state) where
  history_eq := by
    rintro session ⟨⟩
    exact (session.spanned world state).history_eq
  judged := by
    intro answer segment member
    cases step with
    | session session => exact (session.spanned world state).judged member
    | _ => cases member
  reset := by
    rintro ⟨⟩
    exact spans_reset world state
  start := by
    rintro ⟨⟩
    exact judged_start world state
  gate := by
    rintro session ⟨⟩ addresses past bit answer segment later split
    exact SessionStep.gate (session.spanned world state) addresses split
  absent := by
    rintro session ⟨⟩ failure failed
    exact SessionStep.absent_span (session.spanned world state) failed
  stuck := by
    rintro session ⟨⟩ addresses level steady
    exact SessionStep.stuck (session.spanned world state) addresses steady

/-- Behind steps of any number and kind, whatever the pin answers, every reset is judged by its two samples, every
slot that writes to addressed devices has the last reset ahead of it find one, and where the line never changes no
step that addresses the devices comes any further than its first reset. -/
theorem MasterStep.gated (earlier : List MasterStep) (step : MasterStep) (state : Rig × σ) :
    (step.pass world (reached world earlier state)).1.Gated (step.spans world (reached world earlier state)) :=
  gated_pass world step _

end Run

end Thermowire
