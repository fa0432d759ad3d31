import Thermowire.Bus
import Thermowire.Line

/-! The waveform of a 1-Wire bus. A waveform is a row of beats, each of which shows its own events at its own time: a
reset and a slot show one pulse with what is sampled behind it. Main statement: in every waveform each pulse has the
width of its call, leaves the line the time to recover, and is sampled where it should be. -/
namespace Thermowire

namespace BitCall

def low : BitCall → Nat
  | reset => 480
  | write true => 5
  | write false => 60
  | read => 5

def release : BitCall → PinEvent
  | write _ => .drive true
  | _ => .input

def recovery : BitCall → Nat
  | reset => 480
  | _ => 5

def samples : BitCall → List Nat
  | reset => [480 + 70, 480 + 480]
  | write _ => []
  | read => [10]

def time : BitCall → Nat
  | reset => 960
  | write true => 60
  | write false => 65
  | read => 60

theorem recovered (call : BitCall) : call.low + call.recovery ≤ call.time := by
  rcases call with _ | (_ | _) | _ <;> decide

end BitCall

/-- What takes time on the bus: bringing it up, a reset or a slot, and the rest that a conversion needs. -/
inductive Beat where
  | settle
  | pulse (call : BitCall)
  | rest
  deriving DecidableEq, Repr

namespace Beat

def time : Beat → Nat
  | settle => 100000
  | pulse call => call.time
  | rest => 750000

def call? : Beat → Option BitCall
  | pulse call => some call
  | _ => none

/-- The events of a beat that starts at this time; the levels that are sampled are the line's affair. -/
inductive Shows (start : Nat) : Beat → List (Nat × PinEvent) → Prop where
  | settle : Shows start .settle [(start, .output), (start, .drive true)]
  | pulse (call : BitCall) (levels : List Bool) (each : levels.length = call.samples.length) :
      Shows start (.pulse call) ((start, .output) :: (start, .drive false) :: (start + call.low, call.release) ::
        (call.samples.zip levels).map fun (delay, level) => (start + delay, .sample level))
  | rest : Shows start .rest []

end Beat

def pulses (beats : List Beat) : List BitCall := beats.filterMap Beat.call?

def duration (beats : List Beat) : Nat := beats.foldr (fun beat total => beat.time + total) 0

section Beats
variable {beats : List Beat} {call : BitCall}

@[simp] theorem pulses_settle : pulses (.settle :: beats) = pulses beats := rfl
@[simp] theorem pulses_pulse : pulses (.pulse call :: beats) = call :: pulses beats := rfl
@[simp] theorem pulses_rest : pulses (.rest :: beats) = pulses beats := rfl

theorem pulses_append (first second : List Beat) : pulses (first ++ second) = pulses first ++ pulses second :=
  List.filterMap_append

theorem duration_cons {beat : Beat} : duration (beat :: beats) = beat.time + duration beats := rfl

theorem duration_eq (beats : List Beat) : duration beats =
    960 * (pulses beats).count .reset + 60 * (pulses beats).count (.write true) +
      65 * (pulses beats).count (.write false) + 60 * (pulses beats).count .read +
      100000 * beats.count .settle + 750000 * beats.count .rest := by
  induction beats with
  | nil => rfl
  | cons beat beats ih =>
    rw [duration_cons, ih]
    rcases beat with _ | (_ | (_ | _) | _) | _ <;>
    · simp [Beat.time, BitCall.time]
      omega

end Beats

/-- Beats one after the other with all the events that they show, from one time to another. -/
inductive Waveform : Nat → List Beat → List (Nat × PinEvent) → Nat → Prop where
  | nil (start : Nat) : Waveform start [] [] start
  | cons {start stop : Nat} {beat : Beat} {beats : List Beat} {block events : List (Nat × PinEvent)}
      (shows : beat.Shows start block) (rest : Waveform (start + beat.time) beats events stop) :
      Waveform start (beat :: beats) (block ++ events) stop

def isFall : Nat × PinEvent → Bool
  | (_, .drive false) => true
  | _ => false

namespace Beat
variable {start time : Nat} {beat : Beat} {inner outer : List (Nat × PinEvent)} {block : List (Nat × PinEvent)}

theorem mem_samples {call : BitCall} {levels : List Bool} {event : Nat × PinEvent}
    (member : event ∈ (call.samples.zip levels).map fun (delay, level) => (start + delay, PinEvent.sample level)) :
    ∃ delay ∈ call.samples, ∃ level, event = (start + delay, .sample level) := by
  obtain ⟨⟨delay, level⟩, zipped, rfl⟩ := List.mem_map.mp member
  exact ⟨delay, (List.of_mem_zip zipped).1, level, rfl⟩

theorem isFall_sample {call : BitCall} {levels : List Bool} {event : Nat × PinEvent}
    (member : event ∈ (call.samples.zip levels).map fun (delay, level) => (start + delay, PinEvent.sample level)) :
    isFall event = false := by
  obtain ⟨_, _, _, rfl⟩ := mem_samples member
  rfl

theorem isFall_release (call : BitCall) : isFall (start, call.release) = false := by
  cases call <;> rfl

theorem Shows.fall (shows : beat.Shows start (inner ++ (time, .drive false) :: outer)) :
    ∃ call samples, beat = .pulse call ∧ time = start ∧ inner = [(start, .output)] ∧
      outer = (start + call.low, call.release) :: samples := by
  generalize same : inner ++ (time, PinEvent.drive false) :: outer = block at shows
  have falls : ∃ event ∈ block, isFall event := by
    rw [← same]
    exact ⟨_, List.mem_append_right inner (List.mem_cons_self ..), rfl⟩
  cases shows with
  | settle =>
    obtain ⟨event, member, fall⟩ := falls
    simp only [List.mem_cons, List.not_mem_nil, or_false] at member
    rcases member with rfl | rfl <;> cases fall
  | pulse call levels each =>
    rcases inner with _ | ⟨first, _ | ⟨second, inner⟩⟩
    · cases (List.cons.inj same).1
    · obtain ⟨rfl, others⟩ := List.cons.inj same
      obtain ⟨edge, rfl⟩ := List.cons.inj others
      cases edge
      exact ⟨call, _, rfl, rfl, rfl, rfl⟩
    · -- behind its edge a pulse shows its release and samples only
      obtain ⟨-, -, others⟩ : _ ∧ _ ∧ inner ++ (time, PinEvent.drive false) :: outer = _ := by
        simpa only [List.cons_append, List.cons.injEq] using same
      have member : (time, PinEvent.drive false) ∈ inner ++ (time, .drive false) :: outer :=
        List.mem_append_right inner (List.mem_cons_self ..)
      rw [others] at member
      rcases List.mem_cons.mp member with release | sample
      · have other : isFall (start + call.low, call.release) = false := isFall_release call
        rw [← release] at other
        cases other
      · cases isFall_sample sample
  | rest => exact absurd same (List.append_ne_nil_of_right_ne_nil _ (List.cons_ne_nil _ _))

theorem Shows.sample {level : Bool} (shows : beat.Shows start (inner ++ (time, .sample level) :: outer)) :
    ∃ call samples delay, beat = .pulse call ∧ delay ∈ call.samples ∧ time = start + delay ∧
      inner = (start, .output) :: (start, .drive false) :: (start + call.low, call.release) :: samples ∧
      ∀ event ∈ samples, isFall event = false := by
  generalize same : inner ++ (time, PinEvent.sample level) :: outer = block at shows
  cases shows with
  | settle =>
    have member : (time, PinEvent.sample level) ∈ inner ++ (time, .sample level) :: outer :=
      List.mem_append_right inner (List.mem_cons_self ..)
    rw [same] at member
    simp at member
  | pulse call levels each =>
    rcases inner with _ | ⟨first, _ | ⟨second, _ | ⟨third, inner⟩⟩⟩
    · cases (List.cons.inj same).1
    · cases (List.cons.inj (List.cons.inj same).2).1
    · have release := (List.cons.inj (List.cons.inj (List.cons.inj same).2).2).1
      cases call <;> cases release
    · obtain ⟨rfl, rfl, rfl, others⟩ :
          first = _ ∧ second = _ ∧ third = _ ∧ inner ++ (time, PinEvent.sample level) :: outer = _ := by
        simpa only [List.cons_append, List.cons.injEq] using same
      have member : (time, PinEvent.sample level) ∈ inner ++ (time, .sample level) :: outer :=
        List.mem_append_right inner (List.mem_cons_self ..)
      rw [others] at member
      obtain ⟨delay, planned, _, at'⟩ := mem_samples member
      cases at'
      refine ⟨call, inner, delay, rfl, planned, rfl, rfl, fun event among => ?_⟩
      apply isFall_sample
      rw [← others]
      exact List.mem_append_left _ among
  | rest => exact absurd same (List.append_ne_nil_of_right_ne_nil _ (List.cons_ne_nil _ _))

theorem Shows.times (shows : beat.Shows start block) : ∃ delays : List Nat,
    block.map Prod.fst = delays.map (start + ·) ∧ delays.Pairwise (· ≤ ·) ∧ ∀ delay ∈ delays, delay ≤ beat.time := by
  cases shows with
  | settle => exact ⟨[0, 0], rfl, by decide, by decide⟩
  | pulse call levels each =>
    have sampled : ((call.samples.zip levels).map fun (delay, level) => (start + delay, PinEvent.sample level)).map
        Prod.fst = call.samples.map (start + ·) := by
      rw [List.map_map]
      change (call.samples.zip levels).map ((start + ·) ∘ Prod.fst) = _
      rw [← List.map_map, List.map_fst_zip (Nat.le_of_eq each.symm)]
    refine ⟨0 :: 0 :: call.low :: call.samples, ?_, ?_, ?_⟩
    · exact congrArg (start :: start :: (start + call.low) :: ·) sampled
    · rcases call with _ | (_ | _) | _ <;> decide
    · rcases call with _ | (_ | _) | _ <;> decide
  | rest => exact ⟨[], rfl, .nil, nofun⟩

theorem Shows.within {event : Nat × PinEvent} (shows : beat.Shows start block) (member : event ∈ block) :
    start ≤ event.1 ∧ event.1 ≤ start + beat.time := by
  obtain ⟨delays, times, -, brief⟩ := shows.times
  have timed := List.mem_map_of_mem (f := Prod.fst) member
  rw [times] at timed
  obtain ⟨delay, planned, same⟩ := List.mem_map.mp timed
  rw [← same]
  exact ⟨Nat.le_add_right _ _, Nat.add_le_add_left (brief delay planned) _⟩

theorem Shows.ordered (shows : beat.Shows start block) : (block.map Prod.fst).Pairwise (· ≤ ·) := by
  obtain ⟨delays, times, ordered, -⟩ := shows.times
  rw [times]
  exact ordered.map _ fun _ _ => (Nat.add_le_add_left · start)

theorem Shows.countP_isFall (shows : beat.Shows start block) : block.countP isFall = (pulses [beat]).length := by
  cases shows with
  | settle => rfl
  | pulse call levels each =>
    have sampled : ((call.samples.zip levels).map fun (delay, level) => (start + delay, PinEvent.sample level)).countP
        isFall = 0 := by
      rw [List.countP_eq_zero]
      intro event member
      rw [isFall_sample member]
      exact Bool.false_ne_true
    have release : ¬ isFall (start + call.low, call.release) = true := by
      rw [isFall_release]
      exact Bool.false_ne_true
    rw [List.countP_cons_of_neg (by exact Bool.false_ne_true), List.countP_cons_of_pos (by rfl),
      List.countP_cons_of_neg release, sampled]
    rfl
  | rest => rfl

end Beat

namespace Waveform
variable {start stop : Nat} {beats : List Beat} {past later events : List (Nat × PinEvent)} {event : Nat × PinEvent}

theorem stop_eq (waveform : Waveform start beats events stop) : stop = start + duration beats := by
  induction waveform with
  | nil start => rfl
  | @cons start _ beat beats _ _ shows rest ih =>
    rw [ih, Nat.add_assoc]
    rfl

theorem append {middle : Nat} {others : List Beat} {shown : List (Nat × PinEvent)}
    (first : Waveform start beats events middle) (second : Waveform middle others shown stop) :
    Waveform start (beats ++ others) (events ++ shown) stop := by
  induction first with
  | nil start => exact second
  | cons shows _ ih =>
    rw [List.append_assoc]
    exact .cons shows (ih second)

theorem le_stop (waveform : Waveform start beats events stop) : start ≤ stop := by
  rw [waveform.stop_eq]
  exact Nat.le_add_right _ _

theorem le_of_mem (waveform : Waveform start beats events stop) (member : event ∈ events) : start ≤ event.1 := by
  induction waveform with
  | nil start => cases member
  | cons shows rest ih =>
    rcases List.mem_append.mp member with here | later
    · exact (shows.within here).1
    · exact Nat.le_trans (Nat.le_add_right _ _) (ih later)

theorem ordered (waveform : Waveform start beats events stop) : (events.map Prod.fst).Pairwise (· ≤ ·) := by
  induction waveform with
  | nil start => exact .nil
  | cons shows rest ih =>
    rw [List.map_append, List.pairwise_append]
    refine ⟨shows.ordered, ih, ?_⟩
    intro earlier before later behind
    obtain ⟨first, here, rfl⟩ := List.mem_map.mp before
    obtain ⟨second, there, rfl⟩ := List.mem_map.mp behind
    exact Nat.le_trans (shows.within here).2 (rest.le_of_mem there)

theorem countP_isFall (waveform : Waveform start beats events stop) :
    events.countP isFall = (pulses beats).length := by
  induction waveform with
  | nil start => rfl
  | @cons _ _ beat beats _ _ shows rest ih =>
    rw [List.countP_append, shows.countP_isFall, ih, ← List.length_append]
    exact congrArg List.length (List.filterMap_append (l := [beat])).symm

theorem split (waveform : Waveform start beats (past ++ event :: later) stop) :
    ∃ before beat after first inner outer last time, beats = before ++ beat :: after ∧
      Waveform start before first time ∧ beat.Shows time (inner ++ event :: outer) ∧
      Waveform (time + beat.time) after last stop ∧ past = first ++ inner ∧ later = outer ++ last := by
  generalize same : past ++ event :: later = events at waveform
  induction waveform generalizing past with
  | nil start => exact absurd same (List.append_ne_nil_of_right_ne_nil _ (List.cons_ne_nil _ _))
  | @cons start stop beat beats block events shows rest ih =>
    -- the event stands in the first block or behind it
    have placed : (∃ outer, block = past ++ event :: outer ∧ later = outer ++ events) ∨
        ∃ inner, past = block ++ inner ∧ events = inner ++ event :: later := by
      rcases List.append_eq_append_iff.mp same with ⟨extra, shown, split⟩ | ⟨inner, shown, split⟩
      · cases extra with
        | nil => exact .inr ⟨[], by rw [shown, List.append_nil, List.append_nil], split.symm⟩
        | cons head outer =>
          obtain ⟨rfl, rfl⟩ := List.cons.inj split
          exact .inl ⟨outer, shown, rfl⟩
      · exact .inr ⟨inner, shown, split⟩
    rcases placed with ⟨outer, rfl, rfl⟩ | ⟨inner, rfl, rfl⟩
    · exact ⟨[], beat, beats, [], past, outer, events, start, rfl, .nil start, shows, rest, rfl, rfl⟩
    · obtain ⟨before, shown, after, first, inner, outer, last, time, rfl, begun, here, ends, rfl, rfl⟩ := ih rfl
      exact ⟨beat :: before, shown, after, block ++ first, inner, outer, last, time, rfl, .cons shows begun, here, ends,
        (List.append_assoc ..).symm, rfl⟩

/-- The pulse behind so many others is that of the next beat that has one. -/
theorem pulse_behind {before after : List Beat} {call : BitCall} (waveform : Waveform start before events stop) :
    (pulses (before ++ .pulse call :: after))[events.countP isFall]? = some call := by
  rw [waveform.countP_isFall, pulses_append, List.getElem?_append_right (Nat.le_refl _), Nat.sub_self]
  rfl

end Waveform

/-- What the events on a line owe to the resets and slots that were made on it, one for each falling edge in order: the
line is let go as the call does it and exactly when it should be, it is left alone behind that, and it is sampled only
where its pulse allows it. Times are in microseconds. -/
structure Conforms (calls : List BitCall) (events : List (Nat × PinEvent)) : Prop where
  counted : events.countP isFall = calls.length
  ordered : (events.map Prod.fst).Pairwise (· ≤ ·)
  released : ∀ past fall later, events = past ++ (fall, .drive false) :: later →
    ∃ call rest, calls[past.countP isFall]? = some call ∧ later = (fall + call.low, call.release) :: rest
  recovered : ∀ past fall rise event between next later,
    events = past ++ (fall, .drive false) :: (rise, event) :: (between ++ (next, .drive false) :: later) →
    ∃ call, calls[past.countP isFall]? = some call ∧ rise + call.recovery ≤ next
  sampled : ∀ past time level later, events = past ++ (time, .sample level) :: later →
    ∃ earlier call fall between, past = earlier ++ (fall, .drive false) :: (fall + call.low, call.release) :: between ∧
      (∀ event ∈ between, isFall event = false) ∧ calls[earlier.countP isFall]? = some call ∧
      (call = .reset ∧ (time = fall + call.low + 70 ∨ time = fall + call.low + 480) ∨ call = .read ∧ time = fall + 10)

namespace Waveform
variable {start stop : Nat} {beats : List Beat} {events : List (Nat × PinEvent)}

theorem fall {past later : List (Nat × PinEvent)} {time : Nat}
    (waveform : Waveform start beats (past ++ (time, .drive false) :: later) stop) :
    ∃ before call after first rest, beats = before ++ .pulse call :: after ∧ past = first ++ [(time, .output)] ∧
      Waveform start before first time ∧ later = (time + call.low, call.release) :: rest ∧ time + call.time ≤ stop := by
  obtain ⟨before, beat, after, first, inner, outer, last, at', rfl, begun, shows, ends, rfl, rfl⟩ := waveform.split
  obtain ⟨call, samples, rfl, rfl, rfl, rfl⟩ := shows.fall
  exact ⟨before, call, after, first, samples ++ last, rfl, rfl, begun, rfl, ends.le_stop⟩

theorem conforms (waveform : Waveform start beats events stop) : Conforms (pulses beats) events where
  counted := waveform.countP_isFall
  ordered := waveform.ordered
  released := by
    rintro past time later rfl
    obtain ⟨before, call, after, first, rest, rfl, rfl, begun, rfl, -⟩ := waveform.fall
    refine ⟨call, rest, ?_, rfl⟩
    rw [List.countP_append]
    exact begun.pulse_behind
  recovered := by
    rintro past time rise event between next later rfl
    obtain ⟨ahead, last, split⟩ :=
      (List.eq_nil_or_concat ((rise, event) :: between)).resolve_left (List.cons_ne_nil _ _)
    rw [List.concat_eq_append] at split
    rw [← List.cons_append, split, ← List.cons_append, ← List.append_assoc] at waveform
    obtain ⟨before, call, after, first, rest, rfl, same, begun, rfl, -⟩ := waveform.fall
    -- what stands ahead of the next pulse is a waveform that ends before it
    obtain rfl : past ++ (time, .drive false) :: ahead = first := by
      rw [← List.cons_append, ← List.append_assoc] at same
      exact (List.append_inj' same rfl).1
    obtain ⟨earlier, pulse, behind, shown, tail, rfl, rfl, started, rfl, passed⟩ := begun.fall
    obtain ⟨edge, -⟩ := List.cons.inj split
    cases edge
    refine ⟨pulse, ?_, ?_⟩
    · rw [List.append_assoc, List.countP_append]
      exact started.pulse_behind
    · have wide := pulse.recovered
      omega
  sampled := by
    rintro past time level later rfl
    obtain ⟨before, beat, after, first, inner, outer, last, start, rfl, begun, shows, ends, rfl, rfl⟩ := waveform.split
    obtain ⟨call, samples, delay, rfl, planned, rfl, rfl, quiet⟩ := shows.sample
    refine ⟨first ++ [(start, .output)], call, start, samples, ?_, quiet, ?_, ?_⟩
    · rw [List.append_assoc]
      rfl
    · rw [List.countP_append]
      exact begun.pulse_behind
    · cases call with
      | reset =>
        simp only [BitCall.samples, List.mem_cons, List.not_mem_nil, or_false] at planned
        refine .inl ⟨rfl, ?_⟩
        rcases planned with rfl | rfl
        · exact .inl rfl
        · exact .inr rfl
      | write bit => cases planned
      | read =>
        obtain rfl := List.mem_singleton.mp planned
        exact .inr ⟨rfl, rfl⟩

end Waveform
end Thermowire
