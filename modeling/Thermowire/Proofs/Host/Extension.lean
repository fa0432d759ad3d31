import Mathlib.Data.List.SplitBy
import Thermowire.Host.CommandLine
import Thermowire.Host.LogFilter
import Thermowire.Proofs.Host.Sleeps

/-! How runs of the host extend each other. A run that is to end at its n-th sleep ends within n cycles, and the run
that is to end one sleep later shows and logs the same before it goes on. -/
namespace Thermowire.Host

section Within
variable {n count : Nat}

/-- The run as far as it goes in a number of cycles, if it ends in them. -/
def runWithin (count : Nat) (surroundings : Surroundings) : Option (List Moment × Ending) :=
  let stages := (Stage.upTo surroundings.failing).map Moment.stage
  match surroundings.failing with
  | some stage => some (stages, .died stage)
  | none =>
    let moments := busMoments surroundings.script count
    match untilSleep surroundings.sleeps moments with
    | some moments => some (stages ++ moments, .slept)
    | none => if startFails surroundings.script then some (stages ++ moments, .startFailed) else none

theorem runWithin_eq_run (failing : Option Stage) (script : Script) (enough : n ≤ count) :
    runWithin count { failing, script, sleeps := n } = some (run { failing, script, sleeps := n }) := by
  cases failing with
  | some stage => rfl
  | none =>
    rcases run_cases script enough with ⟨part, cut, same⟩ | ⟨fails, few, same⟩
    · simp only [runWithin, cut, same]
      rfl
    · simp only [runWithin, few, same, if_pos fails]
      rfl

theorem moments_run (script : Script) (enough : n ≤ count) :
    (run { script, sleeps := n }).1 =
      Stage.all.map .stage ++ (untilSleep n (busMoments script count)).getD (busMoments script count) := by
  rcases run_cases script enough with ⟨part, cut, same⟩ | ⟨-, few, same⟩
  · rw [cut, same, Option.getD_some]
  · rw [few, same, Option.getD_none]

theorem run_next (failing : Option Stage) (script : Script) (n : Nat) :
    let short := run { failing, script, sleeps := n }
    let long := run { failing, script, sleeps := n + 1 }
    (∃ part, EndsAt n part ∧ short = (Stage.all.map .stage ++ part, .slept) ∧ short.1 <+: long.1) ∨
      short.2.exitCode ≠ 0 ∧ long = short := by
  intro short long
  cases failing with
  | some stage => exact .inr ⟨nofun, rfl⟩
  | none =>
    rcases run_cases script (Nat.le_succ n) with ⟨part, cut, same⟩ | ⟨-, few, same⟩
    · obtain ⟨-, ends⟩ := endsAt_of_untilSleep cut
      refine .inl ⟨part, ends, same, ?_⟩
      change (run _).1 <+: (run _).1
      rw [same, moments_run script (Nat.le_refl (n + 1))]
      exact (List.prefix_append_right_inj _).mpr (untilSleep_begins cut)
    · have fewer : untilSleep (n + 1) (busMoments script (n + 1)) = none :=
        untilSleep_eq_none_iff.mpr (Nat.lt_succ_of_lt (untilSleep_eq_none_iff.mp few))
      rcases run_cases script (Nat.le_refl (n + 1)) with ⟨more, farther, -⟩ | ⟨-, -, next⟩
      · rw [fewer] at farther
        cases farther
      · refine .inr ⟨?_, next.trans same.symm⟩
        change (run _).2.exitCode ≠ 0
        rw [same]
        nofun

end Within

section Events

/-- The events of a run: consecutive pad calls are one, and log records are none. -/
def events (moments : List Moment) : List (List Moment) :=
  (moments.filter (·.record?.isNone)).splitBy fun a b => a.isPad && b.isPad

theorem eventTexts_eq (arguments : Arguments) (moments : List Moment) :
    eventTexts arguments moments = (events moments).map (eventText arguments) := rfl

theorem events_sleep (moments : List Moment) (wait : Wait) (later : List Moment) :
    events (moments ++ .sleep wait :: later) = events moments ++ [.sleep wait] :: events later := by
  unfold events
  rw [List.filter_append, List.filter_cons_of_pos rfl, List.splitBy_append_cons _ (by simp [Moment.isPad])]
  congr 1
  exact List.splitBy_append (l := [Moment.sleep wait]) (by simp [Moment.isPad])

def isSleepText (text : String) : Bool := "sleep_".toList.isPrefixOf text.toList

theorem isSleepText_sleep (wait : Wait) : isSleepText (sleepText wait) := by
  rw [isSleepText, sleepText, String.append_assoc, String.append_assoc, String.toList_append]
  exact List.isPrefixOf_iff_prefix.mpr (List.prefix_append ..)

theorem isSleepText_stage (arguments : Arguments) (stage : Stage) : isSleepText (stage.text arguments) = false := by
  cases stage with
  | openChip =>
    rw [isSleepText, Stage.text, String.toList_append]
    rfl
  | getLine =>
    rw [isSleepText, Stage.text, String.toList_append]
    rfl
  | requestLine =>
    rw [Stage.text]
    decide
  | makePin =>
    rw [Stage.text]
    decide

theorem isSleepText_pin (calls : List String) : isSleepText (" ".intercalate ("pin" :: calls)) = false := by
  cases calls with
  | nil => rfl
  | cons call rest =>
    rw [isSleepText, String.intercalate_cons_cons, String.toList_append, String.toList_append]
    rfl

theorem isPad_of_isChain {first second : Moment} {rest : List Moment}
    (chain : (first :: second :: rest).IsChain fun a b => (a.isPad && b.isPad) = true) :
    ∀ moment ∈ first :: second :: rest, moment.isPad := by
  induction rest generalizing first second with
  | nil => simpa using chain
  | cons third rest ih =>
    obtain ⟨both, chain⟩ := List.isChain_cons_cons.mp chain
    intro moment member
    rcases List.mem_cons.mp member with rfl | later
    · exact (Bool.and_eq_true_iff.mp both).1
    · exact ih chain moment later

theorem sleeps_eq_nil {moments : List Moment} (pads : ∀ moment ∈ moments, moment.isPad) : sleeps moments = [] := by
  apply List.filterMap_eq_nil_iff.mpr
  intro moment member
  have pad := pads moment member
  cases moment with
  | pad call answer => rfl
  | _ => cases pad

theorem length_sleeps_event (arguments : Arguments) {event : List Moment}
    (chain : event.IsChain fun a b => (a.isPad && b.isPad) = true) :
    (sleeps event).length = if isSleepText (eventText arguments event) then 1 else 0 := by
  unfold eventText
  split
  · rw [isSleepText_stage]
    rfl
  · rw [isSleepText_sleep]
    rfl
  · next calls _ awake =>
    have unslept : sleeps event = [] := by
      rcases event with _ | ⟨first, _ | ⟨second, rest⟩⟩
      · rfl
      · cases first with
        | sleep wait => exact absurd rfl (awake wait)
        | _ => rfl
      · -- what is joined with another call is itself a call of the pad
        exact sleeps_eq_nil (isPad_of_isChain chain)
    rw [isSleepText_pin, unslept]
    rfl

theorem countP_events (arguments : Arguments) {events : List (List Moment)}
    (each : ∀ event ∈ events, event.IsChain fun a b => (a.isPad && b.isPad) = true) :
    (events.map (eventText arguments)).countP isSleepText = (sleeps events.flatten).length := by
  induction events with
  | nil => rfl
  | cons event rest ih =>
    rw [List.map_cons, List.countP_cons, List.flatten_cons, sleeps_append, List.length_append,
      length_sleeps_event arguments (each event (List.mem_cons_self ..)),
      ih fun other later => each other (List.mem_cons_of_mem _ later), Nat.add_comm]

theorem countP_eventTexts (arguments : Arguments) (moments : List Moment) :
    (eventTexts arguments moments).countP isSleepText = (sleeps moments).length := by
  have unlogged : sleeps (moments.filter (·.record?.isNone)) = sleeps moments := by
    rw [sleeps, List.filterMap_filter]
    congr 1
    funext moment
    cases moment <;> rfl
  have each : ∀ event ∈ events moments, event.IsChain fun a b => (a.isPad && b.isPad) = true :=
    fun event member => List.isChain_of_mem_splitBy member
  rw [eventTexts_eq, countP_events arguments each, events, List.flatten_splitBy, unlogged]

theorem getLast?_eventTexts (arguments : Arguments) (former : List Moment) (wait : Wait) :
    (eventTexts arguments (former ++ [.sleep wait])).getLast? = some (sleepText wait) := by
  rw [eventTexts_eq, events_sleep, List.map_append, List.getLast?_append]
  rfl

theorem eventTexts_begins (arguments : Arguments) {former short long : List Moment} {wait : Wait}
    (closes : short = former ++ [.sleep wait]) (begins : short <+: long) :
    eventTexts arguments short <+: eventTexts arguments long := by
  obtain ⟨later, rfl⟩ := begins
  refine List.IsPrefix.map _ ⟨events later, ?_⟩
  rw [closes, List.append_assoc, List.singleton_append]
  exact (congrArg (· ++ events later) (events_sleep former wait [])).trans
    ((List.append_assoc ..).trans (events_sleep former wait later).symm)

end Events

/-- How a run that is to end at its n-th sleep looks beside a longer one. If it ends there, that sleep is the last
event of n that are sleeps. If it has failed before, the longer one has failed alike. -/
inductive Answer.Extends (n : Nat) : Answer → Answer → Prop where
  | ran {ending laterEnding : Ending} {events laterEvents log laterLog : List String}
      (shows : events <+: laterEvents) (logs : log <+: laterLog)
      (slept : ending.exitCode = 0 →
        events.countP isSleepText = n ∧ ∃ wait, events.getLast? = some (sleepText wait))
      (failed : ending.exitCode ≠ 0 → laterEnding = ending ∧ laterEvents = events ∧ laterLog = log) :
      Extends n (.ran ending events log) (.ran laterEnding laterEvents laterLog)

theorem answer_eq {parse : OptionParser} {arguments : List Text} {parsed : Arguments}
    (accepted : parse Setting.declaration arguments = .ok parsed) (shows : HostRecord → Bool)
    (surroundings : Surroundings) :
    answer parse shows arguments surroundings =
      .ran (run surroundings).2 (eventTexts parsed (run surroundings).1) (logTexts shows (run surroundings).1) := by
  rw [answer, accepted]

/-- Whatever parser accepts the command line, and whatever is shown, the stages and the script are: a run that is to
end at its n-th sleep ends within n cycles, and the run that is to end a sleep later extends it. -/
theorem answers_extend {parse : OptionParser} {arguments : List Text} {parsed : Arguments}
    (accepted : parse Setting.declaration arguments = .ok parsed) (shows : HostRecord → Bool)
    (failing : Option Stage) (script : Script) {n : Nat} (positive : 0 < n) :
    let short : Surroundings := { failing, script, sleeps := n }
    let long : Surroundings := { failing, script, sleeps := n + 1 }
    (∀ count, n ≤ count → runWithin count short = some (run short)) ∧
      (answer parse shows arguments short).Extends n (answer parse shows arguments long) := by
  intro short long
  refine ⟨fun count enough => runWithin_eq_run failing script enough, ?_⟩
  rw [answer_eq accepted, answer_eq accepted]
  rcases run_next failing script n with ⟨part, ends, same, begins⟩ | ⟨failed, same⟩
  · obtain ⟨former, wait, last⟩ := ends.exists_last positive
    have closes : (run short).1 = Stage.all.map .stage ++ former ++ [.sleep wait] := by
      rw [same, last, List.append_assoc]
    have passed : (run short).2 = .slept := congrArg Prod.snd same
    refine .ran (eventTexts_begins parsed closes begins) (((begins.filterMap _).filter _).map _) ?_ ?_
    · intro _
      refine ⟨?_, wait, ?_⟩
      · rw [countP_eventTexts, same, sleeps_append]
        exact ends.count
      · rw [closes]
        exact getLast?_eventTexts parsed _ wait
    · rw [passed]
      exact fun failed => absurd rfl failed
  · change run long = run short at same
    rw [same]
    exact .ran (List.prefix_refl _) (List.prefix_refl _) (fun passed => absurd passed failed)
      fun _ => ⟨rfl, rfl, rfl⟩

/-- A device that answers the start and is gone in every cycle. -/
theorem answers_extend_lost_device :
    let script : Script := ⟨[false, true], [], 0⟩
    let short : Surroundings := { script, sleeps := 2 }
    let long : Surroundings := { script, sleeps := 3 }
    let told := answer parseOptions (LogFilter.upTo .trace).shows ["-l4".toList]
    parseOptions Setting.declaration ["-l4".toList] = .ok { chip := defaultChip, line := 4 } ∧
      (run short).2 = .slept ∧ sleeps (run short).1 = [Slot.settle, readInterval] ∧
      runWithin 2 short = some (run short) ∧ (told short).Extends 2 (told long) := by
  intro script short long told
  have accepted : parseOptions Setting.declaration ["-l4".toList] = .ok { chip := defaultChip, line := 4 } := rfl
  obtain ⟨within, continued⟩ := answers_extend accepted (LogFilter.upTo .trace).shows none script (Nat.succ_pos 1)
  exact ⟨accepted, by decide +kernel, by decide +kernel, within 2 (Nat.le_refl 2), continued⟩

end Thermowire.Host
