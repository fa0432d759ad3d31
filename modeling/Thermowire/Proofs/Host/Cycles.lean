import Mathlib.Data.List.Chain
import Thermowire.Host.CommandLine
import Thermowire.Host.LogFilter
import Thermowire.Proofs.Host.Conversion

/-! The cycles of the host. On its pad the host does what a start of the master and then cycles of the sensor do, one
after the other. To this it adds the report of each cycle and the pause behind it. -/
namespace Thermowire

section Rig
variable {E α β ε : Type}

theorem Program.run_map {I : Interface} {σ : Type} (world : World I σ) (f : α → β) (program : Program I α)
    (state : σ) :
    (f <$> program).run world state =
      let run := program.run world state
      ⟨f run.value, run.state, run.history⟩ := by
  rw [← bind_pure_comp, run_bind]
  exact congrArg (Run.mk _ _) (List.append_nil _)

theorem onRig_map (f : α → β)
    (program : StateT Phase (Program (BusInterface Presence (MasterError E)).surrounded) α) :
    onRig (f <$> program) = f <$> onRig program := by
  funext rig
  have mapped : ((f <$> program).run rig.phase).onPin =
      (program.run rig.phase).onPin >>= fun result => pure (f result.1, result.2) := by
    rw [StateT.run_map, ← bind_pure_comp, Program.onPin_bind]
    rfl
  change ((f <$> program).run rig.phase).onPin.run rig.direction >>= _ =
    ((program.run rig.phase).onPin.run rig.direction >>= fun result =>
      Program.done (result.1.1, Rig.mk result.1.2 result.2)) >>= _
  rw [mapped, StateT.run_bind, bind_assoc, bind_assoc]
  rfl

theorem PinAction.onRig_map (f : α → β) (action : PinAction E ε α) :
    PinAction.onRig (f <$> action) = (f <$> ·) <$> action.onRig := by
  funext rig
  change (f <$> action).run.run rig.direction >>= _ =
    (action.run.run rig.direction >>= fun result =>
      Program.done (result.1, { rig with direction := result.2 })) >>= _
  rw [ExceptT.run_map, StateT.run_map, ← bind_pure_comp, bind_assoc, bind_assoc]
  rfl

end Rig

namespace Host

section Drive
variable {α β : Type}

theorem drive_eq (program : StateT Rig (Program (PinInterface PinFault).surrounded) α) (machine : Machine) :
    drive program machine =
      let run := (program.run machine.rig).run Script.pad.openDrain machine.script
      (run.value.1, (run.history.filterMap Event.onPad?).filterMap Moment.ofEvent?, ⟨run.value.2, run.state⟩) := by
  unfold drive
  rw [run_onPad]

theorem drive_map (f : α → β) (program : StateT Rig (Program (PinInterface PinFault).surrounded) α)
    (machine : Machine) :
    drive (f <$> program) machine =
      let (value, moments, after) := drive program machine
      (f value, moments, after) := by
  rw [drive_eq, drive_eq, StateT.run_map, Program.run_map]

theorem driven_of_mem {program : StateT Rig (Program (PinInterface PinFault).surrounded) α} {machine : Machine}
    {record : HostRecord} (member : .log record ∈ (drive program machine).2.1) : ∃ own, record = .driven own := by
  obtain ⟨event, -, same⟩ := List.mem_filterMap.mp member
  obtain ⟨call | (wait | _ | _ | own), answer⟩ := event
  case ambient.log =>
    cases same
    exact ⟨own, rfl⟩
  case ambient.wait =>
    rw [Moment.ofEvent?] at same
    cases paused : Pause.ofWait wait <;> rw [paused] at same <;> cases same
  all_goals cases same

theorem sleeps_pad (history : PinHistory PinFault) :
    sleeps ((history.filterMap Event.onPad?).filterMap Moment.ofEvent?) = slept history := by
  rw [sleeps, slept, List.filterMap_filterMap, List.filterMap_filterMap]
  congr 1
  funext event
  obtain ⟨(_ | _ | high | _) | (wait | _ | _ | record), answer⟩ := event
  case ambient.wait =>
    change ((Moment.ofEvent? _).bind Moment.sleep?) = _
    rw [Moment.ofEvent?, Event.sleep?]
    cases Pause.ofWait wait <;> rfl
  all_goals rfl

abbrev padBus : World (BusInterface Presence LineTrouble).surrounded (Direction × Script) :=
  World.bus Script.pad.openDrain

def Machine.busState (machine : Machine) : Direction × Script := (machine.rig.direction, machine.script)

theorem drive_onRig (program : StateT Phase (Program (BusInterface Presence LineTrouble).surrounded) α)
    (machine : Machine) :
    let run := (program.run machine.rig.phase).run padBus machine.busState
    (drive (onRig program) machine).1 = run.value.1 ∧
      (drive (onRig program) machine).2.2 = ⟨⟨run.value.2, run.state.1⟩, run.state.2⟩ ∧
      sleeps (drive (onRig program) machine).2.1 = slept run.history := by
  obtain ⟨value, left, same⟩ := run_onRig_bus program machine.rig Script.pad.openDrain machine.script
  rw [drive_eq]
  dsimp only
  rw [value, left, sleeps_pad, same]
  exact ⟨rfl, rfl, rfl⟩

end Drive

structure Turn where
  before : Machine
  outcome : Outcome Presence LineTrouble
  after : Machine
  moments : List Moment

def turn (step : MasterStep) (before : Machine) : Turn × Machine :=
  let driven := drive step.program before
  (⟨before, driven.1, driven.2.2, driven.2.1⟩, driven.2.2)

section Runs

def Event.own? {I : Interface} : Event I.surrounded → Option (Event I)
  | ⟨.own call, answer⟩ => some ⟨call, answer⟩
  | _ => none

def Moment.pad? : Moment → Option (Event (PadInterface PinFault))
  | pad call answer => some ⟨call, answer⟩
  | _ => none

def padRun (step : MasterStep) (before : Machine) :
    Run (PadInterface PinFault).surrounded Script (Outcome Presence LineTrouble × Rig) :=
  (step.program.run before.rig).onPad.run Script.pad before.script

/-- A turn ends as the step does on the pad, and the calls of the pad in its moments are those that the step makes, one
after the other and none besides. -/
structure Turn.Runs (turn : Turn) (step : MasterStep) : Prop where
  ended : (turn.outcome, turn.after.rig) = (padRun step turn.before).value ∧
    turn.after.script = (padRun step turn.before).state
  calls : turn.moments.filterMap Moment.pad? = (padRun step turn.before).history.filterMap Event.own?

theorem runs_turn (step : MasterStep) (machine : Machine) : (turn step machine).1.Runs step where
  ended := ⟨rfl, rfl⟩
  calls := by
    change ((padRun step machine).history.filterMap Moment.ofEvent?).filterMap Moment.pad? = _
    rw [List.filterMap_filterMap]
    congr 1
    funext event
    obtain ⟨call | (wait | _ | _ | record), answer⟩ := event
    case ambient.wait =>
      rw [Moment.ofEvent?]
      cases Pause.ofWait wait <;> rfl
    all_goals rfl

end Runs

/-- Steps one after the other, each where the one before it left the pad, the master and the sensor. -/
def turns : List MasterStep → Machine → List Turn := reports turn

theorem driven_turn {step : MasterStep} {machine : Machine} {record : HostRecord}
    (member : .log record ∈ (turn step machine).1.moments) : ∃ own, record = .driven own := driven_of_mem member

theorem turns_cons (step : MasterStep) (steps : List MasterStep) (machine : Machine) :
    turns (step :: steps) machine = (turn step machine).1 :: turns steps (turn step machine).2 := rfl

theorem chained_turns (steps : List MasterStep) (former : Turn) :
    (former :: turns steps former.after).IsChain fun former next => next.before = former.after := by
  induction steps generalizing former with
  | nil => exact .singleton former
  | cons step steps ih => exact .cons_cons rfl (ih (turn step former.after).1)

section Conversion

def conversionCommand : List MasterStep :=
  [.session (.bus .addressAll), .session (.bus (.writeByte Command.convert))]

/-- Whether the command for a conversion can be sent where the turn begins. -/
def Turn.converts (turn : Turn) : Bool := (turns conversionCommand turn.before).all (·.outcome.isOk)

theorem turn_bus (step : BusStep) (machine : Machine) :
    let run := step.exchange.run.run padBus machine.busState
    (turn (.session (.bus step)) machine).1.outcome = run.value.mapError .bus ∧
      (turn (.session (.bus step)) machine).2.busState = run.state := by
  obtain ⟨value, left, -⟩ := drive_onRig (SessionStep.bus step).program machine
  have inner : ((SessionStep.bus step).program.run machine.rig.phase).run padBus machine.busState =
      ((Except.mapError .bus <$> step.exchange.run) >>= fun outcome =>
        Program.done (outcome, machine.rig.phase)).run padBus machine.busState := rfl
  rw [inner, Program.run_bind, Program.run_map] at value left
  refine ⟨value, ?_⟩
  exact congrArg Machine.busState left

theorem isOk_mapError {ε ε' δ : Type} (f : ε → ε') (result : Except ε δ) : (result.mapError f).isOk = result.isOk := by
  cases result <;> rfl

theorem isOk_map {ε δ δ' : Type} (f : δ → δ') (result : Except ε δ) : (f <$> result).isOk = result.isOk := by
  cases result <;> rfl

theorem all_conversionCommand (machine : Machine) :
    (turns conversionCommand machine).all (·.outcome.isOk) =
      (Session.conversionCommand.run.run padBus machine.busState).value.isOk := by
  obtain ⟨addressed, left⟩ := turn_bus .addressAll machine
  obtain ⟨written, -⟩ := turn_bus (.writeByte Command.convert) (turn (.session (.bus .addressAll)) machine).2
  rw [left] at written
  have command : (Session.conversionCommand : Exchange Presence LineTrouble Unit).run =
      Exchange.addressAll.run >>= ExceptT.bindCont fun _ => Exchange.writeByte Command.convert := rfl
  have address : (BusStep.addressAll.exchange : Exchange Presence LineTrouble (Value Presence)).run =
      (.status <$> ·) <$> Exchange.addressAll.run := ExceptT.run_map ..
  have write : ((BusStep.writeByte Command.convert).exchange : Exchange Presence LineTrouble (Value Presence)).run =
      ((fun _ => .nothing) <$> ·) <$> (Exchange.writeByte Command.convert).run := ExceptT.run_map ..
  rw [conversionCommand, turns_cons, turns_cons, List.all_cons, List.all_cons, addressed, written, address, write,
    command, Program.run_map, Program.run_map, Program.run_bind]
  dsimp only
  rw [isOk_mapError, isOk_mapError, isOk_map, isOk_map]
  obtain ⟨result, middle, history⟩ := Exchange.addressAll.run.run padBus machine.busState
  cases result with
  | error error => rfl
  | ok status => exact Bool.and_true _

end Conversion

section Reading

def reading : MasterStep := .session (.sensor .readTemperature)

theorem turn_start (machine : Machine) :
    turn .start machine =
      let (result, moments, after) := drive BusWire.start.onRig machine
      (⟨machine, (.status <$> result).mapError .bus, after, moments⟩, after) := by
  have program : (MasterStep.start.program : StateT Rig (Program (PinInterface PinFault).surrounded) _) =
      Except.mapError .bus <$> (.status <$> ·) <$> BusWire.start.onRig := by
    rw [← PinAction.onRig_map]
    rfl
  rw [turn, program, drive_map, drive_map]

theorem turn_reading (machine : Machine) :
    turn reading machine =
      let (result, moments, after) := drive (onRig Session.readTemperature.run) machine
      (⟨machine, (.temperature <$> result).mapError .sensor, after, moments⟩, after) := by
  have program : (reading.program : StateT Rig (Program (PinInterface PinFault).surrounded) _) =
      Except.mapError .sensor <$> (.temperature <$> ·) <$> onRig Session.readTemperature.run := by
    have session : (SensorStep.readTemperature.session : Session Presence LineTrouble (Value Presence)).run =
        (.temperature <$> ·) <$> Session.readTemperature.run := ExceptT.run_map ..
    rw [← onRig_map, ← onRig_map, ← session]
    rfl
  rw [turn, program, drive_map, drive_map]

def Turn.report? (turn : Turn) : Option HostRecord :=
  match turn.outcome with
  | .ok (.temperature temperature) => some (.reading temperature)
  | .error (.sensor error) => some (.noReading turn.after.rig.phase error)
  | _ => none

def Turn.told (turn : Turn) : List Moment :=
  turn.moments ++ turn.report?.toList.map .log ++ [.sleep readInterval]

theorem cycle_eq (machine : Machine) : cycle machine = ((turn reading machine).1.told, (turn reading machine).2) := by
  rw [turn_reading, cycle]
  generalize drive (onRig Session.readTemperature.run) machine = driven
  obtain ⟨result, moments, after⟩ := driven
  cases result with
  | error error => exact congrArg (·, after) (List.append_assoc moments [_] [_]).symm
  | ok temperature => exact congrArg (·, after) (List.append_assoc moments [_] [_]).symm

theorem cycles_eq (count : Nat) (machine : Machine) :
    cycles count machine = (turns (.replicate count reading) machine).flatMap Turn.told := by
  induction count generalizing machine with
  | zero => rfl
  | succ count ih => rw [cycles, cycle_eq, List.replicate_succ, turns_cons, List.flatMap_cons, ← ih]

/-- A cycle as it should be. What it gave is reported once, at the level and with the text that go with it, and it
sleeps through a conversion if the command for one could be sent. -/
structure Turn.Cycle (turn : Turn) : Prop where
  runs : turn.Runs reading
  reported : ∃ record, turn.told = turn.moments ++ [.log record] ++ [.sleep readInterval] ∧
    ((∃ temperature, turn.outcome = .ok (.temperature temperature) ∧ record.level = .info ∧
        record.text = "Temperature: " ++ temperature.text ++ "°C") ∨
      ∃ error, turn.outcome = .error (.sensor error) ∧ record.level = .warn ∧
        record.text = "No valid reading (" ++ turn.after.rig.phase.name ++ "): " ++ toString error)
  driven : ∀ record, .log record ∈ turn.moments → ∃ own, record = .driven own
  sleeps : sleeps turn.moments = if turn.converts then [Session.conversionTime] else []

theorem cycle_reading (machine : Machine) : (turn reading machine).1.Cycle where
  runs := runs_turn reading machine
  reported := by
    rw [turn_reading]
    generalize drive (onRig Session.readTemperature.run) machine = driven
    obtain ⟨result, moments, after⟩ := driven
    cases result with
    | error error => exact ⟨_, rfl, .inr ⟨error, rfl, rfl, rfl⟩⟩
    | ok temperature => exact ⟨_, rfl, .inl ⟨temperature, rfl, rfl, rfl⟩⟩
  driven _ member := driven_turn member
  sleeps := by
    have deaf (record : Record) (state : Direction × Script) : (padBus (.ambient (.log record)) state).2 = state := rfl
    have slept := Session.slept_readTemperature deaf machine.rig.phase machine.busState
    obtain ⟨-, -, same⟩ := drive_onRig Session.readTemperature.run machine
    have converts : (turn reading machine).1.converts = _ := all_conversionCommand machine
    rw [converts, ← slept, ← same, turn_reading]

theorem cycle_of_mem {count : Nat} {machine : Machine} {turn : Turn}
    (member : turn ∈ turns (.replicate count reading) machine) : turn.Cycle := by
  induction count generalizing machine with
  | zero => cases member
  | succ count ih =>
    rw [List.replicate_succ, turns_cons] at member
    rcases List.mem_cons.mp member with rfl | later
    · exact cycle_reading machine
    · exact ih later

end Reading

section Course
variable {start : Turn} {cycles : List Turn} {part : List Moment} {n : Nat}

def Turn.course (start : Turn) (cycles : List Turn) : List Moment :=
  start.moments ++
    match start.outcome with
    | .error (.bus error) => [.log (.startFailed error)]
    | _ => .log .started :: cycles.flatMap Turn.told

theorem busMoments_eq (script : Script) (count : Nat) :
    let start := (turn .start { script }).1
    busMoments script count = start.course (turns (.replicate count reading) start.after) ∧
      ((∃ error, start.outcome = .error (.bus error)) ∨ ¬ startFails script ∧ ∃ status, start.outcome = .ok status) := by
  intro start
  have begun : start = _ := congrArg Prod.fst (turn_start { script })
  rw [busMoments, startFails, begun]
  generalize drive BusWire.start.onRig { script } = driven
  obtain ⟨result, moments, after⟩ := driven
  cases result with
  | error error => exact ⟨rfl, .inl ⟨error, rfl⟩⟩
  | ok status =>
    dsimp only
    rw [cycles_eq]
    exact ⟨rfl, .inr ⟨nofun, .status status, rfl⟩⟩

theorem untilSleep_course {error : BusError LineTrouble} (failed : start.outcome = .error (.bus error)) :
    untilSleep n (start.course cycles) = none ↔ (sleeps start.moments).length < n := by
  rw [untilSleep_eq_none_iff, Turn.course, failed, sleeps_append, List.length_append]
  rfl

/-- How far the host gets: into its start, or past it and some cycles, and perhaps into the next. -/
inductive Reached (start : Turn) (cycles : List Turn) : List Moment → Prop where
  | starting {part : List Moment} (begins : part <+: start.moments) : Reached start cycles part
  | cycling {status : Value Presence} {finished : List Turn} {part : List Moment}
      (started : start.outcome = .ok status) (begins : finished <+: cycles)
      (next : part = [] ∨ ∃ cycle, finished ++ [cycle] <+: cycles ∧ part <+: cycle.moments) :
      Reached start cycles (start.moments ++ .log .started :: (finished.flatMap Turn.told ++ part))

theorem Turn.Cycle.cut {turn : Turn} (cycle : turn.Cycle) (begins : part <+: turn.told)
    (asleep : ∀ moment ∈ part.getLast?, moment.isSleep) : part = turn.told ∨ part <+: turn.moments := by
  obtain ⟨record, told, -⟩ := cycle.reported
  rw [told] at begins ⊢
  rcases List.prefix_concat_iff.mp begins with whole | begins
  · exact .inl whole
  · rcases List.prefix_concat_iff.mp begins with rfl | begins
    · have woken : (Moment.log record).isSleep := asleep _ List.getLast?_concat
      cases woken
    · exact .inr begins

/-- Cycles that break off at a sleep are some that are finished, and perhaps one that is not. -/
theorem exists_finished (each : ∀ cycle ∈ cycles, cycle.Cycle) (begins : part <+: cycles.flatMap Turn.told)
    (asleep : ∀ moment ∈ part.getLast?, moment.isSleep) :
    ∃ finished rest, finished <+: cycles ∧ part = finished.flatMap Turn.told ++ rest ∧
      (rest = [] ∨ ∃ cycle, finished ++ [cycle] <+: cycles ∧ rest <+: cycle.moments) := by
  induction cycles generalizing part with
  | nil => exact ⟨[], [], List.prefix_refl _, List.prefix_nil.mp begins, .inl rfl⟩
  | cons cycle cycles ih =>
    rw [List.flatMap_cons] at begins
    -- either the part lies within the first cycle, or that cycle is finished and the rest lies within the others
    rcases List.prefix_or_prefix_of_prefix begins (List.prefix_append ..) with shorter | ⟨later, rfl⟩
    · rcases (each cycle (List.mem_cons_self ..)).cut shorter asleep with rfl | inside
      · refine ⟨[cycle], [], ?_, ?_, .inl rfl⟩
        · exact (List.prefix_cons_inj cycle).mpr List.nil_prefix
        · rw [List.flatMap_singleton, List.append_nil]
      · exact ⟨[], part, List.nil_prefix, rfl,
          .inr ⟨cycle, (List.prefix_cons_inj cycle).mpr List.nil_prefix, inside⟩⟩
    · have behind : ∀ moment ∈ later.getLast?, moment.isSleep := by
        intro moment member
        apply asleep
        rw [List.getLast?_append, member]
        rfl
      obtain ⟨finished, rest, first, rfl, next⟩ := ih (fun other member => each other (List.mem_cons_of_mem _ member))
        ((List.prefix_append_right_inj _).mp begins) behind
      refine ⟨cycle :: finished, rest, (List.prefix_cons_inj cycle).mpr first, ?_, ?_⟩
      · rw [List.flatMap_cons, List.append_assoc]
      · rcases next with none | ⟨other, goes, inside⟩
        · exact .inl none
        · exact .inr ⟨other, (List.prefix_cons_inj cycle).mpr goes, inside⟩

theorem reached_of_begins (each : ∀ cycle ∈ cycles, cycle.Cycle) (begins : part <+: start.course cycles)
    (ends : EndsAt n part)
    (outcome : (∃ error, start.outcome = .error (.bus error)) ∨ ∃ status, start.outcome = .ok status) :
    Reached start cycles part := by
  rcases outcome with ⟨error, failed⟩ | ⟨status, started⟩
  · rw [Turn.course, failed] at begins
    rcases List.prefix_concat_iff.mp begins with rfl | inside
    · have woken : (Moment.log (.startFailed error)).isSleep := ends.last _ List.getLast?_concat
      cases woken
    · exact .starting inside
  · rw [Turn.course, started] at begins
    rcases List.prefix_or_prefix_of_prefix begins (List.prefix_append ..) with inside | ⟨later, rfl⟩
    · exact .starting inside
    · rcases List.prefix_cons_iff.mp ((List.prefix_append_right_inj _).mp begins) with rfl | ⟨rest, rfl, goes⟩
      · rw [List.append_nil]
        exact .starting (List.prefix_refl _)
      · have asleep : ∀ moment ∈ rest.getLast?, moment.isSleep := by
          intro moment member
          apply ends.last
          rw [List.getLast?_append, List.getLast?_cons, member]
          rfl
        obtain ⟨finished, unfinished, first, rfl, next⟩ := exists_finished each goes asleep
        exact .cycling started first next

end Course

section Answer

theorem logTexts_of_all {shows : HostRecord → Bool} (all : ∀ record, shows record) (moments : List Moment) :
    logTexts shows moments = (moments.filterMap Moment.record?).map HostRecord.line := by
  rw [logTexts, List.filter_eq_self.mpr fun record _ => all record]

/-- How a run goes whose stages are passed. Each turn begins where the one before it ended. The run fails if the start's
error comes before the n-th sleep; else it ends at that sleep, wherever that is. -/
structure Goes (n : Nat) (start : Turn) (cycles : List Turn) (ending : Ending) (moments : List Moment) : Prop where
  starts : start.Runs .start
  chained : (start :: cycles).IsChain fun former next => next.before = former.after
  fails_iff : ending.exitCode = 1 ↔
    (∃ error, start.outcome = .error (.bus error)) ∧ (sleeps start.moments).length < n
  failed : ∀ error, ending.exitCode = 1 → start.outcome = .error (.bus error) →
    moments = start.moments ++ [.log (.startFailed error)] ∧
      (moments.filterMap Moment.record?).filter (·.level = .error) = [.startFailed error] ∧
      .started ∉ moments.filterMap Moment.record?
  slept : ending.exitCode ≠ 1 → ending.exitCode = 0 ∧ EndsAt n moments ∧ Reached start cycles moments
  cycles : ∀ cycle ∈ cycles, cycle.Cycle

theorem records_startFailed {moments : List Moment} (error : BusError LineTrouble)
    (driven : ∀ record, .log record ∈ moments → ∃ own, record = .driven own) :
    let records := (moments ++ [Moment.log (.startFailed error)]).filterMap Moment.record?
    records.filter (·.level = .error) = [.startFailed error] ∧ HostRecord.started ∉ records := by
  intro records
  have split : records = moments.filterMap Moment.record? ++ [.startFailed error] := List.filterMap_append
  have own : ∀ record ∈ moments.filterMap Moment.record?, ∃ own, record = .driven own := by
    intro record member
    obtain ⟨moment, among, same⟩ := List.mem_filterMap.mp member
    cases moment with
    | log logged =>
      cases same
      exact driven record among
    | _ => cases same
  have mild : (moments.filterMap Moment.record?).filter (·.level = .error) = [] := by
    apply List.filter_eq_nil_iff.mpr
    intro record member
    obtain ⟨own, rfl⟩ := own record member
    cases own <;> simp [HostRecord.level, Record.level]
  rw [split, List.filter_append, mild]
  refine ⟨rfl, ?_⟩
  intro started
  rcases List.mem_append.mp started with among | last
  · obtain ⟨_, same⟩ := own _ among
    cases same
  · cases List.mem_singleton.mp last

/-- Whatever parser accepts the command line, with every record shown and no stage that fails: the host does on its pad
what a start and then cycles of the sensor do, as far as its last sleep or the start's error, and tells just that. -/
theorem run_cycles {parse : OptionParser} {arguments : List Text} {parsed : Arguments}
    (accepted : parse Setting.declaration arguments = .ok parsed) {shows : HostRecord → Bool}
    (all : ∀ record, shows record) (script : Script) (n : Nat) :
    let start := (turn .start { script }).1
    let cycles := turns (.replicate n reading) start.after
    ∃ ending moments,
      answer parse shows arguments { script, sleeps := n } =
        .ran ending (eventTexts parsed (Stage.all.map .stage ++ moments))
          ((moments.filterMap Moment.record?).map HostRecord.line) ∧
      Goes n start cycles ending moments := by
  intro start cycles
  obtain ⟨told, outcome⟩ : busMoments script n = start.course cycles ∧ _ := busMoments_eq script n
  have each : ∀ cycle ∈ cycles, cycle.Cycle := fun _ member => cycle_of_mem member
  have answered {moments : List Moment} {ending : Ending}
      (ran : run { script, sleeps := n } = (Stage.all.map .stage ++ moments, ending)) :
      answer parse shows arguments { script, sleeps := n } =
        .ran ending (eventTexts parsed (Stage.all.map .stage ++ moments))
          ((moments.filterMap Moment.record?).map HostRecord.line) := by
    rw [answer, accepted]
    dsimp only
    rw [ran, logTexts_of_all all, List.filterMap_append]
    rfl
  -- either the n-th sleep cuts the run short or the start's error ends it before
  rcases run_cases script (Nat.le_refl n) with ⟨part, cut, ran⟩ | ⟨fails, few, ran⟩
  · rw [told] at cut
    obtain ⟨begins, ends⟩ := endsAt_of_untilSleep cut
    refine ⟨.slept, part, answered ran, runs_turn .start _, chained_turns _ _, ?_, nofun, fun _ => ⟨rfl, ends, ?_⟩, each⟩
    · constructor
      · nofun
      · rintro ⟨⟨error, failed⟩, few⟩
        rw [(untilSleep_course failed).mpr few] at cut
        cases cut
    · exact reached_of_begins each begins ends (outcome.imp_right And.right)
  · rcases outcome with ⟨error, failed⟩ | ⟨started, -⟩
    · rw [told] at few ran
      have broken : start.course cycles = start.moments ++ [.log (.startFailed error)] := by
        rw [Turn.course, failed]
      refine ⟨.startFailed, _, answered ran, runs_turn .start _, chained_turns _ _, ?_, ?_, fun passed => absurd rfl passed, each⟩
      · exact ⟨fun _ => ⟨⟨error, failed⟩, (untilSleep_course failed).mp few⟩, fun _ => rfl⟩
      · intro other _ same
        rw [failed] at same
        cases same
        rw [broken]
        exact ⟨rfl, records_startFailed error fun _ member => driven_turn member⟩
    · exact absurd fails started

/-- A device that gives a reading and is gone before the next cycle. -/
theorem run_cycles_lost_device :
    let script : Script :=
      ⟨[false, true] ++ [false, true] ++ [false, true] ++ bits 0x91 ++ bits 0x01, [], 0⟩
    let start := (turn .start { script }).1
    let cycles := turns (.replicate 4 reading) start.after
    let shows := (LogFilter.ofText "trace".toList).shows
    parseOptions Setting.declaration ["-l4".toList] = .ok { chip := defaultChip, line := 4 } ∧
      (∀ record, shows record) ∧
      cycles.map (fun cycle => (cycle.report?, cycle.converts)) =
        (some (.reading ⟨401⟩), true) :: .replicate 3 (some (.noReading .convertReset (.bus .noDevice)), false) ∧
      ∃ ending moments,
        answer parseOptions shows ["-l4".toList] { script, sleeps := 4 } =
          .ran ending (eventTexts { chip := defaultChip, line := 4 } (Stage.all.map .stage ++ moments))
            ((moments.filterMap Moment.record?).map HostRecord.line) ∧
        Goes 4 start cycles ending moments := by
  intro script start cycles shows
  have accepted : parseOptions Setting.declaration ["-l4".toList] = .ok { chip := defaultChip, line := 4 } := rfl
  have all : ∀ record, shows record := LogFilter.shows_trace
  exact ⟨accepted, all, by decide +kernel, run_cycles accepted all script 4⟩

end Answer
end Host
end Thermowire
