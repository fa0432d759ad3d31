import Thermowire.Proofs.Passage
import Thermowire.Proofs.Reset

/-! The line at rest as two queues. While only its master uses it, the line is let go between the slots, no presence
pulse is under way, and a slot does no more than take a bit from what the device has to send or add one to what it has
received. Main statement: whatever runs on the bus that the master makes of the line gives what it gives on a bus that
does just that, and leaves the device with the same queues at the same time. -/
namespace Thermowire

section View
variable {I : Interface} {α σ τ : Type} {world : World I σ} {model : World I τ} {view : σ → τ} {sound : σ → Prop}

/-- Whether a world in its sound states does what the model does in what is seen of them. -/
structure Viewed (world : World I σ) (model : World I τ) (view : σ → τ) (sound : σ → Prop) : Prop where
  answers : ∀ request state, sound state → (world request state).1 = (model request (view state)).1
  keeps : ∀ request state, sound state → sound (world request state).2
  moves : ∀ request state, sound state → view (world request state).2 = (model request (view state)).2

theorem Viewed.run (viewed : Viewed world model view sound) (program : Program I α) {state : σ} (start : sound state) :
    (program.run world state).value = (program.run model (view state)).value ∧
      (program.run world state).history = (program.run model (view state)).history ∧
      sound (program.run world state).state ∧
      view (program.run world state).state = (program.run model (view state)).state := by
  induction program generalizing state with
  | done value => exact ⟨rfl, rfl, start, rfl⟩
  | call request next ih =>
    have goes := ih (world request state).1 (viewed.keeps request state start)
    rw [viewed.moves request state start, viewed.answers request state start] at goes
    obtain ⟨value, history, kept, seen⟩ := goes
    unfold Program.run
    dsimp only
    rw [viewed.answers request state start]
    exact ⟨value, congrArg _ history, kept, seen⟩

theorem Viewed.carries (viewed : Viewed world model view sound) {state last : σ} {history : List (Event I)}
    (carries : Carries world state history last) (start : sound state) :
    sound last ∧ Carries model (view state) history (view last) := by
  induction history generalizing state with
  | nil =>
    obtain rfl : last = state := carries
    exact ⟨start, rfl⟩
  | cons event rest ih =>
    obtain ⟨given, carries⟩ := carries
    obtain ⟨kept, goes⟩ := ih carries (viewed.keeps event.request state start)
    rw [viewed.moves event.request state start] at goes
    exact ⟨kept, given.trans (viewed.answers event.request state start), goes⟩

end View

theorem reports_cons {σ τ ρ : Type} (step : τ → σ → ρ × σ) (first : τ) (rest : List τ) (state : σ) :
    reports step (first :: rest) state = (step first state).1 :: reports step rest (step first state).2 := rfl

namespace Device
variable {device : Device} {now later : Nat} {bit : Bool}

/-- The device apart from what it does on the line at the moment. -/
def bare (device : Device) : Device := { device with window := none, slot := none }

def slotted (device : Device) (bit : Bool) : Device :=
  match device.transmit with
  | _ :: rest => { device with transmit := rest }
  | [] => { device with received := device.received ++ [bit] }.obey

/-- A reset forgets what was received. Its falling edge takes a bit of what there is to send, as a slot does. -/
def cleared (device : Device) : Device := { device with received := [], transmit := device.transmit.tail }

def next (device : Device) : Bool := device.transmit.headD true

def bus : World (BitInterface Presence (MasterError Misuse)).surrounded (Device × Nat)
  | .own .reset, (device, now) => (Line.found device.present, device.cleared, now + 960000)
  | .own (.write bit), (device, now) => (.ok (), device.slotted bit, now + Line.writeTime bit)
  | .own .read, (device, now) => (.ok device.next, device.slotted true, now + 60000)
  | .ambient (.wait wait), (device, now) => ((), device, now + wait.nanoseconds)
  | .ambient _, state => ((), state)

def perform (step : SessionStep) :
    Phase × Device × Nat → Outcome Presence (MasterError Misuse) × Phase × Device × Nat
  | (phase, state) =>
    let run := (step.program.run phase).byBits.run bus state
    (run.value.1, run.value.2, run.state)

def after (steps : List SessionStep) (state : Phase × Device × Nat) : Phase × Device × Nat :=
  steps.foldl (fun state step => (perform step state).2) state

theorem after_cons (step : SessionStep) (steps : List SessionStep) (state : Phase × Device × Nat) :
    after (step :: steps) state = after steps (perform step state).2 := rfl

@[simp] theorem present_bare : device.bare.present = device.present := rfl
@[simp] theorem received_bare : device.bare.received = device.received := rfl
@[simp] theorem transmit_bare : device.bare.transmit = device.transmit := rfl
@[simp] theorem register_bare : device.bare.register = device.register := rfl
@[simp] theorem conversions_bare : device.bare.conversions = device.conversions := rfl

theorem bare_obey (device : Device) : device.obey.bare = device.bare.obey := by
  rw [obey_eq, obey_eq]
  rfl

theorem bare_receive (device : Device) (now : Nat) (bit : Bool) :
    ((device.openSlot now).receive bit).bare = device.bare.slotted bit := by
  unfold openSlot receive slotted
  cases sends : device.transmit with
  | nil =>
    have silent : device.bare.transmit = [] := sends
    rw [silent]
    exact bare_obey _
  | cons next rest =>
    have sending : device.bare.transmit = next :: rest := sends
    rw [sending]
    rfl

@[simp] theorem slot_receive : (device.receive bit).slot = device.slot := by
  unfold receive
  split
  · exact slot_obey
  · rfl

theorem holdsLow_read (spent : device.Spent now) :
    ((device.openSlot now).receive true).holdsLow (now + 10000) = !device.next := by
  have quiet : ((device.openSlot now).receive true).Spent (now + 10000) := by
    unfold Spent
    rw [window_receive]
    exact spent.mono (by omega)
  have within : now + 10000 < now + 15000 := by omega
  unfold holdsLow
  rw [not_window_of_spent quiet, Bool.false_or, slot_receive, openSlot, next]
  cases device.transmit with
  | nil => rfl
  | cons bit rest =>
    change (!bit && decide (now + 10000 < now + 15000)) = !bit
    rw [decide_eq_true within, Bool.and_true]

end Device

namespace Line
variable {line : Line}

/-- What the users of the bus can tell of the line: its device, and the time in nanoseconds. -/
def gist (line : Line) : Device × Nat := (line.device.bare, line.now)

@[simp] theorem device_gist : line.gist.1 = line.device.bare := rfl

/-- A line that is let go, with no presence pulse under way. -/
structure Idle (line : Line) : Prop where
  released : line.low = false
  spent : line.device.Spent line.now

theorem Idle.timely (idle : line.Idle) : line.Timely := by
  intro low
  rw [idle.released] at low
  cases low

theorem Idle.brief (idle : line.Idle) : line.Brief := idle.spent.mono (Nat.le_add_right _ _)

theorem Behind.idle {last : Line} (behind : line.Behind last) : last.Idle := ⟨behind.rests.released, behind.spent⟩

theorem bus_idle_reset (direction : Direction) (idle : line.Idle) :
    ∃ left last, bus (.own .reset) (direction, line) = ((Device.bus (.own .reset) line.gist).1, left, last) ∧
      last.Idle ∧ last.gist = (Device.bus (.own .reset) line.gist).2 := by
  obtain ⟨last, answered, behind⟩ := bus_reset_always direction idle.timely idle.brief
  refine ⟨.input, last, answered, behind.idle, ?_⟩
  unfold gist
  rw [behind.rests.device, behind.rests.now, opened_of_released idle.released]
  rfl

theorem bus_idle_write (direction : Direction) (bit : Bool) (idle : line.Idle) :
    ∃ left last, bus (.own (.write bit)) (direction, line) = (.ok (), left, last) ∧
      last.Idle ∧ last.gist = (Device.bus (.own (.write bit)) line.gist).2 := by
  obtain ⟨history, answer, left, last, same, course, carries⟩ := bus_own (.write bit) direction line
  cases course with
  | write course =>
    obtain ⟨rfl, rests⟩ := carries_write idle.released course carries
    refine ⟨left, last, same, ⟨rests.released, ?_⟩, ?_⟩
    · intro window kept
      rw [rests.device, Device.window_receive] at kept
      rw [rests.now]
      exact Nat.le_trans (idle.spent window kept) (Nat.le_add_right _ _)
    · unfold gist
      rw [rests.device, rests.now, Device.bare_receive]
      rfl

theorem bus_idle_read (direction : Direction) (idle : line.Idle) :
    ∃ left last, bus (.own .read) (direction, line) = (.ok line.device.next, left, last) ∧
      last.Idle ∧ last.gist = (Device.bus (.own .read) line.gist).2 := by
  obtain ⟨history, answer, left, last, same, course, carries⟩ := bus_own .read direction line
  cases course with
  | read course =>
    obtain ⟨rfl, rests⟩ := carries_read idle.released course carries
    rw [Device.holdsLow_read idle.spent, Bool.not_not] at same
    refine ⟨left, last, same, ⟨rests.released, ?_⟩, ?_⟩
    · intro window kept
      rw [rests.device, Device.window_receive] at kept
      rw [rests.now]
      exact Nat.le_trans (idle.spent window kept) (Nat.le_add_right _ _)
    · unfold gist
      rw [rests.device, rests.now, Device.bare_receive]
      rfl

/-- The bus that the master makes of a line at rest is the bus right at its device. -/
theorem viewed_bus : Viewed bus Device.bus (fun state => state.2.gist) (fun state => state.2.Idle) := by
  have each (request : (BitInterface Presence (MasterError Misuse)).surrounded.Call) (state : Direction × Line)
      (idle : state.2.Idle) : (bus request state).1 = (Device.bus request state.2.gist).1 ∧
        (bus request state).2.2.Idle ∧ (bus request state).2.2.gist = (Device.bus request state.2.gist).2 := by
    obtain ⟨direction, line⟩ := state
    rcases request with call | call
    · cases call with
      | reset =>
        obtain ⟨left, last, same, rests⟩ := bus_idle_reset direction idle
        rw [same]
        exact ⟨rfl, rests⟩
      | write bit =>
        obtain ⟨left, last, same, rests⟩ := bus_idle_write direction bit idle
        rw [same]
        exact ⟨rfl, rests⟩
      | read =>
        obtain ⟨left, last, same, rests⟩ := bus_idle_read direction idle
        rw [same]
        exact ⟨rfl, rests⟩
    · cases call with
      | wait wait => exact ⟨rfl, ⟨idle.released, idle.spent.mono (Nat.le_add_right _ _)⟩, rfl⟩
      | _ => exact ⟨rfl, idle, rfl⟩
  constructor
  · exact fun request state idle => (each request state idle).1
  · exact fun request state idle => (each request state idle).2.1
  · exact fun request state idle => (each request state idle).2.2

theorem perform_idle (step : SessionStep) {state : Rig × Line} (idle : state.2.Idle) :
    let performed := perform (.master (.session step)) state
    let there := Device.perform step (state.1.phase, state.2.device.bare, state.2.now)
    performed.1.outcome = there.1 ∧ performed.2.1.phase = there.2.1 ∧ performed.2.2.Idle ∧
      performed.2.2.gist = there.2.2 := by
  intro performed there
  obtain ⟨rig, line⟩ := state
  obtain ⟨outcome, state⟩ := perform_session step rig line
  have start : (rig.direction, line).2.Idle := idle
  obtain ⟨value, -, rests, seen⟩ := viewed_bus.run (step.program.run rig.phase).byBits start
  change performed.1.outcome = _ at outcome
  change performed.2 = _ at state
  rw [outcome, state]
  exact ⟨congrArg Prod.fst value, congrArg Prod.snd value, rests, seen⟩

theorem idle_settled {before after : Direction} {history : PinHistory Misuse} {result : Except (MasterError Misuse) Unit}
    {last : Line} (idle : line.Idle) (course : Wire.SettleCourse before history result after)
    (carries : Carries Line.pin line history last) : result = .ok () ∧ last.Idle := by
  cases course with
  | unset error => cases carries.1
  | undriven error => cases carries.2.1
  | finished =>
    obtain ⟨-, -, -, rfl⟩ := carries
    have kept : ((line.role true).note .output).letGo.device = line.device := by
      rw [device_letGo, low_note, low_role, idle.released]
      rfl
    refine ⟨rfl, rfl, ?_⟩
    have spent : Device.Spent ((line.role true).note .output).letGo.device (line.now + Slot.settle.nanoseconds) := by
      rw [kept]
      exact idle.spent.mono (Nat.le_add_right _ _)
    exact spent

theorem exists_course {E σ : Type} (world : World (PinInterface E).surrounded σ) (step : MasterStep) (rig : Rig)
    (state : σ) : ∃ history outcome after, step.CourseOnPin rig history outcome after ∧
      Carries world state history ((step.program.run rig).run world state).state :=
  ⟨_, _, _, MasterStep.course_onPin (Program.course_run _ world state), Program.carries_run _ world state⟩

theorem idle_started {rig after : Rig} {history : PinHistory Misuse} {outcome : Outcome Presence (MasterError Misuse)}
    {last : Line} (idle : line.Idle) (course : MasterStep.CourseOnPin rig .start history outcome after)
    (carries : Carries Line.pin line history last) : last.Idle := by
  cases course with
  | unsettled settles =>
    obtain ⟨failed, -⟩ := idle_settled idle settles carries
    cases failed
  | started settles resets =>
    obtain ⟨middle, settling, resetting⟩ := carries_append.mp carries
    obtain ⟨-, settled⟩ := idle_settled idle settles settling
    obtain ⟨-, -, behind⟩ := behind_of_reset settled.timely settled.brief resets resetting
    exact behind.idle

def Step.isPublic : Step → Bool
  | master step => step.isPublic
  | pin _ => false
  | _ => true

/-- The states that a rig and its line can be in, after public steps of any kind. -/
inductive Tended : Rig × Line → Prop where
  | fresh (present : Bool) : Tended ({}, .fresh present)
  | step {state : Rig × Line} (tended : Tended state) (step : Step) (publicly : step.isPublic) :
      Tended (perform step state).2
  | change {rig : Rig} {line : Line} (tended : Tended (rig, line)) (received transmit : List Bool)
      (conversions : Nat) :
      Tended (rig, { line with device := { line.device with received, transmit, conversions } })

theorem idle_of_run {step : MasterStep} {rig : Rig} (idle : ((step.program.run rig).run Line.pin line).state.Idle) :
    (perform (.master step) (rig, line)).2.2.Idle := by
  rw [state_perform]
  exact idle

theorem idle_start (rig : Rig) (idle : line.Idle) : (perform (.master .start) (rig, line)).2.2.Idle := by
  obtain ⟨history, outcome, after, course, carries⟩ := exists_course Line.pin .start rig line
  exact idle_of_run (idle_started idle course carries)

theorem idle_perform (step : Step) {state : Rig × Line} (publicly : step.isPublic) (idle : state.2.Idle) :
    (perform step state).2.2.Idle := by
  obtain ⟨rig, line⟩ := state
  cases step with
  | master step =>
    cases step with
    | session step => exact (@perform_idle step (rig, line) idle).2.2.1
    | start => exact idle_start rig idle
    | release => exact idle
    | output => cases publicly
    | input => cases publicly
    | drive high => cases publicly
    | sample => cases publicly
  | pin call => cases publicly
  | wait wait => exact ⟨idle.released, idle.spent.mono (Nat.le_add_right _ _)⟩
  | _ => exact ⟨idle.released, idle.spent⟩

/-- Whatever its users do, the line is at rest between their steps. -/
theorem Tended.idle {state : Rig × Line} (tended : Tended state) : state.2.Idle := by
  induction tended with
  | fresh present => exact ⟨rfl, nofun⟩
  | step _ step publicly ih => exact idle_perform step publicly ih
  | change _ _ _ _ ih => exact ⟨ih.released, ih.spent⟩

def after (steps : List Step) (state : Rig × Line) : Rig × Line :=
  steps.foldl (fun state step => (perform step state).2) state

def outcomes (steps : List Step) (state : Rig × Line) : List (Outcome Presence (MasterError Misuse)) :=
  (reports perform steps state).map Report.outcome

theorem Tended.after {state : Rig × Line} (tended : Tended state) (steps : List Step)
    (publicly : ∀ step ∈ steps, step.isPublic) : Tended (after steps state) := by
  induction steps generalizing state with
  | nil => exact tended
  | cons step steps ih =>
    have first := tended.step step (publicly step (List.mem_cons_self ..))
    exact ih first fun later member => publicly later (List.mem_cons_of_mem _ member)

def sessions (steps : List SessionStep) : List Step := steps.map fun step => .master (.session step)

theorem Tended.sessions {state : Rig × Line} (tended : Tended state) (steps : List SessionStep) :
    Tended (Line.after (Line.sessions steps) state) := by
  refine tended.after _ fun step member => ?_
  obtain ⟨asked, -, rfl⟩ := List.mem_map.mp member
  rfl

theorem performs_idle (steps : List SessionStep) {state : Rig × Line} (idle : state.2.Idle) :
    let start := (state.1.phase, state.2.device.bare, state.2.now)
    outcomes (sessions steps) state = reports Device.perform steps start ∧
      (after (sessions steps) state).1.phase = (Device.after steps start).1 ∧
      (after (sessions steps) state).2.gist = (Device.after steps start).2 := by
  induction steps generalizing state with
  | nil => exact ⟨rfl, rfl, rfl⟩
  | cons step steps ih =>
    obtain ⟨outcome, phase, rests, seen⟩ := perform_idle step idle
    obtain ⟨others, last⟩ := ih rests
    have next : (_, _, _) = (Device.perform step (state.1.phase, state.2.device.bare, state.2.now)).2 :=
      Prod.ext phase seen
    rw [next] at others last
    exact ⟨List.cons_eq_cons.mpr ⟨outcome, others⟩, last⟩

end Line
end Thermowire
