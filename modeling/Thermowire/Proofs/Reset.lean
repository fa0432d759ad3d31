import Thermowire.Proofs.Cycle
import Thermowire.Proofs.Replay

/-! Resets of the line from whatever state it is in. The line may be low already, a slot may be under way, and a
device that is gone may have left a presence pulse behind; but all of that is over before the reset is sampled, so
that it gives what it gives by whether a device is there. -/
namespace Thermowire

namespace Device
variable {device : Device} {fall now later : Nat}

/-- Whether the presence pulse of every earlier reset is over by then. -/
def Spent (device : Device) (now : Nat) : Prop := ∀ window ∈ device.window, window.2 ≤ now

theorem Spent.mono (spent : device.Spent now) (le : now ≤ later) : device.Spent later :=
  fun window kept => Nat.le_trans (spent window kept) le

theorem not_window_of_spent (spent : device.Spent now) :
    (device.window.any fun (start, stop) => start ≤ now && now < stop) = false := by
  cases kept : device.window with
  | none => rfl
  | some window =>
    have outside : ¬ now < window.2 := by
      have bound := spent window kept
      omega
    simp [outside]

theorem holdsLow_reset (spent : device.Spent now) (behind : now ≤ later) : (device.reset now).holdsLow later =
    (device.present && (decide (now + 15000 ≤ later) && decide (later < now + 135000))) := by
  unfold holdsLow reset
  cases present : device.present with
  | true => simp
  | false => simpa using not_window_of_spent (spent.mono behind)

theorem spent_reset (spent : device.Spent (now + 135000)) : (device.reset now).Spent (now + 135000) := by
  unfold Spent reset
  by_cases present : device.present = true
  · rw [if_pos present]
    rintro window ⟨⟩
    exact Nat.le_refl _
  · rw [if_neg present]
    exact spent

@[simp] theorem window_receive {bit : Bool} : (device.receive bit).window = device.window := by
  unfold receive
  split
  · exact window_obey
  · rfl

theorem spent_ended (spent : device.Spent (now + 135000)) : (device.ended fall now).Spent (now + 135000) := by
  unfold ended
  split
  · exact spent_reset spent
  · intro window kept
    rw [window_receive] at kept
    exact spent window kept

end Device

namespace Line
variable {line last : Line} {history : PinHistory Misuse} {before after : Direction}

/-- A presence pulse that is still to come or under way is over in 135 µs. -/
def Brief (line : Line) : Prop := line.device.Spent (line.now + 135000)

theorem brief_letGo (brief : line.Brief) : line.letGo.Brief := by
  unfold Brief
  rw [device_letGo, now_letGo]
  split
  · exact Device.spent_ended brief
  · exact brief

theorem brief_pullLow (brief : line.Brief) : line.pullLow.Brief := by
  unfold Brief
  rw [device_pullLow, now_pullLow, opened]
  split
  · exact brief
  · exact brief

theorem brief_pin (request : Surrounded PinCall) (brief : line.Brief) : (Line.pin request line).2.Brief := by
  rcases request with call | call
  · cases call with
    | setOutput => exact brief
    | setInput => exact @brief_letGo (line.role false) brief
    | sample =>
      rw [pin_sample]
      split <;> exact brief
    | drive high =>
      rw [pin_drive]
      cases line.output with
      | false => exact brief
      | true =>
        cases high with
        | true => exact brief_letGo brief
        | false => exact brief_pullLow brief
  · cases call with
    | wait wait => exact Device.Spent.mono brief (Nat.add_le_add_right (Nat.le_add_right _ _) _)
    | _ => exact brief

theorem brief_perform (step : Step) (state : Rig × Line) (brief : state.2.Brief) : (perform step state).2.2.Brief := by
  cases step with
  | master step => exact Program.run_keeps (fun request _ => brief_pin request) _ brief
  | pin call => exact brief_pin (.own call) brief
  | wait wait => exact brief_pin (.ambient (.wait wait)) brief
  | _ => exact brief

theorem Reachable.brief {state : Rig × Line} (reachable : Reachable state) : state.2.Brief := by
  induction reachable with
  | fresh present => nofun
  | step _ step ih => exact brief_perform step _ ih
  | change _ _ _ _ ih => exact ih

theorem input_of_reset {samples : Bool × Bool} (course : Wire.ResetCourse before history (.ok samples) after)
    (carries : Carries Line.pin line history last) : after = .input ∧ last.output = false := by
  cases course with
  | finished high idle =>
    obtain ⟨-, -, -, -, -, -, -, -, -, -, -, rfl⟩ := carries
    refine ⟨rfl, ?_⟩
    simp

theorem kept_opened (line : Line) : line.opened.window = line.device.window ∧ line.opened.present = line.device.present ∧
    line.opened.conversions = line.device.conversions ∧ line.opened.register = line.device.register := by
  unfold opened
  split <;> exact ⟨rfl, rfl, rfl, rfl⟩

def found (present : Bool) : Except (BusError (MasterError Misuse)) Presence :=
  if present then .ok (.ofSamples true true) else .error .noDevice

/-- The line behind a reset: let go and high, with the pin an input, 960 µs later. -/
structure Behind (line last : Line) : Prop where
  rests : last.Rests (line.now + 960000) (line.opened.reset (line.now + 480000))
  output : last.output = false
  level : last.level = true
  spent : last.device.Spent last.now

theorem behind_of_reset {pulse : Except (MasterError Misuse) (Bool × Bool)} (timely : line.Timely) (brief : line.Brief)
    (course : Wire.ResetCourse before history pulse after) (carries : Carries Line.pin line history last) :
    BusWire.verdict pulse = found line.device.present ∧ after = .input ∧ line.Behind last := by
  obtain ⟨rfl, rests⟩ := carries_reset timely course carries
  obtain ⟨rfl, output⟩ := input_of_reset course carries
  obtain ⟨kept, there, -, -⟩ := line.kept_opened
  have spent : line.opened.Spent (line.now + 480000) := by
    intro window member
    rw [kept] at member
    have bound := brief window member
    omega
  have first : (line.opened.reset (line.now + 480000)).holdsLow (line.now + 480000 + 70000) =
      line.device.present := by
    rw [Device.holdsLow_reset spent (by omega), there, decide_eq_true (by omega), decide_eq_true (by omega)]
    exact Bool.and_true _
  have second : (line.opened.reset (line.now + 480000)).holdsLow (line.now + 480000 + 480000) = false := by
    rw [Device.holdsLow_reset spent (by omega), decide_eq_false (p := _ < _) (by omega), Bool.and_false, Bool.and_false]
  have level : last.level = true := by
    rw [level, rests.released, rests.device, rests.now, second]
    rfl
  have ended : last.device.Spent last.now := by
    rw [rests.device, rests.now]
    exact (Device.spent_reset (spent.mono (by omega))).mono (by omega)
  rw [Nat.add_assoc] at rests
  refine ⟨?_, rfl, ⟨rests, output, level, ended⟩⟩
  rw [first, second]
  cases line.device.present <;> rfl

theorem bus_reset_always (direction : Direction) (timely : line.Timely) (brief : line.Brief) :
    ∃ last, bus (.own .reset) (direction, line) = (found line.device.present, .input, last) ∧ line.Behind last := by
  obtain ⟨history, answer, left, last, same, course, carries⟩ := bus_own .reset direction line
  cases course with
  | reset course =>
    obtain ⟨answered, rfl, behind⟩ := behind_of_reset timely brief course carries
    rw [answered] at same
    exact ⟨last, same, behind⟩

theorem perform_session (step : SessionStep) (rig : Rig) (line : Line) :
    let performed := perform (.master (.session step)) (rig, line)
    let run := (step.program.run rig.phase).byBits.run bus (rig.direction, line)
    performed.1.outcome = run.value.1 ∧ performed.2 = (⟨run.value.2, run.state.1⟩, run.state.2) := by
  intro performed run
  obtain ⟨value, left⟩ := run_onRig step.program rig Line.pin line
  constructor
  · exact (outcome_perform (.session step) rig line).trans (congrArg Prod.fst value)
  · exact (state_perform (.session step) rig line).trans (Prod.ext (congrArg Prod.snd value) left)

def reset : Rig × Line → Report × Rig × Line := perform (.master (.session (.bus .reset)))

theorem reset_eq {rig : Rig} {line : Line} {answer : Except (BusError (MasterError Misuse)) Presence}
    {left : Direction} {last : Line} (answered : bus (.own .reset) (rig.direction, line) = (answer, left, last)) :
    (reset (rig, line)).1.outcome = (Value.status <$> answer).mapError .bus ∧
      (reset (rig, line)).2 = (⟨rig.phase, left⟩, last) := by
  obtain ⟨outcome, state⟩ := perform_session (.bus .reset) rig line
  have course : ((SessionStep.bus .reset).program.run rig.phase).byBits.Course [⟨.own .reset, answer⟩]
      ((Value.status <$> answer).mapError .bus, rig.phase) := by
    cases answer <;> exact ⟨_, _, rfl, rfl, rfl⟩
  have carries : Carries bus (rig.direction, line) [⟨.own .reset, answer⟩] (left, last) :=
    ⟨(congrArg Prod.fst answered).symm, (congrArg Prod.snd answered).symm⟩
  rw [Program.run_eq_of_carries course carries] at outcome state
  exact ⟨outcome, state⟩

/-- Whatever the line has been through, a reset tells whether a device is there, and never finds a short or misuses
the pin. The device has then received nothing, converted nothing and keeps its register; the line is let go and high,
with the pin an input, and the clock has gone on by 960 µs. -/
theorem reset_anywhere {state : Rig × Line} (reachable : Reachable state) :
    let (report, rig, line) := reset state
    (state.2.device.present = true → ∃ status, report.outcome = .ok (.status status) ∧
        status.get .present = true ∧ status.get .shorted = false ∧ status.get .level = true) ∧
      (state.2.device.present = false → report.outcome = .error (.bus .noDevice)) ∧
      line.device.received = [] ∧ line.device.conversions = state.2.device.conversions ∧
      line.device.register = state.2.device.register ∧
      line.low = false ∧ line.level = true ∧ line.output = false ∧ rig.direction = .input ∧
      line.now = state.2.now + 960000 := by
  obtain ⟨rig, line⟩ := state
  have timely : line.Timely := reachable.timely
  have brief : line.Brief := reachable.brief
  obtain ⟨last, answered, behind⟩ := bus_reset_always rig.direction timely brief
  obtain ⟨outcome, left⟩ := reset_eq answered
  obtain ⟨-, -, conversions, register⟩ := line.kept_opened
  generalize reset (rig, line) = after at outcome left ⊢
  obtain ⟨report, after⟩ := after
  obtain rfl : after = (⟨rig.phase, .input⟩, last) := left
  change report.outcome = _ at outcome
  change (line.device.present = true → _) ∧ (line.device.present = false → _) ∧ _
  rw [behind.rests.device]
  refine ⟨?_, ?_, rfl, conversions, register, behind.rests.released, behind.level, behind.output, rfl, behind.rests.now⟩
  · intro present
    rw [present] at outcome
    exact ⟨_, outcome, by decide, by decide, by decide⟩
  · intro absent
    rw [absent] at outcome
    exact outcome

/-- A reset from the other end of the line is answered, and the device is gone before the presence pulse begins. -/
theorem reset_behind_lost_device :
    let answered := (perform (.pin .setInput) (perform (.wait ⟨.micros, 480⟩) (perform (.pin (.drive false))
      (perform (.pin .setOutput) ({}, .fresh true)).2).2).2).2
    let lost := (perform (.present false) answered).2
    answered.2.device.window = some (495000, 615000) ∧ (reset lost).1.outcome = .error (.bus .noDevice) ∧
      (reset lost).2.2.now = 1440000 := by
  intro answered lost
  have reachable : Reachable lost := .step (.step (.step (.step (.step (.fresh true) _) _) _) _) _
  have gone : lost.2.device.present = false := rfl
  have begun : lost.2.now = 480000 := by decide
  obtain ⟨-, absent, -, -, -, -, -, -, -, time⟩ := reset_anywhere reachable
  rw [begun] at time
  refine ⟨?_, absent gone, time⟩
  decide

end Line
end Thermowire
