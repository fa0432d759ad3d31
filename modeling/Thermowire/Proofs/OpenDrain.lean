import Thermowire.Proofs.Wiring

/-! A master on an open-drain pad is a master on a pin. Where the pin can always be made an output and the
pad fails at the corresponding calls, steps of any number and kind give the same on either, and the calls of
the pad are those of the pin as a pad makes them. -/
namespace Thermowire

/-- What is seen of a step: its outcome, what the rig remembers behind it, its calls and its log. -/
structure Account (I : Interface) where
  outcome : Outcome Presence (MasterError PinFault)
  rig : Rig
  trace : List (Event I.surrounded)
  log : List Record

def Account.onPad (account : Account (PinInterface PinFault)) : Account (PadInterface PinFault) :=
  { account with trace := account.trace.filterMap Event.onPad? }

def MasterStep.account (wiring : Script.Wiring) (step : MasterStep) (state : Rig × Script) :
    Account wiring.interface × Rig × Script :=
  let run := wiring.run (step.program.run state.1) state.2
  (⟨run.value.1, run.value.2, calls run.history, run.records⟩, run.value.2, run.state)

def Script.trace (script : Script) (steps : List MasterStep) (rig : Rig) : PinHistory PinFault :=
  (reports (MasterStep.account .direct) steps (rig, script)).flatMap Account.trace

section History
variable {E : Type}

def Event.unset : Event (PinInterface E).surrounded → Bool
  | ⟨.own .setOutput, .error _⟩ => true
  | _ => false

theorem calls_onPad (history : PinHistory E) :
    calls (history.filterMap Event.onPad?) = (calls history).filterMap Event.onPad? := by
  rw [calls, calls, List.filter_filterMap, List.filterMap_filter]
  congr 1
  funext event
  rcases event with ⟨(_ | _ | high | _) | (wait | _ | _ | record), answer⟩ <;> rfl

theorem records_onPad (history : PinHistory E) :
    (history.filterMap Event.onPad?).filterMap Event.record? = history.filterMap Event.record? := by
  rw [List.filterMap_filterMap]
  congr 1
  funext event
  rcases event with ⟨(_ | _ | high | _) | (wait | _ | _ | record), answer⟩ <;> rfl

end History

namespace Script.Wiring
variable {wiring : Wiring} {script : Script}

theorem counted_calls (history : PinHistory PinFault) :
    wiring.counted (Thermowire.calls history) = wiring.counted history := by
  induction history with
  | nil => rfl
  | cons event rest ih =>
    obtain ⟨call | call, answer⟩ := event
    · change wiring.counted (⟨.own call, answer⟩ :: Thermowire.calls rest) = _
      rw [counted_own, counted_own, ih]
    · rw [counted_ambient, ← ih]
      cases call with
      | log record => rfl
      | _ => exact counted_ambient wiring _ _

theorem Strikes.of_calls {history : PinHistory PinFault} (strikes : wiring.Strikes script (Thermowire.calls history)) :
    wiring.Strikes script history := by
  intro past call answer later split
  have shorter : Thermowire.calls history =
      Thermowire.calls past ++ ⟨.own call, answer⟩ :: Thermowire.calls later := by
    rw [split, calls_append]
    rfl
  rw [strikes _ _ _ _ shorter, fault?, fault?, counted_calls]

theorem Strikes.left {first second : PinHistory PinFault} (strikes : wiring.Strikes script (first ++ second)) :
    wiring.Strikes script first := by
  intro past call answer later split
  apply strikes past call answer (later ++ second)
  rw [split, List.append_assoc, List.cons_append]

theorem Strikes.right {first second : PinHistory PinFault} (strikes : wiring.Strikes script (first ++ second))
    (levels : List Bool) :
    wiring.Strikes { script with calls := script.calls + wiring.counted first, levels := levels } second := by
  intro past call answer later split
  have behind := strikes (first ++ past) call answer later (by rw [split, List.append_assoc])
  rw [behind, fault?, fault?, counted_append, faultAfter, faultAfter, Nat.add_assoc]
  rfl

/-- The failures of a history, numbered as the calls of the wiring. -/
def faultsOf (wiring : Wiring) (number : Nat) : PinHistory PinFault → List (Nat × UInt8)
  | [] => []
  | ⟨.own call, answer⟩ :: rest =>
    if wiring.counts call then
      match PinLike.fault? (I := PinInterface PinFault) call answer with
      | some fault => (number, fault.code) :: wiring.faultsOf (number + 1) rest
      | none => wiring.faultsOf (number + 1) rest
    else wiring.faultsOf number rest
  | ⟨.ambient _, _⟩ :: rest => wiring.faultsOf number rest

theorem lookup_faultsOf_of_lt {number earlier : Nat} (less : earlier < number) (history : PinHistory PinFault) :
    (wiring.faultsOf number history).lookup earlier = none := by
  induction history generalizing number with
  | nil => rfl
  | cons event rest ih =>
    have later := ih (Nat.lt_succ_of_lt less)
    obtain ⟨call | call, answer⟩ := event
    · rw [faultsOf]
      split
      · split
        · rw [List.lookup_cons, beq_false_of_ne (Nat.ne_of_lt less)]
          exact later
        · exact later
      · exact ih less
    · exact ih less

theorem lookup_faultsOf {call : PinCall} {answer : call.Answer PinFault} (scripted : wiring.counts call)
    (past later : PinHistory PinFault) (number : Nat) :
    ((wiring.faultsOf number (past ++ ⟨.own call, answer⟩ :: later)).lookup (number + wiring.counted past)).map .mk =
      PinLike.fault? (I := PinInterface PinFault) call answer := by
  induction past generalizing number with
  | nil =>
    rw [List.nil_append, faultsOf, if_pos scripted]
    change (List.lookup number _).map _ = _
    cases failed : PinLike.fault? (I := PinInterface PinFault) call answer with
    | some fault => exact congrArg _ List.lookup_cons_self
    | none => exact congrArg _ (lookup_faultsOf_of_lt (Nat.lt_succ_self number) later)
  | cons event past ih =>
    obtain ⟨made | made, given⟩ := event
    · rw [List.cons_append, faultsOf, counted_own]
      by_cases counts : wiring.counts made
      · rw [if_pos counts, if_pos counts, ← Nat.add_assoc]
        cases PinLike.fault? (I := PinInterface PinFault) made given with
        | some fault =>
          have behind : number < number + 1 + wiring.counted past := by omega
          dsimp only
          rw [List.lookup_cons, beq_false_of_ne (Nat.ne_of_gt behind)]
          exact ih (number + 1)
        | none => exact ih (number + 1)
      · rw [if_neg counts, if_neg counts, Nat.zero_add]
        exact ih number
    · rw [List.cons_append, faultsOf, counted_ambient]
      exact ih number

theorem strikes_faultsOf (levels : List Bool) {history : PinHistory PinFault}
    (sound : ∀ call answer, ⟨.own call, answer⟩ ∈ history → ¬ wiring.counts call →
      PinLike.fault? (I := PinInterface PinFault) call answer = none) :
    wiring.Strikes ⟨levels, wiring.faultsOf 0 history, 0⟩ history := by
  intro past call answer later split
  by_cases scripted : wiring.counts call
  · rw [fault?, if_pos scripted, split]
    exact (lookup_faultsOf scripted past later 0).symm
  · rw [fault?, if_neg scripted]
    apply sound call answer _ scripted
    rw [split]
    exact List.mem_append_right past (List.mem_cons_self ..)

theorem strikes_of_drivable (levels : List Bool) {history : PinHistory PinFault}
    (drivable : ∀ event ∈ history, ¬ event.unset) :
    openDrain.Strikes ⟨levels, openDrain.faultsOf 0 history, 0⟩ history := by
  apply strikes_faultsOf
  intro call answer member free
  cases call with
  | setOutput =>
    cases answer with
    | error fault => exact absurd rfl (drivable _ member)
    | ok value => rfl
  | _ => exact absurd rfl free

end Script.Wiring

section Steps
variable {direct pad : Script}

theorem account_openDrain (step : MasterStep) (rig : Rig) (levels : pad.levels = direct.levels)
    (strikes : Script.Wiring.openDrain.Strikes pad (step.account .direct (rig, direct)).1.trace) :
    step.account .openDrain (rig, pad) =
      ((step.account .direct (rig, direct)).1.onPad, (step.account .direct (rig, direct)).2.1,
        { pad with
          calls := pad.calls + Script.Wiring.openDrain.counted (step.account .direct (rig, direct)).1.trace
          levels := (step.account .direct (rig, direct)).2.2.levels }) := by
  have carried := Program.carries_run (step.program.run rig) Script.pin direct
  have rewired := Script.Wiring.carries_rewired .direct .openDrain (fun _ _ => rfl) carried levels
    strikes.of_calls
  have same := Program.run_eq_of_carries (Program.course_run (step.program.run rig) Script.pin direct) rewired
  have ran : Script.Wiring.openDrain.run (step.program.run rig) pad = _ :=
    (Script.Wiring.openDrain.run_eq _ pad).trans (by rw [same])
  rw [MasterStep.account]
  dsimp only
  rw [ran]
  simp only [Run.records, Script.Wiring.record, calls_onPad, records_onPad]
  rw [← Script.Wiring.counted_calls]
  rfl

/-- Whatever the steps, the levels and the failures are, as long as the pin can always be made an output: there
are pads that fail at the corresponding calls, and on each of them that reads the same levels the steps give
and log the same, leave the same direction and phase, and make the calls of the pin as a pad makes them. -/
theorem openDrain_refines (steps : List MasterStep) (rig : Rig) (script : Script)
    (drivable : ∀ event ∈ script.trace steps rig, ¬ event.unset) :
    (∃ pad : Script, pad.levels = script.levels ∧ Script.Wiring.openDrain.Strikes pad (script.trace steps rig)) ∧
      ∀ pad : Script, pad.levels = script.levels →
        Script.Wiring.openDrain.Strikes pad (script.trace steps rig) →
        reports (MasterStep.account .openDrain) steps (rig, pad) =
          (reports (MasterStep.account .direct) steps (rig, script)).map Account.onPad := by
  constructor
  · exact ⟨⟨script.levels, _, 0⟩, rfl, Script.Wiring.strikes_of_drivable script.levels drivable⟩
  · intro pad levels strikes
    induction steps generalizing rig script pad with
    | nil => rfl
    | cons step rest ih =>
      have first := account_openDrain step rig levels strikes.left
      rw [reports, reports, first]
      refine List.cons_eq_cons.mpr ⟨rfl, ih _ _ ?_ _ rfl (strikes.right _)⟩
      exact fun event member => drivable event (List.mem_append_right _ member)

/-- A pad that fails twice to be set high: under a reset, which is to make the pin an input, and in a slot, which
drives it. -/
theorem openDrain_refines_failed_releases :
    let steps : List MasterStep := [.session (.bus .reset), .session (.bus (.writeBit true))]
    let direct : Script := ⟨[], [(2, 7), (5, 9)], 0⟩
    let pad : Script := ⟨[], [(1, 7), (3, 9)], 0⟩
    (∀ event ∈ direct.trace steps {}, ¬ event.unset) ∧
      Script.Wiring.openDrain.Strikes pad (direct.trace steps {}) ∧
      reports (MasterStep.account .openDrain) steps ({}, pad) =
        (reports (MasterStep.account .direct) steps ({}, direct)).map Account.onPad ∧
      (reports (MasterStep.account .openDrain) steps ({}, pad)).map Account.outcome =
        [.error (.bus (.other (.configure ⟨7⟩))), .error (.bus (.other (.pin ⟨9⟩)))] := by
  intro steps direct pad
  have drivable : ∀ event ∈ direct.trace steps {}, ¬ event.unset := by decide
  have strikes := Script.Wiring.strikes_of_drivable [] drivable
  have stored : Script.Wiring.openDrain.faultsOf 0 (direct.trace steps {}) = [(1, 7), (3, 9)] := by
    decide +kernel
  rw [stored] at strikes
  refine ⟨drivable, strikes, (openDrain_refines steps {} direct drivable).2 pad rfl strikes, rfl⟩

end Steps

end Thermowire
