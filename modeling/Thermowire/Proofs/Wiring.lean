import Thermowire.Bench
import Thermowire.Proofs.Passage
import Thermowire.Proofs.Replay

/-! The wirings of a scripted master. Its pin is a pin of its own or an open-drain pad in its place; the
pad stands for a pin of which every call but one is a call of the pad. Two wirings on which the same levels
are read and the same calls fail carry the same histories. -/
namespace Thermowire

class PinLike (I : Interface) (E : outParam Type) where
  fault? : (call : I.Call) → I.Answer call → Option E

instance {E : Type} : PinLike (PinInterface E) E where
  fault?
    | .setOutput, answer => failureOf answer
    | .setInput, answer => failureOf answer
    | .drive _, answer => failureOf answer
    | .sample, answer => failureOf answer

instance {E : Type} : PinLike (PadInterface E) E where
  fault?
    | .put _, answer => failureOf answer
    | .read, answer => failureOf answer

section Interface
variable {I : Interface} {E : Type}

def Event.isOwn : Event I.surrounded → Bool
  | ⟨.own _, _⟩ => true
  | ⟨.ambient _, _⟩ => false

def Event.fault? [PinLike I E] : Event I.surrounded → Option E
  | ⟨.own call, answer⟩ => PinLike.fault? call answer
  | ⟨.ambient _, _⟩ => none

def ownCalls (history : List (Event I.surrounded)) : Nat := history.countP Event.isOwn

theorem ownCalls_own (call : I.Call) (answer : I.Answer call) (history : List (Event I.surrounded)) :
    ownCalls (⟨.own call, answer⟩ :: history) = 1 + ownCalls history :=
  (List.countP_cons_of_pos rfl).trans (Nat.add_comm _ _)

end Interface

section OpenDrain
variable {E α σ : Type}

/-- A pin's call as a pad makes it. To be an output, the pad has nothing to do. -/
def Event.onPad? : Event (PinInterface E).surrounded → Option (Event (PadInterface E).surrounded)
  | ⟨.own .setOutput, _⟩ => none
  | ⟨.own .setInput, answer⟩ => some ⟨.own (.put true), answer⟩
  | ⟨.own (.drive high), answer⟩ => some ⟨.own (.put high), answer⟩
  | ⟨.own .sample, answer⟩ => some ⟨.own .read, answer⟩
  | ⟨.ambient call, answer⟩ => some ⟨.ambient call, answer⟩

def World.openDrain (pad : World (PadInterface E).surrounded σ) : World (PinInterface E).surrounded σ
  | .own .setOutput, state => (.ok (), state)
  | .own .setInput, state => pad (.own (.put true)) state
  | .own (.drive high), state => pad (.own (.put high)) state
  | .own .sample, state => pad (.own .read) state
  | .ambient call, state => pad (.ambient call) state

theorem run_onPad (program : Program (PinInterface E).surrounded α) (pad : World (PadInterface E).surrounded σ)
    (state : σ) :
    program.onPad.run pad state =
      let run := program.run pad.openDrain state
      ⟨run.value, run.state, run.history.filterMap Event.onPad?⟩ := by
  induction program generalizing state with
  | done value => rfl
  | call request next ih =>
    rcases request with (_ | _ | high | _) | call
    · exact ih (.ok ()) state
    all_goals
      rw [Program.run]
      exact congrArg (fun run : Run _ σ α => (⟨run.value, run.state, _ :: run.history⟩ : Run _ σ α)) (ih _ _)

end OpenDrain

namespace Script

def faultAfter (script : Script) (count : Nat) : Option PinFault :=
  { script with calls := script.calls + count }.fault?

namespace Wiring

abbrev interface : Wiring → Interface
  | direct => PinInterface PinFault
  | openDrain => PadInterface PinFault

instance (wiring : Wiring) : PinLike wiring.interface PinFault :=
  match wiring with
  | direct => inferInstanceAs (PinLike (PinInterface PinFault) PinFault)
  | openDrain => inferInstanceAs (PinLike (PadInterface PinFault) PinFault)

def record : (wiring : Wiring) → Event (PinInterface PinFault).surrounded →
    Option (Event wiring.interface.surrounded)
  | direct => some
  | openDrain => Event.onPad?

def run {α : Type} (wiring : Wiring) (program : Program (PinInterface PinFault).surrounded α)
    (script : Script) : Run wiring.interface.surrounded Script α :=
  match wiring with
  | direct => program.run Script.pin script
  | openDrain => program.onPad.run Script.pad script

def pin : Wiring → World (PinInterface PinFault).surrounded Script
  | direct => Script.pin
  | openDrain => Script.pad.openDrain

theorem run_eq {α : Type} (wiring : Wiring) (program : Program (PinInterface PinFault).surrounded α)
    (script : Script) :
    wiring.run program script =
      let run := program.run wiring.pin script
      ⟨run.value, run.state, run.history.filterMap wiring.record⟩ := by
  cases wiring with
  | direct => exact congrArg (Run.mk _ _) List.filterMap_some.symm
  | openDrain => exact run_onPad program Script.pad script

def counts : Wiring → PinCall → Bool
  | openDrain, .setOutput => false
  | _, _ => true

def counted (wiring : Wiring) (history : PinHistory PinFault) : Nat :=
  ownCalls (history.filterMap wiring.record)

@[simp] theorem counted_nil (wiring : Wiring) : wiring.counted [] = 0 := by
  cases wiring <;> rfl

theorem counted_append (wiring : Wiring) (first second : PinHistory PinFault) :
    wiring.counted (first ++ second) = wiring.counted first + wiring.counted second := by
  rw [counted, List.filterMap_append, ownCalls, List.countP_append]
  rfl

@[simp] theorem counted_own (wiring : Wiring) (call : PinCall) (answer : call.Answer PinFault)
    (history : PinHistory PinFault) :
    wiring.counted (⟨.own call, answer⟩ :: history) =
      (if wiring.counts call then 1 else 0) + wiring.counted history := by
  cases wiring with
  | direct => exact ownCalls_own call answer _
  | openDrain =>
    cases call with
    | setOutput => exact (Nat.zero_add _).symm
    | _ => exact ownCalls_own (I := PadInterface PinFault) _ _ _

@[simp] theorem counted_ambient (wiring : Wiring) (call : Ambient) (history : PinHistory PinFault) :
    wiring.counted (⟨.ambient call, ()⟩ :: history) = wiring.counted history := by
  cases wiring <;> rfl

theorem pin_of_counts {wiring : Wiring} {call : PinCall} (scripted : wiring.counts call) (script : Script) :
    wiring.pin (.own call) script = Script.pin (.own call) script := by
  cases wiring with
  | direct => rfl
  | openDrain =>
    cases call with
    | setOutput => cases scripted
    | _ => rfl

def fault? (wiring : Wiring) (script : Script) (past : PinHistory PinFault) (call : PinCall) : Option PinFault :=
  if wiring.counts call then script.faultAfter (wiring.counted past) else none

/-- Whether just those calls of a history failed that the script strikes on the wiring. -/
def Strikes (wiring : Wiring) (script : Script) (history : PinHistory PinFault) : Prop :=
  ∀ past call answer later, history = past ++ ⟨.own call, answer⟩ :: later →
    PinLike.fault? (I := PinInterface PinFault) call answer = wiring.fault? script past call

end Wiring

section Same
variable {α : Type} {script other : Script}

theorem attempt_alike {succeed : Script → α × Script}
    (same : ∀ one two : Script, two.levels = one.levels → (succeed two).1 = (succeed one).1 ∧
      (succeed two).2 = { two with levels := (succeed one).2.levels })
    (levels : other.levels = script.levels)
    (struck : failureOf (script.attempt succeed).1 = other.fault?) :
    (other.attempt succeed).1 = (script.attempt succeed).1 ∧
      (other.attempt succeed).2 = { other.count with levels := (script.attempt succeed).2.levels } := by
  have counted := same script.count other.count levels
  unfold attempt at struck ⊢
  cases stored : script.fault? with
  | some fault =>
    rw [stored] at struck
    rw [← struck]
    refine ⟨rfl, ?_⟩
    change other.count = { other.count with levels := script.levels }
    rw [← levels]
    rfl
  | none =>
    rw [stored] at struck
    rw [← struck]
    exact ⟨congrArg Except.ok counted.1, counted.2⟩

theorem nextLevel_alike (one two : Script) (levels : two.levels = one.levels) :
    two.nextLevel.1 = one.nextLevel.1 ∧ two.nextLevel.2 = { two with levels := one.nextLevel.2.levels } := by
  obtain ⟨_, faults, calls⟩ := two
  cases levels
  unfold nextLevel
  cases one.levels <;> exact ⟨rfl, rfl⟩

theorem pin_alike {call : PinCall} (levels : other.levels = script.levels)
    (struck : PinLike.fault? (I := PinInterface PinFault) call (pin (.own call) script).1 = other.fault?) :
    (pin (.own call) other).1 = (pin (.own call) script).1 ∧
      (pin (.own call) other).2 = { other.count with levels := (pin (.own call) script).2.levels } := by
  have quiet (one two : Script) (levels : two.levels = one.levels) :
      () = () ∧ two = { two with levels := one.levels } := by
    rw [← levels]
    exact ⟨rfl, rfl⟩
  cases call with
  | sample => exact attempt_alike nextLevel_alike levels struck
  | _ => exact attempt_alike quiet levels struck

namespace Wiring

theorem pin_ambient (wiring : Wiring) (call : Ambient) (script : Script) :
    wiring.pin (.ambient call) script = ((), script) := by
  cases wiring <;> rfl

theorem levels_setOutput (wiring : Wiring) (script : Script) :
    (wiring.pin (.own .setOutput) script).2.levels = script.levels := by
  cases wiring with
  | direct =>
    change (script.attempt fun script => ((), script)).2.levels = script.levels
    unfold attempt
    cases script.fault? <;> rfl
  | openDrain => rfl

theorem pin_rewired (one two : Wiring) {call : PinCall} (scripted : two.counts call → one.counts call)
    (levels : other.levels = script.levels)
    (struck : PinLike.fault? (I := PinInterface PinFault) call (one.pin (.own call) script).1 =
      two.fault? other [] call) :
    (two.pin (.own call) other).1 = (one.pin (.own call) script).1 ∧
      (two.pin (.own call) other).2 =
        { other with
          calls := other.calls + if two.counts call then 1 else 0
          levels := (one.pin (.own call) script).2.levels } := by
  by_cases counted : two.counts call
  · rw [pin_of_counts counted, pin_of_counts (scripted counted)]
    rw [pin_of_counts (scripted counted), fault?, if_pos counted] at struck
    rw [if_pos counted]
    exact pin_alike levels struck
  · rw [fault?, if_neg counted] at struck
    rw [if_neg counted]
    cases two with
    | direct => exact absurd rfl counted
    | openDrain =>
      cases call with
      | setOutput =>
        rw [levels_setOutput, ← levels]
        cases given : (one.pin (.own .setOutput) script).1 with
        | error fault =>
          rw [given] at struck
          cases struck
        | ok value => exact ⟨rfl, rfl⟩
      | _ => exact absurd rfl counted

theorem fault?_cons (wiring : Wiring) {call other : PinCall} {answer : call.Answer PinFault} {levels : List Bool}
    (script : Script) (past : PinHistory PinFault) :
    wiring.fault?
        { script with calls := script.calls + if wiring.counts call then 1 else 0, levels := levels } past other =
      wiring.fault? script (⟨.own call, answer⟩ :: past) other := by
  rw [fault?, fault?, counted_own, faultAfter, faultAfter, Nat.add_assoc]
  rfl

/-- What one wiring carries is carried by another that reads the same levels and lets the same calls fail. -/
theorem carries_rewired (one two : Wiring) (scripted : ∀ call, two.counts call → one.counts call)
    {history : PinHistory PinFault} {middle : Script} (carries : Carries one.pin script history middle)
    (levels : other.levels = script.levels) (struck : two.Strikes other history) :
    Carries two.pin other history
      { other with calls := other.calls + two.counted history, levels := middle.levels } := by
  induction history generalizing script other with
  | nil =>
    obtain rfl : middle = script := carries
    rw [← levels]
    rfl
  | cons event rest ih =>
    obtain ⟨call | call, answer⟩ := event
    · obtain ⟨given, carries⟩ := carries
      obtain rfl : answer = (one.pin (.own call) script).1 := given
      obtain ⟨same, next⟩ := pin_rewired one two (scripted call) levels (struck [] call _ rest rfl)
      have going := @ih _ (two.pin (.own call) other).2 carries (by rw [next]) (by
        intro past called answer later split
        rw [next, fault?_cons]
        exact struck (_ :: past) called answer later (congrArg _ split))
      refine ⟨same.symm, ?_⟩
      rw [counted_own, ← Nat.add_assoc]
      rw [next] at going ⊢
      exact going
    · obtain ⟨-, carries⟩ := carries
      rw [pin_ambient] at carries
      have going := ih carries levels fun past called answer later split => by
        have behind := struck (⟨.ambient call, ()⟩ :: past) called answer later (congrArg _ split)
        rwa [fault?, counted_ambient] at behind
      refine ⟨rfl, ?_⟩
      rw [pin_ambient, counted_ambient]
      exact going

end Wiring
end Same
end Script
end Thermowire
