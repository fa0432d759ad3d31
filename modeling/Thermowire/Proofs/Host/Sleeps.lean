import Thermowire.Host.Run

/-! The sleeps of the host. A run is cut off right behind a sleep of a given number, and what comes later has no part
in where that is. -/
namespace Thermowire.Host

def Moment.sleep? : Moment → Option Wait
  | sleep wait => some wait
  | _ => none

def sleeps (moments : List Moment) : List Wait := moments.filterMap Moment.sleep?

@[simp] theorem sleeps_append (first second : List Moment) : sleeps (first ++ second) = sleeps first ++ sleeps second :=
  List.filterMap_append

theorem length_sleeps_cons (moment : Moment) (rest : List Moment) :
    (sleeps (moment :: rest)).length = (sleeps rest).length + if moment.isSleep then 1 else 0 := by
  cases moment <;> rfl

theorem length_sleeps_le {first second : List Moment} (begins : first <+: second) :
    (sleeps first).length ≤ (sleeps second).length := (begins.filterMap Moment.sleep?).length_le

section Cut
variable {n : Nat} {moments part : List Moment}

/-- Moments that break off right behind their n-th sleep. -/
structure EndsAt (n : Nat) (part : List Moment) : Prop where
  count : (sleeps part).length = n
  last : ∀ moment ∈ part.getLast?, moment.isSleep

theorem EndsAt.cons {moment : Moment} (ends : EndsAt (if moment.isSleep then n else n + 1) part) :
    EndsAt (n + 1) (moment :: part) where
  count := by
    rw [length_sleeps_cons, ends.count]
    split <;> rfl
  last := by
    intro last member
    cases part with
    | nil =>
      cases member
      by_cases asleep : moment.isSleep
      · exact asleep
      · have counted := ends.count
        rw [if_neg asleep] at counted
        cases counted
    | cons next rest => exact ends.last last member

theorem EndsAt.exists_last (ends : EndsAt n part) (positive : 0 < n) :
    ∃ former wait, part = former ++ [.sleep wait] := by
  cases final : part.getLast? with
  | none =>
    obtain rfl := List.getLast?_eq_none_iff.mp final
    exact absurd ends.count (Nat.ne_of_lt positive)
  | some moment =>
    have asleep := ends.last moment final
    obtain ⟨former, rfl⟩ := List.getLast?_eq_some_iff.mp final
    cases moment with
    | sleep wait => exact ⟨former, wait, rfl⟩
    | _ => cases asleep

theorem endsAt_of_untilSleep (cut : untilSleep n moments = some part) : part <+: moments ∧ EndsAt n part := by
  fun_induction untilSleep n moments generalizing part with
  | case1 moments =>
    cases cut
    exact ⟨List.nil_prefix, rfl, nofun⟩
  | case2 n => cases cut
  | case3 n moment rest ih =>
    obtain ⟨behind, later, rfl⟩ := Option.map_eq_some_iff.mp cut
    obtain ⟨begins, ends⟩ := ih later
    exact ⟨(List.prefix_cons_inj moment).mpr begins, ends.cons⟩

theorem untilSleep_eq_none_iff : untilSleep n moments = none ↔ (sleeps moments).length < n := by
  fun_induction untilSleep n moments with
  | case1 moments => exact ⟨nofun, nofun⟩
  | case2 n => exact ⟨fun _ => Nat.succ_pos n, fun _ => rfl⟩
  | case3 n moment rest ih =>
    rw [Option.map_eq_none_iff, ih, length_sleeps_cons]
    split <;> omega

theorem untilSleep_append (cut : untilSleep n moments = some part) (later : List Moment) :
    untilSleep n (moments ++ later) = some part := by
  fun_induction untilSleep n moments generalizing part with
  | case1 moments =>
    cases cut
    exact untilSleep.eq_1 _
  | case2 n => cases cut
  | case3 n moment rest ih =>
    obtain ⟨behind, sooner, rfl⟩ := Option.map_eq_some_iff.mp cut
    rw [List.cons_append, untilSleep, ih sooner, Option.map_some]

/-- What is cut off earlier is a beginning of what is cut off later, or of all moments if they are too few. -/
theorem untilSleep_begins (cut : untilSleep n moments = some part) :
    part <+: (untilSleep (n + 1) moments).getD moments := by
  obtain ⟨begins, ends⟩ := endsAt_of_untilSleep cut
  cases farther : untilSleep (n + 1) moments with
  | none => exact begins
  | some long =>
    obtain ⟨also, beyond⟩ := endsAt_of_untilSleep farther
    rcases List.prefix_or_prefix_of_prefix begins also with shorter | longer
    · exact shorter
    · have fewer := length_sleeps_le longer
      rw [beyond.count, ends.count] at fewer
      exact absurd fewer (Nat.not_succ_le_self n)

end Cut

section Cycles

theorem exists_cycle (machine : Machine) :
    ∃ moments record after, cycle machine = (moments ++ [.log record, .sleep readInterval], after) := ⟨_, _, _, rfl⟩

theorem cycles_begins {few many : Nat} (le : few ≤ many) (machine : Machine) :
    cycles few machine <+: cycles many machine := by
  induction few generalizing many machine with
  | zero => exact List.nil_prefix
  | succ few ih =>
    obtain ⟨more, rfl⟩ := Nat.exists_eq_add_of_le' le
    exact List.prefix_append_right_inj _ |>.mpr (ih (Nat.le_add_left ..) _)

theorem le_sleeps_cycles (count : Nat) (machine : Machine) : count ≤ (sleeps (cycles count machine)).length := by
  induction count generalizing machine with
  | zero => exact Nat.zero_le _
  | succ count ih =>
    obtain ⟨moments, record, after, told⟩ := exists_cycle machine
    have later := ih after
    rw [cycles, told, sleeps_append, sleeps_append, List.length_append, List.length_append]
    change count + 1 ≤ (sleeps moments).length + 1 + _
    omega

end Cycles

section Run
variable {script : Script} {n count : Nat}

def startFails (script : Script) : Bool := !(drive BusWire.start.onRig { script }).1.isOk

theorem busMoments_cases (script : Script) :
    (startFails script ∧ ∃ moments, ∀ count, busMoments script count = moments) ∨
      ∃ moments machine, ∀ count, busMoments script count = moments ++ cycles count machine := by
  unfold startFails busMoments
  generalize drive BusWire.start.onRig { script } = driven
  obtain ⟨result, moments, machine⟩ := driven
  cases result with
  | error error => exact .inl ⟨rfl, moments ++ [.log (.startFailed error)], fun _ => rfl⟩
  | ok status =>
    refine .inr ⟨moments ++ [.log .started], machine, fun count => ?_⟩
    rw [List.append_assoc]
    rfl

/-- As many cycles as sleeps are enough, unless there are no cycles. -/
theorem untilSleep_busMoments (enough : n ≤ count) :
    (∃ part, untilSleep n (busMoments script n) = some part ∧ untilSleep n (busMoments script count) = some part) ∨
      startFails script ∧ untilSleep n (busMoments script n) = none ∧
        busMoments script count = busMoments script n := by
  cases cut : untilSleep n (busMoments script n) with
  | some part =>
    refine .inl ⟨part, rfl, ?_⟩
    rcases busMoments_cases script with ⟨-, moments, told⟩ | ⟨moments, machine, told⟩
    · rw [told] at cut ⊢
      exact cut
    · obtain ⟨later, same⟩ := cycles_begins enough machine
      rw [told, ← same, ← List.append_assoc, ← told]
      exact untilSleep_append cut later
  | none =>
    refine .inr ?_
    rcases busMoments_cases script with ⟨fails, moments, told⟩ | ⟨moments, machine, told⟩
    · exact ⟨fails, rfl, by rw [told, told]⟩
    · -- a start that succeeds has n cycles behind it, which bring n sleeps
      have few := untilSleep_eq_none_iff.mp cut
      have many := le_sleeps_cycles n machine
      rw [told, sleeps_append, List.length_append] at few
      omega

theorem run_cases (script : Script) (enough : n ≤ count) :
    let stages := Stage.all.map Moment.stage
    (∃ part, untilSleep n (busMoments script count) = some part ∧
        run { script, sleeps := n } = (stages ++ part, .slept)) ∨
      startFails script ∧ untilSleep n (busMoments script count) = none ∧
        run { script, sleeps := n } = (stages ++ busMoments script count, .startFailed) := by
  intro stages
  rcases untilSleep_busMoments enough with ⟨part, cut, same⟩ | ⟨fails, few, same⟩
  · refine .inl ⟨part, same, ?_⟩
    simp only [run, cut]
    rfl
  · refine .inr ⟨fails, same ▸ few, ?_⟩
    simp only [run, few, same]
    rfl

end Run

end Thermowire.Host
