import Thermowire.Proofs.Service

/-! Runs told by what their world answers. A program runs through the one course that its world carries,
and follows any other course as far as the world carries that. -/
namespace Thermowire

section Carries
variable {I : Interface} {σ : Type} {world : World I σ}

theorem carries_append {state last : σ} {first second : List (Event I)} :
    Carries world state (first ++ second) last ↔
      ∃ middle, Carries world state first middle ∧ Carries world middle second last := by
  induction first generalizing state with
  | nil =>
    constructor
    · intro carries
      exact ⟨state, rfl, carries⟩
    · rintro ⟨_, rfl, carries⟩
      exact carries
  | cons event rest ih =>
    constructor
    · rintro ⟨given, carries⟩
      obtain ⟨middle, one, two⟩ := ih.mp carries
      exact ⟨middle, ⟨given, one⟩, two⟩
    · rintro ⟨middle, ⟨given, one⟩, two⟩
      exact ⟨given, ih.mpr ⟨middle, one, two⟩⟩

end Carries

namespace Program
variable {I : Interface} {α σ : Type} {program : Program I α} {world : World I σ} {state : σ}

theorem run_eq_of_carries {history : List (Event I)} {value : α} {last : σ}
    (course : program.Course history value) (carries : Carries world state history last) :
    program.run world state = ⟨value, last, history⟩ := by
  induction program generalizing state history with
  | done given =>
    obtain ⟨rfl, rfl⟩ := course
    obtain rfl : last = state := carries
    rfl
  | call request next ih =>
    obtain ⟨answer, rest, rfl, course⟩ := course
    obtain ⟨given, carries⟩ := carries
    obtain rfl : answer = (world request state).1 := given
    rw [run]
    dsimp only
    rw [ih _ course carries]

/-- Where the world ceases to carry a course, the run has made the same call and got the world's answer. -/
theorem run_follows {past later : List (Event I)} {request : I.Call} {answer : I.Answer request} {value : α}
    {middle : σ} (course : program.Course (past ++ ⟨request, answer⟩ :: later) value)
    (carries : Carries world state past middle) :
    ∃ tail, (program.run world state).history = past ++ ⟨request, (world request middle).1⟩ :: tail := by
  induction program generalizing state past with
  | done given => exact absurd course.1 (List.append_ne_nil_of_right_ne_nil _ (List.cons_ne_nil _ _))
  | call asked next ih =>
    obtain ⟨reply, rest, split, course⟩ := course
    cases past with
    | nil =>
      obtain ⟨same, rfl⟩ := List.cons.inj split
      cases same
      obtain rfl : middle = state := carries
      exact ⟨_, rfl⟩
    | cons event past =>
      obtain ⟨rfl, rfl⟩ := List.cons.inj split
      obtain ⟨given, carries⟩ := carries
      obtain rfl : reply = (world asked state).1 := given
      obtain ⟨tail, same⟩ := ih _ course carries
      exact ⟨tail, congrArg (_ :: ·) same⟩

end Program

end Thermowire
