import Thermowire.Proofs.Passage
import Thermowire.Script

/-! The master never leaves the line low of its own accord. Each of its courses ends with the line let
go, unless a call that was to let it go has failed; and then it stays so until such a call succeeds. -/
namespace Thermowire

section Grip
variable {E : Type}

def Event.pulled? : Event (PinInterface E).surrounded → Option Bool
  | ⟨.own (.drive high), .ok _⟩ => some !high
  | ⟨.own .setInput, .ok _⟩ => some false
  | _ => none

def Event.released? : Event (PinInterface E).surrounded → Option Bool
  | ⟨.own (.drive true), .ok _⟩ => some true
  | ⟨.own (.drive true), .error _⟩ => some false
  | ⟨.own .setInput, .ok _⟩ => some true
  | ⟨.own .setInput, .error _⟩ => some false
  | _ => none

/-- Whether the master holds the line low after a history that began with the line let go. -/
def low (history : PinHistory E) : Bool := latest Event.pulled? false history

/-- A line that was low only if the last release had failed is so again after the history. -/
def Excused (history : PinHistory E) : Prop :=
  ∀ held free, (held = true → free = false) → latest Event.pulled? held history = true →
    latest Event.released? free history = false

theorem Excused.append {first second : PinHistory E} (begun : Excused first) (rest : Excused second) :
    Excused (first ++ second) := by
  intro held free excuse
  rw [latest_append, latest_append]
  exact rest _ _ (begun held free excuse)

theorem kept_excused : Kept fun _ (history : PinHistory E) _ => Excused history where
  nil _ _ _ excuse := excuse
  append begun rest := begun.append rest
  ambient _ _ _ _ excuse := excuse
  settle course := by
    intro held free excuse
    cases course with
    | unset error => exact excuse
    | undriven error => exact fun _ => rfl
    | finished => nofun
  reset course := by
    intro held free excuse
    cases course with
    | unset error => exact excuse
    | undriven error => exact excuse
    | unreleased error => exact fun _ => rfl
    | _ => nofun
  write course := by
    intro held free excuse
    cases course with
    | unset error => exact excuse
    | undriven error => exact excuse
    | unreleased error => exact fun _ => rfl
    | finished => nofun
  read course := by
    intro held free excuse
    cases course with
    | unset error => exact excuse
    | undriven error => exact excuse
    | unreleased error => exact fun _ => rfl
    | _ => nofun

theorem MasterStep.CourseOnPin.excused {step : MasterStep} {rig after : Rig} {history : PinHistory E}
    {outcome : Outcome Presence (MasterError E)} (course : step.CourseOnPin rig history outcome after)
    (publicly : step.isPublic) : Excused history := by
  rcases course.kept kept_excused publicly with excused | ⟨-, rfl, -⟩
  · exact excused
  · exact kept_excused.nil .unconfigured

end Grip

section Run
variable {E σ : Type} (world : World (PinInterface E).surrounded σ)

theorem excused_passages (steps : List MasterStep) (state : Rig × σ) (publicly : ∀ step ∈ steps, step.isPublic) :
    Excused ((passages world steps state).flatMap Passage.history) := by
  induction steps generalizing state with
  | nil => exact kept_excused.nil .unconfigured
  | cons step rest ih =>
    have first := (step.course_pass world state).excused (publicly step (List.mem_cons_self ..))
    exact first.append (ih _ fun later member => publicly later (List.mem_cons_of_mem _ member))

/-- After public steps of any number and kind, whatever the pin answers, the line is low only when the
last call that was to let it go has failed; so it is let go wherever no such call fails. -/
theorem released_after_steps (steps : List MasterStep) (state : Rig × σ)
    (publicly : ∀ step ∈ steps, step.isPublic) :
    let history := (passages world steps state).flatMap Passage.history
    (low history → ∃ past event later, history = past ++ event :: later ∧ event.released? = some false ∧
        ∀ other ∈ later, other.released? = none) ∧
      ((∀ event ∈ history, event.released? ≠ some false) → low history = false) := by
  intro history
  have reason (held : low history = true) : ∃ past event later, history = past ++ event :: later ∧
      event.released? = some false ∧ ∀ other ∈ later, other.released? = none := by
    have failed := excused_passages world steps state publicly false true nofun held
    exact exists_of_latest (by decide) failed
  refine ⟨reason, fun sound => ?_⟩
  cases held : low history with
  | false => rfl
  | true =>
    obtain ⟨past, event, later, split, failed, -⟩ := reason held
    have member : event ∈ history := by
      rw [split]
      exact List.mem_append_right past (List.mem_cons_self ..)
    exact absurd failed (sound event member)

/-- A reset whose third call fails, the one that makes the pin an input, leaves the line low. -/
theorem low_after_failed_release :
    let history := (passages Script.pin [.session (.bus .reset)] ({}, ⟨[], [(2, 7)], 0⟩)).flatMap Passage.history
    low history = true ∧ ∃ past event later, history = past ++ event :: later ∧
      event.released? = some false ∧ ∀ other ∈ later, other.released? = none := by
  intro history
  have held : low history = true := by decide
  exact ⟨held, (released_after_steps Script.pin _ _ (by decide)).1 held⟩

end Run

end Thermowire
