import Thermowire.Proofs.Sections

/-! What a session waits for. The waits of a plan are those of its entries that have been reached. Main statement: a step
of the sensor waits once if it has completed a conversion, and no other step waits. -/
namespace Thermowire

variable {S E μ : Type}

theorem Follows.waits_eq_nil {plan : List (Surrounded BusCall × μ)}
    {events : List (Event (BitInterface S E).surrounded)} {stop : Option (BusError E × μ)}
    (follows : Follows (Thermowire.bitwise plan) events stop)
    (awake : ∀ wait mark, (.ambient (.wait wait), mark) ∉ plan) : waits events = [] := by
  refine List.filterMap_eq_nil_iff.mpr fun event member => ?_
  obtain ⟨mark, planned⟩ := follows.mem_plan member
  obtain ⟨_ | (wait | _ | _ | _), answer⟩ := event
  case ambient.wait => exact absurd (mem_of_bitwise planned) (awake wait mark)
  all_goals rfl

theorem not_wait_commandPlan (command : UInt8) (phase : Phase) (wait : Wait) (mark : Phase) :
    (.ambient (.wait wait), mark) ∉ commandPlan command phase := by simp [commandPlan]

theorem not_wait_registerPlan (wait : Wait) (mark : Phase) :
    (.ambient (.wait wait), mark) ∉ Session.registerPlan := by simp [Session.registerPlan, commandPlan]

theorem Follows.waits_conversionPlan {rest : List (Surrounded BusCall × Phase)}
    {events : List (Event (BitInterface S E).surrounded)} {stop : Option (BusError E × Phase)}
    (follows : Follows (Thermowire.bitwise (Session.conversionPlan ++ rest)) events stop)
    (awake : ∀ wait mark, (.ambient (.wait wait), mark) ∉ rest) :
    (waits events = [] ∧ ∃ error, stop = some (error, .convertReset)) ∨
      waits events = [Session.conversionTime] ∧ ∀ error phase, stop = some (error, phase) → phase ∈ rest.map Prod.snd := by
  rw [Session.conversionPlan, List.append_assoc, bitwise_append] at follows
  rcases follows.of_append with ⟨stopped, broken⟩ | ⟨first, second, rfl, through, behind⟩
  · obtain ⟨⟨error, phase⟩, rfl⟩ := Option.isSome_iff_exists.mp broken
    have marked := mem_marks_of_bitwise (stopped.mem_marks rfl)
    obtain rfl : phase = .convertReset := by simpa [commandPlan] using marked
    exact .inl ⟨stopped.waits_eq_nil (not_wait_commandPlan _ _), error, rfl⟩
  · right
    rw [waits_append, through.waits_eq_nil (not_wait_commandPlan _ _)]
    obtain ⟨_, later, rfl, ⟨_, failed, -, -⟩ | ⟨-, others⟩⟩ := Follows.of_planned behind
    · cases failed
    have still : waits later = [] := Follows.waits_eq_nil others awake
    refine ⟨congrArg (Session.conversionTime :: ·) still, fun error phase broken => ?_⟩
    exact mem_marks_of_bitwise (Follows.mem_marks others broken)

/-- Whether a step has completed a conversion: a cycle leaves another phase behind once its command has been sent. -/
def SessionStep.converts : SessionStep → Outcome S E → Phase → Bool
  | sensor .convert, .ok _, _ => true
  | sensor .readTemperature, _, phase => phase != .convertReset
  | _, _, _ => false

theorem SensorStep.phase_of_finishes {wire : List Bool} {value : Except (SensorError E) (Value S) × Phase}
    (finishes : readTemperature.Finishes wire value) : value.2 = .decoded ∨ value.2 = .reading := by
  obtain ⟨pad, -, rfl⟩ := finishes
  cases pad.decode with
  | ok reading => exact .inl rfl
  | error refused => exact .inr rfl

/-- A step waits for the conversion that it completes, and for nothing else. -/
theorem SessionStep.waits_eq {step : SessionStep} {before after : Phase}
    {events : List (Event (BitInterface S E).surrounded)} {outcome : Outcome S E}
    (course : (step.program.run before).byBits.Course events (outcome, after)) :
    waits events = if step.converts outcome after then [Session.conversionTime] else [] := by
  cases step with
  | bus step =>
    obtain ⟨result, follows, -, -⟩ := BusStep.course_byBits course
    rw [← waits_calls]
    exact follows.waits_eq_nil (by cases step <;> simp [BusStep.plan])
  | sensor step =>
    obtain ⟨result, ⟨stop, follows, ends⟩, rfl⟩ := SensorStep.course_byBits course
    rw [← waits_calls]
    cases step with
    | convert =>
      rw [SensorStep.plan, ← List.append_nil Session.conversionPlan] at follows
      rcases follows.waits_conversionPlan (fun _ _ => List.not_mem_nil) with ⟨none, error, rfl⟩ | ⟨waited, later⟩
      · cases ends
        exact none
      · cases stop with
        | some reason => cases later _ _ rfl
        | none =>
          cases ends
          exact waited
    | readScratchpad => exact follows.waits_eq_nil not_wait_registerPlan
    | readTemperature =>
      rcases follows.waits_conversionPlan not_wait_registerPlan with ⟨none, error, rfl⟩ | ⟨waited, later⟩
      · cases ends
        exact none
      · -- past the wait the phase is no longer the one that a failed conversion leaves
        have left : after ≠ .convertReset := by
          cases stop with
          | some reason =>
            cases ends
            have marked := later _ _ rfl
            intro same
            rw [same] at marked
            revert marked
            decide
          | none =>
            obtain rfl | rfl : after = .decoded ∨ after = .reading := SensorStep.phase_of_finishes ends
            · decide
            · decide
        rw [waited, converts, if_pos (bne_iff_ne.mpr left)]
  | newSensor =>
    obtain ⟨rfl, -⟩ := course
    rfl

end Thermowire
