import Thermowire.Host.Pause

/-! The time of a pause. Main statement: a pause lasts exactly as long as its wait asks for, it is spun through just
when that is less than a millisecond and was not asked for in milliseconds, and microseconds are multiplied only where
the product cannot wrap around. -/
namespace Thermowire.Host.Pause

variable {nanos micros : UInt32}

theorem toNat_shortestSleep : shortestSleep.toNat = 1000000 := rfl

theorem nanoseconds_ofNanos (nanos : UInt32) : (ofNanos nanos).nanoseconds = nanos.toNat := by
  unfold ofNanos
  split
  · exact Nat.mul_one _
  · rfl

theorem ofNanos_eq_spin_iff : (∃ spun, ofNanos nanos = .spin spun) ↔ nanos.toNat < 1000000 := by
  rw [← toNat_shortestSleep, ← UInt32.lt_iff_toNat_lt, ofNanos]
  split
  · next long =>
    exact ⟨nofun, fun short => absurd long (UInt32.not_le.mpr short)⟩
  · next short =>
    exact ⟨fun _ => UInt32.not_le.mp short, fun _ => ⟨nanos, rfl⟩⟩

theorem ofMicros_of_overflow (overflows : micros.toBitVec.umulOverflow 1000) :
    ofMicros micros = .sleep ⟨.micros, micros⟩ := by
  refine if_neg (Nat.not_lt.mpr ?_)
  exact of_decide_eq_true overflows

theorem ofMicros_of_not_overflow (fits : ¬ micros.toBitVec.umulOverflow 1000) :
    ofMicros micros = ofNanos (micros * 1000) ∧ (micros * 1000).toNat = micros.toNat * 1000 := by
  constructor
  · refine if_pos (Nat.not_le.mp ?_)
    exact fun overflows => fits (decide_eq_true overflows)
  · exact BitVec.toNat_mul_of_not_umulOverflow fits

theorem nanoseconds_ofMicros (micros : UInt32) : (ofMicros micros).nanoseconds = micros.toNat * 1000 := by
  by_cases overflows : micros.toBitVec.umulOverflow 1000
  · rw [ofMicros_of_overflow overflows]
    rfl
  · obtain ⟨taken, product⟩ := ofMicros_of_not_overflow overflows
    rw [taken, nanoseconds_ofNanos, product]

theorem ofMicros_eq_spin_iff : (∃ spun, ofMicros micros = .spin spun) ↔ micros.toNat * 1000 < 1000000 := by
  by_cases overflows : micros.toBitVec.umulOverflow 1000
  · have long : UInt32.size ≤ micros.toNat * 1000 := of_decide_eq_true overflows
    rw [ofMicros_of_overflow overflows]
    refine ⟨nofun, fun short => absurd short ?_⟩
    exact Nat.not_lt.mpr (Nat.le_trans (by decide) long)
  · obtain ⟨taken, product⟩ := ofMicros_of_not_overflow overflows
    rw [taken, ofNanos_eq_spin_iff, product]

theorem nanoseconds_ofWait (wait : Wait) : (ofWait wait).nanoseconds = wait.nanoseconds := by
  obtain ⟨_ | _ | _, amount⟩ := wait
  · exact (nanoseconds_ofNanos amount).trans (Nat.mul_one _).symm
  · exact nanoseconds_ofMicros amount
  · rfl

theorem ofWait_eq_spin_iff (wait : Wait) :
    (∃ spun, ofWait wait = .spin spun) ↔
      (wait.unit = .nanos ∨ wait.unit = .micros) ∧ wait.nanoseconds < 1000000 := by
  obtain ⟨_ | _ | _, amount⟩ := wait
  · rw [Wait.nanoseconds, TimeUnit.nanoseconds, Nat.mul_one, ofWait, ofNanos_eq_spin_iff]
    simp
  · rw [Wait.nanoseconds, TimeUnit.nanoseconds, ofWait, ofMicros_eq_spin_iff]
    simp
  · exact ⟨nofun, by simp⟩

/-- No wait is cut short or drawn out, in whatever unit and amount it is asked for. In microseconds it is slept through
as it is, or else taken as the wait in nanoseconds that its product with 1000 asks for, and then that product fits. -/
theorem lasts_as_asked (unit : TimeUnit) (amount : UInt32) :
    let pause := ofWait ⟨unit, amount⟩
    let asked := amount.toNat * unit.nanoseconds
    pause.nanoseconds = asked ∧
      ((∃ spun, pause = .spin spun) ↔ (unit = .nanos ∨ unit = .micros) ∧ asked < 1000000) ∧
      (ofWait ⟨.micros, amount⟩ = .sleep ⟨.micros, amount⟩ ∨
        ofWait ⟨.micros, amount⟩ = ofWait ⟨.nanos, amount * 1000⟩ ∧ ¬ amount.toBitVec.umulOverflow 1000) := by
  intro pause asked
  refine ⟨nanoseconds_ofWait _, ofWait_eq_spin_iff _, ?_⟩
  by_cases overflows : amount.toBitVec.umulOverflow 1000
  · exact .inl (ofMicros_of_overflow overflows)
  · exact .inr ⟨(ofMicros_of_not_overflow overflows).1, overflows⟩

end Thermowire.Host.Pause
