import Thermowire.Proofs.Plan

/-! Sessions with the sensor as plans of bus calls and waits. Every entry of a session's plan is marked
with the phase that is left when its call fails. The main statement says of every bus, whatever it
answers, that a session makes the calls of its plan up to the first that fails, and that its result
and its phase tell where it stopped. -/
namespace Thermowire

def commandPlan (command : UInt8) (phase : Phase) : List (Surrounded BusCall × Phase) :=
  [(.own (.bit .reset), phase), (.own (.writeByte Command.skipRom), phase),
    (.own (.writeByte command), phase)]

def Session.conversionPlan : List (Surrounded BusCall × Phase) :=
  commandPlan Command.convert .convertReset ++ [(.ambient (.wait conversionTime), .converting)]

def Session.registerPlan : List (Surrounded BusCall × Phase) :=
  commandPlan Command.readScratchpad .readReset ++ [(.own .readByte, .reading), (.own .readByte, .reading)]

/-- The calls of a sensor step in order, each with the phase that its failure leaves. -/
def SensorStep.plan : SensorStep → List (Surrounded BusCall × Phase)
  | convert => Session.conversionPlan
  | readScratchpad => Session.registerPlan
  | readTemperature => Session.conversionPlan ++ Session.registerPlan

namespace Session
variable {S E α : Type} {before after : Phase} {history : List (Event (BusInterface S E).surrounded)}

theorem leads_enter_bind {phase : Phase} {f : Unit → Session S E α} {result : Except (SensorError E) α}
    (leads : Leads (enter phase >>= f) before history result after) :
    ∃ rest, calls history = calls rest ∧ Leads (f ()) phase rest result after := by
  obtain ⟨_, rest, rfl, course⟩ := leads
  exact ⟨rest, rfl, course⟩

theorem leads_ambient {call : Ambient} {result : Except (SensorError E) Unit}
    (leads : Leads (ambient call : Session S E Unit) before history result after) :
    history = [⟨.ambient call, ()⟩] ∧ result = .ok () ∧ after = before := by
  obtain ⟨_, _, rfl, rfl, same⟩ := leads
  cases same
  exact ⟨rfl, rfl, rfl⟩

theorem leads_onBus {exchange : Exchange S E α} {result : Except (SensorError E) α}
    (leads : Leads (onBus exchange) before history result after) :
    ∃ given, exchange.run.Course history given ∧ result = given.mapError .bus ∧ after = before := by
  obtain ⟨first, value, second, one, ⟨rfl, same⟩, rfl⟩ := Program.course_bind.mp leads
  obtain ⟨given, course, rfl⟩ := Program.course_map.mp one
  cases same
  rw [List.append_nil]
  exact ⟨given, course, rfl, rfl⟩

theorem obeys_command (command : UInt8) : Obeys (do
    let _ ← Exchange.addressAll
    Exchange.writeByte command : Exchange S E Unit).run
    [.own (.bit .reset), .own (.writeByte Command.skipRom), .own (.writeByte command)] :=
  Exchange.obeys_addressAll.bind fun _ => Exchange.obeys_writeByte command

theorem received_command {command : UInt8} {phase : Phase} {stop : Option (BusError E × Phase)}
    (follows : Follows (commandPlan command phase) history stop) :
    history.flatMap Event.received = [] := by
  apply follows.received_eq_nil
  intro entry member answer
  simp only [commandPlan, List.mem_cons, List.not_mem_nil, or_false] at member
  rcases member with rfl | rfl | rfl <;> rfl

theorem leads_command {phase sent going : Phase} {command : UInt8} {rest : Session S E α}
    {result : Except (SensorError E) α}
    (leads : Leads (do
      enter phase
      onBus do
        let _ ← Exchange.addressAll
        Exchange.writeByte command
      enter sent
      enter going
      rest) before history result after) :
    (∃ error, Follows (commandPlan command phase) (calls history) (some (error, phase)) ∧
        result = .error (.bus error) ∧ after = phase) ∨
      ∃ first second, Follows (commandPlan command phase) first none ∧
        calls history = first ++ calls second ∧ Leads rest going second result after := by
  obtain ⟨begun, quiet, next⟩ := leads_enter_bind leads
  rw [quiet]
  have silent : ∀ entry ∈ commandPlan command phase, ∀ record, entry.1 ≠ .ambient (.log record) := by
    simp [commandPlan]
  rcases leads_bind next with ⟨error, rfl, stopped⟩ | ⟨first, value, held, second, sending, going, rfl⟩
  · obtain ⟨given, course, same, rfl⟩ := leads_onBus stopped
    cases given with
    | ok value => cases same
    | error error =>
      cases same
      have follows := (obeys_command command).follows after course
      rw [← follows.calls_eq silent] at follows
      exact .inl ⟨error, follows, rfl, rfl⟩
  · obtain ⟨given, course, same, rfl⟩ := leads_onBus sending
    cases given with
    | error error => cases same
    | ok value =>
      have follows := (obeys_command command).follows held course
      obtain ⟨_, unsaid, going⟩ := leads_enter_bind going
      obtain ⟨rest, unheard, going⟩ := leads_enter_bind going
      refine .inr ⟨first, rest, follows, ?_, going⟩
      rw [calls_append, follows.calls_eq silent, unsaid, unheard]

theorem leads_convert {result : Except (SensorError E) Unit}
    (leads : Leads (convert : Session S E Unit) before history result after) :
    (∃ error phase, Follows conversionPlan (calls history) (some (error, phase)) ∧
        result = .error (.bus error) ∧ after = phase) ∨
      Follows conversionPlan (calls history) none ∧ (calls history).flatMap Event.received = [] ∧
        result = .ok () ∧ after = .converting := by
  rcases leads_command leads with ⟨error, follows, failed, left⟩ | ⟨first, second, follows, made, waits⟩
  · exact .inl ⟨error, _, follows.append_of_isSome rfl, failed, left⟩
  · obtain ⟨rfl, whole, waited⟩ := leads_ambient waits
    rw [made, List.flatMap_append, received_command follows]
    exact .inr ⟨follows.append_of_none rfl Follows.done.ambient, rfl, whole, waited⟩

def register : Exchange S E Scratchpad := do
  let low ← Exchange.readByte
  let high ← Exchange.readByte
  return ⟨low, high⟩

theorem obeys_register : Obeys (register : Exchange S E Scratchpad).run [.own .readByte, .own .readByte] :=
  Exchange.obeys_readByte.bind fun low => Exchange.obeys_readByte.bind fun high => .pure (Scratchpad.mk low high)

theorem received_register {pad : Scratchpad}
    (course : (register : Exchange S E Scratchpad).run.Course history (.ok pad)) :
    history.flatMap Event.received = bits pad.low ++ bits pad.high := by
  obtain ⟨_, low, _, ⟨_, _, rfl, rfl, rfl⟩, others, rfl⟩ := Program.course_bind_ok course
  obtain ⟨_, high, _, ⟨_, _, rfl, rfl, rfl⟩, ⟨rfl, same⟩, rfl⟩ := Program.course_bind_ok others
  cases same
  exact congrArg _ (List.append_nil _)

theorem leads_readScratchpad {result : Except (SensorError E) Scratchpad}
    (leads : Leads (readScratchpad : Session S E Scratchpad) before history result after) :
    (∃ error phase, Follows registerPlan (calls history) (some (error, phase)) ∧
        result = .error (.bus error) ∧ after = phase) ∨
      ∃ pad : Scratchpad, Follows registerPlan (calls history) none ∧
        (calls history).flatMap Event.received = bits pad.low ++ bits pad.high ∧
        result = .ok pad ∧ after = .reading := by
  rcases leads_command leads with ⟨error, follows, failed, left⟩ | ⟨first, second, follows, made, reads⟩
  · exact .inl ⟨error, _, follows.append_of_isSome rfl, failed, left⟩
  · obtain ⟨given, course, rfl, rfl⟩ := leads_onBus reads
    have reading := obeys_register.follows Phase.reading course
    have silent : calls second = second := reading.calls_eq (by simp)
    rw [made, silent]
    cases given with
    | error error => exact .inl ⟨error, _, follows.append_of_none rfl reading, rfl, rfl⟩
    | ok pad =>
      refine .inr ⟨pad, follows.append_of_none rfl reading, ?_, rfl, rfl⟩
      rw [List.flatMap_append, received_command follows]
      exact received_register course

theorem leads_decode {pad : Scratchpad} {result : Except (SensorError E) Temperature}
    (leads : Leads (do
      let reading ← ExceptT.mk (pure (pad.decode.mapError .outOfRange))
      enter .decoded
      ambient (.log (.reading reading))
      return reading : Session S E Temperature) before history result after) :
    calls history = [] ∧
      match pad.decode with
      | .ok reading => result = .ok reading ∧ after = .decoded
      | .error refused => result = .error (.outOfRange refused) ∧ after = before := by
  cases decoded : pad.decode with
  | error refused =>
    rcases leads_bind leads with ⟨_, rfl, rfl, same⟩ | ⟨_, _, _, _, ⟨_, same⟩, _⟩
    all_goals
      rw [decoded] at same
      cases same
    exact ⟨rfl, rfl, rfl⟩
  | ok reading =>
    rcases leads_bind leads with ⟨_, rfl, rfl, same⟩ | ⟨_, _, _, _, ⟨rfl, same⟩, enters, rfl⟩
    all_goals
      rw [decoded] at same
      cases same
    obtain ⟨later, unsaid, _, _, rfl, rfl, same⟩ := leads_enter_bind enters
    cases same
    exact ⟨unsaid, rfl, rfl⟩

theorem leads_readTemperature {result : Except (SensorError E) Temperature}
    (leads : Leads (readTemperature : Session S E Temperature) before history result after) :
    (∃ error phase, Follows (conversionPlan ++ registerPlan) (calls history) (some (error, phase)) ∧
        result = .error (.bus error) ∧ after = phase) ∨
      ∃ pad : Scratchpad, Follows (conversionPlan ++ registerPlan) (calls history) none ∧
        (calls history).flatMap Event.received = bits pad.low ++ bits pad.high ∧
        match pad.decode with
        | .ok reading => result = .ok reading ∧ after = .decoded
        | .error refused => result = .error (.outOfRange refused) ∧ after = .reading := by
  rcases leads_bind leads with ⟨error, rfl, broken⟩ | ⟨first, _, waiting, rest, converts, others, rfl⟩
  · rcases leads_convert broken with ⟨_, phase, follows, same, left⟩ | ⟨-, -, same, -⟩
    · cases same
      exact .inl ⟨_, phase, follows.append_of_isSome rfl, rfl, left⟩
    · cases same
  rcases leads_convert converts with ⟨_, _, _, same, _⟩ | ⟨converted, unread, -, -⟩
  · cases same
  rcases leads_bind others with ⟨error, rfl, broken⟩ | ⟨second, pad, held, last, reads, decodes, rfl⟩
  · rcases leads_readScratchpad broken with ⟨_, phase, follows, same, left⟩ | ⟨_, -, -, same, -⟩
    · cases same
      rw [calls_append]
      exact .inl ⟨_, phase, converted.append_of_none rfl follows, rfl, left⟩
    · cases same
  rcases leads_readScratchpad reads with ⟨_, _, _, same, _⟩ | ⟨_, follows, read, same, rfl⟩
  · cases same
  cases same
  have whole := converted.append_of_none rfl follows
  obtain ⟨silent, ends⟩ := leads_decode decodes
  refine .inr ⟨pad, ?_⟩
  rw [calls_append, calls_append, silent, List.append_nil, List.flatMap_append, unread, read]
  exact ⟨whole, rfl, ends⟩

end Session

namespace SensorStep
variable {S E : Type}

/-- What a step gives when none of its calls fails, by the bits that its reads brought in. -/
def Finishes : SensorStep → List Bool → Except (SensorError E) (Value S) × Phase → Prop
  | convert, _, value => value = (.ok .nothing, .converting)
  | readScratchpad, wire, value =>
    ∃ pad : Scratchpad, wire = bits pad.low ++ bits pad.high ∧ value = (.ok (.scratchpad pad), .reading)
  | readTemperature, wire, value =>
    ∃ pad : Scratchpad, wire = bits pad.low ++ bits pad.high ∧
      value = match pad.decode with
        | .ok reading => (.ok (.temperature reading), .decoded)
        | .error refused => (.error (.outOfRange refused), .reading)

/-- The step made the calls of the plan up to the first that failed, and gave that call's error and
the phase of its entry; or it made all of them and finished. -/
def Keeps {I : Interface} [BusLike I E] (step : SensorStep) (plan : List (Surrounded I.Call × Phase))
    (history : List (Event I.surrounded)) (value : Except (SensorError E) (Value S) × Phase) : Prop :=
  ∃ stop, Follows plan (calls history) stop ∧
    match stop with
    | some (error, phase) => value = (.error (.bus error), phase)
    | none => step.Finishes ((calls history).flatMap Event.received) value

theorem keeps_plan {step : SensorStep} {before : Phase}
    {history : List (Event (BusInterface S E).surrounded)}
    {value : Except (SensorError E) (Value S) × Phase}
    (course : (step.session.run.run before).Course history value) : step.Keeps step.plan history value := by
  obtain ⟨result, after⟩ := value
  cases step with
  | convert =>
    obtain ⟨given, leads, rfl⟩ := leads_map course
    rcases Session.leads_convert leads with ⟨error, phase, follows, rfl, rfl⟩ | ⟨follows, -, rfl, rfl⟩
    · exact ⟨_, follows, rfl⟩
    · exact ⟨_, follows, rfl⟩
  | readScratchpad =>
    obtain ⟨given, leads, rfl⟩ := leads_map course
    rcases Session.leads_readScratchpad leads with
      ⟨error, phase, follows, rfl, rfl⟩ | ⟨pad, follows, read, rfl, rfl⟩
    · exact ⟨_, follows, rfl⟩
    · exact ⟨_, follows, pad, read, rfl⟩
  | readTemperature =>
    obtain ⟨given, leads, rfl⟩ := leads_map course
    rcases Session.leads_readTemperature leads with
      ⟨error, phase, follows, rfl, rfl⟩ | ⟨pad, follows, read, ends⟩
    · exact ⟨_, follows, rfl⟩
    · refine ⟨_, follows, pad, read, ?_⟩
      cases decoded : pad.decode with
      | error refused =>
        rw [decoded] at ends
        obtain ⟨rfl, rfl⟩ := ends
        rfl
      | ok reading =>
        rw [decoded] at ends
        obtain ⟨rfl, rfl⟩ := ends
        rfl

theorem Keeps.bitwise {step : SensorStep} {plan : List (Surrounded BusCall × Phase)} {one two : Unit}
    {events : List (Event (BusInterface S E).surrounded)}
    {history : List (Event (BitInterface S E).surrounded)}
    {value : Except (SensorError E) (Value S) × Phase} (keeps : step.Keeps plan events value)
    (stitched : Program.Stitched (fun _ event segment _ => Expands event segment) one events history two) :
    step.Keeps (Thermowire.bitwise plan) history value := by
  obtain ⟨stop, follows, ends⟩ := keeps
  obtain ⟨goes, brings⟩ := follows.bitwise stitched
  refine ⟨stop, goes, ?_⟩
  cases stop with
  | some reason => exact ends
  | none =>
    rw [brings rfl]
    exact ends

theorem keeps_byBits {step : SensorStep} {before : Phase}
    {history : List (Event (BitInterface S E).surrounded)}
    {value : Except (SensorError E) (Value S) × Phase}
    (course : (step.session.run.run before).byBits.Course history value) :
    step.Keeps (bitwise step.plan) history value := by
  obtain ⟨events, made, stitched⟩ := Program.course_interpret course
  exact (keeps_plan made).bitwise stitched

theorem decoded_notMem_plan (step : SensorStep) : Phase.decoded ∉ step.plan.map Prod.snd := by
  cases step <;> decide

namespace Keeps
variable {I : Interface} [BusLike I E] {plan : List (Surrounded I.Call × Phase)}
  {history : List (Event I.surrounded)} {value : Except (SensorError E) (Value S) × Phase}

theorem bus_iff {step : SensorStep} (keeps : step.Keeps plan history value) {error : BusError E} :
    value.1 = .error (.bus error) ↔ ∃ event ∈ calls history, event.failure? = some error := by
  obtain ⟨stop, follows, ends⟩ := keeps
  cases stop with
  | some reason =>
    obtain ⟨given, phase⟩ := reason
    subst ends
    constructor
    · intro same
      cases same
      exact follows.exists_failed rfl
    · rintro ⟨event, member, failed⟩
      obtain ⟨mark, same⟩ := follows.eq_some member failed
      cases same
      rfl
  | none =>
    constructor
    · intro same
      cases step with
      | convert =>
        cases ends
        cases same
      | readScratchpad =>
        obtain ⟨pad, -, rfl⟩ := ends
        cases same
      | readTemperature =>
        obtain ⟨pad, -, rfl⟩ := ends
        cases decoded : pad.decode <;>
        · rw [decoded] at same
          cases same
    · rintro ⟨event, member, failed⟩
      obtain ⟨mark, same⟩ := follows.eq_some member failed
      cases same

theorem absent_iff {step : SensorStep} (keeps : step.Keeps plan history value) {error : SensorError E}
    (failed : value.1 = .error error) :
    error.isAbsent ↔ ∃ event ∈ calls history, event.failure? = some .noDevice := by
  rw [← keeps.bus_iff, failed]
  cases error with
  | outOfRange refused => simp [SensorError.isAbsent]
  | bus error => cases error <;> simp [SensorError.isAbsent, BusError.isAbsent]

theorem decoded_iff (keeps : readTemperature.Keeps plan history value)
    (unmarked : Phase.decoded ∉ plan.map Prod.snd) :
    value.2 = .decoded ↔ ∃ given, value.1 = .ok given := by
  obtain ⟨stop, follows, ends⟩ := keeps
  cases stop with
  | some reason =>
    subst ends
    constructor
    · intro decoded
      exact absurd (decoded ▸ follows.mem_marks rfl) unmarked
    · nofun
  | none =>
    obtain ⟨pad, -, rfl⟩ := ends
    cases pad.decode <;> simp

theorem code {step : SensorStep} {reading : Temperature} (keeps : step.Keeps plan history value)
    (read : value.1 = .ok (.temperature reading)) :
    ∃ low high : UInt8, (calls history).flatMap Event.received = bits low ++ bits high ∧
      reading.raw = ((high.toUInt16 <<< 8) ||| low.toUInt16).toInt16 := by
  obtain ⟨stop, follows, ends⟩ := keeps
  cases stop with
  | some reason =>
    subst ends
    cases read
  | none =>
    cases step with
    | convert =>
      cases ends
      cases read
    | readScratchpad =>
      obtain ⟨pad, -, rfl⟩ := ends
      cases read
    | readTemperature =>
      obtain ⟨pad, wire, rfl⟩ := ends
      refine ⟨pad.low, pad.high, wire, ?_⟩
      cases decoded : pad.decode with
      | error refused =>
        rw [decoded] at read
        cases read
      | ok given =>
        rw [decoded] at read
        cases read
        exact Scratchpad.raw_of_decode decoded

/-- A cycle none of whose calls fails decides by the code of the two bytes that it read. -/
theorem completed (keeps : readTemperature.Keeps plan history value)
    (passed : ∀ event ∈ calls history, event.failure? = none) :
    ∃ low high : UInt8, (calls history).flatMap Event.received = bits low ++ bits high ∧
      let code := ((high.toUInt16 <<< 8) ||| low.toUInt16).toInt16
      value = if -880 ≤ code.toInt ∧ code.toInt ≤ 2000 then (.ok (.temperature ⟨code⟩), .decoded)
        else (.error (.outOfRange ⟨code⟩), .reading) := by
  obtain ⟨stop, follows, ends⟩ := keeps
  cases stop with
  | some reason =>
    obtain ⟨event, member, failed⟩ := follows.exists_failed rfl
    rw [passed event member] at failed
    cases failed
  | none =>
    obtain ⟨pad, wire, rfl⟩ := ends
    refine ⟨pad.low, pad.high, wire, ?_⟩
    rw [pad.decode_eq]
    by_cases rated : -880 ≤ pad.raw.toInt ∧ pad.raw.toInt ≤ 2000
    · rw [if_pos rated]
      exact (if_pos rated).symm
    · rw [if_neg rated]
      exact (if_neg rated).symm

end Keeps

/-- All that a step's calls, result and phase say of each other. Beyond keeping to the plan, an absent
device is reported just when a call reports one, the phase is `decoded` just when a cycle succeeded, a
temperature is the code of the two bytes that were read, and the rated range is that of -55 to 125 degrees. -/
structure Accounts {I : Interface} [BusLike I E] (step : SensorStep) (plan : List (Surrounded I.Call × Phase))
    (history : List (Event I.surrounded)) (value : Except (SensorError E) (Value S) × Phase) : Prop where
  keeps : step.Keeps plan history value
  absent : ∀ error, value.1 = .error error →
    (error.isAbsent ↔ ∃ event ∈ calls history, event.failure? = some .noDevice)
  decoded : step = readTemperature → (value.2 = .decoded ↔ ∃ given, value.1 = .ok given)
  code : ∀ reading, value.1 = .ok (.temperature reading) →
    ∃ low high : UInt8, (calls history).flatMap Event.received = bits low ++ bits high ∧
      reading.raw = ((high.toUInt16 <<< 8) ||| low.toUInt16).toInt16
  completed : step = readTemperature → (∀ event ∈ calls history, event.failure? = none) →
    ∃ low high : UInt8, (calls history).flatMap Event.received = bits low ++ bits high ∧
      let code := ((high.toUInt16 <<< 8) ||| low.toUInt16).toInt16
      value = if -880 ≤ code.toInt ∧ code.toInt ≤ 2000 then (.ok (.temperature ⟨code⟩), .decoded)
        else (.error (.outOfRange ⟨code⟩), .reading)

theorem Keeps.accounts {I : Interface} [BusLike I E] {step : SensorStep}
    {plan : List (Surrounded I.Call × Phase)} {history : List (Event I.surrounded)}
    {value : Except (SensorError E) (Value S) × Phase} (keeps : step.Keeps plan history value)
    (unmarked : Phase.decoded ∉ plan.map Prod.snd) : step.Accounts plan history value where
  keeps := keeps
  absent _ := keeps.absent_iff
  decoded := by
    rintro rfl
    exact keeps.decoded_iff unmarked
  code _ := keeps.code
  completed := by
    rintro rfl
    exact keeps.completed

/-- On every bus, whatever its calls give and whatever phase was left before, a sensor step makes the
calls of its plan up to the first that fails, byte by byte or, where bytes are moved by bits, bit by bit. -/
theorem run_accounts (step : SensorStep) (before : Phase) :
    (∀ {σ : Type} (world : World (BusInterface S E).surrounded σ) (state : σ),
      let run := (step.session.run.run before).run world state
      step.Accounts step.plan run.history run.value) ∧
    ∀ {σ : Type} (world : World (BitInterface S E).surrounded σ) (state : σ),
      let run := (step.session.run.run before).byBits.run world state
      step.Accounts (bitwise step.plan) run.history run.value := by
  constructor
  · intro σ world state
    exact (keeps_plan (Program.course_run _ world state)).accounts step.decoded_notMem_plan
  · intro σ world state
    refine (keeps_byBits (Program.course_run _ world state)).accounts fun marked => ?_
    exact step.decoded_notMem_plan (mem_marks_of_bitwise marked)

example : readTemperature.plan =
    [(.own (.bit .reset), .convertReset), (.own (.writeByte 0xcc), .convertReset),
      (.own (.writeByte 0x44), .convertReset), (.ambient (.wait ⟨.millis, 750⟩), .converting),
      (.own (.bit .reset), .readReset), (.own (.writeByte 0xcc), .readReset),
      (.own (.writeByte 0xbe), .readReset), (.own .readByte, .reading), (.own .readByte, .reading)] := rfl

end SensorStep

end Thermowire
