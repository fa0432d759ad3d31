import Thermowire.Bench
import Thermowire.Proofs.Replay

/-! Byte transfers by bits and of a bus's own. A scripted bus that moves bits serves the bits of the bytes that
another serves whole; without faults, steps on the two give the same, and the notes of the former are those of the
latter with every byte in its bits. -/
namespace Thermowire

section Course
variable {S E : Type}

def bitsWritten (wire : List Bool) : List (Event (BitInterface S E).surrounded) :=
  wire.map fun bit => ⟨.own (.write bit), .ok ()⟩

def bitsRead (wire : List Bool) : List (Event (BitInterface S E).surrounded) :=
  wire.map fun bit => ⟨.own .read, .ok bit⟩

namespace Transfer

theorem course_writeBits (wire : List Bool) :
    (writeBits wire : Transfer S E Unit).amid.run.Course (bitsWritten wire) (.ok ()) := by
  induction wire with
  | nil => exact ⟨rfl, rfl⟩
  | cons bit wire ih =>
    change (writeBit bit >>= fun _ => writeBits wire).amid.run.Course _ _
    rw [amid_bind]
    exact Program.course_bind.mpr ⟨[_], .ok (), bitsWritten wire, ⟨_, _, rfl, rfl, rfl⟩, ih, rfl⟩

theorem course_readBits (wire : List Bool) :
    (readBits wire.length : Transfer S E (List Bool)).amid.run.Course (bitsRead wire) (.ok wire) := by
  induction wire with
  | nil => exact ⟨rfl, rfl⟩
  | cons bit wire ih =>
    rw [List.length_cons, readBits, amid_bind]
    refine Program.course_bind.mpr ⟨[_], .ok bit, bitsRead wire, ⟨_, _, rfl, rfl, rfl⟩, ?_, rfl⟩
    change ((readBits wire.length >>= fun rest => pure (bit :: rest)).amid.run).Course _ _
    rw [amid_bind]
    exact Program.course_bind.mpr ⟨bitsRead wire, .ok wire, [], ih, ⟨rfl, rfl⟩, (List.append_nil _).symm⟩

end Transfer

namespace BusCall

theorem course_writeByte (byte : UInt8) :
    (byBits (S := S) (E := E) (writeByte byte)).surrounded.Course (bitsWritten (bits byte)) (.ok ()) :=
  Transfer.course_writeBits (bits byte)

theorem course_readByte (byte : UInt8) :
    (byBits (S := S) (E := E) readByte).surrounded.Course (bitsRead (bits byte)) (.ok byte) := by
  have course := Transfer.course_readBits (S := S) (E := E) (bits byte)
  rw [length_bits] at course
  change (ofBits <$> Transfer.readBits 8 : Transfer S E UInt8).amid.run.Course _ _
  rw [Transfer.amid_map, ExceptT.run_map]
  exact Program.course_map.mpr ⟨_, course, congrArg Except.ok (ofBits_bits byte).symm⟩

end BusCall
end Course

def BusNote.bitwise : BusNote → List BusNote
  | writeByte byte => (bits byte).map write
  | readByte byte => (bits byte).map fun bit => read (some bit)
  | note => [note]

namespace ScriptedBus

def bitNotes (notes : List (BusNote × Option PinFault)) : List (BusNote × Option PinFault) :=
  notes.flatMap fun (note, fault) => note.bitwise.map (·, fault)

section Transfer
variable {α : Type} {bus : ScriptedBus}

theorem attempt_of_sound (bus : ScriptedBus) (sound : bus.script.faults = []) (entry : BusNote)
    (value : Except (BusError PinFault) α) (next : ScriptedBus → ScriptedBus) :
    bus.attempt entry value next = (value, next ({ bus with script := bus.script.count }.note entry none)) := by
  have unstruck : bus.script.fault? = none := by rw [Script.fault?, sound]; rfl
  rw [attempt, unstruck]

theorem readBit_of_sound (sound : bus.script.faults = []) :
    bus.readBit = (.ok bus.script.nextLevel.1,
      { bus with script := bus.script.nextLevel.2.count }.note (.read (some bus.script.nextLevel.1)) none) := by
  have unstruck : bus.script.fault? = none := by rw [Script.fault?, sound]; rfl
  have later : bus.script.nextLevel.2.faults = [] := by
    rw [Script.nextLevel]
    cases bus.script.levels <;> exact sound
  rw [readBit, unstruck]
  exact attempt_of_sound { bus with script := bus.script.nextLevel.2 } later _ _ _

/-- What is left of a bus when calls without a fault were noted on it: these levels are still to be read. -/
structure Leaves (before : ScriptedBus) (levels : List Bool) (notes : List BusNote) (after : ScriptedBus) : Prop where
  sound : after.script.faults = []
  resets : after.resets = before.resets
  levels : after.script.levels = levels
  notes : after.notes = before.notes ++ notes.map (·, none)

theorem carries_written (wire : List Bool) (sound : bus.script.faults = []) :
    ∃ last, Carries bitwise bus (bitsWritten wire) last ∧
      bus.Leaves bus.script.levels (wire.map .write) last := by
  induction wire generalizing bus with
  | nil => exact ⟨bus, rfl, sound, rfl, rfl, (List.append_nil _).symm⟩
  | cons bit wire ih =>
    obtain ⟨last, carries, left⟩ := @ih ({ bus with script := bus.script.count }.note (.write bit) none) sound
    have answered : bitwise (.own (.write bit)) bus = _ := attempt_of_sound bus sound _ _ _
    refine ⟨last, ⟨?_, ?_⟩, left.sound, left.resets, left.levels, ?_⟩
    · exact (congrArg Prod.fst answered).symm
    · rw [answered]
      exact carries
    · rw [left.notes]
      exact List.append_assoc ..

theorem carries_read (wire rest : List Bool) (sound : bus.script.faults = [])
    (served : bus.script.levels = wire ++ rest ∨
      bus.script.levels = [] ∧ rest = [] ∧ ∀ bit ∈ wire, bit = true) :
    ∃ last, Carries bitwise bus (bitsRead wire) last ∧
      bus.Leaves rest (wire.map fun bit => .read (some bit)) last := by
  induction wire generalizing bus with
  | nil =>
    have levels : bus.script.levels = rest := by
      rcases served with levels | ⟨levels, rfl, -⟩
      · exact levels
      · exact levels
    exact ⟨bus, rfl, sound, rfl, levels, (List.append_nil _).symm⟩
  | cons bit wire ih =>
    have next : bus.script.nextLevel.1 = bit ∧ bus.script.nextLevel.2.faults = [] ∧
        (bus.script.nextLevel.2.levels = wire ++ rest ∨
          bus.script.nextLevel.2.levels = [] ∧ rest = [] ∧ ∀ bit ∈ wire, bit = true) := by
      rw [Script.nextLevel]
      rcases served with levels | ⟨levels, rfl, high⟩
      · rw [levels]
        exact ⟨rfl, sound, .inl rfl⟩
      · rw [levels]
        refine ⟨(high bit (List.mem_cons_self ..)).symm, sound, .inr ⟨levels, rfl, ?_⟩⟩
        exact fun other member => high other (List.mem_cons_of_mem _ member)
    obtain ⟨given, later, served⟩ := next
    have answered : bitwise (.own .read) bus = _ := readBit_of_sound sound
    rw [given] at answered
    obtain ⟨last, carries, left⟩ :=
      @ih ({ bus with script := bus.script.nextLevel.2.count }.note (.read (some bit)) none) later served
    refine ⟨last, ⟨?_, ?_⟩, left.sound, left.resets, left.levels, ?_⟩
    · exact (congrArg Prod.fst answered).symm
    · rw [answered]
      exact carries
    · rw [left.notes]
      exact List.append_assoc ..

end Transfer

/-- A bus that moves bits mirrors one that moves bytes: no call fails on either, the same resets are to come, and the
levels to come are the bits of the bytes to come. -/
structure Mirrors (bytes bits : ScriptedBus) : Prop where
  sound : bytes.script.faults = []
  soundBits : bits.script.faults = []
  resets : bits.resets = bytes.resets
  levels : bits.script.levels = bytes.data.flatMap Thermowire.bits
  notes : bits.notes = bitNotes bytes.notes

theorem Mirrors.after {bytes bits left last : ScriptedBus} {levels : List Bool} {note : BusNote}
    (mirrors : Mirrors bytes bits) (sound : left.script.faults = [])
    (noted : left.notes = bytes.notes ++ [(note, none)]) (leaves : bits.Leaves levels note.bitwise last)
    (resets : left.resets = bytes.resets) (served : levels = left.data.flatMap Thermowire.bits) : Mirrors left last where
  sound := sound
  soundBits := leaves.sound
  resets := by rw [leaves.resets, mirrors.resets, resets]
  levels := leaves.levels.trans served
  notes := by
    rw [leaves.notes, mirrors.notes, noted, bitNotes, bitNotes, List.flatMap_append, List.flatMap_singleton]

theorem Mirrors.reset {bytes bits : ScriptedBus} (mirrors : Mirrors bytes bits) :
    Mirrors { bytes with resets := bytes.resets.tail } { bits with resets := bytes.resets.tail } where
  sound := mirrors.sound
  soundBits := mirrors.soundBits
  resets := rfl
  levels := mirrors.levels
  notes := mirrors.notes

/-- A call with its answer as it was made bit by bit, and what it logged. -/
structure Retells (event : Event (BusInterface ScriptedStatus PinFault).surrounded)
    (segment : List (Event (BitInterface ScriptedStatus PinFault).surrounded)) : Prop where
  expands : Expands event segment
  records : segment.filterMap Event.record? = event.record?.toList

theorem Retells.written (byte : UInt8) : Retells ⟨.own (.writeByte byte), .ok ()⟩ (bitsWritten (bits byte)) where
  expands := BusCall.course_writeByte byte
  records := by
    rw [bitsWritten, List.filterMap_map]
    exact List.filterMap_eq_nil_iff.mpr fun _ _ => rfl

theorem Retells.read (byte : UInt8) : Retells ⟨.own .readByte, .ok byte⟩ (bitsRead (bits byte)) where
  expands := BusCall.course_readByte byte
  records := by
    rw [bitsRead, List.filterMap_map]
    exact List.filterMap_eq_nil_iff.mpr fun _ _ => rfl

/-- Each call but the read of a single bit goes on the one bus as its bits go on the other. -/
theorem Mirrors.call {bytes bits : ScriptedBus} (mirrors : Mirrors bytes bits)
    (request : (BusInterface ScriptedStatus PinFault).surrounded.Call) (whole : request ≠ .own (.bit .read)) :
    ∃ segment last, Retells ⟨request, (bytewise request bytes).1⟩ segment ∧ Carries bitwise bits segment last ∧
      Mirrors (bytewise request bytes).2 last := by
  rcases request with (call | byte | _) | call
  · cases call with
    | reset =>
      have answered : bytewise (.own (.bit .reset)) bytes = _ :=
        attempt_of_sound { bytes with resets := bytes.resets.tail } mirrors.sound _ _ _
      have mirrored : bitwise (.own .reset) bits = _ :=
        attempt_of_sound { bits with resets := bits.resets.tail } mirrors.soundBits _ _ _
      rw [mirrors.resets] at mirrored
      rw [answered]
      refine ⟨[⟨.own .reset, _⟩], _, ⟨⟨_, _, rfl, rfl, rfl⟩, rfl⟩, ⟨(congrArg Prod.fst mirrored).symm, rfl⟩, ?_⟩
      rw [mirrored]
      exact mirrors.reset.after mirrors.sound rfl ⟨mirrors.soundBits, rfl, rfl, rfl⟩ rfl mirrors.levels
    | write bit =>
      have answered : bytewise (.own (.bit (.write bit))) bytes = _ := attempt_of_sound bytes mirrors.sound _ _ _
      have mirrored : bitwise (.own (.write bit)) bits = _ := attempt_of_sound bits mirrors.soundBits _ _ _
      rw [answered]
      refine ⟨[⟨.own (.write bit), _⟩], _, ⟨⟨_, _, rfl, rfl, rfl⟩, rfl⟩,
        ⟨(congrArg Prod.fst mirrored).symm, rfl⟩, ?_⟩
      rw [mirrored]
      exact mirrors.after mirrors.sound rfl ⟨mirrors.soundBits, rfl, rfl, rfl⟩ rfl mirrors.levels
    | read => exact absurd rfl whole
  · have answered : bytewise (.own (.writeByte byte)) bytes = _ := attempt_of_sound bytes mirrors.sound _ _ _
    obtain ⟨last, carries, leaves⟩ := carries_written (Thermowire.bits byte) mirrors.soundBits
    rw [answered]
    exact ⟨_, last, .written byte, carries, mirrors.after mirrors.sound rfl leaves rfl mirrors.levels⟩
  · have answered : bytewise (.own .readByte) bytes = _ :=
      attempt_of_sound bytes mirrors.sound (.readByte (bytes.data.headD 0xff)) (.ok (bytes.data.headD 0xff))
        fun bus => { bus with data := bus.data.tail }
    have served :
        bits.script.levels = Thermowire.bits (bytes.data.headD 0xff) ++ bytes.data.tail.flatMap Thermowire.bits ∨
        bits.script.levels = [] ∧ bytes.data.tail.flatMap Thermowire.bits = [] ∧
          ∀ bit ∈ Thermowire.bits (bytes.data.headD 0xff), bit = true := by
      rw [mirrors.levels]
      cases bytes.data with
      | nil =>
        -- past the end of the data the byte is 0xff, and its bits are those of a line that is high
        exact .inr ⟨rfl, rfl, by decide⟩
      | cons byte rest => exact .inl rfl
    obtain ⟨last, carries, leaves⟩ := carries_read _ _ mirrors.soundBits served
    rw [answered]
    exact ⟨_, last, .read _, carries, mirrors.after mirrors.sound rfl leaves rfl rfl⟩
  · refine ⟨[⟨.ambient call, ()⟩], _, ⟨⟨_, _, rfl, rfl, rfl⟩, ?_⟩, ⟨rfl, rfl⟩, ?_⟩
    · cases call <;> rfl
    · exact mirrors.after mirrors.sound rfl ⟨mirrors.soundBits, rfl, rfl, rfl⟩ rfl mirrors.levels

def Whole (history : List (Event (BusInterface ScriptedStatus PinFault).surrounded)) : Prop :=
  ∀ event ∈ history, event.request ≠ .own (.bit .read)

theorem Mirrors.carries {α : Type} (program : Program (BusInterface ScriptedStatus PinFault).surrounded α)
    {bytes bits : ScriptedBus} (mirrors : Mirrors bytes bits) (whole : Whole (program.run bytewise bytes).history) :
    ∃ history last, program.byBits.Course history (program.run bytewise bytes).value ∧
      Carries bitwise bits history last ∧ Mirrors (program.run bytewise bytes).state last ∧
      history.filterMap Event.record? = (program.run bytewise bytes).records := by
  induction program generalizing bytes bits with
  | done value => exact ⟨[], bits, ⟨rfl, rfl⟩, rfl, mirrors, rfl⟩
  | call request next ih =>
    obtain ⟨segment, middle, retells, goes, mirrored⟩ := mirrors.call request (whole _ (List.mem_cons_self ..))
    obtain ⟨rest, last, course, carries, left, records⟩ :=
      ih _ mirrored fun event later => whole event (List.mem_cons_of_mem _ later)
    refine ⟨segment ++ rest, last, ?_, carries_append.mpr ⟨middle, goes, carries⟩, left, ?_⟩
    · exact Program.course_bind.mpr ⟨segment, _, rest, retells.expands, course, rfl⟩
    · rw [List.filterMap_append, retells.records, records, Run.records, Run.records, Program.run]
      cases logged : Event.record? (⟨request, (bytewise request bytes).1⟩ : Event (BusInterface _ _).surrounded) with
      | none => exact (List.filterMap_cons_none logged).symm
      | some record => exact (List.filterMap_cons_some logged).symm

end ScriptedBus

theorem SessionStep.whole {step : SessionStep} (whole : step ≠ .bus .readBit) {before : Phase}
    {history : List (Event (BusInterface ScriptedStatus PinFault).surrounded)}
    {value : Outcome ScriptedStatus PinFault × Phase} (course : (step.program.run before).Course history value) :
    ScriptedBus.Whole history := by
  intro event member single
  cases step with
  | bus step =>
    obtain ⟨_, _, _, one, ⟨rfl, -⟩, rfl⟩ := Program.course_bind.mp course
    obtain ⟨result, exchanged, rfl⟩ := Program.course_map.mp one
    rw [List.append_nil] at member
    obtain ⟨_, planned⟩ := (step.obeys.follows () exchanged).mem_plan member
    rw [single] at planned
    cases step with
    | readBit => exact whole rfl
    | _ => simp [BusStep.plan] at planned
  | sensor step =>
    obtain ⟨_, _, _, one, ⟨rfl, -⟩, rfl⟩ := Program.course_bind.mp course
    obtain ⟨stop, follows, -⟩ := SensorStep.keeps_plan one
    rw [List.append_nil] at member
    obtain ⟨request, answer⟩ := event
    obtain rfl : request = .own (.bit .read) := single
    obtain ⟨_, planned⟩ := follows.mem_plan (List.mem_filter.mpr ⟨member, rfl⟩)
    cases step <;>
      simp [SensorStep.plan, Session.conversionPlan, Session.registerPlan, commandPlan] at planned
  | newSensor =>
    obtain ⟨rfl, -⟩ := course
    cases member

namespace ScriptedBus

def serving (resets : List ResetOutcome) (data : List UInt8) : ScriptedBus :=
  { script := ⟨[], [], 0⟩, resets, data }

def servingBits (resets : List ResetOutcome) (data : List UInt8) : ScriptedBus :=
  { script := ⟨data.flatMap bits, [], 0⟩, resets, data := [] }

def noteText (notes : List (BusNote × Option PinFault)) : String := { serving [] [] with notes := notes }.trace

structure Account where
  report : Report
  notes : List (BusNote × Option PinFault)

def Account.bitwise (account : Account) : Account where
  report := { account.report with trace := noteText (bitNotes account.notes) }
  notes := bitNotes account.notes

def account (transport : Transport) (step : SessionStep) (state : Phase × ScriptedBus) :
    Account × Phase × ScriptedBus :=
  let (report, phase, bus) := perform transport step state
  (⟨report, bus.notes⟩, phase, bus)

theorem Mirrors.account {bytes bits : ScriptedBus} (mirrors : Mirrors bytes bits) (step : SessionStep)
    (whole : step ≠ .bus .readBit) (phase : Phase) :
    ∃ last, account .bits step (phase, bits) =
        ((account .bytes step (phase, bytes)).1.bitwise, (account .bytes step (phase, bytes)).2.1, last) ∧
      Mirrors (account .bytes step (phase, bytes)).2.2 last := by
  have fresh : Mirrors { bytes with notes := [] } { bits with notes := [] } :=
    ⟨mirrors.sound, mirrors.soundBits, mirrors.resets, mirrors.levels, rfl⟩
  obtain ⟨history, last, course, carries, left, records⟩ :=
    fresh.carries (step.program.run phase) (SessionStep.whole whole (Program.course_run _ _ _))
  have ran := Program.run_eq_of_carries course carries
  have text : last.trace = noteText last.notes := rfl
  refine ⟨last, ?_, left⟩
  simp only [ScriptedBus.account, perform, report, ran, Account.bitwise, text, left.notes, Run.records, records]

theorem Mirrors.accounts {bytes bits : ScriptedBus} (mirrors : Mirrors bytes bits) (steps : List SessionStep)
    (whole : ∀ step ∈ steps, step ≠ .bus .readBit) (phase : Phase) :
    reports (ScriptedBus.account .bits) steps (phase, bits) =
      (reports (ScriptedBus.account .bytes) steps (phase, bytes)).map Account.bitwise := by
  induction steps generalizing phase bytes bits with
  | nil => rfl
  | cons step steps ih =>
    obtain ⟨last, same, mirrored⟩ := mirrors.account step (whole step (List.mem_cons_self ..)) phase
    rw [reports, reports, same]
    refine List.cons_eq_cons.mpr ⟨rfl, ih mirrored ?_ _⟩
    exact fun later member => whole later (List.mem_cons_of_mem _ member)

theorem mirrors_serving (resets : List ResetOutcome) (data : List UInt8) :
    Mirrors (serving resets data) (servingBits resets data) := ⟨rfl, rfl, rfl, rfl, rfl⟩

/-- Steps of any number and kind, single bits that are read apart: whatever resets and bytes are in store, a bus with
byte transfers of its own and one that moves their bits give the same results, phases and logs step by step, and what
the latter notes is what the former notes with every byte in its bits. -/
theorem transports_agree (steps : List SessionStep) (whole : ∀ step ∈ steps, step ≠ .bus .readBit) (phase : Phase)
    (resets : List ResetOutcome) (data : List UInt8) :
    reports (account .bits) steps (phase, servingBits resets data) =
      (reports (account .bytes) steps (phase, serving resets data)).map Account.bitwise :=
  (mirrors_serving resets data).accounts steps whole phase

/-- A reading, a byte behind the end of the data, and a new sensor that finds no device. -/
theorem transports_agree_past_data :
    let steps : List SessionStep := [.sensor .readTemperature, .bus .readByte, .newSensor, .sensor .readTemperature]
    let resets : List ResetOutcome := [.present, .mute, .absent]
    (∀ step ∈ steps, step ≠ .bus .readBit) ∧
      reports (account .bits) steps (.idle, servingBits resets [0x91, 0x01]) =
        (reports (account .bytes) steps (.idle, serving resets [0x91, 0x01])).map Account.bitwise ∧
      (reports (account .bits) steps (.idle, servingBits resets [0x91, 0x01])).map (·.report.phase) =
        [.decoded, .decoded, .idle, .convertReset] := by
  intro steps resets
  have whole : ∀ step ∈ steps, step ≠ .bus .readBit := by decide
  exact ⟨whole, transports_agree steps whole .idle resets [0x91, 0x01], by decide +kernel⟩

end ScriptedBus
end Thermowire
