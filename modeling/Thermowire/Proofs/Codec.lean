import Thermowire.Proofs.Loopback

/-! Bytes as a stream of bits. On a bus that moves bits only, a byte is eight of its calls, least significant bit first,
and breaks off with the first of them that fails. Main statement: bytes that are read are the bits that came in, eight
by eight, and written again they are those bits; and bits that were written as bytes are read as those bytes. -/
namespace Thermowire

/-- The bits of bytes one behind the other, the bit of weight `2 ^ place` in that place of its eight. -/
structure Packs (bytes : List UInt8) (wire : List Bool) : Prop where
  length : wire.length = 8 * bytes.length
  bit : ∀ number place, place < 8 → wire[8 * number + place]? = bytes[number]?.map (·.toNat.testBit place)

theorem getElem?_flatMap_bits (bytes : List UInt8) (number : Nat) {place : Nat} (within : place < 8) :
    (bytes.flatMap bits)[8 * number + place]? = bytes[number]?.map (·.toNat.testBit place) := by
  induction bytes generalizing number with
  | nil => rfl
  | cons byte bytes ih =>
    rw [List.flatMap_cons]
    cases number with
    | zero =>
      have first : 8 * 0 + place < (bits byte).length := by
        rw [length_bits]
        omega
      rw [List.getElem?_append_left first, bits]
      simp [within]
    | succ number =>
      have behind : (bits byte).length ≤ 8 * (number + 1) + place := by
        rw [length_bits]
        omega
      have rest : 8 * (number + 1) + place - (bits byte).length = 8 * number + place := by
        rw [length_bits]
        omega
      rw [List.getElem?_append_right behind, rest, ih]
      rfl

theorem packs_bits (bytes : List UInt8) : Packs bytes (bytes.flatMap bits) where
  length := length_flatMap_bits bytes
  bit number _ within := getElem?_flatMap_bits bytes number within

theorem Packs.eq {bytes : List UInt8} {wire : List Bool} (packs : Packs bytes wire) : wire = bytes.flatMap bits := by
  apply List.ext_getElem?
  intro index
  have within : index % 8 < 8 := Nat.mod_lt _ (by decide)
  rw [← Nat.div_add_mod index 8, packs.bit _ _ within, getElem?_flatMap_bits _ _ within]

namespace Follows
variable {I : Interface} {S E μ : Type}

section Plan
variable [BusLike I E] {plan : List (Surrounded I.Call × μ)} {events : List (Event I.surrounded)}
  {stop : Option (BusError E × μ)}

theorem requests (follows : Follows plan events stop) :
    events.map Event.request = (plan.map Prod.fst).take events.length := by
  induction follows with
  | done => rfl
  | stopped failed => rfl
  | next passed _ ih => exact congrArg _ ih

theorem length_of_passed (follows : Follows plan events stop) (passed : ∀ event ∈ events, event.failure? = none) :
    events.length = plan.length ∧ stop = none := by
  induction follows with
  | done => exact ⟨rfl, rfl⟩
  | stopped failed =>
    rw [passed _ (List.mem_singleton_self _)] at failed
    cases failed
  | next _ _ ih =>
    obtain ⟨length, whole⟩ := ih fun event member => passed event (List.mem_cons_of_mem _ member)
    exact ⟨congrArg Nat.succ length, whole⟩

theorem length_of_failed (follows : Follows plan events stop) {place : Nat} {event : Event I.surrounded}
    {error : BusError E} (made : events[place]? = some event) (failed : event.failure? = some error) :
    events.length = place + 1 ∧ stop.map Prod.fst = some error := by
  induction follows generalizing place with
  | done => cases made
  | stopped given =>
    cases place with
    | zero =>
      obtain rfl := Option.some.inj made
      exact ⟨rfl, given.symm.trans failed⟩
    | succ place => cases made
  | next passed _ ih =>
    cases place with
    | zero =>
      obtain rfl := Option.some.inj made
      rw [passed] at failed
      cases failed
    | succ place =>
      obtain ⟨length, ends⟩ := ih made
      exact ⟨congrArg Nat.succ length, ends⟩

end Plan

section Bits
variable {events : List (Event (BitInterface S E).surrounded)} {mark : μ}

theorem eq_bitsRead {count : Nat}
    (follows : Follows (.replicate count (Surrounded.own BitCall.read, mark)) events
      (none : Option (BusError E × μ))) :
    events = bitsRead (events.flatMap Event.received) := by
  induction count generalizing events with
  | zero =>
    rw [follows.events_eq_nil]
    rfl
  | succ count ih =>
    obtain ⟨answer, rest, rfl, ⟨_, _, _, broken⟩ | ⟨passed, others⟩⟩ := Follows.of_planned follows
    · cases broken
    cases answer with
    | error error => cases passed
    | ok bit => exact congrArg _ (ih others)

theorem eq_bitsWritten {wire : List Bool}
    (follows : Follows (wire.map fun bit => (Surrounded.own (BitCall.write bit), mark)) events
      (none : Option (BusError E × μ))) :
    events = bitsWritten wire := by
  induction wire generalizing events with
  | nil =>
    rw [follows.events_eq_nil]
    rfl
  | cons bit wire ih =>
    obtain ⟨answer, rest, rfl, ⟨_, _, _, broken⟩ | ⟨passed, others⟩⟩ := Follows.of_planned follows
    · cases broken
    cases answer with
    | error error => cases passed
    | ok _ => exact congrArg _ (ih others)

end Bits
end Follows

section Runs
variable {S E α σ : Type}

namespace Exchange

def onBits (exchange : Exchange S E α) (world : World (BitInterface S E).surrounded σ) (state : σ) :
    Run (BitInterface S E).surrounded σ (Except (BusError E) α) := exchange.run.byBits.run world state

/-- The runs of exchanges made one after the other; an error stops only its own exchange. -/
def runs (world : World (BitInterface S E).surrounded σ) :
    List (Exchange S E α) → σ → List (Run (BitInterface S E).surrounded σ (Except (BusError E) α)) :=
  reports fun exchange state =>
    let run := exchange.onBits world state
    (run, run.state)

def reads (world : World (BitInterface S E).surrounded σ) (count : Nat) :
    σ → List (Run (BitInterface S E).surrounded σ (Except (BusError E) UInt8)) :=
  runs world (.replicate count readByte)

def writes (world : World (BitInterface S E).surrounded σ) (bytes : List UInt8) :
    σ → List (Run (BitInterface S E).surrounded σ (Except (BusError E) Unit)) :=
  runs world (bytes.map writeByte)

theorem reads_succ (world : World (BitInterface S E).surrounded σ) (count : Nat) (state : σ) :
    reads world (count + 1) state =
      readByte.onBits world state :: reads world count (readByte.onBits world state).state := rfl

theorem writes_cons (world : World (BitInterface S E).surrounded σ) (byte : UInt8) (bytes : List UInt8) (state : σ) :
    writes world (byte :: bytes) state =
      (writeByte byte).onBits world state :: writes world bytes ((writeByte byte).onBits world state).state := rfl

end Exchange

/-- A run that makes these bit calls up to and with the first that fails: it ends with the error of that call, or, if
none fails, in a value. -/
structure Run.BitByBit (run : Run (BitInterface S E).surrounded σ (Except (BusError E) α)) (plan : List BitCall) :
    Prop where
  calls : run.history.map Event.request = (plan.map .own).take run.history.length
  broken : ∀ place event error, run.history[place]? = some event → event.failure? = some error →
    run.history.length = place + 1 ∧ run.value = .error error
  whole : (∀ event ∈ run.history, event.failure? = none) →
    run.history.length = plan.length ∧ ∃ value, run.value = .ok value

theorem Follows.bitByBit {plan : List BitCall} {run : Run (BitInterface S E).surrounded σ (Except (BusError E) α)}
    (follows : Follows ((plan.map .own).map (·, ())) run.history ((failureOf run.value).map (·, ()))) :
    run.BitByBit plan where
  calls := by
    rw [follows.requests, List.map_map]
    exact congrArg _ (List.map_id _)
  broken := by
    intro place event error made failed
    obtain ⟨length, ends⟩ := follows.length_of_failed made failed
    refine ⟨length, ?_⟩
    cases result : run.value with
    | error given =>
      rw [result] at ends
      cases ends
      rfl
    | ok value =>
      rw [result] at ends
      cases ends
  whole := by
    intro passed
    obtain ⟨length, ends⟩ := follows.length_of_passed passed
    refine ⟨by rw [length, List.length_map, List.length_map], ?_⟩
    cases result : run.value with
    | error given =>
      rw [result] at ends
      cases ends
    | ok value => exact ⟨value, rfl⟩

theorem Program.byBits_own (call : BusCall) :
    (own (I := BusInterface S E) call).byBits = call.byBits.surrounded := interpret_ask _ _

namespace Exchange
variable {world : World (BitInterface S E).surrounded σ} {state : σ}

theorem onBits_readByte (world : World (BitInterface S E).surrounded σ) (state : σ) :
    readByte.onBits world state = (BusCall.readByte.byBits (S := S) (E := E)).surrounded.run world state :=
  congrArg (Program.run world · state) (Program.byBits_own .readByte)

theorem onBits_writeByte (world : World (BitInterface S E).surrounded σ) (byte : UInt8) (state : σ) :
    (writeByte byte).onBits world state =
      ((BusCall.writeByte byte).byBits (S := S) (E := E)).surrounded.run world state :=
  congrArg (Program.run world · state) (Program.byBits_own (.writeByte byte))

theorem follows_readByte (world : World (BitInterface S E).surrounded σ) (state : σ) :
    let run := readByte.onBits world state
    Follows ((BusCall.readByte.bitCalls.map .own).map (·, ())) run.history ((failureOf run.value).map (·, ())) ∧
      (failureOf run.value = none → run.history.flatMap Event.received =
        BusLike.received (I := BusInterface S E) .readByte run.value) := by
  rw [onBits_readByte]
  exact BusCall.follows_byBits () (Program.course_run _ world state)

theorem follows_writeByte (world : World (BitInterface S E).surrounded σ) (byte : UInt8) (state : σ) :
    let run := (writeByte byte).onBits world state
    Follows (((BusCall.writeByte byte).bitCalls.map .own).map (·, ())) run.history
      ((failureOf run.value).map (·, ())) := by
  rw [onBits_writeByte]
  exact (BusCall.follows_byBits () (Program.course_run _ world state)).1

theorem history_readByte {byte : UInt8} (read : (readByte.onBits world state).value = .ok byte) :
    (readByte.onBits world state).history = bitsRead (bits byte) := by
  obtain ⟨follows, received⟩ := follows_readByte world state
  rw [read] at follows received
  rw [BusCall.bitCalls, List.map_replicate, List.map_replicate] at follows
  rw [follows.eq_bitsRead, received rfl]
  rfl

theorem history_writeByte {byte : UInt8} {done : Unit}
    (written : ((writeByte byte).onBits world state).value = .ok done) :
    ((writeByte byte).onBits world state).history = bitsWritten (bits byte) := by
  have follows := follows_writeByte world byte state
  dsimp only at follows
  rw [written] at follows
  rw [BusCall.bitCalls, List.map_map, List.map_map] at follows
  exact follows.eq_bitsWritten

theorem onBits_of_carries {byte : UInt8} {last : σ} (carries : Carries world state (bitsRead (bits byte)) last) :
    readByte.onBits world state = ⟨.ok byte, last, bitsRead (bits byte)⟩ := by
  rw [onBits_readByte]
  exact Program.run_eq_of_carries (BusCall.course_readByte byte) carries

end Exchange

section Bytes
variable {world : World (BitInterface S E).surrounded σ}

theorem bitsRead_append (first second : List Bool) :
    (bitsRead (first ++ second) : List (Event (BitInterface S E).surrounded)) = bitsRead first ++ bitsRead second :=
  List.map_append

theorem bitsWritten_append (first second : List Bool) :
    (bitsWritten (first ++ second) : List (Event (BitInterface S E).surrounded)) =
      bitsWritten first ++ bitsWritten second := List.map_append

namespace Exchange

theorem bitByBit_reads (count : Nat) (state : σ) :
    ∀ run ∈ reads world count state, run.BitByBit BusCall.readByte.bitCalls := by
  induction count generalizing state with
  | zero => nofun
  | succ count ih =>
    rw [reads_succ]
    intro run member
    rcases List.mem_cons.mp member with rfl | later
    · exact (follows_readByte world state).1.bitByBit
    · exact ih _ run later

theorem bitByBit_writes (bytes : List UInt8) (state : σ) :
    List.Forall₂ (fun byte run => run.BitByBit (BusCall.writeByte byte).bitCalls) bytes
      (writes world bytes state) := by
  induction bytes generalizing state with
  | nil => exact .nil
  | cons byte bytes ih =>
    rw [writes_cons]
    exact .cons (follows_writeByte world byte state).bitByBit (ih _)

theorem history_reads {bytes : List UInt8} {state : σ}
    (read : (reads world bytes.length state).map Run.value = bytes.map .ok) :
    (reads world bytes.length state).flatMap Run.history = bitsRead (bytes.flatMap bits) := by
  induction bytes generalizing state with
  | nil => rfl
  | cons byte bytes ih =>
    rw [List.length_cons, reads_succ] at read ⊢
    obtain ⟨first, others⟩ := List.cons.inj read
    rw [List.flatMap_cons, List.flatMap_cons, history_readByte first, ih others, bitsRead_append]

theorem history_writes {bytes : List UInt8} {state : σ}
    (written : ∀ run ∈ writes world bytes state, run.value = .ok ()) :
    (writes world bytes state).flatMap Run.history = bitsWritten (bytes.flatMap bits) := by
  induction bytes generalizing state with
  | nil => rfl
  | cons byte bytes ih =>
    rw [writes_cons] at written ⊢
    have first := history_writeByte (written _ (List.mem_cons_self ..))
    have others := ih fun run later => written run (List.mem_cons_of_mem _ later)
    rw [List.flatMap_cons, List.flatMap_cons, first, others, bitsWritten_append]

theorem value_reads {bytes : List UInt8} {state last : σ}
    (carries : Carries world state (bitsRead (bytes.flatMap bits)) last) :
    (reads world bytes.length state).map Run.value = bytes.map .ok := by
  induction bytes generalizing state with
  | nil => rfl
  | cons byte bytes ih =>
    rw [List.flatMap_cons, bitsRead_append] at carries
    obtain ⟨middle, first, others⟩ := carries_append.mp carries
    rw [List.length_cons, reads_succ, onBits_of_carries first, List.map_cons, List.map_cons, ih others]

end Exchange

/-- Bytes and bits on every bus that moves bits only. Bytes that are read pack the bits that came in, and written to
any bus they are those bits again; bytes that are written are the bits that they pack, and where these come in the same
bytes are read. Each byte by itself makes its eight calls up to and with the first that fails, and then there is that
call's error and no byte. -/
theorem bytes_packed (bytes : List UInt8) (count : Nat) (world : World (BitInterface S E).surrounded σ) (state : σ) :
    ((Exchange.reads world bytes.length state).map Run.value = bytes.map .ok →
      ∃ wire, Packs bytes wire ∧ (Exchange.reads world bytes.length state).flatMap Run.history = bitsRead wire ∧
        ∀ {S E σ : Type} (other : World (BitInterface S E).surrounded σ) (state : σ),
          (∀ run ∈ Exchange.writes other bytes state, run.value = .ok ()) →
          (Exchange.writes other bytes state).flatMap Run.history = bitsWritten wire) ∧
    ((∀ run ∈ Exchange.writes world bytes state, run.value = .ok ()) →
      ∃ wire, Packs bytes wire ∧ (Exchange.writes world bytes state).flatMap Run.history = bitsWritten wire ∧
        ∀ {S E σ : Type} (other : World (BitInterface S E).surrounded σ) (state last : σ),
          Carries other state (bitsRead wire) last →
          (Exchange.reads other bytes.length state).map Run.value = bytes.map .ok) ∧
    (∀ run ∈ Exchange.reads world count state, run.BitByBit (.replicate 8 .read)) ∧
    List.Forall₂ (fun byte run => run.BitByBit ((bits byte).map .write)) bytes
      (Exchange.writes world bytes state) := by
  refine ⟨fun read => ?_, fun written => ?_, Exchange.bitByBit_reads count state, Exchange.bitByBit_writes bytes state⟩
  · refine ⟨bytes.flatMap bits, packs_bits bytes, Exchange.history_reads read, ?_⟩
    exact fun other state written => Exchange.history_writes written
  · refine ⟨bytes.flatMap bits, packs_bits bytes, Exchange.history_writes written, ?_⟩
    exact fun other state last carries => Exchange.value_reads carries

/-- Two bytes read over a pin whose levels are scripted, and written to a bus of bits; and the second byte written to
a pin that fails in its third bit. -/
theorem bytes_packed_failed_bit :
    let levels := [true, false, true, false, false, true, false, true] ++ bits 0x19
    let bus := World.onPin Script.pin
    let read := Exchange.reads bus 2 (.unconfigured, ⟨levels, [], 0⟩)
    let written := Exchange.writes ScriptedBus.bitwise [0xa5, 0x19] ⟨⟨[], [], 0⟩, [], [], []⟩
    let broken := (Exchange.writeByte 0x19).onBits bus (.unconfigured, ⟨[], [(8, 7)], 0⟩)
    read.map Run.value = [.ok 0xa5, .ok 0x19] ∧ read.flatMap Run.history = bitsRead levels ∧
      (∀ run ∈ written, run.value = .ok ()) ∧ written.flatMap Run.history = bitsWritten levels ∧
      broken.history.length = 3 ∧ broken.value = .error (.other (.pin ⟨7⟩)) := by
  intro levels bus read written broken
  have came : read.map Run.value = [.ok 0xa5, .ok 0x19] := by decide
  have passed : ∀ run ∈ written, run.value = .ok () := by decide
  have struck : broken.history[2]? = some ⟨.own (.write false), .error (.other (.pin ⟨7⟩))⟩ := rfl
  obtain ⟨reading, -, -, -⟩ := bytes_packed [0xa5, 0x19] 0 bus (.unconfigured, ⟨levels, [], 0⟩)
  obtain ⟨wire, packs, brought, again⟩ := reading came
  have same : wire = levels := packs.eq
  rw [same] at brought again
  obtain ⟨-, -, -, writing⟩ := bytes_packed [0x19] 0 bus (.unconfigured, ⟨[], [(8, 7)], 0⟩)
  rw [Exchange.writes_cons] at writing
  obtain ⟨third, failed⟩ := (List.forall₂_cons.mp writing).1.broken 2 _ _ struck rfl
  exact ⟨came, brought, passed, again _ _ passed, third, failed⟩

end Bytes
end Runs
end Thermowire
