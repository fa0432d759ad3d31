import Thermowire.Proofs.Course
import Thermowire.Steps

/-! Plans of bus calls. An exchange obeys a plan when its calls are those of the plan in order, up to
and with the first that fails, and when its error is that call's. Plans of exchanges in sequence are
joined, and a plan of byte calls becomes one of bit calls on a bus that moves bits only. -/
namespace Thermowire

def failureOf {ε α : Type} : Except ε α → Option ε
  | .error error => some error
  | .ok _ => none

/-- An interface of bus calls: a call may fail, and it may bring bits in. -/
class BusLike (I : Interface) (E : outParam Type) where
  failure? : (call : I.Call) → I.Answer call → Option (BusError E)
  received : (call : I.Call) → I.Answer call → List Bool

instance {S E : Type} : BusLike (BitInterface S E) E where
  failure?
    | .reset, answer => failureOf answer
    | .write _, answer => failureOf answer
    | .read, answer => failureOf answer
  received
    | .read, .ok bit => [bit]
    | _, _ => []

instance {S E : Type} : BusLike (BusInterface S E) E where
  failure?
    | .bit call, answer => BusLike.failure? (I := BitInterface S E) call answer
    | .writeByte _, answer => failureOf answer
    | .readByte, answer => failureOf answer
  received
    | .bit call, answer => BusLike.received (I := BitInterface S E) call answer
    | .readByte, .ok byte => bits byte
    | _, _ => []

section Interface
variable {I : Interface} {E α β μ : Type}

def Event.isCall : Event I.surrounded → Bool
  | ⟨.ambient (.log _), _⟩ => false
  | _ => true

def calls (history : List (Event I.surrounded)) : List (Event I.surrounded) :=
  history.filter Event.isCall

@[simp] theorem calls_append (first second : List (Event I.surrounded)) :
    calls (first ++ second) = calls first ++ calls second := List.filter_append ..

variable [BusLike I E]

def Event.failure? : Event I.surrounded → Option (BusError E)
  | ⟨.own call, answer⟩ => BusLike.failure? call answer
  | ⟨.ambient _, _⟩ => none

def Event.received : Event I.surrounded → List Bool
  | ⟨.own call, answer⟩ => BusLike.received call answer
  | ⟨.ambient _, _⟩ => []

/-- The events are the calls of the plan up to and with the first that fails, or all of them if none
does. Each entry of the plan carries a mark; what is left behind is the error of the call that failed
and the mark of its entry. -/
inductive Follows : List (Surrounded I.Call × μ) → List (Event I.surrounded) →
    Option (BusError E × μ) → Prop where
  | done : Follows [] [] none
  | stopped {event : Event I.surrounded} {error : BusError E} {mark : μ}
      {plan : List (Surrounded I.Call × μ)} (failed : event.failure? = some error) :
      Follows ((event.request, mark) :: plan) [event] (some (error, mark))
  | next {event : Event I.surrounded} {mark : μ} {plan : List (Surrounded I.Call × μ)}
      {events : List (Event I.surrounded)} {stop : Option (BusError E × μ)}
      (passed : event.failure? = none) (rest : Follows plan events stop) :
      Follows ((event.request, mark) :: plan) (event :: events) stop

namespace Follows
variable {plan rest : List (Surrounded I.Call × μ)} {events later : List (Event I.surrounded)}
  {stop other : Option (BusError E × μ)}

theorem ambient {call : Ambient} {mark : μ} (follows : Follows plan events stop) :
    Follows ((.ambient call, mark) :: plan) (⟨.ambient call, ()⟩ :: events) stop := by
  have passed : Event.failure? (I := I) ⟨.ambient call, ()⟩ = none := rfl
  exact .next passed follows

theorem append_of_isSome (follows : Follows plan events stop) (broken : stop.isSome) :
    Follows (plan ++ rest) events stop := by
  induction follows with
  | done => cases broken
  | stopped failed => exact .stopped failed
  | next passed _ ih => exact .next passed (ih broken)

theorem append_of_none (follows : Follows plan events stop) (whole : stop = none)
    (others : Follows rest later other) : Follows (plan ++ rest) (events ++ later) other := by
  induction follows with
  | done => exact others
  | stopped failed => cases whole
  | next passed _ ih => exact .next passed (ih whole)

theorem exists_failed (follows : Follows plan events stop) {error : BusError E} {mark : μ}
    (broken : stop = some (error, mark)) : ∃ event ∈ events, event.failure? = some error := by
  induction follows with
  | done => cases broken
  | stopped failed =>
    cases broken
    exact ⟨_, List.mem_singleton_self _, failed⟩
  | next passed _ ih =>
    obtain ⟨event, member, failed⟩ := ih broken
    exact ⟨event, List.mem_cons_of_mem _ member, failed⟩

theorem eq_some (follows : Follows plan events stop) {event : Event I.surrounded} {error : BusError E}
    (member : event ∈ events) (failed : event.failure? = some error) :
    ∃ mark, stop = some (error, mark) := by
  induction follows with
  | done => cases member
  | stopped given =>
    obtain rfl := List.mem_singleton.mp member
    rw [given] at failed
    cases failed
    exact ⟨_, rfl⟩
  | next passed _ ih =>
    rcases List.mem_cons.mp member with rfl | later
    · rw [passed] at failed
      cases failed
    · exact ih later

theorem mem_marks (follows : Follows plan events stop) {error : BusError E} {mark : μ}
    (broken : stop = some (error, mark)) : mark ∈ plan.map Prod.snd := by
  induction follows with
  | done => cases broken
  | stopped failed =>
    cases broken
    exact List.mem_cons_self ..
  | next passed _ ih => exact List.mem_cons_of_mem _ (ih broken)

theorem mem_plan (follows : Follows plan events stop) {event : Event I.surrounded} (member : event ∈ events) :
    ∃ mark, (event.request, mark) ∈ plan := by
  induction follows with
  | done => cases member
  | stopped failed =>
    obtain rfl := List.mem_singleton.mp member
    exact ⟨_, List.mem_cons_self ..⟩
  | next passed _ ih =>
    rcases List.mem_cons.mp member with rfl | later
    · exact ⟨_, List.mem_cons_self ..⟩
    · obtain ⟨mark, planned⟩ := ih later
      exact ⟨mark, List.mem_cons_of_mem _ planned⟩

theorem events_eq_nil (follows : Follows [] events stop) : events = [] := by
  cases follows
  rfl

theorem of_nil (follows : Follows plan [] stop) : plan = [] ∧ stop = none := by
  cases follows
  exact ⟨rfl, rfl⟩

theorem of_cons {event : Event I.surrounded} (follows : Follows plan (event :: events) stop) :
    ∃ mark remaining, plan = (event.request, mark) :: remaining ∧
      ((∃ error, event.failure? = some error ∧ events = [] ∧ stop = some (error, mark)) ∨
        event.failure? = none ∧ Follows remaining events stop) := by
  cases follows with
  | stopped failed => exact ⟨_, _, rfl, .inl ⟨_, failed, rfl, rfl⟩⟩
  | next passed others => exact ⟨_, _, rfl, .inr ⟨passed, others⟩⟩

theorem of_planned {request : Surrounded I.Call} {mark : μ} (follows : Follows ((request, mark) :: plan) events stop) :
    ∃ answer rest, events = ⟨request, answer⟩ :: rest ∧
      ((∃ error, Event.failure? (I := I) ⟨request, answer⟩ = some error ∧ rest = [] ∧ stop = some (error, mark)) ∨
        Event.failure? (I := I) ⟨request, answer⟩ = none ∧ Follows plan rest stop) := by
  cases follows with
  | stopped failed => exact ⟨_, [], rfl, .inl ⟨_, failed, rfl, rfl⟩⟩
  | next passed others => exact ⟨_, _, rfl, .inr ⟨passed, others⟩⟩

theorem of_append (follows : Follows (plan ++ rest) events stop) :
    Follows plan events stop ∧ stop.isSome ∨
      ∃ first second, events = first ++ second ∧ Follows plan first none ∧ Follows rest second stop := by
  induction plan generalizing events with
  | nil => exact .inr ⟨[], events, rfl, .done, follows⟩
  | cons entry plan ih =>
    cases follows with
    | stopped failed => exact .inl ⟨.stopped failed, rfl⟩
    | next passed others =>
      rcases ih others with ⟨stopped, broken⟩ | ⟨first, second, rfl, through, behind⟩
      · exact .inl ⟨.next passed stopped, broken⟩
      · exact .inr ⟨_ :: first, second, rfl, .next passed through, behind⟩

theorem received_eq_nil (follows : Follows plan events stop)
    (mute : ∀ entry ∈ plan, ∀ answer, Event.received (I := I) ⟨entry.1, answer⟩ = []) :
    events.flatMap Event.received = [] := by
  induction follows with
  | done => rfl
  | stopped failed =>
    rw [List.flatMap_singleton]
    exact mute _ (List.mem_cons_self ..) _
  | @next event _ _ _ _ passed _ ih =>
    rw [List.flatMap_cons, ih fun entry member => mute entry (List.mem_cons_of_mem _ member)]
    exact (List.append_nil _).trans (mute _ (List.mem_cons_self ..) event.answer)

theorem calls_eq (follows : Follows plan events stop)
    (quiet : ∀ entry ∈ plan, ∀ record, entry.1 ≠ .ambient (.log record)) : calls events = events := by
  have isCall {event : Event I.surrounded} (planned : ∀ record, event.request ≠ .ambient (.log record)) :
      event.isCall = true := by
    obtain ⟨request | ambient, answer⟩ := event
    · rfl
    · cases ambient with
      | log record => exact absurd rfl (planned record)
      | _ => rfl
  induction follows with
  | done => rfl
  | stopped failed => exact List.filter_cons_of_pos (isCall (quiet _ (List.mem_cons_self ..)))
  | next passed _ ih =>
    rw [calls, List.filter_cons_of_pos (isCall (quiet _ (List.mem_cons_self ..)))]
    exact congrArg _ (ih fun entry member => quiet entry (List.mem_cons_of_mem _ member))

end Follows

/-- The exchange obeys the plan, whatever its calls are answered and however the plan is marked. -/
structure Obeys (exchange : Program I.surrounded (Except (BusError E) α))
    (plan : List (Surrounded I.Call)) : Prop where
  follows : ∀ {μ : Type} (mark : μ) {history result}, exchange.Course history result →
    Follows (plan.map (·, mark)) history ((failureOf result).map (·, mark))

namespace Obeys

theorem bind {exchange : ExceptT (BusError E) (Program I.surrounded) α}
    {f : α → ExceptT (BusError E) (Program I.surrounded) β} {plan rest : List (Surrounded I.Call)}
    (first : Obeys exchange.run plan) (second : ∀ value, Obeys (f value).run rest) :
    Obeys (exchange >>= f).run (plan ++ rest) := by
  constructor
  intro μ mark history result course
  obtain ⟨made, given, later, one, two, rfl⟩ := Program.course_bind.mp course
  have begun := first.follows mark one
  rw [List.map_append]
  cases given with
  | error error =>
    obtain ⟨rfl, rfl⟩ := two
    rw [List.append_nil]
    exact begun.append_of_isSome rfl
  | ok value => exact begun.append_of_none rfl ((second value).follows mark two)

theorem map {exchange : ExceptT (BusError E) (Program I.surrounded) α} {plan : List (Surrounded I.Call)}
    (obeys : Obeys exchange.run plan) (f : α → β) : Obeys (f <$> exchange).run plan := by
  constructor
  intro μ mark history result course
  rw [ExceptT.run_map] at course
  obtain ⟨given, made, rfl⟩ := Program.course_map.mp course
  cases given <;> exact obeys.follows mark made

theorem pure (value : α) :
    Obeys (Pure.pure value : ExceptT (BusError E) (Program I.surrounded) α).run [] := by
  constructor
  rintro μ mark _ _ ⟨rfl, rfl⟩
  exact .done

end Obeys

theorem follows_own {call : I.Call} {history : List (Event I.surrounded)} {answer : I.Answer call}
    (mark : μ) (course : (Program.own call).Course history answer) :
    Follows [(.own call, mark)] history ((BusLike.failure? call answer).map (·, mark)) := by
  obtain ⟨given, rest, rfl, rfl, rfl⟩ := course
  change Follows _ _ ((Event.failure? (I := I) ⟨.own call, answer⟩).map (·, mark))
  cases failed : Event.failure? (I := I) ⟨.own call, answer⟩ with
  | some error => exact .stopped failed
  | none => exact .next failed .done

end Interface

section Exchange
variable {S E α : Type}

namespace Exchange

theorem obeys_reset : Obeys (reset : Exchange S E S).run [.own (.bit .reset)] :=
  ⟨fun mark _ _ course => follows_own mark course⟩

theorem obeys_writeBit (bit : Bool) :
    Obeys (writeBit bit : Exchange S E Unit).run [.own (.bit (.write bit))] :=
  ⟨fun mark _ _ course => follows_own mark course⟩

theorem obeys_readBit : Obeys (readBit : Exchange S E Bool).run [.own (.bit .read)] :=
  ⟨fun mark _ _ course => follows_own mark course⟩

theorem obeys_writeByte (byte : UInt8) :
    Obeys (writeByte byte : Exchange S E Unit).run [.own (.writeByte byte)] :=
  ⟨fun mark _ _ course => follows_own mark course⟩

theorem obeys_readByte : Obeys (readByte : Exchange S E UInt8).run [.own .readByte] :=
  ⟨fun mark _ _ course => follows_own mark course⟩

theorem obeys_addressAll : Obeys (addressAll : Exchange S E S).run
    [.own (.bit .reset), .own (.writeByte Command.skipRom)] :=
  obeys_reset.bind fun status => (obeys_writeByte _).bind fun _ => .pure status

end Exchange

def BusStep.plan : BusStep → List (Surrounded BusCall)
  | reset => [.own (.bit .reset)]
  | addressAll => [.own (.bit .reset), .own (.writeByte Command.skipRom)]
  | writeBit bit => [.own (.bit (.write bit))]
  | writeByte byte => [.own (.writeByte byte)]
  | readBit => [.own (.bit .read)]
  | readByte => [.own .readByte]

theorem BusStep.obeys (step : BusStep) : Obeys (step.exchange : Exchange S E (Value S)).run step.plan := by
  cases step with
  | reset => exact Exchange.obeys_reset.map _
  | addressAll => exact Exchange.obeys_addressAll.map _
  | writeBit bit => exact (Exchange.obeys_writeBit bit).map _
  | writeByte byte => exact (Exchange.obeys_writeByte byte).map _
  | readBit => exact Exchange.obeys_readBit.map _
  | readByte => exact Exchange.obeys_readByte.map _

end Exchange

section Bitwise
variable {S E α β μ : Type}

def BusCall.bitCalls : BusCall → List BitCall
  | bit call => [call]
  | writeByte byte => (bits byte).map .write
  | readByte => .replicate 8 .read

/-- A marked plan for a bus that moves bits only: each bit call keeps the mark of its byte. -/
def bitwise (plan : List (Surrounded BusCall × μ)) : List (Surrounded BitCall × μ) :=
  plan.flatMap fun
    | (.own call, mark) => (call.bitCalls.map .own).map (·, mark)
    | (.ambient call, mark) => [(.ambient call, mark)]

theorem bitwise_append (first second : List (Surrounded BusCall × μ)) :
    bitwise (first ++ second) = bitwise first ++ bitwise second := List.flatMap_append

theorem bitwise_own (call : BusCall) (mark : μ) (plan : List (Surrounded BusCall × μ)) :
    bitwise ((.own call, mark) :: plan) = (call.bitCalls.map .own).map (·, mark) ++ bitwise plan := rfl

theorem mem_marks_of_bitwise {plan : List (Surrounded BusCall × μ)} {mark : μ}
    (member : mark ∈ (bitwise plan).map Prod.snd) : mark ∈ plan.map Prod.snd := by
  simp only [bitwise, List.mem_map, List.mem_flatMap] at member
  obtain ⟨_, ⟨⟨call | call, own⟩, planned, expanded⟩, rfl⟩ := member
  · obtain ⟨_, -, rfl⟩ := List.mem_map.mp expanded
    exact List.mem_map_of_mem (f := Prod.snd) planned
  · rw [List.mem_singleton] at expanded
    rw [expanded]
    exact List.mem_map_of_mem (f := Prod.snd) planned

theorem mem_of_bitwise {plan : List (Surrounded BusCall × μ)} {call : Ambient} {mark : μ}
    (member : (.ambient call, mark) ∈ bitwise plan) : (.ambient call, mark) ∈ plan := by
  obtain ⟨⟨request | other, own⟩, planned, expanded⟩ := List.mem_flatMap.mp member
  · simp at expanded
  · cases List.mem_singleton.mp expanded
    exact planned

namespace Transfer

def amid (transfer : Transfer S E α) : ExceptT (BusError E) (Program (BitInterface S E).surrounded) α :=
  .mk transfer.run.surrounded

theorem amid_bind (transfer : Transfer S E α) (f : α → Transfer S E β) :
    (transfer >>= f).amid = transfer.amid >>= fun value => (f value).amid := by
  apply ExceptT.ext
  rw [ExceptT.run_bind, amid, ExceptT.run_mk, ExceptT.run_bind, Program.surrounded,
    Program.interpret_bind]
  apply bind_congr
  intro given
  cases given <;> rfl

theorem amid_map (f : α → β) (transfer : Transfer S E α) : (f <$> transfer).amid = f <$> transfer.amid := by
  rw [← bind_pure_comp, amid_bind, ← bind_pure_comp]
  rfl

theorem obeys_writeBits (wire : List Bool) : Obeys (writeBits wire : Transfer S E Unit).amid.run
    (wire.map fun bit => .own (.write bit)) := by
  induction wire with
  | nil => exact Obeys.pure ()
  | cons bit wire ih =>
    have first : Obeys (writeBit bit : Transfer S E Unit).amid.run [.own (.write bit)] :=
      ⟨fun mark _ _ course => follows_own mark course⟩
    change Obeys (writeBit bit >>= fun _ => writeBits wire).amid.run _
    rw [amid_bind]
    exact first.bind fun _ => ih

theorem obeys_readBit : Obeys (readBit : Transfer S E Bool).amid.run [.own .read] :=
  ⟨fun mark _ _ course => follows_own mark course⟩

theorem obeys_readBits (count : Nat) : Obeys (readBits count : Transfer S E (List Bool)).amid.run
    (.replicate count (.own .read)) := by
  induction count with
  | zero => exact Obeys.pure []
  | succ count ih =>
    rw [readBits, amid_bind]
    refine obeys_readBit.bind fun bit => ?_
    rw [amid_bind, ← List.append_nil (List.replicate _ _)]
    exact ih.bind fun wire => Obeys.pure (bit :: wire)

theorem received_readBits {count : Nat} {history : List (Event (BitInterface S E).surrounded)}
    {wire : List Bool} (course : (readBits count : Transfer S E (List Bool)).amid.run.Course history (.ok wire)) :
    history.flatMap Event.received = wire ∧ wire.length = count := by
  induction count generalizing history wire with
  | zero =>
    obtain ⟨rfl, same⟩ := course
    cases same
    exact ⟨rfl, rfl⟩
  | succ count ih =>
    rw [readBits, amid_bind] at course
    obtain ⟨first, bit, rest, one, others, rfl⟩ := Program.course_bind_ok course
    rw [amid_bind] at others
    obtain ⟨second, later, last, two, ⟨rfl, same⟩, rfl⟩ := Program.course_bind_ok others
    obtain ⟨_, _, rfl, rfl, rfl⟩ := one
    obtain ⟨read, counted⟩ := ih two
    cases same
    rw [List.append_nil, List.flatMap_append, read, List.length_cons, counted]
    exact ⟨rfl, rfl⟩

theorem received_writeBits {wire : List Bool} {history : List (Event (BitInterface S E).surrounded)}
    {done : Unit} (course : (writeBits wire : Transfer S E Unit).amid.run.Course history (.ok done)) :
    history.flatMap Event.received = [] := by
  induction wire generalizing history with
  | nil =>
    obtain ⟨rfl, -⟩ := course
    rfl
  | cons bit wire ih =>
    change (writeBit bit >>= fun _ => writeBits wire).amid.run.Course _ _ at course
    rw [amid_bind] at course
    obtain ⟨first, _, rest, ⟨_, _, rfl, rfl, rfl⟩, others, rfl⟩ := Program.course_bind_ok course
    rw [List.flatMap_append, ih others]
    rfl

end Transfer

theorem BusCall.follows_byBits {call : BusCall} {history : List (Event (BitInterface S E).surrounded)}
    {answer : call.Answer S E} (mark : μ) (course : call.byBits.surrounded.Course history answer) :
    Follows ((call.bitCalls.map .own).map (·, mark)) history
        ((BusLike.failure? (I := BusInterface S E) call answer).map (·, mark)) ∧
      (BusLike.failure? (I := BusInterface S E) call answer = none →
        history.flatMap Event.received = BusLike.received (I := BusInterface S E) call answer) := by
  cases call with
  | bit call =>
    refine ⟨follows_own mark course, fun _ => ?_⟩
    obtain ⟨_, _, rfl, rfl, rfl⟩ := course
    exact List.append_nil _
  | writeByte byte =>
    change (Transfer.writeBits (bits byte) : Transfer S E Unit).amid.run.Course history answer at course
    have follows := (Transfer.obeys_writeBits (bits byte)).follows mark course
    rw [bitCalls, List.map_map]
    refine ⟨follows, fun whole => ?_⟩
    cases answer with
    | error error => cases whole
    | ok _ => exact Transfer.received_writeBits course
  | readByte =>
    change (ofBits <$> Transfer.readBits 8 : Transfer S E UInt8).amid.run.Course history answer at course
    rw [Transfer.amid_map, ExceptT.run_map] at course
    obtain ⟨given, made, rfl⟩ := Program.course_map.mp course
    have follows := (Transfer.obeys_readBits 8).follows mark made
    rw [bitCalls, List.map_replicate]
    cases given with
    | error error => exact ⟨follows, nofun⟩
    | ok wire =>
      obtain ⟨read, eight⟩ := Transfer.received_readBits made
      exact ⟨follows, fun _ => read.trans (bits_ofBits eight).symm⟩

/-- What a segment of bit calls owes to the event that it stands for. -/
def Expands (event : Event (BusInterface S E).surrounded)
    (segment : List (Event (BitInterface S E).surrounded)) : Prop :=
  (Program.answering (fun call : BusCall => call.byBits.surrounded) Program.ambient event.request).Course
    segment event.answer

theorem expands_ambient {call : Ambient} {answer : Unit}
    {segment : List (Event (BitInterface S E).surrounded)}
    (expands : Expands (S := S) (E := E) ⟨.ambient call, answer⟩ segment) :
    segment = [⟨.ambient call, ()⟩] := by
  obtain ⟨_, _, rfl, rfl, _⟩ := expands
  rfl

/-- A plan followed on a bus that moves bytes is followed bit by bit on one that moves bits only, to
the same end and with the same bits brought in. -/
theorem Follows.bitwise {plan : List (Surrounded BusCall × μ)} {one two : Unit}
    {events : List (Event (BusInterface S E).surrounded)}
    {history : List (Event (BitInterface S E).surrounded)} {stop : Option (BusError E × μ)}
    (stitched : Program.Stitched (fun _ event segment _ => Expands event segment) one events history two)
    (follows : Follows plan (calls events) stop) :
    Follows (Thermowire.bitwise plan) (calls history) stop ∧
      (stop = none → (calls history).flatMap Event.received = (calls events).flatMap Event.received) := by
  induction stitched generalizing plan stop with
  | nil memory =>
    obtain ⟨rfl, rfl⟩ := follows.of_nil
    exact ⟨.done, fun _ => rfl⟩
  | @cons _ _ _ event events segment rest head tail ih =>
    obtain ⟨call | call, answer⟩ := event
    · change Follows plan (⟨.own call, answer⟩ :: calls events) stop at follows
      obtain ⟨mark, plan, rfl, ends⟩ := follows.of_cons
      obtain ⟨made, brought⟩ := BusCall.follows_byBits mark head
      have whole : calls segment = segment := made.calls_eq (by simp)
      change _ ∧ (_ → _ = (Event.received _ ++ (calls events).flatMap Event.received))
      rw [bitwise_own, calls_append, whole, List.flatMap_append]
      rcases ends with ⟨error, failed, ended, rfl⟩ | ⟨passed, others⟩
      · have ended : Follows ([] : List (Surrounded BusCall × μ)) (calls events) none := by
          rw [ended]
          exact .done
        -- no call is left in the plan, so none is made behind the one that failed
        have silent : calls rest = [] := (ih ended).1.events_eq_nil
        rw [silent, List.append_nil]
        refine ⟨?_, nofun⟩
        change BusLike.failure? call answer = some error at failed
        rw [failed] at made
        exact made.append_of_isSome rfl
      · obtain ⟨goes, brings⟩ := ih others
        change BusLike.failure? call answer = none at passed
        rw [passed] at made
        refine ⟨made.append_of_none rfl goes, fun ended => ?_⟩
        rw [brought passed, brings ended]
        rfl
    · obtain rfl := expands_ambient head
      cases call with
      | log record => exact ih follows
      | _ =>
        obtain ⟨mark, plan, rfl, ⟨_, failed, -, -⟩ | ⟨-, others⟩⟩ := Follows.of_cons follows
        · cases failed
        · obtain ⟨goes, brings⟩ := ih others
          exact ⟨goes.ambient, brings⟩

end Bitwise

end Thermowire
