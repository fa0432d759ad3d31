import Thermowire.Program

/-! What a program can do, whatever answers its calls. A course is a history that the program can
have together with the value in which it then ends: every run is a course, the courses of a sequence
are those of its parts put together, and a program whose calls are themselves programs has a history
that is stitched together from theirs. -/
namespace Thermowire

namespace Program
variable {I J : Interface} {α β σ τ : Type}

/-- Whether the program makes exactly these calls, if they are answered so, and ends in `result`. -/
def Course : Program I α → List (Event I) → α → Prop
  | done value, history, result => history = [] ∧ result = value
  | call request next, history, result =>
    ∃ answer rest, history = ⟨request, answer⟩ :: rest ∧ (next answer).Course rest result

theorem course_bind {program : Program I α} {f : α → Program I β} {history : List (Event I)}
    {result : β} :
    (program >>= f).Course history result ↔
      ∃ first value second, program.Course first value ∧ (f value).Course second result ∧
        history = first ++ second := by
  induction program generalizing history with
  | done value =>
    constructor
    · intro course
      exact ⟨[], value, history, ⟨rfl, rfl⟩, course, rfl⟩
    · rintro ⟨first, value, second, ⟨rfl, rfl⟩, course, rfl⟩
      exact course
  | call request next ih =>
    constructor
    · rintro ⟨answer, rest, rfl, course⟩
      obtain ⟨first, value, second, one, two, rfl⟩ := (ih answer).mp course
      exact ⟨_, value, second, ⟨answer, first, rfl, one⟩, two, rfl⟩
    · rintro ⟨_, value, second, ⟨answer, first, rfl, one⟩, two, rfl⟩
      exact ⟨answer, first ++ second, rfl, (ih answer).mpr ⟨first, value, second, one, two, rfl⟩⟩

theorem course_map {program : Program I α} {f : α → β} {history : List (Event I)} {result : β} :
    (f <$> program).Course history result ↔
      ∃ value, program.Course history value ∧ result = f value := by
  rw [← bind_pure_comp, course_bind]
  constructor
  · rintro ⟨first, value, second, course, ⟨rfl, same⟩, rfl⟩
    exact ⟨value, by rwa [List.append_nil], same⟩
  · rintro ⟨value, course, same⟩
    exact ⟨history, value, [], course, ⟨rfl, same⟩, (List.append_nil history).symm⟩

theorem course_bind_done {program : Program I α} {f : α → β} {history : List (Event I)} {value : α}
    (course : program.Course history value) : (program >>= fun value => done (f value)).Course history (f value) :=
  course_bind.mpr ⟨history, value, [], course, ⟨rfl, rfl⟩, (List.append_nil history).symm⟩

theorem course_bind_ok {ε : Type} {action : ExceptT ε (Program I) α} {f : α → ExceptT ε (Program I) β}
    {history : List (Event I)} {result : β}
    (course : (action >>= f).run.Course history (.ok result)) :
    ∃ first value second, action.run.Course first (.ok value) ∧
      (f value).run.Course second (.ok result) ∧ history = first ++ second := by
  obtain ⟨first, given, second, one, two, rfl⟩ := course_bind.mp course
  cases given with
  | error error => cases two.2
  | ok value => exact ⟨first, value, second, one, two, rfl⟩

theorem course_run (program : Program I α) (world : World I σ) (state : σ) :
    program.Course (program.run world state).history (program.run world state).value := by
  induction program generalizing state with
  | done value => exact ⟨rfl, rfl⟩
  | call request next ih => exact ⟨_, _, rfl, ih _ _⟩

theorem run_state_of_nil {program : Program I α} {world : World I σ} {state : σ}
    (silent : (program.run world state).history = []) : (program.run world state).state = state := by
  cases program with
  | done value => rfl
  | call request next => cases silent

/-- A history in segments, one for each event, while a memory is handed on from one to the next. -/
inductive Stitched (part : τ → Event I → List (Event J) → τ → Prop) :
    τ → List (Event I) → List (Event J) → τ → Prop where
  | nil (memory : τ) : Stitched part memory [] [] memory
  | cons {first middle last : τ} {event : Event I} {events : List (Event I)}
      {segment rest : List (Event J)} (head : part first event segment middle)
      (tail : Stitched part middle events rest last) :
      Stitched part first (event :: events) (segment ++ rest) last

theorem Stitched.lift {part : τ → Event I → List (Event J) → τ → Prop}
    {keeps : τ → List (Event J) → τ → Prop} {first last : τ} {events : List (Event I)}
    {history : List (Event J)} (stitched : Stitched part first events history last)
    (nil : ∀ memory, keeps memory [] memory)
    (append : ∀ {one two three segment rest}, keeps one segment two → keeps two rest three →
      keeps one (segment ++ rest) three)
    (each : ∀ {one event segment two}, part one event segment two → keeps one segment two) :
    keeps first history last := by
  induction stitched with
  | nil memory => exact nil memory
  | cons head tail ih => exact append (each head) ih

theorem Stitched.forall_mem {part : τ → Event I → List (Event J) → τ → Prop} {good : Event I → Prop}
    {first last : τ} {events : List (Event I)} {history : List (Event J)}
    (stitched : Stitched part first events history last)
    (each : ∀ {one event segment two}, part one event segment two → good event) :
    ∀ event ∈ events, good event := by
  induction stitched with
  | nil memory => simp
  | cons head tail ih =>
    intro event member
    rcases List.mem_cons.mp member with rfl | later
    · exact each head
    · exact ih event later

theorem course_interpret_state {answer : (request : I.Call) → StateT τ (Program J) (I.Answer request)}
    {program : Program I α} {history : List (Event J)} {result : α} {before after : τ}
    (course : ((interpret answer program).run before).Course history (result, after)) :
    ∃ events, program.Course events result ∧
      Stitched (fun one event segment two =>
        ((answer event.request).run one).Course segment (event.answer, two))
        before events history after := by
  induction program generalizing before history with
  | done value =>
    obtain ⟨rfl, same⟩ := course
    cases same
    exact ⟨[], ⟨rfl, rfl⟩, .nil _⟩
  | call request next ih =>
    obtain ⟨segment, ⟨reply, middle⟩, rest, head, tail, rfl⟩ := course_bind.mp course
    obtain ⟨events, made, stitched⟩ := ih reply tail
    exact ⟨⟨request, reply⟩ :: events, ⟨reply, events, rfl, made⟩, .cons head stitched⟩

/-- The segments of a program whose calls are programs. -/
theorem course_interpret {answer : (request : I.Call) → Program J (I.Answer request)}
    {program : Program I α} {history : List (Event J)} {result : α}
    (course : (interpret answer program).Course history result) :
    ∃ events, program.Course events result ∧
      Stitched (fun _ event segment _ => (answer event.request).Course segment event.answer)
        () events history () := by
  induction program generalizing history with
  | done value =>
    obtain ⟨rfl, rfl⟩ := course
    exact ⟨[], ⟨rfl, rfl⟩, .nil _⟩
  | call request next ih =>
    obtain ⟨segment, reply, rest, head, tail, rfl⟩ := course_bind.mp course
    obtain ⟨events, made, stitched⟩ := ih reply tail
    exact ⟨⟨request, reply⟩ :: events, ⟨reply, events, rfl, made⟩, .cons head stitched⟩

end Program

section Action
variable {I : Interface} {α β ε τ : Type}

/-- Whether an action that hands a memory on and stops at its first error can go this way. -/
def Leads (action : ExceptT ε (StateT τ (Program I)) α) (before : τ) (history : List (Event I))
    (result : Except ε α) (after : τ) : Prop :=
  (action.run.run before).Course history (result, after)

theorem leads_bind {action : ExceptT ε (StateT τ (Program I)) α}
    {f : α → ExceptT ε (StateT τ (Program I)) β} {before after : τ} {history : List (Event I)}
    {result : Except ε β} (leads : Leads (action >>= f) before history result after) :
    (∃ error, result = .error error ∧ Leads action before history (.error error) after) ∨
      ∃ first value middle second, Leads action before first (.ok value) middle ∧
        Leads (f value) middle second result after ∧ history = first ++ second := by
  obtain ⟨first, ⟨value, middle⟩, second, one, two, rfl⟩ := Program.course_bind.mp leads
  cases value with
  | error error =>
    obtain ⟨rfl, same⟩ := two
    cases same
    exact .inl ⟨error, rfl, by rwa [List.append_nil]⟩
  | ok value => exact .inr ⟨first, value, middle, second, one, two, rfl⟩

theorem leads_bind_of_error {action : ExceptT ε (StateT τ (Program I)) α}
    {f : α → ExceptT ε (StateT τ (Program I)) β} {before after : τ} {history : List (Event I)} {error : ε}
    (broken : Leads action before history (.error error) after) :
    Leads (action >>= f) before history (.error error) after :=
  Program.course_bind.mpr ⟨history, _, [], broken, ⟨rfl, rfl⟩, (List.append_nil history).symm⟩

theorem leads_bind_of_ok {action : ExceptT ε (StateT τ (Program I)) α}
    {f : α → ExceptT ε (StateT τ (Program I)) β} {before middle after : τ} {first second : List (Event I)}
    {value : α} {result : Except ε β} (begun : Leads action before first (.ok value) middle)
    (goes : Leads (f value) middle second result after) :
    Leads (action >>= f) before (first ++ second) result after :=
  Program.course_bind.mpr ⟨first, _, second, begun, goes, rfl⟩

theorem leads_map {action : ExceptT ε (StateT τ (Program I)) α} {f : α → β} {before after : τ}
    {history : List (Event I)} {result : Except ε β}
    (leads : Leads (f <$> action) before history result after) :
    ∃ value, Leads action before history value after ∧ result = f <$> value := by
  obtain ⟨first, ⟨value, middle⟩, second, one, two, rfl⟩ := Program.course_bind.mp leads
  cases value with
  | error error =>
    obtain ⟨rfl, same⟩ := two
    cases same
    exact ⟨.error error, by rwa [List.append_nil], rfl⟩
  | ok value =>
    obtain ⟨rfl, same⟩ := two
    cases same
    exact ⟨.ok value, by rwa [List.append_nil], rfl⟩

end Action

end Thermowire
