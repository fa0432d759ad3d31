/-!
Programs of calls. An interface lists calls and the type of each answer; a program is a tree of
calls whose continuations take the answers; a world answers calls from a state of its own.
-/
namespace Thermowire

structure Interface where
  Call : Type
  Answer : Call → Type

inductive Program (I : Interface) (α : Type) where
  | done (value : α)
  | call (request : I.Call) (next : I.Answer request → Program I α)

structure Event (I : Interface) where
  request : I.Call
  answer : I.Answer request

/-- Answers each call from a state. -/
abbrev World (I : Interface) (σ : Type) := (request : I.Call) → σ → I.Answer request × σ

/-- What a program did in a world: its value, the state it left, and its calls in order. -/
structure Run (I : Interface) (σ α : Type) where
  value : α
  state : σ
  history : List (Event I)

namespace Program
variable {I J : Interface} {α β γ σ : Type}

def bind : Program I α → (α → Program I β) → Program I β
  | done value, f => f value
  | call request next, f => call request fun answer => (next answer).bind f

instance : Monad (Program I) where
  pure := done
  bind := bind

@[simp] theorem pure_eq_done (value : α) : (pure value : Program I α) = done value := rfl

@[simp] theorem done_bind (value : α) (f : α → Program I β) : done value >>= f = f value := rfl

@[simp] theorem call_bind (request : I.Call) (next : I.Answer request → Program I α)
    (f : α → Program I β) :
    call request next >>= f = call request fun answer => next answer >>= f := rfl

theorem bind_done (program : Program I α) : program >>= done = program := by
  induction program with
  | done value => rfl
  | call request next ih => simp only [call_bind, ih]

theorem bind_assoc (program : Program I α) (f : α → Program I β) (g : β → Program I γ) :
    program >>= f >>= g = program >>= fun value => f value >>= g := by
  induction program with
  | done value => rfl
  | call request next ih => simp only [call_bind, ih]

instance : LawfulMonad (Program I) :=
  LawfulMonad.mk' _ bind_done (fun _ _ => rfl) bind_assoc

def ask (request : I.Call) : Program I (I.Answer request) := call request done

def interpret {m : Type → Type} [Monad m] (answer : (request : I.Call) → m (I.Answer request)) :
    Program I α → m α
  | done value => pure value
  | call request next => answer request >>= fun reply => interpret answer (next reply)

@[simp] theorem interpret_ask {m : Type → Type} [Monad m] [LawfulMonad m]
    (answer : (request : I.Call) → m (I.Answer request)) (request : I.Call) :
    interpret answer (ask request) = answer request := by
  simp [ask, interpret]

theorem interpret_bind {m : Type → Type} [Monad m] [LawfulMonad m]
    (answer : (request : I.Call) → m (I.Answer request))
    (program : Program I α) (f : α → Program I β) :
    interpret answer (program >>= f) =
      interpret answer program >>= fun value => interpret answer (f value) := by
  induction program with
  | done value => simp [interpret]
  | call request next ih => simp only [call_bind, interpret, LawfulMonad.bind_assoc, ih]

def run (world : World I σ) : Program I α → σ → Run I σ α
  | done value, state => ⟨value, state, []⟩
  | call request next, state =>
    let (answer, state) := world request state
    let rest := run world (next answer) state
    { rest with history := ⟨request, answer⟩ :: rest.history }

@[simp] theorem run_done (world : World I σ) (value : α) (state : σ) :
    (done value).run world state = ⟨value, state, []⟩ := rfl

theorem run_bind (world : World I σ) (program : Program I α) (f : α → Program I β) (state : σ) :
    (program >>= f).run world state =
      let first := program.run world state
      let second := (f first.value).run world first.state
      ⟨second.value, second.state, first.history ++ second.history⟩ := by
  induction program generalizing state with
  | done value => rfl
  | call request next ih => simp only [call_bind, run, ih, List.cons_append]

end Program

end Thermowire
