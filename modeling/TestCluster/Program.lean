/-!
# Programs — what a computation asks of the world outside it

    A computation that uses external tools, files or a server is a tree: it is done, or it
    asks a call and goes on from the answer. Nothing is said of what answers: a run hands the
    calls to a handler, which may be the real world, a table of prepared answers or any
    adversary. What was asked, in which order and with which answers, is the run's trace.
-/

namespace TestCluster

/-- The calls that a computation may ask, and what each is answered with. -/
structure Interface where
  Call : Type
  Answer : Call → Type

/-- A computation that asks calls of an interface. -/
inductive Program (I : Interface) (α : Type)
  | done (result : α)
  | ask (call : I.Call) (next : I.Answer call → Program I α)

/-- A call with its answer. -/
structure Event (I : Interface) where
  call : I.Call
  answer : I.Answer call

/-- What answers the calls of an interface, from a state that the calls may change. -/
abbrev Handler (I : Interface) (σ : Type) := (call : I.Call) → σ → I.Answer call × σ

namespace Program

variable {I J : Interface} {α β σ : Type}

/-- Goes on from the result of a computation. -/
def bind : Program I α → (α → Program I β) → Program I β
  | .done a, f => f a
  | .ask call next, f => .ask call fun answer => (next answer).bind f

instance : Monad (Program I) where
  pure := .done
  bind := bind

/-- The computation that asks a single call. -/
def call (c : I.Call) : Program I (I.Answer c) := .ask c .done

/-- Runs a computation against a handler. -/
def run (handle : Handler I σ) : Program I α → σ → α × σ
  | .done a, s => (a, s)
  | .ask call next, s =>
    let (answer, s) := handle call s
    (next answer).run handle s

/-- The calls that a computation asks of a handler, with their answers. -/
def trace (handle : Handler I σ) : Program I α → σ → List (Event I)
  | .done _, _ => []
  | .ask call next, s =>
    let (answer, s) := handle call s
    ⟨call, answer⟩ :: (next answer).trace handle s

/-- Replaces every call by a computation over another interface that answers it. -/
def expand (answer : (call : I.Call) → Program J (I.Answer call)) : Program I α → Program J α
  | .done a => .done a
  | .ask call next => (answer call).bind fun a => (next a).expand answer

/-! ## Running pieces one after another -/

@[simp] theorem run_done (handle : Handler I σ) (a : α) (s : σ) :
    (Program.done a).run handle s = (a, s) := rfl

@[simp] theorem trace_done (handle : Handler I σ) (a : α) (s : σ) :
    (Program.done a).trace handle s = [] := rfl

/-- A run of two computations in a row is a run of the one, and then of the other. -/
theorem run_bind (handle : Handler I σ) (p : Program I α) (f : α → Program I β) (s : σ) :
    (p.bind f).run handle s = (f (p.run handle s).1).run handle (p.run handle s).2 := by
  induction p generalizing s with
  | done a => rfl
  | ask call next ih => exact ih _ _

/-- The trace of two computations in a row is that of the one followed by that of the other. -/
theorem trace_bind (handle : Handler I σ) (p : Program I α) (f : α → Program I β) (s : σ) :
    (p.bind f).trace handle s =
      p.trace handle s ++ (f (p.run handle s).1).trace handle (p.run handle s).2 := by
  induction p generalizing s with
  | done a => rfl
  | ask call next ih => simp [bind, trace, run, ih]

end Program

end TestCluster
