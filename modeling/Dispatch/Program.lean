import Dispatch.Duration

/-!
# Programs that ask

A program is a tree: it has finished, or it asks something of the outside and goes on with the
answer, or it sleeps, or it reads the clock. What it asks is a parameter, so one program can be run
against any environment, and a program over one kind of questions becomes one over another by
saying how each question is answered.
-/

set_option autoImplicit false

namespace Dispatch

/-- Kinds of questions with the type of the answer to each. -/
structure Interface where
  Question : Type
  Answer : Question → Type

inductive Program (I : Interface) (α : Type) where
  | done (a : α)
  | ask (q : I.Question) (next : I.Answer q → Program I α)
  | sleep (d : Duration) (next : Program I α)
  | clock (next : Nat → Program I α)

namespace Program

variable {I J : Interface} {α β : Type}

def bind : Program I α → (α → Program I β) → Program I β
  | .done a, f => f a
  | .ask q next, f => .ask q fun a => bind (next a) f
  | .sleep d next, f => .sleep d (bind next f)
  | .clock next, f => .clock fun t => bind (next t) f

instance : Monad (Program I) where
  pure := .done
  bind := bind

def request (q : I.Question) : Program I (I.Answer q) := .ask q .done

def pause (d : Duration) : Program I Unit := .sleep d (.done ())

def now : Program I Nat := .clock .done

def since (start : Nat) : Program I Duration := do return .ofNanos ((← now) - start)

/-- The same program with each question put in other words that have the same answers. -/
def rephrase (put : I.Question → J.Question) (back : (q : I.Question) → J.Answer (put q) →
    I.Answer q) :
    Program I α → Program J α
  | .done a => .done a
  | .ask q next => .ask (put q) fun a => rephrase put back (next (back q a))
  | .sleep d next => .sleep d (rephrase put back next)
  | .clock next => .clock fun t => rephrase put back (next t)

/-- Answers each question by a program over other questions, with a state carried along. -/
def interpret {σ : Type} (answer : (q : I.Question) → σ → Program J (I.Answer q × σ)) :
    Program I α → σ → Program J (α × σ)
  | .done a, s => .done (a, s)
  | .ask q next, s => (answer q s).bind fun (a, s) => interpret answer (next a) s
  | .sleep d next, s => .sleep d (interpret answer next s)
  | .clock next, s => .clock fun t => interpret answer (next t) s

/-! ## Running -/

structure Reply (I : Interface) (σ : Type) (q : I.Question) where
  answer : I.Answer q
  state : σ
  time : Nat

abbrev Environment (I : Interface) (σ : Type) := (q : I.Question) → Nat → σ → Reply I σ q

/-- What happened in a run: a question with its answer, or a sleep, and when it began. -/
inductive Event (I : Interface) where
  | asked (time : Nat) (q : I.Question) (answer : I.Answer q)
  | slept (time : Nat) (d : Duration)

@[ext]
structure Run (I : Interface) (σ α : Type) where
  result : α
  events : List (Event I)
  time : Nat
  state : σ

/-- Runs a program from a time and a state of its environment. -/
def run {σ : Type} (env : Environment I σ) : Program I α → Nat → σ → Run I σ α
  | .done a, t, s => ⟨a, [], t, s⟩
  | .ask q next, t, s =>
    let reply := env q t s
    let rest := run env (next reply.answer) reply.time reply.state
    { rest with events := .asked t q reply.answer :: rest.events }
  | .sleep d next, t, s =>
    let rest := run env next (t + d.nanos) s
    { rest with events := .slept t d :: rest.events }
  | .clock next, t, s => run env (next t) t s

end Program

end Dispatch
