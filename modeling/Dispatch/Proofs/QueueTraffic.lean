import Mathlib.Logic.Function.Basic
import Mathlib.Logic.Relation
import Dispatch.Queue.Broker
import Dispatch.Queue.Wallet

/-!
# A queue in use by many

Any number of submissions and waits go through one queue at the same time. Each goes on by itself,
one question after the other, and between two of its steps anything else may happen: others go on,
new ones begin, time passes, and managers use the broker as they like. A wait for a message that
ends late has come to its deadline and found no message.
-/

set_option autoImplicit false

namespace Dispatch

namespace Queue

inductive Purpose where
  | submission (tx : Draft) (hints : Hints)
  | wait (id : String) (timeout : Duration)

abbrev Result := Except QueueFailure Handle

structure Caller where
  purpose : Purpose
  rest : Program Shared Result
  past : List (Program.Event Shared)
  since : Nat

def Caller.answered (x : Caller) (q : Question) (a : q.Answer) (rest : Program Shared Result)
    (time : Nat) : Caller :=
  ⟨x.purpose, rest, .asked x.since q a :: x.past, time⟩

structure Traffic where
  time : Nat
  broker : Broker
  tickets : State
  callers : Nat → Option Caller
  guests : List Nat
  published : List (String × String)

end Queue

namespace Program

variable {I J : Interface} {α β γ σ : Type}

theorem bind_assoc (p : Program I α) (f : α → Program I β) (g : β → Program I γ) :
    (p.bind f).bind g = p.bind fun a => (f a).bind g := by
  induction p with
  | done a => rfl
  | ask q next ih => simp only [bind, ih]
  | sleep d next ih => simp only [bind, ih]
  | clock next ih => simp only [bind, ih]

theorem interpret_bind (answer : (q : I.Question) → σ → Program J (I.Answer q × σ))
    (p : Program I α)
    (f : α → Program I β) (s : σ) :
    (p.bind f).interpret answer s = (p.interpret answer s).bind fun (a, s) =>
      (f a).interpret answer s := by
  induction p generalizing s with
  | done a => rfl
  | ask q next ih => simp only [bind, interpret, ih, bind_assoc]
  | sleep d next ih => simp only [bind, interpret, ih]
  | clock next ih => simp only [bind, interpret, ih]

end Program

namespace QueueWallet

open Queue

theorem share_bind {α β : Type} (p : Program Outside α) (f : α → Program Outside β) :
    share (p.bind f) = (share p).bind fun a => share (f a) := by
  induction p with
  | done a => rfl
  | ask q next ih => exact congrArg (Program.ask (I := Shared) (.outside q)) (funext ih)
  | sleep d next ih => exact congrArg (Program.sleep d) ih
  | clock next ih => exact congrArg Program.clock (funext ih)

theorem interpret_share {α : Type} (p : Program Outside α) (tickets : Queue.State) :
    (share p).interpret (J := Outside) Queue.State.answer tickets = p.bind fun a =>
      .done (a, tickets) := by
  induction p with
  | done a => rfl
  | ask q next ih => exact congrArg (Program.ask (I := Outside) q) (funext ih)
  | sleep d next ih => exact congrArg (Program.sleep d) ih
  | clock next ih => exact congrArg Program.clock (funext ih)

def program {σ : Type} (q : QueueWallet σ) : Purpose → Program Shared Result
  | .submission tx hints => (q.enqueue tx hints).run
  | .wait id timeout => (awaitCompletion id timeout).run.bind fun r => .done (r.map Handle.hash)

theorem wait_ticket {σ : Type} (q : QueueWallet σ) (id : String) (b : WaitBounds) (s : σ)
    (queue : Queue.State) :
    (q.wait (.ticket id) b).run.run (s, queue) =
      .clock fun started =>
        ((q.program (.wait id b.timeout)).interpret (J := Outside) Queue.State.answer queue).bind
          fun (r, queue) =>
            match r with
            | .error failure => .done (.error (.queue failure), s, queue)
            | .ok handle => .clock fun time =>
              ((q.base.wait handle (b.remainingAfter (.ofNanos (time - started)))).run.run s).bind
                fun (result, s) => .done (result, s, queue) := by
  apply congrArg Program.clock
  funext started
  rw [program, Program.interpret_bind]
  let awaited :=
    Program.interpret (J := Outside) Queue.State.answer (awaitCompletion id b.timeout).run queue
  apply Eq.trans (Program.bind_assoc awaited _ _)
  apply Eq.trans _ (Program.bind_assoc awaited _ _).symm
  apply congrArg awaited.bind
  funext r
  obtain ⟨r, queue⟩ := r
  cases r with
  | error failure => rfl
  | ok hash => rfl

end QueueWallet

namespace Queue

namespace Traffic

def start : Traffic := ⟨0, .empty, .start, fun _ => none, [], []⟩

def setCaller (w : Traffic) (i : Nat) (x : Caller) : Traffic :=
  { w with callers := Function.update w.callers i (some x) }

def publish (w : Traffic) (channel payload : String) : Traffic :=
  { w with
    broker := (w.broker.publish channel payload).2
    published := (channel, payload) :: w.published }

/-- A question that stands since a time may get this answer, which leads to the traffic `w'`. -/
def Answers (w : Traffic) (since : Nat) : (q : Question) → q.Answer → Traffic → Prop
  | .register r, a, w' => a = (w.tickets.reply r).1 ∧
      w' = { w with tickets := (w.tickets.reply r).2 }
  | .outside (.subscribe channel), a, w' =>
    a = .ok (w.broker.subscribe channel).1 ∧
      w' = { w with broker := (w.broker.subscribe channel).2 }
  | .outside (.publish channel payload), a, w' =>
    a = .ok (w.broker.publish channel payload).1 ∧ w' = w.publish channel payload
  | .outside (.unsubscribe channel), a, w' =>
    a = .ok () ∧ w' = { w with broker := w.broker.unsubscribe channel }
  | .outside (.drop n), _, w' => w' = { w with broker := w.broker.drop n }
  | .outside (.receive n _), .message text, w' =>
    ∃ b, w.broker.take n = some (text, b) ∧ w' = { w with broker := b }
  | .outside (.receive n timeout), .late, w' =>
    since + timeout.nanos ≤ w.time ∧ w.broker.take n = none ∧ w' = w
  | .outside (.receive n _), .closed, w' =>
    w.broker.take n = none ∧ (∀ channel, n ∉ w.broker.subscribers channel) ∧ w' = w
  | .outside _, _, w' => w' = w

/-- One step of a caller. -/
inductive Acts (i : Nat) (w : Traffic) : Traffic → Prop where
  | looks {x : Caller} {next : Nat → Program Shared Result} (here : w.callers i = some x)
      (stands : x.rest = .clock next) :
      Acts i w (w.setCaller i { x with rest := next w.time, since := w.time })
  | wakes {x : Caller} {d : Duration} {next : Program Shared Result} (here : w.callers i = some x)
      (stands : x.rest = .sleep d next) (slept : x.since + d.nanos ≤ w.time) :
      Acts i w (w.setCaller i { x with rest := next, since := w.time })
  | asks {x : Caller} {q : Question} {next : q.Answer → Program Shared Result} {a : q.Answer}
      {w' : Traffic}
      (here : w.callers i = some x) (stands : x.rest = .ask q next)
      (answered : w.Answers x.since q a w') :
      Acts i w (w'.setCaller i (x.answered q a (next a) w.time))

/-- What others than the queue may do with the broker. -/
inductive Visits (w : Traffic) : Traffic → Prop where
  | publishes (channel payload : String) : Visits w (w.publish channel payload)
  | subscribes (channel : String) :
      Visits w
        { w with
          broker := (w.broker.subscribe channel).2
          guests := (w.broker.subscribe channel).1 :: w.guests }
  | unsubscribes (channel : String) : Visits w { w with broker := w.broker.unsubscribe channel }
  | takes {n : Nat} {text : String} {b : Broker} (own : n ∈ w.guests)
      (taken : w.broker.take n = some (text, b)) :
      Visits w { w with broker := b }
  | drops {n : Nat} (own : n ∈ w.guests) : Visits w { w with broker := w.broker.drop n }

variable {σ : Type}

/-- One step of anything. -/
inductive Happens (q : QueueWallet σ) (w : Traffic) : Traffic → Prop where
  | passes (d : Nat) : Happens q w { w with time := w.time + d }
  | calls {i : Nat} (p : Purpose) (new : w.callers i = none) :
      Happens q w (w.setCaller i ⟨p, q.program p, [], w.time⟩)
  | acts {i : Nat} {w' : Traffic} (act : w.Acts i w') : Happens q w w'
  | visits {w' : Traffic} (visit : w.Visits w') : Happens q w w'

def Runs (q : QueueWallet σ) : Traffic → Traffic → Prop := Relation.ReflTransGen (Happens q)

end Traffic

end Queue

end Dispatch
