import Dispatch.Backend
import Dispatch.Queue.Completion
import Dispatch.Queue.Score

/-!
# A wallet that queues transactions

A draft is published as a record on the channel of a pool, and a ticket handed out for it. A manager
sends the transaction and publishes its completion on a channel of the ticket, to which the wallet
has been subscribed since before the record went out. Tickets that nobody waits for are dropped
after some time.
-/

set_option autoImplicit false

namespace Dispatch

namespace Queue

/-- A submission whose completion has not been taken. -/
structure Ticket where
  channel : String
  subscription : Nat
  queuedAt : Nat

structure State where
  counter : Nat
  pending : List (String × Ticket)

def State.start : State := ⟨0, []⟩

namespace State

def remove (s : State) (id : String) : State :=
  { s with pending := s.pending.filter fun entry => entry.1 != id }

def insert (s : State) (id : String) (ticket : Ticket) : State :=
  { s with pending := (id, ticket) :: (s.remove id).pending }

def expired (s : State) (lifetime : Duration) (time : Nat) : List String :=
  (s.pending.filter fun (_, ticket) =>
    decide (lifetime ≤ Duration.ofNanos (time - ticket.queuedAt))).map Prod.fst

end State

/-! ## What is shared -/

/-- What is done to the state of a queue in one go, whoever else uses it. -/
inductive Register where
  | count
  | expired (lifetime : Duration) (time : Nat)
  | remove (id : String)
  | insert (id : String) (ticket : Ticket)

abbrev Register.Answer : Register → Type
  | .count => Nat
  | .expired _ _ => List String
  | .remove _ => Option Ticket
  | .insert _ _ => Unit

def State.reply (s : State) : (r : Register) → r.Answer × State
  | .count => (s.counter, { s with counter := s.counter + 1 })
  | .expired lifetime time => (s.expired lifetime time, s)
  | .remove id => (s.pending.lookup id, s.remove id)
  | .insert id ticket => ((), s.insert id ticket)

/-- A queue asks the outside, and its own state, which others of its actions change in between. -/
inductive Question where
  | outside (q : OutsideQuestion)
  | register (r : Register)

abbrev Question.Answer : Question → Type
  | .outside q => q.Answer
  | .register r => r.Answer

abbrev Shared : Interface := ⟨Question, Question.Answer⟩

def State.answer : (q : Question) → State → Program Outside (q.Answer × State)
  | .outside q, s => (Program.request (I := Outside) q).bind fun a => .done (a, s)
  | .register r, s => .done (s.reply r)

/-! ## Records -/

def idOf (account : Address) (nanos counter : Nat) : String :=
  let seed := account.checksummed ++ ":" ++ toString nanos ++ ":" ++ toString counter
  "tx-" ++ Hex.bare ((Keccak.hash (Bytes.ofText seed)).toList.take 8)

def completionChannel (pool id : String) : String := pool ++ ":done:" ++ id

def optionJson {α : Type} (f : α → Json) : Option α → Json
  | some a => f a
  | none => .null

/-- What is published for a draft: its fields without the gas, which the manager estimates anew, and
what the manager orders and prices it by. -/
def recordMembers (id : String) (seconds : UInt64) (tx : Draft) (hints : Hints) :
    List (String × Json) :=
  [("gas", .null), ("id", .string id), ("status", .string "PROPOSED"),
    ("score", .integer (score (hints.priority.getD standardPriority) seconds).toNat),
    ("multiplier", optionJson Json.float hints.multiplier),
    ("method", optionJson Json.string hints.operation),
    ("meta", hints.metadata.getD .null)].foldl
      (fun ms (name, v) => Json.insert name v ms) (Json.ordered tx.members)

def record (id : String) (seconds : UInt64) (tx : Draft) (hints : Hints) :
    Except QueueFailure Json :=
  if tx.FitsValue then .ok (.object (recordMembers id seconds tx hints))
  else .error (.broker (.unserializable "number out of range"))

end Queue

structure QueueWallet (σ : Type) where
  base : Backend σ
  pool : String
  lifetime : Duration

namespace QueueWallet

variable {σ α : Type}

open Queue

def standardLifetime : Duration := .ofSeconds 3600

abbrev Step (α : Type) := ExceptT QueueFailure (Program Shared) α

def share (p : Program Outside α) : Program Shared α :=
  p.rephrase (J := Shared) Question.outside fun _ a => a

def ask (p : Program Outside α) : Step α := ExceptT.lift (share p)

def attempt (p : Program Outside (Except QueueFailure α)) : Step α := ExceptT.mk (share p)

def count : Step Nat := ExceptT.lift (.ask (.register .count) .done)

def expired (lifetime : Duration) (time : Nat) : Step (List String) :=
  ExceptT.lift (.ask (.register (.expired lifetime time)) .done)

def remove (id : String) : Step (Option Ticket) :=
  ExceptT.lift (.ask (.register (.remove id)) .done)

def insert (id : String) (ticket : Ticket) : Step Unit :=
  ExceptT.lift (.ask (.register (.insert id ticket)) .done)

def release (ticket : Ticket) : Step Unit := do
  ask (Outside.drop ticket.subscription)
  let _ ← ask (Outside.unsubscribe ticket.channel)

def evict : List String → Step Unit
  | [] => return ()
  | id :: rest => do
    if let some ticket ← remove id then release ticket
    evict rest

def evictExpired (q : QueueWallet σ) : Step Unit := do
  let time ← ask Program.now
  evict (← expired q.lifetime time)

def freshId (q : QueueWallet σ) : Step String := do
  let nanos ← ask Outside.date
  return idOf q.base.address nanos (← count)

def publish (q : QueueWallet σ) (id payload : String) (ticket : Ticket) : Step Unit := do
  match ← ask (Outside.publish q.pool payload) with
  | .error failure =>
    release ticket
    throw failure
  | .ok receivers =>
    if receivers = 0 then
      release ticket
      throw (.notSent id ("no transaction manager listening on " ++ q.pool))

/-- Queues a draft and hands out its ticket. The subscription comes before the record, so that no
completion can be missed. -/
def enqueue (q : QueueWallet σ) (tx : Draft) (hints : Hints) : Step Handle := do
  q.evictExpired
  let id ← q.freshId
  let nanos ← ask Outside.date
  let record ← ExceptT.mk (pure (record id (.ofNat (nanos / 1000000000)) tx hints))
  let channel := completionChannel q.pool id
  let subscription ← attempt (Outside.subscribe channel)
  let queuedAt ← ask Program.now
  let ticket : Ticket := ⟨channel, subscription, queuedAt⟩
  q.publish id record.render ticket
  insert id ticket
  return .ticket id

def readCompletion (id payload : String) : Except QueueFailure Hash :=
  match Completion.read? payload.toList with
  | some completion => completion.result
  | none => .error (.broker (.completion id "not a completion"))

/-- Waits for the completion of a ticket. If it does not come in time, the ticket is kept. -/
def awaitCompletion (id : String) (timeout : Duration) : Step Hash := do
  match ← remove id with
  | none => throw (.notFound id "no pending submission with this id")
  | some ticket =>
    let started ← ask Program.now
    match ← ask (Outside.receive ticket.subscription timeout) with
    | .late =>
      insert id ticket
      throw (.timeout id (← ask (Program.since started)))
    | .closed =>
      release ticket
      throw (.broker (.channelClosed id))
    | .message payload =>
      release ticket
      ExceptT.mk (pure (readCompletion id payload))

abbrev State (σ : Type) := σ × Queue.State

def ofStep (step : Step α) : Action (State σ) α :=
  ExceptT.mk fun (s, queue) =>
    (Program.interpret (J := Outside) Queue.State.answer step.run queue).bind fun (result, queue) =>
    .done (match result with
      | .ok a => .ok a
      | .error failure => .error (.queue failure), s, queue)

def wait (q : QueueWallet σ) (handle : Handle) (b : WaitBounds) : Action (State σ) Receipt :=
  match handle with
  | .hash _ => (q.base.wait handle b).onFirst
  | .ticket id => do
    let started ← Action.ofProgram Program.now
    let hash ← ofStep (awaitCompletion id b.timeout)
    let elapsed ← Action.ofProgram (Program.since started)
    (q.base.wait (.hash hash) (b.remainingAfter elapsed)).onFirst

def backend (q : QueueWallet σ) : Backend (State σ) where
  address := q.base.address
  publicKey := q.base.publicKey
  sign tx := (q.base.sign tx).onFirst
  signHash h := (q.base.signHash h).onFirst
  send tx hints := ofStep (q.enqueue tx hints)
  wait := q.wait

end QueueWallet

end Dispatch
