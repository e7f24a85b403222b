import Dispatch.Outside
import Dispatch.Queue.Broker

/-!
# A broker on a clock

Others publish at times of their own. What they will publish stands in an agenda, and is delivered
when the clock comes to it. Waiting for a message ends with the first one that comes before the
deadline.
-/

set_option autoImplicit false

namespace Dispatch

structure Publication where
  time : Nat
  channel : String
  payload : String

structure Exchange where
  broker : Broker
  /-- In the order in which it will be published. -/
  agenda : List Publication

namespace Exchange

def plan (p : Publication) : List Publication → List Publication
  | [] => [p]
  | q :: rest => if q.time ≤ p.time then q :: plan p rest else p :: q :: rest

def schedule (x : Exchange) (p : Publication) : Exchange := { x with agenda := plan p x.agenda }

def deliver (time : Nat) : List Publication → Broker → Exchange
  | [], b => ⟨b, []⟩
  | p :: rest, b =>
    if p.time ≤ time then deliver time rest (b.publish p.channel p.payload).2 else ⟨b, p :: rest⟩

def advance (x : Exchange) (time : Nat) : Exchange := deliver time x.agenda x.broker

def await (subscription deadline time : Nat) : List Publication → Broker → Delivery × Nat × Exchange
  | agenda, b =>
    match b.take subscription with
    | some (message, b) => (.message message, time, ⟨b, agenda⟩)
    | none =>
      match agenda with
      | [] => (.late, max time deadline, ⟨b, []⟩)
      | p :: rest =>
        if p.time < deadline then
          await subscription deadline (max time p.time) rest (b.publish p.channel p.payload).2
        else (.late, max time deadline, ⟨b, p :: rest⟩)

def receive (x : Exchange) (subscription : Nat) (timeout : Duration) (time : Nat) :
    Delivery × Nat × Exchange :=
  let x := x.advance time
  await subscription (time + timeout.nanos) time x.agenda x.broker

end Exchange

end Dispatch
