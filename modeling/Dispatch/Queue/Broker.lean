import Dispatch.Bytes

/-!
# Messages between wallets and managers

A broker keeps the subscribers of each channel in the order in which they came. A subscription that
was dropped stays listed until a message or a request to forget it comes across it.
-/

set_option autoImplicit false

namespace Dispatch

structure Broker where
  /-- Subscriptions by channel; each channel stands once. -/
  channels : List (String × List Nat)
  inboxes : List (Nat × List String)
  next : Nat

namespace Broker

def empty : Broker := ⟨[], [], 0⟩

def subscribers (b : Broker) (channel : String) : List Nat := (b.channels.lookup channel).getD []

def inbox? (b : Broker) (subscription : Nat) : Option (List String) := b.inboxes.lookup subscription

def isLive (b : Broker) (subscription : Nat) : Bool := (b.inbox? subscription).isSome

/-- Lists the subscribers of a channel; a channel without any is not kept. -/
def setSubscribers (b : Broker) (channel : String) (subscriptions : List Nat) : Broker :=
  let others := b.channels.filter fun entry => entry.1 != channel
  { b with channels := if subscriptions.isEmpty then others else (channel, subscriptions) ::
    others }

def subscribe (b : Broker) (channel : String) : Nat × Broker :=
  let listed := b.setSubscribers channel (b.subscribers channel ++ [b.next])
  (b.next, { listed with inboxes := (b.next, []) :: b.inboxes, next := b.next + 1 })

def live (b : Broker) (channel : String) : List Nat := (b.subscribers channel).filter b.isLive

def unsubscribe (b : Broker) (channel : String) : Broker :=
  b.setSubscribers channel (b.live channel)

def publish (b : Broker) (channel payload : String) : Nat × Broker :=
  let receivers := b.live channel
  let listed := b.setSubscribers channel receivers
  (receivers.length,
    { listed with
      inboxes := b.inboxes.map fun (subscription, waiting) =>
        (subscription, if receivers.contains subscription then waiting ++ [payload] else waiting) })

def drop (b : Broker) (subscription : Nat) : Broker :=
  { b with inboxes := b.inboxes.filter fun entry => entry.1 != subscription }

def take (b : Broker) (subscription : Nat) : Option (String × Broker) :=
  match b.inbox? subscription with
  | some (message :: waiting) =>
    some (message,
      { b with
        inboxes := b.inboxes.map fun entry =>
          if entry.1 = subscription then (subscription, waiting) else entry })
  | _ => none

/-- How many channels have subscribers listed. -/
def channelCount (b : Broker) : Nat := b.channels.length

end Broker

end Dispatch
