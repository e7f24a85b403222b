import Dispatch.Proofs.Completions
import Dispatch.Proofs.Deadlines
import Dispatch.Proofs.QueueSessions

/-!
# No ticket and no channel is left over

Between the calls of a session the broker keeps one channel with one subscriber for each ticket, and
none for any other id. Each call says which tickets it takes away and leaves the mail of all others.
-/

set_option autoImplicit false

namespace Dispatch

namespace Queue

namespace Traffic

section
variable {σ : Type} {queue : QueueWallet σ} {pool id : String} {w w' : Traffic}

/-- The broker keeps the channels of the tickets and of no other ids, each with one subscriber, who
is there. -/
structure Agrees (pool : String) (w : Traffic) : Prop where
  channels : ∀ channel, (channel ∈ w.broker.channels.map Prod.fst ∧
    ∃ id, channel = completionChannel pool id) ↔
    ∃ id ticket, w.ticket? id = some ticket ∧ ticket.channel = channel
  named : ∀ id ticket, w.ticket? id = some ticket → ticket.channel = completionChannel pool id
  alone : ∀ id ticket, w.ticket? id = some ticket →
    w.broker.subscribers ticket.channel = [ticket.subscription] ∧
      w.broker.isLive ticket.subscription
  once : (w.broker.channels.map Prod.fst).Nodup ∧ (w.tickets.pending.map Prod.fst).Nodup

theorem Settled.agrees (h : Settled pool w) : Agrees pool w where
  channels channel := by
    constructor
    · rintro ⟨listed, id, rfl⟩
      obtain ⟨ticket, there⟩ := h.mem_channels.mp listed
      exact ⟨id, ticket, there, h.serves.named id ticket there⟩
    · rintro ⟨id, ticket, there, rfl⟩
      rw [h.serves.named id ticket there]
      exact ⟨h.mem_channels.mpr ⟨ticket, there⟩, id, rfl⟩
  named := h.serves.named
  alone id ticket there := by
    obtain ⟨_, carries, -⟩ := h.serves.delivers id ticket there
    constructor
    · rw [h.serves.named id ticket there, h.subscribers id, there]
      rfl
    · rw [Broker.isLive, carries.inbox]
      rfl
  once := ⟨h.serves.tidy.once, h.keyed⟩

structure Concluded (pool id : String) (w : Traffic) (r : Result) (w' : Traffic) : Prop where
  late : ∀ id' d, r = .error (.timeout id' d) → (∃ ticket, w.ticket? id = some ticket) ∧
    w'.ticket? = w.ticket?
  done : (∀ id' d, r ≠ .error (.timeout id' d)) →
    w'.ticket? = Function.update w.ticket? id none ∧
      completionChannel pool id ∉ w'.broker.channels.map Prod.fst
  spared : ∀ id' ticket, w.ticket? id' = some ticket → w'.ticket? id' = some ticket →
    Spares ticket w w'

theorem Settled.concludes {r : Result} (h : Settled pool w') (waited : Waited pool id w r w')
    (left : Leaves pool w.ticket? w'.ticket? w w') : Concluded pool id w r w' := by
  refine ⟨fun id' d late => waited.of_timeout late, ?_, left.spares⟩
  intro inTime
  have gone := waited.of_not_timeout inTime
  refine ⟨gone, ?_⟩
  rw [h.mem_channels, gone, Function.update_self]
  rintro ⟨_, ⟨⟩⟩

/-- Tickets and channels between two calls, and what the next call does to them. -/
structure Accounted (queue : QueueWallet σ) (w : Traffic) : Prop where
  agrees : Agrees queue.pool w
  submission : ∀ tx hints r w',
    Goes queue.pool (fun id => w.ticket? id = none) (queue.program (.submission tx hints)) w r w' →
      Agrees queue.pool w' ∧ (∃ time, Submitted queue time w r w') ∧
        ∀ e, r = .error e →
          ∀ id, completionChannel queue.pool id ∈ w'.broker.channels.map Prod.fst →
          completionChannel queue.pool id ∈ w.broker.channels.map Prod.fst
  wait : ∀ id timeout r w',
    Goes queue.pool (fun id => w.ticket? id = none) (queue.program (.wait id timeout)) w r w' →
      Agrees queue.pool w' ∧ Concluded queue.pool id w r w'
  send : ∀ tx hints (s : σ) tickets, (queue.backend.send tx hints).run.run (s, tickets) =
    ((queue.program (.submission tx hints)).interpret (J := Outside) State.answer tickets).bind
      fun (r, tickets) => .done (r.mapError Failure.queue, s, tickets)
  base : ∀ id (b : WaitBounds) (s : σ) tickets, (queue.wait (.ticket id) b).run.run (s, tickets) =
    .clock fun started =>
      ((queue.program (.wait id b.timeout)).interpret (J := Outside) State.answer tickets).bind
        fun (r, tickets) =>
          match r with
          | .error failure => .done (.error (.queue failure), s, tickets)
          | .ok handle => .clock fun time =>
            ((queue.base.wait handle (b.remainingAfter (.ofNanos (time - started)))).run.run s).bind
              fun (result, s) => .done (result, s, tickets)
  hash : ∀ h (b : WaitBounds) (s : σ) tickets, (queue.wait (.hash h) b).run.run (s, tickets) =
    ((queue.base.wait (.hash h) b).run.run s).bind fun (result, s) => .done (result, s, tickets)

theorem tickets_match_channels (session : Session queue start w) : Accounted queue w := by
  have settled := settled_start.session session
  refine ⟨settled.agrees, ?submission, ?wait, ?send, ?base, fun _ _ _ _ => rfl⟩
  case submission =>
    intro tx hints r w' call
    obtain ⟨after, time, submitted⟩ := settled.submits call
    refine ⟨after.agrees, ⟨time, submitted⟩, ?_⟩
    intro e failed id listed
    obtain ⟨ticket, there⟩ := after.mem_channels.mp listed
    rw [submitted.failed e failed] at there
    exact settled.mem_channels.mpr ⟨ticket, (surviving_eq_some.mp there).1⟩
  case wait =>
    intro id timeout r w' call
    obtain ⟨after, waited, left⟩ := settled.waits call
    exact ⟨after.agrees, after.concludes waited left⟩
  case send =>
    intro tx hints s tickets
    let sent := Program.interpret (J := Outside) State.answer
      (queue.program (.submission tx hints)) tickets
    apply congrArg sent.bind
    funext r
    obtain ⟨r, tickets⟩ := r
    cases r <;> rfl
  case base => exact fun id b s tickets => queue.wait_ticket id b s tickets

end

/-! ## A first ticket -/

def nodeQueue : QueueWallet Unit := ⟨accepting, "pool", QueueWallet.standardLifetime⟩

def queued : Traffic :=
  { recorded with tickets := (recorded.tickets.reply (.insert firstId firstTicket)).2 }

theorem session_queued : Session nodeQueue start queued := by
  have nobody : ∀ id, ∀ n ∈ listened.broker.subscribers (completionChannel "pool" id),
      n ∈ start.broker.subscribers (completionChannel "pool" id) := by
    intro id n listed
    rw [show listened.broker.subscribers (completionChannel "pool" id) =
      _ from Broker.subscribers_subscribe _ _ _,
      if_neg (completionChannel_ne "pool" id)] at listed
    exact listed
  have listens : Proceeds nodeQueue start listened := .beside (.visits (.subscribes "pool") nobody)
  have receivers : (.ok 1 : Except QueueFailure Nat) = .ok _ :=
    congrArg Except.ok receivers_recorded.symm
  have submits :
    Goes "pool" (fun id => listened.ticket? id = none)
    (nodeQueue.program (.submission emptyDraft noHints))
      listened (.ok (.ticket firstId)) queued := by
    refine .looks .refl (.asks .refl (a := ([] : List String)) ⟨rfl, rfl⟩ nofun ?_)
    refine .asks .refl (a := (0 : Nat)) rfl nofun (.asks .refl (a := (0 : Nat)) ⟨rfl, rfl⟩ nofun ?_)
    refine .asks .refl (a := (0 : Nat)) rfl nofun ?_
    refine .asks .refl (a := (.ok 1 : Except QueueFailure Nat)) ⟨rfl, rfl⟩ (fun _ _ => rfl)
      (.looks .refl ?_)
    refine .asks .refl (a := (.ok 1 : Except QueueFailure Nat)) ⟨receivers, rfl⟩ nofun ?_
    exact .asks .refl (a := ()) ⟨rfl, rfl⟩ nofun .done
  exact (Relation.ReflTransGen.single listens).tail
    (.calls (.submission emptyDraft noHints) submits)

theorem queued_ticket : queued.ticket? firstId = some firstTicket := by
  apply Eq.trans State.lookup_insert
  exact if_pos rfl

theorem queued_matches_channel :
    Session nodeQueue start queued ∧ queued.broker.subscribers firstChannel = [1] := by
  have accounted : Accounted nodeQueue queued := tickets_match_channels session_queued
  exact ⟨session_queued, (accounted.agrees.alone firstId firstTicket queued_ticket).1⟩

end Traffic

end Queue

end Dispatch
