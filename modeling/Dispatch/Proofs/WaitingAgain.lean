import Dispatch.Proofs.ChannelAccounts

/-!
# Waiting again

A wait that ends late while it waits for the completion leaves the ticket for the next one, which
stays until it is evicted or a wait takes its completion. A wait that took the completion has used
the ticket up, also when time runs out at the base.
-/

set_option autoImplicit false

namespace Dispatch

open Queue

namespace QueueWallet

/-- The wait on a ticket, with the one at the base, over the questions of a queue. -/
def waiting {σ : Type} (q : QueueWallet σ) (id : String) (b : WaitBounds) (s : σ) :
    Program Shared (Except Failure Receipt × σ) :=
  .clock fun started =>
    (q.program (.wait id b.timeout)).bind fun r =>
      match r with
      | .error failure => .done (.error (.queue failure), s)
      | .ok handle => .clock fun time =>
        share ((q.base.wait handle (b.remainingAfter (.ofNanos (time - started)))).run.run s)

theorem run_wait {σ : Type} (q : QueueWallet σ) (id : String) (b : WaitBounds) (s : σ)
    (tickets : Queue.State) :
    (q.wait (.ticket id) b).run.run (s, tickets) =
      ((q.waiting id b s).interpret (J := Outside) Queue.State.answer tickets).bind
        fun (r, tickets) => .done (r.1, r.2, tickets) := by
  rw [wait_ticket, waiting]
  apply congrArg Program.clock
  funext started
  dsimp only
  rw [Program.interpret_bind, Program.bind_assoc]
  let awaited :=
    Program.interpret (J := Outside) Queue.State.answer (q.program (.wait id b.timeout)) tickets
  apply congrArg awaited.bind
  funext r
  obtain ⟨r, tickets⟩ := r
  cases r with
  | error failure => rfl
  | ok handle =>
    apply congrArg Program.clock
    funext time
    dsimp only
    rw [interpret_share, Program.bind_assoc]
    rfl

end QueueWallet

namespace Queue

namespace Traffic

section
variable {σ : Type} {queue : QueueWallet σ} {pool id : String} {new : String → Prop}
  {w w' w₁ w₂ : Traffic} {ticket : Ticket}

/-! ## Before the ticket is used up -/

def Evicts (queue : QueueWallet σ) (ticket : Ticket) (w w' : Traffic) : Prop :=
  ∃ tx hints r time,
    Goes queue.pool (fun id => w.ticket? id = none) (queue.program (.submission tx hints)) w r w' ∧
      w.time ≤ time ∧ time ≤ w'.time ∧ queue.lifetime ≤ .ofNanos (time - ticket.queuedAt)

def Claims (queue : QueueWallet σ) (id : String) (w w' : Traffic) : Prop :=
  ∃ timeout text,
    Goes queue.pool (fun id => w.ticket? id = none) (queue.program (.wait id timeout)) w
      (completed id text) w' ∧
      (completionChannel queue.pool id, text) ∈ w'.published

/-- A step of this kind happens in a session. -/
def Within (queue : QueueWallet σ) (step : Traffic → Traffic → Prop) (w w' : Traffic) : Prop :=
  ∃ u v, Session queue w u ∧ step u v ∧ Session queue v w'

theorem Within.tail {step : Traffic → Traffic → Prop} (h : Within queue step w w₁)
    (more : Proceeds queue w₁ w') :
    Within queue step w w' := by
  obtain ⟨u, v, before, here, after⟩ := h
  exact ⟨u, v, before, here, after.tail more⟩

theorem Settled.keeps (h : Settled queue.pool w) (there : w.ticket? id = some ticket)
    (step : Proceeds queue w w') :
    w'.ticket? id = some ticket ∧ Spares ticket w w' ∨
      Evicts queue ticket w w' ∨ Claims queue id w w' := by
  cases step with
  | beside stirs =>
    left
    rw [ticket?_congr stirs.tickets]
    exact ⟨there, stirs.spares h.serves there⟩
  | calls p call =>
    cases p with
    | submission tx hints =>
      obtain ⟨-, time, submitted⟩ := h.submits call
      by_cases old : queue.lifetime ≤ .ofNanos (time - ticket.queuedAt)
      · obtain ⟨after, before⟩ := submitted.looked
        exact .inr (.inl ⟨tx, hints, _, time, call, after, before, old⟩)
      · have survives := surviving_eq_some.mpr ⟨there, Nat.lt_of_not_le old⟩
        exact .inl ⟨submitted.keeps survives, submitted.spared id ticket survives⟩
    | wait id' timeout =>
      obtain ⟨-, waited, left⟩ := h.waits call
      have stays : w'.ticket? id = w.ticket? id → w'.ticket? id = some ticket ∧
        Spares ticket w w' := by
        intro same
        have kept := same.trans there
        exact ⟨kept, left.spares id ticket there kept⟩
      by_cases other : id = id'
      · obtain rfl := other
        cases waited with
        | missing absent kept => exact .inl (stays (congrFun kept id))
        | late _ kept => exact .inl (stays (congrFun kept id))
        | taken _ published gone => exact .inr (.inr ⟨timeout, _, call, published⟩)
      · exact .inl (stays (waited.others other))

theorem Settled.stays (h : Settled queue.pool w) (there : w.ticket? id = some ticket)
    (session : Session queue w w') :
    w'.ticket? id = some ticket ∧ Spares ticket w w' ∨
      Within queue (Evicts queue ticket) w w' ∨ Within queue (Claims queue id) w w' := by
  induction session with
  | refl => exact .inl ⟨there, .refl ticket w⟩
  | @tail u v before step ih =>
    rcases ih with ⟨here, spared⟩ | evicted | claimed
    · rcases (h.session before).keeps here step with ⟨kept, spared'⟩ | evicts | claims
      · exact .inl ⟨kept, spared.trans spared'⟩
      · exact .inr (.inl ⟨u, v, before, evicts, .refl⟩)
      · exact .inr (.inr ⟨u, v, before, claims, .refl⟩)
    · exact .inr (.inl (evicted.tail step))
    · exact .inr (.inr (claimed.tail step))

/-! ## At the base -/

theorem Goes.node {α : Type} {p : Program Node α} {a : α}
    (g : Goes pool new (QueueWallet.share p.toOutside) w a w') :
    Drifts pool w w' := by
  induction p generalizing w with
  | done b =>
    obtain ⟨-, rfl⟩ := goes_done.mp g
    exact .refl
  | ask q next ih =>
    cases g with
    | asks drift answered named rest =>
      obtain rfl := answered
      exact drift.trans (ih _ rest)
  | sleep d next ih =>
    cases g with
    | sleeps drift slept rest => exact drift.trans (ih rest)
  | clock next ih =>
    cases g with
    | looks drift rest => exact drift.trans (ih _ rest)

theorem Goes.atNode {wallet : String} {handle : Handle} {b : WaitBounds} {s : σ}
    {a : Except Failure Receipt × σ}
    (g : Goes pool new (QueueWallet.share ((Backend.waitAtNode wallet handle b).run.run s)) w a
      w') : Drifts pool w w' := by
  unfold Backend.waitAtNode at g
  cases found : handle.hash? with
  | none =>
    rw [found] at g
    obtain ⟨-, rfl⟩ := goes_done.mp g
    exact .refl
  | some h =>
    rw [found] at g
    let asked := Program.toOutside (waitForReceipt h b).run
    have split := QueueWallet.share_bind asked fun r => .done (r, s)
    obtain ⟨r, w₁, first, last⟩ := goes_bind.mp (split ▸ g)
    obtain ⟨-, rfl⟩ := goes_done.mp last
    exact first.node

theorem Goes.waiting {wallet : String} {b : WaitBounds} {s s' : σ} {r : Except Failure Receipt}
    (g : Goes pool new (queue.waiting id b s) w (r, s') w')
    (waits : queue.base.wait = Backend.waitAtNode wallet) :
    ∃ u r₀ w₁, Drifts pool w u ∧ Goes pool new (queue.program (.wait id b.timeout)) u r₀ w₁ ∧
      Drifts pool w₁ w' ∧
      ((∃ e, r₀ = .error e ∧ r = .error (.queue e)) ∨ ∃ handle, r₀ = .ok handle) := by
  cases g with
  | @looks _ _ u _ _ drift rest =>
    obtain ⟨r₀, w₁, awaited, rest⟩ := goes_bind.mp rest
    cases r₀ with
    | error e =>
      obtain ⟨same, rfl⟩ := goes_done.mp rest
      exact ⟨u, _, _, drift, awaited, .refl, .inl ⟨e, rfl, (Prod.mk.inj same).1⟩⟩
    | ok handle =>
      cases rest with
      | looks drift' rest =>
        rw [waits] at rest
        exact ⟨u, _, _, drift, awaited, drift'.trans rest.atNode, .inr ⟨handle, rfl⟩⟩

theorem Settled.drifts (h : Settled pool w) (drift : Drifts pool w w') : Settled pool w' := by
  induction drift with
  | refl => exact h
  | tail _ stirs ih => exact ih.stirs stirs

theorem Settled.used {wallet : String} {b : WaitBounds} {s s' : σ} {h : Handle} {d : Duration}
    (settled : Settled pool w)
    (g : Goes pool new (queue.waiting id b s) w (.error (.transactionTimeout h d), s') w')
    (waits : queue.base.wait = Backend.waitAtNode wallet) : Settled pool w' ∧
      w'.ticket? id = none := by
  obtain ⟨u, r, v, drift, awaited, drift', ⟨_, -, impossible⟩ | ⟨handle, rfl⟩⟩ := g.waiting waits
  · cases impossible
  obtain ⟨after, waited, -⟩ := (settled.drifts drift).waits awaited
  refine ⟨after.drifts drift', ?_⟩
  rw [ticket?_congr drift'.tickets, waited.of_not_timeout nofun, Function.update_self]

/-- How long a ticket can be waited for. -/
structure Waitable (queue : QueueWallet σ) (id : String) (w : Traffic) : Prop where
  /-- When time ran out for the completion, the ticket stays, with its age and mail, until it is
  evicted or its completion is taken; a wait in between ends late again, or takes a message. -/
  late : ∀ timeout id' d w₁,
    Goes queue.pool (fun id => w.ticket? id = none) (queue.program (.wait id timeout)) w
      (.error (.timeout id' d)) w₁ →
      ∃ ticket, w.ticket? id = some ticket ∧ w₁.ticket? id = some ticket ∧
        ∀ w₂, Session queue w₁ w₂ →
        (w₂.ticket? id = some ticket ∧ Spares ticket w w₂ ∧
          ∀ timeout r w₃,
            Goes queue.pool (fun id => w₂.ticket? id = none) (queue.program (.wait id timeout))
              w₂ r w₃ →
              (∃ d, r = .error (.timeout id d)) ∨
                ∃ text, (completionChannel queue.pool id, text) ∈ w₃.published ∧
                  r = completed id text) ∨
          Within queue (Evicts queue ticket) w₁ w₂ ∨ Within queue (Claims queue id) w₁ w₂
  /-- When time ran out for the receipt, the ticket is used up, and the next wait does not find
  it. -/
  used : ∀ b s s' h d w₁,
    Goes queue.pool (fun id => w.ticket? id = none) (queue.waiting id b s) w
        (.error (.transactionTimeout h d), s') w₁ →
      w₁.ticket? id = none ∧ ∀ b s r s' w₂,
        Goes queue.pool (fun id => w₁.ticket? id = none) (queue.waiting id b s) w₁ (r, s') w₂ →
          r = .error (.queue (.notFound id "no pending submission with this id"))
  wait : ∀ b s tickets, (queue.wait (.ticket id) b).run.run (s, tickets) =
    ((queue.waiting id b s).interpret (J := Outside) State.answer tickets).bind
      fun (r, tickets) => .done (r.1, r.2, tickets)

theorem waitable_until_used {wallet : String} (session : Session queue start w)
    (waits : queue.base.wait = Backend.waitAtNode wallet) (id : String) : Waitable queue id w := by
  have settled := settled_start.session session
  refine ⟨?late, ?used, fun b s tickets => queue.run_wait id b s tickets⟩
  case late =>
    intro timeout id' d w₁ call
    obtain ⟨after, waited, left⟩ := settled.waits call
    obtain ⟨⟨ticket, there⟩, kept⟩ := waited.of_timeout rfl
    have stays : w₁.ticket? id = some ticket := (congrFun kept id).trans there
    refine ⟨ticket, there, stays, ?_⟩
    intro w₂ more
    rcases after.stays stays more with ⟨here, spared⟩ | lost
    · refine .inl ⟨here, (left.spares id ticket there stays).trans spared, ?_⟩
      intro timeout r w₃ next
      obtain ⟨-, again, -⟩ := (after.session more).waits next
      exact again.of_present here
    · exact .inr lost
  case used =>
    intro b s s' h d w₁ call
    obtain ⟨after, gone⟩ := settled.used call waits
    refine ⟨gone, ?_⟩
    intro b s r s' w₂ next
    obtain ⟨u, r₀, v, drift, again, -, failed⟩ := next.waiting waits
    obtain ⟨-, waited, -⟩ := (after.drifts drift).waits again
    obtain rfl := waited.of_absent ((congrFun (ticket?_congr drift.tickets) id).trans gone)
    rcases failed with ⟨_, same, rfl⟩ | ⟨_, impossible⟩
    · cases same
      rfl
    · cases impossible

theorem goes_takes {text : String} {b : Broker} (timeout : Duration)
    (there : w.ticket? id = some ticket)
    (ready : w.broker.take ticket.subscription = some (text, b)) :
    ∃ w', Goes pool new (queue.program (.wait id timeout)) w (completed id text) w' := by
  let held : Traffic := { w with tickets := w.tickets.remove id }
  let given : Traffic := { held with broker := b }
  let dropped : Traffic := { given with broker := b.drop ticket.subscription }
  let released : Traffic := { dropped with broker := dropped.broker.unsubscribe ticket.channel }
  have removes : w.Answers w.time (.register (.remove id)) (some ticket) held := ⟨there.symm, rfl⟩
  have receives : held.Answers w.time (.outside (.receive ticket.subscription timeout))
    (.message text) given :=
    ⟨b, ready, rfl⟩
  have drops : given.Answers w.time (.outside (.drop ticket.subscription)) () dropped := rfl
  have forgets :
    dropped.Answers w.time (.outside (.unsubscribe ticket.channel)) (.ok ()) released := ⟨rfl, rfl⟩
  have awaited : Goes pool new (QueueWallet.awaitCompletion id timeout).run w
      (QueueWallet.readCompletion id text) released :=
    .asks .refl removes nofun (.looks .refl (.asks .refl receives nofun (.asks .refl drops nofun
      (.asks .refl forgets nofun .done))))
  exact ⟨released, goes_bind.mpr
    ⟨_, released, awaited, goes_done.mpr ⟨(map_readCompletion id text).symm, rfl⟩⟩⟩

theorem goes_late (there : w.ticket? id = some ticket)
    (empty : w.broker.take ticket.subscription = none) :
    ∃ d w', Goes pool new (queue.program (.wait id .zero)) w (.error (.timeout id d)) w' := by
  let held : Traffic := { w with tickets := w.tickets.remove id }
  let back : Traffic := { held with tickets := held.tickets.insert id ticket }
  have removes : w.Answers w.time (.register (.remove id)) (some ticket) held := ⟨there.symm, rfl⟩
  have receives : held.Answers w.time (.outside (.receive ticket.subscription .zero)) .late held :=
    ⟨Nat.le_refl _, empty, rfl⟩
  have inserts : held.Answers w.time (.register (.insert id ticket)) () back := ⟨rfl, rfl⟩
  have awaited : Goes pool new (QueueWallet.awaitCompletion id .zero).run w
      (.error (.timeout id (.ofNanos (w.time - w.time)))) back :=
    .asks .refl removes
      nofun (.looks .refl
      (.asks .refl receives nofun (.asks .refl inserts nofun (.looks .refl .done))))
  exact ⟨_, back, goes_bind.mpr ⟨_, back, awaited, .done⟩⟩

theorem goes_missing (b : WaitBounds) (s : σ) (absent : w.ticket? id = none) :
    ∃ w', Goes pool new (queue.waiting id b s) w
      (.error (.queue (.notFound id "no pending submission with this id")), s) w' := by
  let held : Traffic := { w with tickets := w.tickets.remove id }
  have removes : w.Answers w.time (.register (.remove id)) none held := ⟨absent.symm, rfl⟩
  have awaited : Goes pool new (queue.program (.wait id b.timeout)) w
      (.error (.notFound id "no pending submission with this id")) held :=
    goes_bind.mpr ⟨_, held, .asks .refl removes nofun .done, .done⟩
  exact ⟨held, .looks .refl (goes_bind.mpr ⟨_, held, awaited, .done⟩)⟩

end

/-! ## A receipt that does not come -/

def hurried : WaitBounds := ⟨50, .zero, .ofSeconds 3⟩

def minedText : String :=
  "\x7b\"id\":\"a\",\"status\":\"SENT\"," ++
    "\"tx_hash\":\"0x0000000000000000000000000000000000000000000000000000000000000000\"\x7d"

theorem completed_minedText (id : String) : completed id minedText = .ok (.hash .zero) := by
  have read : Completion.read? minedText.toList = some ⟨"a", "SENT", some .zero, none⟩ := by
    decide +kernel
  unfold completed
  rw [read]
  rfl

theorem nodeQueue_waits : nodeQueue.base.wait = Backend.waitAtNode "accepting" := rfl

def reported : Traffic := queued.publish firstChannel minedText

theorem carries_queued : queued.broker.Carries 1 firstChannel [] := by
  have fresh : counted.broker.Fresh := Broker.fresh_empty.subscribe "pool"
  have new : subscribed.broker.Carries 1 firstChannel [] :=
    Broker.Carries.of_next fresh firstChannel
  have posted := new.publish "pool" firstRecord
  have other : "pool" ≠ firstChannel := (completionChannel_ne "pool" firstId).symm
  rw [if_neg other] at posted
  exact posted

theorem carries_reported : reported.broker.Carries 1 firstChannel [minedText] := by
  have told := carries_queued.publish firstChannel minedText
  rw [if_pos rfl] at told
  exact told

theorem session_reported : Session nodeQueue start reported :=
  session_queued.tail (.beside (.publishes queued firstChannel minedText))

theorem goes_hurried (new : String → Prop) (w : Traffic) (elapsed : Duration) :
    ∃ d, Goes "pool" new
    (QueueWallet.share ((accepting.wait (.hash .zero) (hurried.remainingAfter elapsed)).run.run ()))
      w (.error (.transactionTimeout (.hash .zero) d), ()) w := by
  have nothing : hurried.remainingAfter elapsed = hurried := by
    simp [WaitBounds.remainingAfter, hurried, Duration.minus, Duration.zero]
  rw [nothing]
  apply Exists.intro
  refine .looks .refl (.asks .refl (a := (.ok 1 : Except Failure UInt64)) rfl nofun ?_)
  refine .asks .refl (a := (.ok none : Except Failure (Option Receipt))) rfl nofun (.looks .refl ?_)
  refine .asks .refl (a := (.ok true : Except Failure Bool)) rfl nofun (.looks .refl ?_)
  exact .done

theorem queued_ends_late (new : String → Prop) :
    ∃ d w, Goes "pool" new (nodeQueue.program (.wait firstId .zero)) queued
      (.error (.timeout firstId d)) w := by
  apply goes_late queued_ticket
  show queued.broker.take 1 = none
  unfold Broker.take
  rw [carries_queued.inbox]

theorem hurried_times_out (new : String → Prop) :
    ∃ d w, Goes "pool" new (nodeQueue.waiting firstId hurried ()) reported
      (.error (.transactionTimeout (.hash .zero) d), ()) w := by
  have told : reported.ticket? = queued.ticket? := ticket?_congr rfl
  have there : reported.ticket? firstId = some firstTicket :=
    (congrFun told firstId).trans queued_ticket
  obtain ⟨b, ready⟩ := Broker.exists_take carries_reported.inbox
  obtain ⟨w, takes⟩ :
    ∃ w, Goes "pool" new (nodeQueue.program (.wait firstId hurried.timeout)) reported
      (completed firstId minedText) w := goes_takes hurried.timeout there ready
  rw [completed_minedText] at takes
  obtain ⟨d, base⟩ := goes_hurried new w (.ofNanos (w.time - reported.time))
  exact ⟨d, w, .looks .refl (goes_bind.mpr ⟨_, w, takes, .looks .refl base⟩)⟩

def TimedOut (r : Except Failure Receipt) : Prop :=
  (∃ id d, r = .error (.queue (.timeout id d))) ∨ ∃ h d, r = .error (.transactionTimeout h d)

/-- Not every wait in which time ran out leaves a ticket for the next. -/
theorem next_wait_finds_no_ticket :
    ¬∀ (queue : QueueWallet Unit) (w : Traffic) (id : String) (b b' : WaitBounds)
    (r r' : Except Failure Receipt)
        (w₁ w₂ : Traffic), Session queue start w →
      Goes queue.pool (fun id => w.ticket? id = none) (queue.waiting id b ()) w (r, ()) w₁ →
        TimedOut r →
      Goes queue.pool (fun id => w₁.ticket? id = none) (queue.waiting id b' ()) w₁ (r', ()) w₂ →
        r' ≠ .error (.queue (.notFound id "no pending submission with this id")) := by
  intro waitable
  obtain ⟨d, w₁, first⟩ := hurried_times_out fun id => reported.ticket? id = none
  have gone := ((settled_start.session session_reported).used first nodeQueue_waits).2
  obtain ⟨w₂, second⟩ := goes_missing hurried () gone
  have timedOut : TimedOut (.error (.transactionTimeout (.hash .zero) d)) := .inr ⟨_, d, rfl⟩
  exact waitable nodeQueue reported firstId hurried hurried _ _ w₁ w₂ session_reported first
    timedOut second rfl

/-- A wait that comes before the completion leaves the first ticket. One that took the completion
and then came to its deadline has used it up. -/
theorem first_ticket_left_then_used :
    (∃ d w, Goes "pool" (fun id => queued.ticket? id = none)
      (nodeQueue.program (.wait firstId .zero)) queued
        (.error (.timeout firstId d)) w ∧ w.ticket? firstId = some firstTicket) ∧
      ∃ d w, Goes "pool" (fun id => reported.ticket? id = none)
        (nodeQueue.waiting firstId hurried ()) reported
        (.error (.transactionTimeout (.hash .zero) d), ()) w ∧ w.ticket? firstId = none := by
  constructor
  · have waitable := waitable_until_used session_queued nodeQueue_waits firstId
    obtain ⟨d, w, call⟩ := queued_ends_late fun id => queued.ticket? id = none
    obtain ⟨ticket, there, stays, -⟩ := waitable.late _ _ _ _ call
    obtain rfl := Option.some.inj (queued_ticket.symm.trans there)
    exact ⟨d, w, call, stays⟩
  · have waitable := waitable_until_used session_reported nodeQueue_waits firstId
    obtain ⟨d, w, call⟩ := hurried_times_out fun id => reported.ticket? id = none
    exact ⟨d, w, call, (waitable.used _ _ _ _ _ _ call).1⟩

end Traffic

end Queue

end Dispatch
