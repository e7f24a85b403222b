import Dispatch.Proofs.TicketAccounts

/-!
# What a call leaves

What a call of a queue leaves of tickets, channels and mail is told by one lemma for each of its
parts: evictions, submissions, waits.
-/

set_option autoImplicit false

namespace Dispatch

namespace Queue

namespace State

def Keyed (s : State) : Prop := (s.pending.map Prod.fst).Nodup

section
variable {s : State} {id : String} {ticket : Ticket} {lifetime : Duration} {time : Nat}

theorem keyed_start : start.Keyed := List.nodup_nil

theorem Keyed.remove (h : s.Keyed) (id : String) : (s.remove id).Keyed :=
  h.sublist (List.filter_sublist.map Prod.fst)

theorem Keyed.insert (h : s.Keyed) (id : String) (ticket : Ticket) :
    (s.insert id ticket).Keyed := by
  apply List.nodup_cons.mpr
  refine ⟨?_, h.remove id⟩
  intro there
  obtain ⟨entry, kept, same⟩ := List.mem_map.mp there
  have other := (List.mem_filter.mp kept).2
  simp [same] at other

theorem Keyed.reply (h : s.Keyed) (r : Register) : (s.reply r).2.Keyed := by
  cases r with
  | count => exact h
  | expired lifetime time => exact h
  | remove id => exact h.remove id
  | insert id ticket => exact h.insert id ticket

theorem Keyed.mem_iff (h : s.Keyed) : (id, ticket) ∈ s.pending ↔
    s.pending.lookup id = some ticket := by
  rw [List.lookup_eq_some_iff]
  constructor
  · intro there
    obtain ⟨before, after, split⟩ := List.append_of_mem there
    refine ⟨before, after, split, ?_⟩
    intro entry earlier
    have apart : entry.1 ≠ id := by
      rw [Keyed, split, List.map_append, List.map_cons] at h
      exact (List.nodup_append.mp h).2.2 _ (List.mem_map_of_mem earlier) _ List.mem_cons_self
    simpa using apart.symm
  · rintro ⟨before, after, split, -⟩
    rw [split]
    simp

theorem Keyed.mem_expired (h : s.Keyed) :
    id ∈ s.expired lifetime time ↔
      ∃ ticket, s.pending.lookup id = some ticket ∧
        lifetime ≤ .ofNanos (time - ticket.queuedAt) := by
  simp only [expired, List.mem_map, List.mem_filter, decide_eq_true_eq]
  constructor
  · rintro ⟨⟨_, ticket⟩, ⟨there, old⟩, rfl⟩
    exact ⟨ticket, h.mem_iff.mp there, old⟩
  · rintro ⟨ticket, there, old⟩
    exact ⟨(id, ticket), ⟨h.mem_iff.mpr there, old⟩, rfl⟩

end

end State

namespace Traffic

/-- The broker serves other tickets now, and the mail of those that stayed is spared. -/
structure Leaves (pool : String) (has has' : String → Option Ticket) (w w' : Traffic) : Prop where
  serves : Serves pool has' none w'
  spares : ∀ id ticket, has id = some ticket → has' id = some ticket → Spares ticket w w'

section
variable {pool : String} {new : String → Prop} {has has' : String → Option Ticket}
  {dirty : Option String} {w w' w₁ : Traffic} {id : String} {ticket : Ticket} {since : Nat}
  {q : OutsideQuestion}

theorem Leaves.trans {has'' : String → Option Ticket} (h : Leaves pool has has' w w₁)
    (h' : Leaves pool has' has'' w₁ w')
    (between : ∀ id ticket, has id = some ticket → has'' id = some ticket → has' id = some ticket) :
    Leaves pool has has'' w w' := by
  refine ⟨h'.serves, ?_⟩
  intro id ticket first last
  have middle := between id ticket first last
  exact (h.spares id ticket first middle).trans (h'.spares id ticket middle last)

theorem Leaves.keeps_trans (h : Leaves pool has has w w₁) (h' : Leaves pool has has' w₁ w') :
    Leaves pool has has' w w' :=
  h.trans h' fun _ _ before _ => before

theorem Leaves.trans_keeps (h : Leaves pool has has' w w₁) (h' : Leaves pool has' has' w₁ w') :
    Leaves pool has has' w w' :=
  h.trans h' fun _ _ _ after => after

theorem ticket?_congr (same : w'.tickets = w.tickets) : w'.ticket? = w.ticket? := by
  unfold ticket?
  rw [same]

theorem asked_tickets {a : q.Answer} (drift : Drifts pool w w₁)
    (answered : w₁.Answers since (.outside q) a w') :
    w'.tickets = w.tickets := answered.effect.tickets.trans drift.tickets

theorem asked_spares {a : q.Answer} (drift : Drifts pool w w₁)
    (answered : w₁.Answers since (.outside q) a w')
    (h : Serves pool has dirty w) (there : has id = some ticket)
    (kept : q ≠ .drop ticket.subscription)
    (untaken : ∀ timeout, q ≠ .receive ticket.subscription timeout) : Spares ticket w w' := by
  have after := drift.serves h
  have delivers := after.delivers id ticket there
  rw [← after.named id ticket there] at delivers
  apply (drift.spares h there).trans (answered.effect.spares after.fresh delivers _ _)
  · simpa using kept
  · simpa using untaken

theorem Drifts.leaves (drift : Drifts pool w w') (h : Serves pool has none w) :
    Leaves pool has has w w' :=
  ⟨drift.serves h, fun _ _ there _ => drift.spares h there⟩

theorem Goes.release {r : Except QueueFailure Unit}
    (g : Goes pool new (QueueWallet.release ticket).run w r w')
    (h : Serves pool has none w) (there : has id = some ticket) :
    r = .ok () ∧ w'.tickets = w.tickets ∧ Leaves pool has (Function.update has id none) w w' := by
  obtain ⟨_, w₁, dropped, g⟩ := goes_lift_bind.mp g
  obtain ⟨_, w₂, forgot, g⟩ := goes_lift_bind.mp g
  obtain ⟨rfl, rfl⟩ := goes_pure.mp g
  obtain ⟨u, drift, answered, -⟩ := goes_ask.mp dropped
  obtain ⟨v, drift', answered', -⟩ := goes_ask.mp forgot
  have dropped : Serves pool (Function.update has id none) (some id) w₁ := by
    obtain rfl := answered
    exact (drift.serves h).drops there
  have forgotten : Serves pool (Function.update has id none) none w' := by
    obtain ⟨-, rfl⟩ := answered'
    rw [h.named id ticket there]
    exact (drift'.serves dropped).forgets
  refine ⟨rfl, (asked_tickets drift' answered').trans (asked_tickets drift answered), forgotten, ?_⟩
  intro id' ticket' before after
  have other : ticket'.subscription ≠ ticket.subscription := by
    intro same
    obtain rfl := h.apart before there same
    simp at after
  apply (asked_spares drift answered h before _ (by simp)).trans
  · exact asked_spares drift' answered' dropped after (by simp) (by simp)
  · simpa using other.symm

theorem Goes.keyed {α : Type} {p : Program Shared α} {r : α} (g : Goes pool new p w r w')
    (h : w.tickets.Keyed) :
    w'.tickets.Keyed := by
  induction g with
  | done => exact h
  | @asks q _ _ w₁ w₂ _ _ _ drift answered _ _ ih =>
    have before : w₁.tickets.Keyed := drift.tickets ▸ h
    apply ih
    cases q with
    | outside q => exact answered.effect.tickets ▸ before
    | register r =>
      obtain ⟨-, rfl⟩ := answered
      exact before.reply r
  | looks drift _ ih => exact ih (drift.tickets ▸ h)
  | sleeps drift _ _ ih => exact ih (drift.tickets ▸ h)

/-! ## Evictions -/

theorem ticket?_remove (s : State) : ({ w with tickets := s.remove id } : Traffic).ticket? =
    Function.update ({ w with tickets := s } : Traffic).ticket? id none := by
  funext id'
  rw [Function.update_apply]
  exact State.lookup_remove

theorem goes_remove {found : Option Ticket}
    (g : Goes pool new (.ask (.register (.remove id)) .done) w found w')
    (h : Serves pool has none w) :
    found = w.ticket? id ∧ w'.ticket? = Function.update w.ticket? id none ∧
      Leaves pool has has w w' := by
  obtain ⟨u, drift, ⟨rfl, rfl⟩, -⟩ := goes_ask.mp g
  have kept := ticket?_congr drift.tickets
  refine ⟨congrFun kept id, ?_, (drift.serves h).registers _, ?_⟩
  · rw [← kept]
    exact ticket?_remove u.tickets
  · exact fun id ticket there _ => (drift.spares h there).trans (.of_same rfl rfl)

theorem Goes.evict {ids : List String} {r : Except QueueFailure Unit}
    (g : Goes pool new (QueueWallet.evict ids).run w r w') (h : Serves pool w.ticket? none w) :
    r = .ok () ∧ (∀ id, w'.ticket? id = if id ∈ ids then none else w.ticket? id) ∧
      Leaves pool w.ticket? w'.ticket? w w' := by
  induction ids generalizing w with
  | nil =>
    obtain ⟨rfl, rfl⟩ := goes_pure.mp g
    exact ⟨rfl, by simp, h, fun _ ticket _ _ => .refl ticket w'⟩
  | cons id ids ih =>
    obtain ⟨found, w₁, removed, g⟩ := goes_lift_bind.mp g
    obtain ⟨rfl, tickets, leaves⟩ := goes_remove removed h
    have last : ∀ {w₂}, w₂.ticket? = Function.update w.ticket? id none →
      Leaves pool w.ticket? w₂.ticket? w w₂ →
        Goes pool new (QueueWallet.evict ids).run w₂ r w' →
        r = .ok () ∧ (∀ id', w'.ticket? id' = if id' ∈ id :: ids then none else w.ticket? id') ∧
          Leaves pool w.ticket? w'.ticket? w w' := by
      intro w₂ now first g
      obtain ⟨rfl, others, rest⟩ := ih g first.serves
      have gone : ∀ id', w'.ticket? id' = if id' ∈ id :: ids then none else w.ticket? id' := by
        intro id'
        rw [others id', now, Function.update_apply]
        by_cases same : id' = id
        · simp [same]
        · simp [same]
      refine ⟨rfl, gone, first.trans rest ?_⟩
      intro id' ticket before after
      rw [others id'] at after
      split at after
      · cases after
      · exact after
    cases found : w.ticket? id with
    | none =>
      rw [found] at g
      have same : w₁.ticket? = w.ticket? := by rw [tickets, ← found, Function.update_eq_self]
      apply last tickets _ g
      rw [same]
      exact leaves
    | some ticket =>
      rw [found] at g
      rcases goes_step_bind.mp g with ⟨e, released, -⟩ | ⟨_, w₂, released, g⟩
      · cases (released.release leaves.serves found).1
      · obtain ⟨-, kept, spared⟩ := released.release leaves.serves found
        have now : w₂.ticket? = Function.update w.ticket? id none :=
          (ticket?_congr kept).trans tickets
        apply last now _ g
        rw [now]
        exact leaves.keeps_trans spared

/-- The tickets that have not reached a lifetime at a time. -/
def surviving (w : Traffic) (lifetime : Duration) (time : Nat) (id : String) : Option Ticket :=
  (w.ticket? id).filter fun ticket => decide (Duration.ofNanos (time - ticket.queuedAt) < lifetime)

theorem surviving_eq_some {lifetime : Duration} {time : Nat} :
    w.surviving lifetime time id = some ticket ↔
      w.ticket? id = some ticket ∧ Duration.ofNanos (time - ticket.queuedAt) < lifetime := by
  simp [surviving, Option.filter_eq_some_iff]

theorem surviving_eq {lifetime : Duration} {time : Nat} (keyed : w.tickets.Keyed) :
    w.surviving lifetime time id =
      if id ∈ w.tickets.expired lifetime time then none else w.ticket? id := by
  have sought : id ∈ w.tickets.expired lifetime time ↔
      ∃ ticket, w.ticket? id = some ticket ∧ lifetime ≤ .ofNanos (time - ticket.queuedAt) :=
        keyed.mem_expired
  simp only [sought]
  cases found : w.ticket? id with
  | none => simp [surviving, found]
  | some ticket =>
    by_cases old : lifetime ≤ .ofNanos (time - ticket.queuedAt)
    · have expired : ¬Duration.ofNanos (time - ticket.queuedAt) < lifetime := Nat.not_lt.mpr old
      simp [surviving, found, old, expired]
    · have young : Duration.ofNanos (time - ticket.queuedAt) < lifetime := Nat.lt_of_not_le old
      simp [surviving, found, old, young]

theorem Goes.evictExpired {σ : Type} {queue : QueueWallet σ} {r : Except QueueFailure Unit}
    (g : Goes pool new queue.evictExpired.run w r w') (h : Serves pool w.ticket? none w)
    (keyed : w.tickets.Keyed) :
    r = .ok () ∧ ∃ time, w.time ≤ time ∧ time ≤ w'.time ∧
      w'.ticket? = w.surviving queue.lifetime time ∧
      Leaves pool w.ticket? w'.ticket? w w' := by
  obtain ⟨time, w₁, looked, g⟩ := goes_lift_bind.mp g
  obtain ⟨ids, w₂, sought, g⟩ := goes_lift_bind.mp g
  obtain ⟨drift, rfl⟩ := goes_now.mp looked
  obtain ⟨u, drift', ⟨rfl, rfl⟩, -⟩ := goes_ask.mp sought
  have drifted : Drifts pool w u := drift.trans drift'
  have same : u.ticket? = w.ticket? := ticket?_congr drifted.tickets
  have leaves : Leaves pool w.ticket? w.ticket? w u := drifted.leaves h
  obtain ⟨rfl, gone, evicted⟩ := g.evict (same ▸ leaves.serves)
  refine ⟨rfl, w₁.time, drift.time_le, Nat.le_trans drift'.time_le g.time_le, ?_, ?_⟩
  · funext id
    rw [surviving_eq keyed, ← drifted.tickets, ← same]
    exact gone id
  · have evicted : Leaves pool w.ticket? w'.ticket? u w' := same ▸ evicted
    exact leaves.keeps_trans evicted

/-! ## Submissions -/

theorem goes_date {d : Nat} (g : Goes pool new (QueueWallet.share Outside.date) w d w') :
    Drifts pool w w' := by
  obtain ⟨_, drift, rfl, -⟩ := goes_ask.mp g
  exact drift

section
variable {σ : Type} {queue : QueueWallet σ}

theorem Goes.freshId {r : Except QueueFailure String} (g : Goes pool new queue.freshId.run w r w')
    (h : Serves pool has none w) : (∃ id, r = .ok id) ∧ w'.ticket? = w.ticket? ∧
      Leaves pool has has w w' := by
  obtain ⟨nanos, w₁, dated, g⟩ := goes_lift_bind.mp g
  obtain ⟨n, w₂, counted, g⟩ := goes_lift_bind.mp g
  obtain ⟨rfl, rfl⟩ := goes_pure.mp g
  obtain ⟨u, drift, ⟨rfl, rfl⟩, -⟩ := goes_ask.mp counted
  have drifted : Drifts pool w u := (goes_date dated).trans drift
  refine ⟨⟨_, rfl⟩, ?_, (drifted.serves h).registers _, ?_⟩
  · exact (ticket?_congr drifted.tickets :)
  · exact fun id ticket there _ => (drifted.spares h there).trans (.of_same rfl rfl)

theorem Goes.publish {payload : String} {r : Except QueueFailure Unit}
    (g : Goes pool new (queue.publish id payload ticket).run w r w') (h : Serves pool has none w)
    (there : has id = some ticket) :
    w'.ticket? = w.ticket? ∧ (r = .ok () ∧ Leaves pool has has w w' ∨
      (∃ e, r = .error e) ∧ Leaves pool has (Function.update has id none) w w') := by
  obtain ⟨receivers, w₁, published, g⟩ := goes_lift_bind.mp g
  obtain ⟨u, drift, answered, -⟩ := goes_ask.mp published
  have kept : w₁.tickets = w.tickets := asked_tickets drift answered
  have posted : Leaves pool has has w w₁ := by
    constructor
    · obtain ⟨-, rfl⟩ := answered
      exact (drift.serves h).publishes _ _
    · exact fun id ticket there _ => asked_spares drift answered h there (by simp) (by simp)
  have refused :
    ∀ {e}, Goes pool new (QueueWallet.release ticket >>= fun _ => throw e).run w₁ r w' →
      w'.ticket? = w.ticket? ∧ (r = .ok () ∧ Leaves pool has has w w' ∨
        (∃ e, r = .error e) ∧ Leaves pool has (Function.update has id none) w w') := by
    intro e g
    rcases goes_step_bind.mp g with ⟨e, released, -⟩ | ⟨_, w₂, released, g⟩
    · cases (released.release posted.serves there).1
    · obtain ⟨-, same, left⟩ := released.release posted.serves there
      obtain ⟨rfl, rfl⟩ := goes_throw.mp g
      exact ⟨ticket?_congr (same.trans kept), .inr ⟨⟨_, rfl⟩, posted.keeps_trans left⟩⟩
  cases receivers with
  | error failure => exact refused g
  | ok count =>
    dsimp only at g
    split at g
    · exact refused g
    · obtain ⟨rfl, rfl⟩ := goes_pure.mp g
      exact ⟨ticket?_congr kept, .inl ⟨rfl, posted⟩⟩

theorem goes_insert {u : Unit}
    (g : Goes pool new (.ask (.register (.insert id ticket)) .done) w u w')
    (h : Serves pool has none w) : w'.ticket? = Function.update w.ticket? id (some ticket) ∧
      Leaves pool has has w w' := by
  obtain ⟨v, drift, ⟨rfl, rfl⟩, -⟩ := goes_ask.mp g
  refine ⟨?_, (drift.serves h).registers _, ?_⟩
  · funext id'
    have kept : v.ticket? id' = w.ticket? id' := congrFun (ticket?_congr drift.tickets) id'
    rw [Function.update_apply, ← kept]
    exact State.lookup_insert
  · exact fun id' ticket' there _ => (drift.spares h there).trans (.of_same rfl rfl)

theorem Goes.posts {payload : String} {r : Result}
    (g : Goes pool new
      (do
        queue.publish id payload ticket
        QueueWallet.insert id ticket
        return Handle.ticket id).run w r w')
    (h : Serves pool has none w) (there : has id = some ticket) :
    r = .ok (.ticket id) ∧ w'.ticket? = Function.update w.ticket? id (some ticket) ∧
      Leaves pool has has w w' ∨
      (∃ e, r = .error e) ∧ w'.ticket? = w.ticket? ∧
        Leaves pool has (Function.update has id none) w w' := by
  rcases goes_step_bind.mp g with ⟨e, refused, rfl⟩ | ⟨_, w₁, posted, g⟩
  · right
    obtain ⟨same, ⟨impossible, -⟩ | ⟨-, left⟩⟩ := refused.publish h there
    · cases impossible
    · exact ⟨⟨e, rfl⟩, same, left⟩
  · left
    obtain ⟨same, ⟨-, left⟩ | ⟨⟨_, impossible⟩, -⟩⟩ := posted.publish h there
    · obtain ⟨_, w₂, inserted, g⟩ := goes_lift_bind.mp g
      obtain ⟨rfl, rfl⟩ := goes_pure.mp g
      obtain ⟨now, kept⟩ := goes_insert inserted left.serves
      exact ⟨rfl, same ▸ now, left.keeps_trans kept⟩
    · cases impossible

theorem Goes.lists {payload : String} {r : Result}
    (g : Goes queue.pool new
      (do
        let subscription ← QueueWallet.attempt (Outside.subscribe (completionChannel queue.pool id))
        let queuedAt ← QueueWallet.ask Program.now
        let ticket : Ticket := ⟨completionChannel queue.pool id, subscription, queuedAt⟩
        queue.publish id payload ticket
        QueueWallet.insert id ticket
        return Handle.ticket id).run w r w')
    (h : Serves queue.pool w.ticket? none w) (fresh : ∀ id, new id → w.ticket? id = none) :
    (∃ ticket, r = .ok (.ticket id) ∧ new id ∧ w.time ≤ ticket.queuedAt ∧
      ticket.queuedAt ≤ w'.time ∧
        w'.ticket? = Function.update w.ticket? id (some ticket) ∧
          Leaves queue.pool w.ticket? w'.ticket? w w') ∨
      (∃ e, r = .error e) ∧ w'.ticket? = w.ticket? ∧
        Leaves queue.pool w.ticket? w.ticket? w w' := by
  rcases goes_step_bind.mp g with ⟨e, refused, rfl⟩ | ⟨subscription, w₁, subscribed, g⟩
  · obtain ⟨u, drift, ⟨impossible, -⟩, -⟩ := goes_ask.mp refused
    cases impossible
  obtain ⟨u, drift, answered, named⟩ := goes_ask.mp subscribed
  have chosen : new id := named id rfl
  have unknown : w.ticket? id = none := fresh id chosen
  obtain ⟨queuedAt, w₂, looked, g⟩ := goes_lift_bind.mp g
  obtain ⟨drift', rfl⟩ := goes_now.mp looked
  let ticket : Ticket := ⟨completionChannel queue.pool id, subscription, w₂.time⟩
  have same : w₂.ticket? = w.ticket? :=
    ticket?_congr (drift'.tickets.trans (asked_tickets drift answered))
  have served : Serves queue.pool (Function.update w.ticket? id (some ticket)) none w₁ := by
    obtain ⟨number, rfl⟩ := answered
    cases number
    exact (drift.serves h).subscribes unknown w₂.time
  have listed : Leaves queue.pool w.ticket? (Function.update w.ticket? id (some ticket)) w w₂ := by
    refine ⟨drift'.serves served, ?_⟩
    intro id' ticket' before after
    exact (asked_spares drift answered h before (by simp) (by simp)).trans
      (drift'.spares served after)
  rcases g.posts listed.serves (Function.update_self id (some ticket) w.ticket?) with
    ⟨rfl, now, left⟩ | ⟨failed, now, left⟩
  · left
    rw [same] at now
    have began : w.time ≤ w₂.time := by
      calc
        w.time ≤ u.time := drift.time_le
        _ = w₁.time := answered.effect.frame.time.symm
        _ ≤ w₂.time := drift'.time_le
    refine ⟨ticket, rfl, chosen, began, g.time_le, now, ?_⟩
    rw [now]
    exact listed.trans_keeps left
  · right
    have back : Function.update (Function.update w.ticket? id (some ticket)) id none =
      w.ticket? := by
      rw [Function.update_idem, ← unknown, Function.update_eq_self]
    refine ⟨failed, now.trans same, ?_⟩
    rw [back] at left
    apply listed.trans left
    intro id' ticket' before _
    have other : id' ≠ id := by
      rintro rfl
      rw [unknown] at before
      cases before
    rw [Function.update_of_ne other]
    exact before

/-- What a submission does that looked at a time for old tickets. -/
structure Submitted (queue : QueueWallet σ) (time : Nat) (w : Traffic) (r : Result) (w' : Traffic) :
    Prop where
  looked : w.time ≤ time ∧ time ≤ w'.time
  spared : ∀ id ticket, w.surviving queue.lifetime time id = some ticket → Spares ticket w w'
  failed : ∀ e, r = .error e → w'.ticket? = w.surviving queue.lifetime time
  accepted : ∀ handle, r = .ok handle → ∃ id ticket, handle = .ticket id ∧ w.ticket? id = none ∧
    time ≤ ticket.queuedAt ∧ ticket.queuedAt ≤ w'.time ∧
    w'.ticket? = Function.update (w.surviving queue.lifetime time) id (some ticket)

theorem Submitted.keeps {time : Nat} {r : Result} (h : Submitted queue time w r w')
    (there : w.surviving queue.lifetime time id = some ticket) : w'.ticket? id = some ticket := by
  cases r with
  | error e =>
    rw [h.failed e rfl]
    exact there
  | ok handle =>
    obtain ⟨id', ticket', -, new, -, -, now⟩ := h.accepted handle rfl
    have other : id ≠ id' := by
      rintro rfl
      rw [(surviving_eq_some.mp there).1] at new
      cases new
    rw [now, Function.update_of_ne other]
    exact there

theorem Goes.enqueue {tx : Draft} {hints : Hints} {r : Result}
    (g : Goes queue.pool (fun id => w.ticket? id = none) (queue.enqueue tx hints).run w r w')
    (h : Serves queue.pool w.ticket? none w) (keyed : w.tickets.Keyed) :
    Serves queue.pool w'.ticket? none w' ∧ ∃ time, Submitted queue time w r w' := by
  rcases goes_step_bind.mp g with ⟨e, evicted, -⟩ | ⟨_, w₁, evicted, g⟩
  · cases (evicted.evictExpired h keyed).1
  obtain ⟨-, time, after, before, tickets, leaves⟩ := evicted.evictExpired h keyed
  rcases goes_step_bind.mp g with ⟨e, named, -⟩ | ⟨id, w₂, named, g⟩
  · obtain ⟨⟨_, impossible⟩, -⟩ := named.freshId leaves.serves
    cases impossible
  obtain ⟨-, same, leaves'⟩ := named.freshId leaves.serves
  obtain ⟨nanos, w₃, dated, g⟩ := goes_lift_bind.mp g
  have drift := goes_date dated
  have old : w₃.ticket? = w.surviving queue.lifetime time :=
    (ticket?_congr drift.tickets).trans (same.trans tickets)
  have cleared : Leaves queue.pool w.ticket? w₃.ticket? w w₃ := by
    rw [old, ← tickets]
    exact (leaves.trans_keeps leaves').trans_keeps (drift.leaves leaves'.serves)
  have began : time ≤ w₃.time := by
    calc
      time ≤ w₁.time := before
      _ ≤ w₂.time := named.time_le
      _ ≤ w₃.time := drift.time_le
  -- Without a ticket for it, the submission fails, and what it cleared stays cleared.
  have refuse : ∀ {e}, r = .error e → w₃.time ≤ w'.time → w'.ticket? = w₃.ticket? →
      Leaves queue.pool w.ticket? w'.ticket? w w' →
      Serves queue.pool w'.ticket? none w' ∧ ∃ time, Submitted queue time w r w' := by
    rintro e rfl later kept left
    refine ⟨left.serves, time, ⟨after, Nat.le_trans began later⟩, ?_, fun _ _ =>
      kept.trans old, nofun⟩
    intro id ticket there
    apply left.spares id ticket (surviving_eq_some.mp there).1
    rw [kept, old]
    exact there
  rcases goes_step_bind.mp g with ⟨e, recorded, failed⟩ | ⟨record, w₄, recorded, listing⟩
  · obtain ⟨-, rfl⟩ := goes_done.mp recorded
    exact refuse failed (Nat.le_refl _) rfl cleared
  obtain ⟨-, rfl⟩ := goes_done.mp recorded
  have fresh : ∀ id, w.ticket? id = none → w₄.ticket? id = none := by
    intro id new
    simp [old, surviving, new]
  rcases listing.lists cleared.serves fresh with ⟨ticket, rfl, new, early, late, now, left⟩ |
    ⟨⟨e, failed⟩, kept, left⟩
  · have kept : ∀ id' ticket', w.ticket? id' = some ticket' → w'.ticket? id' = w₄.ticket? id' := by
      intro id' ticket' there
      have other : id' ≠ id := by
        rintro rfl
        rw [new] at there
        cases there
      rw [now, Function.update_of_ne other]
    have final : Leaves queue.pool w.ticket? w'.ticket? w w' := by
      apply cleared.trans left
      intro id' ticket' before after
      rwa [kept id' ticket' before] at after
    refine ⟨left.serves, time, ⟨after, Nat.le_trans began listing.time_le⟩, ?_, nofun, ?_⟩
    · intro id' ticket' there
      have before := (surviving_eq_some.mp there).1
      apply final.spares id' ticket' before
      rw [kept id' ticket' before, old]
      exact there
    · rintro _ ⟨⟩
      exact ⟨id, ticket, rfl, new, Nat.le_trans began early, late, old ▸ now⟩
  · apply refuse failed listing.time_le kept
    rw [kept]
    exact cleared.trans_keeps left

end

/-! ## Waits -/

/-- What a wait on an id comes to: there is no ticket, or time runs out and the ticket stays, or a
message was taken and the ticket is gone. -/
inductive Waited (pool id : String) (w : Traffic) : Result → Traffic → Prop where
  | missing {w' : Traffic} (absent : w.ticket? id = none) (kept : w'.ticket? = w.ticket?) :
      Waited pool id w (.error (.notFound id "no pending submission with this id")) w'
  | late {w' : Traffic} {ticket : Ticket} {d : Duration} (there : w.ticket? id = some ticket)
      (kept : w'.ticket? = w.ticket?) : Waited pool id w (.error (.timeout id d)) w'
  | taken {w' : Traffic} {ticket : Ticket} {text : String} (there : w.ticket? id = some ticket)
      (published : (completionChannel pool id, text) ∈ w'.published)
      (gone : w'.ticket? = Function.update w.ticket? id none) :
        Waited pool id w (completed id text) w'

theorem completed_ne_timeout {text id' : String} {d : Duration} :
    completed id text ≠ .error (.timeout id' d) := by
  unfold completed
  cases Completion.read? text.toList with
  | none => simp
  | some completion =>
    obtain ⟨_, _, hash, error⟩ := completion
    cases error with
    | some e => cases e <;> simp [Completion.result, GivenUp.failure, Except.map]
    | none => cases hash <;> simp [Completion.result, Except.map]

section
variable {r : Result} {id' : String}

theorem Waited.others (h : Waited pool id w r w') (other : id' ≠ id) :
    w'.ticket? id' = w.ticket? id' := by
  cases h with
  | missing absent kept => rw [kept]
  | late there kept => rw [kept]
  | taken there published gone => rw [gone, Function.update_of_ne other]

theorem Waited.of_timeout {d : Duration} (h : Waited pool id w r w')
    (late : r = .error (.timeout id' d)) :
    (∃ ticket, w.ticket? id = some ticket) ∧ w'.ticket? = w.ticket? := by
  cases h with
  | missing absent kept => cases late
  | late there kept => exact ⟨⟨_, there⟩, kept⟩
  | taken there published gone => exact absurd late completed_ne_timeout

theorem Waited.of_not_timeout (h : Waited pool id w r w')
    (inTime : ∀ id' d, r ≠ .error (.timeout id' d)) :
    w'.ticket? = Function.update w.ticket? id none := by
  cases h with
  | missing absent kept => rw [kept, ← absent, Function.update_eq_self]
  | late there kept => exact absurd rfl (inTime _ _)
  | taken there published gone => exact gone

theorem Waited.of_absent (h : Waited pool id w r w') (absent : w.ticket? id = none) :
    r = .error (.notFound id "no pending submission with this id") := by
  cases h with
  | missing _ kept => rfl
  | late there kept => cases absent.symm.trans there
  | taken there published gone => cases absent.symm.trans there

theorem Waited.of_present (h : Waited pool id w r w') (there : w.ticket? id = some ticket) :
    (∃ d, r = .error (.timeout id d)) ∨
      ∃ text, (completionChannel pool id, text) ∈ w'.published ∧ r = completed id text := by
  cases h with
  | missing absent kept => cases absent.symm.trans there
  | late _ kept => exact .inl ⟨_, rfl⟩
  | taken _ published gone => exact .inr ⟨_, published, rfl⟩

end

theorem Goes.awaitCompletion {timeout : Duration} {r : Except QueueFailure Hash}
    (g : Goes pool new (QueueWallet.awaitCompletion id timeout).run w r w')
    (h : Serves pool w.ticket? none w) :
    Waited pool id w (r.map Handle.hash) w' ∧ Leaves pool w.ticket? w'.ticket? w w' := by
  obtain ⟨found, w₁, removed, looked⟩ := goes_lift_bind.mp g
  obtain ⟨rfl, tickets, held⟩ := goes_remove removed h
  cases found : w.ticket? id with
  | none =>
    rw [found] at looked
    obtain ⟨rfl, rfl⟩ := goes_throw.mp looked
    have kept : w'.ticket? = w.ticket? := by rw [tickets, ← found, Function.update_eq_self]
    exact ⟨.missing found kept, kept ▸ held⟩
  | some ticket =>
    rw [found] at looked
    obtain ⟨started, w₂, now, began⟩ := goes_lift_bind.mp looked
    obtain ⟨delivery, w₃, received, rest⟩ := goes_lift_bind.mp began
    obtain ⟨u, drift, answered, -⟩ := goes_ask.mp received
    have drifted : Drifts pool w₁ u := (goes_now.mp now).1.trans drift
    have waiting : Leaves pool w.ticket? w.ticket? w u :=
      held.keeps_trans (drifted.leaves held.serves)
    have inHand : u.ticket? = Function.update w.ticket? id none :=
      (ticket?_congr drifted.tickets).trans tickets
    cases delivery with
    | late =>
      obtain ⟨-, -, rfl⟩ := answered
      obtain ⟨_, w₄, inserted, rest⟩ := goes_lift_bind.mp rest
      obtain ⟨d, w₅, since, thrown⟩ := goes_lift_bind.mp rest
      obtain ⟨rfl, rfl⟩ := goes_throw.mp thrown
      obtain ⟨back, left⟩ := goes_insert inserted waiting.serves
      have drift' := (goes_since.mp since).1
      have kept : w'.ticket? = w.ticket? := by
        rw [ticket?_congr drift'.tickets, back, inHand, Function.update_idem, ← found,
          Function.update_eq_self]
      refine ⟨.late found kept, ?_⟩
      rw [kept]
      exact (waiting.keeps_trans left).keeps_trans (drift'.leaves left.serves)
    | closed =>
      obtain ⟨-, unlisted, -⟩ := answered
      obtain ⟨_, carries, -⟩ := waiting.serves.delivers id ticket found
      exact absurd carries.listed (unlisted _)
    | message text =>
      -- Only the mail of this ticket is touched.
      have others : ∀ id' ticket', id' ≠ id → w.ticket? id' = some ticket' →
        Spares ticket' u w₃ := by
        intro id' ticket' other there
        apply asked_spares .refl answered waiting.serves there (by simp)
        intro timeout' same
        exact other (waiting.serves.apart there found (OutsideQuestion.receive.inj same).1.symm)
      obtain ⟨b, taken, rfl⟩ := answered
      have served : Serves pool w.ticket? none { u with broker := b } := waiting.serves.takes taken
      have known : (completionChannel pool id, text) ∈ u.published := by
        obtain ⟨mail, carries, published⟩ := waiting.serves.delivers id ticket found
        obtain ⟨more, had, -⟩ := Broker.take_eq_some taken
        obtain rfl := Option.some.inj (carries.inbox.symm.trans had)
        exact published text List.mem_cons_self
      rcases goes_step_bind.mp rest with ⟨e, released, -⟩ | ⟨_, w₄, released, rest⟩
      · cases (released.release served found).1
      · obtain ⟨-, same, left⟩ := released.release served found
        obtain ⟨rfl, rfl⟩ := goes_done.mp rest
        have gone : w'.ticket? = Function.update w.ticket? id none :=
          (ticket?_congr same).trans inHand
        rw [map_readCompletion, gone]
        refine ⟨.taken found (released.published known) gone, left.serves, ?_⟩
        intro id' ticket' before after
        have other : id' ≠ id := by
          rintro rfl
          simp at after
        exact ((waiting.spares id' ticket' before before).trans
          (others id' ticket' other before)).trans
          (left.spares id' ticket' before after)

end

end Traffic

end Queue

end Dispatch
