import Dispatch.Proofs.BrokerChannels
import Dispatch.Proofs.QueueCalls

/-!
# Tickets and channels

To each ticket belongs one channel with one subscriber, and no other channel of an id is kept. Calls
change both together: what subscribes leaves a ticket or drops the subscription again.
-/

set_option autoImplicit false

namespace Dispatch

namespace Queue

namespace Traffic

def ticket? (w : Traffic) (id : String) : Option Ticket := w.tickets.pending.lookup id

/-- The broker serves these tickets, kept or in hand, and no others. One channel may still list who
was dropped. -/
structure Serves (pool : String) (has : String → Option Ticket) (dirty : Option String)
    (w : Traffic) : Prop where
  fresh : w.broker.Fresh
  tidy : w.broker.Tidy
  guests : ∀ n ∈ w.guests, n < w.broker.next
  own : ∀ id ticket, has id = some ticket → ticket.subscription ∉ w.guests
  named : ∀ id ticket, has id = some ticket → ticket.channel = completionChannel pool id
  delivers : ∀ id ticket, has id = some ticket →
    w.Delivers ticket.subscription (completionChannel pool id)
  live : ∀ id, w.broker.live (completionChannel pool id) = ((has id).map Ticket.subscription).toList
  clean : ∀ id, dirty ≠ some id →
    w.broker.subscribers (completionChannel pool id) = w.broker.live (completionChannel pool id)

section
variable {pool : String} {has : String → Option Ticket} {dirty : Option String} {w w' : Traffic}
  {id : String} {ticket : Ticket} {n : Nat}

theorem Serves.young (h : Serves pool has dirty w) (there : has id = some ticket) :
    ticket.subscription < w.broker.next := by
  obtain ⟨mail, carries, -⟩ := h.delivers id ticket there
  exact h.fresh.listed _ _ carries.listed

theorem Serves.passes (h : Serves pool has dirty w) (d : Nat) :
    Serves pool has dirty { w with time := w.time + d } :=
  ⟨h.fresh, h.tidy, h.guests, h.own, h.named, h.delivers, h.live, h.clean⟩

theorem Serves.registers (h : Serves pool has dirty w) (s : State) :
    Serves pool has dirty { w with tickets := s } :=
  ⟨h.fresh, h.tidy, h.guests, h.own, h.named, h.delivers, h.live, h.clean⟩

theorem Serves.publishes (h : Serves pool has dirty w) (channel payload : String) :
    Serves pool has dirty (w.publish channel payload) where
  fresh := h.fresh.publish channel payload
  tidy := h.tidy.publish channel payload
  guests := h.guests
  own := h.own
  named := h.named
  delivers id ticket there :=
    (Effect.publishes channel payload).delivers h.fresh (h.delivers id ticket there) (by simp)
  live id := (Broker.live_publish _ _ _ _).trans (h.live id)
  clean id other := by
    show (w.broker.publish channel payload).2.subscribers _ =
      (w.broker.publish channel payload).2.live _
    rw [Broker.live_publish, Broker.subscribers_publish]
    split
    · rename_i same
      rw [same]
    · exact h.clean id other

theorem Serves.unsubscribes (h : Serves pool has dirty w) (channel : String) :
    Serves pool has dirty { w with broker := w.broker.unsubscribe channel } where
  fresh := h.fresh.unsubscribe channel
  tidy := h.tidy.unsubscribe channel
  guests := h.guests
  own := h.own
  named := h.named
  delivers id ticket there :=
    (Effect.unsubscribes channel).delivers h.fresh (h.delivers id ticket there) (by simp)
  live id := (Broker.live_unsubscribe _ _ _).trans (h.live id)
  clean id other := by
    show (w.broker.unsubscribe channel).subscribers _ = (w.broker.unsubscribe channel).live _
    rw [Broker.live_unsubscribe, Broker.subscribers_unsubscribe]
    split
    · rename_i same
      rw [same]
    · exact h.clean id other

theorem Serves.forgets (h : Serves pool has (some id) w) :
    Serves pool has none { w with broker := w.broker.unsubscribe (completionChannel pool id) } := by
  have after := h.unsubscribes (completionChannel pool id)
  refine ⟨after.fresh, after.tidy, after.guests, after.own, after.named, after.delivers,
    after.live, ?_⟩
  intro id' _
  by_cases same : id' = id
  · show (w.broker.unsubscribe _).subscribers _ = (w.broker.unsubscribe _).live _
    rw [same, Broker.live_unsubscribe, Broker.subscribers_unsubscribe, if_pos rfl]
  · exact after.clean id' (by simpa using Ne.symm same)

theorem Serves.takes (h : Serves pool has dirty w) {text : String} {b : Broker}
    (taken : w.broker.take n = some (text, b)) :
    Serves pool has dirty { w with broker := b } := by
  obtain ⟨_, _, _, _, channels, next⟩ := Broker.take_eq_some taken
  constructor
  case fresh => exact h.fresh.take taken
  case tidy => exact h.tidy.take taken
  case guests =>
    intro m hm
    show m < b.next
    rw [next]
    exact h.guests m hm
  case own => exact h.own
  case named => exact h.named
  case delivers =>
    exact fun id ticket there =>
      (Effect.takes .zero taken).delivers h.fresh (h.delivers id ticket there) (by simp)
  case live => exact fun id => (Broker.live_take taken _).trans (h.live id)
  case clean =>
    intro id other
    show b.subscribers _ = b.live _
    rw [Broker.live_take taken, ← h.clean id other, Broker.subscribers, channels,
      Broker.subscribers]

theorem mem_toList_map {o : Option Ticket} :
    n ∈ (o.map Ticket.subscription).toList ↔ ∃ t, o = some t ∧ t.subscription = n := by
  cases o <;> simp [eq_comm]

theorem Serves.guestDrops (h : Serves pool has dirty w) (guest : n ∈ w.guests) :
    Serves pool has dirty { w with broker := w.broker.drop n } := by
  have other : ∀ id ticket, has id = some ticket → ticket.subscription ≠ n := by
    intro id ticket there same
    exact h.own id ticket there (same ▸ guest)
  have live : ∀ id, (w.broker.drop n).live (completionChannel pool id) =
    w.broker.live (completionChannel pool id) := by
    intro id
    rw [Broker.live_drop, h.live]
    apply List.filter_eq_self.mpr
    intro m hm
    obtain ⟨ticket, there, rfl⟩ := mem_toList_map.mp hm
    simpa using other id ticket there
  constructor
  case fresh => exact h.fresh.drop n
  case tidy => exact h.tidy.drop n
  case guests => exact h.guests
  case own => exact h.own
  case named => exact h.named
  case delivers =>
    intro id ticket there
    apply (Effect.drops n).delivers h.fresh (h.delivers id ticket there)
    simpa using (other id ticket there).symm
  case live => exact fun id => (live id).trans (h.live id)
  case clean => exact fun id clean => (h.clean id clean).trans (live id).symm

theorem Serves.guestSubscribes (h : Serves pool has dirty w) {channel : String}
    (other : ∀ id, channel ≠ completionChannel pool id) :
    Serves pool has dirty
      { w with
        broker := (w.broker.subscribe channel).2
        guests := (w.broker.subscribe channel).1 :: w.guests } := by
  have live : ∀ id, (w.broker.subscribe channel).2.live (completionChannel pool id) =
      w.broker.live (completionChannel pool id) := by
    intro id
    rw [Broker.live_subscribe h.fresh, if_neg (other id).symm]
  constructor
  case fresh => exact h.fresh.subscribe channel
  case tidy => exact h.tidy.subscribe channel
  case guests =>
    intro m hm
    show m < w.broker.next + 1
    rcases List.mem_cons.mp hm with rfl | hm
    · exact Nat.lt_succ_self _
    · exact Nat.lt_succ_of_lt (h.guests m hm)
  case own =>
    intro id ticket there guest
    rcases List.mem_cons.mp guest with new | old
    · exact absurd (h.young there) (Nat.not_lt.mpr (Nat.le_of_eq new.symm))
    · exact h.own id ticket there old
  case named => exact h.named
  case delivers =>
    exact fun id ticket there =>
      (Effect.subscribes channel).delivers h.fresh (h.delivers id ticket there) (by simp)
  case live => exact fun id => (live id).trans (h.live id)
  case clean =>
    intro id clean
    show (w.broker.subscribe channel).2.subscribers _ = (w.broker.subscribe channel).2.live _
    rw [Broker.subscribers_subscribe, if_neg (other id).symm, live]
    exact h.clean id clean

theorem Stirs.serves (stirs : Stirs pool w w') (h : Serves pool has dirty w) :
    Serves pool has dirty w' := by
  cases stirs with
  | passes d => exact h.passes d
  | visits visit apart =>
    cases visit with
    | publishes channel payload => exact h.publishes channel payload
    | unsubscribes channel => exact h.unsubscribes channel
    | takes own taken => exact h.takes taken
    | drops own => exact h.guestDrops own
    | subscribes channel =>
      apply h.guestSubscribes
      intro id same
      have listed :
        w.broker.next ∈ (w.broker.subscribe channel).2.subscribers (completionChannel pool id) := by
        rw [Broker.subscribers_subscribe, if_pos same.symm]
        exact List.mem_append_right _ (List.mem_singleton_self _)
      exact absurd (h.fresh.listed _ _ (apart id _ listed)) (Nat.lt_irrefl _)

theorem Drifts.serves (drift : Drifts pool w w') (h : Serves pool has dirty w) :
    Serves pool has dirty w' := by
  induction drift with
  | refl => exact h
  | tail _ stirs ih => exact stirs.serves ih

/-! ## What a call does to them -/

theorem Serves.apart (h : Serves pool has dirty w) {id' : String} {ticket' : Ticket}
    (there : has id = some ticket) (there' : has id' = some ticket')
    (same : ticket.subscription = ticket'.subscription) :
    id = id' := by
  obtain ⟨_, carries, -⟩ := h.delivers id ticket there
  obtain ⟨_, carries', -⟩ := h.delivers id' ticket' there'
  exact completionChannel_inj.mp (carries'.only _ (same ▸ carries.listed))

theorem Serves.subscribes (h : Serves pool has dirty w) (new : has id = none) (time : Nat) :
    Serves pool (Function.update has id (some ⟨completionChannel pool id, w.broker.next, time⟩))
      dirty
      { w with broker := (w.broker.subscribe (completionChannel pool id)).2 } := by
  have nobody : w.broker.live (completionChannel pool id) = [] := by rw [h.live id, new]; rfl
  constructor
  case fresh => exact h.fresh.subscribe _
  case tidy => exact h.tidy.subscribe _
  case guests => exact fun m hm => Nat.lt_succ_of_lt (h.guests m hm)
  case own =>
    intro id' ticket there guest
    rw [Function.update_apply] at there
    split at there
    · cases there
      exact absurd (h.guests _ guest) (Nat.lt_irrefl _)
    · exact h.own id' ticket there guest
  case named =>
    intro id' ticket there
    rw [Function.update_apply] at there
    split at there
    · rename_i same
      cases there
      rw [same]
    · exact h.named id' ticket there
  case delivers =>
    intro id' ticket there
    rw [Function.update_apply] at there
    split at there
    · rename_i same
      cases there
      rw [same]
      exact ⟨[], Broker.Carries.of_next h.fresh _, nofun⟩
    · exact (Effect.subscribes _).delivers h.fresh (h.delivers id' ticket there) (by simp)
  case live =>
    intro id'
    rw [Broker.live_subscribe h.fresh, Function.update_apply]
    by_cases same : id' = id
    · rw [same, if_pos rfl, if_pos rfl, nobody]
      rfl
    · rw [if_neg (completionChannel_inj.not.mpr same), if_neg same]
      exact h.live id'
  case clean =>
    intro id' other
    show (w.broker.subscribe _).2.subscribers _ = (w.broker.subscribe _).2.live _
    rw [Broker.subscribers_subscribe, Broker.live_subscribe h.fresh]
    split
    · rename_i same
      rw [← same, h.clean id' other]
    · exact h.clean id' other

theorem Serves.drops (h : Serves pool has none w) (there : has id = some ticket) :
    Serves pool (Function.update has id none) (some id)
    { w with broker := w.broker.drop ticket.subscription } := by
  have other : ∀ {id' ticket'}, id' ≠ id → has id' = some ticket' →
    ticket'.subscription ≠ ticket.subscription := by
    intro id' ticket' differ there' same
    exact differ (h.apart there' there same)
  have live : ∀ {id'}, id' ≠ id →
      (w.broker.drop ticket.subscription).live (completionChannel pool id') =
        w.broker.live (completionChannel pool id') := by
    intro id' differ
    rw [Broker.live_drop, h.live]
    apply List.filter_eq_self.mpr
    intro m hm
    obtain ⟨ticket', there', rfl⟩ := mem_toList_map.mp hm
    simpa using other differ there'
  have old : ∀ {id' ticket'}, Function.update has id none id' = some ticket' → id' ≠ id ∧
    has id' = some ticket' := by
    intro id' ticket' there'
    rw [Function.update_apply] at there'
    split at there'
    · cases there'
    · exact ⟨‹_›, there'⟩
  constructor
  case fresh => exact h.fresh.drop _
  case tidy => exact h.tidy.drop _
  case guests => exact h.guests
  case own => exact fun id' ticket' there' => h.own id' ticket' (old there').2
  case named => exact fun id' ticket' there' => h.named id' ticket' (old there').2
  case delivers =>
    intro id' ticket' there'
    obtain ⟨differ, there'⟩ := old there'
    apply (Effect.drops _).delivers h.fresh (h.delivers id' ticket' there')
    simpa using (other differ there').symm
  case live =>
    intro id'
    rw [Function.update_apply]
    by_cases same : id' = id
    · rw [same, if_pos rfl, Broker.live_drop, h.live, there]
      simp
    · rw [if_neg same, live same]
      exact h.live id'
  case clean =>
    intro id' differ
    have differ : id' ≠ id := by
      intro same
      exact differ (by rw [same])
    exact (h.clean id' (by simp)).trans (live differ).symm

/-! ## Mail -/

def mailOn (channel : String) (news : List (String × String)) : List String :=
  (news.reverse.filter fun p => p.1 == channel).map Prod.snd

theorem mailOn_append (channel : String) (news older : List (String × String)) :
    mailOn channel (news ++ older) = mailOn channel older ++ mailOn channel news := by
  simp [mailOn]

theorem mailOn_single (channel c payload : String) :
    mailOn channel [(c, payload)] = if c = channel then [payload] else [] := by
  by_cases same : c = channel
  · simp [mailOn, same]
  · simp [mailOn, same]

/-- The mail of a ticket is what it was, with what was published for it meanwhile behind. -/
def Spares (ticket : Ticket) (w w' : Traffic) : Prop :=
  ∃ news, w'.published = news ++ w.published ∧
    w'.broker.inbox? ticket.subscription =
      (w.broker.inbox? ticket.subscription).map fun mail => mail ++ mailOn ticket.channel news

theorem Spares.of_same (published : w'.published = w.published)
    (inbox : w'.broker.inbox? ticket.subscription = w.broker.inbox? ticket.subscription) :
    Spares ticket w w' := by
  refine ⟨[], published, ?_⟩
  rw [inbox]
  simp [mailOn]

theorem Spares.refl (ticket : Ticket) (w : Traffic) : Spares ticket w w := .of_same rfl rfl

theorem Spares.trans {w₁ : Traffic} (h : Spares ticket w w₁) (h' : Spares ticket w₁ w') :
    Spares ticket w w' := by
  obtain ⟨news, published, inbox⟩ := h
  obtain ⟨news', published', inbox'⟩ := h'
  refine ⟨news' ++ news, by rw [published', published, List.append_assoc], ?_⟩
  rw [inbox', inbox, Option.map_map, mailOn_append]
  congr 1
  funext mail
  exact List.append_assoc _ _ _

theorem Effect.spares {q : Question} (effect : w.Effect q w') (fresh : w.broker.Fresh)
    (delivers : w.Delivers ticket.subscription ticket.channel)
    (kept : q ≠ .outside (.drop ticket.subscription))
    (untaken : ∀ timeout, q ≠ .outside (.receive ticket.subscription timeout)) :
    Spares ticket w w' := by
  obtain ⟨mail, carries, -⟩ := delivers
  cases effect with
  | subscribes channel =>
    have old : ticket.subscription ≠ w.broker.next := Nat.ne_of_lt (fresh.listed _ _ carries.listed)
    have same : (w.broker.subscribe channel).2.inbox? ticket.subscription =
      w.broker.inbox? ticket.subscription := by
      rw [Broker.inbox?_subscribe, if_neg old]
    exact .of_same rfl same
  | publishes channel payload =>
    refine ⟨[(channel, payload)], rfl, ?_⟩
    have after := (carries.publish channel payload).inbox
    show (w.broker.publish channel payload).2.inbox? _ = _
    rw [after, carries.inbox, mailOn_single]
    by_cases same : channel = ticket.channel
    · simp [same]
    · simp [same]
  | drops m =>
    have other : ticket.subscription ≠ m := by
      intro same
      exact kept (by rw [same])
    have same : (w.broker.drop m).inbox? ticket.subscription =
      w.broker.inbox? ticket.subscription := by
      rw [Broker.inbox?_drop, if_neg other]
    exact .of_same rfl same
  | @takes m timeout text b taken =>
    have other : ticket.subscription ≠ m := by
      intro same
      exact untaken timeout (by rw [same])
    obtain ⟨_, _, _, others, _, _⟩ := Broker.take_eq_some taken
    exact .of_same rfl (others _ other)
  | _ => exact .of_same rfl rfl

theorem Stirs.spares (stirs : Stirs pool w w') (h : Serves pool has dirty w)
    (there : has id = some ticket) :
    Spares ticket w w' := by
  cases stirs with
  | passes d => exact .of_same rfl rfl
  | visits visit apart =>
    obtain ⟨q, w₁, effect, same, -, touched, -⟩ := visit.effect
    have stranger := h.own id ticket there
    have delivers := h.delivers id ticket there
    rw [← h.named id ticket there] at delivers
    have spared : Spares ticket w w₁ := by
      apply effect.spares h.fresh delivers
      · exact fun hq => stranger (touched _ (.inl hq))
      · exact fun timeout hq => stranger (touched _ (.inr ⟨timeout, hq⟩))
    rw [same]
    exact spared

theorem Drifts.spares (drift : Drifts pool w w') (h : Serves pool has dirty w)
    (there : has id = some ticket) :
    Spares ticket w w' := by
  induction drift with
  | refl => exact .refl ticket w
  | tail before stirs ih => exact ih.trans (stirs.spares (Drifts.serves before h) there)

end

end Traffic

end Queue

end Dispatch
