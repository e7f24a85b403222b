import Dispatch.Proofs.BrokerMail
import Dispatch.Proofs.TicketHands

/-!
# Who keeps a ticket

The subscription of a ticket belongs to one owner at a time: to the caller who has it in hand, or to
the queue, which keeps it under the id of the ticket. Steps hand it on, or drop it. As long as
somebody keeps it, the broker carries it on the channel of its id, and what comes for it is what was
published there.
-/

set_option autoImplicit false

namespace Dispatch

namespace Queue

theorem completionChannel_inj {pool id id' : String} :
    completionChannel pool id = completionChannel pool id' ↔ id = id' := by
  constructor
  · intro h
    simpa [completionChannel, String.ext_iff] using h
  · intro h
    rw [h]

theorem completionChannel_ne (pool id : String) : completionChannel pool id ≠ pool := by
  intro h
  have lengths := congrArg String.length h
  have mark : ":done:".length = 6 := rfl
  simp only [completionChannel, String.length_append, mark] at lengths
  omega

namespace State

variable {s : State} {id id' : String} {ticket : Ticket}

theorem lookup_remove :
    (s.remove id).pending.lookup id' = if id' = id then none else s.pending.lookup id' := by
  by_cases h : id' = id
  · simp [remove, h, lookup_filter_self]
  · simp [remove, h, lookup_filter_of_ne h]

theorem lookup_insert : (s.insert id ticket).pending.lookup id' =
    if id' = id then some ticket else s.pending.lookup id' := by
  by_cases h : id' = id
  · simp [insert, h]
  · rw [insert, lookup_cons_of_ne h, lookup_remove, if_neg h, if_neg h]

end State

/-- Who may have a subscription. -/
inductive Owner where
  | caller (i : Nat)
  | shelf (id : String)
  | guest

def Hand.held? : Hand → Option (String × Nat)
  | .drafted c n | .posted c n | .releasing c n _ => some (c, n)
  | .holding _ ticket | .late _ ticket => some (ticket.channel, ticket.subscription)
  | _ => none

namespace Traffic

def Holds (w : Traffic) : Owner → String → Nat → Prop
  | .caller i, c, n => ∃ x, w.callers i = some x ∧ x.hand.held? = some (c, n)
  | .shelf id, c, n => ∃ ticket, w.tickets.pending.lookup id = some ticket ∧
      ticket.channel = c ∧ ticket.subscription = n
  | .guest, _, n => n ∈ w.guests

def Subscribed (w : Traffic) (c : String) (n : Nat) : Prop := ∃ i x, w.callers i = some x ∧
    x.Subscribed c n

section
variable {w w' : Traffic} {i : Nat} {x : Caller} {o : Owner} {c id : String} {n : Nat}
  {ticket : Ticket}

theorem holds_setCaller :
    (w.setCaller i x).Holds o c n ↔
      o = .caller i ∧ x.hand.held? = some (c, n) ∨ o ≠ .caller i ∧ w.Holds o c n := by
  cases o with
  | caller j =>
    by_cases h : j = i
    · subst h
      simp [Holds, setCaller]
    · simp [Holds, setCaller, h]
  | shelf id => simp [Holds, setCaller]
  | guest => simp [Holds, setCaller]

end

/-! ## What an answer changes -/

/-- What is left when a question has been answered, whatever the answer was. -/
inductive Effect (w : Traffic) : Question → Traffic → Prop where
  | registers (r : Register) : Effect w (.register r) { w with tickets := (w.tickets.reply r).2 }
  | subscribes (channel : String) :
      Effect w (.outside (.subscribe channel)) { w with broker := (w.broker.subscribe channel).2 }
  | publishes (channel payload : String) :
      Effect w (.outside (.publish channel payload)) (w.publish channel payload)
  | unsubscribes (channel : String) :
      Effect w (.outside (.unsubscribe channel)) { w with broker := w.broker.unsubscribe channel }
  | drops (n : Nat) : Effect w (.outside (.drop n)) { w with broker := w.broker.drop n }
  | takes {n : Nat} (timeout : Duration) {text : String} {b : Broker}
      (taken : w.broker.take n = some (text, b)) :
      Effect w (.outside (.receive n timeout)) { w with broker := b }
  | nothing {q : Question} (keeps : ∀ n, q ≠ .outside (.drop n)) : Effect w q w

section
variable {w w' : Traffic} {since : Nat} {q : Question} {a : q.Answer} {c : String} {n : Nat}

theorem Answers.effect (h : w.Answers since q a w') : w.Effect q w' := by
  cases q with
  | register r =>
    obtain ⟨-, rfl⟩ := h
    exact .registers r
  | outside q =>
    cases q with
    | subscribe channel =>
      obtain ⟨-, rfl⟩ := h
      exact .subscribes channel
    | publish channel payload =>
      obtain ⟨-, rfl⟩ := h
      exact .publishes channel payload
    | unsubscribe channel =>
      obtain ⟨-, rfl⟩ := h
      exact .unsubscribes channel
    | drop n =>
      obtain rfl := h
      exact .drops n
    | receive n timeout =>
      cases a with
      | message text =>
        obtain ⟨b, taken, rfl⟩ := h
        exact .takes timeout taken
      | late =>
        obtain ⟨-, -, rfl⟩ := h
        exact .nothing (by simp)
      | closed =>
        obtain ⟨-, -, rfl⟩ := h
        exact .nothing (by simp)
    | _ =>
      obtain rfl := h
      exact .nothing (by simp)

structure Frame (w w' : Traffic) : Prop where
  callers : w'.callers = w.callers
  guests : w'.guests = w.guests
  time : w'.time = w.time
  next : w.broker.next ≤ w'.broker.next
  published : ∀ p ∈ w.published, p ∈ w'.published

theorem Effect.frame (h : w.Effect q w') : Frame w w' := by
  cases h with
  | subscribes channel => exact ⟨rfl, rfl, rfl, Nat.le_succ _, fun _ hp => hp⟩
  | publishes channel payload =>
      exact ⟨rfl, rfl, rfl, Nat.le_refl _, fun _ hp => List.mem_cons_of_mem _ hp⟩
  | takes timeout taken =>
    obtain ⟨_, _, _, _, _, next⟩ := Broker.take_eq_some taken
    exact ⟨rfl, rfl, rfl, Nat.le_of_eq next.symm, fun _ hp => hp⟩
  | _ => exact ⟨rfl, rfl, rfl, Nat.le_refl _, fun _ hp => hp⟩

theorem Effect.fresh (h : w.Effect q w') (hb : w.broker.Fresh) : w'.broker.Fresh := by
  cases h with
  | subscribes channel => exact hb.subscribe channel
  | publishes channel payload => exact hb.publish channel payload
  | unsubscribes channel => exact hb.unsubscribe channel
  | drops n => exact hb.drop n
  | takes timeout taken => exact hb.take taken
  | _ => exact hb

theorem Effect.tickets {q : OutsideQuestion} (h : w.Effect (.outside q) w') :
    w'.tickets = w.tickets := by
  cases h <;> rfl

def Delivers (w : Traffic) (n : Nat) (c : String) : Prop :=
  ∃ mail, w.broker.Carries n c mail ∧ ∀ text ∈ mail, (c, text) ∈ w.published

theorem Effect.delivers (h : w.Effect q w') (hb : w.broker.Fresh) (hd : w.Delivers n c)
    (kept : q ≠ .outside (.drop n)) : w'.Delivers n c := by
  obtain ⟨mail, carries, published⟩ := hd
  cases h with
  | subscribes channel => exact ⟨mail, carries.subscribe hb channel, published⟩
  | publishes channel payload =>
    refine ⟨_, carries.publish channel payload, ?_⟩
    intro text ht
    by_cases hc : channel = c
    · rw [if_pos hc] at ht
      rcases List.mem_append.mp ht with ht | ht
      · exact List.mem_cons_of_mem _ (published text ht)
      · rw [List.mem_singleton.mp ht, hc]
        exact List.mem_cons_self
    · rw [if_neg hc] at ht
      exact List.mem_cons_of_mem _ (published text ht)
  | unsubscribes channel => exact ⟨mail, carries.unsubscribe channel, published⟩
  | drops m =>
    have other : n ≠ m := by
      intro hm
      exact kept (by rw [hm])
    exact ⟨mail, carries.drop other, published⟩
  | @takes m timeout text b taken =>
    by_cases hm : n = m
    · subst hm
      obtain ⟨waiting, rfl, after⟩ := carries.take_self taken
      exact ⟨waiting, after, fun text ht => published text (List.mem_cons_of_mem _ ht)⟩
    · exact ⟨mail, carries.take taken hm, published⟩
  | _ => exact ⟨mail, carries, published⟩

end

/-! ## Ownership -/

/-- What is known of every traffic that starts with nothing. -/
structure Sound (pool : String) (w : Traffic) : Prop where
  fresh : w.broker.Fresh
  callers : ∀ i x, w.callers i = some x → x.Trusted pool ∧ x.Tells pool
  young : ∀ o c n, w.Holds o c n → n < w.broker.next
  apart : ∀ o o' c c' n, w.Holds o c n → w.Holds o' c' n → o = o'
  origin : ∀ o c n, o ≠ .guest → w.Holds o c n → w.Subscribed c n
  carried : ∀ o c n, o ≠ .guest → w.Holds o c n → w.Delivers n c
  shelved : ∀ id c n, w.Holds (.shelf id) c n → c = completionChannel pool id
  numbered : ∀ c n, w.Subscribed c n → n < w.broker.next
  single : ∀ c c' n, w.Subscribed c n → w.Subscribed c' n → c = c'
  took : ∀ i x id ticket, w.callers i = some x → x.Took id ticket →
    ticket.channel = completionChannel pool id ∧ w.Subscribed ticket.channel ticket.subscription
  given : ∀ i x n text, w.callers i = some x → x.Given n text →
    (∀ o c, w.Holds o c n → o = .caller i) ∧ ∃ c, w.Subscribed c n ∧ (c, text) ∈ w.published
  uncut : ∀ i x, w.callers i = some x → ¬x.Cut
  punctual : ∀ i x t n timeout, w.callers i = some x →
    .asked t (.outside (.receive n timeout)) .late ∈ x.past → t + timeout.nanos ≤ w.time

/-- How the owners of subscriptions change in a step. -/
inductive Moves (pool : String) (w w' : Traffic) : Prop where
  | stays (kept : ∀ o c n, w'.Holds o c n → w.Holds o c n)
  | gains (o₀ : Owner) (noShelf : ∀ id, o₀ ≠ .shelf id) (later : w.broker.next < w'.broker.next)
      (kept : ∀ o c n, w'.Holds o c n → w.Holds o c n ∨
        o = o₀ ∧ n = w.broker.next ∧ (o ≠ .guest → w'.Subscribed c n ∧ w'.Delivers n c))
  | gives (o₁ o₂ : Owner) (own : o₁ ≠ .guest)
      (kept : ∀ o c n, w'.Holds o c n → o ≠ o₁ ∧ o ≠ o₂ ∧ w.Holds o c n ∨ o = o₂ ∧ w.Holds o₁ c n)
      (named : ∀ id c n, o₂ = .shelf id → w.Holds o₁ c n → c = completionChannel pool id)
      (unused : ∀ i x n text, o₁ = .caller i → w.callers i = some x → ¬x.Given n text)

section
variable {pool : String} {w w' : Traffic} {i : Nat} {x : Caller} {o o' : Owner}
  {c c' id text : String} {n : Nat}

theorem Moves.young (m : Moves pool w w') (h : Sound pool w) (next : w.broker.next ≤ w'.broker.next)
    (held : w'.Holds o c n) : n < w'.broker.next := by
  cases m with
  | stays kept =>
    have := h.young o c n (kept o c n held)
    omega
  | gains o₀ _ later kept =>
    rcases kept o c n held with held | ⟨-, rfl, -⟩
    · have := h.young o c n held
      omega
    · exact later
  | gives o₁ o₂ own kept =>
    rcases kept o c n held with ⟨-, -, held⟩ | ⟨-, held⟩
    · have := h.young o c n held
      omega
    · have := h.young o₁ c n held
      omega

theorem Moves.apart (m : Moves pool w w') (h : Sound pool w) (held : w'.Holds o c n)
    (held' : w'.Holds o' c' n) :
    o = o' := by
  cases m with
  | stays kept => exact h.apart o o' c c' n (kept o c n held) (kept o' c' n held')
  | gains o₀ _ later kept =>
    rcases kept o c n held with held | ⟨rfl, rfl, -⟩
    · rcases kept o' c' n held' with held' | ⟨-, rfl, -⟩
      · exact h.apart o o' c c' n held held'
      · exact absurd (h.young o c _ held) (Nat.lt_irrefl _)
    · rcases kept o' c' _ held' with held' | ⟨rfl, -, -⟩
      · exact absurd (h.young o' c' _ held') (Nat.lt_irrefl _)
      · rfl
  | gives o₁ o₂ own kept =>
    rcases kept o c n held with ⟨first, -, held⟩ | ⟨rfl, held⟩
    · rcases kept o' c' n held' with ⟨-, -, held'⟩ | ⟨-, held'⟩
      · exact h.apart o o' c c' n held held'
      · exact absurd (h.apart o o₁ c c' n held held') first
    · rcases kept o' c' n held' with ⟨first, -, held'⟩ | ⟨rfl, -⟩
      · exact absurd (h.apart o' o₁ c' c n held' held) first
      · rfl

theorem Moves.origin (m : Moves pool w w') (h : Sound pool w)
    (grows : ∀ c n, w.Subscribed c n → w'.Subscribed c n) (own : o ≠ .guest)
    (held : w'.Holds o c n) :
    w'.Subscribed c n := by
  cases m with
  | stays kept => exact grows c n (h.origin o c n own (kept o c n held))
  | gains o₀ _ later kept =>
    rcases kept o c n held with held | ⟨-, -, new⟩
    · exact grows c n (h.origin o c n own held)
    · exact (new own).1
  | gives o₁ o₂ own₁ kept =>
    rcases kept o c n held with ⟨-, -, held⟩ | ⟨-, held⟩
    · exact grows c n (h.origin o c n own held)
    · exact grows c n (h.origin o₁ c n own₁ held)

theorem Moves.carried (m : Moves pool w w') (h : Sound pool w)
    (delivers : w.Delivers n c → w'.Delivers n c) (own : o ≠ .guest)
    (held : w'.Holds o c n) : w'.Delivers n c := by
  cases m with
  | stays kept => exact delivers (h.carried o c n own (kept o c n held))
  | gains o₀ _ later kept =>
    rcases kept o c n held with held | ⟨-, -, new⟩
    · exact delivers (h.carried o c n own held)
    · exact (new own).2
  | gives o₁ o₂ own₁ kept =>
    rcases kept o c n held with ⟨-, -, held⟩ | ⟨-, held⟩
    · exact delivers (h.carried o c n own held)
    · exact delivers (h.carried o₁ c n own₁ held)

theorem Moves.shelved (m : Moves pool w w') (h : Sound pool w) (held : w'.Holds (.shelf id) c n) :
    c = completionChannel pool id := by
  cases m with
  | stays kept => exact h.shelved id c n (kept _ c n held)
  | gains o₀ noShelf later kept =>
    rcases kept _ c n held with held | ⟨shelf, -, -⟩
    · exact h.shelved id c n held
    · exact absurd shelf.symm (noShelf id)
  | gives o₁ o₂ own₁ kept named =>
    rcases kept _ c n held with ⟨-, -, held⟩ | ⟨shelf, held⟩
    · exact h.shelved id c n held
    · exact named id c n shelf.symm held

theorem Moves.given (m : Moves pool w w') (h : Sound pool w) (here : w.callers i = some x)
    (given : x.Given n text) (held : w'.Holds o c n) : o = .caller i := by
  obtain ⟨alone, _, subscribed, -⟩ := h.given i x n text here given
  cases m with
  | stays kept => exact alone o c (kept o c n held)
  | gains o₀ noShelf later kept =>
    rcases kept o c n held with held | ⟨-, rfl, -⟩
    · exact alone o c held
    · exact absurd (h.numbered _ _ subscribed) (Nat.lt_irrefl _)
  | gives o₁ o₂ own₁ kept named unused =>
    rcases kept o c n held with ⟨-, -, held⟩ | ⟨-, held⟩
    · exact alone o c held
    · exact absurd given (unused i x n text (alone o₁ c held) here)

end

end Traffic

end Queue

end Dispatch
