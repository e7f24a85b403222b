import Dispatch.Proofs.TicketOwners

/-!
# Tickets are never mixed up

Whatever happens, a subscription has one owner, the broker carries it as long as the queue or one of
its callers has it, and whoever was given a message is the only one who could have been.
-/

set_option autoImplicit false

namespace Dispatch

namespace Queue

namespace Traffic

/-! ## Steps of callers -/

section
variable {pool : String} {w w₁ : Traffic} {i j : Nat} {x y : Caller} {o : Owner}
  {c id text : String} {n t : Nat} {q : Question} {a : q.Answer} {rest : Program Shared Result}

theorem callers_setCaller : (w.setCaller i x).callers j = some y ↔ j = i ∧ y = x ∨ j ≠ i ∧
    w.callers j = some y := by
  by_cases h : j = i
  · subst h
    simp [setCaller, eq_comm]
  · simp [setCaller, h]

theorem callers_setCaller_self : (w.setCaller i x).callers i = some x :=
  callers_setCaller.mpr (.inl ⟨rfl, rfl⟩)

theorem past_setCaller (f : Frame w w₁) (here : w.callers i = some x) {e : Program.Event Shared}
    (hy : (w₁.setCaller i (x.answered q a rest t)).callers j = some y) (he : e ∈ y.past) :
    (∃ z, w.callers j = some z ∧ z.purpose = y.purpose ∧ e ∈ z.past) ∨
      j = i ∧ y = x.answered q a rest t ∧ e = .asked x.since q a := by
  rcases callers_setCaller.mp hy with ⟨rfl, rfl⟩ | ⟨-, hy⟩
  · rcases List.mem_cons.mp he with new | old
    · exact .inr ⟨rfl, rfl, new⟩
    · exact .inl ⟨x, here, rfl, old⟩
  · rw [f.callers] at hy
    exact .inl ⟨y, hy, rfl, he⟩

theorem heard_setCaller (f : Frame w w₁) (here : w.callers i = some x) {q' : Question}
    {a' : q'.Answer} (hy : (w₁.setCaller i (x.answered q a rest t)).callers j = some y)
    (heard : y.Heard q' a') :
    (∃ z, w.callers j = some z ∧ z.purpose = y.purpose ∧ z.Heard q' a') ∨
      j = i ∧ y = x.answered q a rest t ∧ q = q' ∧ a ≍ a' := by
  obtain ⟨since, he⟩ := heard
  rcases past_setCaller f here hy he with ⟨z, hz, same, old⟩ | ⟨rfl, rfl, new⟩
  · exact .inl ⟨z, hz, same, since, old⟩
  · obtain ⟨-, rfl, ha⟩ := Program.Event.asked.inj new
    exact .inr ⟨rfl, rfl, rfl, ha.symm⟩

theorem Frame.holds (f : Frame w w₁)
    (pending : ∀ id ticket, w₁.tickets.pending.lookup id = some ticket →
      w.tickets.pending.lookup id = some ticket)
    (held : w₁.Holds o c n) : w.Holds o c n := by
  cases o with
  | caller j => rwa [Holds, f.callers] at held
  | shelf id =>
    obtain ⟨ticket, kept, rest⟩ := held
    exact ⟨ticket, pending id ticket kept, rest⟩
  | guest => rwa [Holds, f.guests] at held

theorem Frame.stays (f : Frame w w₁) (here : w.callers i = some x)
    (pending : ∀ id ticket, w₁.tickets.pending.lookup id = some ticket →
      w.tickets.pending.lookup id = some ticket)
    (hand : ∀ c n, y.hand.held? = some (c, n) → x.hand.held? = some (c, n)) :
    Moves pool w (w₁.setCaller i y) := by
  apply Moves.stays
  intro o c n held
  rcases holds_setCaller.mp held with ⟨rfl, inHand⟩ | ⟨-, elsewhere⟩
  · exact ⟨x, here, hand c n inHand⟩
  · exact f.holds pending elsewhere

theorem subscribed_setCaller (f : Frame w w₁) (here : w.callers i = some x) :
    (w₁.setCaller i (x.answered q a rest t)).Subscribed c n ↔
      w.Subscribed c n ∨ q = .outside (.subscribe c) ∧ a ≍ (.ok n : Except QueueFailure Nat) := by
  unfold Subscribed
  constructor
  · rintro ⟨j, y, hy, subscribed⟩
    rcases heard_setCaller f here hy subscribed with ⟨z, hz, -, old⟩ | ⟨-, -, new⟩
    · exact .inl ⟨j, z, hz, old⟩
    · exact .inr new
  · rintro (⟨j, y, hy, old⟩ | new)
    · by_cases hj : j = i
      · subst hj
        obtain rfl := Option.some.inj (here.symm.trans hy)
        exact ⟨j, _, callers_setCaller_self, Caller.subscribed_answered.mpr (.inl old)⟩
      · exact ⟨j, y, callers_setCaller.mpr (.inr ⟨hj, f.callers ▸ hy⟩), old⟩
    · exact ⟨i, _, callers_setCaller_self, Caller.subscribed_answered.mpr (.inr new)⟩

theorem moves_remove
    (found : ∀ ticket, w.tickets.pending.lookup id = some ticket →
      y.hand.held? = some (ticket.channel, ticket.subscription))
    (missed : w.tickets.pending.lookup id = none → y.hand.held? = none) :
    Moves pool w (setCaller { w with tickets := w.tickets.remove id } i y) := by
  apply Moves.gives (.shelf id) (.caller i)
  · simp
  · intro o c n held
    rcases holds_setCaller.mp held with ⟨rfl, inHand⟩ | ⟨other, elsewhere⟩
    · right
      refine ⟨rfl, ?_⟩
      cases kept : w.tickets.pending.lookup id with
      | none =>
        rw [missed kept] at inHand
        cases inHand
      | some ticket =>
        rw [found ticket kept] at inHand
        obtain ⟨rfl, rfl⟩ := Prod.mk.inj (Option.some.inj inHand)
        exact ⟨ticket, kept, rfl, rfl⟩
    · left
      cases o with
      | caller j => exact ⟨by simp, other, elsewhere⟩
      | shelf id' =>
        obtain ⟨ticket', there, rest⟩ := elsewhere
        rw [State.lookup_remove] at there
        split at there
        · cases there
        · refine ⟨?_, by simp, ticket', there, rest⟩
          intro same
          cases same
          contradiction
      | guest => exact ⟨by simp, by simp, elsewhere⟩
  · intro id' c n shelf
    cases shelf
  · intro j y n text caller
    cases caller

theorem moves_insert (here : w.callers i = some x) {ticket : Ticket}
    (hand : x.hand.held? = some (ticket.channel, ticket.subscription))
    (nothing : y.hand.held? = none)
    (channel : ticket.channel = completionChannel pool id) (unused : ∀ n text, ¬x.Given n text) :
    Moves pool w (setCaller { w with tickets := w.tickets.insert id ticket } i y) := by
  apply Moves.gives (.caller i) (.shelf id)
  · simp
  · intro o c n held
    rcases holds_setCaller.mp held with ⟨rfl, inHand⟩ | ⟨other, elsewhere⟩
    · rw [nothing] at inHand
      cases inHand
    · cases o with
      | caller j => exact .inl ⟨other, by simp, elsewhere⟩
      | shelf id' =>
        obtain ⟨ticket', there, rest⟩ := elsewhere
        rw [State.lookup_insert] at there
        split at there
        · rename_i same
          obtain rfl := Option.some.inj there
          obtain ⟨rfl, rfl⟩ := rest
          exact .inr ⟨by rw [same], x, here, hand⟩
        · refine .inl ⟨other, ?_, ticket', there, rest⟩
          intro same
          cases same
          contradiction
      | guest => exact .inl ⟨other, by simp, elsewhere⟩
  · intro id' c n shelf held
    cases shelf
    obtain ⟨x', here', held⟩ := held
    obtain rfl := Option.some.inj (here.symm.trans here')
    rw [hand] at held
    obtain ⟨rfl, -⟩ := Prod.mk.inj (Option.some.inj held)
    exact channel
  · intro j y n text caller there
    cases caller
    obtain rfl := Option.some.inj (here.symm.trans there)
    exact unused n text

theorem moves_subscribe {a : (Question.outside (.subscribe c)).Answer} (h : Sound pool w)
    (here : w.callers i = some x) (answered : w.Answers x.since (.outside (.subscribe c)) a w₁)
    (hand : ∀ c' n, (x.answered _ a rest t).hand.held? = some (c', n) → c' = c ∧
      n = w.broker.next) :
    Moves pool w (w₁.setCaller i (x.answered _ a rest t)) := by
  have frame := answered.effect.frame
  obtain ⟨rfl, rfl⟩ := answered
  apply Moves.gains (.caller i)
  · simp
  · exact Nat.lt_succ_self _
  · intro o c' n held
    rcases holds_setCaller.mp held with ⟨rfl, inHand⟩ | ⟨-, elsewhere⟩
    · obtain ⟨rfl, rfl⟩ := hand c' n inHand
      refine .inr ⟨rfl, rfl, fun _ => ⟨?_, [], Broker.Carries.of_next h.fresh _, by simp⟩⟩
      exact (subscribed_setCaller frame here).mpr (.inr ⟨rfl, HEq.rfl⟩)
    · exact .inl (frame.holds (fun _ _ kept => kept) elsewhere)

theorem moves_asks (h : Sound pool w) (here : w.callers i = some x)
    (permits : x.hand.Permits pool q) (answered : w.Answers x.since q a w₁) :
    Moves pool w (w₁.setCaller i (x.answered q a rest t)) := by
  have frame := answered.effect.frame
  have hand := x.hand_answered q a rest t
  have tells := (h.callers i x here).2
  generalize hh : x.hand = hand₀ at permits
  rw [hh] at hand
  -- Removing, inserting and subscribing move a subscription; whatever else is asked leaves it or
  -- drops it.
  cases permits with
  | date | forget | forgetDue | forgetLast =>
    apply frame.stays here
    · intro id ticket kept
      rwa [answered.effect.tickets] at kept
    · intro c n held
      rw [hand] at held
      cases held
  | count | expired =>
    apply frame.stays here
    · intro id ticket kept
      rwa [answered.2] at kept
    · intro c n held
      rw [hand] at held
      cases held
  | evict id | look id =>
    obtain ⟨rfl, rfl⟩ := answered
    apply moves_remove
    · intro ticket kept
      rw [hand]
      simp [State.reply, kept, Hand.after, Hand.held?]
    · intro kept
      rw [hand]
      simp [State.reply, kept, Hand.after, Hand.held?]
  | subscribe id =>
    apply moves_subscribe h here answered
    intro c n held
    rw [hand, answered.1] at held
    obtain ⟨rfl, rfl⟩ := Prod.mk.inj (Option.some.inj held)
    exact ⟨rfl, rfl⟩
  | publish channel n payload =>
    apply frame.stays here
    · intro id ticket kept
      rwa [answered.effect.tickets] at kept
    · intro c m held
      rw [hand] at held
      rw [hh]
      cases a with
      | error failure => exact held
      | ok receivers =>
        cases receivers with
        | zero => exact held
        | succ more => exact held
  | listen id ticket timeout =>
    apply frame.stays here
    · intro id ticket kept
      rwa [answered.effect.tickets] at kept
    · intro c m held
      rw [hand] at held
      rw [hh]
      cases a <;> exact held
  | drop channel n next =>
    apply frame.stays here
    · intro id ticket kept
      rwa [answered.effect.tickets] at kept
    · intro c m held
      rw [hand] at held
      rcases tells.of_releasing hh with rfl | rfl | ⟨r, rfl⟩ <;> cases held
  | leave id n time =>
    obtain ⟨rfl, rfl⟩ := answered
    apply moves_insert here
    · rw [hh]
      rfl
    · rw [hand]
      rfl
    · rfl
    · exact tells.not_given (.inl ⟨_, _, hh⟩)
  | putBack id ticket =>
    obtain ⟨rfl, rfl⟩ := answered
    apply moves_insert here
    · rw [hh]
      rfl
    · rw [hand]
      rfl
    · exact (h.took i x id ticket here (tells.took_of_hand (.inr hh))).1
    · exact tells.not_given (.inr ⟨id, ticket, .inr hh⟩)

theorem not_dropped (h : Sound pool w) (here : w.callers i = some x)
    (permits : x.hand.Permits pool q) (answered : w.Answers x.since q a w₁)
    (held : (w₁.setCaller i (x.answered q a rest t)).Holds o c n) :
    q ≠ .outside (.drop n) := by
  intro hq
  subst hq
  generalize hh : x.hand = hand at permits
  cases permits with
  | drop channel _ next =>
    have inHand : w.Holds (.caller i) channel n := ⟨x, here, by rw [hh]; rfl⟩
    rcases holds_setCaller.mp held with ⟨rfl, kept⟩ | ⟨other, elsewhere⟩
    · rw [Caller.hand_answered, hh] at kept
      rcases (h.callers i x here).2.of_releasing hh with rfl | rfl | ⟨r, rfl⟩ <;> cases kept
    · have before : w.Holds o c n := by
        apply answered.effect.frame.holds _ elsewhere
        intro id ticket there
        rwa [answered.effect.tickets] at there
      exact other (h.apart o _ c channel n before inHand)

theorem Answers.number {since : Nat} (answered : w.Answers since q a w₁)
    (hq : q = .outside (.subscribe c))
    (ha : a ≍ (.ok n : Except QueueFailure Nat)) : n = w.broker.next ∧
      w.broker.next < w₁.broker.next := by
  subst hq
  obtain ⟨rfl, rfl⟩ := answered
  cases ha
  exact ⟨rfl, Nat.lt_succ_self _⟩

theorem listening (here : w.callers i = some x) {timeout : Duration}
    (permits : x.hand.Permits pool (.outside (.receive n timeout))) :
    ∃ c, w.Holds (.caller i) c n := by
  generalize hh : x.hand = hand at permits
  cases permits with
  | listen id ticket => exact ⟨ticket.channel, x, here, by rw [hh]; rfl⟩

theorem given_asks {timeout : Duration} (h : Sound pool w) (here : w.callers i = some x)
    (permits : x.hand.Permits pool (.outside (.receive n timeout)))
    (answered : w.Answers x.since (.outside (.receive n timeout)) (.message text) w₁) :
    (∀ o c, (w₁.setCaller i y).Holds o c n → o = .caller i) ∧ ∃ c, w.Subscribed c n ∧
      (c, text) ∈ w.published := by
  obtain ⟨c, inHand⟩ := listening here permits
  constructor
  · intro o c' held
    rcases holds_setCaller.mp held with ⟨rfl, -⟩ | ⟨-, elsewhere⟩
    · rfl
    · have before : w.Holds o c' n := by
        apply answered.effect.frame.holds _ elsewhere
        intro id ticket there
        rwa [answered.effect.tickets] at there
      exact h.apart o _ c' c n before inHand
  · obtain ⟨mail, carries, published⟩ := h.carried _ c n (by simp) inHand
    obtain ⟨b, taken, rfl⟩ := answered
    obtain ⟨waiting, rfl, -⟩ := carries.take_self taken
    exact ⟨c, h.origin _ c n (by simp) inHand, published text List.mem_cons_self⟩

theorem Sound.asks (h : Sound pool w) (here : w.callers i = some x)
    (permits : x.hand.Permits pool q) (answered : w.Answers x.since q a w₁)
    (trusted : (x.answered q a rest t).Trusted pool) :
    Sound pool (w₁.setCaller i (x.answered q a rest t)) := by
  have frame := answered.effect.frame
  have moves : Moves pool w (w₁.setCaller i (x.answered q a rest t)) :=
    moves_asks h here permits answered
  have grows : ∀ c n, w.Subscribed c n → (w₁.setCaller i (x.answered q a rest t)).Subscribed c n :=
    fun c n old => (subscribed_setCaller frame here).mpr (.inl old)
  constructor
  case fresh => exact answered.effect.fresh h.fresh
  case callers =>
    intro j y hy
    rcases callers_setCaller.mp hy with ⟨rfl, rfl⟩ | ⟨-, hy⟩
    · exact ⟨trusted, (h.callers j x here).2.answered permits⟩
    · rw [frame.callers] at hy
      exact h.callers j y hy
  case young => exact fun o c n held => moves.young h frame.next held
  case apart => exact fun o o' c c' n held held' => moves.apart h held held'
  case origin => exact fun o c n own held => moves.origin h grows own held
  case carried =>
    intro o c n own held
    apply moves.carried h _ own held
    intro delivers
    exact answered.effect.delivers h.fresh delivers (not_dropped h here permits answered held)
  case shelved => exact fun id c n held => moves.shelved h held
  case numbered =>
    intro c n subscribed
    rcases (subscribed_setCaller frame here).mp subscribed with old | ⟨hq, ha⟩
    · exact Nat.lt_of_lt_of_le (h.numbered c n old) frame.next
    · obtain ⟨rfl, later⟩ := answered.number hq ha
      exact later
  case single =>
    intro c c' n subscribed subscribed'
    rcases (subscribed_setCaller frame here).mp subscribed with old | ⟨hq, ha⟩
    · rcases (subscribed_setCaller frame here).mp subscribed' with old' | ⟨hq', ha'⟩
      · exact h.single c c' n old old'
      · obtain ⟨rfl, -⟩ := answered.number hq' ha'
        exact absurd (h.numbered c _ old) (Nat.lt_irrefl _)
    · rcases (subscribed_setCaller frame here).mp subscribed' with old' | ⟨hq', ha'⟩
      · obtain ⟨rfl, -⟩ := answered.number hq ha
        exact absurd (h.numbered c' _ old') (Nat.lt_irrefl _)
      · simpa using hq.symm.trans hq'
  case took =>
    intro j y id ticket hy took
    rcases heard_setCaller frame here hy took with ⟨z, hz, -, old⟩ | ⟨-, -, rfl, ha⟩
    · obtain ⟨channel, subscribed⟩ := h.took j z id ticket hz old
      exact ⟨channel, grows _ _ subscribed⟩
    · obtain ⟨rfl, -⟩ := answered
      have kept : w.tickets.pending.lookup id = some ticket := eq_of_heq ha
      have shelf : w.Holds (.shelf id) ticket.channel ticket.subscription :=
        ⟨ticket, kept, rfl, rfl⟩
      exact ⟨h.shelved _ _ _ shelf, grows _ _ (h.origin _ _ _ (by simp) shelf)⟩
  case given =>
    rintro j y n text hy ⟨timeout, given⟩
    rcases heard_setCaller frame here hy given with ⟨z, hz, -, old⟩ | ⟨rfl, -, rfl, ha⟩
    · obtain ⟨-, c, subscribed, published⟩ := h.given j z n text hz ⟨timeout, old⟩
      constructor
      · exact fun o c held => moves.given h hz ⟨timeout, old⟩ held
      · exact ⟨c, grows c n subscribed, frame.published _ published⟩
    · obtain rfl := eq_of_heq ha
      obtain ⟨alone, c, subscribed, published⟩ := given_asks h here permits answered
      exact ⟨alone, c, grows c n subscribed, frame.published _ published⟩
  case uncut =>
    rintro j y hy ⟨n, timeout, cut⟩
    rcases heard_setCaller frame here hy cut with ⟨z, hz, -, old⟩ | ⟨-, -, rfl, ha⟩
    · exact h.uncut j z hz ⟨n, timeout, old⟩
    · obtain ⟨c, inHand⟩ := listening here permits
      obtain ⟨mail, carries, -⟩ := h.carried _ c n (by simp) inHand
      obtain rfl := eq_of_heq ha
      exact answered.2.1 c carries.listed
  case punctual =>
    intro j y since n timeout hy late
    show since + timeout.nanos ≤ w₁.time
    rw [frame.time]
    rcases past_setCaller frame here hy late with ⟨z, hz, -, old⟩ | ⟨-, -, new⟩
    · exact h.punctual j z since n timeout hz old
    · obtain ⟨rfl, rfl, ha⟩ := Program.Event.asked.inj new
      obtain rfl := eq_of_heq ha
      exact answered.1

end

/-! ## Steps that change no past -/

def Alike (x y : Caller) : Prop := x.purpose = y.purpose ∧ x.past = y.past

section
variable {pool : String} {w w' : Traffic} {x y : Caller} {o : Owner} {c : String} {n : Nat}

theorem Alike.hand (h : Alike x y) : x.hand = y.hand := by
  unfold Caller.hand
  rw [h.1, h.2]

theorem Alike.tells (h : Alike x y) (hy : y.Tells pool) : x.Tells pool := by
  obtain ⟨purpose, rest, past, since⟩ := x
  obtain ⟨purpose', rest', past', since'⟩ := y
  obtain ⟨rfl, rfl⟩ := h
  exact hy

theorem Alike.heard (h : Alike x y) {q : Question} {a : q.Answer} (hx : x.Heard q a) :
    y.Heard q a := by
  obtain ⟨t, ht⟩ := hx
  exact ⟨t, h.2 ▸ ht⟩

/-- Nothing was asked: callers only came or went on by themselves. -/
structure Calm (pool : String) (w w' : Traffic) : Prop where
  broker : w'.broker = w.broker
  tickets : w'.tickets = w.tickets
  guests : w'.guests = w.guests
  published : w'.published = w.published
  time : w.time ≤ w'.time
  trusted : ∀ i x, w'.callers i = some x → x.Trusted pool
  known : ∀ i x, w'.callers i = some x → (∃ y, w.callers i = some y ∧ Alike x y) ∨ x.past = []
  kept : ∀ i y, w.callers i = some y → ∃ x, w'.callers i = some x ∧ Alike y x

theorem Calm.holds (m : Calm pool w w') (held : w'.Holds o c n) : w.Holds o c n := by
  cases o with
  | caller i =>
    obtain ⟨x, hx, inHand⟩ := held
    rcases m.known i x hx with ⟨y, hy, alike⟩ | new
    · exact ⟨y, hy, alike.hand ▸ inHand⟩
    · unfold Caller.hand at inHand
      rw [new] at inHand
      cases hp : x.purpose <;> rw [hp] at inHand <;> cases inHand
  | shelf id => rwa [Holds, m.tickets] at held
  | guest => rwa [Holds, m.guests] at held

theorem Calm.subscribed (m : Calm pool w w') : w'.Subscribed c n ↔ w.Subscribed c n := by
  constructor
  · rintro ⟨i, x, hx, subscribed⟩
    rcases m.known i x hx with ⟨y, hy, alike⟩ | new
    · exact ⟨i, y, hy, alike.heard subscribed⟩
    · simp [Caller.Subscribed, Caller.Heard, new] at subscribed
  · rintro ⟨i, y, hy, subscribed⟩
    obtain ⟨x, hx, alike⟩ := m.kept i y hy
    exact ⟨i, x, hx, alike.heard subscribed⟩

theorem Calm.of_heard (m : Calm pool w w') {i : Nat} (hx : w'.callers i = some x) {q : Question}
    {a : q.Answer} (heard : x.Heard q a) : ∃ y, w.callers i = some y ∧ Alike x y := by
  rcases m.known i x hx with old | new
  · exact old
  · simp [Caller.Heard, new] at heard

theorem Sound.calm (h : Sound pool w) (m : Calm pool w w') : Sound pool w' := by
  constructor
  case fresh => exact m.broker ▸ h.fresh
  case callers =>
    intro i x hx
    refine ⟨m.trusted i x hx, ?_⟩
    rcases m.known i x hx with ⟨y, hy, alike⟩ | new
    · exact alike.tells (h.callers i y hy).2
    · obtain ⟨purpose, rest, past, since⟩ := x
      obtain rfl := new
      exact Caller.tells_new purpose
  case young => exact fun o c n held => m.broker ▸ h.young o c n (m.holds held)
  case apart =>
    exact fun o o' c c' n held held' => h.apart o o' c c' n (m.holds held) (m.holds held')
  case origin => exact fun o c n own held => m.subscribed.mpr (h.origin o c n own (m.holds held))
  case carried =>
    intro o c n own held
    obtain ⟨mail, carries, published⟩ := h.carried o c n own (m.holds held)
    exact ⟨mail, m.broker ▸ carries, m.published ▸ published⟩
  case shelved => exact fun id c n held => h.shelved id c n (m.holds held)
  case numbered => exact fun c n subscribed =>
    m.broker ▸ h.numbered c n (m.subscribed.mp subscribed)
  case single =>
    exact fun c c' n first second =>
      h.single c c' n (m.subscribed.mp first) (m.subscribed.mp second)
  case took =>
    intro i x id ticket hx took
    obtain ⟨y, hy, alike⟩ := m.of_heard hx took
    obtain ⟨channel, subscribed⟩ := h.took i y id ticket hy (alike.heard took)
    exact ⟨channel, m.subscribed.mpr subscribed⟩
  case given =>
    rintro i x n text hx ⟨timeout, given⟩
    obtain ⟨y, hy, alike⟩ := m.of_heard hx given
    obtain ⟨alone, c, subscribed, published⟩ := h.given i y n text hy ⟨timeout, alike.heard given⟩
    exact ⟨fun o c held => alone o c (m.holds held), c, m.subscribed.mpr subscribed,
      m.published ▸ published⟩
  case uncut =>
    rintro i x hx ⟨n, timeout, cut⟩
    obtain ⟨y, hy, alike⟩ := m.of_heard hx cut
    exact h.uncut i y hy ⟨n, timeout, alike.heard cut⟩
  case punctual =>
    intro i x t n timeout hx late
    obtain ⟨y, hy, alike⟩ := m.of_heard hx ⟨t, late⟩
    exact Nat.le_trans (h.punctual i y t n timeout hy (alike.2 ▸ late)) m.time

end

/-! ## All steps -/

section
variable {σ : Type} {q : QueueWallet σ} {pool : String} {w w' : Traffic}

theorem Visits.effect (h : w.Visits w') :
    ∃ q w₁, w.Effect q w₁ ∧ w' = { w₁ with guests := w'.guests } ∧ w₁.tickets = w.tickets ∧
      (∀ n, q = .outside (.drop n) ∨ (∃ timeout, q = .outside (.receive n timeout)) →
        n ∈ w.guests) ∧
      ∀ n ∈ w'.guests, n ∈ w.guests ∨ n = w.broker.next ∧ w.broker.next < w'.broker.next := by
  cases h with
  | publishes channel payload =>
    exact ⟨_, _, .publishes channel payload, rfl, rfl, by simp, fun n hn => .inl hn⟩
  | subscribes channel =>
    refine ⟨_, _, .subscribes channel, rfl, rfl, by simp, ?_⟩
    intro n hn
    rcases List.mem_cons.mp hn with rfl | hn
    · exact .inr ⟨rfl, Nat.lt_succ_self _⟩
    · exact .inl hn
  | unsubscribes channel =>
      exact ⟨_, _, .unsubscribes channel, rfl, rfl, by simp, fun n hn => .inl hn⟩
  | takes own taken =>
    refine ⟨_, _, .takes .zero taken, rfl, rfl, ?_, fun n hn => .inl hn⟩
    intro n touched
    simp only [Question.outside.injEq, reduceCtorEq, OutsideQuestion.receive.injEq,
      false_or] at touched
    obtain ⟨_, rfl, -⟩ := touched
    exact own
  | drops own =>
    refine ⟨_, _, .drops _, rfl, rfl, ?_, fun n hn => .inl hn⟩
    intro n touched
    simp only [Question.outside.injEq,
      reduceCtorEq, OutsideQuestion.drop.injEq, exists_false, or_false] at touched
    exact touched ▸ own

theorem Sound.visits (h : Sound pool w) (visit : w.Visits w') : Sound pool w' := by
  obtain ⟨q, w₁, effect, same, tickets, touched, guests⟩ := visit.effect
  have frame := effect.frame
  have callers : w'.callers = w.callers := by rw [same]; exact frame.callers
  have pending : w'.tickets = w.tickets := by rw [same]; exact tickets
  have time : w'.time = w.time := by rw [same]; exact frame.time
  have broker : w'.broker = w₁.broker := by rw [same]
  have published : w'.published = w₁.published := by rw [same]
  have next : w.broker.next ≤ w'.broker.next := broker ▸ frame.next
  have subscribed : ∀ c n, w'.Subscribed c n ↔ w.Subscribed c n := by
    intro c n
    rw [Subscribed, callers, Subscribed]
  have old : ∀ o c n, o ≠ .guest → w'.Holds o c n → w.Holds o c n := by
    intro o c n own held
    cases o with
    | caller i => rwa [Holds, callers] at held
    | shelf id => rwa [Holds, pending] at held
    | guest => exact absurd rfl own
  have moves : Moves pool w w' := by
    by_cases later : w.broker.next < w'.broker.next
    · apply Moves.gains .guest (by simp) later
      intro o c n held
      by_cases own : o = .guest
      · subst own
        rcases guests n held with before | ⟨rfl, -⟩
        · exact .inl before
        · exact .inr ⟨rfl, rfl, fun own => absurd rfl own⟩
      · exact .inl (old o c n own held)
    · apply Moves.stays
      intro o c n held
      by_cases own : o = .guest
      · subst own
        rcases guests n held with before | ⟨-, more⟩
        · exact before
        · exact absurd more later
      · exact old o c n own held
  constructor
  case fresh => exact broker ▸ effect.fresh h.fresh
  case callers => exact callers ▸ h.callers
  case young => exact fun o c n held => moves.young h next held
  case apart => exact fun o o' c c' n held held' => moves.apart h held held'
  case origin =>
    exact fun o c n own held => moves.origin h (fun c n => (subscribed c n).mpr) own held
  case carried =>
    intro o c n own held
    apply moves.carried h _ own held
    intro delivers
    have kept : q ≠ .outside (.drop n) := by
      intro hq
      exact own (h.apart o .guest c c n (old o c n own held) (touched n (.inl hq)))
    obtain ⟨mail, carries, known⟩ := effect.delivers h.fresh delivers kept
    exact ⟨mail, broker ▸ carries, published ▸ known⟩
  case shelved => exact fun id c n held => moves.shelved h held
  case numbered => exact fun c n hn =>
    Nat.lt_of_lt_of_le (h.numbered c n ((subscribed c n).mp hn)) next
  case single =>
    exact fun c c' n hc hc' => h.single c c' n ((subscribed c n).mp hc) ((subscribed c' n).mp hc')
  case took =>
    intro i x id ticket hx took
    rw [callers] at hx
    obtain ⟨channel, hs⟩ := h.took i x id ticket hx took
    exact ⟨channel, (subscribed _ _).mpr hs⟩
  case given =>
    intro i x n text hx given
    rw [callers] at hx
    obtain ⟨-, c, hs, known⟩ := h.given i x n text hx given
    exact ⟨fun o c held => moves.given h hx given held, c, (subscribed c n).mpr hs,
      published ▸ frame.published _ known⟩
  case uncut => exact callers ▸ h.uncut
  case punctual => exact callers ▸ time ▸ h.punctual

theorem calm_passes (h : Sound pool w) (d : Nat) : Calm pool w { w with time := w.time + d } where
  broker := rfl
  tickets := rfl
  guests := rfl
  published := rfl
  time := Nat.le_add_right _ _
  trusted i x hx := (h.callers i x hx).1
  known _ x hx := .inl ⟨x, hx, rfl, rfl⟩
  kept _ y hy := ⟨y, hy, rfl, rfl⟩

theorem calm_calls (h : Sound pool w) {i : Nat} (new : w.callers i = none) {x : Caller}
    (trusted : x.Trusted pool) (past : x.past = []) : Calm pool w (w.setCaller i x) where
  broker := rfl
  tickets := rfl
  guests := rfl
  published := rfl
  time := Nat.le_refl _
  trusted j y hy := by
    rcases callers_setCaller.mp hy with ⟨-, rfl⟩ | ⟨-, hy⟩
    · exact trusted
    · exact (h.callers j y hy).1
  known j y hy := by
    rcases callers_setCaller.mp hy with ⟨-, rfl⟩ | ⟨-, hy⟩
    · exact .inr past
    · exact .inl ⟨y, hy, rfl, rfl⟩
  kept j y hy := by
    refine ⟨y, callers_setCaller.mpr (.inr ⟨?_, hy⟩), rfl, rfl⟩
    intro hj
    subst hj
    rw [new] at hy
    cases hy

theorem calm_resumes (h : Sound pool w) {i : Nat} {x : Caller} (here : w.callers i = some x)
    {y : Caller} (trusted : y.Trusted pool)
    (alike : Alike y x) : Calm pool w (w.setCaller i y) where
  broker := rfl
  tickets := rfl
  guests := rfl
  published := rfl
  time := Nat.le_refl _
  trusted j z hz := by
    rcases callers_setCaller.mp hz with ⟨-, rfl⟩ | ⟨-, hz⟩
    · exact trusted
    · exact (h.callers j z hz).1
  known j z hz := by
    rcases callers_setCaller.mp hz with ⟨rfl, rfl⟩ | ⟨-, hz⟩
    · exact .inl ⟨x, here, alike⟩
    · exact .inl ⟨z, hz, rfl, rfl⟩
  kept j z hz := by
    by_cases hj : j = i
    · subst hj
      obtain rfl := Option.some.inj (here.symm.trans hz)
      exact ⟨y, callers_setCaller_self, alike.1.symm, alike.2.symm⟩
    · exact ⟨z, callers_setCaller.mpr (.inr ⟨hj, hz⟩), rfl, rfl⟩

/-- What can happen, in the three ways that differ for tickets. -/
inductive Change (pool : String) (w : Traffic) : Traffic → Prop where
  | calm {w' : Traffic} (m : Calm pool w w') : Change pool w w'
  | visits {w' : Traffic} (visit : w.Visits w') : Change pool w w'
  | asked {i t : Nat} {x : Caller} {q : Question} {a : q.Answer} {rest : Program Shared Result}
      {w₁ : Traffic}
      (here : w.callers i = some x) (permits : x.hand.Permits pool q)
        (answered : w.Answers x.since q a w₁)
      (trusted : (x.answered q a rest t).Trusted pool) :
        Change pool w (w₁.setCaller i (x.answered q a rest t))

theorem Acts.change {i : Nat} (act : w.Acts i w') (h : Sound pool w) : Change pool w w' := by
  cases act with
  | looks here stands =>
    have trusted := (h.callers i _ here).1
    rw [Caller.Trusted, stands] at trusted
    exact .calm (calm_resumes h here (trusted _) ⟨rfl, rfl⟩)
  | wakes here stands slept =>
    have trusted := (h.callers i _ here).1
    rw [Caller.Trusted, stands] at trusted
    exact trusted.elim
  | asks here stands answered =>
    have trusted := (h.callers i _ here).1
    rw [Caller.Trusted, stands] at trusted
    exact .asked here trusted.1 answered (trusted.2 _)

theorem Happens.change (step : Happens q w w') (h : Sound q.pool w) : Change q.pool w w' := by
  cases step with
  | passes d => exact .calm (calm_passes h d)
  | calls p new => exact .calm (calm_calls h new (q.orderly_program p) rfl)
  | acts act => exact act.change h
  | visits visit => exact .visits visit

theorem Sound.change (h : Sound pool w) (change : Change pool w w') : Sound pool w' := by
  cases change with
  | calm m => exact h.calm m
  | visits visit => exact h.visits visit
  | asked here permits answered trusted => exact h.asks here permits answered trusted

theorem Sound.acts {i : Nat} (h : Sound pool w) (act : w.Acts i w') : Sound pool w' :=
  h.change (act.change h)

theorem Sound.happens (h : Sound q.pool w) (step : Happens q w w') : Sound q.pool w' :=
  h.change (step.change h)

theorem sound_start : Sound pool start := by
  have none : ∀ o c n, ¬start.Holds o c n := by
    intro o c n held
    cases o <;> simp [Holds, start, State.start] at held
  constructor
  case fresh => exact Broker.fresh_empty
  case young => exact fun o c n held => absurd held (none o c n)
  case apart => exact fun o o' c c' n held _ => absurd held (none o c n)
  case origin => exact fun o c n _ held => absurd held (none o c n)
  case carried => exact fun o c n _ held => absurd held (none o c n)
  case shelved => exact fun id c n held => absurd held (none _ c n)
  case numbered => simp [Subscribed, start]
  case single => simp [Subscribed, start]
  case callers | took | given | uncut | punctual => simp [start]

theorem Sound.runs (h : Sound q.pool w) (runs : Runs q w w') : Sound q.pool w' := by
  induction runs with
  | refl => exact h
  | tail _ step ih => exact ih.happens step

end

end Traffic

end Queue

end Dispatch
