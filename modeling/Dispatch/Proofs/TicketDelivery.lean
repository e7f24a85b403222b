import Dispatch.Proofs.TicketCourse

/-!
# Where a message goes

A message that was published for a ticket waits with it until a wait is given it, and no wait ends
late in the meantime. A wait for which a message is there can come to its end by itself.
-/

set_option autoImplicit false

namespace Dispatch

namespace Queue

def Hand.Expects : Hand → Prop
  | .looking _ | .holding _ _ => True
  | _ => False

namespace Traffic

variable {σ : Type} {wallet : QueueWallet σ} {pool id c text text' : String} {w w' w₁ : Traffic}
  {i j k n t : Nat} {x y : Caller} {o : Owner} {q : Question} {a : q.Answer}
  {rest : Program Shared Result} {timeout : Duration} {ticket : Ticket} {r r' : Result}

/-! ## Over whole runs -/

theorem Runs.tracked (runs : Runs wallet start w) (grows : Grows w w')
    (distinct : Distinct wallet.pool w') (h' : Sound wallet.pool w')
    (posted : w.PostedBy wallet.pool id i n) : w.Tracked id n := by
  induction runs with
  | refl =>
    obtain ⟨x, hx, -⟩ := posted
    cases hx
  | @tail u v before step ih =>
    have h : Sound wallet.pool u := sound_start.runs before
    apply (step.change h).tracked h step.grows _ _ posted
    · intro m subscribed
      obtain ⟨x, hx, named, -⟩ := posted
      obtain ⟨y, hy, -, heard⟩ := grows.heard hx
      obtain ⟨j, z, hz, subscribed⟩ := subscribed
      obtain ⟨z', hz', -, heard'⟩ := (step.grows.trans grows).heard hz
      exact h'.sole distinct ⟨j, z', hz', heard' _ _ subscribed⟩ ⟨i, y, hy, heard _ _ named⟩
    · exact fun old => ih (step.grows.trans grows) old

theorem Sound.keeps_of_holding (h : Sound pool w) (distinct : Distinct pool w)
    (subscribed : w.Subscribed (completionChannel pool id) n) (here : w.callers j = some x)
    (hh : x.hand = .holding id ticket) : w.Keeps n (.caller j) ∧ ticket.subscription = n := by
  obtain ⟨channel, origin⟩ :=
    h.took j x id ticket here ((h.callers j x here).2.took_of_hand (.inl hh))
  rw [channel] at origin
  obtain rfl := h.sole distinct origin subscribed
  exact ⟨⟨x, here, by rw [hh]; rfl⟩, rfl⟩

theorem Change.late (change : Change pool w w') (h : Sound pool w) (hy : w'.callers j = some y)
    (purpose : y.purpose = .wait id timeout) (late : y.Late) :
    (∃ x, w.callers j = some x ∧ x.purpose = y.purpose ∧ x.Late) ∨
      ∃ x ticket, w.callers j = some x ∧ x.hand = .holding id ticket ∧
        w.broker.take ticket.subscription = none := by
  obtain ⟨m, d, heard⟩ := late
  rcases change.heard hy heard with ⟨x, hx, same, old⟩ | ⟨x, w₁, hx, same, permits, answered, -⟩
  · exact .inl ⟨x, hx, same, m, d, old⟩
  · right
    have tells := (h.callers j x hx).2
    generalize hh : x.hand = hand at permits
    cases permits with
    | listen id' ticket =>
      obtain rfl := (tells.wait (same.trans purpose)).2.2 id' ticket (tells.took_of_hand (.inl hh))
      exact ⟨x, ticket, hx, hh, answered.2.1⟩

theorem Change.no_late (change : Change pool w w') (h : Sound pool w) (distinct : Distinct pool w)
    (subscribed : w.Subscribed (completionChannel pool id) n)
    (delivery : w.Waiting n text ∨ w.Served n text)
    (hy : w'.callers j = some y) (purpose : y.purpose = .wait id timeout) (late : y.Late) :
    ∃ x, w.callers j = some x ∧ x.purpose = y.purpose ∧ x.Late := by
  rcases change.late h hy purpose late with old | ⟨x, ticket, here, hh, untaken⟩
  · exact old
  · obtain ⟨keeps, rfl⟩ := h.keeps_of_holding distinct subscribed here hh
    rcases delivery with ⟨-, ⟨more, first⟩, -⟩ | served
    · obtain ⟨b, taken⟩ := Broker.exists_take first
      rw [untaken] at taken
      cases taken
    · exact absurd keeps (served.not_kept h)

theorem Change.took (change : Change pool w w') (hy : w'.callers j = some y)
    (took : y.Took id ticket) :
    (∃ x, w.callers j = some x ∧ x.Took id ticket) ∨ w.tickets.pending.lookup id = some ticket := by
  rcases change.heard hy took with ⟨x, hx, -, old⟩ | ⟨x, w₁, -, -, -, answered, -⟩
  · exact .inl ⟨x, hx, old⟩
  · exact .inr answered.1.symm

/-- From when a message was published on: it waits or was given, and no wait ended late since. -/
structure Follows (id : String) (n : Nat) (text : String) (w₁ w : Traffic) : Prop where
  delivery : w.Waiting n text ∨ w.Served n text
  punctual : ∀ j y timeout, w.callers j = some y → y.purpose = .wait id timeout → y.Late →
    ∃ x, w₁.callers j = some x ∧ x.Late

theorem Runs.follows (runs : Runs wallet w₁ w) (h : Sound wallet.pool w₁)
    (waits : w₁.Waiting n text) (subscribed : w₁.Subscribed (completionChannel wallet.pool id) n)
    (grows : Grows w w') (distinct : Distinct wallet.pool w') (unevicted : ¬w'.Evicted id) :
    Follows id n text w₁ w := by
  -- Each step keeps it. That ids are distinct and the ticket is not evicted is known of the end,
  -- and
  -- goes back to the step because nothing that was heard is forgotten.
  induction runs with
  | refl => exact ⟨.inl waits, fun j y timeout hy _ late => ⟨y, hy, late⟩⟩
  | @tail u v before step ih =>
    have rest := step.grows.trans grows
    obtain ⟨delivery, punctual⟩ := ih rest
    have sound : Sound wallet.pool u := h.runs before
    have named : u.Subscribed (completionChannel wallet.pool id) n := by
      obtain ⟨i, x, hx, heard⟩ := subscribed
      obtain ⟨y, hy, -, more⟩ := (Runs.grows before).heard hx
      exact ⟨i, y, hy, more _ _ heard⟩
    have apart : Distinct wallet.pool u := distinct.before rest
    have change := step.change sound
    constructor
    · rcases delivery with waits | served
      · apply change.waiting sound named _ _ waits
        · exact fun m other => sound.sole apart other named
        · exact fun evicted => unevicted (evicted.later grows)
      · exact .inr (change.served sound step.grows served)
    · intro j y timeout hy purpose late
      obtain ⟨x, hx, same, late⟩ := change.no_late sound apart named delivery hy purpose late
      exact punctual j x timeout hx (same.trans purpose) late

/-! ## Ends -/

def Ended (w : Traffic) (i : Nat) (r : Result) : Prop := ∃ x, w.callers i = some x ∧
    x.rest = .done r

def EndsAlone (w : Traffic) (i : Nat) (r : Result) : Prop :=
  ∃ w', Relation.ReflTransGen (Acts i) w w' ∧ w'.Ended i r

def Ready (w : Traffic) (x : Caller) : Prop :=
  ∀ id ticket, x.hand = .holding id ticket ∨ x.hand = .looking id ∧
    w.tickets.pending.lookup id = some ticket →
    ∃ text more, w.broker.inbox? ticket.subscription = some (text :: more)

theorem Ready.of_not_expects (hand : ¬x.hand.Expects) : w.Ready x := by
  rintro id ticket (hh | ⟨hh, -⟩) <;> rw [hh] at hand <;> exact absurd trivial hand

/-- Whatever a caller asks, it can be answered, if it does not wait for a message in vain. -/
theorem Sound.answerable (h : Sound pool w) (here : w.callers i = some x)
    (permits : x.hand.Permits pool q) (ready : w.Ready x) :
    ∃ a w₁, w.Answers x.since q a w₁ ∧ ∀ rest t, Ready (w₁.setCaller i (x.answered q a rest t))
    (x.answered q a rest t) := by
  have idle : ∀ {a : q.Answer} {w₁ : Traffic}, ¬(x.hand.after q a).Expects → ∀ rest t,
      Ready (w₁.setCaller i (x.answered q a rest t)) (x.answered q a rest t) :=
    fun hand _ _ => .of_not_expects hand
  have tells := (h.callers i x here).2
  generalize hh : x.hand = hand at permits
  rw [hh] at idle
  cases permits with
  | date => exact ⟨(0 : Nat), w, rfl, idle id⟩
  | count | expired | forget | forgetDue | forgetLast | subscribe | leave | putBack =>
    exact ⟨_, _, ⟨rfl, rfl⟩, idle id⟩
  | evict id' =>
    refine ⟨_, _, ⟨rfl, rfl⟩, idle ?_⟩
    cases found :
      w.tickets.pending.lookup id' <;> simp [State.reply, found, Hand.after, Hand.Expects]
  | publish channel n payload =>
    refine ⟨_, _, ⟨rfl, rfl⟩, idle ?_⟩
    cases (w.broker.publish pool payload).1 <;> exact id
  | drop c n next =>
    refine ⟨(), _, rfl, idle ?_⟩
    rcases tells.of_releasing hh with rfl | rfl | ⟨r, rfl⟩ <;> exact id
  | listen id' ticket timeout =>
    obtain ⟨text, more, mail⟩ := ready id' ticket (.inl hh)
    obtain ⟨b, taken⟩ := Broker.exists_take mail
    exact ⟨.message text, _, ⟨b, taken, rfl⟩, idle id⟩
  | look id' =>
    refine ⟨_, _, ⟨rfl, rfl⟩, ?_⟩
    intro rest t id'' ticket hand
    rw [Caller.hand_answered, hh] at hand
    cases found : w.tickets.pending.lookup id' with
    | none => simp [State.reply, found, Hand.after] at hand
    | some ticket' =>
      simp [State.reply, found, Hand.after] at hand
      obtain ⟨-, rfl⟩ := hand
      exact ready id' ticket' (.inr ⟨hh, found⟩)

theorem Sound.ends (h : Sound pool w) (here : w.callers i = some x) (ready : w.Ready x) :
    ∃ r, w.EndsAlone i r := by
  obtain ⟨purpose, rest, past, since⟩ := x
  -- On the rest of the program. Waiting for a message is the one question that may stay without
  -- answer.
  induction rest generalizing w past since with
  | done r => exact ⟨r, w, .refl, _, here, rfl⟩
  | sleep d next ih => exact (h.callers i _ here).1.elim
  | clock next ih =>
    have act := Acts.looks here rfl
    obtain ⟨r, w', acts, ended⟩ := ih w.time (h.acts act) _ _ callers_setCaller_self ready
    exact ⟨r, w', .head act acts, ended⟩
  | ask q next ih =>
    have permits := (h.callers i _ here).1.1
    obtain ⟨a, w₁, answered, ready⟩ := h.answerable here permits ready
    have act := Acts.asks here rfl answered
    obtain ⟨r, w', acts, ended⟩ := ih a (h.acts act) _ _ callers_setCaller_self (ready _ _)
    exact ⟨r, w', .head act acts, ended⟩

/-! ## Going on alone -/

/-- What the own steps of a caller may lead to. -/
def Alone (i : Nat) : Traffic → Traffic → Prop := Relation.ReflTransGen (Acts i)

theorem Alone.runs (alone : Alone i w w') : Runs wallet w w' := by
  induction alone with
  | refl => exact .refl
  | tail _ act ih => exact ih.tail (.acts act)

theorem Acts.others (act : w.Acts i w') (other : j ≠ i) : w'.callers j = w.callers j := by
  cases act with
  | looks here stands => simp [setCaller, other]
  | wakes here stands slept => simp [setCaller, other]
  | asks here stands answered => simp [setCaller, other, answered.effect.frame.callers]

theorem Alone.others (alone : Alone i w w') (other : j ≠ i) : w'.callers j = w.callers j := by
  induction alone with
  | refl => rfl
  | tail _ act ih => exact (act.others other).trans ih

theorem Alone.grows (alone : Alone i w w') : Grows w w' := by
  induction alone with
  | refl => exact .refl w
  | tail _ act ih => exact ih.trans act.grows

theorem Alone.sound (alone : Alone i w w') (h : Sound pool w) : Sound pool w' := by
  induction alone with
  | refl => exact h
  | tail _ act ih => exact ih.acts act

theorem Alone.distinct (alone : Alone i w w') (h : Sound pool w) (here : w.callers i = some x)
    (purpose : x.purpose = .wait id timeout) (distinct : Distinct pool w) : Distinct pool w' := by
  obtain ⟨y, hy, same, -⟩ := alone.grows.callers i x here
  have silent := (((alone.sound h).callers i y hy).2.wait (same.trans purpose)).2.1
  have before : ∀ {j z c n}, w'.callers j = some z → z.Subscribed c n → w.callers j = some z := by
    intro j z c n hz subscribed
    by_cases hj : j = i
    · subst hj
      obtain rfl := Option.some.inj (hy.symm.trans hz)
      exact absurd subscribed (silent c n)
    · rwa [alone.others hj] at hz
  intro id' j k z z' m n hz hz' first second
  exact distinct id' j k z z' m n (before hz first) (before hz' second) first second

theorem Alone.unevicted (alone : Alone i w w') (here : w.callers i = some x)
    (purpose : x.purpose = .wait id timeout) {id' : String}
    (unevicted : ¬w.Evicted id') : ¬w'.Evicted id' := by
  rintro ⟨j, z, tx, hints, ticket, hz, submission, took⟩
  obtain ⟨y, hy, same, -⟩ := alone.grows.callers i x here
  by_cases hj : j = i
  · subst hj
    obtain rfl := Option.some.inj (hy.symm.trans hz)
    rw [same, purpose] at submission
    cases submission
  · rw [alone.others hj] at hz
    exact unevicted ⟨j, z, tx, hints, ticket, hz, submission, took⟩

theorem Acts.look (act : w.Acts i w') (h : Sound pool w) (here : w.callers i = some x)
    (hh : x.hand = .looking id) :
    ∃ y, w'.callers i = some y ∧ (y.hand = .looking id ∧ w'.tickets = w.tickets ∨
      y.Heard (.register (.remove id)) (w.tickets.pending.lookup id) ∧
        y.hand = (Hand.looking id).after (.register (.remove id))
          (w.tickets.pending.lookup id)) := by
  cases act with
  | @looks x' next here' stands =>
    obtain rfl := Option.some.inj (here.symm.trans here')
    exact ⟨_, callers_setCaller_self, .inl ⟨hh, rfl⟩⟩
  | @wakes x' d next here' stands slept =>
    obtain rfl := Option.some.inj (here.symm.trans here')
    exact ⟨_, callers_setCaller_self, .inl ⟨hh, rfl⟩⟩
  | @asks x' q next a w₁ here' stands answered =>
    obtain rfl := Option.some.inj (here.symm.trans here')
    have trusted := (h.callers i x here).1
    rw [Caller.Trusted, stands, hh] at trusted
    have permits := trusted.1
    cases permits
    obtain ⟨rfl, rfl⟩ := answered
    refine ⟨_, callers_setCaller_self, .inr ⟨Caller.heard_answered.mpr (.inr ⟨rfl, HEq.rfl⟩), ?_⟩⟩
    rw [Caller.hand_answered, hh]
    rfl

theorem Sound.allows (h : Sound pool w) (ended : w.Ended i r) : ∃ x, w.callers i = some x ∧
    x.hand.Allows r := by
  obtain ⟨x, hx, stands⟩ := ended
  have trusted := (h.callers i x hx).1
  rw [Caller.Trusted, stands] at trusted
  exact ⟨x, hx, trusted⟩

theorem Alone.looked (alone : Alone i w w') (h : Sound pool w) (here : w.callers i = some x)
    (hh : x.hand = .looking id) (ended : w'.Ended i r) :
    ∃ u y, Alone i u w' ∧ Sound pool u ∧ u.callers i = some y ∧
      y.Heard (.register (.remove id)) (w.tickets.pending.lookup id) ∧
      y.hand = (Hand.looking id).after (.register (.remove id)) (w.tickets.pending.lookup id) := by
  induction alone using Relation.ReflTransGen.head_induction_on generalizing x with
  | refl =>
    obtain ⟨y, hy, allows⟩ := h.allows ended
    obtain rfl := Option.some.inj (here.symm.trans hy)
    rw [hh] at allows
    exact allows.elim
  | @head w u act rest ih =>
    obtain ⟨y, hy, ⟨hand, tickets⟩ | looked⟩ := act.look h here hh
    · rw [← tickets]
      exact ih (h.acts act) hy hand
    · exact ⟨u, y, rest, h.acts act, hy, looked⟩

end Traffic

end Queue

end Dispatch
