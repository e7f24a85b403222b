import Dispatch.Proofs.TicketKeeping

/-!
# Following one ticket

Between the record of a submission and the message on its channel, its ticket is with the
submission, with the queue, or with one wait. It leaves this course only when it is evicted, or when
a wait is given a message of it.
-/

set_option autoImplicit false

namespace Dispatch

namespace Queue

namespace Traffic

variable {σ : Type} {wallet : QueueWallet σ} {pool id c text : String} {w w' w₁ : Traffic}
  {i j n : Nat} {x y : Caller} {o : Owner}

/-! ## What stays -/

structure Grows (w w' : Traffic) : Prop where
  callers : ∀ i x, w.callers i = some x → ∃ y, w'.callers i = some y ∧ y.purpose = x.purpose ∧
    ∀ e ∈ x.past, e ∈ y.past
  published : ∀ p ∈ w.published, p ∈ w'.published

theorem Grows.refl (w : Traffic) : Grows w w :=
  ⟨fun _ x hx => ⟨x, hx, rfl, fun _ he => he⟩, fun _ hp => hp⟩

theorem Grows.trans (h : Grows w w₁) (h' : Grows w₁ w') : Grows w w' := by
  constructor
  · intro i x hx
    obtain ⟨y, hy, purpose, past⟩ := h.callers i x hx
    obtain ⟨z, hz, purpose', past'⟩ := h'.callers i y hy
    exact ⟨z, hz, purpose'.trans purpose, fun e he => past' e (past e he)⟩
  · exact fun p hp => h'.published p (h.published p hp)

theorem Grows.heard (h : Grows w w') (hx : w.callers i = some x) :
    ∃ y, w'.callers i = some y ∧ y.purpose = x.purpose ∧ ∀ q a, x.Heard q a → y.Heard q a := by
  obtain ⟨y, hy, purpose, past⟩ := h.callers i x hx
  exact ⟨y, hy, purpose, fun q a ⟨t, ht⟩ => ⟨t, past _ ht⟩⟩

theorem grows_setCaller (callers : w₁.callers = w.callers)
    (published : ∀ p ∈ w.published, p ∈ w₁.published) (here : w.callers i = some x)
    (purpose : y.purpose = x.purpose) (past : ∀ e ∈ x.past, e ∈ y.past) :
    Grows w (w₁.setCaller i y) := by
  constructor
  · intro j z hz
    by_cases hj : j = i
    · subst hj
      obtain rfl := Option.some.inj (here.symm.trans hz)
      exact ⟨y, callers_setCaller_self, purpose, past⟩
    · exact ⟨z, callers_setCaller.mpr (.inr ⟨hj, callers ▸ hz⟩), rfl, fun _ he => he⟩
  · exact published

theorem Acts.grows (act : w.Acts i w') : Grows w w' := by
  cases act with
  | looks here stands => exact grows_setCaller rfl (fun _ hp => hp) here rfl fun _ he => he
  | wakes here stands slept => exact grows_setCaller rfl (fun _ hp => hp) here rfl fun _ he => he
  | asks here stands answered =>
    have frame := answered.effect.frame
    exact grows_setCaller frame.callers frame.published here rfl fun e he =>
      List.mem_cons_of_mem _ he

theorem Visits.same (visit : w.Visits w') :
    w'.callers = w.callers ∧ w'.tickets = w.tickets ∧ ∀ p ∈ w.published, p ∈ w'.published := by
  cases visit with
  | publishes channel payload => exact ⟨rfl, rfl, fun _ hp => List.mem_cons_of_mem _ hp⟩
  | _ => exact ⟨rfl, rfl, fun _ hp => hp⟩

theorem Happens.grows (step : Happens wallet w w') : Grows w w' := by
  cases step with
  | passes d => exact ⟨fun _ x hx => ⟨x, hx, rfl, fun _ he => he⟩, fun _ hp => hp⟩
  | @calls i p new =>
    constructor
    · intro j x hx
      refine ⟨x, callers_setCaller.mpr (.inr ⟨?_, hx⟩), rfl, fun _ he => he⟩
      intro hj
      rw [hj, new] at hx
      cases hx
    · exact fun _ hp => hp
  | acts act => exact act.grows
  | visits visit =>
    obtain ⟨callers, -, published⟩ := visit.same
    exact ⟨fun i x hx => ⟨x, callers ▸ hx, rfl, fun _ he => he⟩, published⟩

theorem Runs.grows (runs : Runs wallet w w') : Grows w w' := by
  induction runs with
  | refl => exact .refl w
  | tail _ step ih => exact ih.trans step.grows

/-! ## Ids -/

def Distinct (pool : String) (w : Traffic) : Prop :=
  ∀ id i j x y m n, w.callers i = some x → w.callers j = some y →
    x.Subscribed (completionChannel pool id) m → y.Subscribed (completionChannel pool id) n → i = j

def Evicted (w : Traffic) (id : String) : Prop :=
  ∃ i x tx hints ticket, w.callers i = some x ∧ x.purpose = .submission tx hints ∧ x.Took id ticket

theorem Distinct.before (h : Distinct pool w') (grows : Grows w w') : Distinct pool w := by
  intro id i j x y m n hx hy first second
  obtain ⟨x', hx', -, heard⟩ := grows.heard hx
  obtain ⟨y', hy', -, heard'⟩ := grows.heard hy
  exact h id i j x' y' m n hx' hy' (heard _ _ first) (heard' _ _ second)

theorem Evicted.later (h : w.Evicted id) (grows : Grows w w') : w'.Evicted id := by
  obtain ⟨i, x, tx, hints, ticket, hx, purpose, took⟩ := h
  obtain ⟨y, hy, same, heard⟩ := grows.heard hx
  exact ⟨i, y, tx, hints, ticket, hy, same.trans purpose, heard _ _ took⟩

theorem Sound.sole (h : Sound pool w) (distinct : Distinct pool w) {m : Nat}
    (first : w.Subscribed (completionChannel pool id) m)
    (second : w.Subscribed (completionChannel pool id) n) :
    m = n := by
  obtain ⟨i, x, hx, first⟩ := first
  obtain ⟨j, y, hy, second⟩ := second
  obtain rfl := distinct id i j x y m n hx hy first second
  obtain rfl := Option.some.inj (hx.symm.trans hy)
  exact ((h.callers i x hx).2.subscribed_unique first second).2

/-! ## Who keeps a ticket -/

end Traffic

/-- The subscription of a ticket in hand that is to stay in use. -/
def Hand.keeps? : Hand → Option Nat
  | .posted _ n => some n
  | .holding _ ticket | .late _ ticket => some ticket.subscription
  | _ => none

theorem Hand.held_of_keeps {h : Hand} {n : Nat} (keeps : h.keeps? = some n) :
    ∃ c, h.held? = some (c, n) := by
  cases h with
  | posted c m => exact ⟨c, by rw [← Option.some.inj keeps]; rfl⟩
  | holding id ticket | late id ticket =>
      exact ⟨ticket.channel, by rw [← Option.some.inj keeps]; rfl⟩
  | _ => cases keeps

namespace Traffic

variable {σ : Type} {wallet : QueueWallet σ} {pool id c text : String} {w w' w₁ : Traffic}
  {i j n t : Nat} {x y : Caller} {o : Owner} {q : Question} {a : q.Answer}
  {rest : Program Shared Result}

def Keeps (w : Traffic) (n : Nat) : Owner → Prop
  | .caller i => ∃ x, w.callers i = some x ∧ x.hand.keeps? = some n
  | .shelf id => ∃ ticket, w.tickets.pending.lookup id = some ticket ∧ ticket.subscription = n
  | .guest => False

def GivenBy (w : Traffic) (n : Nat) (i : Nat) (text : String) : Prop :=
  ∃ x, w.callers i = some x ∧ x.Given n text

theorem Keeps.holds (k : w.Keeps n o) : o ≠ .guest ∧ ∃ c, w.Holds o c n := by
  cases o with
  | caller i =>
    obtain ⟨x, hx, keeps⟩ := k
    obtain ⟨c, held⟩ := Hand.held_of_keeps keeps
    exact ⟨by simp, c, x, hx, held⟩
  | shelf id =>
    obtain ⟨ticket, there, number⟩ := k
    exact ⟨by simp, ticket.channel, ticket, there, rfl, number⟩
  | guest => exact k.elim

theorem Sound.shelf_of_keeps (h : Sound pool w)
    (subscribed : w.Subscribed (completionChannel pool id) n) {id' : String}
    (k : w.Keeps n (.shelf id')) : id' = id := by
  obtain ⟨ticket, there, rfl⟩ := k
  have held : w.Holds (.shelf id') ticket.channel ticket.subscription := ⟨ticket, there, rfl, rfl⟩
  have same := h.single _ _ _ (h.origin _ _ _ (by simp) held) subscribed
  rw [h.shelved _ _ _ held, completionChannel_inj] at same
  exact same

theorem keeps_asks_self (h : Sound pool w) (here : w.callers i = some x)
    (permits : x.hand.Permits pool q) (answered : w.Answers x.since q a w₁)
    (k : x.hand.keeps? = some n) :
    (∃ o, (w₁.setCaller i (x.answered q a rest t)).Keeps n o) ∨
      ∃ text, (w₁.setCaller i (x.answered q a rest t)).GivenBy n i text := by
  have hand := x.hand_answered q a rest t
  generalize hh : x.hand = hand₀ at permits
  rw [hh] at hand k
  have now : (w₁.setCaller i (x.answered q a rest t)).callers i = some (x.answered q a rest t) :=
    callers_setCaller_self
  cases permits with
  | leave id m time =>
    obtain rfl := Option.some.inj k
    obtain ⟨rfl, rfl⟩ := answered
    exact .inl ⟨.shelf id, _, State.lookup_insert.trans (if_pos rfl), rfl⟩
  | putBack id ticket =>
    obtain rfl := Option.some.inj k
    obtain ⟨rfl, rfl⟩ := answered
    exact .inl ⟨.shelf id, ticket, State.lookup_insert.trans (if_pos rfl), rfl⟩
  | listen id ticket timeout =>
    obtain rfl := Option.some.inj k
    cases a with
    | message text =>
        exact .inr ⟨text, _, now, Caller.given_answered.mpr (.inr ⟨timeout, rfl, HEq.rfl⟩)⟩
    | late => exact .inl ⟨.caller i, _, now, by rw [hand]; rfl⟩
    | closed =>
      have permits : x.hand.Permits pool (.outside (.receive ticket.subscription timeout)) :=
        hh ▸ .listen id ticket timeout
      obtain ⟨c, inHand⟩ := listening here permits
      obtain ⟨mail, carries, -⟩ := h.carried _ c _ (by simp) inHand
      exact absurd carries.listed (answered.2.1 c)
  | _ => cases k

/-- What the queue keeps it keeps, unless a wait takes it or a submission evicts it. -/
theorem keeps_asks_shelf (h : Sound pool w) (here : w.callers i = some x)
    (permits : x.hand.Permits pool q) (answered : w.Answers x.since q a w₁)
    (k : w.Keeps n (.shelf id))
    (sole : ∀ m, w.Subscribed (completionChannel pool id) m → m = n) :
    (∃ o, (w₁.setCaller i (x.answered q a rest t)).Keeps n o) ∨
      (w₁.setCaller i (x.answered q a rest t)).Evicted id := by
  have hand := x.hand_answered q a rest t
  have now : (w₁.setCaller i (x.answered q a rest t)).callers i = some (x.answered q a rest t) :=
    callers_setCaller_self
  obtain ⟨ticket, there, number⟩ := k
  have shelf : w.Holds (.shelf id) ticket.channel n := ⟨ticket, there, rfl, number⟩
  have stays : w₁.tickets.pending.lookup id = some ticket →
      ∃ o, (w₁.setCaller i (x.answered q a rest t)).Keeps n o := by
    intro kept
    exact ⟨.shelf id, ticket, kept, number⟩
  -- Who inserts under the same id has a subscription to the same channel in hand, so the same
  -- number,
  -- which then had two owners.
  have inserted :
    ∀ id' ticket', x.hand.held? = some (completionChannel pool id', ticket'.subscription) →
      (w.tickets.insert id' ticket').pending.lookup id = some ticket := by
    intro id' ticket' inHand
    rw [State.lookup_insert]
    split
    · rename_i same
      subst same
      have held : w.Holds (.caller i) (completionChannel pool id) ticket'.subscription :=
        ⟨x, here, inHand⟩
      rw [sole _ (h.origin _ _ _ (by simp) held)] at held
      cases h.apart _ _ _ _ n held shelf
    · exact there
  have removed : ∀ id', id ≠ id' → (w.tickets.remove id').pending.lookup id = some ticket := by
    intro id' other
    rw [State.lookup_remove, if_neg other]
    exact there
  have tells := (h.callers i x here).2
  generalize hh : x.hand = hand₀ at permits
  rw [hh] at hand
  cases permits with
  | date | forget | forgetDue | forgetLast | subscribe | publish | listen | drop =>
    apply Or.inl
    apply stays
    rw [answered.effect.tickets]
    exact there
  | count | expired =>
    apply Or.inl
    apply stays
    rw [answered.2]
    exact there
  | evict id' =>
    obtain ⟨rfl, rfl⟩ := answered
    by_cases same : id = id'
    · subst same
      right
      cases hp : x.purpose with
      | submission tx hints =>
        refine ⟨i, _, tx, hints, ticket, now, hp, Caller.took_answered.mpr (.inr ⟨rfl, ?_⟩)⟩
        exact heq_of_eq there
      | wait id' timeout =>
        have awaits := (tells.wait hp).1
        rw [hh] at awaits
        exact awaits.elim
    · exact .inl (stays (removed id' same))
  | look id' =>
    obtain ⟨rfl, rfl⟩ := answered
    apply Or.inl
    by_cases same : id = id'
    · subst same
      refine ⟨.caller i, _, now, ?_⟩
      rw [hand]
      simp [State.reply, there, Hand.after, Hand.keeps?, number]
    · exact stays (removed id' same)
  | leave id' m time =>
    obtain ⟨rfl, rfl⟩ := answered
    apply Or.inl
    apply stays
    apply inserted
    rw [hh]
    rfl
  | putBack id' ticket' =>
    obtain ⟨rfl, rfl⟩ := answered
    apply Or.inl
    apply stays
    apply inserted
    rw [hh, ← (h.took i x id' ticket' here (tells.took_of_hand (.inr hh))).1]
    rfl

theorem Change.keeps (change : Change pool w w') (h : Sound pool w) (k : w.Keeps n o)
    (subscribed : w.Subscribed (completionChannel pool id) n)
    (sole : ∀ m, w.Subscribed (completionChannel pool id) m → m = n) :
    (∃ o, w'.Keeps n o) ∨ w'.Evicted id ∨ ∃ i text, w'.GivenBy n i text := by
  cases change with
  | calm m =>
    refine .inl ⟨o, ?_⟩
    cases o with
    | caller i =>
      obtain ⟨x, hx, keeps⟩ := k
      obtain ⟨y, hy, alike⟩ := m.kept i x hx
      exact ⟨y, hy, alike.hand ▸ keeps⟩
    | shelf id => rwa [Keeps, m.tickets]
    | guest => exact k.elim
  | visits visit =>
    obtain ⟨callers, tickets, -⟩ := visit.same
    refine .inl ⟨o, ?_⟩
    cases o with
    | caller i => rwa [Keeps, callers]
    | shelf id => rwa [Keeps, tickets]
    | guest => exact k.elim
  | @asked i t x q a rest w₁ here permits answered trusted =>
    cases o with
    | guest => exact k.elim
    | shelf id' =>
      obtain rfl := h.shelf_of_keeps subscribed k
      rcases keeps_asks_shelf h here permits answered k sole with kept | evicted
      · exact .inl kept
      · exact .inr (.inl evicted)
    | caller j =>
      by_cases hj : j = i
      · subst hj
        obtain ⟨x', here', keeps⟩ := k
        obtain rfl := Option.some.inj (here.symm.trans here')
        rcases keeps_asks_self h here permits answered keeps with kept | ⟨text, given⟩
        · exact .inl kept
        · exact .inr (.inr ⟨j, text, given⟩)
      · obtain ⟨y, hy, keeps⟩ := k
        refine .inl ⟨.caller j, y, callers_setCaller.mpr (.inr ⟨hj, ?_⟩), keeps⟩
        rw [answered.effect.frame.callers]
        exact hy

/-! ## Messages -/

theorem Effect.mail {more : List String} (effect : w.Effect q w') (young : n < w.broker.next)
    (mail : w.broker.inbox? n = some (text :: more)) (kept : q ≠ .outside (.drop n))
    (untaken : ∀ timeout, q ≠ .outside (.receive n timeout)) :
    ∃ more, w'.broker.inbox? n = some (text :: more) := by
  cases effect with
  | subscribes channel =>
    refine ⟨more, ?_⟩
    show (w.broker.subscribe channel).2.inbox? n = _
    rw [Broker.inbox?_subscribe, if_neg (by omega), mail]
  | publishes channel payload =>
    show ∃ more, (w.broker.publish channel payload).2.inbox? n = _
    rw [Broker.inbox?_publish, mail]
    by_cases here : n ∈ w.broker.live channel
    · exact ⟨more ++ [payload], by simp [here]⟩
    · exact ⟨more, by simp [here]⟩
  | drops m =>
    refine ⟨more, ?_⟩
    have other : n ≠ m := by
      intro hm
      exact kept (by rw [hm])
    show (w.broker.drop m).inbox? n = _
    rw [Broker.inbox?_drop, if_neg other, mail]
  | @takes m timeout _ b taken =>
    obtain ⟨_, _, _, others, _, _⟩ := Broker.take_eq_some taken
    have other : n ≠ m := by
      intro hm
      exact untaken timeout (by rw [hm])
    exact ⟨more, (others n other).trans mail⟩
  | _ => exact ⟨more, mail⟩

theorem Change.mail {more : List String} (change : Change pool w w') (h : Sound pool w)
    (k : w.Keeps n o) (mail : w.broker.inbox? n = some (text :: more)) (kept : ∃ o, w'.Keeps n o) :
    (∃ more, w'.broker.inbox? n = some (text :: more)) ∨ ∃ i, w'.GivenBy n i text := by
  obtain ⟨own, c, held⟩ := k.holds
  have young := h.young o c n held
  cases change with
  | calm m => exact .inl ⟨more, m.broker ▸ mail⟩
  | visits visit =>
    obtain ⟨q, w₁, effect, same, -, touched, -⟩ := visit.effect
    have untouched : ¬n ∈ w.guests := fun guest => own (h.apart o .guest c c n held guest)
    left
    rw [same]
    apply effect.mail young mail
    · exact fun hq => untouched (touched n (.inl hq))
    · exact fun timeout hq => untouched (touched n (.inr ⟨timeout, hq⟩))
  | @asked i t x q a rest w₁ here permits answered trusted =>
    by_cases taking : ∃ timeout, q = .outside (.receive n timeout)
    · obtain ⟨timeout, rfl⟩ := taking
      cases a with
      | message text' =>
        obtain ⟨b, taken, rfl⟩ := answered
        obtain ⟨waiting, before, -⟩ := Broker.take_eq_some taken
        rw [mail] at before
        obtain ⟨rfl, -⟩ := List.cons.inj (Option.some.inj before)
        refine .inr ⟨i, _, callers_setCaller_self, ?_⟩
        exact Caller.given_answered.mpr (.inr ⟨timeout, rfl, HEq.rfl⟩)
      | late =>
        obtain ⟨b, taken⟩ := Broker.exists_take mail
        rw [answered.2.1] at taken
        cases taken
      | closed =>
        obtain ⟨b, taken⟩ := Broker.exists_take mail
        rw [answered.1] at taken
        cases taken
    · left
      obtain ⟨o', k'⟩ := kept
      obtain ⟨-, c', held'⟩ := k'.holds
      apply answered.effect.mail young mail
      · exact not_dropped h here permits answered held'
      · exact fun timeout hq => taking ⟨timeout, hq⟩

theorem Change.heard (change : Change pool w w') (hy : w'.callers j = some y)
    (heard : y.Heard q a) :
    (∃ x, w.callers j = some x ∧ x.purpose = y.purpose ∧ x.Heard q a) ∨
      ∃ x w₁, w.callers j = some x ∧ x.purpose = y.purpose ∧ x.hand.Permits pool q ∧
        w.Answers x.since q a w₁ ∧
        y.hand = x.hand.after q a := by
  cases change with
  | calm m =>
    obtain ⟨x, hx, alike⟩ := m.of_heard hy heard
    exact .inl ⟨x, hx, alike.1.symm, alike.heard heard⟩
  | visits visit =>
    rw [visit.same.1] at hy
    exact .inl ⟨y, hy, rfl, heard⟩
  | asked here permits answered trusted =>
    rcases heard_setCaller answered.effect.frame here hy heard with old | ⟨rfl, rfl, rfl, ha⟩
    · exact .inl old
    · obtain rfl := eq_of_heq ha
      exact .inr ⟨_, _, here, rfl, permits, answered, rfl⟩

theorem Change.given (change : Change pool w w') (given : w'.GivenBy n j text) :
    w.GivenBy n j text ∨
      w.Keeps n (.caller j) ∧ ∃ more, w.broker.inbox? n = some (text :: more) := by
  obtain ⟨y, hy, timeout, heard⟩ := given
  rcases change.heard hy heard with ⟨x, hx, -, old⟩ | ⟨x, w₁, hx, -, permits, answered, -⟩
  · exact .inl ⟨x, hx, timeout, old⟩
  · obtain ⟨b, taken, rfl⟩ := answered
    obtain ⟨waiting, before, -⟩ := Broker.take_eq_some taken
    refine .inr ⟨⟨x, hx, ?_⟩, waiting, before⟩
    generalize x.hand = hand at permits
    cases permits
    rfl

theorem Sound.not_given_of_keeps (h : Sound pool w) (k : w.Keeps n (.caller i)) :
    ¬w.GivenBy n i text := by
  rintro ⟨y, hy, given⟩
  obtain ⟨x, hx, keeps⟩ := k
  obtain rfl := Option.some.inj (hx.symm.trans hy)
  have tells := (h.callers i x hx).2
  cases hh : x.hand with
  | posted c m => exact tells.not_given (.inl ⟨c, m, hh⟩) n text given
  | holding id ticket => exact tells.not_given (.inr ⟨id, ticket, .inl hh⟩) n text given
  | late id ticket => exact tells.not_given (.inr ⟨id, ticket, .inr hh⟩) n text given
  | _ =>
    rw [hh] at keeps
    cases keeps

theorem Sound.keeps_apart (h : Sound pool w) {o' : Owner} (k : w.Keeps n o) (k' : w.Keeps n o') :
    o = o' := by
  obtain ⟨-, c, held⟩ := k.holds
  obtain ⟨-, c', held'⟩ := k'.holds
  exact h.apart o o' c c' n held held'

/-- The ticket is kept, nobody was given a message of it, and this one is the first. -/
structure Waiting (w : Traffic) (n : Nat) (text : String) : Prop where
  kept : ∃ o, w.Keeps n o
  first : ∃ more, w.broker.inbox? n = some (text :: more)
  ungiven : ∀ i text, ¬w.GivenBy n i text

def Served (w : Traffic) (n : Nat) (text : String) : Prop :=
  ∃ i, w.GivenBy n i text ∧ ∀ j text', w.GivenBy n j text' → j = i ∧ text' = text

theorem Served.not_kept (served : w.Served n text) (h : Sound pool w) : ¬w.Keeps n o := by
  intro k
  obtain ⟨i, ⟨x, hx, given⟩, -⟩ := served
  obtain ⟨-, c, held⟩ := k.holds
  obtain ⟨alone, -⟩ := h.given i x n text hx given
  obtain rfl := alone o c held
  exact h.not_given_of_keeps k ⟨x, hx, given⟩

theorem Change.waiting (change : Change pool w w') (h : Sound pool w)
    (subscribed : w.Subscribed (completionChannel pool id) n)
    (sole : ∀ m, w.Subscribed (completionChannel pool id) m → m = n) (unevicted : ¬w'.Evicted id)
    (waits : w.Waiting n text) : w'.Waiting n text ∨ w'.Served n text := by
  obtain ⟨⟨o, k⟩, ⟨more, mail⟩, ungiven⟩ := waits
  have new : ∀ {j text'}, w'.GivenBy n j text' → w.Keeps n (.caller j) ∧ text' = text := by
    intro j text' given
    rcases change.given given with old | ⟨keeps, _, before⟩
    · exact absurd old (ungiven j text')
    · rw [mail] at before
      exact ⟨keeps, (List.cons.inj (Option.some.inj before)).1.symm⟩
  by_cases served : ∃ i text', w'.GivenBy n i text'
  · obtain ⟨i, text', given⟩ := served
    obtain ⟨keeps, rfl⟩ := new given
    refine .inr ⟨i, given, ?_⟩
    intro j text'' given'
    obtain ⟨keeps', rfl⟩ := new given'
    exact ⟨Owner.caller.inj (h.keeps_apart keeps' keeps), rfl⟩
  · have kept : ∃ o, w'.Keeps n o := by
      rcases change.keeps h k subscribed sole with kept | evicted | given
      · exact kept
      · exact absurd evicted unevicted
      · exact absurd given served
    left
    refine ⟨kept, ?_, fun i text' given => served ⟨i, text', given⟩⟩
    rcases change.mail h k mail kept with first | ⟨i, given⟩
    · exact first
    · exact absurd ⟨i, text, given⟩ served

theorem Change.served (change : Change pool w w') (h : Sound pool w) (grows : Grows w w')
    (served : w.Served n text) :
    w'.Served n text := by
  have unkept : ∀ {o}, ¬w.Keeps n o := served.not_kept h
  obtain ⟨i, ⟨x, hx, timeout, heard⟩, unique⟩ := served
  obtain ⟨y, hy, -, more⟩ := grows.heard hx
  refine ⟨i, ⟨y, hy, timeout, more _ _ heard⟩, ?_⟩
  intro j text' given
  rcases change.given given with old | ⟨keeps, -⟩
  · exact unique j text' old
  · exact absurd keeps unkept

/-! ## From the record on -/

def PostedBy (w : Traffic) (pool id : String) (i n : Nat) : Prop :=
  ∃ x, w.callers i = some x ∧ x.Subscribed (completionChannel pool id) n ∧ x.Posted pool

/-- Where the ticket of a record can be. -/
def Tracked (w : Traffic) (id : String) (n : Nat) : Prop :=
  (∃ o, w.Keeps n o) ∨ w.Evicted id ∨ ∃ i text, w.GivenBy n i text

theorem GivenBy.later (given : w.GivenBy n i text) (grows : Grows w w') : w'.GivenBy n i text := by
  obtain ⟨x, hx, timeout, heard⟩ := given
  obtain ⟨y, hy, -, more⟩ := grows.heard hx
  exact ⟨y, hy, timeout, more _ _ heard⟩

theorem Change.posted (change : Change pool w w') (h : Sound pool w)
    (posted : w'.PostedBy pool id i n) :
    w.PostedBy pool id i n ∨ w'.Keeps n (.caller i) := by
  obtain ⟨y, hy, subscribed, payload, receivers, some, posted⟩ := posted
  rcases change.heard hy posted with ⟨x, hx, -, already⟩ | ⟨x, w₁, hx, -, permits, -, hand⟩
  · left
    rcases change.heard hy subscribed with ⟨x', hx', -, before⟩ | ⟨x', w₁, hx', -, permits, -⟩
    · obtain rfl := Option.some.inj (hx.symm.trans hx')
      exact ⟨x, hx, before, payload, receivers, some, already⟩
    · obtain rfl := Option.some.inj (hx.symm.trans hx')
      have unposted := (h.callers i x hx).2.not_posted_of_free permits.free_of_subscribe
      exact absurd ⟨payload, receivers, some, already⟩ unposted
  · right
    have tells := (h.callers i x hx).2
    obtain ⟨more, rfl⟩ := Nat.exists_eq_succ_of_ne_zero (Nat.ne_of_gt some)
    generalize hh : x.hand = hand₀ at permits
    cases permits with
    | publish channel m =>
      rcases change.heard hy subscribed with ⟨x', hx', -, before⟩ | ⟨x', w₁, hx', -, permits, -⟩
      · obtain rfl := Option.some.inj (hx.symm.trans hx')
        obtain rfl := (tells.subscribed_unique before (tells.subscribed_of_drafted hh)).2
        refine ⟨y, hy, ?_⟩
        rw [hand, hh]
        rfl
      · obtain rfl := Option.some.inj (hx.symm.trans hx')
        rw [permits.free_of_subscribe] at hh
        cases hh

theorem Change.tracked (change : Change pool w w') (h : Sound pool w) (grows : Grows w w')
    (sole : ∀ m, w.Subscribed (completionChannel pool id) m → m = n)
    (before : w.PostedBy pool id i n → w.Tracked id n) (posted : w'.PostedBy pool id i n) :
    w'.Tracked id n := by
  rcases change.posted h posted with old | keeps
  · have track := before old
    obtain ⟨x, hx, subscribed, -⟩ := old
    rcases track with ⟨o, k⟩ | evicted | ⟨j, text, given⟩
    · exact change.keeps h k ⟨i, x, hx, subscribed⟩ sole
    · exact .inr (.inl (evicted.later grows))
    · exact .inr (.inr ⟨j, text, given.later grows⟩)
  · exact .inl ⟨_, keeps⟩

end Traffic

end Queue

end Dispatch
