import Dispatch.Proofs.TicketDelivery

/-!
# No completion is lost

The first message on the channel of a ticket, published at any time after the record, is given to
the next wait on the ticket that does not end before, whatever else goes on and however many waits
have ended late already. No other wait gets it, and none that looks for the ticket afterwards finds
it.
-/

set_option autoImplicit false

namespace Dispatch

namespace Queue

namespace Traffic

variable {σ : Type} {wallet : QueueWallet σ} {id text text' : String} {w w' w₁ : Traffic}
  {i j k n : Nat} {x : Caller} {timeout : Duration} {ticket : Ticket} {r : Result}

/-- A record was published; then, and not before, a message on the channel of its id; then anything
happened, but the ticket was not evicted. -/
structure Announced (wallet : QueueWallet σ) (i n : Nat) (id text : String) (w₁ w : Traffic) :
    Prop where
  before : Runs wallet start w₁
  posted : w₁.PostedBy wallet.pool id i n
  first : ∀ text, (completionChannel wallet.pool id, text) ∉ w₁.published
  after : Runs wallet (w₁.publish (completionChannel wallet.pool id) text) w
  distinct : Distinct wallet.pool w
  unevicted : ¬w.Evicted id

namespace Announced

theorem publishes (wallet : QueueWallet σ) (id text : String) (w₁ : Traffic) :
    Happens wallet w₁ (w₁.publish (completionChannel wallet.pool id) text) :=
    .visits (.publishes _ _)

theorem sound (h : Announced wallet i n id text w₁ w) : Sound wallet.pool w :=
  ((sound_start.runs h.before).happens (publishes wallet id text w₁)).runs h.after

theorem grows (h : Announced wallet i n id text w₁ w) : Grows w₁ w :=
  (publishes wallet id text w₁).grows.trans h.after.grows

theorem subscribed (h : Announced wallet i n id text w₁ w) :
    w.Subscribed (completionChannel wallet.pool id) n := by
  obtain ⟨x, hx, heard, -⟩ := h.posted
  obtain ⟨y, hy, -, more⟩ := h.grows.heard hx
  exact ⟨i, y, hy, more _ _ heard⟩

theorem later (h : Announced wallet i n id text w₁ w) (more : Runs wallet w w')
    (distinct : Distinct wallet.pool w')
    (unevicted : ¬w'.Evicted id) : Announced wallet i n id text w₁ w' :=
  ⟨h.before, h.posted, h.first, h.after.trans more, distinct, unevicted⟩

theorem waiting (h : Announced wallet i n id text w₁ w) :
    (w₁.publish (completionChannel wallet.pool id) text).Waiting n text := by
  have sound : Sound wallet.pool w₁ := sound_start.runs h.before
  obtain ⟨x, hx, heard, -⟩ := h.posted
  have subscribed : w₁.Subscribed (completionChannel wallet.pool id) n := ⟨i, x, hx, heard⟩
  have ungiven : ∀ j text, ¬w₁.GivenBy n j text := by
    rintro j text ⟨y, hy, given⟩
    obtain ⟨-, c, named, published⟩ := sound.given j y n text hy given
    rw [sound.single c _ n named subscribed] at published
    exact h.first text published
  rcases h.before.tracked (.refl w₁) (h.distinct.before h.grows) sound h.posted with ⟨o, k⟩ |
    evicted | given
  · refine ⟨⟨o, k⟩, ?_, ungiven⟩
    obtain ⟨own, c, held⟩ := k.holds
    obtain rfl := sound.single c _ n (sound.origin o c n own held) subscribed
    -- What waits was published on the channel, and nothing was before.
    obtain ⟨mail, carries, published⟩ := sound.carried o _ n own held
    have empty : mail = [] := by
      apply List.eq_nil_iff_forall_not_mem.mpr
      exact fun text ht => h.first text (published text ht)
    subst empty
    have carries' := carries.publish (completionChannel wallet.pool id) text
    rw [if_pos rfl] at carries'
    exact ⟨[], carries'.inbox⟩
  · exact absurd (evicted.later h.grows) h.unevicted
  · obtain ⟨j, text, given⟩ := given
    exact absurd given (ungiven j text)

theorem follows (h : Announced wallet i n id text w₁ w) : Follows id n text w₁ w := by
  obtain ⟨x, hx, heard, -⟩ := h.posted
  have published := (sound_start.runs h.before).happens (publishes wallet id text w₁)
  obtain ⟨delivery, punctual⟩ :=
    h.after.follows published h.waiting ⟨i, x, hx, heard⟩ (.refl w) h.distinct h.unevicted
  exact ⟨delivery, punctual⟩

theorem ready (h : Announced wallet i n id text w₁ w) (here : w.callers j = some x)
    (purpose : x.purpose = .wait id timeout) : w.Ready x := by
  have first : ∀ {o}, w.Keeps n o → ∃ text more, w.broker.inbox? n = some (text :: more) := by
    intro o k
    rcases h.follows.delivery with ⟨-, ⟨more, first⟩, -⟩ | served
    · exact ⟨text, more, first⟩
    · exact absurd k (served.not_kept h.sound)
  have tells := (h.sound.callers j x here).2
  rintro id' ticket (hh | ⟨hh, found⟩)
  · obtain rfl := (tells.wait purpose).2.2 id' ticket (tells.took_of_hand (.inl hh))
    obtain ⟨k, rfl⟩ := h.sound.keeps_of_holding h.distinct h.subscribed here hh
    exact first k
  · have awaits := (tells.wait purpose).1
    rw [hh] at awaits
    obtain ⟨rfl, -⟩ := awaits
    have shelf : w.Holds (.shelf id') ticket.channel ticket.subscription :=
      ⟨ticket, found, rfl, rfl⟩
    have origin := h.sound.origin _ _ _ (by simp) shelf
    rw [h.sound.shelved _ _ _ shelf] at origin
    obtain rfl := h.sound.sole h.distinct origin h.subscribed
    exact first (o := .shelf id') ⟨ticket, found, rfl⟩

theorem result (h : Announced wallet i n id text w₁ w) (here : w.callers j = some x)
    (purpose : x.purpose = .wait id timeout) (intime : ∀ y, w₁.callers j = some y → ¬y.Late)
    (ended : w.Ended j r) :
    r = completed id text ∧ (∃ ticket, x.Took id ticket) ∨
      r = .error (.notFound id "no pending submission with this id") ∧
        ∀ ticket, ¬x.Took id ticket := by
  obtain ⟨y, hy, allows⟩ := h.sound.allows ended
  obtain rfl := Option.some.inj (here.symm.trans hy)
  have awaits := ((h.sound.callers j x here).2.wait purpose).1
  -- A wait ends with the result that is due, or late.
  cases hh : x.hand with
  | due r' =>
    rw [hh] at allows awaits
    obtain rfl := allows
    rcases awaits with ⟨rfl, none⟩ | ⟨ticket, took, cut | ⟨text', given, rfl⟩⟩
    · exact .inr ⟨rfl, none⟩
    · exact absurd cut (h.sound.uncut j x here)
    · left
      obtain ⟨channel, origin⟩ := h.sound.took j x id ticket here took
      rw [channel] at origin
      obtain rfl := h.sound.sole h.distinct origin h.subscribed
      rcases h.follows.delivery with ⟨-, -, ungiven⟩ | ⟨k, -, unique⟩
      · exact absurd ⟨x, here, given⟩ (ungiven j text')
      · rw [(unique j text' ⟨x, here, given⟩).2]
        exact ⟨rfl, ticket, took⟩
  | finished =>
    rw [hh] at awaits
    obtain ⟨y, hy, late⟩ := h.follows.punctual j x timeout here purpose awaits.1
    exact absurd late (intime y hy)
  | free =>
    rw [hh] at awaits
    exact awaits.elim
  | _ =>
    rw [hh] at allows
    exact allows.elim

theorem ends (h : Announced wallet i n id text w₁ w) (here : w.callers j = some x)
    (purpose : x.purpose = .wait id timeout) :
    ∃ r w', Alone j w w' ∧ w'.Ended j r ∧ Announced wallet i n id text w₁ w' := by
  obtain ⟨r, w', alone, ended⟩ := h.sound.ends here (h.ready here purpose)
  have alone : Alone j w w' := alone
  have distinct := alone.distinct h.sound here purpose h.distinct
  exact ⟨r, w', alone, ended, h.later alone.runs distinct
    (alone.unevicted here purpose h.unevicted)⟩

theorem of_hand_keeps (h : Announced wallet i n id text w₁ w) (hx : w.callers j = some x)
    (keeps : x.hand.keeps? = some n) :
    (j = i ∧ ∀ r, ¬x.hand.Allows r) ∨ ∃ ticket, x.Took id ticket ∧ ¬x.Left id := by
  have tells := (h.sound.callers j x hx).2
  have waits : ∀ {id' ticket}, x.hand = .holding id' ticket ∨ x.hand = .late id' ticket →
      ticket.subscription = n → ∃ ticket, x.Took id ticket ∧ ¬x.Left id := by
    intro id' ticket hh same
    have took := tells.took_of_hand hh
    obtain ⟨channel, origin⟩ := h.sound.took j x id' ticket hx took
    rw [same, channel] at origin
    obtain rfl := completionChannel_inj.mp (h.sound.single _ _ n origin h.subscribed)
    exact ⟨ticket, took, tells.not_left_of_hand hh⟩
  cases hh : x.hand with
  | posted c m =>
    rw [hh] at keeps
    obtain rfl := Option.some.inj keeps
    have own := tells.subscribed_of_posted hh
    obtain rfl := h.sound.single _ _ m ⟨j, x, hx, own⟩ h.subscribed
    obtain ⟨y, hy, named, -⟩ := h.posted
    obtain ⟨y', hy', -, more⟩ := h.grows.heard hy
    have same : j = i := h.distinct id j i x y' m m hx hy' own (more _ _ named)
    exact .inl ⟨same, fun _ allows => allows⟩
  | holding id' ticket =>
    rw [hh] at keeps
    exact .inr (waits (.inl hh) (Option.some.inj keeps))
  | late id' ticket =>
    rw [hh] at keeps
    exact .inr (waits (.inr hh) (Option.some.inj keeps))
  | _ =>
    rw [hh] at keeps
    cases keeps

theorem exists_ticket (h : Announced wallet i n id text w₁ w)
    (ungiven : ∀ k text, ¬w.GivenBy n k text) (returned : ∃ r, w.Ended i r)
    (left : ∀ k y ticket, w.callers k = some y → y.Took id ticket → y.Left id) :
    ∃ ticket, w.tickets.pending.lookup id = some ticket := by
  rcases h.follows.delivery with ⟨⟨o, k⟩, -, -⟩ | ⟨j, given, -⟩
  · cases o with
    | guest => exact k.elim
    | shelf id' =>
      obtain rfl := h.sound.shelf_of_keeps h.subscribed k
      obtain ⟨ticket, there, -⟩ := k
      exact ⟨ticket, there⟩
    | caller j =>
      obtain ⟨x, hx, keeps⟩ := k
      rcases h.of_hand_keeps hx keeps with ⟨rfl, unended⟩ | ⟨ticket, took, kept⟩
      · obtain ⟨r, ended⟩ := returned
        obtain ⟨y, hy, allows⟩ := h.sound.allows ended
        obtain rfl := Option.some.inj (hx.symm.trans hy)
        exact absurd allows (unended r)
      · exact absurd (left j x ticket hx took) kept
  · exact absurd given (ungiven j text)

theorem lookup_none (h : Announced wallet i n id text w₁ w) (given : w.GivenBy n j text') :
    w.tickets.pending.lookup id = none := by
  cases found : w.tickets.pending.lookup id with
  | none => rfl
  | some ticket =>
    have shelf : w.Holds (.shelf id) ticket.channel ticket.subscription := ⟨ticket, found, rfl, rfl⟩
    have origin := h.sound.origin _ _ _ (by simp) shelf
    rw [h.sound.shelved _ _ _ shelf] at origin
    obtain rfl := h.sound.sole h.distinct origin h.subscribed
    rcases h.follows.delivery with ⟨-, -, ungiven⟩ | served
    · exact absurd given (ungiven j text')
    · exact absurd ⟨ticket, found, rfl⟩ (served.not_kept (o := .shelf id) h.sound)

theorem not_took (h : Announced wallet i n id text w₁ w) (given : w.GivenBy n k text')
    (new : ∀ y, w.callers j = some y → y.past = []) (more : Runs wallet w w')
    (distinct : Distinct wallet.pool w') (unevicted : ¬w'.Evicted id)
    (here : w'.callers j = some x) : ¬x.Took id ticket := by
  induction more generalizing x with
  | refl =>
    rintro ⟨t, ht⟩
    rw [new x here] at ht
    cases ht
  | @tail u v before step ih =>
    intro took
    have apart := distinct.before step.grows
    have kept : ¬u.Evicted id := fun evicted => unevicted (evicted.later step.grows)
    have now := h.later before apart kept
    rcases (step.change now.sound).took here took with ⟨y, hy, old⟩ | found
    · exact ih apart kept hy old
    · rw [now.lookup_none (given.later (Runs.grows before))] at found
      cases found

end Announced

theorem Announced.intime (h : Announced wallet i n id text w₁ w)
    (new : ∀ y, w.callers j = some y → y.past = []) :
    ∀ y, w₁.callers j = some y → ¬y.Late := by
  rintro y hy ⟨m, d, t, ht⟩
  obtain ⟨z, hz, -, past⟩ := h.grows.callers j y hy
  have impossible := past _ ht
  rw [new z hz] at impossible
  cases impossible

/-- How the message reaches the waits on the id. -/
structure Reaches (wallet : QueueWallet σ) (i n : Nat) (id text : String) (w₁ w : Traffic) :
    Prop where
  punctual : ∀ j x since m timeout, w₁.callers j = some x →
    .asked since (.outside (.receive m timeout)) .late ∈ x.past → since + timeout.nanos ≤ w₁.time
  taken : ∀ j x timeout ticket, w.callers j = some x → x.purpose = .wait id timeout →
    x.Took id ticket →
    (∀ y, w₁.callers j = some y → ¬y.Late) →
    (∀ r, w.Ended j r → r = completed id text) ∧ w.EndsAlone j (completed id text)
  /-- While the message is not given, and each wait that took the ticket has left it again, the
  ticket of the finished submission is there, and any wait that comes can take it and the message,
  with no time to wait at all. -/
  next : (∀ k text, ¬w.GivenBy n k text) → (∃ r, w.Ended i r) →
    (∀ k y ticket, w.callers k = some y → y.Took id ticket → y.Left id) →
    (∃ ticket, w.tickets.pending.lookup id = some ticket) ∧
      ∀ j x timeout, w.callers j = some x → x.purpose = .wait id timeout → x.past = [] →
        w.EndsAlone j (completed id text)
  once : ∀ j k text₁ text₂, w.GivenBy n j text₁ → w.GivenBy n k text₂ → j = k ∧ text₁ = text
  further : ∀ k text', w.GivenBy n k text' → ∀ w', Runs wallet w w' → Distinct wallet.pool w' →
    ¬w'.Evicted id →
    ∀ j x timeout, (∀ y, w.callers j = some y → y.past = []) → w'.callers j = some x →
      x.purpose = .wait id timeout →
      (∀ r, w'.Ended j r → r = .error (.notFound id "no pending submission with this id")) ∧
        w'.EndsAlone j (.error (.notFound id "no pending submission with this id"))
  base : ∀ (b : WaitBounds) (s : σ) (queue : State), (wallet.wait (.ticket id) b).run.run
    (s, queue) =
    .clock fun started =>
      ((wallet.program (.wait id b.timeout)).interpret (J := Outside) State.answer queue).bind
        fun (r, queue) =>
          match r with
          | .error failure => .done (.error (.queue failure), s, queue)
          | .ok handle => .clock fun time =>
            ((wallet.base.wait handle (b.remainingAfter (.ofNanos (time - started)))).run.run
              s).bind
              fun (result, s) => .done (result, s, queue)

theorem completion_not_lost (h : Announced wallet i n id text w₁ w) :
    Reaches wallet i n id text w₁ w := by
  constructor
  case punctual =>
    intro j x since m timeout hx late
    exact (sound_start.runs h.before).punctual j x since m timeout hx late
  case taken =>
    intro j x timeout ticket hx purpose took intime
    have decided : ∀ {w' r}, Announced wallet i n id text w₁ w' → Grows w w' → w'.Ended j r →
      r = completed id text := by
      intro w' r later grows ended
      obtain ⟨y, hy, same, more⟩ := grows.heard hx
      rcases later.result hy (same.trans purpose) intime ended with ⟨r, -⟩ | ⟨-, none⟩
      · exact r
      · exact absurd (more _ _ took) (none ticket)
    constructor
    · exact fun r ended => decided h (.refl w) ended
    · obtain ⟨r, w', alone, ended, later⟩ := h.ends hx purpose
      obtain rfl := decided later alone.grows ended
      exact ⟨w', alone, ended⟩
  case next =>
    intro ungiven returned left
    obtain ⟨ticket, there⟩ := h.exists_ticket ungiven returned left
    refine ⟨⟨ticket, there⟩, ?_⟩
    intro j x timeout hx purpose new
    obtain ⟨r, w', alone, ended, later⟩ := h.ends hx purpose
    have looking : x.hand = .looking id := by
      unfold Caller.hand
      rw [new, purpose]
      rfl
    obtain ⟨u, y, rest, sound, hy, heard, -⟩ := alone.looked h.sound hx looking ended
    rw [there] at heard
    obtain ⟨x', hx', same, -⟩ := alone.grows.heard hx
    obtain ⟨x'', hx'', -, more⟩ := rest.grows.heard hy
    obtain rfl := Option.some.inj (hx'.symm.trans hx'')
    have intime := h.intime (j := j) fun z hz => Option.some.inj (hx.symm.trans hz) ▸ new
    rcases later.result hx' (same.trans purpose) intime ended with ⟨rfl, -⟩ | ⟨-, none⟩
    · exact ⟨w', alone, ended⟩
    · exact absurd (more _ _ heard) (none ticket)
  case once =>
    intro j k text₁ text₂ first second
    rcases h.follows.delivery with ⟨-, -, ungiven⟩ | ⟨l, -, unique⟩
    · exact absurd first (ungiven j text₁)
    · exact ⟨(unique j text₁ first).1.trans (unique k text₂ second).1.symm,
        (unique j text₁ first).2⟩
  case further =>
    intro k text' given w' runs distinct unevicted j x timeout new hx purpose
    have decided : ∀ {w'' y r}, Announced wallet i n id text w₁ w'' → Runs wallet w w'' →
      w''.callers j = some y →
        y.purpose = .wait id timeout → w''.Ended j r →
        r = .error (.notFound id "no pending submission with this id") := by
      intro w'' y r later runs hy purpose ended
      rcases later.result hy purpose (h.intime new) ended with ⟨-, ticket, took⟩ | ⟨r, -⟩
      · exact absurd took (h.not_took given new runs later.distinct later.unevicted hy)
      · exact r
    have later := h.later runs distinct unevicted
    constructor
    · exact fun r ended => decided later runs hx purpose ended
    · obtain ⟨r, w'', alone, ended, later'⟩ := later.ends hx purpose
      obtain ⟨y, hy, same, -⟩ := alone.grows.callers j x hx
      obtain rfl := decided later' (runs.trans alone.runs) hy (same.trans purpose) ended
      exact ⟨w'', alone, ended⟩
  case base => exact fun b s queue => wallet.wait_ticket id b s queue

/-!
## A first completion

A submission posts its record to the one who listens in the pool; he answers before the ticket is
left with the queue, and a wait comes when it is there.
-/

def mute : Backend Unit where
  address := .zero
  publicKey := .zero
  sign _ := throw (.unsupported "mute" "sign")
  signHash _ := throw (.unsupported "mute" "sign_hash")
  send _ _ := throw (.unsupported "mute" "sign_and_send")
  wait _ _ := throw (.unsupported "mute" "wait")

def muteQueue : QueueWallet Unit := ⟨mute, "pool", QueueWallet.standardLifetime⟩

def emptyDraft : Draft := ⟨.zero, .zero, 0, [], 21000, 0, 1, .legacy 1⟩

def noHints : Hints := ⟨none, none, none, none⟩

def firstId : String := idOf .zero 0 0

def firstChannel : String := completionChannel "pool" firstId

def firstTicket : Ticket := ⟨firstChannel, 1, 0⟩

def firstRecord : String := (Json.object (recordMembers firstId 0 emptyDraft noHints)).render

def firstCaller : Caller where
  purpose := .submission emptyDraft noHints
  rest := .ask (.register (.insert firstId firstTicket)) fun _ => .done (.ok (.ticket firstId))
  past :=
    [.asked 0 (.outside (.publish "pool" firstRecord)) (.ok 1),
      .asked 0 (.outside (.subscribe firstChannel)) (.ok 1),
      .asked 0 (.outside .date) (0 : Nat),
      .asked 0 (.register .count) (0 : Nat),
      .asked 0 (.outside .date) (0 : Nat),
      .asked 0 (.register (.expired QueueWallet.standardLifetime 0)) ([] : List String)]
  since := 0

def firstWait : Purpose := .wait firstId .zero

def listened : Traffic := { start with broker := (Broker.empty.subscribe "pool").2, guests := [0] }

def counted : Traffic := { listened with tickets := (listened.tickets.reply .count).2 }

def subscribed : Traffic := { counted with broker := (counted.broker.subscribe firstChannel).2 }

def recorded : Traffic := subscribed.publish "pool" firstRecord

def replied : Traffic := recorded.publish firstChannel "sent"

def stored : Traffic :=
  { replied with tickets := (replied.tickets.reply (.insert firstId firstTicket)).2 }

def awaited : Traffic :=
  (stored.setCaller 0
      (firstCaller.answered (.register (.insert firstId firstTicket)) ()
        (.done (.ok (.ticket firstId))) 0)).setCaller 1
    ⟨firstWait, muteQueue.program firstWait, [], 0⟩

theorem setCaller_setCaller {y : Caller} : (w.setCaller i x).setCaller i y = w.setCaller i y := by
  simp only [setCaller, Function.update_idem]

theorem publish_setCaller {c : String} :
    (w.setCaller i x).publish c text = (w.publish c text).setCaller i x := rfl

theorem Answers.setCaller {since : Nat} {q : Question} {a : q.Answer}
    (answered : w.Answers since q a w') :
    (w.setCaller i x).Answers since q a (w'.setCaller i x) := by
  cases q with
  | register r =>
    obtain ⟨rfl, rfl⟩ := answered
    exact ⟨rfl, rfl⟩
  | outside q =>
    cases q with
    | subscribe | publish | unsubscribe =>
      obtain ⟨rfl, rfl⟩ := answered
      exact ⟨rfl, rfl⟩
    | receive n timeout =>
      cases a with
      | message text =>
        obtain ⟨b, taken, rfl⟩ := answered
        exact ⟨b, taken, rfl⟩
      | late =>
        obtain ⟨due, empty, rfl⟩ := answered
        exact ⟨due, empty, rfl⟩
      | closed =>
        obtain ⟨empty, gone, rfl⟩ := answered
        exact ⟨empty, gone, rfl⟩
    | _ =>
      obtain rfl := answered
      rfl

theorem Happens.looks {next : Nat → Program Shared Result} (stands : x.rest = .clock next) :
    Happens wallet (w.setCaller i x)
    (w.setCaller i { x with rest := next w.time, since := w.time }) := by
  have act := Acts.looks (w.callers_setCaller_self (i := i)) stands
  rw [setCaller_setCaller] at act
  exact .acts act

theorem Happens.asks {q : Question} {next : q.Answer → Program Shared Result} {a : q.Answer}
    (stands : x.rest = .ask q next) (answered : w.Answers x.since q a w') :
    Happens wallet (w.setCaller i x) (w'.setCaller i (x.answered q a (next a) w.time)) := by
  have act := Acts.asks callers_setCaller_self stands answered.setCaller (i := i)
  rw [setCaller_setCaller] at act
  exact .acts act

theorem receivers_recorded : (subscribed.broker.publish "pool" firstRecord).1 = 1 := by
  have other : "pool" ≠ firstChannel := (completionChannel_ne "pool" firstId).symm
  have listed : subscribed.broker.subscribers "pool" = [0] := by
    apply Eq.trans (Broker.subscribers_subscribe _ _ _)
    exact if_neg other
  have live : subscribed.broker.live "pool" = [0] := by
    unfold Broker.live
    rw [listed]
    rfl
  exact congrArg List.length live

theorem runs_recorded : Runs muteQueue start (recorded.setCaller 0 firstCaller) := by
  have listens : Runs muteQueue start listened := .single (.visits (.subscribes "pool"))
  have calls := listens.tail (.calls (i := 0) (.submission emptyDraft noHints) rfl)
  have looks := calls.tail (.looks rfl)
  have evicts := looks.tail (.asks (a := ([] : List String)) rfl ⟨rfl, rfl⟩)
  have dates := evicts.tail (.asks (a := (0 : Nat)) rfl rfl)
  have counts := dates.tail (.asks (a := (0 : Nat)) rfl ⟨rfl, rfl⟩)
  have dates' := counts.tail (.asks (a := (0 : Nat)) rfl rfl)
  have subscribes := dates'.tail (.asks (a := (.ok 1 : Except QueueFailure Nat)) rfl ⟨rfl, rfl⟩)
  have looks' := subscribes.tail (.looks rfl)
  have receivers : (.ok 1 : Except QueueFailure Nat) = .ok _ :=
    congrArg Except.ok receivers_recorded.symm
  have publishes :=
    looks'.tail (.asks (a := (.ok 1 : Except QueueFailure Nat)) rfl ⟨receivers, rfl⟩)
  exact publishes

theorem runs_awaited : Runs muteQueue (replied.setCaller 0 firstCaller) awaited := by
  have leaves : Happens muteQueue (replied.setCaller 0 firstCaller) (stored.setCaller 0 _) :=
    .asks (a := ()) rfl ⟨rfl, rfl⟩
  exact (Relation.ReflTransGen.single leaves).tail (.calls firstWait rfl)

theorem heard_awaited {q : Question} {a : q.Answer} (hx : awaited.callers i = some x)
    (heard : x.Heard q a) :
    i = 0 ∧ (∀ id, q ≠ .register (.remove id)) ∧
      ∀ n timeout, q ≠ .outside (.receive n timeout) := by
  obtain ⟨t, ht⟩ := heard
  rcases callers_setCaller.mp hx with ⟨rfl, rfl⟩ | ⟨-, hx⟩
  · cases ht
  · rcases callers_setCaller.mp hx with ⟨rfl, rfl⟩ | ⟨other, hx⟩
    · simp only [Caller.answered, firstCaller, List.mem_cons, Program.Event.asked.injEq,
        List.not_mem_nil, or_false] at ht
      refine ⟨rfl, ?_, ?_⟩
      · rintro id rfl
        simp at ht
      · rintro n timeout rfl
        simp at ht
    · cases hx

theorem announced_awaited :
    Announced muteQueue 0 1 firstId "sent" (recorded.setCaller 0 firstCaller) awaited where
  before := runs_recorded
  posted := by
    have subscribed : firstCaller.Subscribed firstChannel 1 := ⟨0, by simp [firstCaller]⟩
    have posted : firstCaller.Posted "pool" :=
      ⟨firstRecord, 1, Nat.one_pos, 0, by simp [firstCaller]⟩
    exact ⟨firstCaller, callers_setCaller_self, subscribed, posted⟩
  first := by
    intro text earlier
    exact completionChannel_ne "pool" firstId (congrArg Prod.fst (List.mem_singleton.mp earlier))
  after := by
    rw [publish_setCaller]
    exact runs_awaited
  distinct := by
    intro id i j x y m n hx hy first second
    exact (heard_awaited hx first).1.trans (heard_awaited hy second).1.symm
  unevicted := by
    rintro ⟨i, x, tx, hints, ticket, hx, -, took⟩
    exact (heard_awaited hx took).2.1 firstId rfl

theorem firstWait_gets_completion :
    Announced muteQueue 0 1 firstId "sent" (recorded.setCaller 0 firstCaller) awaited ∧
      awaited.EndsAlone 1 (.error (.broker (.completion firstId "not a completion"))) := by
  constructor
  · exact announced_awaited
  · have reaches := completion_not_lost announced_awaited
    have ungiven : ∀ k text, ¬awaited.GivenBy 1 k text := by
      rintro k text ⟨x, hx, timeout, given⟩
      exact (heard_awaited hx given).2.2 1 timeout rfl
    have untaken : ∀ k x ticket, awaited.callers k = some x → x.Took firstId ticket →
      x.Left firstId := by
      intro k x ticket hx took
      exact absurd rfl ((heard_awaited hx took).2.1 firstId)
    have next := (reaches.next ungiven ⟨_, _, rfl, rfl⟩ untaken).2
    exact next 1 _ .zero rfl rfl rfl

end Traffic

end Queue

end Dispatch
