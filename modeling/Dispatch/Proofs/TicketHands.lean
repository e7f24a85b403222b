import Dispatch.Proofs.QueueTraffic

/-!
# What a caller has in hand

A submission subscribes, publishes its record and leaves its ticket with the queue; a wait takes the
ticket, and either leaves it again or uses it up. What a caller has in hand at a time follows from
what it was answered so far, and what it may ask next follows from what it has in hand.
-/

set_option autoImplicit false

namespace Dispatch

namespace Queue

/-! ## What a caller was answered -/

namespace Caller

def Heard (x : Caller) (q : Question) (a : q.Answer) : Prop := ∃ t, .asked t q a ∈ x.past

def Subscribed (x : Caller) (channel : String) (n : Nat) : Prop :=
  x.Heard (.outside (.subscribe channel)) (.ok n)

def Posted (x : Caller) (channel : String) : Prop :=
  ∃ payload receivers, 0 < receivers ∧ x.Heard (.outside (.publish channel payload)) (.ok receivers)

def Took (x : Caller) (id : String) (ticket : Ticket) : Prop := x.Heard (.register (.remove id))
    (some ticket)

def Left (x : Caller) (id : String) : Prop := ∃ ticket, x.Heard (.register (.insert id ticket)) ()

def Given (x : Caller) (n : Nat) (text : String) : Prop :=
  ∃ timeout, x.Heard (.outside (.receive n timeout)) (.message text)

def Late (x : Caller) : Prop := ∃ n timeout, x.Heard (.outside (.receive n timeout)) .late

def Cut (x : Caller) : Prop := ∃ n timeout, x.Heard (.outside (.receive n timeout)) .closed

variable {c id text : String} {n t : Nat} {ticket : Ticket} {x : Caller} {q : Question}
  {a : q.Answer} {rest : Program Shared Result}

theorem heard_answered {q' : Question} {a' : q'.Answer} :
    (x.answered q a rest t).Heard q' a' ↔ x.Heard q' a' ∨ q = q' ∧ a ≍ a' := by
  unfold Heard answered
  simp only [List.mem_cons, Program.Event.asked.injEq]
  grind

theorem subscribed_answered :
    (x.answered q a rest t).Subscribed c n ↔
      x.Subscribed c n ∨ q = .outside (.subscribe c) ∧ a ≍ (.ok n : Except QueueFailure Nat) :=
  heard_answered

theorem posted_answered :
    (x.answered q a rest t).Posted c ↔
      x.Posted c ∨ ∃ payload receivers, 0 < receivers ∧ q = .outside (.publish c payload) ∧
        a ≍ (.ok receivers : Except QueueFailure Nat) := by
  simp only [Posted, heard_answered, and_or_left, exists_or]

theorem took_answered :
    (x.answered q a rest t).Took id ticket ↔
      x.Took id ticket ∨ q = .register (.remove id) ∧ a ≍ some ticket :=
  heard_answered

theorem left_answered :
    (x.answered q a rest t).Left id ↔
      x.Left id ∨ ∃ ticket, q = .register (.insert id ticket) ∧ a ≍ () := by
  simp only [Left, heard_answered, exists_or]

theorem given_answered :
    (x.answered q a rest t).Given n text ↔
      x.Given n text ∨ ∃ timeout, q = .outside (.receive n timeout) ∧
        a ≍ Delivery.message text := by
  simp only [Given, heard_answered]
  grind

theorem late_answered :
    (x.answered q a rest t).Late ↔
      x.Late ∨ ∃ n timeout, q = .outside (.receive n timeout) ∧ a ≍ Delivery.late := by
  simp only [Late, heard_answered]
  grind

theorem cut_answered :
    (x.answered q a rest t).Cut ↔
      x.Cut ∨ ∃ n timeout, q = .outside (.receive n timeout) ∧ a ≍ Delivery.closed := by
  simp only [Cut, heard_answered]
  grind

end Caller

/-! ## Hands -/

/-- What comes of a message on the channel of an id: nothing that can be read, what the manager says
went wrong, or the hash. -/
def completed (id text : String) : Result :=
  match Completion.read? text.toList with
  | none => .error (.broker (.completion id "not a completion"))
  | some completion => completion.result.map Handle.hash

theorem map_readCompletion (id text : String) :
    (QueueWallet.readCompletion id text).map Handle.hash = completed id text := by
  unfold QueueWallet.readCompletion completed
  cases Completion.read? text.toList <;> rfl

inductive Hand where
  | free
  | drafted (channel : String) (n : Nat)
  | posted (channel : String) (n : Nat)
  | looking (id : String)
  | holding (id : String) (ticket : Ticket)
  | late (id : String) (ticket : Ticket)
  | releasing (channel : String) (n : Nat) (next : Hand)
  | due (r : Result)
  | finished

namespace Hand

def after : Hand → (q : Question) → q.Answer → Hand
  | .free, .register (.remove _), a =>
    match (a : Option Ticket) with
    | some ticket => .releasing ticket.channel ticket.subscription .free
    | none => .free
  | .free, .outside (.subscribe channel), a =>
    match (a : Except QueueFailure Nat) with
    | .ok n => .drafted channel n
    | .error _ => .finished
  | .drafted channel n, .outside (.publish _ _), a =>
    match (a : Except QueueFailure Nat) with
    | .ok (_ + 1) => .posted channel n
    | _ => .releasing channel n .finished
  | .posted _ _, .register (.insert id _), _ => .due (.ok (.ticket id))
  | .looking id, .register (.remove _), a =>
    match (a : Option Ticket) with
    | some ticket => .holding id ticket
    | none => .due (.error (.notFound id "no pending submission with this id"))
  | .holding id ticket, .outside (.receive _ _), a =>
    match (a : Delivery) with
    | .message text => .releasing ticket.channel ticket.subscription (.due (completed id text))
    | .late => .late id ticket
    | .closed =>
        .releasing ticket.channel ticket.subscription (.due (.error (.broker (.channelClosed id))))
  | .late _ _, .register (.insert _ _), _ => .finished
  | .releasing _ _ next, .outside (.drop _), _ => next
  | h, _, _ => h

/-- What may be asked with a hand, in a pool. -/
inductive Permits (pool : String) : Hand → Question → Prop where
  | date : Permits pool .free (.outside .date)
  | count : Permits pool .free (.register .count)
  | expired (lifetime : Duration) (time : Nat) :
      Permits pool .free (.register (.expired lifetime time))
  | evict (id : String) : Permits pool .free (.register (.remove id))
  | forget (channel : String) : Permits pool .free (.outside (.unsubscribe channel))
  | subscribe (id : String) : Permits pool .free (.outside (.subscribe (completionChannel pool id)))
  | publish (channel : String) (n : Nat) (payload : String) :
      Permits pool (.drafted channel n) (.outside (.publish pool payload))
  | leave (id : String) (n time : Nat) :
      Permits pool (.posted (completionChannel pool id) n)
        (.register (.insert id ⟨completionChannel pool id, n, time⟩))
  | look (id : String) : Permits pool (.looking id) (.register (.remove id))
  | listen (id : String) (ticket : Ticket) (timeout : Duration) :
      Permits pool (.holding id ticket) (.outside (.receive ticket.subscription timeout))
  | putBack (id : String) (ticket : Ticket) :
      Permits pool (.late id ticket) (.register (.insert id ticket))
  | drop (channel : String) (n : Nat) (next : Hand) :
      Permits pool (.releasing channel n next) (.outside (.drop n))
  | forgetDue (r : Result) (channel : String) :
      Permits pool (.due r) (.outside (.unsubscribe channel))
  | forgetLast (channel : String) : Permits pool .finished (.outside (.unsubscribe channel))

theorem Permits.free_of_subscribe {pool channel : String} {h : Hand}
    (hp : h.Permits pool (.outside (.subscribe channel))) : h = .free := by
  cases hp
  rfl

def Allows : Hand → Result → Prop
  | .free, r => ∃ failure, r = .error failure
  | .due r', r => r = r'
  | .finished, _ => True
  | _, _ => False

/-- From a hand the program asks only what it may, whatever it is answered, and ends with a hand and
a result as wanted. It never sleeps. -/
def Orderly {α : Type} (pool : String) (wanted : Hand → α → Prop) : Hand → Program Shared α → Prop
  | h, .done a => wanted h a
  | h, .ask q next => h.Permits pool q ∧ ∀ a, Orderly pool wanted (h.after q a) (next a)
  | _, .sleep _ _ => False
  | h, .clock next => ∀ t, Orderly pool wanted h (next t)

section
variable {pool : String} {α β : Type} {h : Hand}

theorem Orderly.bind {middle : Hand → α → Prop} {wanted : Hand → β → Prop} {p : Program Shared α}
    {f : α → Program Shared β} (hp : Orderly pool middle h p)
    (hf : ∀ h a, middle h a → Orderly pool wanted h (f a)) : Orderly pool wanted h (p.bind f) := by
  induction p generalizing h with
  | done a => exact hf h a hp
  | ask q next ih => exact ⟨hp.1, fun a => ih a (hp.2 a)⟩
  | sleep d next ih => exact hp.elim
  | clock next ih => exact fun t => ih t (hp t)

theorem Orderly.bindStep {middle : Hand → Except QueueFailure α → Prop}
    {wanted : Hand → Except QueueFailure β → Prop} {p : QueueWallet.Step α}
    {f : α → QueueWallet.Step β} (hp : Orderly pool middle h p.run)
    (ok : ∀ h a, middle h (.ok a) → Orderly pool wanted h (f a).run)
    (error : ∀ h e, middle h (.error e) → wanted h (.error e)) :
    Orderly pool wanted h (p >>= f).run := by
  apply Orderly.bind hp
  intro h r hr
  cases r with
  | ok a => exact ok h a hr
  | error e => exact error h e hr

end

end Hand

def Purpose.hand : Purpose → Hand
  | .submission _ _ => .free
  | .wait id _ => .looking id

namespace Caller

def hand (x : Caller) : Hand :=
  x.past.foldr (fun
    | .asked _ q a, h => h.after q a
    | .slept _ _, h => h) x.purpose.hand

@[simp] theorem hand_answered (x : Caller) (q : Question) (a : q.Answer)
    (rest : Program Shared Result) (t : Nat) :
    (x.answered q a rest t).hand = x.hand.after q a := rfl

/-- It can be trusted: the rest of its program goes orderly. -/
def Trusted (pool : String) (x : Caller) : Prop := x.hand.Orderly pool Hand.Allows x.rest

end Caller

end Queue

namespace QueueWallet

open Queue Queue.Hand

variable {σ : Type} {pool : String}

theorem orderly_evict (ids : List String) :
    Orderly pool (fun h r => h = .free ∧ r = .ok ()) .free (evict ids).run := by
  induction ids with
  | nil => exact ⟨rfl, rfl⟩
  | cons id ids ih =>
    constructor
    · exact .evict id
    · intro ticket
      cases ticket with
      | none => exact ih
      | some ticket => exact ⟨.drop _ _ _, fun _ => ⟨.forget _, fun _ => ih⟩⟩

theorem orderly_evictExpired (q : QueueWallet σ) :
    Orderly pool (fun h r => h = .free ∧ r = .ok ()) .free q.evictExpired.run := by
  intro time
  exact ⟨.expired _ _, fun ids => orderly_evict ids⟩

theorem orderly_freshId (q : QueueWallet σ) :
    Orderly pool (fun h r => h = .free ∧ ∃ id, r = .ok id) .free q.freshId.run :=
  ⟨.date, fun _ => ⟨.count, fun _ => ⟨rfl, _, rfl⟩⟩⟩

theorem orderly_publish (q : QueueWallet σ) (id payload : String) (ticket : Ticket) :
    Orderly q.pool
      (fun h r => match r with
        | .ok _ => h = .posted ticket.channel ticket.subscription
        | .error _ => h = .finished)
      (.drafted ticket.channel ticket.subscription) (q.publish id payload ticket).run := by
  constructor
  · exact .publish _ _ _
  · intro answer
    cases answer with
    | error failure => exact ⟨.drop _ _ _, fun _ => ⟨.forgetLast _, fun _ => rfl⟩⟩
    | ok receivers =>
      cases receivers with
      | zero => exact ⟨.drop _ _ _, fun _ => ⟨.forgetLast _, fun _ => rfl⟩⟩
      | succ more => rfl

theorem orderly_posted (q : QueueWallet σ) (id payload : String) (n time : Nat) :
    Orderly q.pool Allows (.drafted (completionChannel q.pool id) n)
      (do
        q.publish id payload ⟨completionChannel q.pool id, n, time⟩
        insert id ⟨completionChannel q.pool id, n, time⟩
        return Handle.ticket id : Step Handle).run := by
  apply Orderly.bindStep (q.orderly_publish id payload ⟨completionChannel q.pool id, n, time⟩)
  · intro h _ hh
    subst hh
    exact ⟨.leave id n time, fun _ => rfl⟩
  · intro h e hh
    subst hh
    trivial

theorem orderly_enqueue (q : QueueWallet σ) (tx : Draft) (hints : Hints) :
    Orderly q.pool Allows .free (q.enqueue tx hints).run := by
  apply Orderly.bindStep q.orderly_evictExpired
  · rintro h _ ⟨rfl, -⟩
    apply Orderly.bindStep q.orderly_freshId
    · rintro h id ⟨rfl, -⟩
      constructor
      · exact .date
      · intro (nanos : Nat)
        show Orderly q.pool Allows .free
          (ExceptT.run (ExceptT.mk (pure (record id (.ofNat (nanos / 1000000000)) tx hints)) >>= _))
        cases record id (.ofNat (nanos / 1000000000)) tx hints with
        | error failure => exact ⟨failure, rfl⟩
        | ok members =>
          constructor
          · exact .subscribe id
          · intro subscription
            cases subscription with
            | error failure => trivial
            | ok n => exact fun time => q.orderly_posted id members.render n time
    · rintro h e ⟨-, id, he⟩
      cases he
  · rintro h e ⟨-, he⟩
    cases he

theorem orderly_awaitCompletion (id : String) (timeout : Duration) :
    Orderly pool (fun h r => h.Allows (r.map Handle.hash)) (.looking id)
    (awaitCompletion id timeout).run := by
  constructor
  · exact .look id
  · intro found
    cases found with
    | none => rfl
    | some ticket =>
      intro started
      constructor
      · exact .listen id ticket timeout
      · intro delivery
        cases delivery with
        | late => exact ⟨.putBack id ticket, fun _ _ => trivial⟩
        | closed => exact ⟨.drop _ _ _, fun _ => ⟨.forgetDue _ _, fun _ => rfl⟩⟩
        | message text =>
            exact ⟨.drop _ _ _, fun _ => ⟨.forgetDue _ _, fun _ => map_readCompletion id text⟩⟩

theorem orderly_program (q : QueueWallet σ) (p : Purpose) :
    Orderly q.pool Allows p.hand (q.program p) := by
  cases p with
  | submission tx hints => exact q.orderly_enqueue tx hints
  | wait id timeout => exact Orderly.bind (orderly_awaitCompletion id timeout) fun _ _ hr => hr

end QueueWallet

namespace Queue

/-! ## What a hand tells of the past -/

namespace Caller

open Hand

variable {pool id : String} {t : Nat} {ticket : Ticket} {x : Caller} {h : Hand} {q : Question}
  {a : q.Answer} {rest : Program Shared Result}

def SubscribedOnly (x : Caller) (channel : String) (n : Nat) : Prop :=
  ∀ c m, x.Subscribed c m ↔ c = channel ∧ m = n

def Submits (pool : String) (x : Caller) : Hand → Prop
  | .free | .releasing _ _ .free => (∀ c n, ¬x.Subscribed c n) ∧ ¬x.Posted pool
  | .drafted c n | .releasing c n .finished => x.SubscribedOnly c n ∧ ¬x.Posted pool
  | .posted c n => x.SubscribedOnly c n
  | .due r => ∃ id n, r = .ok (.ticket id) ∧ x.SubscribedOnly (completionChannel pool id) n
  | .finished => (∀ c n c' n', x.Subscribed c n → x.Subscribed c' n' → c = c' ∧ n = n') ∧
      ¬x.Posted pool
  | _ => False

def Awaits (id : String) (x : Caller) : Hand → Prop
  | .looking id' => id' = id ∧ x.past = []
  | .holding id' ticket => id' = id ∧ x.Took id ticket ∧ ¬x.Late ∧ (∀ n text, ¬x.Given n text) ∧
      ¬x.Left id
  | .late id' ticket => id' = id ∧ x.Took id ticket ∧ x.Late ∧ (∀ n text, ¬x.Given n text) ∧
      ¬x.Left id
  | .finished => x.Late ∧ ∀ n text, ¬x.Given n text
  | .releasing c n next => ∃ ticket r, next = .due r ∧ x.Took id ticket ∧ c = ticket.channel ∧
      n = ticket.subscription ∧ (x.Cut ∨ ∃ text, x.Given n text ∧ r = completed id text)
  | .due r => (r = .error (.notFound id "no pending submission with this id") ∧
      ∀ ticket, ¬x.Took id ticket) ∨
      ∃ ticket, x.Took id ticket ∧
        (x.Cut ∨ ∃ text, x.Given ticket.subscription text ∧ r = completed id text)
  | _ => False

theorem Submits.kept (hs : x.Submits pool h) (subscribe : ∀ c, q ≠ .outside (.subscribe c))
    (publish : ∀ payload, q ≠ .outside (.publish pool payload)) :
    (x.answered q a rest t).Submits pool h := by
  have same : ∀ c n, (x.answered q a rest t).Subscribed c n ↔ x.Subscribed c n := by
    intro c n
    simp [subscribed_answered, subscribe]
  have posted : (x.answered q a rest t).Posted pool ↔ x.Posted pool := by
    simp [posted_answered, publish]
  unfold Submits at hs ⊢
  simpa only [SubscribedOnly, same, posted] using hs

theorem Submits.answered (hs : x.Submits pool h) (hp : h.Permits pool q) :
    (x.answered q a rest t).Submits pool (h.after q a) := by
  cases hp with
  | date | count | expired | forget | forgetDue | forgetLast => exact hs.kept (by simp) (by simp)
  | evict id =>
    have kept : (x.answered (.register (.remove id)) a rest t).Submits pool .free :=
      hs.kept (by simp) (by simp)
    cases a with
    | none => exact kept
    | some ticket => exact kept
  | subscribe id =>
    obtain ⟨none, unposted⟩ := hs
    cases a with
    | error failure =>
      constructor
      · simp [subscribed_answered, none]
      · simpa [posted_answered] using unposted
    | ok n =>
      constructor
      · intro c m
        simp [subscribed_answered, none, eq_comm]
      · simpa [posted_answered] using unposted
  | publish channel n payload =>
    obtain ⟨only, unposted⟩ := hs
    have kept : (x.answered (.outside (.publish pool payload)) a rest t).SubscribedOnly
      channel n := by
      intro c m
      simp [subscribed_answered, only c m]
    cases a with
    | error failure =>
      constructor
      · exact kept
      · simpa [posted_answered] using unposted
    | ok receivers =>
      cases receivers with
      | zero =>
        constructor
        · exact kept
        · simp [posted_answered, unposted]
      | succ more => exact kept
  | leave id n time => exact ⟨id, n, rfl, hs.kept (by simp) (by simp)⟩
  | drop c n next =>
    cases next with
    | free => exact Submits.kept (h := .free) hs (by simp) (by simp)
    | finished =>
      apply Submits.kept (h := .finished) _ (by simp) (by simp)
      constructor
      · intro c' n' c'' n'' h' h''
        obtain ⟨rfl, rfl⟩ := (hs.1 c' n').mp h'
        obtain ⟨rfl, rfl⟩ := (hs.1 c'' n'').mp h''
        exact ⟨rfl, rfl⟩
      · exact hs.2
    | _ => exact hs.elim
  | look | listen | putBack => exact hs.elim

theorem Awaits.kept (hs : x.Awaits id h) (looking : ∀ id, h ≠ .looking id)
    (register : ∀ r, q ≠ .register r) (receive : ∀ n timeout, q ≠ .outside (.receive n timeout)) :
    (x.answered q a rest t).Awaits id h := by
  have took : ∀ ticket, (x.answered q a rest t).Took id ticket ↔ x.Took id ticket := by
    intro ticket
    simp [took_answered, register]
  have left : (x.answered q a rest t).Left id ↔ x.Left id := by
    simp [left_answered, register]
  have given : ∀ n text, (x.answered q a rest t).Given n text ↔ x.Given n text := by
    intro n text
    simp [given_answered, receive]
  have late : (x.answered q a rest t).Late ↔ x.Late := by
    simp [late_answered, receive]
  have cut : (x.answered q a rest t).Cut ↔ x.Cut := by
    simp [cut_answered, receive]
  cases h with
  | looking id' => exact absurd rfl (looking id')
  | free | drafted | posted => exact hs
  | _ =>
    unfold Awaits at hs ⊢
    simpa only [took, left, given, late, cut] using hs

theorem Awaits.answered (hs : x.Awaits id h) (hp : h.Permits pool q) :
    (x.answered q a rest t).Awaits id (h.after q a) := by
  cases hp with
  | date | count | expired | forget | evict | subscribe | publish | leave => exact hs.elim
  | look id' =>
    obtain ⟨rfl, new⟩ := hs
    have nothing : ∀ q a, ¬x.Heard q a := by simp [Heard, new]
    cases a with
    | none =>
      left
      constructor
      · rfl
      · simp [Took, heard_answered, nothing]
    | some ticket =>
      refine ⟨rfl, ?_, ?_, ?_, ?_⟩
      · simp [took_answered]
      · simp [Late, heard_answered, nothing]
      · simp [Given, heard_answered, nothing]
      · simp [Left, heard_answered, nothing]
  | listen id' ticket timeout =>
    obtain ⟨rfl, took, punctual, ungiven, kept⟩ := hs
    have took : (x.answered (.outside (.receive ticket.subscription timeout)) a rest t).Took id'
      ticket :=
      took_answered.mpr (.inl took)
    cases a with
    | message text =>
      refine ⟨ticket, _, rfl, took, rfl, rfl, .inr ⟨text, ?_, rfl⟩⟩
      simp [given_answered]
    | late =>
      refine ⟨rfl, took, ?_, ?_, ?_⟩
      · simp [late_answered]
      · simp [given_answered, ungiven]
      · simp [left_answered, kept]
    | closed =>
      refine ⟨ticket, _, rfl, took, rfl, rfl, .inl ?_⟩
      simp [cut_answered]
  | putBack id' ticket =>
    obtain ⟨rfl, took, overdue, ungiven, -⟩ := hs
    constructor
    · exact late_answered.mpr (.inl overdue)
    · simpa [given_answered] using ungiven
  | drop c n next =>
    obtain ⟨ticket, r, rfl, took, rfl, rfl, heard⟩ := hs
    apply Awaits.kept (h := .due r) _ (by simp) (by simp) (by simp)
    exact .inr ⟨ticket, took, heard⟩
  | forgetDue | forgetLast => exact hs.kept (by simp) (by simp) (by simp)

def Tells (pool : String) (x : Caller) : Prop :=
  match x.purpose with
  | .submission _ _ => x.Submits pool x.hand ∧ ∀ n text, ¬x.Given n text
  | .wait id _ => x.Awaits id x.hand ∧ (∀ c n, ¬x.Subscribed c n) ∧
      ∀ id' ticket, x.Took id' ticket → id' = id

theorem tells_new (p : Purpose) : Tells pool ⟨p, rest, [], t⟩ := by
  cases p with
  | submission tx hints =>
      simp [Tells, hand, Purpose.hand, Submits, Subscribed, Posted, Given, Heard]
  | wait id timeout => simp [Tells, hand, Purpose.hand, Awaits, Subscribed, Took, Heard]

theorem Tells.answered (hx : x.Tells pool) (hp : x.hand.Permits pool q) :
    (x.answered q a rest t).Tells pool := by
  obtain ⟨p, _, _, _⟩ := x
  cases p with
  | submission tx hints =>
    constructor
    · exact hx.1.answered hp
    · intro n text given
      rcases given_answered.mp given with given | ⟨timeout, rfl, -⟩
      · exact hx.2 n text given
      · have submits := hx.1
        generalize hh : Caller.hand _ = h at hp submits
        cases hp
        exact submits
  | wait id timeout =>
    refine ⟨hx.1.answered hp, ?_, ?_⟩
    · intro c n subscribed
      rcases subscribed_answered.mp subscribed with subscribed | ⟨rfl, -⟩
      · exact hx.2.1 c n subscribed
      · have awaits := hx.1
        generalize hh : Caller.hand _ = h at hp awaits
        cases hp
        exact awaits
    · intro id' ticket took
      rcases took_answered.mp took with took | ⟨rfl, -⟩
      · exact hx.2.2 id' ticket took
      · have awaits := hx.1
        generalize hh : Caller.hand _ = h at hp awaits
        cases hp with
        | evict => exact awaits.elim
        | look => exact awaits.1

theorem Tells.submission (hx : x.Tells pool) {tx : Draft} {hints : Hints}
    (hp : x.purpose = .submission tx hints) :
    x.Submits pool x.hand ∧ ∀ n text, ¬x.Given n text := by
  unfold Tells at hx
  rwa [hp] at hx

theorem Tells.wait (hx : x.Tells pool) {timeout : Duration} (hp : x.purpose = .wait id timeout) :
    x.Awaits id x.hand ∧ (∀ c n, ¬x.Subscribed c n) ∧ ∀ id' ticket, x.Took id' ticket →
      id' = id := by
  unfold Tells at hx
  rwa [hp] at hx

theorem Tells.submits_or_awaits (hx : x.Tells pool) : x.Submits pool x.hand ∨
    ∃ id, x.Awaits id x.hand := by
  cases hp : x.purpose with
  | submission tx hints => exact .inl (hx.submission hp).1
  | wait id timeout => exact .inr ⟨id, (hx.wait hp).1⟩

theorem Tells.awaits_of_hand (hx : x.Tells pool)
    (hh : x.hand = .holding id ticket ∨ x.hand = .late id ticket) :
    x.Awaits id x.hand := by
  rcases hx.submits_or_awaits with submits | ⟨id', awaits⟩
  · rcases hh with hh | hh <;> rw [hh] at submits <;> exact submits.elim
  · have same : id = id' := by
      rcases hh with hh | hh <;> rw [hh] at awaits <;> exact awaits.1
    exact same ▸ awaits

theorem Tells.took_of_hand (hx : x.Tells pool)
    (hh : x.hand = .holding id ticket ∨ x.hand = .late id ticket) :
    x.Took id ticket := by
  have awaits := hx.awaits_of_hand hh
  rcases hh with hh | hh <;> rw [hh] at awaits <;> exact awaits.2.1

theorem Tells.not_left_of_hand (hx : x.Tells pool)
    (hh : x.hand = .holding id ticket ∨ x.hand = .late id ticket) :
    ¬x.Left id := by
  have awaits := hx.awaits_of_hand hh
  rcases hh with hh | hh <;> rw [hh] at awaits <;> exact awaits.2.2.2.2

theorem Tells.not_given (hx : x.Tells pool)
    (hh : (∃ c n, x.hand = .posted c n) ∨ ∃ id ticket, x.hand = .holding id ticket ∨
      x.hand = .late id ticket)
    (m : Nat) (text : String) : ¬x.Given m text := by
  cases hp : x.purpose with
  | submission tx hints =>
    exact (hx.submission hp).2 m text
  | wait id' timeout =>
    have awaits := (hx.wait hp).1
    rcases hh with ⟨c, n, hh⟩ | ⟨id, ticket, hh | hh⟩ <;> rw [hh] at awaits
    · exact awaits.elim
    · exact awaits.2.2.2.1 m text
    · exact awaits.2.2.2.1 m text

theorem Tells.of_releasing (hx : x.Tells pool) {c : String} {n : Nat} {next : Hand}
    (hh : x.hand = .releasing c n next) : next = .free ∨ next = .finished ∨ ∃ r, next = .due r := by
  rcases hx.submits_or_awaits with submits | ⟨id, awaits⟩
  · rw [hh] at submits
    cases next with
    | free => exact .inl rfl
    | finished => exact .inr (.inl rfl)
    | _ => exact submits.elim
  · rw [hh] at awaits
    obtain ⟨_, r, rfl, -⟩ := awaits
    exact .inr (.inr ⟨r, rfl⟩)

theorem Tells.subscribed_unique (hx : x.Tells pool) {c c' : String} {n n' : Nat}
    (first : x.Subscribed c n) (second : x.Subscribed c' n') : c = c' ∧ n = n' := by
  have unique : ∀ {channel m}, x.SubscribedOnly channel m → c = c' ∧ n = n' := by
    intro channel m only
    obtain ⟨rfl, rfl⟩ := (only c n).mp first
    obtain ⟨rfl, rfl⟩ := (only c' n').mp second
    exact ⟨rfl, rfl⟩
  cases hp : x.purpose with
  | wait id timeout =>
    exact absurd first ((hx.wait hp).2.1 c n)
  | submission tx hints =>
    have submits := (hx.submission hp).1
    cases hh : x.hand with
    | free =>
      rw [hh] at submits
      exact absurd first (submits.1 c n)
    | drafted channel m =>
      rw [hh] at submits
      exact unique submits.1
    | posted channel m =>
      rw [hh] at submits
      exact unique submits
    | releasing channel m next =>
      rw [hh] at submits
      cases next with
      | free => exact absurd first (submits.1 c n)
      | finished => exact unique submits.1
      | _ => exact submits.elim
    | due r =>
      rw [hh] at submits
      obtain ⟨id, m, -, only⟩ := submits
      exact unique only
    | finished =>
      rw [hh] at submits
      exact submits.1 c n c' n' first second
    | _ =>
      rw [hh] at submits
      exact submits.elim

theorem Tells.subscribed_of_drafted (hx : x.Tells pool) {c : String} {n : Nat}
    (hh : x.hand = .drafted c n) :
    x.Subscribed c n := by
  rcases hx.submits_or_awaits with submits | ⟨id, awaits⟩
  · rw [hh] at submits
    exact (submits.1 c n).mpr ⟨rfl, rfl⟩
  · rw [hh] at awaits
    exact awaits.elim

theorem Tells.subscribed_of_posted (hx : x.Tells pool) {c : String} {n : Nat}
    (hh : x.hand = .posted c n) :
    x.Subscribed c n := by
  rcases hx.submits_or_awaits with submits | ⟨id, awaits⟩
  · rw [hh] at submits
    exact (submits c n).mpr ⟨rfl, rfl⟩
  · rw [hh] at awaits
    exact awaits.elim

theorem Tells.not_posted_of_free (hx : x.Tells pool) (hh : x.hand = .free) : ¬x.Posted pool := by
  rcases hx.submits_or_awaits with submits | ⟨id, awaits⟩
  · rw [hh] at submits
    exact submits.2
  · rw [hh] at awaits
    exact awaits.elim

end Caller

end Queue

end Dispatch
