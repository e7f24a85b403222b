import Dispatch.Proofs.Completions
import Dispatch.Proofs.OutsideCourse
import Dispatch.Proofs.QueueRecords
import Dispatch.Proofs.TicketOwners

/-!
# What a submission to a queue asks

A submission first lets go of expired tickets. Then it makes a record, subscribes, and publishes, in
this order, so that a draft without a record fails before anything else is touched.
-/

set_option autoImplicit false

namespace Dispatch
open Program (Environment Event Moment)

namespace QueueWallet
open Queue

/-! ## Courses of steps -/

section
variable {σ τ α β : Type} {env : Environment Outside τ} {tickets tickets' : Queue.State}
  {u v : Moment τ} {es : List (Event Outside)} {r : Except QueueFailure α}
  {r' : Except QueueFailure β}

/-- From `u` with these tickets a step goes through `es` to the result `r` at `v`, and leaves other
tickets. -/
def Leads (env : Environment Outside τ) (p : Step α) (tickets : Queue.State) (u : Moment τ)
    (es : List (Event Outside)) (r : Except QueueFailure α) (tickets' : Queue.State)
    (v : Moment τ) : Prop :=
  Program.Leads env (p.run.interpret (J := Outside) Queue.State.answer tickets) u es (r, tickets') v

theorem leads_result {x : Except QueueFailure α} :
    Leads env (ExceptT.mk (pure x)) tickets u es r tickets' v ↔ es = [] ∧ r = x ∧
      tickets' = tickets ∧ v = u := by
  refine Program.leads_done.trans ?_
  rw [Prod.mk.injEq, and_assoc]

theorem leads_pure {a : α} :
    Leads env (pure a) tickets u es r tickets' v ↔ es = [] ∧ r = .ok a ∧ tickets' = tickets ∧
      v = u := leads_result

theorem leads_throw {e : QueueFailure} :
    Leads env (throw e) tickets u es r tickets' v ↔ es = [] ∧ r = .error e ∧
      tickets' = tickets ∧ v = u :=
  leads_result

theorem leads_bind {p : Step α} {f : α → Step β} :
    Leads env (p >>= f) tickets u es r' tickets' v ↔
      (∃ e, Leads env p tickets u es (.error e) tickets' v ∧ r' = .error e) ∨
      ∃ es₁ a m w es₂, Leads env p tickets u es₁ (.ok a) m w ∧
        Leads env (f a) m w es₂ r' tickets' v ∧
        es = es₁ ++ es₂ := by
  have split : (p >>= f).run.interpret (J := Outside) Queue.State.answer tickets =
      (p.run.interpret (J := Outside) Queue.State.answer tickets).bind fun done =>
        Program.interpret (J := Outside) Queue.State.answer (ExceptT.bindCont f done.1) done.2 :=
    Program.interpret_bind _ _ _ _
  rw [Leads, split, Program.leads_bind]
  constructor
  · rintro ⟨es₁, ⟨e | a, m⟩, w, es₂, first, last, rfl⟩
    · obtain ⟨rfl, result, rfl⟩ := Program.leads_done.mp last
      obtain ⟨rfl, rfl⟩ := Prod.mk.inj result
      exact .inl ⟨e, by rwa [List.append_nil], rfl⟩
    · exact .inr ⟨es₁, a, m, w, es₂, first, last, rfl⟩
  · rintro (⟨e, first, rfl⟩ | ⟨es₁, a, m, w, es₂, first, last, rfl⟩)
    · exact ⟨es, _, v, [], first, Program.leads_done.mpr ⟨rfl, rfl, rfl⟩, (List.append_nil es).symm⟩
    · exact ⟨es₁, _, w, es₂, first, last, rfl⟩

theorem leads_attempt {p : Program Outside (Except QueueFailure α)} :
    Leads env (attempt p) tickets u es r tickets' v ↔ Program.Leads env p u es r v ∧
      tickets' = tickets := by
  have shared : (attempt p).run.interpret (J := Outside) Queue.State.answer tickets =
      p.bind fun r => .done (r, tickets) := interpret_share p tickets
  rw [Leads, shared, Program.leads_bind_done]
  constructor
  · rintro ⟨_, course, result⟩
    obtain ⟨rfl, rfl⟩ := Prod.mk.inj result
    exact ⟨course, rfl⟩
  · rintro ⟨course, rfl⟩
    exact ⟨r, course, rfl⟩

theorem leads_ask_bind {p : Program Outside α} {f : α → Step β} :
    Leads env (ask p >>= f) tickets u es r' tickets' v ↔
      ∃ es₁ a w es₂, Program.Leads env p u es₁ a w ∧ Leads env (f a) tickets w es₂ r' tickets' v ∧
        es = es₁ ++ es₂ := by
  have shared : (ask p >>= f).run.interpret (J := Outside) Queue.State.answer tickets =
      p.bind fun a => (f a).run.interpret (J := Outside) Queue.State.answer tickets := by
    have lifted : (ask p).run.interpret (J := Outside) Queue.State.answer tickets =
        p.bind fun a => .done (.ok a, tickets) := by
      refine (Program.interpret_bind (J := Outside) Queue.State.answer (share p) _ tickets).trans ?_
      rw [interpret_share, Program.bind_assoc]
      rfl
    refine (Program.interpret_bind (J := Outside) Queue.State.answer (ask p).run _ tickets).trans ?_
    rw [lifted, Program.bind_assoc]
    rfl
  rw [Leads, shared, Program.leads_bind]
  rfl

theorem leads_register_bind {q : Register} {f : q.Answer → Step β} :
    Leads env (ExceptT.lift (.ask (I := Shared) (.register q) .done) >>= f) tickets u es r'
      tickets' v ↔
      Leads env (f (tickets.reply q).1) (tickets.reply q).2 u es r' tickets' v := Iff.rfl

theorem mapError_ok {ε ε' : Type} {f : ε → ε'} {x : Except ε α} {a : α} : x.mapError f = .ok a ↔
    x = .ok a := by
  cases x <;> simp [Except.mapError]

theorem leads_ofStep {p : Step α} {s s' : σ} {r : Except Failure α} :
    Action.Leads env (ofStep p) (s, tickets) u es r (s', tickets') v ↔
      ∃ r₀, Leads env p tickets u es r₀ tickets' v ∧ r = r₀.mapError Failure.queue ∧ s' = s := by
  refine Program.leads_bind.trans ?_
  constructor
  · rintro ⟨es₁, ⟨r₀, m⟩, w, es₂, course, last, rfl⟩
    obtain ⟨rfl, result, rfl⟩ := Program.leads_done.mp last
    obtain ⟨outcome, states⟩ := Prod.mk.inj result
    obtain ⟨rfl, rfl⟩ := Prod.mk.inj states
    refine ⟨r₀, by rwa [List.append_nil], ?_, rfl⟩
    rw [outcome]
    cases r₀ <;> rfl
  · rintro ⟨r₀, course, rfl, rfl⟩
    refine ⟨es, _, v, [], course, Program.leads_done.mpr ⟨rfl, ?_, rfl⟩, (List.append_nil es).symm⟩
    cases r₀ <;> rfl

/-! ## Parts of a submission -/

def LetsGo (ticket : Ticket) (e : Event Outside) : Prop :=
  (∃ t answer, e = .asked t (OutsideQuestion.drop ticket.subscription) answer) ∨
    ∃ t answer, e = .asked t (OutsideQuestion.unsubscribe ticket.channel) answer

theorem leads_release {ticket : Ticket} {r : Except QueueFailure Unit}
    (h : Leads env (release ticket) tickets u es r tickets' v) :
    r = .ok () ∧ tickets' = tickets ∧ ∀ e ∈ es, LetsGo ticket e := by
  obtain ⟨_, _, _, _, dropped, rest, rfl⟩ := leads_ask_bind.mp h
  obtain ⟨_, _, _, _, forgot, last, rfl⟩ := leads_ask_bind.mp rest
  obtain ⟨rfl, rfl, rfl, rfl⟩ := leads_pure.mp last
  obtain ⟨-, rfl, -⟩ := Program.leads_ask_done.mp dropped
  obtain ⟨-, rfl, -⟩ := Program.leads_ask_done.mp forgot
  refine ⟨rfl, rfl, ?_⟩
  intro e he
  rcases List.mem_cons.mp he with rfl | he
  · exact .inl ⟨_, _, rfl⟩
  · exact .inr ⟨_, _, List.mem_singleton.mp he⟩

/-- What is done for the tickets of some ids. -/
def LetsGoOf (tickets : Queue.State) (ids : List String) (e : Event Outside) : Prop :=
  ∃ id ∈ ids, ∃ ticket, tickets.pending.lookup id = some ticket ∧ LetsGo ticket e

theorem LetsGoOf.of_remove {id : String} {ids : List String} {e : Event Outside}
    (h : LetsGoOf (tickets.remove id) ids e) : LetsGoOf tickets (id :: ids) e := by
  obtain ⟨id', listed, ticket, found, go⟩ := h
  refine ⟨id', List.mem_cons_of_mem id listed, ticket, ?_, go⟩
  rw [State.lookup_remove] at found
  split at found
  · cases found
  · exact found

def without (tickets : Queue.State) (ids : List String) : Queue.State :=
  { tickets with pending := tickets.pending.filter fun entry => entry.1 ∉ ids }

theorem without_remove (tickets : Queue.State) (id : String) (ids : List String) :
    without (tickets.remove id) ids = without tickets (id :: ids) := by
  simp only [without, Queue.State.remove, List.filter_filter, Queue.State.mk.injEq, true_and]
  apply List.filter_congr
  intro entry _
  by_cases same : entry.1 = id <;> simp [same]

theorem leads_evict {ids : List String} {r : Except QueueFailure Unit}
    (h : Leads env (evict ids) tickets u es r tickets' v) :
    r = .ok () ∧ tickets' = without tickets ids ∧ ∀ e ∈ es, LetsGoOf tickets ids e := by
  induction ids generalizing tickets u es with
  | nil =>
    obtain ⟨rfl, rfl, rfl, rfl⟩ := leads_pure.mp h
    refine ⟨rfl, ?_, List.forall_mem_nil _⟩
    simp [without]
  | cons id ids ih =>
    have h := leads_register_bind.mp h
    dsimp only [Queue.State.reply] at h
    cases found : tickets.pending.lookup id with
    | none =>
      rw [found] at h
      obtain ⟨rfl, rfl, go⟩ := ih h
      exact ⟨rfl, without_remove tickets id ids, fun e he => (go e he).of_remove⟩
    | some ticket =>
      rw [found] at h
      rcases leads_bind.mp h with ⟨e, released, -⟩ | ⟨es₁, _, _, _, es₂, released, rest, rfl⟩
      · cases (leads_release released).1
      obtain ⟨-, rfl, first⟩ := leads_release released
      obtain ⟨rfl, rfl, go⟩ := ih rest
      refine ⟨rfl, without_remove tickets id ids, ?_⟩
      intro e he
      rcases List.mem_append.mp he with he | he
      · exact ⟨id, List.mem_cons_self, ticket, found, first e he⟩
      · exact (go e he).of_remove

end

section
variable {σ τ : Type} {env : Environment Outside τ} {q : QueueWallet σ}
  {tickets tickets' : Queue.State} {u v : Moment τ} {es : List (Event Outside)}

theorem leads_evictExpired {r : Except QueueFailure Unit}
    (h : Leads env q.evictExpired tickets u es r tickets' v) :
    r = .ok () ∧ tickets' = without tickets (tickets.expired q.lifetime u.time) ∧
      ∀ e ∈ es, LetsGoOf tickets (tickets.expired q.lifetime u.time) e := by
  obtain ⟨_, _, _, _, looked, rest, rfl⟩ := leads_ask_bind.mp h
  obtain ⟨rfl, rfl, rfl⟩ := Program.leads_now.mp looked
  exact leads_evict (leads_register_bind.mp rest)

theorem leads_freshId {r : Except QueueFailure String}
    (h : Leads env q.freshId tickets u es r tickets' v) :
    ∃ t nanos : Nat, es = [.asked t OutsideQuestion.date nanos] ∧
      r = .ok (idOf q.base.address nanos tickets.counter) ∧
      tickets' = { tickets with counter := tickets.counter + 1 } := by
  obtain ⟨_, nanos, w, es, dated, rest, rfl⟩ := leads_ask_bind.mp h
  obtain ⟨heard, rfl, -⟩ := Program.leads_ask_done.mp dated
  have named : Leads env (pure (idOf q.base.address nanos tickets.counter))
      { tickets with counter := tickets.counter + 1 } w es r tickets' v := rest
  obtain ⟨rfl, rfl, rfl, -⟩ := leads_pure.mp named
  rw [← heard]
  exact ⟨_, nanos, rfl, rfl, rfl⟩

/-- How a text is posted for an id: subscribed first, then published, and let go if nobody takes
it. -/
inductive Posts (pool id text : String) : List (Event Outside) → Result → Prop
  | unheard {t : Nat} {e : QueueFailure} :
      Posts pool id text [.asked t (OutsideQuestion.subscribe (completionChannel pool id))
        (Except.error e)] (.error e)
  | refused {t t' n : Nat} {answer : Except QueueFailure Nat} {ticket : Ticket}
      {left : List (Event Outside)}
      {e : QueueFailure} (none : ∀ receivers, answer = .ok receivers → receivers = 0)
      (own : ticket.subscription = n ∧ ticket.channel = completionChannel pool id)
        (go : ∀ e ∈ left, LetsGo ticket e) :
      Posts pool id text
        (.asked t (OutsideQuestion.subscribe (completionChannel pool id)) (Except.ok n) ::
          .asked t' (OutsideQuestion.publish pool text) answer :: left) (.error e)
  | taken {t t' n receivers : Nat} (some : receivers ≠ 0) :
      Posts pool id text
        [.asked t (OutsideQuestion.subscribe (completionChannel pool id)) (Except.ok n),
          .asked t' (OutsideQuestion.publish pool text) (Except.ok receivers)] (.ok (.ticket id))

theorem leads_publish {id text : String} {ticket : Ticket} {r : Except QueueFailure Unit}
    (h : Leads env (q.publish id text ticket) tickets u es r tickets' v) :
    ∃ t answer left, es = .asked t (OutsideQuestion.publish q.pool text) answer :: left ∧
      ((∃ receivers, receivers ≠ 0 ∧ answer = Except.ok receivers ∧ left = [] ∧ r = .ok ()) ∨
        (∀ receivers, answer = Except.ok receivers → receivers = 0) ∧ (∃ e, r = .error e) ∧
          ∀ e ∈ left, LetsGo ticket e) := by
  obtain ⟨_, answer, _, _, published, rest, rfl⟩ := leads_ask_bind.mp h
  obtain ⟨heard, rfl, -⟩ := Program.leads_ask_done.mp published
  rw [← heard]
  refine ⟨_, answer, _, rfl, ?_⟩
  have released {e : QueueFailure} {es : List (Event Outside)} {w : Moment τ}
      (h : Leads env (release ticket >>= fun _ => throw e) tickets w es r tickets' v) :
      (∃ e, r = .error e) ∧ ∀ e ∈ es, LetsGo ticket e := by
    rcases leads_bind.mp h with ⟨e, released, -⟩ | ⟨_, _, _, _, _, released, thrown, rfl⟩
    · cases (leads_release released).1
    · obtain ⟨-, -, go⟩ := leads_release released
      obtain ⟨rfl, rfl, -⟩ := leads_throw.mp thrown
      rw [List.append_nil]
      exact ⟨⟨_, rfl⟩, go⟩
  cases answer with
  | error failure =>
    refine .inr ⟨?_, released rest⟩
    rintro _ ⟨⟩
  | ok receivers =>
    dsimp only at rest
    split at rest
    case isTrue none =>
      exact .inr ⟨fun _ taken => (Except.ok.inj taken).symm.trans none, released rest⟩
    case isFalse some =>
      obtain ⟨rfl, rfl, -⟩ := leads_pure.mp rest
      exact .inl ⟨_, some, rfl, rfl, rfl⟩

theorem leads_post {id text : String} {r : Result}
    (h : Leads env (do
      let subscription ← attempt (Outside.subscribe (completionChannel q.pool id))
      let queuedAt ← ask Program.now
      let ticket : Ticket := ⟨completionChannel q.pool id, subscription, queuedAt⟩
      q.publish id text ticket
      insert id ticket
      return .ticket id) tickets u es r tickets' v) :
    Posts q.pool id text es r := by
  rcases leads_bind.mp h with ⟨e, refused, rfl⟩ | ⟨_, subscription, _, _, _, heard, h₁, rfl⟩
  · obtain ⟨course, -⟩ := leads_attempt.mp refused
    obtain ⟨answer, rfl, -⟩ := Program.leads_ask_done.mp course
    rw [← answer]
    exact .unheard
  obtain ⟨course, rfl⟩ := leads_attempt.mp heard
  obtain ⟨answer, rfl, -⟩ := Program.leads_ask_done.mp course
  rw [← answer]
  obtain ⟨_, queuedAt, _, _, looked, h₂, rfl⟩ := leads_ask_bind.mp h₁
  obtain ⟨rfl, -, -⟩ := Program.leads_now.mp looked
  rcases leads_bind.mp h₂ with ⟨e, refused, rfl⟩ | ⟨_, _, _, _, _, published, h₃, rfl⟩
  · obtain ⟨t, answer, left, rfl, ⟨_, -, -, -, impossible⟩ | ⟨none, -, go⟩⟩ := leads_publish refused
    · cases impossible
    · exact .refused none ⟨rfl, rfl⟩ go
  · obtain ⟨t, _, _, rfl, ⟨receivers, some, rfl, rfl, -⟩ | ⟨-, ⟨_, impossible⟩, -⟩⟩ :=
      leads_publish published
    · have handed : Leads env (pure (Handle.ticket id)) _ _ _ r tickets' v := h₃
      obtain ⟨rfl, rfl, -, -⟩ := leads_pure.mp handed
      exact .taken some
    · cases impossible

section
variable {id : String} {seconds : UInt64} {tx : Draft} {hints : Hints} {f : Json → Step Handle}
  {r : Result}

theorem leads_record_bind (fits : tx.FitsValue) :
    Leads env (ExceptT.mk (pure (record id seconds tx hints)) >>= f) tickets u es r tickets' v ↔
      Leads env (f (.object (recordMembers id seconds tx hints))) tickets u es r tickets' v := by
  rw [record, if_pos fits]
  exact Iff.rfl

theorem leads_unfit_bind (unfit : ¬ tx.FitsValue) :
    Leads env (ExceptT.mk (pure (record id seconds tx hints)) >>= f) tickets u es r tickets' v ↔
      es = [] ∧ r = .error (.broker (.unserializable "number out of range")) ∧ tickets' = tickets ∧
        v = u := by
  rw [record, if_neg unfit]
  exact leads_throw

end

/-- What a submission asks: it lets go of what is expired and takes the date twice. A draft without
a record goes no further; a record is posted for an id that is made of the first date. -/
theorem leads_enqueue {tx : Draft} {hints : Hints} {r : Result}
    (h : Leads env (q.enqueue tx hints) tickets u es r tickets' v) :
    ∃ evicted t t' first second rest, es = evicted ++ .asked t OutsideQuestion.date first ::
        .asked t' OutsideQuestion.date second :: rest ∧
      (∀ e ∈ evicted, LetsGoOf tickets (tickets.expired q.lifetime u.time) e) ∧
      ((tx.FitsValue ∧ Posts q.pool (idOf q.base.address first tickets.counter)
          (Json.object (recordMembers (idOf q.base.address first tickets.counter)
            (.ofNat (second / 1000000000)) tx
            hints)).render rest r) ∨
        (¬ tx.FitsValue ∧ rest = [] ∧ r = .error (.broker (.unserializable "number out of range")) ∧
          tickets' = { without tickets (tickets.expired q.lifetime u.time) with counter :=
            tickets.counter + 1 })) := by
  rcases leads_bind.mp h with ⟨e, failed, -⟩ | ⟨evicted, _, _, _, _, cleared, h₁, rfl⟩
  · cases (leads_evictExpired failed).1
  obtain ⟨-, rfl, go⟩ := leads_evictExpired cleared
  rcases leads_bind.mp h₁ with ⟨e, failed, -⟩ | ⟨_, id, _, _, _, named, h₂, rfl⟩
  · obtain ⟨_, _, -, impossible, -⟩ := leads_freshId failed
    cases impossible
  obtain ⟨t, first, rfl, made, rfl⟩ := leads_freshId named
  obtain rfl : id = idOf q.base.address first tickets.counter := Except.ok.inj made
  obtain ⟨_, second, w, rest, dated, h₃, rfl⟩ := leads_ask_bind.mp h₂
  obtain ⟨heard, rfl, -⟩ := Program.leads_ask_done.mp dated
  rw [← heard]
  refine ⟨evicted, t, _, first, second, rest, rfl, go, ?_⟩
  by_cases fits : tx.FitsValue
  · exact .inl ⟨fits, leads_post ((leads_record_bind fits).mp h₃)⟩
  · obtain ⟨rfl, rfl, rfl, -⟩ := (leads_unfit_bind fits).mp h₃
    exact .inr ⟨fits, rfl, rfl, rfl⟩

theorem LetsGo.not_publish {ticket : Ticket} {t : Nat} {channel text : String}
    {answer : Except QueueFailure Nat} :
    ¬ LetsGo ticket (.asked t (OutsideQuestion.publish channel text) answer) := by
  rintro (⟨_, _, h⟩ | ⟨_, _, h⟩) <;> cases h

theorem Posts.published {pool id text : String} {r : Result} (h : Posts pool id text es r) {t : Nat}
    {channel text' : String} {answer : Except QueueFailure Nat}
    (asked : .asked t (OutsideQuestion.publish channel text') answer ∈ es) : channel = pool ∧
      text' = text := by
  cases h with
  | unheard => cases List.mem_singleton.mp asked
  | refused none own go =>
    rcases List.mem_cons.mp asked with impossible | asked
    · cases impossible
    rcases List.mem_cons.mp asked with same | asked
    · cases same
      exact ⟨rfl, rfl⟩
    · exact absurd (go _ asked) LetsGo.not_publish
  | taken some =>
    rcases List.mem_cons.mp asked with impossible | asked
    · cases impossible
    · cases List.mem_singleton.mp asked
      exact ⟨rfl, rfl⟩

theorem Posts.handed_iff {pool id text : String} {r : Result} (h : Posts pool id text es r)
    {handle : Handle} :
    r = .ok handle ↔ handle = .ticket id ∧ ∃ t receivers, receivers ≠ 0 ∧
      .asked t (OutsideQuestion.publish pool text) (Except.ok receivers) ∈ es := by
  cases h with
  | unheard =>
    constructor
    · rintro ⟨⟩
    · rintro ⟨-, _, _, -, asked⟩
      cases List.mem_singleton.mp asked
  | refused none own go =>
    constructor
    · rintro ⟨⟩
    · rintro ⟨-, _, receivers, some, asked⟩
      rcases List.mem_cons.mp asked with impossible | asked
      · cases impossible
      rcases List.mem_cons.mp asked with same | asked
      · cases same
        exact absurd (none _ rfl) some
      · exact absurd (go _ asked) LetsGo.not_publish
  | taken some =>
    constructor
    · rintro ⟨⟩
      exact ⟨rfl, _, _, some, List.mem_cons_of_mem _ List.mem_cons_self⟩
    · rintro ⟨rfl, -⟩
      rfl

theorem Posts.heard {pool id text : String} {r : Result} (h : Posts pool id text es r) :
    ∃ t heard, .asked t (OutsideQuestion.subscribe (completionChannel pool id)) heard ∈ es ∧
      ∀ n, heard = Except.ok n →
        ∃ t answer, .asked t (OutsideQuestion.publish pool text) answer ∈ es := by
  cases h with
  | unheard =>
    refine ⟨_, _, List.mem_cons_self, ?_⟩
    rintro _ ⟨⟩
  | refused | taken =>
    exact ⟨_, _, List.mem_cons_self, fun _ _ => ⟨_, _, List.mem_cons_of_mem _ List.mem_cons_self⟩⟩

theorem published_late {evicted rest : List (Event Outside)} {ids : List String}
    {t t' t'' first second : Nat} {channel text : String} {answer : Except QueueFailure Nat}
    (go : ∀ e ∈ evicted, LetsGoOf tickets ids e)
    (asked : .asked t (OutsideQuestion.publish channel text) answer ∈
      evicted ++ .asked t' OutsideQuestion.date first :: .asked t'' OutsideQuestion.date
        second :: rest) :
    .asked t (OutsideQuestion.publish channel text) answer ∈ rest := by
  rcases List.mem_append.mp asked with early | asked
  · obtain ⟨_, -, _, -, go⟩ := go _ early
    exact absurd go LetsGo.not_publish
  rcases List.mem_cons.mp asked with impossible | asked
  · cases impossible
  rcases List.mem_cons.mp asked with impossible | asked
  · cases impossible
  · exact asked

/-- A submission publishes nothing but the record of its draft, and does so once it is subscribed
for the completion; the ticket has the id of the record, and is given when somebody takes it. A
manager learns all about the draft from the record, just when the metadata are nested less deeply
than a manager reads. A draft with fees that are too large leaves the queue as it is without its
expired tickets. -/
theorem queued_record_informs {s s' : σ} {tx : Draft} {hints : Hints} {r : Except Failure Handle}
    (course : Action.Leads env (q.backend.send tx hints) (s, tickets) u es r (s', tickets') v) :
    (tx.FitsValue → hints.multiplier = none → Json.Storable (hints.metadata.getD .null) →
      ∃ (id : String) (t nanos : Nat), .asked t OutsideQuestion.date nanos ∈ es ∧
        (∀ t channel text answer, .asked t (OutsideQuestion.publish channel text) answer ∈ es →
          channel = q.pool ∧
          (Informs tx hints id (.ofNat (nanos / 1000000000)) text ↔
            Json.depth (hints.metadata.getD .null) < Json.deepest)) ∧
        (∃ t heard, .asked t (OutsideQuestion.subscribe (completionChannel q.pool id)) heard ∈ es ∧
          ∀ n, heard = Except.ok n →
            ∃ t text answer, .asked t (OutsideQuestion.publish q.pool text) answer ∈ es) ∧
        ∀ handle, r = .ok handle ↔ handle = .ticket id ∧ ∃ t text receivers, receivers ≠ 0 ∧
          .asked t (OutsideQuestion.publish q.pool text) (Except.ok receivers) ∈ es) ∧
    (¬ tx.FitsValue →
      r = .error (.queue (.broker (.unserializable "number out of range"))) ∧ s' = s ∧
        tickets' = { without tickets (tickets.expired q.lifetime u.time) with counter :=
          tickets.counter + 1 } ∧
        ∀ e ∈ es, (∃ t nanos, e = .asked t OutsideQuestion.date nanos) ∨
          LetsGoOf tickets (tickets.expired q.lifetime u.time) e) := by
  obtain ⟨r, submitted, rfl, rfl⟩ := leads_ofStep.mp course
  obtain ⟨evicted, t, t', first, second, rest, rfl, go, outcome⟩ := leads_enqueue submitted
  have later {e : Event Outside} (he : e ∈ rest) :
      e ∈ evicted ++ .asked t OutsideQuestion.date first :: .asked t' OutsideQuestion.date
        second :: rest :=
    List.mem_append_right _ (List.mem_cons_of_mem _ (List.mem_cons_of_mem _ he))
  constructor
  · intro fits unscaled free
    have posts := (outcome.resolve_right fun refused => refused.1 fits).2
    refine ⟨idOf q.base.address first tickets.counter, t', second, ?_, ?_, ?_, ?_⟩
    · exact List.mem_append_right _ (List.mem_cons_of_mem _ List.mem_cons_self)
    · intro t₁ channel text answer asked
      obtain ⟨rfl, rfl⟩ := posts.published (published_late go asked)
      exact ⟨rfl, informs_record_iff fits unscaled free⟩
    · obtain ⟨t₁, heard, subscribed, published⟩ := posts.heard
      refine ⟨t₁, heard, later subscribed, fun n ok => ?_⟩
      obtain ⟨t₂, answer, asked⟩ := published n ok
      exact ⟨t₂, _, answer, later asked⟩
    · -- whatever text was taken, it is the one that was posted
      intro handle
      rw [mapError_ok, posts.handed_iff]
      constructor
      · rintro ⟨named, t₁, receivers, some, taken⟩
        exact ⟨named, t₁, _, receivers, some, later taken⟩
      · rintro ⟨named, t₁, text, receivers, some, taken⟩
        have posted := published_late go taken
        obtain ⟨-, rfl⟩ := posts.published posted
        exact ⟨named, t₁, receivers, some, posted⟩
  · intro unfit
    obtain ⟨-, rfl, rfl, rfl⟩ := outcome.resolve_left fun posted => unfit posted.1
    refine ⟨rfl, rfl, rfl, ?_⟩
    intro e he
    rcases List.mem_append.mp he with early | dated
    · exact .inr (go e early)
    · rcases List.mem_cons.mp dated with rfl | dated
      · exact .inl ⟨_, _, rfl⟩
      · exact .inl ⟨_, _, List.mem_singleton.mp dated⟩

end

/-! ## A manager that listens -/

open Traffic (emptyDraft muteQueue)

def attended : Environment Outside Unit := fun q t s =>
  match q with
  | .date => ⟨(1700000000500000000 : Nat), s, t⟩
  | .subscribe _ => ⟨.ok 1, s, t⟩
  | .publish _ _ => ⟨.ok 1, s, t⟩
  | q => ⟨q.refusal, s, t⟩

def nestedHints : Hints :=
  ⟨none, some 3, some "mint", some (.object [("items", .array [.integer 7, .null])])⟩

def costlyDraft : Draft := { emptyDraft with fees := .legacy (BitVec.ofNat 128 UInt64.size) }

def stale : Queue.State := ⟨4, [("old", ⟨"pool:done:old", 9, 0⟩)]⟩

def nestedId : String := idOf .zero 1700000000500000000 0

def nestedRecord : String :=
  (Json.object (recordMembers nestedId (.ofNat (1700000000500000000 / 1000000000)) emptyDraft
    nestedHints)).render

def nestedEvents : List (Event Outside) :=
  [.asked 0 OutsideQuestion.date (1700000000500000000 : Nat), .asked 0 OutsideQuestion.date
    (1700000000500000000 : Nat),
    .asked 0 (OutsideQuestion.subscribe (completionChannel "pool" nestedId)) (Except.ok (1 : Nat)),
    .asked 0 (OutsideQuestion.publish "pool" nestedRecord) (Except.ok (1 : Nat))]

theorem date_nestedEvents {t nanos : Nat} (h : .asked t OutsideQuestion.date nanos ∈ nestedEvents) :
    nanos = 1700000000500000000 := by
  simp only [nestedEvents, List.mem_cons, List.not_mem_nil, or_false] at h
  rcases h with h | h | h | h <;> cases h <;> rfl

theorem storable_nested : Json.Storable (nestedHints.metadata.getD .null) :=
  ⟨List.pairwise_singleton _ _, ⟨⟨by decide, by decide⟩, trivial, trivial⟩, trivial⟩

theorem mem_nestedEvents :
    Event.asked 0 (OutsideQuestion.publish "pool" nestedRecord)
    (Except.ok (1 : Nat)) ∈ nestedEvents := by
  simp [nestedEvents]

theorem leads_nested :
    Action.Leads attended (muteQueue.backend.send emptyDraft nestedHints)
    ((), State.start) ⟨0, ()⟩ nestedEvents
      (.ok (.ticket nestedId)) ((), ⟨1, [(nestedId, ⟨completionChannel "pool" nestedId, 1, 0⟩)]⟩)
        ⟨0, ()⟩ := rfl

theorem nested_record_informs :
    (∃ s v,
      Action.Leads attended (muteQueue.backend.send emptyDraft nestedHints)
        ((), State.start) ⟨0, ()⟩ nestedEvents
          (.ok (.ticket nestedId)) s v ∧
        Informs emptyDraft nestedHints nestedId 1700000000 nestedRecord) ∧
    ∃ es v,
      Action.Leads attended (muteQueue.backend.send costlyDraft nestedHints)
        ((), stale) ⟨3600000000000, ()⟩ es
          (.error (.queue (.broker (.unserializable "number out of range")))) ((), ⟨5, []⟩) v ∧
        ∀ e ∈ es, (∃ t nanos, e = .asked t OutsideQuestion.date nanos) ∨
          LetsGoOf stale ["old"] e := by
  constructor
  · obtain ⟨id, t, nanos, dated, informs, -, handed⟩ :=
      (queued_record_informs leads_nested).1 (by decide) rfl
      storable_nested
    obtain rfl := date_nestedEvents dated
    obtain ⟨-, informs⟩ := informs 0 _ _ _ mem_nestedEvents
    obtain ⟨named, -⟩ := (handed _).mp rfl
    cases named
    exact ⟨_, _, leads_nested, informs.mpr (by decide)⟩
  · have run := Program.leads_run attended
      ((muteQueue.backend.send costlyDraft nestedHints).run.run ((), stale)) ⟨3600000000000, ()⟩
    obtain ⟨refused, -, left, go⟩ := (queued_record_informs run).2 (by decide)
    exact ⟨_, _, run, go⟩

end QueueWallet

end Dispatch
