import Dispatch.Proofs.QueueSends
import Dispatch.Wallet.Config

/-!
# Drafts of other senders

A wallet that signs for its account turns a draft of another account away before it asks anything,
and fails with a draft of its own only when the signer does. A queue looks at no sender: it
publishes the record of any draft that has one.
-/

set_option autoImplicit false

namespace Dispatch
open Program (Environment Event Moment)

namespace Program

variable {I : Interface} {α β : Type} {P : β → Prop} {Q : α → Prop}

inductive Ends (Q : α → Prop) : Program I α → Prop where
  | done {a : α} (h : Q a) : Ends Q (.done a)
  | ask {q : I.Question} {next : I.Answer q → Program I α} (h : ∀ answer, Ends Q (next answer)) :
      Ends Q (.ask q next)
  | sleep {d : Duration} {next : Program I α} (h : Ends Q next) : Ends Q (.sleep d next)
  | clock {next : Nat → Program I α} (h : ∀ t, Ends Q (next t)) : Ends Q (.clock next)

theorem ends_of_forall (h : ∀ a, Q a) (p : Program I α) : p.Ends Q := by
  induction p with
  | done a => exact .done (h a)
  | ask q next ih => exact .ask ih
  | sleep d next ih => exact .sleep ih
  | clock next ih => exact .clock ih

theorem Ends.bind {p : Program I α} {f : α → Program I β} (hp : p.Ends Q)
    (hf : ∀ a, Q a → (f a).Ends P) :
    (p.bind f).Ends P := by
  induction hp with
  | done h => exact hf _ h
  | ask _ ih => exact .ask ih
  | sleep _ ih => exact .sleep ih
  | clock _ ih => exact .clock ih

theorem bind_eq_done {p : Program I α} {f : α → Program I β} {b : β} :
    p.bind f = .done b ↔ ∃ a, p = .done a ∧ f a = .done b := by
  constructor
  · intro h
    cases p with
    | done a => exact ⟨a, rfl, h⟩
    | ask q next => cases h
    | sleep d next => cases h
    | clock next => cases h
  · rintro ⟨a, rfl, h⟩
    exact h

end Program

/-! ## Failures of the signer -/

def BySigner {α : Type} : Except Failure α → Prop
  | .ok _ => True
  | .error failure => ∃ fault, failure = .signing fault

theorem bySigner_ofSigner {α : Type} (answer : Except SigningFailure α) :
    BySigner (ofSigner answer) := by
  cases answer with
  | ok a => trivial
  | error fault => exact ⟨fault, rfl⟩

section
variable {I : Interface} {σ α β : Type}

theorem ends_bindTask {p : Task I α} {f : α → Task I β} (hp : Program.Ends BySigner p.run)
    (hf : ∀ a, Program.Ends BySigner (f a).run) : Program.Ends BySigner (p >>= f).run := by
  refine Program.Ends.bind hp fun r signed => ?_
  cases r with
  | ok a => exact hf a
  | error failure => exact .done signed

theorem ends_pureTask (a : α) : Program.Ends BySigner (pure a : Task I α).run := .done trivial

theorem ends_throwTask (fault : SigningFailure) :
    Program.Ends BySigner (throw (.signing fault) : Task I α).run :=
  .done ⟨fault, rfl⟩

theorem ends_liftTask (p : Program I α) : Program.Ends BySigner (ExceptT.lift p : Task I α).run :=
  Program.Ends.bind (Program.ends_of_forall (Q := fun _ => True) (fun _ => trivial) p) fun _ _ =>
    .done trivial

theorem ends_bindAction {a : Action σ α} {f : α → Action σ β} {s : σ}
    (ha : Program.Ends (fun r => BySigner r.1) (a.run.run s))
    (hf : ∀ x s, Program.Ends (fun r => BySigner r.1) ((f x).run.run s)) :
    Program.Ends (fun r => BySigner r.1) ((a >>= f).run.run s) := by
  refine Program.Ends.bind ha fun r signed => ?_
  obtain ⟨r, s⟩ := r
  cases r with
  | ok x => exact hf x s
  | error failure => exact .done signed

theorem ends_ofTask {t : Task Outside α} (h : Program.Ends BySigner t.run) (s : σ) :
    Program.Ends (fun r => BySigner r.1) ((Action.ofTask t : Action σ α).run.run s) :=
  Program.Ends.bind h fun _ signed => .done signed

theorem ends_ofProgram (p : Program Outside α) (s : σ) :
    Program.Ends (fun r => BySigner r.1) ((Action.ofProgram p : Action σ α).run.run s) :=
  Program.Ends.bind (Program.ends_of_forall (Q := fun _ => True) (fun _ => trivial) _) fun _ _ =>
    .done trivial

end

theorem Ledger.ends_exchange (link : Link) (cmd : Bytes) :
    Program.Ends BySigner (exchange link cmd).run := by
  unfold exchange
  cases link with
  | direct => exact .ask fun answer => .done (bySigner_ofSigner answer)
  | emulator =>
    apply ends_bindTask (ends_liftTask _)
    intro framed
    cases framed with
    | error why => exact ends_throwTask _
    | ok answer =>
      obtain ⟨data, word⟩ := answer
      dsimp only
      cases checkStatus word with
      | error fault => exact ends_throwTask _
      | ok _ => exact ends_pureTask data

theorem Ledger.ends_exchangeAll (link : Link) (cmds : List Bytes) (last : Bytes) :
    Program.Ends BySigner (exchangeAll link cmds last).run := by
  induction cmds generalizing last with
  | nil => exact ends_pureTask last
  | cons cmd cmds ih => exact ends_bindTask (ends_exchange link cmd) ih

section
variable {α : Type} (s : Remote.Service) (read : Json.Tree → Option α)

theorem Remote.Service.ends_exchange (request : Http.Request) :
    Program.Ends BySigner (s.exchange read request).run := by
  apply ends_bindTask (ends_liftTask _)
  intro reply
  cases reply with
  | error why => exact ends_throwTask _
  | ok reply => exact .done (bySigner_ofSigner _)

theorem Remote.Service.ends_postHeaders (path body : String) :
    Program.Ends BySigner (s.postHeaders path body).run := by
  unfold Service.postHeaders
  cases s.access with
  | none => exact ends_pureTask _
  | some access =>
    apply ends_bindTask (ends_liftTask _)
    intro nanos
    dsimp only
    cases access.headers path (nanos / 1000000) body with
    | error fault => exact ends_throwTask fault
    | ok headers => exact ends_pureTask _

theorem Remote.Service.ends_post (path : String) (body : Json) :
    Program.Ends BySigner (s.post path body read).run :=
  ends_bindTask (s.ends_postHeaders path _) fun _ => s.ends_exchange read _

end

theorem Enclave.Server.ends_call {α : Type} (server : Server) (method : String)
    (params : List (String × Json))
    (read : Json.Tree → Option α) (n : Counter) :
    Program.Ends (fun r => BySigner r.1) ((server.call method params read).run.run n) := by
  apply ends_bindAction (α := Counter) (.done trivial)
  intro id n
  apply ends_bindAction (ends_ofProgram _ n)
  intro answer n
  cases answer with
  | error why => exact .done ⟨_, rfl⟩
  | ok reply =>
    dsimp only
    cases reply.body with
    | error why => exact .done ⟨_, rfl⟩
    | ok body => exact .done (bySigner_ofSigner _)

/-! ## Drafts of the account -/

section
variable {tx : Draft}

theorem LocalWallet.bySigner_sign (w : LocalWallet) (own : tx.sender = w.address) :
    BySigner (w.sign tx) := by
  unfold LocalWallet.sign Backend.ensureSender LocalWallet.signDigest
  simp only [own, if_true]
  cases w.key.signDigest tx.signingHash with
  | some signature => trivial
  | none => exact ⟨_, rfl⟩

theorem LedgerWallet.ends_sign (w : LedgerWallet) (own : tx.sender = w.address) :
    Program.Ends BySigner (w.sign tx).run := by
  unfold LedgerWallet.sign Backend.ensureSender
  simp only [own, if_true]
  apply ends_bindTask (Ledger.ends_exchangeAll _ _ _)
  intro response
  cases Ledger.readSignature tx response with
  | error fault => exact ends_throwTask _
  | ok signature => exact ends_pureTask _

theorem RemoteWallet.ends_sign (w : RemoteWallet) (own : tx.sender = w.address) :
    Program.Ends BySigner (w.sign tx).run := by
  unfold RemoteWallet.sign Backend.ensureSender
  simp only [own, if_true]
  apply ends_bindTask (w.service.ends_post _ _ _)
  intro raw
  cases Remote.checkSigned w.address tx raw with
  | error fault => exact ends_throwTask _
  | ok signed => exact ends_pureTask signed

theorem RemoteWallet.ends_send (w : RemoteWallet) {hints : Hints} (own : tx.sender = w.address) :
    Program.Ends BySigner (w.send tx hints).run := by
  unfold RemoteWallet.send Backend.ensureSender
  simp only [own, if_true]
  exact ends_bindTask (w.service.ends_post _ _ _) fun hash => ends_pureTask (Handle.hash hash)

theorem EnclaveWallet.ends_signDigest (w : EnclaveWallet) (digest : Hash) (n : Enclave.Counter) :
    Program.Ends (fun r => BySigner r.1) ((w.signDigest digest).run.run n) := by
  unfold EnclaveWallet.signDigest
  apply ends_bindAction (w.server.ends_call _ _ _ n)
  intro raw n
  cases Enclave.readSignature raw with
  | error fault => exact .done ⟨_, rfl⟩
  | ok signature => exact .done (bySigner_ofSigner _)

theorem EnclaveWallet.ends_sign (w : EnclaveWallet) (own : tx.sender = w.address)
    (n : Enclave.Counter) :
    Program.Ends (fun r => BySigner r.1) ((w.sign tx).run.run n) := by
  unfold EnclaveWallet.sign Backend.ensureSender
  simp only [own, if_true]
  exact ends_bindAction (w.ends_signDigest _ n) fun _ _ => .done trivial

end

/-! ## Turned away -/

namespace Action

variable {σ τ α : Type} {failure : Failure}

/-- The action fails before it asks anything, and the wallet's state stays as it is. -/
def Refuses (a : Action σ α) (failure : Failure) : Prop :=
  ∀ s, a.run.run s = .done (.error failure, s)

theorem Refuses.leads {a : Action σ α} (h : a.Refuses failure) {env : Environment Outside τ}
    {s s' : σ} {u v : Moment τ} {es : List (Event Outside)} {r : Except Failure α} :
    Leads env a s u es r s' v ↔ es = [] ∧ r = .error failure ∧ s' = s ∧ v = u := by
  rw [Leads, h s, Program.leads_done, Prod.mk.injEq, and_assoc]

theorem Refuses.bySigner {a : Action σ α} (h : a.Refuses failure) {s : σ}
    (ends : Program.Ends (fun r => BySigner r.1) (a.run.run s)) :
    ∃ fault, failure = .signing fault := by
  rw [h s] at ends
  cases ends with
  | done signed => exact signed

theorem refuses_onFirst (t : τ) {a : Action σ α} :
    (a.onFirst : Action (σ × τ) α).Refuses failure ↔ a.Refuses failure := by
  constructor
  · intro h s
    have h := h (s, t)
    change (a.run.run s).bind _ = _ at h
    obtain ⟨⟨r, s'⟩, course, same⟩ := Program.bind_eq_done.mp h
    cases same
    exact course
  · rintro h ⟨s, t⟩
    change (a.run.run s).bind _ = _
    rw [h s]
    rfl

end Action

namespace Backend

variable {σ : Type} {failure : Failure} {tx : Draft}

/-- How a draft of another account is turned away. -/
def foreign (b : Backend σ) (tx : Draft) : Failure :=
  .invalidArgument (.foreignSender tx.sender b.address)

theorem refuses_broadcast {sign : Draft → Action σ SignedTransaction} :
    (broadcast sign tx).Refuses failure ↔ (sign tx).Refuses failure := by
  constructor
  · intro h s
    have h := h s
    change ((sign tx).run.run s).bind _ = _ at h
    obtain ⟨⟨r, s'⟩, course, same⟩ := Program.bind_eq_done.mp h
    -- a signed transaction would have been handed to the node
    cases r with
    | ok signed => cases same
    | error e =>
      cases same
      exact course
  · intro h s
    change ((sign tx).run.run s).bind _ = _
    rw [h s]
    rfl

end Backend

namespace Wallet

variable {w : Wallet} {tx : Draft}

theorem sign_foreign (foreign : tx.sender ≠ w.backend.address) :
    (w.backend.sign tx).Refuses (w.backend.foreign tx) := by
  intro s
  have turned : Backend.ensureSender w.backend.address tx = .error (w.backend.foreign tx) :=
    if_neg foreign
  cases w with
  | local_ w =>
    change Program.done (w.sign tx, s) = _
    unfold LocalWallet.sign
    rw [show Backend.ensureSender w.address tx = _ from turned]
    rfl
  | ledger w =>
    change (w.sign tx).run.bind _ = _
    unfold LedgerWallet.sign
    rw [show Backend.ensureSender w.address tx = _ from turned]
    rfl
  | remote w =>
    change (w.sign tx).run.bind _ = _
    unfold RemoteWallet.sign
    rw [show Backend.ensureSender w.address tx = _ from turned]
    rfl
  | enclave w =>
    change (w.sign tx).run.run s = _
    unfold EnclaveWallet.sign
    rw [show Backend.ensureSender w.address tx = _ from turned]
    rfl

theorem sign_own (own : tx.sender = w.backend.address) (n : Enclave.Counter) :
    Program.Ends (fun r => BySigner r.1) ((w.backend.sign tx).run.run n) := by
  cases w with
  | local_ w => exact .done (w.bySigner_sign own)
  | ledger w => exact ends_ofTask (w.ends_sign own) n
  | remote w => exact ends_ofTask (w.ends_sign own) n
  | enclave w => exact w.ends_sign own n

theorem sign_refuses_iff :
    (w.backend.sign tx).Refuses (w.backend.foreign tx) ↔ tx.sender ≠ w.backend.address := by
  constructor
  · intro refused own
    obtain ⟨_, impossible⟩ := refused.bySigner (sign_own own 0)
    cases impossible
  · exact sign_foreign

theorem send_refuses_iff {hints : Hints} :
    (w.backend.send tx hints).Refuses (w.backend.foreign tx) ↔ tx.sender ≠ w.backend.address := by
  cases w with
  | local_ w => exact Backend.refuses_broadcast.trans (sign_refuses_iff (w := .local_ w))
  | ledger w => exact Backend.refuses_broadcast.trans (sign_refuses_iff (w := .ledger w))
  | enclave w => exact Backend.refuses_broadcast.trans (sign_refuses_iff (w := .enclave w))
  | remote w =>
    constructor
    · intro refused own
      obtain ⟨_, impossible⟩ := refused.bySigner (ends_ofTask (w.ends_send own) 0)
      cases impossible
    · intro foreign n
      have turned :
        Backend.ensureSender w.address tx = .error ((Wallet.remote w).backend.foreign tx) :=
        if_neg foreign
      change (w.send tx hints).run.bind _ = _
      unfold RemoteWallet.send
      rw [turned]
      rfl

end Wallet

/-! ## Queued -/

namespace QueueWallet
open Queue

section
variable {σ τ : Type} {env : Environment Outside τ} {q : QueueWallet σ} {tx : Draft} {hints : Hints}
  {tickets tickets' : Queue.State} {u v : Moment τ} {es : List (Event Outside)}

def recordText (id : String) (seconds : UInt64) (tx : Draft) (hints : Hints) : String :=
  (Json.object (recordMembers id seconds tx hints)).render

theorem leads_enqueue_ok {handle : Handle}
    (h : Leads env (q.enqueue tx hints) tickets u es (.ok handle) tickets' v) :
    ∃ id ticket, handle = .ticket id ∧ tickets'.pending.lookup id = some ticket := by
  rcases leads_bind.mp h with ⟨_, -, failed⟩ | ⟨_, _, _, _, _, -, h, -⟩
  · cases failed
  rcases leads_bind.mp h with ⟨_, -, failed⟩ | ⟨_, id, _, _, _, -, h, -⟩
  · cases failed
  obtain ⟨_, nanos, _, _, -, h, -⟩ := leads_ask_bind.mp h
  rcases leads_bind.mp h with ⟨_, -, failed⟩ | ⟨_, record, _, _, _, -, h, -⟩
  · cases failed
  rcases leads_bind.mp h with ⟨_, -, failed⟩ | ⟨_, subscription, _, _, _, -, h, -⟩
  · cases failed
  obtain ⟨_, queuedAt, _, _, -, h, -⟩ := leads_ask_bind.mp h
  rcases leads_bind.mp h with ⟨_, -, failed⟩ | ⟨_, _, before, _, _, -, h, -⟩
  · cases failed
  have kept : Leads env (pure (Handle.ticket id))
    (before.insert id ⟨completionChannel q.pool id, subscription, queuedAt⟩) _ _ (.ok handle)
      tickets' v := h
  obtain ⟨-, handed, rfl, -⟩ := leads_pure.mp kept
  refine ⟨id, ⟨completionChannel q.pool id, subscription, queuedAt⟩, Except.ok.inj handed, ?_⟩
  exact State.lookup_insert.trans (if_pos rfl)

theorem leads_send {s s' : σ} {r : Except Failure Handle}
    (h : Action.Leads env (q.backend.send tx hints) (s, tickets) u es r (s', tickets') v) :
    (∀ fault, r ≠ .error (.invalidArgument fault)) ∧
    (tx.FitsValue → ∃ id seconds before rest r₀, es = before ++ rest ∧
      Posts q.pool id (recordText id seconds tx hints) rest r₀ ∧ r = r₀.mapError Failure.queue) ∧
    ∀ handle, r = .ok handle → ∃ id ticket, handle = .ticket id ∧
      tickets'.pending.lookup id = some ticket := by
  obtain ⟨r₀, submitted, rfl, rfl⟩ := leads_ofStep.mp h
  refine ⟨?_, ?_, ?_⟩
  · intro fault
    cases r₀ <;> rintro ⟨⟩
  · intro fits
    obtain ⟨evicted, t, t', first, second, rest, rfl, -, ⟨-, posts⟩ | ⟨unfit, -⟩⟩ :=
      leads_enqueue submitted
    · exact ⟨_, _, evicted ++
        [.asked t OutsideQuestion.date first, .asked t' OutsideQuestion.date second], rest, r₀,
        by simp, posts, rfl⟩
    · exact absurd fits unfit
  · intro handle taken
    rw [mapError_ok.mp taken] at submitted
    exact leads_enqueue_ok submitted

end

/-- A wallet turns away just the drafts of other accounts, and does so before anything else, whether
it signs or sends. A queue signs just what its base signs, but it sends every draft that has a
record, whoever's it is. -/
theorem foreign_drafts_refused (tx : Draft) (hints : Hints) :
    (∀ w : Wallet,
      ((w.backend.sign tx).Refuses (w.backend.foreign tx) ↔ tx.sender ≠ w.backend.address) ∧
      ((w.backend.send tx hints).Refuses (w.backend.foreign tx) ↔ tx.sender ≠ w.backend.address)) ∧
    ∀ {σ : Type} (q : QueueWallet σ),
      (∀ failure, (q.backend.sign tx).Refuses failure ↔ (q.base.sign tx).Refuses failure) ∧
      ∀ {τ : Type} {env : Environment Outside τ} {s s' : σ} {tickets tickets' : Queue.State}
        {u v : Moment τ}
        {es : List (Event Outside)} {r : Except Failure Handle},
        Action.Leads env (q.backend.send tx hints) (s, tickets) u es r (s', tickets') v →
        (∀ fault, r ≠ .error (.invalidArgument fault)) ∧
        (tx.FitsValue → ∃ id seconds before rest r₀, es = before ++ rest ∧
          Posts q.pool id (recordText id seconds tx hints) rest r₀ ∧
            r = r₀.mapError Failure.queue) ∧
        ∀ handle, r = .ok handle → ∃ id ticket, handle = .ticket id ∧
          tickets'.pending.lookup id = some ticket := by
  constructor
  · intro w
    exact ⟨w.sign_refuses_iff, w.send_refuses_iff⟩
  · intro σ q
    exact ⟨fun failure => Action.refuses_onFirst .start, leads_send⟩

/-! ## A stranger's draft -/

def guestWallet : Wallet := .remote ⟨⟨"http://signer", none⟩, .zero, .zero⟩

def guestQueue : QueueWallet Enclave.Counter :=
  ⟨guestWallet.backend, "pool", QueueWallet.standardLifetime⟩

def strangerDraft : Draft := { Traffic.emptyDraft with sender := .ofNat 1 }

def strangerId : String := idOf .zero 1700000000500000000 0

def strangerRecord : String :=
  recordText strangerId (.ofNat (1700000000500000000 / 1000000000)) strangerDraft Traffic.noHints

def strangerEvents : List (Event Outside) :=
  [.asked 0 OutsideQuestion.date (1700000000500000000 : Nat),
    .asked 0 OutsideQuestion.date (1700000000500000000 : Nat),
    .asked 0 (OutsideQuestion.subscribe (completionChannel "pool" strangerId))
      (Except.ok (1 : Nat)),
    .asked 0 (OutsideQuestion.publish "pool" strangerRecord) (Except.ok (1 : Nat))]

theorem strangerDraft_foreign : strangerDraft.sender ≠ guestWallet.backend.address := by
  intro same
  exact absurd (congrArg FixedBytes.toList same) (by decide)

theorem leads_stranger :
    Action.Leads attended (guestQueue.backend.send strangerDraft Traffic.noHints)
    (1, State.start) ⟨0, ()⟩
      strangerEvents (.ok (.ticket strangerId))
        (1, ⟨1, [(strangerId, ⟨completionChannel "pool" strangerId, 1, 0⟩)]⟩)
      ⟨0, ()⟩ := rfl

theorem stranger_turned_away_and_queued :
    (guestWallet.backend.send strangerDraft Traffic.noHints).Refuses
      (guestWallet.backend.foreign strangerDraft) ∧
      ∃ id seconds before rest r₀, strangerEvents = before ++ rest ∧
        Posts "pool" id (recordText id seconds strangerDraft Traffic.noHints) rest r₀ := by
  obtain ⟨wallets, queues⟩ := foreign_drafts_refused strangerDraft Traffic.noHints
  obtain ⟨-, posted, -⟩ := (queues guestQueue).2 leads_stranger
  obtain ⟨id, seconds, before, rest, r₀, split, posts, -⟩ := posted (by decide)
  exact ⟨(wallets guestWallet).2.mpr strangerDraft_foreign, id, seconds, before, rest, r₀,
    split, posts⟩

/-- A queue does not refuse the drafts of other senders as its base does. -/
theorem not_all_refuse_strangers :
    ¬ ∀ (w : Wallet) (pool : String) (lifetime : Duration) (tx : Draft) (hints : Hints),
      tx.sender ≠ w.backend.address →
      ((QueueWallet.mk w.backend pool lifetime).backend.send tx hints).Refuses
        (w.backend.foreign tx) := by
  intro all
  have refused :=
    all guestWallet "pool" QueueWallet.standardLifetime strangerDraft Traffic.noHints
      strangerDraft_foreign
  obtain ⟨nothing, -⟩ := refused.leads.mp leads_stranger
  cases nothing

end QueueWallet

end Dispatch
