import Dispatch.Proofs.Confirmations
import Dispatch.Proofs.NodeReplies
import Dispatch.Proofs.SignersAgree
import Dispatch.Wallet.Config

/-!
# The block that confirmations are counted from

A receipt comes from the node, and after it the node was as many blocks further as were asked for.
They are counted from the block that the receipt names, and from the first block if it names none.
-/

set_option autoImplicit false

namespace Dispatch
open Program (Environment Event Moment)

/-! ## With a wallet -/

section
variable {σ τ : Type} {env : Environment Outside τ}

/-- A receipt that the wallet waited for was the node's answer. -/
def Backend.HearsNode (b : Backend σ) (env : Environment Outside τ) : Prop :=
  ∀ handle bounds s u es receipt s' v, Action.Leads env (b.wait handle bounds) s u es
    (.ok receipt) s' v →
    ∃ t hash, .asked t (.node (.receipt hash)) (Except.ok (ε := Failure) (some receipt)) ∈ es

theorem Backend.hearsNode_of_waitAtNode {b : Backend σ} {wallet : String}
    (waits : b.wait = Backend.waitAtNode wallet) : b.HearsNode env := by
  intro handle bounds s u es receipt s' v h
  rw [waits, waitAtNode] at h
  cases hash : handle.hash? with
  | none =>
    rw [hash] at h
    cases (Action.leads_throw.mp h).2.1
  | some hash' =>
    rw [hash] at h
    obtain ⟨⟨asked, course, rfl⟩, -⟩ := Action.leads_ofNode.mp h
    obtain ⟨t, heard⟩ := waitForReceipt_ok course
    exact ⟨t, hash', List.mem_map_of_mem heard⟩

theorem Wallet.waits_at_node (w : Wallet) : ∃ name, w.backend.wait = Backend.waitAtNode name := by
  cases w <;> exact ⟨_, rfl⟩

theorem Backend.HearsNode.queue {q : QueueWallet σ} (base : q.base.HearsNode env) :
    q.backend.HearsNode env := by
  rintro handle bounds ⟨s, queue⟩ u es receipt ⟨s', queue'⟩ v h
  have atBase : ∀ (handle : Handle) (b : WaitBounds) {queue : Queue.State} {u es},
      (((q.base.wait handle b).run.run s).bind fun r => .done (r.1, r.2, queue)).Leads env u es
        (.ok receipt, s', queue') v →
      ∃ t hash, .asked t (.node (.receipt hash)) (Except.ok (ε := Failure) (some receipt)) ∈
        es := by
    intro handle b queue u es course
    obtain ⟨⟨r, s₁⟩, waited, result⟩ := Program.leads_bind_done.mp course
    cases result
    exact base _ _ _ _ _ _ _ _ waited
  cases handle with
  | hash hash => exact atBase (.hash hash) bounds h
  | ticket id =>
    have h : Program.Leads env ((q.wait (.ticket id) bounds).run.run (s, queue)) u es
      (.ok receipt, s', queue') v := h
    rw [q.wait_ticket] at h
    obtain ⟨es₁, ⟨r, queue₁⟩, w, es₂, -, left, rfl⟩ :=
      Program.leads_bind.mp (Program.leads_clock.mp h)
    cases r with
    | error failure => cases (Program.leads_done.mp left).2.1
    | ok handle =>
      obtain ⟨t, hash, heard⟩ := atBase _ _ (Program.leads_clock.mp left)
      exact ⟨t, hash, List.mem_append_right _ heard⟩

end

theorem LocalWallet.send_sent {σ τ : Type} {env : Environment Outside τ} {w : LocalWallet}
    {tx : Draft} {hints : Hints} {signature : Signature} {hash : Hash} {s : σ} {t t' : Nat}
    {e e' : τ} (sender : tx.sender = w.address)
    (signed : w.key.signDigest tx.signingHash = some signature)
    (asked : env (.node (.sendRaw (tx.signed signature).raw)) t e =
      ⟨Except.ok (ε := Failure) hash, e', t'⟩) :
    ∃ es, Action.Leads env (w.backend.send tx hints) s ⟨t, e⟩ es (.ok (.hash hash)) s ⟨t', e'⟩ := by
  have signs : w.sign tx = .ok (tx.signed signature) := by
    simp only [sign, Backend.ensureSender, sender, if_true, signDigest, signed]
    rfl
  have broadcast : Program.Leads env.outsideNode (Node.sendRaw (tx.signed signature).raw).run
    ⟨t, e⟩ _ (.ok hash)
      ⟨t', e'⟩ :=
    Program.Leads.ask (w := ⟨t', e'⟩) (Program.outsideNode_eq asked)
      (Program.leads_done.mpr ⟨rfl, rfl, rfl⟩)
  have sent := (Action.leads_ofNode (s := s)).mpr ⟨⟨_, broadcast, rfl⟩, rfl⟩
  exact ⟨_, (Action.leads_result.mpr ⟨rfl, signs.symm, rfl, rfl⟩).bind
    (sent.bind (Action.leads_pure.mpr ⟨rfl, rfl, rfl, rfl⟩))⟩

theorem Backend.wait_found {σ τ : Type} {env : Environment Outside τ} {b : Backend σ}
    {wallet : String} {hash : Hash} {bounds : WaitBounds} {s : σ} {t t₁ t₂ : Nat} {e e₁ e₂ : τ}
    {start : UInt64} {receipt : Receipt} (waits : b.wait = Backend.waitAtNode wallet)
    (asked : env (.node .blockNumber) t e = ⟨Except.ok (ε := Failure) start, e₁, t₁⟩)
    (found : env (.node (.receipt hash)) t₁ e₁ =
      ⟨Except.ok (ε := Failure) (some receipt), e₂, t₂⟩) :
    ∃ es, Action.Leads env (b.wait (.hash hash) bounds) s ⟨t, e⟩ es (.ok receipt) s ⟨t₂, e₂⟩ := by
  obtain ⟨es, course⟩ :=
    waitForReceipt_found (b := bounds) (u := ⟨t, e⟩) (w := ⟨t₁, e₁⟩) (v := ⟨t₂, e₂⟩)
    (Program.outsideNode_eq asked) (Program.outsideNode_eq found)
  rw [waits]
  exact ⟨_, Action.leads_ofNode.mpr ⟨⟨es, course, rfl⟩, rfl⟩⟩

/-! ## Over a gateway -/

namespace JsonRpc

section
variable {σ τ : Type}

def Gateway.through {α : Type} (g : Gateway) (a : Action σ α) (s : σ) (id : Nat) :
    Program Outside ((Except Failure α × σ) × Nat) :=
  Program.interpret (I := Outside) (J := Outside) g.serve (a.run.run s) id

abbrev BlockReading := List (Json.Literal × Json.Tree) → UInt64 → Prop

/-- A reply gave the receipt, with such a reading of its block, and after it a reply gave a block
number at least so many blocks further. -/
def Gateway.Counts (g : Gateway) (reading : BlockReading) (es : List (Event Outside))
    (receipt : Receipt)
    (blocks : UInt64) : Prop :=
  ∃ t id hash reply members t' id' reply' result current,
    [g.replied t id (.receipt hash) reply, g.replied t' id' .blockNumber reply'].Sublist es ∧
    Gives reply (.object members) ∧ receipt? (.object members) = some receipt ∧
      reading members receipt.blockNumber ∧
    Gives reply' result ∧ word64? result = some current ∧
    min (receipt.blockNumber.toNat + blocks.toNat) (UInt64.size - 1) ≤ current.toNat

/-- A submission that ends with a successful receipt, and was to be confirmed, counted its
confirmations from such a reading. -/
def Gateway.Confirms (g : Gateway) (reading : BlockReading) (env : Environment Outside τ)
    (b : Backend σ) (d : Dispatcher) (call : Call) (o : Options) : Prop :=
  ∀ memory s id u es outcome receipt memory' s' id' v,
    (g.through (Dispatcher.through b (d.submit call o)) (memory, s) id).Leads env u es
      ((.ok outcome, memory', s'), id') v →
    outcome.receipt = some receipt → receipt.success = true → 0 < o.confirmationBlocks →
    g.Counts reading es receipt o.confirmationBlocks

variable {g : Gateway} {env : Environment Outside τ} {b : Backend σ}

theorem Gateway.confirms_of_hearsNode (hears : b.HearsNode (env.answering g.serve)) (d : Dispatcher)
    (call : Call)
    (o : Options) : g.Confirms Placed env b d call o := by
  intro memory s id u es outcome receipt memory' s' id' v h mined success wanted
  obtain ⟨outer, course, served⟩ := Program.leads_interpret (I := Outside) h
  obtain ⟨desk, submitted, answered⟩ := leads_through course
  obtain ⟨_, handle, bounds, _, current, order, reached⟩ :=
    submit_topped submitted mined success wanted
  obtain ⟨waiting, asking, within, ⟨_, _, _, _, waited⟩, _, _, _, _, asked⟩ :=
    answered.in_order order
  obtain ⟨t, hash, heard⟩ := hears _ _ _ _ _ _ _ _ waited
  -- The wallet's wait asks for the receipt, and the desk's question is the node's.
  obtain ⟨n, told, result⟩ := Program.leads_bind_done.mp asked
  cases result
  obtain ⟨known, rfl, -⟩ := (Program.leads_ask_done (I := Outside) (f := fun a => a)).mp told
  rw [← known] at within
  have inOrder :=
    (List.Sublist.append (List.singleton_sublist.mpr heard) (List.Sublist.refl _)).trans within
  obtain ⟨_, _, replied, ⟨_, _, _, _, first⟩, _, _, _, _, second⟩ := served.in_order inOrder
  obtain ⟨reply, members, rfl, gives, read, placed⟩ := Gateway.serve_receipt first
  obtain ⟨reply', result, rfl, gives', number⟩ := Gateway.serve_blockNumber second
  refine ⟨_, _, _, reply, members, _, _, reply', result, current, replied, gives, read, placed,
    gives', number, ?_⟩
  rw [← toNat_addWithin64]
  exact UInt64.le_iff_toNat_le.mp reached

/-- The confirmations of a submission are counted from the block that the node's receipt names, and
from the first block if it names none; this is so with every wallet, and with a queue before it. -/
theorem Gateway.confirms_from_placed_block (g : Gateway) (env : Environment Outside τ) (w : Wallet)
    (d : Dispatcher) (call : Call) (o : Options) :
    g.Confirms Placed env w.backend d call o ∧
      ∀ pool lifetime, g.Confirms Placed env (QueueWallet.mk w.backend pool lifetime).backend d
        call o := by
  obtain ⟨name, waits⟩ := w.waits_at_node
  have hears : w.backend.HearsNode (env.answering g.serve) := Backend.hearsNode_of_waitAtNode waits
  constructor
  · exact confirms_of_hearsNode hears d call o
  · intro pool lifetime
    exact confirms_of_hearsNode (Backend.HearsNode.queue (q := ⟨w.backend, pool, lifetime⟩) hears) d
      call o

end

/-! ## A receipt that names no block -/

def replaying : Environment Outside (List Http.Reply) := fun q t replies =>
  match q, replies with
  | .http _, reply :: rest => ⟨.ok reply, rest, t⟩
  | q, replies => ⟨q.refusal, replies, t⟩

theorem replaying_rest {q : OutsideQuestion} {t : Nat} {replies : List Http.Reply}
    {reply : Http.Reply} (h : reply ∈ (replaying q t replies).state) : reply ∈ replies := by
  cases q with
  | http request =>
    cases replies with
    | nil => exact h
    | cons head rest => exact List.mem_cons_of_mem head h
  | _ => exact h

theorem replaying_replied {α : Type} {p : Program Outside α} {u v : Moment (List Http.Reply)}
    {es : List (Event Outside)} {a : α} (h : p.Leads replaying u es a v) {t : Nat}
    {request : Http.Request} {reply : Http.Reply}
    (replied : .asked t (.http request) (Except.ok (ε := String) reply) ∈ es) :
    reply ∈ u.state := by
  induction p generalizing u es with
  | done b =>
    obtain ⟨rfl, -, -⟩ := Program.leads_done.mp h
    cases replied
  | ask q next ih =>
    obtain ⟨rest, rfl, left⟩ := Program.leads_ask.mp h
    rcases List.mem_cons.mp replied with same | later
    · obtain ⟨-, rfl, answer⟩ := Event.asked.inj same
      cases state : u.state with
      | nil =>
        rw [state] at answer
        cases answer
      | cons head rest =>
        rw [state] at answer
        cases answer
        exact List.mem_cons_self
    · exact replaying_rest (ih _ left later)
  | sleep d next ih =>
    obtain ⟨rest, rfl, left⟩ := Program.leads_sleep.mp h
    rcases List.mem_cons.mp replied with same | later
    · cases same
    · have kept := ih left later
      exact kept
  | clock next ih => exact ih _ (Program.leads_clock.mp h) replied

def plainGateway : Gateway := ⟨"http://node"⟩

theorem plainGateway_requestable : Url.isRequestable plainGateway.url = true := by decide +kernel

def served : Environment Outside (Nat × List Http.Reply) := replaying.answering plainGateway.serve

theorem served_blockNumber {n : Nat} (small : n < UInt64.size) (id : Nat) (rest : List Http.Reply) :
    served (.node .blockNumber) 0 (id, resultReply (quantityJson n) :: rest) =
      ⟨Except.ok (ε := Failure) (UInt64.ofNat n), (id + 1, rest), 0⟩ :=
  Program.answering_eq (u := ⟨0, _ :: rest⟩) (v := ⟨0, rest⟩)
    (Gateway.answer_leads plainGateway_requestable rfl (gives_resultReply trivial)
      (word64?_quantityJson small))

theorem served_sendRaw (raw : Bytes) (hash : Hash) (id : Nat) (rest : List Http.Reply) :
    served (.node (.sendRaw raw)) 0 (id, resultReply (hashJson hash) :: rest) =
      ⟨Except.ok (ε := Failure) hash, (id + 1, rest), 0⟩ :=
  Program.answering_eq (u := ⟨0, _ :: rest⟩) (v := ⟨0, rest⟩)
    (Gateway.answer_leads plainGateway_requestable rfl (gives_resultReply trivial)
      (Json.fixed?_marked hash))

def zeroReceipt (block : UInt64) : Receipt :=
  { hash := .zero, success := true, gasUsed := 0, blockNumber := block, blockHash := none }

section
variable (block : Option UInt64)

theorem gives_receiptMembers :
    Gives (resultReply (.object (receiptMembers block)))
    (Json.object (receiptMembers block)).toTree :=
  gives_resultReply (Json.Storable.whole _ (storable_receiptMembers block))

theorem served_receipt (id : Nat) (rest : List Http.Reply) :
    served (.node (.receipt .zero)) 0 (id, resultReply (.object (receiptMembers block)) :: rest) =
      ⟨Except.ok (ε := Failure) (some (zeroReceipt (block.getD 0))), (id + 1, rest), 0⟩ := by
  have value : nullable? receipt? (Json.object (receiptMembers block)).toTree =
      some (some (zeroReceipt (block.getD 0))) :=
    congrArg (Option.map some) (receipt?_receiptMembers block)
  exact Program.answering_eq (u := ⟨0, _ :: rest⟩) (v := ⟨0, rest⟩)
    (Gateway.answer_leads plainGateway_requestable rfl (gives_receiptMembers block) value)

def minedReplies : List Http.Reply :=
  [resultReply (hashJson .zero), resultReply (quantityJson 2), resultReply
    (.object (receiptMembers block)),
    resultReply (quantityJson 2)]

def confirmingDispatcher : Dispatcher := { patientDispatcher with account := unitSoftware.address }

def confirmingOptions : Options := { patientOptions with confirmationBlocks := 1 }

def confirmingSubmission : Step Outcome :=
  confirmingDispatcher.submit (.ofData .zero []) confirmingOptions

def confirmingDraft : Draft :=
  confirmingDispatcher.draft (.ofData .zero []) confirmingOptions none 1 (.legacy 1)

theorem sender_confirmingDraft : confirmingDraft.sender = unitSoftware.address := rfl

def softWallet : Wallet := .local_ unitSoftware

def servedDesk : Environment Desk (Enclave.Counter × Nat × List Http.Reply) :=
  softWallet.backend.desk served

theorem desk_sent (hints : Hints) :
    servedDesk (.send confirmingDraft hints) 0 (0, 0, minedReplies block) =
      ⟨Except.ok (ε := Failure) (.hash .zero), (0, 1, (minedReplies block).tail), 0⟩ := by
  have asked :=
    served_sendRaw (confirmingDraft.signed dearSignature).raw .zero 0 (minedReplies block).tail
  have sent : ∃ es, Action.Leads served (softWallet.backend.send confirmingDraft hints) 0
      ⟨0, 0, minedReplies block⟩ es (.ok (.hash .zero)) 0 ⟨0, 1, (minedReplies block).tail⟩ :=
    LocalWallet.send_sent sender_confirmingDraft rfl asked
  obtain ⟨es, sent⟩ := sent
  exact Backend.desk_send sent

theorem desk_waited (bounds : WaitBounds) :
    servedDesk (.wait (.hash .zero) bounds) 0 (0, 1, (minedReplies block).tail) =
      ⟨Except.ok (ε := Failure) (zeroReceipt (block.getD 0)),
        (0, 3, [resultReply (quantityJson 2)]), 0⟩ := by
  have asked : served (.node .blockNumber) 0 (1, (minedReplies block).tail) =
      ⟨Except.ok (ε := Failure) 2, (2, (minedReplies block).tail.tail), 0⟩ :=
        served_blockNumber (by decide) 1 _
  have found : served (.node (.receipt .zero)) 0 (2, (minedReplies block).tail.tail) =
      ⟨Except.ok (ε := Failure) (some (zeroReceipt (block.getD 0))),
        (3, [resultReply (quantityJson 2)]), 0⟩ :=
    served_receipt block 2 _
  obtain ⟨name, waits⟩ := softWallet.waits_at_node
  have waited : ∃ es, Action.Leads served (softWallet.backend.wait (.hash .zero) bounds) 0
      ⟨0, 1, (minedReplies block).tail⟩ es (.ok (zeroReceipt (block.getD 0))) 0
      ⟨0, 3, [resultReply (quantityJson 2)]⟩ :=
    Backend.wait_found waits asked found
  obtain ⟨es, waited⟩ := waited
  have answered := Backend.desk_wait waited
  exact answered

theorem desk_asked : servedDesk (.node .blockNumber) 0 (0, 3, [resultReply (quantityJson 2)]) =
    ⟨Except.ok (ε := Failure) 2, (0, 4, []), 0⟩ :=
  Backend.desk_node (served_blockNumber (by decide) 3 [])

theorem confirming_ends (reached : addWithin64 (block.getD 0) 1 ≤ 2) :
    ∃ es, (plainGateway.through (Dispatcher.through softWallet.backend confirmingSubmission)
      (patientMemory, 0)
      0).Leads replaying ⟨0, minedReplies block⟩ es
      ((.ok ⟨none, some (.hash .zero), some (zeroReceipt (block.getD 0)), 1⟩, patientMemory, 0), 4)
        ⟨0, []⟩ := by
  let u : Scene (Enclave.Counter × Nat × List Http.Reply) :=
    ⟨⟨0, 0, 0, minedReplies block⟩, patientMemory⟩
  have priced : Step.Leads servedDesk
      (Dispatcher.attempt (confirmingDispatcher.settings.resolveFees confirmingOptions)) u []
        (.ok (.legacy 1)) u :=
        Step.leads_attempt.mpr ⟨[], Program.leads_done.mpr ⟨rfl, rfl, rfl⟩, rfl, rfl⟩
  have chain : Step.Leads servedDesk Dispatcher.resolveChain u [] (.ok 1) u :=
    resolveChain_leads.mpr (.inl ⟨1, rfl, rfl, rfl, rfl⟩)
  have cleared :
    Cleared servedDesk confirmingDispatcher (.ofData .zero []) confirmingOptions u [] none
      confirmingDraft u :=
    .intro (.skipped rfl (.inl rfl)) chain priced (.unchecked rfl)
  have delivered : ∃ es, Step.Leads servedDesk
      (confirmingDispatcher.deliver (.ofData .zero []) confirmingOptions none confirmingDraft) u es
      (.ok ⟨none, some (.hash .zero), some (zeroReceipt (block.getD 0)), 1⟩)
        ⟨⟨0, 0, 4, []⟩, patientMemory⟩ := by
    have sent := desk_sent block (Dispatcher.hints (.ofData .zero []) confirmingOptions)
    have waited := desk_waited block (confirmingDispatcher.bounds confirmingOptions)
    exact deliver_confirmed rfl rfl sent waited desk_asked rfl (by decide) reached
  obtain ⟨_, delivered⟩ := delivered
  have submitted : Step.Leads (softWallet.backend.desk served) confirmingSubmission
      ⟨⟨0, 0, 0, minedReplies block⟩, patientMemory⟩ _
      (.ok ⟨none, some (.hash .zero), some (zeroReceipt (block.getD 0)), 1⟩)
        ⟨⟨0, 0, 4, []⟩, patientMemory⟩ :=
    submit_leads.mpr ⟨_, cleared.perform delivered, rfl⟩
  obtain ⟨_, course⟩ := submitted.through
  obtain ⟨es, ends, -⟩ := Program.Leads.interpret (I := Outside) course
  exact ⟨es, ends⟩

end

theorem named_receipt_counted : ∃ es, plainGateway.Counts Placed es (zeroReceipt 1) 1 := by
  obtain ⟨es, ends⟩ := confirming_ends (some 1) (by decide)
  have confirms :=
    (plainGateway.confirms_from_placed_block replaying softWallet confirmingDispatcher
    (.ofData .zero []) confirmingOptions).1
  exact ⟨es, confirms _ _ _ _ _ _ _ _ _ _ _ ends rfl rfl (by decide)⟩

/-- A receipt that names no block is confirmed all the same. -/
theorem unnamed_receipt_confirmed :
    ¬ ∀ (g : Gateway) (env : Environment Outside (List Http.Reply)) (w : Wallet) (d : Dispatcher)
      (call : Call)
      (o : Options), g.Confirms Named env w.backend d call o := by
  intro named
  obtain ⟨es, ends⟩ := confirming_ends none (by decide)
  obtain ⟨_, _, _, reply, members, _, _, _, _, _, order, gives, -, ⟨value, member, number⟩, -⟩ :=
    named plainGateway replaying softWallet confirmingDispatcher (.ofData .zero [])
      confirmingOptions _ _ _ _ _ _ _ _
      _ _ _ ends rfl rfl (by decide)
  have replied : reply ∈ minedReplies none :=
    replaying_replied ends (order.subset List.mem_cons_self)
  simp only [minedReplies, List.mem_cons, List.not_mem_nil, or_false] at replied
  rcases replied with rfl | rfl | rfl | rfl
  · cases gives.unique (gives_resultReply trivial)
  · cases gives.unique (gives_resultReply trivial)
  · cases gives.unique (gives_receiptMembers none)
    cases (single?_receiptMembers none "blockNumber").symm.trans member
    cases number
  · cases gives.unique (gives_resultReply trivial)

end JsonRpc

end Dispatch
