import Dispatch.Proofs.Clearance
import Dispatch.Proofs.Interpretation

/-!
# Receipts and the blocks on top of them

A receipt that was waited for is the node's answer, and confirmations end with a block number that
is far enough. So a submission that ends with a receipt to be confirmed heard of it first, and then
of a block so far behind the one in the receipt.
-/

set_option autoImplicit false

namespace Dispatch
open Program (Environment Event Moment)

theorem toNat_addWithin64 (a b : UInt64) :
    (addWithin64 a b).toNat = min (a.toNat + b.toNat) (UInt64.size - 1) := by
  rw [addWithin64, UInt64.toNat_ofNat']
  exact Nat.mod_eq_of_lt (Nat.lt_of_le_of_lt (Nat.min_le_right _ _) (by decide))

/-! ## Waiting at the node -/

section
variable {σ : Type} {env : Environment Node σ} {u v : Moment σ} {es : List (Event Node)}
  {hash : Hash} {b : WaitBounds} {started : Nat} {receipt : Receipt}

theorem giveUp_not_ok :
    ¬ Program.Leads env (Waiting.giveUp hash started).run u es (.ok receipt) v := by
  intro h
  obtain ⟨_ | _ | _, -, given, -⟩ := giveUp_leads h <;> cases given

theorem poll_ok {startBlock current : UInt64} {rounds : Nat}
    (h : Program.Leads env (Waiting.poll hash b started startBlock rounds current).run u es
      (.ok receipt) v) :
    ∃ t, .asked t (.receipt hash) (Except.ok (ε := Failure) (some receipt)) ∈ es := by
  induction rounds generalizing u es current with
  | zero => exact absurd h giveUp_not_ok
  | succ rounds ih =>
    cases poll_round h with
    | found => exact ⟨_, List.mem_cons_self⟩
    | gaveUp _ ends => exact absurd ends giveUp_not_ok
    | again _ _ _ rest =>
      obtain ⟨t, heard⟩ := ih rest
      exact ⟨t, by simp [heard]⟩

theorem waitForReceipt_ok (h : Program.Leads env (waitForReceipt hash b).run u es (.ok receipt) v) :
    ∃ t, .asked t (.receipt hash) (Except.ok (ε := Failure) (some receipt)) ∈ es := by
  rcases waitForReceipt_leads h with ⟨_, -, failed, -⟩ | ⟨start, rest, rfl, polled⟩
  · cases failed
  · obtain ⟨t, heard⟩ := poll_ok polled
    exact ⟨t, List.mem_cons_of_mem _ heard⟩

theorem confirm_ok {target : UInt64} {rounds : Nat}
    (h : Program.Leads env (Waiting.confirm hash b started target rounds).run u es (.ok ()) v) :
    ∃ init t current, es = init ++ [.asked t .blockNumber (.ok current)] ∧ target ≤ current := by
  induction rounds generalizing u es with
  | zero => cases (confirm_over h).2.1
  | succ rounds ih =>
    cases confirm_round h with
    | reached there => exact ⟨[], _, _, rfl, there⟩
    | again _ _ _ rest =>
      obtain ⟨init, t, current, rfl, there⟩ := ih rest
      exact ⟨_ :: _ :: init, t, current, rfl, there⟩

theorem WaitBounds.rounds_eq_succ (b : WaitBounds) : ∃ rounds, b.rounds = rounds + 1 := by
  apply Nat.exists_eq_add_one.mpr
  unfold rounds
  split
  · decide
  · exact Nat.succ_pos _

theorem waitForReceipt_found {start : UInt64} {w : Moment σ}
    (asked : env .blockNumber u.time u.state = ⟨Except.ok (ε := Failure) start, w.state, w.time⟩)
    (found : env (.receipt hash) w.time w.state =
      ⟨Except.ok (ε := Failure) (some receipt), v.state, v.time⟩) :
    ∃ es, Program.Leads env (waitForReceipt hash b).run u es (.ok receipt) v := by
  obtain ⟨rounds, more⟩ := b.rounds_eq_succ
  have answered : Program.Leads env (Node.receipt hash).run w _ (.ok (some receipt)) v :=
    Program.Leads.ask found (Program.leads_done.mpr ⟨rfl, rfl, rfl⟩)
  obtain ⟨es, polled⟩ : ∃ es,
      Program.Leads env (Waiting.poll hash b u.time start b.rounds start).run w es
        (.ok receipt) v := by
    rw [more]
    exact ⟨_, Program.leads_except_bind.mpr
      (.inr ⟨_, _, v, [], answered, Program.leads_except_pure.mpr ⟨rfl, rfl, rfl⟩, rfl⟩)⟩
  have started : Program.Leads env (ExceptT.run Node.blockNumber) u _ (.ok start) w :=
    Program.Leads.ask asked (Program.leads_done.mpr ⟨rfl, rfl, rfl⟩)
  exact ⟨_, Program.leads_now_bind.mpr
    (Program.leads_except_bind.mpr (.inr ⟨_, start, w, _, started, polled, rfl⟩))⟩

theorem waitForConfirmations_reached {blocks current : UInt64}
    (asked : env .blockNumber u.time u.state = ⟨Except.ok (ε := Failure) current, v.state, v.time⟩)
    (reached : addWithin64 receipt.blockNumber blocks ≤ current) :
    ∃ es, Program.Leads env (waitForConfirmations receipt blocks b).run u es (.ok ()) v := by
  obtain ⟨rounds, more⟩ := b.rounds_eq_succ
  have answered : Program.Leads env (ExceptT.run Node.blockNumber) u _ (.ok current) v :=
    Program.Leads.ask asked (Program.leads_done.mpr ⟨rfl, rfl, rfl⟩)
  obtain ⟨es, confirmed⟩ : ∃ es, Program.Leads env
      (Waiting.confirm receipt.hash b u.time (addWithin64 receipt.blockNumber blocks) b.rounds).run
        u es
      (.ok ()) v := by
    rw [more]
    refine ⟨_, Program.leads_except_bind.mpr (.inr ⟨_, current, v, [], answered, ?_, rfl⟩)⟩
    rw [if_pos reached]
    exact Program.leads_except_pure.mpr ⟨rfl, rfl, rfl⟩
  exact ⟨_, Program.leads_now_bind.mpr confirmed⟩

end

/-! ## At the desk -/

section
open Step
variable {σ : Type} {env : Environment Desk σ} {d : Dispatcher} {call : Call} {o : Options}
  {u v : Scene σ} {es : List (Event Desk)}

/-- The wallet gave the receipt, and after that the node was at least so many blocks further. -/
def Topped (es : List (Event Desk)) (receipt : Receipt) (blocks : UInt64) : Prop :=
  ∃ t handle bounds t' current,
    [Event.asked t (DeskQuestion.wait handle bounds) (Except.ok (ε := Failure) receipt),
      Event.asked t' (DeskQuestion.node .blockNumber) (Except.ok (ε := Failure) current)].Sublist
        es ∧
    addWithin64 receipt.blockNumber blocks ≤ current

theorem Awaiting.topped {handle : Handle} {receipt : Receipt}
    (h : Awaiting env d o handle u es (.ok receipt) v)
    (success : receipt.success = true) (wanted : 0 < o.confirmationBlocks) :
    Topped es receipt o.confirmationBlocks := by
  generalize result : Except.ok receipt = r at h
  cases h with
  | unmined => cases result
  | mined _ settled =>
    cases result
    exact absurd ⟨success, wanted⟩ settled
  | @confirming _ _ r _ _ _ _ confirmed =>
    cases r with
    | error failure => cases result
    | ok _ =>
      cases result
      obtain ⟨asked, course, rfl, -⟩ := leads_attempt.mp confirmed
      obtain ⟨init, t, current, rfl, reached⟩ := confirm_ok (waitForConfirmations_leads course)
      refine ⟨u.time, handle, d.bounds o, t, current, List.Sublist.cons_cons _ ?_, reached⟩
      simp [Event.atDesk]

theorem judge_ok {outcome outcome' : Outcome} (h : Dispatcher.judge o outcome = .ok outcome') :
    outcome = outcome' := by
  unfold Dispatcher.judge at h
  split at h
  · split at h
    · cases h
    · exact Except.ok.inj h
  · exact Except.ok.inj h

theorem submit_topped {outcome : Outcome} {receipt : Receipt}
    (h : Leads env (d.submit call o) u es (.ok outcome) v)
    (mined : outcome.receipt = some receipt) (success : receipt.success = true)
    (wanted : 0 < o.confirmationBlocks) :
    Topped es receipt o.confirmationBlocks := by
  obtain ⟨r, performed, judged⟩ := submit_leads.mp h
  cases r with
  | error failure => cases judged
  | ok made =>
  cases judge_ok judged.symm
  rcases perform_cases performed with halted | ⟨es₁, dryRun, tx, w, es₂, -, delivered, rfl⟩
  · cases (halted.unsent _ rfl).2.symm.trans mined
  rcases deliver_cases delivered with
    ⟨_, -, failed⟩ | ⟨es₃, handle, w', -, ⟨-, -, sent, -⟩ | ⟨-, es₄, r, waits, rfl, told⟩⟩
  · cases failed
  · cases sent
    cases mined
  · cases r with
    | error failure => cases told
    | ok found =>
      cases told
      cases mined
      obtain ⟨t, handle, bounds, t', current, order, reached⟩ := waits.topped success wanted
      have later :=
        (order.trans (List.sublist_append_right es₃ es₄)).trans (List.sublist_append_right es₁ _)
      exact ⟨t, handle, bounds, t', current, later, reached⟩

theorem after_of_answered {q : DeskQuestion} {a : q.Answer} {t t' : Nat} {s s' : σ} {m : Memory}
    (h : env q t s = ⟨a, s', t'⟩) : Scene.after env ⟨⟨t, s⟩, m⟩ q = ⟨⟨t', s'⟩, m⟩ := by
  simp only [Scene.after, Moment.after, h]

theorem awaitReceipt_confirmed {current : UInt64} {handle : Handle} {receipt : Receipt}
    {t t₁ t₂ : Nat} {s s₁ s₂ : σ} {m : Memory}
    (waited : env (.wait handle (d.bounds o)) t s = ⟨Except.ok (ε := Failure) receipt, s₁, t₁⟩)
    (asked : env (.node .blockNumber) t₁ s₁ = ⟨Except.ok (ε := Failure) current, s₂, t₂⟩)
    (success : receipt.success = true) (wanted : 0 < o.confirmationBlocks)
    (reached : addWithin64 receipt.blockNumber o.confirmationBlocks ≤ current) :
    ∃ es, Leads env (d.awaitReceipt o handle) ⟨⟨t, s⟩, m⟩ es (.ok receipt) ⟨⟨t₂, s₂⟩, m⟩ := by
  have found : Leads env (Dispatcher.wait handle (d.bounds o)) ⟨⟨t, s⟩, m⟩ _ (.ok receipt)
    ⟨⟨t₁, s₁⟩, m⟩ :=
    leads_wait.mpr ⟨by rw [waited], rfl, (after_of_answered waited).symm⟩
  have atNode : env.node .blockNumber t₁ s₁ = ⟨Except.ok (ε := Failure) current, s₂, t₂⟩ := by
    simp only [Program.Environment.node, asked]
  obtain ⟨es, course⟩ := waitForConfirmations_reached (u := ⟨t₁, s₁⟩) (v := ⟨t₂, s₂⟩) atNode reached
  have confirmed : Leads env (Dispatcher.attempt (waitForConfirmations receipt o.confirmationBlocks
      ((d.bounds o).remainingAfter (.ofNanos (t₁ - t))))) ⟨⟨t₁, s₁⟩, m⟩ _ (.ok ()) ⟨⟨t₂, s₂⟩, m⟩ :=
    leads_attempt.mpr ⟨es, course, rfl, rfl⟩
  refine exists_leads_bind ⟨[], leads_consult_now.mpr ⟨rfl, rfl, rfl⟩⟩
    (exists_leads_bind ⟨_, found⟩ ?_)
  rw [if_pos ⟨success, wanted⟩]
  refine exists_leads_bind ⟨[], leads_consult_since.mpr ⟨rfl, rfl, rfl⟩⟩ ?_
  exact exists_leads_bind ⟨_, confirmed⟩ ⟨[], leads_pure.mpr ⟨rfl, rfl, rfl⟩⟩

theorem deliver_confirmed {dryRun : Option DryRun} {tx : Draft} {nonce current : UInt64}
    {handle : Handle} {receipt : Receipt} {t t₁ t₂ t₃ : Nat} {s s₁ s₂ s₃ : σ} {m : Memory}
    (own : o.nonce = some nonce) (waits : o.waitFor = true)
    (sent : env (.send { tx with nonce } (Dispatcher.hints call o)) t s =
      ⟨Except.ok (ε := Failure) handle, s₁, t₁⟩)
    (waited : env (.wait handle (d.bounds o)) t₁ s₁ = ⟨Except.ok (ε := Failure) receipt, s₂, t₂⟩)
    (asked : env (.node .blockNumber) t₂ s₂ = ⟨Except.ok (ε := Failure) current, s₃, t₃⟩)
    (success : receipt.success = true) (wanted : 0 < o.confirmationBlocks)
    (reached : addWithin64 receipt.blockNumber o.confirmationBlocks ≤ current) :
    ∃ es, Leads env (d.deliver call o dryRun tx) ⟨⟨t, s⟩, m⟩ es
      (.ok ⟨dryRun, some handle, some receipt, 1⟩)
      ⟨⟨t₃, s₃⟩, m⟩ := by
  have numbered : Leads env (d.takeNonce o) ⟨⟨t, s⟩, m⟩ [] (.ok nonce) ⟨⟨t, s⟩, m⟩ :=
    takeNonce_leads.mpr (.inl ⟨nonce, own, rfl, rfl, rfl⟩)
  have handed : Leads env (Dispatcher.send { tx with nonce } (Dispatcher.hints call o)) ⟨⟨t, s⟩, m⟩
    _ (.ok handle)
      ⟨⟨t₁, s₁⟩, m⟩ :=
    leads_send.mpr ⟨by rw [sent], rfl, (after_of_answered sent).symm⟩
  have mined := awaitReceipt_confirmed (m := m) waited asked success wanted reached
  refine exists_leads_bind
    (exists_leads_bind ⟨_, numbered⟩ ⟨_, leads_tryCatch.mpr (.inl ⟨handle, handed, rfl⟩)⟩) ?_
  rw [if_pos waits]
  exact exists_leads_bind mined ⟨[], leads_result.mpr ⟨rfl, rfl, rfl⟩⟩

end

end Dispatch
