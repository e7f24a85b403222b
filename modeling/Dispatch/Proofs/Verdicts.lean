import Dispatch.Proofs.Clearance

/-!
# What a failure says about the draft

A failure of the dry run means that nothing was sent, but for two cases: the send was forced and its
receipt not waited for, or the node gave that very failure while blocks were counted.
-/

set_option autoImplicit false

namespace Dispatch
open Program (Environment Event)
open Step

def Failure.OfDryRun : Failure → Prop
  | .dryRunRevert _ => True
  | .dryRunFailed _ => True
  | _ => False

def DryRun.failure? : DryRun → Option Failure
  | .wouldSucceed _ => none
  | .wouldRevert reason => some (.dryRunRevert reason)
  | .nodeError error => some (.dryRunFailed error)

theorem DryRun.isSuccess_of_failure {dryRun : DryRun} {e : Failure} (h : dryRun.failure? = some e) :
    dryRun.isSuccess = false := by
  cases dryRun with
  | wouldSucceed gas => cases h
  | wouldRevert reason => rfl
  | nodeError error => rfl

theorem judge_error {o : Options} {outcome : Outcome} {e : Failure}
    (h : Dispatcher.judge o outcome = .error e) : o.raiseForStatus ∧ outcome.failure? = some e := by
  unfold Dispatcher.judge at h
  split at h
  · next hr =>
    refine ⟨hr, ?_⟩
    cases hf : outcome.failure? with
    | none => simp [hf] at h
    | some failure =>
      simp only [hf, Except.error.injEq] at h
      rw [h]
  · cases h

theorem failure_ofDryRun {outcome : Outcome} {e : Failure} (h : outcome.failure? = some e)
    (he : e.OfDryRun) :
    outcome.receipt = none ∧ ∃ dryRun, outcome.dryRun = some dryRun ∧ dryRun.failure? = some e := by
  obtain ⟨dryRun, handle, receipt, attempts⟩ := outcome
  cases receipt with
  | some receipt =>
    simp only [Outcome.failure?] at h
    split at h
    · cases h
    · cases h
      exact he.elim
  | none =>
    refine ⟨rfl, ?_⟩
    cases dryRun with
    | none => cases h
    | some dryRun => exact ⟨dryRun, rfl, by cases dryRun <;> exact h⟩

/-- The wallet never answers with a failure of a dry run. -/
structure Separate {σ : Type} (env : Environment Desk σ) : Prop where
  send : ∀ tx hints t s e, (env (.send tx hints) t s).answer = .error e → ¬ e.OfDryRun
  wait : ∀ handle bounds t s e, (env (.wait handle bounds) t s).answer = .error e → ¬ e.OfDryRun

section
variable {σ : Type} {env : Environment Desk σ} {d : Dispatcher} {call : Call} {o : Options}
  {u v : Scene σ} {es : List (Event Desk)} {e : Failure}

theorem Sending.unsent {tx : Draft} {hints : Hints} (h : Sending env d o tx hints u es (.error e) v)
    (sep : Separate env) (he : e.OfDryRun) : drafts es = [] := by
  cases h with
  | withoutNonce taken =>
    rcases takeNonce_leads.mp taken with ⟨_, -, -, hr, -⟩ | ⟨-, answer, -, rfl, -⟩
    · cases hr
    · rfl
  | refused taken answer => exact (sep.send _ _ _ _ _ answer he).elim

theorem Awaiting.ofDryRun {handle : Handle} (h : Awaiting env d o handle u es (.error e) v)
    (sep : Separate env) (he : e.OfDryRun) :
    0 < o.confirmationBlocks ∧
      ∃ init t, es = init ++ [.asked t (.node .blockNumber) (.error e)] := by
  generalize hr : Except.error e = r at h
  cases h with
  | unmined answer =>
    cases hr
    exact (sep.wait _ _ _ _ _ answer he).elim
  | mined => cases hr
  | @confirming receipt es r _ _ _ blocks confirmed =>
    cases r with
    | ok => cases hr
    | error f =>
      cases hr
      refine ⟨blocks, ?_⟩
      obtain ⟨asked, hc, rfl, -⟩ := leads_attempt.mp confirmed
      rcases waitForConfirmations_error hc with ⟨waited, rfl⟩ | ⟨init, t, rfl⟩
      · exact he.elim
      · refine ⟨.asked u.time (.wait handle (d.bounds o)) (.ok receipt) :: init.map Event.atDesk, t,
          ?_⟩
        simp [Event.atDesk]

theorem Simulated.forced {dryRun : DryRun} (h : Simulated env d call o u es (some dryRun) v)
    (failed : dryRun.failure? = some e) : o.forceSend := by
  cases h with
  | allowed _ _ _ allows => simpa [DryRun.isSuccess_of_failure failed] using allows

theorem Cleared.forced {dryRun : DryRun} {tx : Draft}
    (h : Cleared env d call o u es (some dryRun) tx v)
    (failed : dryRun.failure? = some e) : o.forceSend := by
  obtain ⟨simulated, -, -, -⟩ := h
  exact simulated.forced failed

/-- A submission that reports a failure of a dry run sent nothing, unless the send was forced and
not waited for, or the node gave the failure when it was asked for the last block. -/
theorem submit_dryRun_failure (sep : Separate env) (he : e.OfDryRun)
    (hr : (enact env (d.submit call o) u).result.1 = .error e) :
    let es := (enact env (d.submit call o) u).events
    drafts es = [] ∨
    (o.forceSend ∧ o.waitFor = false ∧ o.raiseForStatus ∧
      ∃ es₁ dryRun tx w es₂ nonce w' handle, Cleared env d call o u es₁ (some dryRun) tx w ∧
        Numbered env d o w es₂ nonce w' ∧ dryRun.failure? = some e ∧
        es = es₁ ++ (es₂ ++
          [.asked w'.time (.send { tx with nonce } (Dispatcher.hints call o)) (.ok handle)])) ∨
    (o.waitFor ∧ 0 < o.confirmationBlocks ∧
      ∃ init t, es = init ++ [.asked t (.node .blockNumber) (.error e)]) := by
  intro es
  obtain ⟨r', hp, hj⟩ := submit_leads.mp (leads_enact env (d.submit call o) u)
  rw [hr] at hj
  rcases perform_cases hp with hh | ⟨es₁, dryRun, tx, w, es₂, hc, hd, hes⟩
  · exact .inl hh.quiet.drafts
  have hes : es = es₁ ++ es₂ := hes
  rcases deliver_cases hd with ⟨f, hs, rfl⟩ | ⟨es₃, handle, w', hs, hw⟩
  · cases hj
    refine .inl ?_
    rw [hes, drafts_append, hc.quiet.1.drafts, hs.unsent sep he]
    rfl
  rcases hw with ⟨hf, rfl, rfl, -⟩ | ⟨hf, es₄, r'', ha, rfl, rfl⟩
  · obtain ⟨raise, hfail⟩ := judge_error hj.symm
    obtain ⟨-, dryRun, rfl, failed⟩ := failure_ofDryRun hfail he
    cases hs with
    | accepted taken answer =>
      exact .inr (.inl ⟨hc.forced failed, hf, raise,
        _, _, _, _, _, _, _, _, hc, numbered_iff.mpr taken, failed, hes⟩)
  · cases r'' with
    | ok receipt =>
      obtain ⟨-, hfail⟩ := judge_error hj.symm
      cases (failure_ofDryRun hfail he).1
    | error f =>
      cases hj
      obtain ⟨blocks, init, t, rfl⟩ := ha.ofDryRun sep he
      exact .inr (.inr ⟨hf, blocks, es₁ ++ (es₃ ++ init), t, by rw [hes]; simp⟩)

end

def standstill : Environment Desk Unit := fun q t s =>
  match q with
  | .node .chainId => ⟨.ok 1, s, t⟩
  | .node (.call _) => ⟨.error (.revert "refused"), s, t⟩
  | .node (.estimateGas _) => ⟨.error (.revert "refused"), s, t⟩
  | .node (.transactionCount _) => ⟨.ok 0, s, t⟩
  | .node (.sendRaw _) => ⟨.ok .zero, s, t⟩
  | .node (.receipt _) => ⟨.ok none, s, t⟩
  | .node (.known _) => ⟨.ok true, s, t⟩
  | .node .blockNumber => ⟨.ok 1, s, t⟩
  | .node .gasPrice => ⟨.ok 1, s, t⟩
  | .node .priorityFee => ⟨.ok 1, s, t⟩
  | .node .latestBlock => ⟨.ok ⟨30000000, none⟩, s, t⟩
  | .node (.balance _) => ⟨.ok 1, s, t⟩
  | .send _ _ => ⟨.ok (.hash .zero), s, t⟩
  | .wait _ _ => ⟨.ok ⟨.zero, true, 21000, 1, none⟩, s, t⟩

theorem separate_standstill : Separate standstill := by
  constructor
  · rintro _ _ _ _ _ ⟨⟩
  · rintro _ _ _ _ _ ⟨⟩

def plainDispatcher : Dispatcher :=
  { account := .zero, settings := { Settings.standard with checkBalance := false },
    nonceSource := .counted }

def opening : Scene Unit := ⟨⟨0, ()⟩, ⟨none, []⟩⟩

def forcedOptions : Options := { Options.fireAndForget with forceSend := true, gasPrice := some 1 }

/-- A forced send that is not waited for reports the failure of its dry run, although it was
sent. -/
theorem forced_send_fails_as_dryRun :
    ¬ ∀ (env : Environment Desk Unit) (d : Dispatcher) (call : Call) (o : Options) (u : Scene Unit)
      (e : Failure), Separate env → e.OfDryRun →
      (enact env (d.submit call o) u).result.1 = .error e →
      drafts (enact env (d.submit call o) u).events = [] := by
  intro h
  have hs := h standstill plainDispatcher (.ofData .zero []) forcedOptions opening
    (.dryRunRevert "refused") separate_standstill trivial (by rfl)
  exact absurd hs (by decide +kernel)

theorem forced_send_failure_cases :
    let es := (enact standstill (plainDispatcher.submit (.ofData .zero []) forcedOptions)
      opening).events
    drafts es = [] ∨
    (forcedOptions.forceSend ∧ forcedOptions.waitFor = false ∧ forcedOptions.raiseForStatus ∧
      ∃ es₁ dryRun tx w es₂ nonce w' handle,
        Cleared standstill plainDispatcher (.ofData .zero []) forcedOptions opening es₁
          (some dryRun) tx w ∧
        Numbered standstill plainDispatcher forcedOptions w es₂ nonce w' ∧
        dryRun.failure? = some (.dryRunRevert "refused") ∧
        es = es₁ ++ (es₂ ++
          [.asked w'.time
            (.send { tx with nonce } (Dispatcher.hints (.ofData .zero []) forcedOptions))
            (.ok handle)])) ∨
    (forcedOptions.waitFor ∧ 0 < forcedOptions.confirmationBlocks ∧
      ∃ init t, es = init ++ [.asked t (.node .blockNumber) (.error (.dryRunRevert "refused"))]) :=
  submit_dryRun_failure separate_standstill trivial (by rfl)

end Dispatch
