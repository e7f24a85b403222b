import Dispatch.Proofs.Verdicts

/-!
# Repeated submissions

The courses of repeated attempts are those of single ones with sleeps between them. What an attempt
sent and saw mined is sent again only if the blocks on top of it could not be counted.
-/

set_option autoImplicit false

namespace Dispatch
open Program (Environment Event)
open Step

section
variable {σ : Type} {env : Environment Desk σ} {p : Step Outcome} {b : Backoff}

def Scene.sleep (u : Scene σ) (d : Duration) : Scene σ := { u with time := u.time + d.nanos }

/-- The courses of up to a number of attempts, the first of which has the number `k`. -/
inductive Repeated (env : Environment Desk σ) (p : Step Outcome) (b : Backoff) :
    Nat → UInt32 → Scene σ → List (Event Desk) → Except Failure Outcome → Scene σ → Prop
  | barred {k : UInt32} {u : Scene σ} :
      Repeated env p b 0 k u [] (.error (.invalidArgument .noAttempts)) u
  | succeeded {rest : Nat} {k : UInt32} {u v : Scene σ} {es : List (Event Desk)} {outcome : Outcome}
      (attempt : Leads env p u es (.ok outcome) v) :
      Repeated env p b (rest + 1) k u es (.ok { outcome with attempts := k }) v
  | failed {rest : Nat} {k : UInt32} {u v : Scene σ} {es : List (Event Desk)} {f : Failure}
      (attempt : Leads env p u es (.error f) v) (last : f.isRetryable = false ∨ rest = 0) :
      Repeated env p b (rest + 1) k u es (.error f) v
  | again {rest : Nat} {k : UInt32} {u w v : Scene σ} {es es' : List (Event Desk)} {f : Failure}
      {r : Except Failure Outcome} (attempt : Leads env p u es (.error f) w)
      (retryable : f.isRetryable) (left : rest ≠ 0)
      (others : Repeated env p b rest (k + 1) (w.sleep (b.delay k)) es' r v) :
      Repeated env p b (rest + 1) k u (es ++ .slept w.time (b.delay k) :: es') r v

theorem loop_cases {n : Nat} {k : UInt32} {u v : Scene σ} {es : List (Event Desk)}
    {r : Except Failure Outcome}
    (h : Leads env (ExceptT.mk (Retry.loop b (ExceptT.run p) n k)) u es r v) :
    Repeated env p b n k u es r v := by
  induction n generalizing k u es with
  | zero =>
    obtain ⟨rfl, rfl, rfl⟩ := leads_result.mp h
    exact .barred
  | succ rest ih =>
    obtain ⟨es₁, ⟨f | outcome, m⟩, w, es₂, hp, hf, rfl⟩ := Program.leads_bind.mp h
    · by_cases hl : f.isRetryable = false ∨ rest = 0
      · simp only [hl, if_true] at hf
        obtain ⟨rfl, hr, rfl⟩ := Program.leads_done.mp hf
        cases hr
        rw [List.append_nil]
        exact .failed hp hl
      · simp only [hl, if_false] at hf
        change Program.Leads env (.sleep (b.delay k) (Retry.loop b (ExceptT.run p) rest (k + 1) m))
          w
          es₂ _ _ at hf
        obtain ⟨es₃, rfl, hn⟩ := Program.leads_sleep.mp hf
        obtain ⟨retryable, left⟩ := not_or.mp hl
        exact .again (w := ⟨w, m⟩) hp (by simpa using retryable) left (ih hn)
    · obtain ⟨rfl, hr, rfl⟩ := Program.leads_done.mp hf
      cases hr
      rw [List.append_nil]
      exact .succeeded hp

end

section
variable {σ : Type} {env : Environment Desk σ} {d : Dispatcher} {call : Call} {o : Options}
  {u v : Scene σ} {receipt : Receipt}

/-- The receipt's transaction was mined, but the blocks on top of it could not be counted: the time
was used up, or the node did not tell its last block. -/
structure Unconfirmed (env : Environment Desk σ) (o : Options) (receipt : Receipt)
    (es : List (Event Desk)) (f : Failure) : Prop where
  wanted : 0 < o.confirmationBlocks
  course : ∃ b w w',
    Leads env (Dispatcher.attempt (waitForConfirmations receipt o.confirmationBlocks b))
    w es (.error f) w'
  cause : (∃ waited, f = .transactionTimeout (.hash receipt.hash) waited) ∨
    ∃ init t, es = init ++ [.asked t (.node .blockNumber) (.error f)]

theorem Unconfirmed.intro {b : WaitBounds} {f : Failure} {es : List (Event Desk)}
    (wanted : 0 < o.confirmationBlocks)
    (h : Leads env (Dispatcher.attempt (waitForConfirmations receipt o.confirmationBlocks b)) u es
      (.error f) v) : Unconfirmed env o receipt es f := by
  refine ⟨wanted, ⟨b, u, v, h⟩, ?_⟩
  obtain ⟨asked, hc, rfl, -⟩ := leads_attempt.mp h
  rcases waitForConfirmations_error hc with late | ⟨init, t, rfl⟩
  · exact .inl late
  · exact .inr ⟨init.map Event.atDesk, t, by simp [Event.atDesk]⟩

theorem Awaiting.after_mined {handle handle' : Handle} {bounds : WaitBounds} {t : Nat}
    {before after pre es : List (Event Desk)} {r : Except Failure Receipt}
    (h : Awaiting env d o handle u es r v) (unasked : ∀ e ∈ pre, e.landmark? ≠ some .wait)
    (hes : before ++ .asked t (.wait handle' bounds) (Except.ok receipt) :: after = pre ++ es) :
    drafts after = [] ∧
      (r = .ok receipt ∨ ∃ f, r = .error f ∧ Unconfirmed env o receipt after f) := by
  have hm := landmark?_wait t handle' bounds (.ok receipt)
  cases h with
  | unmined answer =>
    obtain ⟨-, he, -⟩ := eq_of_landmark hes hm unasked (by simp)
    cases he
  | mined answer =>
    obtain ⟨-, he, rfl⟩ := eq_of_landmark hes hm unasked (by simp)
    cases he
    exact ⟨rfl, .inl rfl⟩
  | @confirming _ es r _ answer _ wanted confirmed =>
    have hq := (confirmations_quiet confirmed).1
    obtain ⟨-, he, rfl⟩ := eq_of_landmark hes hm unasked (hq.ne .wait)
    cases he
    refine ⟨hq.drafts, ?_⟩
    cases r with
    | ok => exact .inl rfl
    | error f => exact .inr ⟨f, rfl, .intro wanted confirmed⟩

theorem judge_mined {outcome : Outcome} (hr : outcome.receipt = some receipt)
    (success : receipt.success) : Dispatcher.judge o outcome = .ok outcome := by
  have hf : outcome.failure? = none := by simp [Outcome.failure?, hr, success]
  unfold Dispatcher.judge
  split
  · rw [hf]
  · rfl

theorem submit_mined {before after : List (Event Desk)} {t : Nat} {handle : Handle}
    {bounds : WaitBounds} {r : Except Failure Outcome}
    (h : Leads env (d.submit call o) u
      (before ++ .asked t (.wait handle bounds) (Except.ok receipt) :: after) r v)
    (success : receipt.success) :
    drafts after = [] ∧ ∀ f, r = .error f → Unconfirmed env o receipt after f := by
  have hm := landmark?_wait t handle bounds (.ok receipt)
  obtain ⟨r', hp, rfl⟩ := submit_leads.mp h
  rcases perform_cases hp with hh | ⟨es₁, dryRun, tx, w, es₂, hc, hd, hes⟩
  · cases hm.symm.trans (hh.quiet _ (by simp))
  -- what lies before the wait is quiet or the send's own
  have unasked {es : List (Event Desk)} {r : Except Failure Handle} {w' : Scene σ}
      (hs : Sending env d o tx (Dispatcher.hints call o) w es r w') :
      ∀ e ∈ es₁ ++ es, e.landmark? ≠ some .wait := by
    intro e he
    rcases List.mem_append.mp he with he | he
    · exact hc.quiet.1.ne .wait e he
    · obtain he | he := hs.landmarks e he <;> simp [he]
  obtain ⟨f, hs, rfl⟩ | ⟨es₃, handle', w', hs, ⟨-, rfl, -⟩ | ⟨-, es₄, r'', ha, rfl, rfl⟩⟩ :=
    deliver_cases hd
  · exact (unasked hs _ (hes ▸ List.mem_append_right _ List.mem_cons_self) hm).elim
  · exact (unasked hs _ (hes ▸ List.mem_append_right _ List.mem_cons_self) hm).elim
  · rw [← List.append_assoc] at hes
    obtain ⟨hn, rfl | ⟨f, rfl, hu⟩⟩ := ha.after_mined (unasked hs) hes
    · refine ⟨hn, fun f hf => ?_⟩
      cases (judge_mined rfl success).symm.trans hf
    · refine ⟨hn, fun f' hf => ?_⟩
      cases hf
      exact hu

/-- What repeated attempts sent and saw mined is not sent again, unless the blocks on top of it
could not be counted and the failure allows another attempt. -/
theorem Repeated.mined {b : Backoff} {n : Nat} {k : UInt32} {es : List (Event Desk)}
    {r : Except Failure Outcome} (h : Repeated env (d.submit call o) b n k u es r v)
    {before after : List (Event Desk)} {t : Nat} {handle : Handle} {bounds : WaitBounds}
    (hes : es = before ++ .asked t (.wait handle bounds) (Except.ok receipt) :: after)
    (success : receipt.success) :
    drafts after = [] ∨
    ∃ conf f t' pause rest, after = conf ++ .slept t' pause :: rest ∧ drafts conf = [] ∧
      Unconfirmed env o receipt conf f ∧ f.isRetryable := by
  induction h generalizing before after with
  | barred => cases before <;> cases hes
  | succeeded attempt =>
    subst hes
    exact .inl (submit_mined attempt success).1
  | failed attempt =>
    subst hes
    exact .inl (submit_mined attempt success).1
  | @again rest k u w v es es' f r attempt retryable left others ih =>
    rcases found_in_append hes with ⟨l, rfl, rfl⟩ | ⟨l, rfl, hl⟩
    · obtain ⟨hn, hf⟩ := submit_mined attempt success
      exact .inr ⟨l, f, _, _, es', rfl, hn, hf f rfl, retryable⟩
    · cases l with
      | nil => cases hl
      | cons x l =>
        obtain ⟨rfl, rfl⟩ := List.cons.inj hl
        exact ih rfl

/-- Once an attempt saw its transaction mined, a later one sends again only if the blocks on top
could not be counted. -/
theorem submitWithRetry_resends_unconfirmed {policy : RetryPolicy}
    {before after : List (Event Desk)} {t : Nat} {handle : Handle} {bounds : WaitBounds}
    (hes : (enact env (d.submitWithRetry call o policy) u).events =
      before ++ .asked t (.wait handle bounds) (Except.ok receipt) :: after)
    (success : receipt.success) :
    drafts after = [] ∨
    ∃ conf f t' pause rest, after = conf ++ .slept t' pause :: rest ∧ drafts conf = [] ∧
      Unconfirmed env o receipt conf f ∧ f.isRetryable :=
  (loop_cases (leads_enact env (d.submitWithRetry call o policy) u)).mined hes success

end

def hastyOptions : Options :=
  { Options.standard with
    skipDryRun := true, nonce := some 0, timeout := some .zero, confirmationBlocks := 1 }

def twice : RetryPolicy := ⟨2, .fixed .zero⟩

def hastyEvents : List (Event Desk) :=
  (enact standstill (plainDispatcher.submitWithRetry (.ofData .zero []) hastyOptions twice)
    opening).events

theorem hastyEvents_eq :
    hastyEvents = hastyEvents.take 3 ++ .asked 0
      (.wait (.hash .zero) (plainDispatcher.bounds hastyOptions))
      (Except.ok ⟨.zero, true, 21000, 1, none⟩) :: hastyEvents.drop 4 := by rfl

theorem mined_sent_again :
    ¬ ∀ (env : Environment Desk Unit) (d : Dispatcher) (call : Call) (o : Options)
      (policy : RetryPolicy) (u : Scene Unit) (before after : List (Event Desk)) (t : Nat)
      (handle : Handle) (bounds : WaitBounds) (receipt : Receipt),
      (enact env (d.submitWithRetry call o policy) u).events =
        before ++ .asked t (.wait handle bounds) (Except.ok receipt) :: after →
      receipt.success → drafts after = [] := by
  intro h
  have hs := h _ _ _ _ _ _ _ _ _ _ _ _ hastyEvents_eq rfl
  exact absurd hs (by decide +kernel)

theorem hastyEvents_resends_unconfirmed :
    drafts (hastyEvents.drop 4) = [] ∨
    ∃ conf f t' pause rest, hastyEvents.drop 4 = conf ++ .slept t' pause :: rest ∧
      drafts conf = [] ∧
      Unconfirmed standstill hastyOptions ⟨.zero, true, 21000, 1, none⟩ conf f ∧ f.isRetryable :=
  submitWithRetry_resends_unconfirmed hastyEvents_eq rfl

end Dispatch
