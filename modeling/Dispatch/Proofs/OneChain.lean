import Dispatch.Proofs.NonceRuns
import Dispatch.Proofs.Repetition
import Dispatch.Proofs.SimulatedGas

/-!
# All transactions are for one chain

What is known of the chain goes from one submission to the next. As long as nothing is known the
node is asked, and nothing is sent before it has told; what it tells first is known from then on,
whatever else fails in between.
-/

set_option autoImplicit false

namespace Dispatch
open Program (Environment Event)
open Step

/-! ## What is told of the chain -/

def DeskQuestion.chain? : (q : DeskQuestion) → Desk.Answer q → Option (Except Failure UInt64)
  | .node .chainId, answer => some answer
  | _, _ => none

def Program.Event.chain? : Event Desk → Option (Except Failure UInt64)
  | .asked _ q answer => q.chain? answer
  | .slept _ _ => none

def chainAnswers (es : List (Event Desk)) : List (Except Failure UInt64) :=
  es.filterMap Event.chain?

@[simp] theorem chainAnswers_nil : chainAnswers [] = [] := rfl

@[simp] theorem chainAnswers_append (es es' : List (Event Desk)) :
    chainAnswers (es ++ es') = chainAnswers es ++ chainAnswers es' := List.filterMap_append

theorem chainAnswers_eq_nil {es : List (Event Desk)} (h : ∀ e ∈ es, e.chain? = none) :
    chainAnswers es = [] :=
  List.filterMap_eq_nil_iff.mpr h

/-- How what is known of the chain changes with what happens: a chain that is known is never asked
for, a failure tells nothing, and a draft is handed over only for the known chain. -/
inductive Learns : Option UInt64 → List (Event Desk) → Option UInt64 → Prop
  | done {known : Option UInt64} : Learns known [] known
  | other {known after : Option UInt64} {e : Event Desk} {es : List (Event Desk)}
      (silent : e.chain? = none)
      (draft : ∀ tx, e.draft? = some tx → known = some tx.chainId) (rest : Learns known es after) :
      Learns known (e :: es) after
  | untold {after : Option UInt64} {t : Nat} {failure : Failure} {es : List (Event Desk)}
      (rest : Learns none es after) :
        Learns none (.asked t (.node .chainId) (.error failure) :: es) after
  | told {after : Option UInt64} {t : Nat} {id : UInt64} {es : List (Event Desk)}
      (rest : Learns (some id) es after) :
        Learns none (.asked t (.node .chainId) (.ok id) :: es) after

namespace Learns

variable {known between after : Option UInt64} {es es' : List (Event Desk)} {id : UInt64}

theorem append (h : Learns known es between) (h' : Learns between es' after) :
    Learns known (es ++ es') after := by
  induction h with
  | done => exact h'
  | other silent draft _ ih => exact .other silent draft (ih h')
  | untold _ ih => exact .untold (ih h')
  | told _ ih => exact .told (ih h')

theorem of_forall (h : ∀ e ∈ es, e.chain? = none ∧ ∀ tx, e.draft? = some tx →
    known = some tx.chainId) :
    Learns known es known := by
  induction es with
  | nil => exact .done
  | cons e es ih =>
    obtain ⟨⟨silent, draft⟩, rest⟩ := List.forall_mem_cons.mp h
    exact .other silent draft (ih rest)

theorem of_known (h : Learns (some id) es after) :
    after = some id ∧ chainAnswers es = [] ∧ ∀ tx ∈ drafts es, tx.chainId = id := by
  generalize start : some id = known at h
  induction h with
  | done =>
    subst start
    exact ⟨rfl, rfl, by simp⟩
  | @other _ _ e es silent draft _ ih =>
    subst start
    obtain ⟨kept, unasked, same⟩ := ih rfl
    refine ⟨kept, ?_, ?_⟩
    · rw [chainAnswers, List.filterMap_cons_none silent]
      exact unasked
    · intro tx sent
      rcases List.mem_append.mp (drafts_append [e] es ▸ sent) with first | later
      · obtain ⟨e', listed, drafted⟩ := List.mem_filterMap.mp first
        cases List.mem_singleton.mp listed
        exact (Option.some.inj (draft tx drafted)).symm
      · exact same tx later
  | untold => cases start
  | told => cases start

theorem of_unknown (h : Learns none es after) :
    (after = none ∧ (∀ answer ∈ chainAnswers es, ∃ failure, answer = .error failure) ∧
      drafts es = []) ∨
    ∃ before t id later, es = before ++ .asked t (.node .chainId) (.ok id) :: later ∧
      (∀ answer ∈ chainAnswers before, ∃ failure, answer = .error failure) ∧ drafts before = [] ∧
      Learns (some id) later after := by
  generalize start : none = known at h
  induction h with
  | done =>
    subst start
    exact .inl ⟨rfl, by simp, rfl⟩
  | @other _ _ e es silent draft _ ih =>
    subst start
    have unsent : e.draft? = none := by
      cases drafted : e.draft? with
      | none => rfl
      | some tx => cases draft tx drafted
    have unasked (es : List (Event Desk)) : chainAnswers (e :: es) = chainAnswers es :=
      List.filterMap_cons_none silent
    have undrafted (es : List (Event Desk)) : drafts (e :: es) = drafts es :=
      List.filterMap_cons_none unsent
    rcases ih rfl with ⟨same, failed, nothing⟩ | ⟨before, t, id, later, rfl, failed, nothing, rest⟩
    · exact .inl ⟨same, unasked es ▸ failed, (undrafted es).trans nothing⟩
    · exact .inr ⟨e :: before, t, id, later, rfl, unasked before ▸ failed,
        (undrafted before).trans nothing, rest⟩
  | @untold _ t failure es _ ih =>
    have failed {es : List (Event Desk)}
      (h : ∀ answer ∈ chainAnswers es, ∃ failure, answer = .error failure) :
        ∀ answer ∈ chainAnswers (.asked t (.node .chainId) (.error failure) :: es),
          ∃ failure, answer = .error failure :=
      List.forall_mem_cons.mpr ⟨⟨failure, rfl⟩, h⟩
    rcases ih rfl with ⟨same, none, nothing⟩ | ⟨before, t', id, later, rfl, none, nothing, rest⟩
    · exact .inl ⟨same, failed none, nothing⟩
    · exact .inr ⟨_ :: before, t', id, later, rfl, failed none, nothing, rest⟩
  | told rest => exact .inr ⟨[], _, _, _, rfl, by simp, rfl, rest⟩

theorem eq_of_told (h : Learns known es after) (told : .ok id ∈ chainAnswers es) :
    after = some id := by
  cases known with
  | some id' =>
    rw [h.of_known.2.1] at told
    cases told
  | none =>
    rcases h.of_unknown with ⟨-, failed, -⟩ | ⟨before, t, id', later, rfl, failed, -, rest⟩
    · obtain ⟨_, impossible⟩ := failed _ told
      cases impossible
    obtain ⟨rfl, unasked, -⟩ := rest.of_known
    rw [chainAnswers_append] at told
    rcases List.mem_append.mp told with early | late
    · obtain ⟨_, impossible⟩ := failed _ early
      cases impossible
    · have same : .ok id ∈ .ok id' :: chainAnswers later := late
      rw [unasked] at same
      cases List.mem_singleton.mp same
      rfl

end Learns

/-! ## One submission -/

section
variable {σ : Type} {env : Environment Desk σ} {d : Dispatcher} {call : Call} {o : Options}
  {u v : Scene σ} {es : List (Event Desk)}

/-- Neither the chain is asked for nor a draft handed over. -/
def Program.Event.Aside (e : Event Desk) : Prop := e.chain? = none ∧ e.draft? = none

theorem learns_aside {known : Option UInt64} (h : ∀ e ∈ es, e.Aside) : Learns known es known := by
  apply Learns.of_forall
  intro e he
  refine ⟨(h e he).1, fun tx drafted => ?_⟩
  cases (h e he).2.symm.trans drafted

theorem simulation_aside {dryRun : DryRun}
    (h : Leads env (Dispatcher.consult (d.dryRun call (Dispatcher.gasOverride call o))) u es
      (.ok dryRun) v) :
    ∀ e ∈ es, e.Aside := by
  obtain ⟨asked, _, course, rfl, result, -⟩ := leads_consult.mp h
  unfold Dispatcher.dryRun at course
  cases limit : Dispatcher.gasOverride call o with
  | some gas =>
    rw [limit] at course
    obtain ⟨answer, rfl, -⟩ := Simulator.run_explicit course
    intro e he
    cases List.mem_singleton.mp he
    exact ⟨rfl, rfl⟩
  | none =>
    rw [limit] at course
    obtain ⟨block, t, answer, rfl, -⟩ := Simulator.run_free course
    intro e he
    rcases List.mem_cons.mp he with rfl | he
    · exact ⟨rfl, rfl⟩
    · cases List.mem_singleton.mp he
      exact ⟨rfl, rfl⟩

theorem Simulated.aside {dryRun : Option DryRun} (h : Simulated env d call o u es dryRun v) :
    ∀ e ∈ es, e.Aside := by
  cases h with
  | skipped => simp
  | allowed _ _ simulated => exact simulation_aside simulated

theorem Rehearsed.aside {r : Except Failure Outcome} (h : Rehearsed env d call o u es r v) :
    ∀ e ∈ es, e.Aside := by
  cases h with
  | contradictory => simp
  | simulated made => exact simulation_aside made

theorem resolveFees_aside {r : Except Failure Fees}
    (h : Leads env (Dispatcher.attempt (d.settings.resolveFees o)) u es r v) :
    ∀ e ∈ es, e.Aside := by
  refine resolveFees_priced h (fun _ _ => ⟨rfl, rfl⟩) ?_
  intro t q answer price
  cases q <;> first | exact price.elim | exact ⟨rfl, rfl⟩

theorem checkBalance_aside {required : BitVec 256} {r : Except Failure Unit}
    (h : Leads env (d.checkBalance required) u es r v) : ∀ e ∈ es, e.Aside := by
  obtain ⟨answer, -, rfl, -⟩ := checkBalance_leads.mp h
  intro e he
  cases List.mem_singleton.mp he
  exact ⟨rfl, rfl⟩

theorem Delivers.learns {tx : Draft} {hints : Hints} {e : Event Desk} (h : Delivers tx hints e) :
    e.chain? = none ∧ ∀ tx', e.draft? = some tx' → some tx.chainId = some tx'.chainId := by
  cases h with
  | sends =>
    refine ⟨rfl, fun tx' drafted => ?_⟩
    cases drafted
    rfl
  | counts | waits | confirms | sleeps => exact ⟨rfl, nofun⟩

theorem takeNonce_chain {r : Except Failure UInt64} (h : Leads env (d.takeNonce o) u es r v) :
    v.memory.chainId = u.memory.chainId := by
  rcases takeNonce_leads.mp h with ⟨_, -, -, -, rfl⟩ | ⟨-, _, -, -, -, rfl⟩ <;> rfl

theorem Sending.chain {tx : Draft} {hints : Hints} {r : Except Failure Handle}
    (h : Sending env d o tx hints u es r v) : v.memory.chainId = u.memory.chainId := by
  cases h with
  | withoutNonce taken => exact takeNonce_chain taken
  | refused taken =>
    refine Eq.trans ?_ (takeNonce_chain taken)
    unfold Dispatcher.handBack
    split <;> rfl
  | accepted taken =>
    have same := takeNonce_chain taken
    exact same

theorem deliver_chain {dryRun : Option DryRun} {tx : Draft} {r : Except Failure Outcome}
    (h : Leads env (d.deliver call o dryRun tx) u es r v) :
    v.memory.chainId = u.memory.chainId := by
  rcases deliver_cases h with ⟨_, sending, -⟩ |
    ⟨_, _, w, sending, ⟨-, -, -, rfl⟩ | ⟨-, _, _, awaiting, -⟩⟩
  · exact sending.chain
  · exact sending.chain
  · rw [awaiting.memory, sending.chain]

theorem deliver_learns {dryRun : Option DryRun} {tx : Draft} {r : Except Failure Outcome}
    (h : Leads env (d.deliver call o dryRun tx) u es r v)
    (known : u.memory.chainId = some tx.chainId) :
    Learns u.memory.chainId es v.memory.chainId := by
  rw [deliver_chain h, known]
  exact Learns.of_forall fun e he => (deliver_delivers h e he).learns

theorem resolveChain_learns {r : Except Failure UInt64}
    (h : Leads env Dispatcher.resolveChain u es r v) :
    Learns u.memory.chainId es v.memory.chainId ∧
      ∀ id, r = .ok id → v.memory.chainId = some id := by
  rcases resolveChain_leads.mp h with ⟨id, known, rfl, rfl, rfl⟩ | ⟨unknown, -, rfl, rfl⟩
  · refine ⟨.done, fun id' same => ?_⟩
    rw [known, Except.ok.inj same]
  · rw [unknown]
    cases r with
    | error failure => exact ⟨unknown ▸ .untold .done, nofun⟩
    | ok id => exact ⟨.told .done, fun id' same => congrArg some (Except.ok.inj same)⟩

theorem proceed_chain {dryRun : Option DryRun} {r : Except Failure Outcome}
    (h : Leads env (d.proceed call o dryRun) u es r v) :
    (∃ failure, Leads env Dispatcher.resolveChain u es (.error failure) v ∧ r = .error failure) ∨
    ∃ es₁ id w es₂, Leads env Dispatcher.resolveChain u es₁ (.ok id) w ∧
      Learns (some id) es₂ v.memory.chainId ∧ es = es₁ ++ es₂ := by
  unfold Dispatcher.proceed at h
  rcases leads_bind.mp h with ⟨failure, failed, rfl⟩ | ⟨es₁, id, w₁, es₂, chain, h₁, rfl⟩
  · exact .inl ⟨failure, failed, rfl⟩
  refine .inr ⟨es₁, id, w₁, es₂, chain, ?_, rfl⟩
  have known := (resolveChain_learns chain).2 id rfl
  rcases leads_bind.mp h₁ with ⟨_, failed, -⟩ | ⟨es₃, fees, w₂, es₄, priced, h₂, rfl⟩
  · rw [(attempt_quiet failed (resolveFees_only _ _)).2, known]
    exact learns_aside (resolveFees_aside failed)
  rw [← (attempt_quiet priced (resolveFees_only _ _)).2] at known
  apply (learns_aside (resolveFees_aside priced)).append
  cases check : d.settings.checkBalance with
  | false =>
    simp only [check, Bool.false_eq_true, if_false] at h₂
    exact known ▸ deliver_learns h₂ known
  | true =>
    simp only [check, if_true] at h₂
    rcases leads_bind.mp h₂ with ⟨_, failed, -⟩ | ⟨es₅, _, w₃, es₆, covered, h₃, rfl⟩
    · rw [(checkBalance_quiet failed).2, known]
      exact learns_aside (checkBalance_aside failed)
    rw [← (checkBalance_quiet covered).2] at known
    exact (learns_aside (checkBalance_aside covered)).append (known ▸ deliver_learns h₃ known)

theorem proceed_learns {dryRun : Option DryRun} {r : Except Failure Outcome}
    (h : Leads env (d.proceed call o dryRun) u es r v) :
    Learns u.memory.chainId es v.memory.chainId := by
  rcases proceed_chain h with ⟨failure, failed, -⟩ | ⟨es₁, id, w, es₂, chain, learns, rfl⟩
  · exact (resolveChain_learns failed).1
  · obtain ⟨first, known⟩ := resolveChain_learns chain
    rw [known id rfl] at first
    exact first.append learns

theorem submit_learns {r : Except Failure Outcome} (h : Leads env (d.submit call o) u es r v) :
    Learns u.memory.chainId es v.memory.chainId := by
  obtain ⟨_, performed, -⟩ := submit_leads.mp h
  rcases perform_simulates performed with rehearsed |
    ⟨es₁, dryRun, w, es₂, simulated, proceeds, rfl⟩
  · rw [rehearsed.quiet.2]
    exact learns_aside rehearsed.aside
  · have learns := proceed_learns proceeds
    rw [simulated.quiet.2] at learns
    exact (learns_aside simulated.aside).append learns

theorem chainAnswers_aside (h : ∀ e ∈ es, e.Aside) : chainAnswers es = [] :=
  chainAnswers_eq_nil fun e he => (h e he).1

theorem submit_untold {r : Except Failure Outcome} {failure : Failure}
    (h : Leads env (d.submit call o) u es r v)
    (failed : .error failure ∈ chainAnswers es) : r = .error failure ∧ Quiet es ∧
      v.memory = u.memory := by
  obtain ⟨_, performed, rfl⟩ := submit_leads.mp h
  rcases perform_simulates performed with rehearsed |
    ⟨es₁, dryRun, w, es₂, simulated, proceeds, rfl⟩
  · rw [chainAnswers_aside rehearsed.aside] at failed
    cases failed
  rw [chainAnswers_append, chainAnswers_aside simulated.aside, List.nil_append] at failed
  rcases proceed_chain proceeds with ⟨e, untold, rfl⟩ | ⟨es₃, id, w', es₄, chain, learns, rfl⟩
  · have quiet := resolveChain_quiet untold
    rcases resolveChain_leads.mp untold with ⟨_, -, -, impossible, -⟩ | ⟨-, -, rfl, rfl⟩
    · cases impossible
    cases List.mem_singleton.mp failed
    exact ⟨rfl, quiet_append.mpr ⟨simulated.quiet.1, quiet.1⟩, simulated.quiet.2⟩
  · -- a chain that is told is not asked for again
    rw [chainAnswers_append, learns.of_known.2.1, List.append_nil] at failed
    rcases resolveChain_leads.mp chain with ⟨_, -, rfl, -⟩ | ⟨-, -, rfl, -⟩
    · cases failed
    · cases List.mem_singleton.mp failed

theorem submit_asks_chain {r : Except Failure Outcome} {dryRun : Option DryRun}
    {es₁ : List (Event Desk)} {w : Scene σ} (h : Leads env (d.submit call o) u es r v)
    (unknown : u.memory.chainId = none) (simulated : Simulated env d call o u es₁ dryRun w) :
    ∃ answer rest, es = es₁ ++ .asked w.time (.node .chainId) answer :: rest := by
  have proceeds := leads_enact env (d.proceed call o dryRun) w
  obtain ⟨_, performed, -⟩ := submit_leads.mp h
  obtain ⟨rfl, -⟩ := performed.unique (simulated.perform proceeds)
  rw [← simulated.quiet.2] at unknown
  have asks {es : List (Event Desk)} {r : Except Failure UInt64} {v : Scene σ}
      (h : Leads env Dispatcher.resolveChain w es r v) :
        es = [.asked w.time (.node .chainId) r] := by
    rcases resolveChain_leads.mp h with ⟨_, known, -⟩ | ⟨-, -, rfl, -⟩
    · cases unknown.symm.trans known
    · rfl
  rcases proceed_chain proceeds with ⟨failure, untold, -⟩ | ⟨es₃, id, w', es₄, chain, -, split⟩
  · rw [asks untold]
    exact ⟨_, [], rfl⟩
  · rw [split, asks chain]
    exact ⟨_, es₄, rfl⟩

/-! ## Many submissions -/

theorem Repeated.learns {b : Backoff} {n : Nat} {k : UInt32} {r : Except Failure Outcome}
    (h : Repeated env (d.submit call o) b n k u es r v) :
    Learns u.memory.chainId es v.memory.chainId := by
  induction h with
  | barred => exact .done
  | succeeded attempt => exact submit_learns attempt
  | failed attempt => exact submit_learns attempt
  | again attempt _ _ _ ih => exact (submit_learns attempt).append (.other rfl nofun ih)

theorem submitWithRetry_learns {policy : RetryPolicy} {r : Except Failure Outcome}
    (h : Leads env (d.submitWithRetry call o policy) u es r v) :
    Learns u.memory.chainId es v.memory.chainId :=
  (loop_cases h).learns

end

/-- Submissions with and without retries one after another. Each starts from the memory that the one
before it left, at any time and state of the surroundings. -/
inductive Usage {σ : Type} (env : Environment Desk σ) (d : Dispatcher) : Scene σ →
    List (Event Desk) → Scene σ → Prop
  | done {u : Scene σ} : Usage env d u [] u
  | submits {call : Call} {o : Options} {u v u' w : Scene σ} {es es' : List (Event Desk)}
      {r : Except Failure Outcome}
      (submitted : Leads env (d.submit call o) u es r v) (kept : u'.memory = v.memory)
      (others : Usage env d u' es' w) :
      Usage env d u (es ++ es') w
  | retries {call : Call} {o : Options} {policy : RetryPolicy} {u v u' w : Scene σ}
      {es es' : List (Event Desk)}
      {r : Except Failure Outcome} (retried : Leads env (d.submitWithRetry call o policy) u es r v)
      (kept : u'.memory = v.memory) (others : Usage env d u' es' w) : Usage env d u (es ++ es') w

theorem Usage.learns {σ : Type} {env : Environment Desk σ} {d : Dispatcher} {u v : Scene σ}
    {es : List (Event Desk)}
    (h : Usage env d u es v) : Learns u.memory.chainId es v.memory.chainId := by
  induction h with
  | done => exact .done
  | submits submitted kept _ ih => exact (submit_learns submitted).append (kept ▸ ih)
  | retries retried kept _ ih => exact (submitWithRetry_learns retried).append (kept ▸ ih)

/-- All drafts are of one chain: the one that was known before, for which nobody is asked, or else
the first one that the node tells, before which nothing is sent and after which it is not asked
again. A submission that is not told it fails without a trace, and the next one asks again. -/
theorem drafts_of_one_chain {σ : Type} (env : Environment Desk σ) (d : Dispatcher) :
    (∀ {u v : Scene σ} {es : List (Event Desk)}, Usage env d u es v →
      (∀ id, u.memory.chainId = some id → chainAnswers es = [] ∧
        ∀ tx ∈ drafts es, tx.chainId = id) ∧
      (u.memory.chainId = none →
        ((∀ answer ∈ chainAnswers es, ∃ failure, answer = .error failure) ∧ drafts es = []) ∨
        ∃ before t id after, es = before ++ .asked t (.node .chainId) (.ok id) :: after ∧
          (∀ answer ∈ chainAnswers before, ∃ failure, answer = .error failure) ∧
            drafts before = [] ∧
          chainAnswers after = [] ∧ ∀ tx ∈ drafts after, tx.chainId = id)) ∧
    ∀ {call : Call} {o : Options} {u v : Scene σ} {es : List (Event Desk)}
      {r : Except Failure Outcome},
      Leads env (d.submit call o) u es r v →
      (∀ failure, .error failure ∈ chainAnswers es → r = .error failure ∧ Quiet es ∧
        v.memory = u.memory) ∧
      (∀ id, .ok id ∈ chainAnswers es → v.memory.chainId = some id) ∧
      ∀ es₁ dryRun w, u.memory.chainId = none → Simulated env d call o u es₁ dryRun w →
        ∃ answer rest, es = es₁ ++ .asked w.time (.node .chainId) answer :: rest := by
  refine ⟨?_, ?_⟩
  · intro u v es usage
    refine ⟨?_, ?_⟩
    · intro id known
      have learns := usage.learns
      rw [known] at learns
      exact learns.of_known.2
    · intro unknown
      have learns := usage.learns
      rw [unknown] at learns
      rcases learns.of_unknown with ⟨-, failed, nothing⟩ |
        ⟨before, t, id, after, split, failed, nothing, rest⟩
      · exact .inl ⟨failed, nothing⟩
      · exact .inr ⟨before, t, id, after, split, failed, nothing, rest.of_known.2⟩
  · intro call o u v es r submitted
    exact ⟨fun failure => submit_untold submitted, fun id => (submit_learns submitted).eq_of_told,
      fun es₁ dryRun w => submit_asks_chain submitted⟩

/-! ## A node that changes its chain -/

def fickle : Environment Desk Nat := fun q t asked =>
  match q with
  | .node .chainId => ⟨if asked = 0 then .error (.rpc []) else .ok (.ofNat asked), asked + 1, t⟩
  | .node .gasPrice => ⟨.error (.rpc []), asked, t⟩
  | q => ⟨(standstill q t ()).answer, asked, t⟩

def unpricedOptions : Options := { directOptions with gasPrice := none }

def firstScene : Scene Nat := ⟨⟨0, 0⟩, ⟨none, []⟩⟩

def secondScene : Scene Nat :=
  arrive fickle (plainDispatcher.submit (payment 5) directOptions) firstScene

def thirdScene : Scene Nat :=
  arrive fickle (plainDispatcher.submit (payment 5) unpricedOptions) secondScene

def fickleEvents : List (Event Desk) :=
  (enact fickle (plainDispatcher.submit (payment 5) directOptions) firstScene).events ++
    ((enact fickle (plainDispatcher.submit (payment 5) unpricedOptions) secondScene).events ++
      ((enact fickle (plainDispatcher.submitWithRetry (payment 5) directOptions .standard)
        thirdScene).events ++ []))

theorem usage_fickle : Usage fickle plainDispatcher firstScene fickleEvents
    (arrive fickle (plainDispatcher.submitWithRetry (payment 5) directOptions .standard)
      thirdScene) :=
  .submits (leads_enact _ _ _)
    rfl (.submits (leads_enact _ _ _) rfl (.retries (leads_enact _ _ _) rfl .done))

theorem fickle_one_chain :
    drafts fickleEvents = [paymentDraft 5] ∧ (paymentDraft 5).chainId = 1 ∧
      secondScene.memory = firstScene.memory ∧
      ∃ before t id after, fickleEvents = before ++ .asked t (.node .chainId) (.ok id) :: after ∧
        drafts before = [] ∧ chainAnswers after = [] ∧ ∀ tx ∈ drafts after, tx.chainId = id := by
  obtain ⟨uses, submissions⟩ := drafts_of_one_chain fickle plainDispatcher
  have sent : drafts fickleEvents = [paymentDraft 5] := by rfl
  obtain ⟨untold, -⟩ :=
    submissions (leads_enact fickle (plainDispatcher.submit (payment 5) directOptions) firstScene)
  obtain ⟨-, -, same⟩ := untold (.rpc []) List.mem_cons_self
  refine ⟨sent, rfl, same, ?_⟩
  rcases (uses usage_fickle).2 rfl with ⟨-, nothing⟩ |
    ⟨before, t, id, after, split, -, nothing, unasked, one⟩
  · cases sent.symm.trans nothing
  · exact ⟨before, t, id, after, split, nothing, unasked, one⟩

end Dispatch
