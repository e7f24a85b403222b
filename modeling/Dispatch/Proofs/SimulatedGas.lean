import Dispatch.Proofs.Clearance
import Dispatch.Proofs.Covering
import Dispatch.Proofs.Multipliers

/-!
# The gas that was simulated

What a call was simulated with is what its draft carries. A limit that the caller set is run with
and sent as it is; otherwise the node's estimate is scaled and kept within the gas of a block. Only
a draft without a successful simulation gets the limit of its operation.
-/

set_option autoImplicit false

namespace Dispatch
open Program (Environment Event Moment)
open Step

/-! ## Courses of a simulation -/

namespace Simulator

variable {σ : Type} {env : Environment Node σ} {s : Simulator} {call : Call} {sender : Address}
  {u v : Moment σ} {es : List (Event Node)} {dryRun : DryRun}

/-- The gas of a block, by what the node says of the latest one. -/
def blockGas (s : Simulator) : Except Failure BlockFees → UInt64
  | .ok block => block.gasLimit
  | .error _ => s.fallbackGasLimit

theorem blockGasLimit_eq : s.blockGasLimit = .ask (I := Node) .latestBlock fun block =>
    .done (s.blockGas block) := by
  apply congrArg (Program.ask (I := Node) .latestBlock)
  funext block
  cases block with
  | ok block => rfl
  | error failure => rfl

theorem scaled_scale (estimate : UInt64) :
    Binary64.Scaled (UInt64.size - 1) estimate.toNat s.gasMultiplier (s.scale estimate).toNat := by
  have small : estimate.toNat < 2 ^ 128 := estimate.toNat_lt.trans (by decide)
  have exact : (s.scale estimate).toNat =
      ((Binary64.ofNat estimate.toNat).mul s.gasMultiplier).toNatWithin (UInt64.size - 1) := by
    have fits := Binary64.toNatWithin_le (UInt64.size - 1)
      ((Binary64.ofNat estimate.toNat).mul s.gasMultiplier)
    rw [scale, toNat_applyMultiplier, BitVec.toNat_ofNat, Nat.mod_eq_of_lt small,
      Binary64.min_toNatWithin (by decide), UInt64.toNat_ofNat', Nat.mod_eq_of_lt]
    exact Nat.lt_of_le_pred (by decide) fits
  rw [exact]
  exact Binary64.scaled_toNatWithin _ small _

def fitted (s : Simulator) (block : Except Failure BlockFees) (estimate : UInt64) : UInt64 :=
  if s.blockGas block < s.scale estimate then s.blockGas block else s.scale estimate

theorem toNat_fitted (block : Except Failure BlockFees) (estimate : UInt64) :
    (s.fitted block estimate).toNat = min (s.scale estimate).toNat (s.blockGas block).toNat := by
  rw [fitted]
  split
  case isTrue exceeds =>
    rw [UInt64.lt_iff_toNat_lt] at exceeds
    omega
  case isFalse fits =>
    rw [UInt64.lt_iff_toNat_lt] at fits
    omega

theorem run_explicit {gas : UInt64}
    (h : Program.Leads env (s.run call sender (some gas)) u es dryRun v) :
    ∃ answer : Except CallFailure Bytes,
      es = [.asked u.time (.call (request call sender (some gas))) answer] ∧
      dryRun = classify (answer.map fun _ => gas) := by
  obtain ⟨rfl, rfl, -⟩ := Program.leads_ask_done.mp h
  exact ⟨_, rfl, rfl⟩

theorem run_free (h : Program.Leads env (s.run call sender none) u es dryRun v) :
    ∃ (block : Except Failure BlockFees) (t : Nat) (answer : Except CallFailure UInt64),
      es = [.asked u.time NodeQuestion.latestBlock block,
        .asked t (.estimateGas (request call sender none)) answer] ∧
        dryRun = classify (answer.map (s.fitted block)) := by
  obtain ⟨r, estimated, rfl⟩ := Program.leads_bind_done.mp h
  obtain ⟨es₁, limit, w, es₂, looked, asked, rfl⟩ := Program.leads_except_lift_bind.mp estimated
  rw [blockGasLimit_eq] at looked
  obtain ⟨rfl, rfl, rfl⟩ := Program.leads_ask_done.mp looked
  rcases Program.leads_except_bind.mp asked with ⟨failure, refused, rfl⟩ |
    ⟨_, estimate, _, _, answered, given, rfl⟩
  · obtain ⟨heard, rfl, -⟩ := Program.leads_ask_done.mp refused
    rw [← heard]
    exact ⟨_, _, _, rfl, rfl⟩
  · obtain ⟨heard, rfl, -⟩ := Program.leads_ask_done.mp answered
    obtain ⟨rfl, rfl, -⟩ := Program.leads_except_pure.mp given
    rw [← heard]
    exact ⟨_, _, _, rfl, rfl⟩

end Simulator

/-! ## Simulations in a submission -/

/-- Runs a call without sending it. -/
def NodeQuestion.Simulates : NodeQuestion → Prop
  | .call _ | .estimateGas _ => True
  | _ => False

def DeskQuestion.Simulates : DeskQuestion → Prop
  | .node q => q.Simulates
  | _ => False

def Program.Event.Simulates : Event Desk → Prop
  | .asked _ q _ => q.Simulates
  | .slept _ _ => False

def Draft.request (tx : Draft) (gas : Option UInt64) : CallRequest :=
  { sender := tx.sender, recipient := tx.recipient, data := tx.data, value := tx.value, gas }

/-- The gas of the latest block, or the general limit if that block was not told. -/
inductive Room (s : Settings) : Except Failure BlockFees → UInt64 → Prop
  | told {block : BlockFees} : Room s (.ok block) block.gasLimit
  | untold {failure : Failure} : Room s (.error failure) s.defaultGasLimit

/-- How a call is simulated before it is sent with some gas. -/
inductive Gauged (d : Dispatcher) (call : Call) (o : Options)
    (request : Option UInt64 → CallRequest) (gas : UInt64) : List (Event Desk) → Prop
  | skipped (skip : o.skipDryRun ∨ d.settings.disableDryRun)
      (limit : Explicit call o gas ∨ Unset call o ∧ Tabled d.settings call.operation gas) :
      Gauged d call o request gas []
  | ran {t : Nat} {output : Bytes} (explicit : Explicit call o gas) :
      Gauged d call o request gas [.asked t (.node (.call (request (some gas)))) (.ok output)]
  | refused {t : Nat} {failure : CallFailure} (explicit : Explicit call o gas)
      (forced : o.forceSend) :
      Gauged d call o request gas [.asked t (.node (.call (request (some gas)))) (.error failure)]
  | estimated {t t' : Nat} {block : Except Failure BlockFees} {estimate room : UInt64}
      {scaled : Nat} (unset : Unset call o) (space : Room d.settings block room)
      (factor : Binary64.Scaled (UInt64.size - 1) estimate.toNat d.settings.gasMultiplier scaled)
      (limit : gas.toNat = min scaled room.toNat) :
      Gauged d call o request gas
        [.asked t (.node .latestBlock) block,
          .asked t' (.node (.estimateGas (request none))) (.ok estimate)]
  | unestimated {t t' : Nat} {block : Except Failure BlockFees} {failure : CallFailure}
      (unset : Unset call o) (forced : o.forceSend) (limit : Tabled d.settings call.operation gas) :
      Gauged d call o request gas
        [.asked t (.node .latestBlock) block,
          .asked t' (.node (.estimateGas (request none))) (.error failure)]

section
variable {σ : Type} {env : Environment Desk σ} {d : Dispatcher} {call : Call} {o : Options}
  {u v : Scene σ} {es : List (Event Desk)}

theorem classify_error_isSuccess (failure : CallFailure) :
    (Simulator.classify (.error failure)).isSuccess = false := by
  cases failure <;> rfl

theorem room_blockGas (s : Settings) (block : Except Failure BlockFees) :
    Room s block ((Simulator.ofSettings s).blockGas block) := by
  cases block with
  | ok block => exact .told
  | error failure => exact .untold

theorem Limited.unestimated {s : Settings} {dryRun : Option DryRun} {gas : UInt64}
    (h : Limited s call o dryRun gas) (blind : ∀ estimate, dryRun ≠ some (.wouldSucceed estimate)) :
    Explicit call o gas ∨ Unset call o ∧ Tabled s call.operation gas := by
  cases h with
  | explicit set => exact .inl set
  | estimated _ ran => exact absurd ran (blind _)
  | tabled unset _ limit => exact .inr ⟨unset, limit⟩

theorem Unset.not_explicit {gas : UInt64} (h : Unset call o) : ¬ Explicit call o gas := by
  rintro (set | ⟨-, set⟩)
  · cases h.1.symm.trans set
  · cases h.2.symm.trans set

theorem Explicit.unique {gas gas' : UInt64} (h : Explicit call o gas) (h' : Explicit call o gas') :
    gas = gas' :=
  Option.some.inj ((gasOverride_eq_some_iff.mpr h).symm.trans (gasOverride_eq_some_iff.mpr h'))

theorem Simulated.gauged {dryRun : Option DryRun} {gas : UInt64}
    (h : Simulated env d call o u es dryRun v) (limit : Limited d.settings call o dryRun gas) :
    Gauged d call o (Simulator.request call d.account) gas es := by
  cases h with
  | skipped wanted skip => exact .skipped skip (limit.unestimated nofun)
  | @allowed _ dryRun _ wanted made simulated allows =>
    obtain ⟨asked, _, course, rfl, result, -⟩ := leads_consult.mp simulated
    cases result
    unfold Dispatcher.dryRun at course
    cases override : Dispatcher.gasOverride call o with
    | some gas' =>
      have explicit := gasOverride_eq_some_iff.mp override
      rw [override] at course
      obtain ⟨answer, rfl, rfl⟩ := Simulator.run_explicit course
      cases limit with
      | explicit set =>
        cases set.unique explicit
        cases answer with
        | ok output => exact .ran explicit
        | error failure =>
          exact .refused explicit
            (allows.resolve_left (by simp [Except.map, classify_error_isSuccess]))
      | estimated unset => exact absurd explicit unset.not_explicit
      | tabled unset => exact absurd explicit unset.not_explicit
    | none =>
      have unset := gasOverride_eq_none_iff.mp override
      rw [override] at course
      obtain ⟨block, t, answer, rfl, rfl⟩ := Simulator.run_free course
      cases answer with
      | ok estimate =>
        have same : gas = (Simulator.ofSettings d.settings).fitted block estimate := by
          cases limit with
          | explicit set => exact absurd set unset.not_explicit
          | estimated _ ran => exact (DryRun.wouldSucceed.inj (Option.some.inj ran)).symm
          | tabled _ blind => exact absurd rfl (blind _)
        refine .estimated unset (room_blockGas _ _)
          (Simulator.scaled_scale (s := Simulator.ofSettings d.settings) estimate) ?_
        rw [same]
        exact Simulator.toNat_fitted block estimate
      | error failure =>
        have blind :
          ∀ gas, some (Simulator.classify (.error failure)) ≠ some (.wouldSucceed gas) := by
          cases failure <;> nofun
        refine .unestimated unset
          (allows.resolve_left (by simp [Except.map, classify_error_isSuccess])) ?_
        exact ((limit.unestimated blind).resolve_left unset.not_explicit).2

theorem NodeQuestion.IsPrice.not_simulates {q : NodeQuestion} (h : q.IsPrice) : ¬ q.Simulates := by
  cases q <;> first | exact h.elim | exact id

theorem Delivers.not_simulates {tx : Draft} {hints : Hints} {e : Event Desk}
    (h : Delivers tx hints e) :
    ¬ e.Simulates := by
  cases h <;> exact id

theorem resolveChain_unsimulated {r : Except Failure UInt64}
    (h : Leads env Dispatcher.resolveChain u es r v) :
    ∀ e ∈ es, ¬ e.Simulates := by
  rcases resolveChain_leads.mp h with ⟨_, -, rfl, -, -⟩ | ⟨-, -, rfl, -⟩
  · simp
  · intro e he
    cases List.mem_singleton.mp he
    exact id

theorem resolveFees_priced {r : Except Failure Fees} {P : Event Desk → Prop}
    (h : Leads env (Dispatcher.attempt (d.settings.resolveFees o)) u es r v)
    (slept : ∀ t pause, P (.slept t pause))
    (asked : ∀ t (q : NodeQuestion) answer, q.IsPrice → P (.asked t (.node q) answer)) :
    ∀ e ∈ es, P e := by
  obtain ⟨reports, course, rfl, -⟩ := leads_attempt.mp h
  intro e he
  obtain ⟨e, listed, rfl⟩ := List.mem_map.mp he
  have price := course.within (resolveFees_prices _ _) e listed
  cases e with
  | slept t pause => exact slept t pause
  | asked t q answer => exact asked t q answer price

theorem resolveFees_unsimulated {r : Except Failure Fees}
    (h : Leads env (Dispatcher.attempt (d.settings.resolveFees o)) u es r v) :
    ∀ e ∈ es, ¬ e.Simulates :=
  resolveFees_priced h (fun _ _ => id) fun _ _ _ price => price.not_simulates

theorem Covered.unsimulated {tx : Draft} (h : Covered env d tx u es v) :
    ∀ e ∈ es, ¬ e.Simulates := by
  cases h with
  | unchecked => simp
  | checked _ passed =>
    obtain ⟨answer, -, rfl, -⟩ := checkBalance_leads.mp passed
    intro e he
    cases List.mem_singleton.mp he
    exact id

theorem Cleared.gauged {dryRun : Option DryRun} {tx : Draft}
    (h : Cleared env d call o u es dryRun tx v) :
    ∃ simulation rest, es = simulation ++ rest ∧ Gauged d call o tx.request tx.gasLimit simulation ∧
      ∀ e ∈ rest, ¬ e.Simulates := by
  obtain ⟨simulated, chain, priced, covered⟩ := h
  refine ⟨_, _, rfl, simulated.gauged (limited_resolveGasLimit _ _ _ _), ?_⟩
  intro e he
  rcases List.mem_append.mp he with he | he
  · exact resolveChain_unsimulated chain e he
  rcases List.mem_append.mp he with he | he
  · exact resolveFees_unsimulated priced e he
  · exact covered.unsimulated e he

/-- A draft that is handed over was simulated as it is, with the gas that it carries. -/
theorem simulated_gas_is_sent {before after : List (Event Desk)} {t : Nat} {tx : Draft}
    {hints : Hints} {answer : Except Failure Handle}
    (sent : (enact env (d.submit call o) u).events = before ++ .asked t (.send tx hints)
      answer :: after) :
    (tx.sender = d.account ∧ tx.recipient = call.recipient ∧ tx.data = call.data ∧
      tx.value = call.value) ∧
    ∃ simulation rest, before = simulation ++ rest ∧
      Gauged d call o tx.request tx.gasLimit simulation ∧
      ∀ e ∈ rest ++ after, ¬ e.Simulates := by
  have handed := landmark?_send t tx hints answer
  have listed :
    Event.asked t (DeskQuestion.send tx hints) answer ∈ (enact env (d.submit call o) u).events :=
    sent ▸ List.mem_append_right _ List.mem_cons_self
  obtain ⟨_, performed, -⟩ := submit_leads.mp (leads_enact env (d.submit call o) u)
  rcases perform_cases performed with halted | ⟨es₁, dryRun, tx₀, w, es₂, cleared, delivered, split⟩
  · cases handed.symm.trans (halted.quiet _ listed)
  rcases found_in_append (split.symm.trans sent) with ⟨_, rfl, -⟩ | ⟨numbered, rfl, rfl⟩
  · cases handed.symm.trans (cleared.quiet.1 _ (List.mem_append_right _ List.mem_cons_self))
  have delivers := deliver_delivers delivered
  obtain ⟨chainId, fees, rfl⟩ := cleared.draft
  cases delivers _ (List.mem_append_right _ List.mem_cons_self)
  obtain ⟨simulation, rest, rfl, gauged, others⟩ := cleared.gauged
  refine ⟨⟨rfl, rfl, rfl, rfl⟩, simulation, rest ++ numbered, List.append_assoc _ _ _, gauged, ?_⟩
  intro e he
  rcases List.mem_append.mp he with he | he
  · rcases List.mem_append.mp he with he | he
    · exact others e he
    · exact (delivers e (List.mem_append_left _ he)).not_simulates
  · exact (delivers e (List.mem_append_right _ (List.mem_cons_of_mem _ he))).not_simulates

end

/-! ## A call with a limit and one without -/

def estimating (estimate : UInt64) : Environment Desk Unit := fun q t s =>
  match q with
  | .node (.call _) => ⟨.ok [], s, t⟩
  | .node (.estimateGas _) => ⟨.ok estimate, s, t⟩
  | q => standstill q t s

def simulatedOptions : Options := { Options.fireAndForget with gasPrice := some 1 }

def unlimited : Call := (Call.ofData .zero []).withValue 5

def ranReports : List (Event Desk) :=
  [.asked 0 (.node (.call ((paymentDraft 5).request (some 21000)))) (.ok []),
    .asked 0 (.node .chainId) (.ok 1),
    .asked 0 (.node (.transactionCount .zero)) (.ok 0)]

def estimatedReports (estimate : UInt64) : List (Event Desk) :=
  [.asked 0 (.node .latestBlock) (.ok ⟨30000000, none⟩),
    .asked 0 (.node (.estimateGas ((paymentDraft 5).request none))) (.ok estimate),
    .asked 0 (.node .chainId) (.ok 1), .asked 0 (.node (.transactionCount .zero)) (.ok 0)]

/-- A payment is run with its limit. Without a limit it is sent with six fifths of what it is
estimated to take, but not with more than the gas of a block. -/
theorem payment_gas :
    (∃ simulation rest, ranReports = simulation ++ rest ∧
      Gauged plainDispatcher (payment 5) simulatedOptions (paymentDraft 5).request 21000
        simulation) ∧
    (∃ simulation rest, estimatedReports 100000 = simulation ++ rest ∧
      Gauged plainDispatcher unlimited simulatedOptions (paymentDraft 5).request 120000
        simulation) ∧
    ∃ simulation rest, estimatedReports 40000000 = simulation ++ rest ∧
      Gauged plainDispatcher unlimited simulatedOptions (paymentDraft 5).request 30000000
        simulation := by
  refine ⟨?_, ?_, ?_⟩
  · have sent :
      (enact (estimating 0) (plainDispatcher.submit (payment 5) simulatedOptions) opening).events =
        ranReports ++ .asked 0
          (.send (paymentDraft 5) (Dispatcher.hints (payment 5) simulatedOptions))
          (.ok (.hash .zero)) :: [] := by
      rfl
    obtain ⟨-, simulation, rest, split, gauged, -⟩ := simulated_gas_is_sent sent
    exact ⟨simulation, rest, split, gauged⟩
  · have sent :
      (enact (estimating 100000) (plainDispatcher.submit unlimited simulatedOptions)
      opening).events =
        estimatedReports 100000 ++ .asked 0 (.send { paymentDraft 5 with gasLimit := 120000 }
          (Dispatcher.hints unlimited simulatedOptions)) (.ok (.hash .zero)) :: [] := by
      rfl
    obtain ⟨-, simulation, rest, split, gauged, -⟩ := simulated_gas_is_sent sent
    exact ⟨simulation, rest, split, gauged⟩
  · have sent :
      (enact (estimating 40000000) (plainDispatcher.submit unlimited simulatedOptions)
      opening).events =
        estimatedReports 40000000 ++ .asked 0 (.send { paymentDraft 5 with gasLimit := 30000000 }
          (Dispatcher.hints unlimited simulatedOptions)) (.ok (.hash .zero)) :: [] := by
      rfl
    obtain ⟨-, simulation, rest, split, gauged, -⟩ := simulated_gas_is_sent sent
    exact ⟨simulation, rest, split, gauged⟩

end Dispatch
