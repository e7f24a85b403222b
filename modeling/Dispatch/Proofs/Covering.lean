import Dispatch.Proofs.Verdicts
import Mathlib.Algebra.Group.Nat.Defs

/-!
# What the balance check covers

The cost of a draft is computed in 256 bits, and its gas part alone never comes near that. So the
check holds for the exact cost of every draft but those whose value lifts it over the last of the
256-bit numbers; of these, the check misses exactly `2 ^ 256`.
-/

set_option autoImplicit false

namespace Dispatch
open Program (Environment Event)
open Step

namespace Draft

/-- Gas at the highest price plus the value, without a bound. -/
def exactCost (tx : Draft) : Nat := tx.gasLimit.toNat * tx.fees.ceiling.toNat + tx.value.toNat

theorem gasCost_lt (tx : Draft) : tx.gasLimit.toNat * tx.fees.ceiling.toNat < 2 ^ 192 := by
  have limit : tx.gasLimit.toNat ≤ 2 ^ 64 - 1 := Nat.le_sub_one_of_lt tx.gasLimit.toNat_lt
  have price : tx.fees.ceiling.toNat ≤ 2 ^ 128 - 1 := Nat.le_sub_one_of_lt tx.fees.ceiling.isLt
  calc tx.gasLimit.toNat * tx.fees.ceiling.toNat
      ≤ (2 ^ 64 - 1) * (2 ^ 128 - 1) := Nat.mul_le_mul limit price
    _ < 2 ^ 192 := by decide

theorem toNat_maxCost (tx : Draft) : tx.maxCost.toNat = tx.exactCost % 2 ^ 256 := by
  rw [maxCost, exactCost, BitVec.toNat_add, BitVec.toNat_mul, BitVec.toNat_ofNat,
    BitVec.toNat_ofNat,
    ← Nat.mul_mod, Nat.mod_add_mod]

/-- Where the cost leaves the 256 bits, less is left of it than the gas costs. -/
theorem maxCost_cases (tx : Draft) :
    (tx.exactCost < 2 ^ 256 ∧ tx.maxCost.toNat = tx.exactCost) ∨
      (2 ^ 256 ≤ tx.exactCost ∧ tx.maxCost.toNat + 2 ^ 256 = tx.exactCost ∧
        tx.maxCost.toNat < tx.gasLimit.toNat * tx.fees.ceiling.toNat) := by
  have gas := tx.gasCost_lt
  have value := tx.value.isLt
  rw [toNat_maxCost, exactCost]
  omega

end Draft

section
variable {σ : Type} {env : Environment Desk σ} {d : Dispatcher} {call : Call} {o : Options}
  {u v : Scene σ} {es : List (Event Desk)}

theorem Covered.reported {tx : Draft} (h : Covered env d tx u es v)
    (checks : d.settings.checkBalance = true) :
    ∃ t balance, es = [.asked t (.node (.balance d.account)) (.ok balance)] ∧
      tx.maxCost ≤ balance := by
  cases h with
  | unchecked skip => cases skip.symm.trans checks
  | checked _ passed =>
    obtain ⟨answer, -, rfl, -, result⟩ := checkBalance_leads.mp passed
    cases answer with
    | error failure => cases result
    | ok balance =>
      refine ⟨u.time, balance, rfl, BitVec.not_lt.mp fun short => ?_⟩
      rw [Except.bind, if_pos short] at result
      cases result

theorem Cleared.reported {dryRun : Option DryRun} {tx : Draft}
    (h : Cleared env d call o u es dryRun tx v) (checks : d.settings.checkBalance = true) :
    ∃ before t balance, es = before ++ [.asked t (.node (.balance d.account)) (.ok balance)] ∧
      tx.sender = d.account ∧ tx.maxCost ≤ balance := by
  obtain ⟨-, -, -, covered⟩ := h
  obtain ⟨t, balance, rfl, enough⟩ := covered.reported checks
  exact ⟨_, t, balance, by rw [← List.append_assoc, ← List.append_assoc], rfl, enough⟩

/-- Where the balance is checked, the last thing heard before the nonce of a draft that is handed
over is a balance of its sender that covers its cost, or its cost less `2 ^ 256` if that is over the
256 bits. -/
theorem sent_drafts_are_covered (checks : d.settings.checkBalance = true)
    {before after : List (Event Desk)} {t : Nat} {tx : Draft} {hints : Hints}
    {answer : Except Failure Handle}
    (sent : (enact env (d.submit call o) u).events = before ++ .asked t (.send tx hints)
      answer :: after) :
    ∃ earlier t' balance counts,
      before = earlier ++ .asked t' (.node (.balance tx.sender)) (.ok balance) :: counts ∧
      (∀ e ∈ counts, e.landmark? = some .count) ∧
      tx.exactCost % 2 ^ 256 ≤ balance.toNat ∧
      (tx.exactCost < 2 ^ 256 → tx.exactCost ≤ balance.toNat) ∧
      (2 ^ 256 ≤ tx.exactCost → tx.exactCost ≤ balance.toNat + 2 ^ 256) := by
  have reached : Reached env d call o u (before ++ .asked t (.send tx hints) answer :: after) :=
    sent ▸ submit_reached (leads_enact env (d.submit call o) u)
  obtain ⟨es₁, dryRun, tx₀, w, counts, nonce, w', cleared, numbered, rfl, rfl, -⟩ := reached.of_send
  obtain ⟨earlier, t', balance, rfl, sender, enough⟩ := cleared.reported checks
  have cost : ({ tx₀ with nonce } : Draft).maxCost.toNat ≤ balance.toNat := BitVec.le_def.mp enough
  refine ⟨earlier, t', balance, counts, ?_, numbered.landmarks, ?_, ?_⟩
  · rw [List.append_assoc, List.singleton_append]
    show _ = earlier ++ .asked t' (.node (.balance tx₀.sender)) (.ok balance) :: counts
    rw [sender]
  · rw [← Draft.toNat_maxCost]
    exact cost
  · rcases Draft.maxCost_cases { tx₀ with nonce } with ⟨fits, same⟩ | ⟨beyond, same, -⟩ <;> omega

end

def solvent : Environment Desk Unit := fun q t s =>
  match q with
  | .node (.balance _) => ⟨.ok (.ofNat 256 (10 ^ 18)), s, t⟩
  | q => standstill q t s

def carefulDispatcher : Dispatcher := { plainDispatcher with settings := Settings.standard }

def directOptions : Options := { Options.fireAndForget with skipDryRun := true, gasPrice := some 1 }

def payment (value : BitVec 256) : Call :=
  ((Call.ofData .zero []).withValue value).withGasLimit 21000

def paymentDraft (value : BitVec 256) : Draft :=
  { sender := .zero, recipient := .zero, value, data := [], gasLimit := 21000, nonce := 0,
    chainId := 1
    fees := .legacy 1 }

def paymentReports : List (Event Desk) :=
  [.asked 0 (.node .chainId) (.ok 1), .asked 0 (.node (.balance .zero))
    (.ok (.ofNat 256 (10 ^ 18))),
    .asked 0 (.node (.transactionCount .zero)) (.ok 0)]

/-- The sum of gas and a value of all ones is taken for less than one ether. -/
theorem boundless_payment_sent :
    ¬ ∀ (env : Environment Desk Unit) (d : Dispatcher) (call : Call) (o : Options) (u : Scene Unit)
      (before after : List (Event Desk)) (t : Nat) (tx : Draft) (hints : Hints)
        (answer : Except Failure Handle),
      d.settings.checkBalance = true →
      (enact env (d.submit call o) u).events = before ++ .asked t (.send tx hints) answer :: after →
      ∃ t' balance, .asked t' (.node (.balance tx.sender)) (.ok balance) ∈ before ∧
        tx.exactCost ≤ balance.toNat := by
  intro sound
  obtain ⟨_, balance, -, covered⟩ :=
    sound solvent carefulDispatcher (payment (.allOnes 256)) directOptions opening
    paymentReports [] 0 (paymentDraft (.allOnes 256))
      (Dispatcher.hints (payment (.allOnes 256)) directOptions)
    (.ok (.hash .zero)) rfl (by rfl)
  have bound := balance.isLt
  have cost : (paymentDraft (.allOnes 256)).exactCost = 21000 + (2 ^ 256 - 1) := by decide +kernel
  omega

theorem small_payment_covered :
    carefulDispatcher.settings.checkBalance = true ∧ (paymentDraft 5).exactCost = 21005 ∧
      ∃ t balance, .asked t (.node (.balance .zero)) (.ok balance) ∈ paymentReports ∧
        21005 ≤ balance.toNat := by
  have sent : (enact solvent (carefulDispatcher.submit (payment 5) directOptions) opening).events =
    paymentReports ++
      .asked 0 (.send (paymentDraft 5) (Dispatcher.hints (payment 5) directOptions))
        (.ok (.hash .zero)) :: [] := by
    rfl
  obtain ⟨earlier, t, balance, counts, reports, -, -, covered, -⟩ :=
    sent_drafts_are_covered rfl sent
  have cost : (paymentDraft 5).exactCost = 21005 := by decide +kernel
  refine ⟨rfl, cost, t, balance, ?_, cost ▸ covered (by rw [cost]; decide)⟩
  rw [reports]
  exact List.mem_append_right _ List.mem_cons_self

end Dispatch
