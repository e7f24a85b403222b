import Dispatch.Backend
import Dispatch.Proofs.Course

/-!
# Courses of what wallets do

A wallet's action goes through a course of questions to the outside and takes the wallet's state
with it. The courses of composed actions are those of their parts, one after the other.
-/

set_option autoImplicit false

namespace Dispatch

theorem ofSigner_ok {α : Type} {x : Except SigningFailure α} {a : α} (h : ofSigner x = .ok a) :
    x = .ok a := by
  cases x with
  | ok b =>
    cases h
    rfl
  | error failure => cases h

namespace Action
open Program (Environment Event Moment)

section
variable {σ τ α β : Type} {env : Environment Outside τ}

/-- From `u` with the wallet's state `s` the action goes through `es` to the result `r` at `v`. -/
def Leads (env : Environment Outside τ) (a : Action σ α) (s : σ) (u : Moment τ)
    (es : List (Event Outside)) (r : Except Failure α) (s' : σ) (v : Moment τ) : Prop :=
  Program.Leads env (a.run.run s) u es (r, s') v

variable {a : Action σ α} {s s' : σ} {u v : Moment τ} {es : List (Event Outside)}
  {r : Except Failure α}

theorem leads_result {x : Except Failure α} :
    Leads env (ExceptT.mk (pure x)) s u es r s' v ↔ es = [] ∧ r = x ∧ s' = s ∧ v = u := by
  refine Program.leads_done.trans ?_
  rw [Prod.mk.injEq, and_assoc]

theorem leads_pure {x : α} : Leads env (pure x) s u es r s' v ↔ es = [] ∧ r = .ok x ∧
    s' = s ∧ v = u :=
  leads_result

theorem leads_throw {failure : Failure} :
    Leads env (throw failure : Action σ α) s u es r s' v ↔ es = [] ∧ r = .error failure ∧
      s' = s ∧ v = u :=
  leads_result

theorem leads_bind {f : α → Action σ β} {r : Except Failure β} {s'' : σ} :
    Leads env (a >>= f) s u es r s'' v ↔
      (∃ e, Leads env a s u es (.error e) s'' v ∧ r = .error e) ∨
      ∃ es₁ x s' w es₂, Leads env a s u es₁ (.ok x) s' w ∧ Leads env (f x) s' w es₂ r s'' v ∧
        es = es₁ ++ es₂ :=
  Program.leads_state_bind

theorem Leads.bind {f : α → Action σ β} {x : α} {w : Moment τ} {es' : List (Event Outside)}
    {r : Except Failure β} {s'' : σ} (h : Leads env a s u es (.ok x) s' w)
    (h' : Leads env (f x) s' w es' r s'' v) :
    Leads env (a >>= f) s u (es ++ es') r s'' v :=
  Program.Leads.state_bind h h'

theorem leads_ofProgram {p : Program Outside α} :
    Leads env (ofProgram p) s u es r s' v ↔ ∃ x, Program.Leads env p u es x v ∧ r = .ok x ∧
      s' = s := by
  refine (Program.leads_bind_done (p := p.bind fun x => .done (x, s))).trans ?_
  simp only [Program.leads_bind_done]
  constructor
  · rintro ⟨_, ⟨x, course, rfl⟩, result⟩
    obtain ⟨rfl, rfl⟩ := Prod.mk.inj result
    exact ⟨x, course, rfl, rfl⟩
  · rintro ⟨x, course, rfl, rfl⟩
    exact ⟨_, ⟨x, course, rfl⟩, rfl⟩

theorem leads_ofTask {t : Task Outside α} :
    Leads env (ofTask t) s u es r s' v ↔ Program.Leads env t.run u es r v ∧ s' = s := by
  refine (Program.leads_bind_done (p := t.run)).trans ?_
  constructor
  · rintro ⟨_, course, result⟩
    obtain ⟨rfl, rfl⟩ := Prod.mk.inj result
    exact ⟨course, rfl⟩
  · rintro ⟨course, rfl⟩
    exact ⟨r, course, rfl⟩

end

end Action

theorem Outside.http_cases {τ : Type} {env : Program.Environment Outside τ} {request : Http.Request}
    {u v : Program.Moment τ} {es : List (Program.Event Outside)} {answer : Except String Http.Reply}
    (h : Program.Leads env (Outside.http request).run u es answer v) :
    es = [.asked u.time (OutsideQuestion.http request) answer] ∨
      es = [] ∧ ∃ why, answer = .error why := by
  unfold Outside.http at h
  split at h
  · obtain ⟨rfl, rfl, -⟩ := Program.leads_ask_done.mp h
    exact .inl rfl
  · obtain ⟨rfl, refused, -⟩ := Program.leads_except_throw.mp h
    exact .inr ⟨rfl, _, refused⟩

/-! ## An outside that refuses everything -/

def NodeQuestion.refusal : (q : NodeQuestion) → q.Answer
  | .chainId => .error (.rpc [])
  | .call _ => .error (.node [])
  | .estimateGas _ => .error (.node [])
  | .transactionCount _ => .error (.rpc [])
  | .sendRaw _ => .error (.rpc [])
  | .receipt _ => .error (.rpc [])
  | .known _ => .error (.rpc [])
  | .blockNumber => .error (.rpc [])
  | .gasPrice => .error (.rpc [])
  | .priorityFee => .error (.rpc [])
  | .latestBlock => .error (.rpc [])
  | .balance _ => .error (.rpc [])

def OutsideQuestion.refusal : (q : OutsideQuestion) → q.Answer
  | .node q => q.refusal
  | .date => (0 : Nat)
  | .file _ => (none : Option String)
  | .takesIdentity _ => false
  | .device _ => .error (.local_ "refused")
  | .connect _ => .error "refused"
  | .write _ => .error "refused"
  | .read _ => .error "refused"
  | .http _ => .error "refused"
  | .subscribe _ => .error (.broker (.reported "refused"))
  | .publish _ _ => .error (.broker (.reported "refused"))
  | .unsubscribe _ => .error (.broker (.reported "refused"))
  | .receive _ _ => Delivery.late
  | .drop _ => ()

end Dispatch
