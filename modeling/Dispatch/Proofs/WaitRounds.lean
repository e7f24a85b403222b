import Dispatch.Proofs.Course

/-!
# Rounds of a wait

A wait at the node goes round by round. What a round can do is said once for each wait, in whatever
environment; what holds of a whole wait follows by induction on its rounds.
-/

set_option autoImplicit false

namespace Dispatch
open Program (Environment Event Moment)

section
variable {σ : Type} {env : Environment Node σ} {u v : Moment σ} {es : List (Event Node)}

theorem asked_leads {q : NodeQuestion} {r : q.Answer} :
    Program.Leads env (.ask (I := Node) q .done) u es r v ↔
      r = (env q u.time u.state).answer ∧ es = [.asked u.time q r] ∧ v = u.after env q := by
  refine (Program.leads_ask_done (I := Node) (q := q) (f := fun answer => answer)).trans ?_
  constructor <;> rintro ⟨rfl, rfl, rfl⟩ <;> exact ⟨rfl, rfl, rfl⟩

theorem blockNumber_leads {r : Except Failure UInt64} :
    Program.Leads env (ExceptT.run Node.blockNumber) u es r v ↔
      r = (env .blockNumber u.time u.state).answer ∧ es = [.asked u.time .blockNumber r] ∧
        v = u.after env .blockNumber :=
  asked_leads (q := .blockNumber)

end

def Program.Moment.past {σ : Type} (u : Moment σ) (d : Duration) : Moment σ :=
  ⟨u.time + d.nanos, u.state⟩

/-! ## Polling for a receipt -/

/-- Without a receipt a transaction that the node knows has timed out, and one that it does not was
not found. -/
def verdict (hash : Hash) (waited : Duration) : Except Failure Bool → Except Failure Receipt
  | .ok true => .error (.transactionTimeout (.hash hash) waited)
  | .ok false => .error (.transactionNotFound (.hash hash))
  | .error f => .error f

/-- What a round of polling comes to when `rounds` more may follow it. -/
inductive PollRound {σ : Type} (env : Environment Node σ) (hash : Hash) (b : WaitBounds)
    (started : Nat) (start : UInt64) (rounds : Nat) (current : UInt64) (u : Moment σ) :
    List (Event Node) → Except Failure Receipt → Moment σ → Prop
  | unanswered {f : Failure} :
    PollRound env hash b started start rounds current u [.asked u.time (.receipt hash) (.error f)]
      (.error f)
      (u.after env (.receipt hash))
  | found {receipt : Receipt} :
    PollRound env hash b started start rounds current u
      [.asked u.time (.receipt hash) (.ok (ε := Failure) (some receipt))] (.ok receipt)
        (u.after env (.receipt hash))
  | gaveUp {v : Moment σ} {es : List (Event Node)} {r : Except Failure Receipt}
      (spent : b.timeout ≤ .ofNanos ((u.after env (.receipt hash)).time - started) ∨
        addWithin64 start b.blocksToWait < current)
      (ends : Program.Leads env (Waiting.giveUp hash started).run (u.after env (.receipt hash))
        es r v) :
    PollRound env hash b started start rounds current u
      (.asked u.time (.receipt hash) (.ok (ε := Failure) none) :: es) r v
  | lost {w : Moment σ} {nap : Duration} {f : Failure}
      (unspent : ¬ (b.timeout ≤ .ofNanos ((u.after env (.receipt hash)).time - started) ∨
        addWithin64 start b.blocksToWait < current))
      (napped : nap = b.nap (.ofNanos ((u.after env (.receipt hash)).time - started)))
      (woken : w = (u.after env (.receipt hash)).past nap) :
    PollRound env hash b started start rounds current u
      [.asked u.time (.receipt hash) (.ok (ε := Failure) none),
        .slept (u.after env (.receipt hash)).time nap,
        .asked w.time NodeQuestion.blockNumber (.error f)] (.error f) (w.after env .blockNumber)
  | again {v w : Moment σ} {nap : Duration} {next : UInt64} {es : List (Event Node)}
      {r : Except Failure Receipt}
      (unspent : ¬ (b.timeout ≤ .ofNanos ((u.after env (.receipt hash)).time - started) ∨
        addWithin64 start b.blocksToWait < current))
      (napped : nap = b.nap (.ofNanos ((u.after env (.receipt hash)).time - started)))
      (woken : w = (u.after env (.receipt hash)).past nap)
      (rest : Program.Leads env (Waiting.poll hash b started start rounds next).run
        (w.after env .blockNumber) es r v) :
    PollRound env hash b started start rounds current u
      (.asked u.time (.receipt hash) (.ok (ε := Failure) none) :: .slept
        (u.after env (.receipt hash)).time nap ::
        .asked w.time NodeQuestion.blockNumber (.ok (ε := Failure) next) :: es) r v

section
variable {σ : Type} {env : Environment Node σ} {u v : Moment σ} {es : List (Event Node)}
  {hash : Hash} {b : WaitBounds} {started rounds : Nat} {start current : UInt64}
  {r : Except Failure Receipt}

theorem giveUp_leads (h : Program.Leads env (Waiting.giveUp hash started).run u es r v) :
    ∃ answer, es = [.asked u.time (.known hash) answer] ∧
      r = verdict hash (.ofNanos (v.time - started)) answer ∧
      v = u.after env (.known hash) := by
  rcases Program.leads_except_bind.mp h with ⟨f, asked, rfl⟩ |
    ⟨es₁, known, w, es₂, asked, rest, rfl⟩
  · obtain ⟨-, rfl, rfl⟩ := asked_leads.mp asked
    exact ⟨.error f, rfl, rfl, rfl⟩
  obtain ⟨-, rfl, rfl⟩ := asked_leads.mp asked
  cases known with
  | true =>
    have thrown := Program.leads_since_bind.mp rest
    obtain ⟨rfl, rfl, rfl⟩ := Program.leads_except_throw.mp thrown
    exact ⟨.ok true, rfl, rfl, rfl⟩
  | false =>
    obtain ⟨rfl, rfl, rfl⟩ := Program.leads_except_throw.mp rest
    exact ⟨.ok false, rfl, rfl, rfl⟩

theorem poll_round
    (h : Program.Leads env (Waiting.poll hash b started start (rounds + 1) current).run u es r v) :
    PollRound env hash b started start rounds current u es r v := by
  rcases Program.leads_except_bind.mp h with ⟨f, asked, rfl⟩ |
    ⟨es₁, answer, w, es₂, asked, rest, rfl⟩
  · obtain ⟨-, rfl, rfl⟩ := asked_leads.mp asked
    exact .unanswered
  obtain ⟨-, rfl, rfl⟩ := asked_leads.mp asked
  cases answer with
  | some receipt =>
    obtain ⟨rfl, rfl, rfl⟩ := Program.leads_except_pure.mp rest
    exact .found
  | none =>
    have rest := Program.leads_since_bind.mp rest
    split at rest
    next spent => exact .gaveUp spent rest
    next unspent =>
      obtain ⟨es₃, rfl, awake⟩ := Program.leads_pause_bind.mp rest
      rcases Program.leads_except_bind.mp awake with ⟨f, asked, rfl⟩ |
        ⟨es₄, next, w, es₅, asked, again, rfl⟩
      · obtain ⟨-, rfl, rfl⟩ := blockNumber_leads.mp asked
        exact .lost unspent rfl rfl
      · obtain ⟨-, rfl, rfl⟩ := blockNumber_leads.mp asked
        exact .again unspent rfl rfl again

theorem waitForReceipt_leads (h : Program.Leads env (waitForReceipt hash b).run u es r v) :
    (∃ f, es = [.asked u.time NodeQuestion.blockNumber (.error f)] ∧ r = .error f ∧
      v = u.after env .blockNumber) ∨
      ∃ start rest, es = .asked u.time NodeQuestion.blockNumber (.ok (ε := Failure) start) :: rest ∧
        Program.Leads env (Waiting.poll hash b u.time start b.rounds start).run
          (u.after env .blockNumber) rest r v := by
  have begun := Program.leads_now_bind.mp h
  rcases Program.leads_except_bind.mp begun with ⟨f, asked, rfl⟩ |
    ⟨es₁, start, w, es₂, asked, polled, rfl⟩
  · obtain ⟨-, rfl, rfl⟩ := blockNumber_leads.mp asked
    exact .inl ⟨f, rfl, rfl, rfl⟩
  · obtain ⟨-, rfl, rfl⟩ := blockNumber_leads.mp asked
    exact .inr ⟨start, es₂, rfl, polled⟩

end

/-! ## Waiting for confirmations -/

/-- What a round of waiting for the target comes to when `rounds` more may follow it. -/
inductive ConfirmRound {σ : Type} (env : Environment Node σ) (hash : Hash) (b : WaitBounds)
    (started : Nat) (target : UInt64) (rounds : Nat)
    (u : Moment σ) : List (Event Node) → Except Failure Unit →
    Moment σ → Prop
  | unanswered {f : Failure} :
    ConfirmRound env hash b started target rounds u
      [.asked u.time NodeQuestion.blockNumber (.error f)] (.error f)
      (u.after env .blockNumber)
  | reached {current : UInt64} (there : target ≤ current) :
    ConfirmRound env hash b started target rounds u
      [.asked u.time NodeQuestion.blockNumber (.ok (ε := Failure) current)] (.ok ())
        (u.after env .blockNumber)
  | late {current : UInt64} {waited : Duration} (below : ¬ target ≤ current)
      (waits : waited = .ofNanos ((u.after env .blockNumber).time - started))
        (up : b.timeout ≤ waited) :
    ConfirmRound env hash b started target rounds u
      [.asked u.time NodeQuestion.blockNumber (.ok (ε := Failure) current)]
      (.error (.transactionTimeout (.hash hash) waited)) (u.after env .blockNumber)
  | again {v : Moment σ} {current : UInt64} {waited : Duration} {es : List (Event Node)}
      {r : Except Failure Unit}
      (below : ¬ target ≤ current)
        (waits : waited = .ofNanos ((u.after env .blockNumber).time - started))
      (early : ¬ b.timeout ≤ waited)
      (rest : Program.Leads env (Waiting.confirm hash b started target rounds).run
        ((u.after env .blockNumber).past (b.nap waited)) es r v) :
    ConfirmRound env hash b started target rounds u
      (.asked u.time NodeQuestion.blockNumber (.ok (ε := Failure) current) ::
        .slept (u.after env .blockNumber).time (b.nap waited) :: es) r v

section
variable {σ : Type} {env : Environment Node σ} {u v : Moment σ} {es : List (Event Node)}
  {hash : Hash} {b : WaitBounds} {started rounds : Nat} {target : UInt64} {r : Except Failure Unit}

theorem confirm_round
    (h : Program.Leads env (Waiting.confirm hash b started target (rounds + 1)).run u es r v) :
    ConfirmRound env hash b started target rounds u es r v := by
  rcases Program.leads_except_bind.mp h with ⟨f, asked, rfl⟩ |
    ⟨es₁, current, w, es₂, asked, rest, rfl⟩
  · obtain ⟨-, rfl, rfl⟩ := blockNumber_leads.mp asked
    exact .unanswered
  obtain ⟨-, rfl, rfl⟩ := blockNumber_leads.mp asked
  split at rest
  next reached =>
    obtain ⟨rfl, rfl, rfl⟩ := Program.leads_except_pure.mp rest
    exact .reached reached
  next below =>
    have rest := Program.leads_since_bind.mp rest
    split at rest
    next up =>
      obtain ⟨rfl, rfl, rfl⟩ := Program.leads_except_throw.mp rest
      exact .late below rfl up
    next early =>
      obtain ⟨es₃, rfl, again⟩ := Program.leads_pause_bind.mp rest
      exact .again below rfl early again

theorem confirm_over (h : Program.Leads env (Waiting.confirm hash b started target 0).run u
    es r v) :
    es = [] ∧ r = .error (.transactionTimeout (.hash hash) (.ofNanos (u.time - started))) ∧ v = u :=
  Program.leads_except_throw.mp (Program.leads_since_bind.mp h)

theorem waitForConfirmations_leads {receipt : Receipt} {blocks : UInt64}
    (h : Program.Leads env (waitForConfirmations receipt blocks b).run u es r v) :
    Program.Leads env
      (Waiting.confirm receipt.hash b u.time (addWithin64 receipt.blockNumber blocks) b.rounds).run
        u es r v :=
  Program.leads_now_bind.mp h

end

end Dispatch
