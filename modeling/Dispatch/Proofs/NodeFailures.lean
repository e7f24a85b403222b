import Dispatch.Proofs.Stages

/-!
# Failures of the node

A task that asks the node is over with the first failure that the node reports, and that failure is
its result. Waits and prices are of this kind, since their parts are.
-/

set_option autoImplicit false

namespace Dispatch
open Program (Environment Event Moment)

/-! ## Read off the events -/

def failed? {α : Type} : Except Failure α → Option Failure
  | .ok _ => none
  | .error f => some f

@[simp] theorem failed?_eq_some {α : Type} {r : Except Failure α} {f : Failure} :
    failed? r = some f ↔ r = .error f := by
  cases r <;> simp [failed?]

/-- The failure that an answer reports. A simulated call that fails is an answer like any other. -/
def NodeQuestion.failure? : (q : NodeQuestion) → q.Answer → Option Failure
  | .call _, _ => none
  | .estimateGas _, _ => none
  | .chainId, answer => failed? answer
  | .transactionCount _, answer => failed? answer
  | .sendRaw _, answer => failed? answer
  | .receipt _, answer => failed? answer
  | .known _, answer => failed? answer
  | .blockNumber, answer => failed? answer
  | .gasPrice, answer => failed? answer
  | .priorityFee, answer => failed? answer
  | .latestBlock, answer => failed? answer
  | .balance _, answer => failed? answer

def Program.Event.failure? : Event Node → Option Failure
  | .asked _ q answer => NodeQuestion.failure? q answer
  | .slept _ _ => none

def Program.Event.question? : Event Node → Option NodeQuestion
  | .asked _ q _ => some q
  | .slept _ _ => none

/-- What the node is asked, in order. -/
def questions (es : List (Event Node)) : List NodeQuestion := es.filterMap Event.question?

section
variable {es more : List (Event Node)} {q : NodeQuestion} {t : Nat} {answer : q.Answer}

theorem mem_questions (heard : Event.asked (I := Node) t q answer ∈ es) : q ∈ questions es :=
  List.mem_filterMap.mpr ⟨_, heard, rfl⟩

theorem heard_left (quiet : q ∉ questions more) :
    Event.asked (I := Node) t q answer ∈ es ++ more ↔ Event.asked (I := Node) t q answer ∈ es :=
  List.mem_append.trans (or_iff_left fun later => quiet (mem_questions later))

theorem heard_right (quiet : q ∉ questions es) :
    Event.asked (I := Node) t q answer ∈ es ++ more ↔ Event.asked (I := Node) t q answer ∈ more :=
  List.mem_append.trans (or_iff_right fun earlier => quiet (mem_questions earlier))

end

/-- A failure that the node reports is the last event and the result. -/
def FailsAtOnce {α : Type} (es : List (Event Node)) (r : Except Failure α) : Prop :=
  ∀ before e after f, es = before ++ e :: after → e.failure? = some f → after = [] ∧ r = .error f

/-! ## Programs that fail with the node -/

namespace Program

variable {σ α β : Type} {env : Environment Node σ}

/-- Whatever the answers, the program is over with the first failure among them. -/
def Fragile : Program Node (Except Failure α) → Prop
  | .done _ => True
  | .ask q next => ∀ a, (∀ f, NodeQuestion.failure? q a = some f → next a = .done (.error f)) ∧
      (next a).Fragile
  | .sleep _ next => next.Fragile
  | .clock next => ∀ t, (next t).Fragile

theorem Fragile.bind {p : Task Node α} {f : α → Task Node β} (hp : Fragile p.run)
    (hf : ∀ a, Fragile (f a).run) :
    Fragile (p >>= f).run := by
  change Fragile (Program.bind p.run (ExceptT.bindCont f))
  generalize p.run = p at hp
  induction p with
  | done r =>
    cases r with
    | ok a => exact hf a
    | error failure => trivial
  | ask q next ih =>
    intro a
    obtain ⟨ends, rest⟩ := hp a
    refine ⟨fun failure failed => ?_, ih a rest⟩
    exact congrArg (fun p => Program.bind p (ExceptT.bindCont f)) (ends failure failed)
  | sleep d next ih => exact ih hp
  | clock next ih => exact fun t => ih t (hp t)

theorem fragile_ask {q : NodeQuestion} {g : q.Answer → Except Failure α}
    (fails : ∀ a f, q.failure? a = some f → g a = .error f) :
    Fragile (.ask q fun a => .done (g a)) :=
  fun a => ⟨fun f failed => congrArg done (fails a f failed), trivial⟩

theorem fragile_blockNumber : Fragile (ExceptT.run Node.blockNumber) :=
  fragile_ask (q := .blockNumber) (g := fun a => a) fun _ _ => failed?_eq_some.mp

theorem Leads.failsAtOnce {p : Program Node (Except Failure α)} {u v : Moment σ}
    {es : List (Event Node)} {r : Except Failure α} (h : p.Leads env u es r v)
    (fragile : p.Fragile) : FailsAtOnce es r := by
  intro before e after f split failed
  induction p generalizing u es before with
  | done a =>
    obtain ⟨rfl, -, -⟩ := leads_done.mp h
    simp at split
  | ask q next ih =>
    obtain ⟨rest, rfl, course⟩ := leads_ask.mp h
    obtain ⟨ends, left⟩ := fragile (env q u.time u.state).answer
    cases before with
    | nil =>
      obtain ⟨rfl, rfl⟩ := List.cons.inj split
      rw [ends f failed] at course
      obtain ⟨none_left, result, -⟩ := leads_done.mp course
      exact ⟨none_left, result⟩
    | cons first before =>
      obtain ⟨-, split⟩ := List.cons.inj split
      exact ih _ course left before split
  | sleep d next ih =>
    obtain ⟨rest, rfl, course⟩ := leads_sleep.mp h
    cases before with
    | nil =>
      obtain ⟨rfl, -⟩ := List.cons.inj split
      cases failed
    | cons first before =>
      obtain ⟨-, split⟩ := List.cons.inj split
      exact ih course fragile before split
  | clock next ih => exact ih _ (leads_clock.mp h) (fragile u.time) before split

end Program

end Dispatch
