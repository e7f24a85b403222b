import Dispatch.Proofs.Verdicts

/-!
# Chain and fees asked for at once

A submission may ask for the chain and for the prices at the same time, and give up both with the
first failure of either. For its result and for what it remembers this is a run that asks for one
after the other. Where the fees fail while the chain is still asked for, it is the run in which that
question fails with the same failure.
-/

set_option autoImplicit false

namespace Dispatch
open Program (Environment Event Moment)

structure Said (I : Interface) where
  question : I.Question
  answer : I.Answer question

namespace Program

section
variable {I : Interface} {ε α β : Type}

def told? : Program I (Except ε α) → Option α
  | .done (.ok a) => some a
  | _ => none

/-- What two tasks at the same time come to, and what the first of them has told until then: they
are over once both are, and with the first failure. -/
inductive JoinedEnd : Program I (Except ε α) → Program I (Except ε β) → Except ε (α × β) →
    Option α → Prop
  | both (a : α) (b : β) : JoinedEnd (.done (.ok a)) (.done (.ok b)) (.ok (a, b)) (some a)
  | first (f : ε) (q : Program I (Except ε β)) : JoinedEnd (.done (.error f)) q (.error f) none
  | second (p : Program I (Except ε α)) (f : ε) :
      JoinedEnd p (.done (.error f)) (.error f) p.told?

/-- Two tasks at the same time, with the answers in the order in which they come. A question that is
not answered before the end is given up. -/
inductive Joined : Program I (Except ε α) → Program I (Except ε β) → List (Said I) →
    Except ε (α × β) → Option α → Prop
  | ended {p : Program I (Except ε α)} {q : Program I (Except ε β)} {r : Except ε (α × β)}
      {kept : Option α} (ends : JoinedEnd p q r kept) : Joined p q [] r kept
  | first {question : I.Question} {next : I.Answer question → Program I (Except ε α)}
      {q : Program I (Except ε β)} {answer : I.Answer question} {said : List (Said I)}
      {r : Except ε (α × β)} {kept : Option α} (going : ∀ f, q ≠ .done (.error f))
      (rest : Joined (next answer) q said r kept) :
      Joined (.ask question next) q (⟨question, answer⟩ :: said) r kept
  | second {p : Program I (Except ε α)} {question : I.Question}
      {next : I.Answer question → Program I (Except ε β)} {answer : I.Answer question}
      {said : List (Said I)} {r : Except ε (α × β)} {kept : Option α}
      (going : ∀ f, p ≠ .done (.error f)) (rest : Joined p (next answer) said r kept) :
      Joined p (.ask question next) (⟨question, answer⟩ :: said) r kept

/-- With these answers the program comes to what is left of it. -/
inductive Hears {γ : Type} : Program I γ → List (Said I) → Program I γ → Prop
  | nothing (p : Program I γ) : Hears p [] p
  | more {question : I.Question} {next : I.Answer question → Program I γ}
      {answer : I.Answer question} {said : List (Said I)} {left : Program I γ}
      (rest : Hears (next answer) said left) :
      Hears (.ask question next) (⟨question, answer⟩ :: said) left

theorem Joined.split {p : Program I (Except ε α)} {q : Program I (Except ε β)}
    {said : List (Said I)} {r : Except ε (α × β)} {kept : Option α} (h : p.Joined q said r kept) :
    ∃ mine yours p' q', p.Hears mine p' ∧ q.Hears yours q' ∧ (mine ++ yours).Perm said ∧
      p'.JoinedEnd q' r kept := by
  induction h with
  | ended ends => exact ⟨[], [], _, _, .nothing _, .nothing _, .refl _, ends⟩
  | first _ _ ih =>
    obtain ⟨mine, yours, p', q', first, second, order, ends⟩ := ih
    exact ⟨_ :: mine, yours, p', q', .more first, second, order.cons _, ends⟩
  | second _ _ ih =>
    obtain ⟨mine, yours, p', q', first, second, order, ends⟩ := ih
    exact ⟨mine, _ :: yours, p', q', first, .more second,
      List.perm_middle.trans (order.cons _), ends⟩

end

end Program

/-! ## A node that follows a script -/

def scripted : Environment Desk (List (Said Node)) := fun q t script =>
  match q, script with
  | .node q, ⟨(q' : NodeQuestion), answer⟩ :: rest =>
    if same : q' = q then ⟨same ▸ answer, rest, t⟩
    else ⟨(standstill (.node q) t ()).answer, rest, t⟩
  | q, script => ⟨(standstill q t ()).answer, script, t⟩

def Program.Event.said? : Event Desk → Option (Said Node)
  | .asked _ (.node q) answer => some ⟨q, answer⟩
  | _ => none

def said (es : List (Event Desk)) : List (Said Node) := es.filterMap Event.said?

theorem said_append (es es' : List (Event Desk)) : said (es ++ es') = said es ++ said es' :=
  List.filterMap_append

section
variable {γ : Type} {t : Nat} {c : γ}

theorem leads_scripted {q : NodeQuestion} {next : q.Answer → Program Node γ} {answer : q.Answer}
    {script : List (Said Node)} {v : Moment (List (Said Node))} {es : List (Event Node)} :
    (Program.ask (I := Node) q next).Leads scripted.node ⟨t, ⟨q, answer⟩ :: script⟩ es c v ↔
      ∃ rest, es = .asked t q answer :: rest ∧
        (next answer).Leads scripted.node ⟨t, script⟩ rest c v := by
  have reply : scripted.node q t (⟨q, answer⟩ :: script) = ⟨answer, script, t⟩ := by
    simp [scripted, Environment.node]
  have after : Moment.after scripted.node ⟨t, ⟨q, answer⟩ :: script⟩ q = ⟨t, script⟩ :=
    congrArg (fun r : Program.Reply Node _ q => Moment.mk r.time r.state) reply
  refine Program.leads_ask.trans ?_
  rw [after, reply]

theorem Program.Hears.leads {p : Program Node γ} {script : List (Said Node)}
    (h : p.Hears script (.done c)) (rest : List (Said Node)) :
    ∃ es, p.Leads scripted.node ⟨t, script ++ rest⟩ es c ⟨t, rest⟩ ∧
      said (es.map Event.atDesk) = script := by
  generalize left : Program.done c = p' at h
  induction h with
  | nothing =>
    subst left
    exact ⟨[], leads_done.mpr ⟨rfl, rfl, rfl⟩, rfl⟩
  | @more question next answer script _ _ ih =>
    obtain ⟨es, course, same⟩ := ih left
    exact ⟨_, leads_scripted.mpr ⟨es, rfl, course⟩, congrArg (List.cons _) same⟩

end

/-! ## One after the other -/

namespace Dispatcher

def askChain : Option UInt64 → Task Node UInt64
  | some id => pure id
  | none => Node.chainId

variable (d : Dispatcher) (o : Options)

def resolve : Step (UInt64 × Fees) := do
  let chainId ← resolveChain
  let fees ← attempt (d.settings.resolveFees o)
  return (chainId, fees)

end Dispatcher

open Step Dispatcher

section
variable {σ : Type} {env : Environment Desk σ} {d : Dispatcher} {call : Call} {o : Options}
  {dryRun : Option DryRun} {u v : Scene σ} {es : List (Event Desk)} {f : Failure}

theorem proceed_of_unresolved (h : Leads env (d.resolve o) u es (.error f) v) :
    Leads env (d.proceed call o dryRun) u es (.error f) v := by
  rcases leads_bind.mp h with ⟨_, failed, same⟩ | ⟨es₁, id, w, es₂, chain, priced, rfl⟩
  · cases same
    exact leads_bind.mpr (.inl ⟨f, failed, rfl⟩)
  refine leads_bind.mpr (.inr ⟨es₁, id, w, es₂, chain, ?_, rfl⟩)
  rcases leads_bind.mp priced with ⟨_, failed, same⟩ | ⟨_, _, _, _, _, told, _⟩
  · cases same
    exact leads_bind.mpr (.inl ⟨f, failed, rfl⟩)
  · cases (leads_pure.mp told).2.1

end

section
variable {d : Dispatcher} {o : Options} {known kept : Option UInt64} {script : List (Said Node)}
  {t : Nat} {id : UInt64} {f : Failure} {m : Memory}

theorem askChain_cases {left : Program Node (Except Failure UInt64)}
    (h : (askChain known).run.Hears script left) :
    (∃ id, known = some id ∧ script = [] ∧ left = .done (.ok id)) ∨
    known = none ∧ ((script = [] ∧ left = .ask NodeQuestion.chainId .done) ∨
      ∃ r, script = [⟨NodeQuestion.chainId, r⟩] ∧ left = .done r) := by
  cases known with
  | some id =>
    cases h
    exact .inl ⟨id, rfl, rfl, rfl⟩
  | none =>
    cases h with
    | nothing => exact .inr ⟨rfl, .inl ⟨rfl, rfl⟩⟩
    | more rest =>
      cases rest
      exact .inr ⟨rfl, .inr ⟨_, rfl, rfl⟩⟩

theorem told?_cases {left : Program Node (Except Failure UInt64)}
    (h : (askChain known).run.Hears script left) :
    (∃ id, left = .done (.ok id)) ∨ known = none ∧ left.told? = none := by
  rcases askChain_cases h with ⟨id, -, -, done⟩ | ⟨unknown, ⟨-, rfl⟩ | ⟨id | f, -, rfl⟩⟩
  · exact .inl ⟨id, done⟩
  · exact .inr ⟨unknown, rfl⟩
  · exact .inr ⟨unknown, rfl⟩
  · exact .inl ⟨_, rfl⟩

theorem chain_leads {r : Except Failure UInt64} (unknown : m.chainId = none)
    (rest : List (Said Node)) :
    Leads scripted resolveChain ⟨⟨t, ⟨NodeQuestion.chainId, r⟩ :: rest⟩, m⟩
      [.asked t (.node .chainId) r] r ⟨⟨t, rest⟩, m.learn r⟩ :=
  resolveChain_leads.mpr (.inr ⟨unknown, rfl, rfl, rfl⟩)

theorem chain_told_leads (h : (askChain m.chainId).run.Hears script (.done (.ok id)))
    (rest : List (Said Node)) :
    ∃ es, Leads scripted resolveChain ⟨⟨t, script ++ rest⟩, m⟩ es (.ok id)
      ⟨⟨t, rest⟩, { m with chainId := some id }⟩ ∧ said es = script := by
  rcases askChain_cases h with ⟨_, known, rfl, same⟩ | ⟨unknown, ⟨-, same⟩ | ⟨r, rfl, same⟩⟩
  · cases same
    refine ⟨[], resolveChain_leads.mpr (.inl ⟨id, known, rfl, rfl, ?_⟩), rfl⟩
    rw [← known]
    rfl
  · cases same
  · cases same
    exact ⟨_, chain_leads unknown rest, rfl⟩

theorem fees_leads {r : Except Failure Fees}
    (h : (d.settings.resolveFees o).run.Hears script (.done r)) (rest : List (Said Node)) :
    ∃ es, Leads scripted (attempt (d.settings.resolveFees o)) ⟨⟨t, script ++ rest⟩, m⟩ es r
      ⟨⟨t, rest⟩, m⟩ ∧ said es = script := by
  obtain ⟨es, course, same⟩ := h.leads (t := t) rest
  exact ⟨_, leads_attempt.mpr ⟨es, course, rfl, rfl⟩, same⟩

/-- Asked for one after the other with these answers, chain and fees come to the result, and what is
known of the chain is remembered. -/
def Resolves (d : Dispatcher) (o : Options) (m : Memory) (script : List (Said Node))
    (r : Except Failure (UInt64 × Fees)) (kept : Option UInt64) : Prop :=
  ∃ es, Leads scripted (d.resolve o) ⟨⟨0, script⟩, m⟩ es r ⟨⟨0, []⟩, { m with chainId := kept }⟩ ∧
    said es = script

theorem resolves_told {rest : List (Said Node)} {r : Except Failure Fees}
    (chain : (askChain m.chainId).run.Hears script (.done (.ok id)))
    (prices : (d.settings.resolveFees o).run.Hears rest (.done r)) :
    Resolves d o m (script ++ rest) (r.map fun fees => (id, fees)) (some id) := by
  obtain ⟨es₁, told, same₁⟩ := chain_told_leads (t := 0) chain rest
  obtain ⟨es₂, priced, same₂⟩ := fees_leads (t := 0) (m := { m with chainId := some id }) prices []
  rw [List.append_nil] at priced
  refine ⟨es₁ ++ es₂, leads_bind.mpr (.inr ⟨es₁, id, _, es₂, told, ?_, rfl⟩), ?_⟩
  · cases r with
    | error f => exact leads_bind.mpr (.inl ⟨f, priced, rfl⟩)
    | ok fees =>
      exact leads_bind.mpr (.inr ⟨es₂, fees, _, [], priced, leads_pure.mpr ⟨rfl, rfl, rfl⟩,
        (List.append_nil es₂).symm⟩)
  · rw [said_append, same₁, same₂]

theorem resolves_untold (unknown : m.chainId = none) (f : Failure) :
    Resolves d o m [⟨NodeQuestion.chainId, .error f⟩] (.error f) none := by
  have same : { m with chainId := none } = m := by rw [← unknown]
  refine ⟨[.asked 0 (.node .chainId) (.error f)], ?_, rfl⟩
  rw [same]
  exact leads_bind.mpr (.inl ⟨f, chain_leads unknown [], rfl⟩)

/-- Chain and fees asked for at once come to what they come to one after the other: with the same
answers, or in the run in which the chain fails with the failure that ended both. -/
theorem joined_resolves {heard : List (Said Node)} {r : Except Failure (UInt64 × Fees)}
    (h : (askChain m.chainId).run.Joined (d.settings.resolveFees o).run heard r kept) :
    (∃ script, script.Perm heard ∧ Resolves d o m script r kept) ∨
    ∃ f, r = .error f ∧ Resolves d o m [⟨NodeQuestion.chainId, .error f⟩] r kept := by
  obtain ⟨mine, yours, p, q, first, second, order, ends⟩ := h.split
  cases ends with
  | both id fees => exact .inl ⟨_, order, resolves_told first second⟩
  | first f q =>
    rcases told?_cases first with ⟨_, impossible⟩ | ⟨unknown, -⟩
    · cases impossible
    · exact .inr ⟨f, rfl, resolves_untold unknown f⟩
  | second p f =>
    rcases told?_cases first with ⟨id, rfl⟩ | ⟨unknown, untold⟩
    · exact .inl ⟨_, order, resolves_told first second⟩
    · rw [untold]
      exact .inr ⟨f, rfl, resolves_untold unknown f⟩

example (f : Failure) :
    (askChain none).run.Joined (ExceptT.run Node.gasPrice) [⟨NodeQuestion.gasPrice, .error f⟩]
      (.error f) none :=
  .second nofun (.ended (.second _ f))

theorem joined_failure_proceeds {heard : List (Said Node)}
    (h : (askChain m.chainId).run.Joined (d.settings.resolveFees o).run heard (.error f) kept)
    (call : Call) (dryRun : Option DryRun) :
    ∃ script es, Leads scripted (d.proceed call o dryRun) ⟨⟨0, script⟩, m⟩ es (.error f)
        ⟨⟨0, []⟩, { m with chainId := kept }⟩ ∧ said es = script ∧
      (script.Perm heard ∨ script = [⟨NodeQuestion.chainId, .error f⟩]) := by
  rcases joined_resolves h with ⟨script, order, es, course, same⟩ | ⟨_, failed, es, course, same⟩
  · exact ⟨script, es, proceed_of_unresolved course, same, .inl order⟩
  · cases failed
    exact ⟨_, es, proceed_of_unresolved course, same, .inr rfl⟩

end
end Dispatch
