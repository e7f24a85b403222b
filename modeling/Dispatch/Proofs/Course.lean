import Dispatch.Submission

/-!
# Courses of programs

A course of a program is one way in which it can go in an environment: from a moment, through the
questions asked and the sleeps taken, to a result and another moment. The courses of a composed
program are those of its parts, one after the other, so what a program can ask is read off its
parts. A step of a submission has courses of its own, which also carry the memory.
-/

set_option autoImplicit false

namespace Dispatch

namespace Program

variable {I : Interface} {α β σ : Type} {env : Environment I σ}

theorem run_bind (env : Environment I σ) (p : Program I α) (f : α → Program I β) (t : Nat) (s : σ) :
    (p.bind f).run env t s =
      let first := p.run env t s
      let rest := (f first.result).run env first.time first.state
      { rest with events := first.events ++ rest.events } := by
  induction p generalizing t s with
  | done a => rfl
  | ask q next ih => simp only [bind, run, ih, List.cons_append]
  | sleep d next ih => simp only [bind, run, ih, List.cons_append]
  | clock next ih => exact ih t t s

/-- The time and the state in which an environment is asked next. -/
structure Moment (σ : Type) where
  time : Nat
  state : σ

def Moment.after (env : Environment I σ) (u : Moment σ) (q : I.Question) : Moment σ :=
  ⟨(env q u.time u.state).time, (env q u.time u.state).state⟩

/-- From `u` the program goes through `es` to the result `a` at `v`. -/
def Leads (env : Environment I σ) (p : Program I α) (u : Moment σ) (es : List (Event I)) (a : α)
    (v : Moment σ) : Prop :=
  p.run env u.time u.state = ⟨a, es, v.time, v.state⟩

section
variable {p : Program I α} {u v : Moment σ} {es : List (Event I)} {a b : α} {c : β}

theorem leads_run (env : Environment I σ) (p : Program I α) (u : Moment σ) :
    let r := p.run env u.time u.state
    p.Leads env u r.events r.result ⟨r.time, r.state⟩ := rfl

@[simp] theorem leads_done : (done a).Leads env u es b v ↔ es = [] ∧ b = a ∧ v = u := by
  obtain ⟨_, _⟩ := u
  obtain ⟨_, _⟩ := v
  simp only [Leads, run, Run.mk.injEq, Moment.mk.injEq]
  grind

theorem leads_ask {q : I.Question} {next : I.Answer q → Program I α} :
    (ask q next).Leads env u es a v ↔
      ∃ rest, es = .asked u.time q (env q u.time u.state).answer :: rest ∧
        (next (env q u.time u.state).answer).Leads env (u.after env q) rest a v := by
  constructor
  · intro h
    obtain ⟨ha, hes, ht, hs⟩ := Run.mk.inj h
    exact ⟨_, hes.symm, Run.ext ha rfl ht hs⟩
  · rintro ⟨rest, rfl, h⟩
    simp only [Leads, Moment.after] at h
    simp only [Leads, run, h]

theorem leads_ask_done {q : I.Question} {f : I.Answer q → α} :
    (ask q fun answer => done (f answer)).Leads env u es a v ↔
      a = f (env q u.time u.state).answer ∧ es = [.asked u.time q (env q u.time u.state).answer] ∧
        v = u.after env q := by
  simp only [leads_ask, leads_done]
  constructor
  · rintro ⟨_, rfl, rfl, rfl, rfl⟩
    exact ⟨rfl, rfl, rfl⟩
  · rintro ⟨rfl, rfl, rfl⟩
    exact ⟨[], rfl, rfl, rfl, rfl⟩

theorem leads_sleep {d : Duration} {next : Program I α} :
    (sleep d next).Leads env u es a v ↔
      ∃ rest, es = .slept u.time d :: rest ∧
        next.Leads env ⟨u.time + d.nanos, u.state⟩ rest a v := by
  constructor
  · intro h
    obtain ⟨ha, hes, ht, hs⟩ := Run.mk.inj h
    exact ⟨_, hes.symm, Run.ext ha rfl ht hs⟩
  · rintro ⟨rest, rfl, h⟩
    simp only [Leads] at h
    simp only [Leads, run, h]

theorem leads_clock {next : Nat → Program I α} :
    (clock next).Leads env u es a v ↔ (next u.time).Leads env u es a v := Iff.rfl

theorem leads_now {t : Nat} :
    (now (I := I)).Leads env u es t v ↔ es = [] ∧ t = u.time ∧ v = u := by
  rw [now, leads_clock, leads_done]

theorem leads_bind {f : α → Program I β} :
    (p.bind f).Leads env u es c v ↔
      ∃ es₁ a w es₂, p.Leads env u es₁ a w ∧ (f a).Leads env w es₂ c v ∧ es = es₁ ++ es₂ := by
  constructor
  · intro h
    rw [Leads, run_bind] at h
    obtain ⟨hc, hes, ht, hs⟩ := Run.mk.inj h
    exact ⟨_, _, _, _, leads_run env p u, Run.ext hc rfl ht hs, hes.symm⟩
  · rintro ⟨es₁, a, w, es₂, hp, hf, rfl⟩
    simp only [Leads] at hp hf
    simp only [Leads, run_bind, hp, hf]

theorem leads_bind_done {f : α → β} :
    (p.bind fun a => .done (f a)).Leads env u es c v ↔ ∃ a, p.Leads env u es a v ∧ c = f a := by
  rw [leads_bind]
  constructor
  · rintro ⟨es₁, a, w, es₂, hp, hf, rfl⟩
    obtain ⟨rfl, rfl, rfl⟩ := leads_done.mp hf
    exact ⟨a, by rwa [List.append_nil], rfl⟩
  · rintro ⟨a, hp, rfl⟩
    exact ⟨es, a, v, [], hp, leads_done.mpr ⟨rfl, rfl, rfl⟩, (List.append_nil es).symm⟩

theorem leads_since {start : Nat} {d : Duration} :
    (since (I := I) start).Leads env u es d v ↔
      es = [] ∧ d = .ofNanos (u.time - start) ∧ v = u := by
  change (now.bind fun t => .done (.ofNanos (t - start))).Leads env u es d v ↔ _
  simp only [leads_bind_done, leads_now]
  grind

end

/-! ## Programs that may fail -/

section
variable {ε : Type} {p : ExceptT ε (Program I) α} {u v : Moment σ} {es : List (Event I)}
  {r : Except ε α} {r' : Except ε β}

theorem leads_except_pure {a : α} :
    Leads env (pure a : ExceptT ε (Program I) α).run u es r v ↔ es = [] ∧ r = .ok a ∧ v = u :=
  leads_done

theorem leads_except_throw {e : ε} :
    Leads env (throw e : ExceptT ε (Program I) α).run u es r v ↔ es = [] ∧ r = .error e ∧ v = u :=
  leads_done

theorem leads_except_bind {f : α → ExceptT ε (Program I) β} :
    Leads env (p >>= f).run u es r' v ↔
      (∃ e, Leads env p.run u es (.error e) v ∧ r' = .error e) ∨
      ∃ es₁ a w es₂, Leads env p.run u es₁ (.ok a) w ∧ Leads env (f a).run w es₂ r' v ∧
        es = es₁ ++ es₂ := by
  refine leads_bind.trans ?_
  constructor
  · rintro ⟨es₁, e | a, w, es₂, hp, hf, rfl⟩
    · obtain ⟨rfl, rfl, rfl⟩ := leads_done.mp hf
      exact .inl ⟨e, by rwa [List.append_nil], rfl⟩
    · exact .inr ⟨es₁, a, w, es₂, hp, hf, rfl⟩
  · rintro (⟨e, hp, rfl⟩ | ⟨es₁, a, w, es₂, hp, hf, rfl⟩)
    · exact ⟨es, _, _, [], hp, leads_done.mpr ⟨rfl, rfl, rfl⟩, by simp⟩
    · exact ⟨es₁, _, w, es₂, hp, hf, rfl⟩

theorem leads_except_lift {p : Program I α} :
    Leads env (ExceptT.lift p : ExceptT ε (Program I) α).run u es r v ↔
      ∃ a, p.Leads env u es a v ∧ r = .ok a :=
  leads_bind_done

theorem leads_except_lift_bind {p : Program I α} {f : α → ExceptT ε (Program I) β} :
    Leads env (ExceptT.lift p >>= f).run u es r' v ↔
      ∃ es₁ a w es₂, p.Leads env u es₁ a w ∧ Leads env (f a).run w es₂ r' v ∧ es = es₁ ++ es₂ := by
  simp only [leads_except_bind, leads_except_lift]
  constructor
  · rintro (⟨e, ⟨a, -, he⟩, -⟩ | ⟨es₁, a, w, es₂, ⟨a', hp, ha⟩, hf, rfl⟩)
    · cases he
    · cases ha
      exact ⟨es₁, a, w, es₂, hp, hf, rfl⟩
  · rintro ⟨es₁, a, w, es₂, hp, hf, rfl⟩
    exact .inr ⟨es₁, a, w, es₂, ⟨a, hp, rfl⟩, hf, rfl⟩

end

section
variable {ε : Type} {u v : Moment σ} {es : List (Event I)} {r : Except ε α}

theorem leads_now_bind {f : Nat → ExceptT ε (Program I) α} :
    Leads env (ExceptT.lift now >>= f).run u es r v ↔ Leads env (f u.time).run u es r v := Iff.rfl

theorem leads_since_bind {start : Nat} {f : Duration → ExceptT ε (Program I) α} :
    Leads env (ExceptT.lift (since start) >>= f).run u es r v ↔
      Leads env (f (.ofNanos (u.time - start))).run u es r v := Iff.rfl

theorem leads_pause_bind {d : Duration} {f : Unit → ExceptT ε (Program I) α} :
    Leads env (ExceptT.lift (pause d) >>= f).run u es r v ↔
      ∃ rest, es = .slept u.time d :: rest ∧
        Leads env (f ()).run ⟨u.time + d.nanos, u.state⟩ rest r v :=
  leads_sleep

end

/-! ## Programs that may fail and keep a state -/

section
variable {ε τ : Type} {p : ExceptT ε (StateT τ (Program I)) α} {u v : Moment σ}
  {es : List (Event I)} {s s' : τ} {r : Except ε β}

theorem leads_state_bind {f : α → ExceptT ε (StateT τ (Program I)) β} :
    Leads env ((p >>= f).run.run s) u es (r, s') v ↔
      (∃ e, Leads env (p.run.run s) u es (.error e, s') v ∧ r = .error e) ∨
      ∃ es₁ a m w es₂, Leads env (p.run.run s) u es₁ (.ok a, m) w ∧
        Leads env ((f a).run.run m) w es₂ (r, s') v ∧ es = es₁ ++ es₂ := by
  refine leads_bind.trans ?_
  constructor
  · rintro ⟨es₁, ⟨e | a, m⟩, w, es₂, hp, hf, rfl⟩
    · obtain ⟨rfl, hr, rfl⟩ := leads_done.mp hf
      obtain ⟨rfl, rfl⟩ := Prod.mk.inj hr
      exact .inl ⟨e, by rwa [List.append_nil], rfl⟩
    · exact .inr ⟨es₁, a, m, w, es₂, hp, hf, rfl⟩
  · rintro (⟨e, hp, rfl⟩ | ⟨es₁, a, m, w, es₂, hp, hf, rfl⟩)
    · exact ⟨es, _, _, [], hp, leads_done.mpr ⟨rfl, rfl, rfl⟩, by simp⟩
    · exact ⟨es₁, _, _, es₂, hp, hf, rfl⟩

theorem Leads.state_bind {f : α → ExceptT ε (StateT τ (Program I)) β} {a : α} {m : τ} {w : Moment σ}
    {es' : List (Event I)} (h : Leads env (p.run.run s) u es (.ok a, m) w)
    (h' : Leads env ((f a).run.run m) w es' (r, s') v) :
    Leads env ((p >>= f).run.run s) u (es ++ es') (r, s') v :=
  leads_state_bind.mpr (.inr ⟨es, a, m, w, es', h, h', rfl⟩)

theorem leads_state_adapt {ε' : Type} {f : ε → ε'} {a : α}
    (h : Leads env (p.run.run s) u es (.ok a, s') v) :
    Leads env ((ExceptT.adapt f p).run.run s) u es (.ok a, s') v :=
  leads_bind_done.mpr ⟨_, h, rfl⟩

end

/-! ## What can be asked -/

/-- Whatever the answers, the program asks only questions with the property. -/
def Only (P : I.Question → Prop) : Program I α → Prop
  | .done _ => True
  | .ask q next => P q ∧ ∀ a, (next a).Only P
  | .sleep _ next => next.Only P
  | .clock next => ∀ t, (next t).Only P

def Event.Within (P : I.Question → Prop) : Event I → Prop
  | .asked _ q _ => P q
  | .slept _ _ => True

section
variable {P Q : I.Question → Prop} {p : Program I α} {u v : Moment σ} {es : List (Event I)} {a : α}

theorem Only.mono (hp : p.Only P) (h : ∀ q, P q → Q q) : p.Only Q := by
  induction p with
  | done a => trivial
  | ask q next ih => exact ⟨h q hp.1, fun a => ih a (hp.2 a)⟩
  | sleep d next ih => exact ih hp
  | clock next ih => exact fun t => ih t (hp t)

theorem Only.bind {f : α → Program I β} (hp : p.Only P) (hf : ∀ a, (f a).Only P) :
    (p.bind f).Only P := by
  induction p with
  | done a => exact hf a
  | ask q next ih => exact ⟨hp.1, fun a => ih a (hp.2 a)⟩
  | sleep d next ih => exact ih hp
  | clock next ih => exact fun t => ih t (hp t)

theorem Only.bindExcept {ε : Type} {p : ExceptT ε (Program I) α} {f : α → ExceptT ε (Program I) β}
    (hp : Only P p.run) (hf : ∀ a, Only P (f a).run) : Only P (p >>= f).run :=
  Only.bind hp fun
    | .ok a => hf a
    | .error _ => trivial

theorem Only.liftExcept {ε : Type} {p : Program I α} (hp : p.Only P) :
    Only P (ExceptT.run (ε := ε) (ExceptT.lift p)) := Only.bind hp fun _ => trivial

theorem Leads.within (h : p.Leads env u es a v) (hp : p.Only P) : ∀ e ∈ es, e.Within P := by
  induction p generalizing u es with
  | done b =>
    obtain ⟨rfl, -, -⟩ := leads_done.mp h
    simp
  | ask q next ih =>
    obtain ⟨rest, rfl, hr⟩ := leads_ask.mp h
    exact List.forall_mem_cons.mpr ⟨hp.1, ih _ hr (hp.2 _)⟩
  | sleep d next ih =>
    obtain ⟨rest, rfl, hr⟩ := leads_sleep.mp h
    exact List.forall_mem_cons.mpr ⟨trivial, ih hr hp⟩
  | clock next ih => exact ih _ (leads_clock.mp h) (hp _)

end

/-! ## The node at the desk -/

def Event.atDesk : Event Node → Event Desk
  | .asked t q a => .asked t (.node q) a
  | .slept t d => .slept t d

def Environment.node (env : Environment Desk σ) : Environment Node σ := fun q t s =>
  let reply := env (DeskQuestion.node q) t s
  ⟨reply.answer, reply.state, reply.time⟩

theorem run_atDesk (env : Environment Desk σ) (p : Program Node α) (t : Nat) (s : σ) :
    p.atDesk.run env t s =
      let r := p.run env.node t s
      ⟨r.result, r.events.map Event.atDesk, r.time, r.state⟩ := by
  induction p generalizing t s with
  | done a => rfl
  | ask q next ih =>
    exact congrArg (fun r : Run Desk σ α =>
      { r with events := .asked t (DeskQuestion.node q) (env.node q t s).answer :: r.events })
        (ih _ _ _)
  | sleep d next ih =>
    exact congrArg (fun r : Run Desk σ α => { r with events := .slept t d :: r.events }) (ih _ _)
  | clock next ih => exact ih _ _ _

theorem leads_atDesk {env : Environment Desk σ} {p : Program Node α} {u v : Moment σ}
    {es : List (Event Desk)} {a : α} :
    p.atDesk.Leads env u es a v ↔
      ∃ asked, p.Leads env.node u asked a v ∧ es = asked.map Event.atDesk := by
  rw [Leads, run_atDesk]
  constructor
  · intro h
    obtain ⟨ha, hes, ht, hs⟩ := Run.mk.inj h
    exact ⟨_, Run.ext ha rfl ht hs, hes.symm⟩
  · rintro ⟨asked, h, rfl⟩
    simp only [Leads] at h
    simp only [h]

end Program

/-! ## Steps -/

open Program

/-- A moment of the desk with what the submissions until then have left. -/
@[ext]
structure Scene (σ : Type) extends Moment σ where
  memory : Memory

def Scene.after {σ : Type} (env : Environment Desk σ) (u : Scene σ) (q : DeskQuestion) : Scene σ :=
  { u with toMoment := u.toMoment.after env q }

namespace Step

variable {α β σ : Type} {env : Environment Desk σ}

def enact (env : Environment Desk σ) (p : Step α) (u : Scene σ) :
    Run Desk σ (Except Failure α × Memory) :=
  (p.run.run u.memory).run env u.time u.state

def arrive (env : Environment Desk σ) (p : Step α) (u : Scene σ) : Scene σ :=
  let e := enact env p u
  ⟨⟨e.time, e.state⟩, e.result.2⟩

/-- From `u` the step goes through `es` to the result `r` at `v`. -/
def Leads (env : Environment Desk σ) (p : Step α) (u : Scene σ) (es : List (Event Desk))
    (r : Except Failure α) (v : Scene σ) : Prop :=
  Program.Leads env (p.run.run u.memory) u.toMoment es (r, v.memory) v.toMoment

section
variable {p : Step α} {u v : Scene σ} {es : List (Event Desk)} {r : Except Failure α}
  {r' : Except Failure β} {a : α}

theorem leads_enact (env : Environment Desk σ) (p : Step α) (u : Scene σ) :
    Leads env p u (enact env p u).events (enact env p u).result.1 (arrive env p u) := rfl

theorem Leads.unique {es' : List (Event Desk)} {s : Except Failure α} {w : Scene σ}
    (h : Leads env p u es r v) (h' : Leads env p u es' s w) : es = es' ∧ r = s ∧ v = w := by
  obtain ⟨hr, hes, ht, hs⟩ := Run.mk.inj (h.symm.trans h')
  obtain ⟨hr, hm⟩ := Prod.mk.inj hr
  exact ⟨hes, hr, Scene.ext ht hs hm⟩

theorem Leads.events_eq (h : Leads env p u es r v) : (enact env p u).events = es :=
  congrArg Run.events h

theorem leads_result {x : Except Failure α} :
    Leads env (ExceptT.mk (pure x)) u es r v ↔ es = [] ∧ r = x ∧ v = u := by
  obtain ⟨_, _⟩ := u
  obtain ⟨_, _⟩ := v
  refine leads_done.trans ?_
  simp only [Prod.mk.injEq, Scene.mk.injEq]
  grind

theorem leads_pure : Leads env (pure a) u es r v ↔ es = [] ∧ r = .ok a ∧ v = u := leads_result

theorem leads_throw {f : Failure} :
    Leads env (throw f : Step α) u es r v ↔ es = [] ∧ r = .error f ∧ v = u := leads_result

theorem leads_bind {f : α → Step β} :
    Leads env (p >>= f) u es r' v ↔
      (∃ e, Leads env p u es (.error e) v ∧ r' = .error e) ∨
      ∃ es₁ a w es₂, Leads env p u es₁ (.ok a) w ∧ Leads env (f a) w es₂ r' v ∧
        es = es₁ ++ es₂ := by
  refine leads_state_bind.trans (or_congr Iff.rfl ?_)
  constructor
  · rintro ⟨es₁, a, m, w, es₂, hp, hf, rfl⟩
    exact ⟨es₁, a, ⟨w, m⟩, es₂, hp, hf, rfl⟩
  · rintro ⟨es₁, a, w, es₂, hp, hf, rfl⟩
    exact ⟨es₁, a, w.memory, w.toMoment, es₂, hp, hf, rfl⟩

theorem exists_leads_bind {f : α → Step β} {w : Scene σ} (first : ∃ es, Leads env p u es (.ok a) w)
    (rest : ∃ es, Leads env (f a) w es r' v) : ∃ es, Leads env (p >>= f) u es r' v := by
  obtain ⟨es₁, first⟩ := first
  obtain ⟨es₂, rest⟩ := rest
  exact ⟨es₁ ++ es₂, leads_bind.mpr (.inr ⟨es₁, a, w, es₂, first, rest, rfl⟩)⟩

theorem leads_map {f : α → β} :
    Leads env (f <$> p) u es r' v ↔ ∃ r, Leads env p u es r v ∧ r' = r.map f := by
  refine (Program.leads_bind (p := p.run.run u.memory)).trans ?_
  constructor
  · rintro ⟨es₁, ⟨e | a, m⟩, w, es₂, hp, hf, rfl⟩ <;>
      obtain ⟨rfl, hr, rfl⟩ := leads_done.mp hf <;> obtain ⟨rfl, rfl⟩ := Prod.mk.inj hr
    · exact ⟨_, by rwa [List.append_nil], rfl⟩
    · exact ⟨_, by rwa [List.append_nil], rfl⟩
  · rintro ⟨e | a, hp, rfl⟩
    · exact ⟨es, _, _, [], hp, leads_done.mpr ⟨rfl, rfl, rfl⟩, by simp⟩
    · exact ⟨es, _, _, [], hp, leads_done.mpr ⟨rfl, rfl, rfl⟩, by simp⟩

theorem leads_tryCatch {f : Failure → Step α} :
    Leads env (tryCatch p f) u es r v ↔
      (∃ a, Leads env p u es (.ok a) v ∧ r = .ok a) ∨
      ∃ es₁ e w es₂, Leads env p u es₁ (.error e) w ∧ Leads env (f e) w es₂ r v ∧
        es = es₁ ++ es₂ := by
  refine (Program.leads_bind (p := p.run.run u.memory)).trans ?_
  constructor
  · rintro ⟨es₁, ⟨e | a, m⟩, w, es₂, hp, hf, rfl⟩
    · exact .inr ⟨es₁, e, ⟨w, m⟩, es₂, hp, hf, rfl⟩
    · obtain ⟨rfl, hr, rfl⟩ := leads_done.mp hf
      obtain ⟨rfl, rfl⟩ := Prod.mk.inj hr
      exact .inl ⟨a, by rwa [List.append_nil], rfl⟩
  · rintro (⟨a, hp, rfl⟩ | ⟨es₁, e, w, es₂, hp, hf, rfl⟩)
    · exact ⟨es, _, _, [], hp, leads_done.mpr ⟨rfl, rfl, rfl⟩, by simp⟩
    · exact ⟨es₁, _, _, es₂, hp, hf, rfl⟩

theorem leads_get_bind {f : Memory → Step α} :
    Leads env (get >>= f) u es r v ↔ Leads env (f u.memory) u es r v := Iff.rfl

theorem leads_modify {f : Memory → Memory} {r : Except Failure Unit} :
    Leads env (modify f : Step Unit) u es r v ↔
      es = [] ∧ r = .ok () ∧ v = { u with memory := f u.memory } := by
  obtain ⟨_, _⟩ := u
  obtain ⟨_, _⟩ := v
  refine leads_done.trans ?_
  simp only [Prod.mk.injEq, Scene.mk.injEq]
  grind

/-! ## Asking from a step -/

theorem leads_consult {p : Program Node α} :
    Leads env (Dispatcher.consult p) u es r v ↔
      ∃ asked a, p.Leads env.node u.toMoment asked a v.toMoment ∧
        es = asked.map Event.atDesk ∧ r = .ok a ∧ v.memory = u.memory := by
  refine (Program.leads_bind_done (p := p.atDesk.bind fun a => .done (a, u.memory))).trans ?_
  simp only [Program.leads_bind_done, leads_atDesk]
  constructor
  · rintro ⟨_, ⟨a, ⟨asked, hp, rfl⟩, rfl⟩, hr⟩
    obtain ⟨rfl, hm⟩ := Prod.mk.inj hr
    exact ⟨asked, a, hp, rfl, rfl, hm⟩
  · rintro ⟨asked, a, hp, rfl, rfl, hm⟩
    exact ⟨_, ⟨a, ⟨asked, hp, rfl⟩, rfl⟩, by rw [hm]⟩

theorem leads_consult_now {r : Except Failure Nat} :
    Leads env (Dispatcher.consult Program.now) u es r v ↔ es = [] ∧ r = .ok u.time ∧ v = u := by
  obtain ⟨_, _⟩ := u
  obtain ⟨_, _⟩ := v
  simp only [leads_consult, leads_now, Scene.mk.injEq]
  grind

theorem leads_consult_since {start : Nat} {r : Except Failure Duration} :
    Leads env (Dispatcher.consult (Program.since start)) u es r v ↔
      es = [] ∧ r = .ok (.ofNanos (u.time - start)) ∧ v = u := by
  obtain ⟨_, _⟩ := u
  obtain ⟨_, _⟩ := v
  simp only [leads_consult, leads_since, Scene.mk.injEq]
  grind

theorem leads_attempt {p : Task Node α} :
    Leads env (Dispatcher.attempt p) u es r v ↔
      ∃ asked, Program.Leads env.node p.run u.toMoment asked r v.toMoment ∧
        es = asked.map Event.atDesk ∧ v.memory = u.memory := by
  refine (Program.leads_bind (p := Program.atDesk p.run)).trans ?_
  simp only [leads_atDesk]
  constructor
  · rintro ⟨_, x, w, es₂, ⟨asked, hp, rfl⟩, hr, rfl⟩
    obtain ⟨rfl, hrm, rfl⟩ := leads_done.mp hr
    obtain ⟨rfl, hm⟩ := Prod.mk.inj hrm
    exact ⟨asked, hp, by simp, hm⟩
  · rintro ⟨asked, hp, rfl, hm⟩
    exact ⟨_, _, _, [], ⟨asked, hp, rfl⟩, leads_done.mpr ⟨rfl, by rw [hm], rfl⟩, by simp⟩

theorem leads_question {q : DeskQuestion} {f : Desk.Answer q → Except Failure α} :
    Leads env (ExceptT.mk (StateT.lift (.ask (I := Desk) q fun answer => .done (f answer))))
      u es r v ↔
      r = f (env q u.time u.state).answer ∧ es = [.asked u.time q (env q u.time u.state).answer] ∧
        v = u.after env q := by
  obtain ⟨_, _⟩ := u
  obtain ⟨_, _⟩ := v
  refine leads_ask_done.trans ?_
  simp only [Scene.after, Scene.mk.injEq, Prod.mk.injEq]
  grind

theorem leads_send {tx : Draft} {hints : Hints} {r : Except Failure Handle} :
    Leads env (Dispatcher.send tx hints) u es r v ↔
      r = (env (.send tx hints) u.time u.state).answer ∧ es = [.asked u.time (.send tx hints) r] ∧
        v = u.after env (.send tx hints) := by
  refine (leads_question (q := .send tx hints) (f := fun answer => answer)).trans ?_
  constructor <;> rintro ⟨rfl, rfl, rfl⟩ <;> exact ⟨rfl, rfl, rfl⟩

theorem leads_wait {handle : Handle} {bounds : WaitBounds} {r : Except Failure Receipt} :
    Leads env (Dispatcher.wait handle bounds) u es r v ↔
      r = (env (.wait handle bounds) u.time u.state).answer ∧
        es = [.asked u.time (.wait handle bounds) r] ∧ v = u.after env (.wait handle bounds) := by
  refine (leads_question (q := .wait handle bounds) (f := fun answer => answer)).trans ?_
  constructor <;> rintro ⟨rfl, rfl, rfl⟩ <;> exact ⟨rfl, rfl, rfl⟩

theorem leads_attempt_ask {q : NodeQuestion} {f : Node.Answer q → Except Failure α} :
    Leads env (Dispatcher.attempt (.ask (I := Node) q fun answer => .done (f answer))) u es r v ↔
      r = f (env (.node q) u.time u.state).answer ∧
        es = [.asked u.time (.node q) (env (.node q) u.time u.state).answer] ∧
        v = u.after env (.node q) := by
  obtain ⟨_, _⟩ := u
  obtain ⟨_, _⟩ := v
  simp only [leads_attempt]
  constructor
  · rintro ⟨asked, h, rfl, rfl⟩
    obtain ⟨rfl, rfl, rfl⟩ := leads_ask_done.mp h
    exact ⟨rfl, rfl, rfl⟩
  · rintro ⟨rfl, rfl, h⟩
    obtain ⟨rfl, rfl⟩ := Scene.mk.inj h
    exact ⟨_, leads_ask_done.mpr ⟨rfl, rfl, rfl⟩, rfl, rfl⟩

end

end Step

end Dispatch
