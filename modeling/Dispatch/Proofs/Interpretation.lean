import Dispatch.Proofs.Deadlines

/-!
# Courses of programs run through others

Where each question of a program is answered by another program, the whole goes through the events
of the first with every question replaced by the events of its answer. What the first asks in some
order, the whole answers in that order.
-/

set_option autoImplicit false

namespace Dispatch

namespace Program

variable {I J : Interface} {α σ τ : Type} {answer : (q : I.Question) → σ →
  Program J (I.Answer q × σ)}
  {env : Environment J τ}

theorem Leads.ask {env : Environment I σ} {q : I.Question} {next : I.Answer q → Program I α}
    {a : I.Answer q} {u w v : Moment σ} {es : List (Event I)} {x : α}
    (answered : env q u.time u.state = ⟨a, w.state, w.time⟩) (rest : (next a).Leads env w es x v) :
    (ask q next).Leads env u (.asked u.time q a :: es) x v := by
  refine leads_ask.mpr ⟨es, ?_, ?_⟩
  · rw [answered]
  · rw [Moment.after, answered]
    exact rest

/-- The events of a program, and those of the whole when each of its questions is answered by a
program. -/
inductive Expands (answer : (q : I.Question) → σ → Program J (I.Answer q × σ))
    (env : Environment J τ) :
    List (Event I) → List (Event J) → Prop
  | nil : Expands answer env [] []
  | asked {q : I.Question} {a : I.Answer q} {s s' : σ} {u v : Moment τ}
      {course es' : List (Event J)}
      {es : List (Event I)} (answered : (answer q s).Leads env u course (a, s') v)
      (rest : Expands answer env es es') :
      Expands answer env (.asked u.time q a :: es) (course ++ es')
  | slept {t : Nat} {d : Duration} {es : List (Event I)} {es' : List (Event J)}
      (rest : Expands answer env es es') :
      Expands answer env (.slept t d :: es) (.slept t d :: es')

theorem answering_eq {q : I.Question} {a : I.Answer q} {s s' : σ} {u v : Moment τ}
    {course : List (Event J)} (h : (answer q s).Leads env u course (a, s') v) :
    env.answering answer q u.time (s, u.state) = ⟨a, (s', v.state), v.time⟩ := by
  simp only [Leads] at h
  simp only [Environment.answering, h]

theorem leads_interpret {p : Program I α} {s s' : σ} {u v : Moment τ} {es : List (Event J)} {a : α}
    (h : (p.interpret answer s).Leads env u es (a, s') v) :
    ∃ asked, p.Leads (env.answering answer) ⟨u.time, s, u.state⟩ asked a ⟨v.time, s', v.state⟩ ∧
      Expands answer env asked es := by
  induction p generalizing s u es with
  | done b =>
    obtain ⟨rfl, result, rfl⟩ := leads_done.mp h
    cases result
    exact ⟨[], leads_done.mpr ⟨rfl, rfl, rfl⟩, .nil⟩
  | ask q next ih =>
    obtain ⟨course, ⟨b, s₁⟩, w, rest, answered, left, rfl⟩ := leads_bind.mp h
    obtain ⟨asked, goes, expands⟩ := ih b left
    refine ⟨.asked u.time q b :: asked, leads_ask.mpr ⟨asked, ?_, ?_⟩, .asked answered expands⟩
    · rw [answering_eq answered]
    · rw [Moment.after, answering_eq answered]
      exact goes
  | sleep d next ih =>
    obtain ⟨rest, rfl, left⟩ := leads_sleep.mp h
    obtain ⟨asked, goes, expands⟩ := ih left
    exact ⟨.slept u.time d :: asked, leads_sleep.mpr ⟨asked, rfl, goes⟩, .slept expands⟩
  | clock next ih => exact ih _ (leads_clock.mp h)

/-- What a program does where its questions are answered by programs, it does when it is run through
these. -/
theorem Leads.interpret {p : Program I α} {s s' : σ} {t t' : Nat} {e e' : τ}
    {asked : List (Event I)} {a : α}
    (h : p.Leads (env.answering answer) ⟨t, s, e⟩ asked a ⟨t', s', e'⟩) :
    ∃ es, (p.interpret answer s).Leads env ⟨t, e⟩ es (a, s') ⟨t', e'⟩ ∧
      Expands answer env asked es := by
  obtain ⟨es, ⟨b, s₁⟩, ⟨t₁, e₁⟩, course⟩ :
    ∃ es r w, (p.interpret answer s).Leads env ⟨t, e⟩ es r w :=
    ⟨_, _, _, leads_run env (p.interpret answer s) ⟨t, e⟩⟩
  obtain ⟨asked', goes, expands⟩ := leads_interpret course
  obtain ⟨rfl, rfl, time, state⟩ := Run.mk.inj (h.symm.trans goes)
  cases time
  cases state
  exact ⟨es, course, expands⟩

namespace Expands

theorem sublist {es l : List (Event I)} {es' : List (Event J)} (h : Expands answer env es es')
    (part : l.Sublist es) : ∃ l', l'.Sublist es' ∧ Expands answer env l l' := by
  induction h generalizing l with
  | nil =>
    cases part
    exact ⟨[], .slnil, .nil⟩
  | @asked _ _ _ _ _ _ course _ _ answered rest ih =>
    cases part with
    | cons _ part =>
      obtain ⟨l', within, expands⟩ := ih part
      exact ⟨l', within.trans (List.sublist_append_right _ _), expands⟩
    | cons_cons _ part =>
      obtain ⟨l', within, expands⟩ := ih part
      exact ⟨course ++ l', (List.Sublist.refl course).append within, .asked answered expands⟩
  | slept rest ih =>
    cases part with
    | cons _ part =>
      obtain ⟨l', within, expands⟩ := ih part
      exact ⟨l', within.cons _, expands⟩
    | cons_cons _ part =>
      obtain ⟨l', within, expands⟩ := ih part
      exact ⟨_ :: l', within.cons_cons _, .slept expands⟩

theorem in_order {es : List (Event I)} {es' : List (Event J)} {t t' : Nat} {q q' : I.Question}
    {a : I.Answer q} {a' : I.Answer q'} (h : Expands answer env es es')
    (order : [Event.asked t q a, Event.asked t' q' a'].Sublist es) :
    ∃ c c', (c ++ c').Sublist es' ∧ (∃ s s₁ u v, (answer q s).Leads env u c (a, s₁) v) ∧
      ∃ s s₁ u v, (answer q' s).Leads env u c' (a', s₁) v := by
  obtain ⟨l', within, expands⟩ := h.sublist order
  cases expands with
  | @asked _ _ _ _ _ _ c _ _ answered rest =>
    cases rest with
    | @asked _ _ _ _ _ _ c' _ _ answered' rest =>
      cases rest
      rw [List.append_nil] at within
      exact ⟨c, c', within, ⟨_, _, _, _, answered⟩, ⟨_, _, _, _, answered'⟩⟩

end Expands

/-! ## The node outside -/

def Event.outside : Event Node → Event Outside
  | .asked t q a => .asked t (.node q) a
  | .slept t d => .slept t d

theorem outsideNode_eq {env : Environment Outside τ} {q : NodeQuestion} {a : q.Answer} {t t' : Nat}
    {e e' : τ} (h : env (.node q) t e = ⟨a, e', t'⟩) : env.outsideNode q t e = ⟨a, e', t'⟩ := by
  simp only [Environment.outsideNode, h]

theorem run_toOutside (env : Environment Outside τ) (p : Program Node α) (t : Nat) (e : τ) :
    p.toOutside.run env t e =
      let r := p.run env.outsideNode t e
      ⟨r.result, r.events.map Event.outside, r.time, r.state⟩ := by
  induction p generalizing t e with
  | done a => rfl
  | ask q next ih =>
    exact congrArg (fun r : Run Outside τ α =>
      { r with events := .asked t (OutsideQuestion.node q) (env.outsideNode q t e).answer ::
        r.events }) (ih _ _ _)
  | sleep d next ih =>
    exact congrArg (fun r : Run Outside τ α => { r with events := .slept t d :: r.events }) (ih _ _)
  | clock next ih => exact ih _ _ _

theorem leads_toOutside {env : Environment Outside τ} {p : Program Node α} {u v : Moment τ}
    {es : List (Event Outside)} {a : α} :
    p.toOutside.Leads env u es a v ↔ ∃ asked, p.Leads env.outsideNode u asked a v ∧
      es = asked.map Event.outside := by
  rw [Leads, run_toOutside]
  constructor
  · intro h
    obtain ⟨ha, hes, ht, hs⟩ := Run.mk.inj h
    exact ⟨_, Run.ext ha rfl ht hs, hes.symm⟩
  · rintro ⟨asked, h, rfl⟩
    simp only [Leads] at h
    simp only [h]

end Program

open Program (Environment Event Moment)

theorem Action.leads_ofNode {σ τ α : Type} {env : Environment Outside τ} {t : Task Node α}
    {s s' : σ} {u v : Moment τ} {es : List (Event Outside)} {r : Except Failure α} :
    Leads env (ofNode t) s u es r s' v ↔
      (∃ asked, Program.Leads env.outsideNode t.run u asked r v ∧ es = asked.map Event.outside) ∧
        s' = s :=
  leads_ofTask.trans (and_congr_left fun _ => Program.leads_toOutside)

/-- What a step does through a wallet it does at the wallet's desk, where the wallet answers. -/
theorem leads_through {σ τ α : Type} {b : Backend σ} {env : Environment Outside τ} {step : Step α}
    {s s' : σ} {memory memory' : Memory} {u v : Moment τ} {es : List (Event Outside)}
    {r : Except Failure α}
    (h : Action.Leads env (Dispatcher.through b step) (memory, s) u es r (memory', s') v) :
    ∃ asked, Step.Leads (b.desk env) step ⟨⟨u.time, s, u.state⟩, memory⟩ asked r
      ⟨⟨v.time, s', v.state⟩, memory'⟩ ∧
      Program.Expands b.answer env asked es := by
  obtain ⟨⟨⟨r', m⟩, s₁⟩, goes, result⟩ := Program.leads_bind_done.mp h
  cases result
  exact Program.leads_interpret (I := Desk) goes

theorem Step.Leads.through {σ τ α : Type} {b : Backend σ} {env : Environment Outside τ}
    {step : Step α} {s s' : σ} {memory memory' : Memory} {t t' : Nat} {e e' : τ}
    {asked : List (Event Desk)} {r : Except Failure α}
    (h : Step.Leads (b.desk env) step ⟨⟨t, s, e⟩, memory⟩ asked r ⟨⟨t', s', e'⟩, memory'⟩) :
    ∃ es, Action.Leads env (Dispatcher.through b step)
    (memory, s) ⟨t, e⟩ es r (memory', s') ⟨t', e'⟩ := by
  obtain ⟨es, course, -⟩ := Program.Leads.interpret (I := Desk) h
  exact ⟨es, Program.leads_bind_done.mpr ⟨_, course, rfl⟩⟩

/-! ## The desk of a wallet -/

section
variable {σ τ : Type} {b : Backend σ} {env : Environment Outside τ} {s s' : σ} {u v : Moment τ}
  {es : List (Event Outside)}

theorem Backend.desk_send {tx : Draft} {hints : Hints} {r : Except Failure Handle}
    (h : Action.Leads env (b.send tx hints) s u es r s' v) :
    b.desk env (.send tx hints) u.time (s, u.state) = ⟨r, (s', v.state), v.time⟩ :=
  Program.answering_eq (I := Desk)
    (show (b.answer (.send tx hints) s).Leads env u es (r, s') v from h)

theorem Backend.desk_wait {handle : Handle} {bounds : WaitBounds} {r : Except Failure Receipt}
    (h : Action.Leads env (b.wait handle bounds) s u es r s' v) :
    b.desk env (.wait handle bounds) u.time (s, u.state) = ⟨r, (s', v.state), v.time⟩ :=
  Program.answering_eq (I := Desk)
    (show (b.answer (.wait handle bounds) s).Leads env u es (r, s') v from h)

theorem Backend.desk_node {q : NodeQuestion} {a : q.Answer} {t t' : Nat} {e e' : τ}
    (h : env (.node q) t e = ⟨a, e', t'⟩) :
    b.desk env (.node q) t (s, e) = ⟨a, (s, e'), t'⟩ := by
  have asked : (b.answer (.node q) s).Leads env ⟨t, e⟩ _ (a, s) ⟨t', e'⟩ :=
    Program.Leads.ask (w := ⟨t', e'⟩) h (Program.leads_done.mpr ⟨rfl, rfl, rfl⟩)
  exact Program.answering_eq (I := Desk) asked

end

end Dispatch
