import Dispatch.Proofs.TicketKeeping

/-!
# Calls one after the other

A call of a queue goes from one question to the next. Before each answer time may pass, and others
may use the broker, but nobody else comes to listen where a completion will be told.
-/

set_option autoImplicit false

namespace Dispatch

namespace Queue

namespace Traffic

inductive Stirs (pool : String) (w : Traffic) : Traffic → Prop where
  | passes (d : Nat) : Stirs pool w { w with time := w.time + d }
  | visits {w' : Traffic} (visit : w.Visits w')
      (apart : ∀ id, ∀ n ∈ w'.broker.subscribers (completionChannel pool id),
        n ∈ w.broker.subscribers (completionChannel pool id)) : Stirs pool w w'

theorem Stirs.publishes {pool : String} (w : Traffic) (channel payload : String) :
    Stirs pool w (w.publish channel payload) := by
  apply Stirs.visits (.publishes channel payload)
  intro id n listed
  have after : (w.publish channel payload).broker.subscribers (completionChannel pool id) = _ :=
    Broker.subscribers_publish _ _ _ _
  rw [after] at listed
  split at listed
  · rename_i same
    rw [same]
    exact (List.mem_filter.mp listed).1
  · exact listed

def Drifts (pool : String) : Traffic → Traffic → Prop := Relation.ReflTransGen (Stirs pool)

/-- From `w` the call of a program leads to the result `r` at `w'`. The ids whose channels it
subscribes to are new. -/
inductive Goes {α : Type} (pool : String) (new : String → Prop) :
    Program Shared α → Traffic → α → Traffic → Prop where
  | done {a : α} {w : Traffic} : Goes pool new (.done a) w a w
  | asks {q : Question} {next : q.Answer → Program Shared α} {w w₁ w₂ w' : Traffic}
      {a : q.Answer} {r : α}
      (drift : Drifts pool w w₁) (answered : w₁.Answers w.time q a w₂)
      (named : ∀ id, q = .outside (.subscribe (completionChannel pool id)) → new id)
      (rest : Goes pool new (next a) w₂ r w') : Goes pool new (.ask q next) w r w'
  | looks {next : Nat → Program Shared α} {w w₁ w' : Traffic} {r : α} (drift : Drifts pool w w₁)
      (rest : Goes pool new (next w₁.time) w₁ r w') : Goes pool new (.clock next) w r w'
  | sleeps {d : Duration} {next : Program Shared α} {w w₁ w' : Traffic} {r : α}
      (drift : Drifts pool w w₁)
      (slept : w.time + d.nanos ≤ w₁.time) (rest : Goes pool new next w₁ r w') :
        Goes pool new (.sleep d next) w r w'

section
variable {α β : Type} {pool : String} {new : String → Prop} {w w' : Traffic}

theorem goes_done {a r : α} : Goes pool new (.done a) w r w' ↔ r = a ∧ w' = w := by
  constructor
  · intro h
    cases h
    exact ⟨rfl, rfl⟩
  · rintro ⟨rfl, rfl⟩
    exact .done

theorem goes_bind {p : Program Shared α} {f : α → Program Shared β} {r : β} :
    Goes pool new (p.bind f) w r w' ↔ ∃ a w₁, Goes pool new p w a w₁ ∧
      Goes pool new (f a) w₁ r w' := by
  constructor
  · intro h
    induction p generalizing w with
    | done a => exact ⟨a, w, .done, h⟩
    | ask q next ih =>
      cases h with
      | asks drift answered named rest =>
        obtain ⟨a, w₁, first, last⟩ := ih _ rest
        exact ⟨a, w₁, .asks drift answered named first, last⟩
    | sleep d next ih =>
      cases h with
      | sleeps drift slept rest =>
        obtain ⟨a, w₁, first, last⟩ := ih rest
        exact ⟨a, w₁, .sleeps drift slept first, last⟩
    | clock next ih =>
      cases h with
      | looks drift rest =>
        obtain ⟨a, w₁, first, last⟩ := ih _ rest
        exact ⟨a, w₁, .looks drift first, last⟩
  · rintro ⟨a, w₁, first, last⟩
    induction first with
    | done => exact last
    | asks drift answered named _ ih => exact .asks drift answered named (ih last)
    | looks drift _ ih => exact .looks drift (ih last)
    | sleeps drift slept _ ih => exact .sleeps drift slept (ih last)

theorem goes_ask {q : Question} {a : q.Answer} :
    Goes pool new (.ask (I := Shared) q .done) w a w' ↔
      ∃ w₁, Drifts pool w w₁ ∧ w₁.Answers w.time q a w' ∧
        ∀ id, q = .outside (.subscribe (completionChannel pool id)) → new id := by
  constructor
  · intro h
    cases h with
    | asks drift answered named rest =>
      obtain ⟨rfl, rfl⟩ := goes_done.mp rest
      exact ⟨_, drift, answered, named⟩
  · rintro ⟨w₁, drift, answered, named⟩
    exact .asks drift answered named .done

theorem goes_now {t : Nat} :
    Goes pool new (QueueWallet.share Program.now) w t w' ↔ Drifts pool w w' ∧ t = w'.time := by
  constructor
  · intro h
    cases h with
    | looks drift rest =>
      obtain ⟨rfl, rfl⟩ := goes_done.mp rest
      exact ⟨drift, rfl⟩
  · rintro ⟨drift, rfl⟩
    exact .looks drift .done

theorem goes_since {start : Nat} {d : Duration} :
    Goes pool new (QueueWallet.share (Program.since start)) w d w' ↔
      Drifts pool w w' ∧ d = .ofNanos (w'.time - start) := by
  constructor
  · intro h
    cases h with
    | looks drift rest =>
      obtain ⟨rfl, rfl⟩ := goes_done.mp rest
      exact ⟨drift, rfl⟩
  · rintro ⟨drift, rfl⟩
    exact .looks drift .done

/-! ## Steps that may fail -/

section
variable {r : Except QueueFailure α} {r' : Except QueueFailure β}

theorem goes_pure {a : α} : Goes pool new (pure a : QueueWallet.Step α).run w r w' ↔ r = .ok a ∧
    w' = w := goes_done

theorem goes_throw {e : QueueFailure} :
    Goes pool new (throw e : QueueWallet.Step α).run w r w' ↔ r = .error e ∧ w' = w := goes_done

theorem goes_step_bind {p : QueueWallet.Step α} {f : α → QueueWallet.Step β} :
    Goes pool new (p >>= f).run w r' w' ↔
      (∃ e, Goes pool new p.run w (.error e) w' ∧ r' = .error e) ∨
      ∃ a w₁, Goes pool new p.run w (.ok a) w₁ ∧ Goes pool new (f a).run w₁ r' w' := by
  refine goes_bind.trans ?_
  constructor
  · rintro ⟨e | a, w₁, first, last⟩
    · obtain ⟨rfl, rfl⟩ := goes_done.mp last
      exact .inl ⟨e, first, rfl⟩
    · exact .inr ⟨a, w₁, first, last⟩
  · rintro (⟨e, first, rfl⟩ | ⟨a, w₁, first, last⟩)
    · exact ⟨_, _, first, goes_done.mpr ⟨rfl, rfl⟩⟩
    · exact ⟨_, _, first, last⟩

theorem goes_lift_bind {p : Program Shared α} {f : α → QueueWallet.Step β} :
    Goes pool new (ExceptT.lift p >>= f).run w r' w' ↔
      ∃ a w₁, Goes pool new p w a w₁ ∧ Goes pool new (f a).run w₁ r' w' := by
  have lifted : ∀ {r : Except QueueFailure α} {w₁},
      Goes pool new (ExceptT.lift p : QueueWallet.Step α).run w r w₁ ↔ ∃ a, Goes pool new p w a w₁ ∧
        r = .ok a := by
    intro r w₁
    refine goes_bind.trans ?_
    constructor
    · rintro ⟨a, w₂, first, last⟩
      obtain ⟨rfl, rfl⟩ := goes_done.mp last
      exact ⟨a, first, rfl⟩
    · rintro ⟨a, first, rfl⟩
      exact ⟨a, _, first, goes_done.mpr ⟨rfl, rfl⟩⟩
  rw [goes_step_bind]
  simp only [lifted]
  constructor
  · rintro (⟨e, ⟨_, -, impossible⟩, -⟩ | ⟨a, w₁, ⟨a', first, same⟩, last⟩)
    · cases impossible
    · cases same
      exact ⟨_, _, first, last⟩
  · rintro ⟨a, w₁, first, last⟩
    exact .inr ⟨a, w₁, ⟨a, first, rfl⟩, last⟩

end

end

/-! ## What stays -/

section
variable {α : Type} {pool : String} {new : String → Prop} {w w' : Traffic}

theorem Stirs.tickets (h : Stirs pool w w') : w'.tickets = w.tickets := by
  cases h with
  | passes d => rfl
  | visits visit apart =>
    obtain ⟨_, w₁, -, same, kept, -⟩ := visit.effect
    rw [same]
    exact kept

theorem Drifts.tickets (h : Drifts pool w w') : w'.tickets = w.tickets := by
  induction h with
  | refl => rfl
  | tail _ stirs ih => exact stirs.tickets.trans ih

theorem Stirs.time_le (h : Stirs pool w w') : w.time ≤ w'.time := by
  cases h with
  | passes d => exact Nat.le_add_right _ _
  | visits visit apart =>
    obtain ⟨_, w₁, effect, same, -⟩ := visit.effect
    rw [same]
    exact Nat.le_of_eq effect.frame.time.symm

theorem Drifts.time_le (h : Drifts pool w w') : w.time ≤ w'.time := by
  induction h with
  | refl => exact Nat.le_refl _
  | tail _ stirs ih => exact Nat.le_trans ih stirs.time_le

theorem Goes.time_le {p : Program Shared α} {r : α} (h : Goes pool new p w r w') :
    w.time ≤ w'.time := by
  induction h with
  | done => exact Nat.le_refl _
  | asks drift answered _ _ ih => exact Nat.le_trans drift.time_le (answered.effect.frame.time ▸ ih)
  | looks drift _ ih => exact Nat.le_trans drift.time_le ih
  | sleeps drift _ _ ih => exact Nat.le_trans drift.time_le ih

theorem Stirs.published (h : Stirs pool w w') : w.published ⊆ w'.published := by
  cases h with
  | passes d => exact List.Subset.refl _
  | visits visit apart =>
    obtain ⟨_, w₁, effect, same, -⟩ := visit.effect
    rw [same]
    exact effect.frame.published

theorem Drifts.published (h : Drifts pool w w') : w.published ⊆ w'.published := by
  induction h with
  | refl => exact List.Subset.refl _
  | tail _ stirs ih => exact List.Subset.trans ih stirs.published

theorem Goes.published {p : Program Shared α} {r : α} (h : Goes pool new p w r w') :
    w.published ⊆ w'.published := by
  induction h with
  | done => exact List.Subset.refl _
  | asks drift answered _ _ ih =>
    exact List.Subset.trans drift.published (List.Subset.trans answered.effect.frame.published ih)
  | looks drift _ ih => exact List.Subset.trans drift.published ih
  | sleeps drift _ _ ih => exact List.Subset.trans drift.published ih

end

end Traffic

end Queue

end Dispatch
