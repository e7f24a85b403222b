import Dispatch.Proofs.CallEffects

/-!
# Sessions with a queue

In a session each call of a queue ends before the next begins. Between two calls the broker serves
the tickets that the queue has, and no others.
-/

set_option autoImplicit false

namespace Dispatch

namespace Queue

namespace Traffic

section
variable {σ : Type} {queue : QueueWallet σ} {pool id : String} {new : String → Prop}
  {w w' : Traffic}

/-- One step of a session: a call, whose submission makes an id that has no ticket, or something
beside the calls. -/
inductive Proceeds (queue : QueueWallet σ) (w : Traffic) : Traffic → Prop where
  | calls (p : Purpose) {r : Result} {w' : Traffic}
      (call : Goes queue.pool (fun id => w.ticket? id = none) (queue.program p) w r w') :
        Proceeds queue w w'
  | beside {w' : Traffic} (stirs : Stirs queue.pool w w') : Proceeds queue w w'

def Session (queue : QueueWallet σ) : Traffic → Traffic → Prop :=
  Relation.ReflTransGen (Proceeds queue)

/-- What holds between two calls. -/
structure Settled (pool : String) (w : Traffic) : Prop where
  serves : Serves pool w.ticket? none w
  keyed : w.tickets.Keyed

theorem settled_start : Settled pool start where
  serves :=
    { fresh := Broker.fresh_empty
      tidy := Broker.tidy_empty
      guests := nofun
      own := nofun
      named := nofun
      delivers := nofun
      live := fun _ => rfl
      clean := fun _ _ => rfl }
  keyed := State.keyed_start

theorem Settled.waits {timeout : Duration} {r : Result} (h : Settled pool w)
    (g : Goes pool new (queue.program (.wait id timeout)) w r w') :
    Settled pool w' ∧ Waited pool id w r w' ∧ Leaves pool w.ticket? w'.ticket? w w' := by
  obtain ⟨r', w₁, awaited, last⟩ := goes_bind.mp g
  obtain ⟨rfl, rfl⟩ := goes_done.mp last
  obtain ⟨waited, left⟩ := awaited.awaitCompletion h.serves
  exact ⟨⟨left.serves, g.keyed h.keyed⟩, waited, left⟩

theorem Settled.submits {tx : Draft} {hints : Hints} {r : Result} (h : Settled queue.pool w)
    (g : Goes queue.pool (fun id => w.ticket? id = none) (queue.program (.submission tx hints))
      w r w') :
    Settled queue.pool w' ∧ ∃ time, Submitted queue time w r w' := by
  obtain ⟨serves, submitted⟩ := Goes.enqueue g h.serves h.keyed
  exact ⟨⟨serves, g.keyed h.keyed⟩, submitted⟩

theorem Settled.stirs (h : Settled pool w) (stirs : Stirs pool w w') : Settled pool w' := by
  constructor
  · rw [ticket?_congr stirs.tickets]
    exact stirs.serves h.serves
  · rw [stirs.tickets]
    exact h.keyed

theorem Settled.proceeds (h : Settled queue.pool w) (step : Proceeds queue w w') :
    Settled queue.pool w' := by
  cases step with
  | calls p call =>
    cases p with
    | submission tx hints => exact (h.submits call).1
    | wait id timeout => exact (h.waits call).1
  | beside stirs => exact h.stirs stirs

theorem Settled.session (h : Settled queue.pool w) (session : Session queue w w') :
    Settled queue.pool w' := by
  induction session with
  | refl => exact h
  | tail _ step ih => exact ih.proceeds step

theorem Settled.subscribers (h : Settled pool w) (id : String) :
    w.broker.subscribers (completionChannel pool id) =
      ((w.ticket? id).map Ticket.subscription).toList := by
  rw [h.serves.clean id nofun, h.serves.live id]

theorem Settled.mem_channels (h : Settled pool w) :
    completionChannel pool id ∈ w.broker.channels.map Prod.fst ↔
      ∃ ticket, w.ticket? id = some ticket := by
  rw [h.serves.tidy.mem_channels, h.subscribers id]
  cases w.ticket? id <;> simp

end

end Traffic

end Queue

end Dispatch
