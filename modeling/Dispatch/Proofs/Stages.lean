import Dispatch.Proofs.WaitRounds

/-!
# The stages of a submission

One lemma for each stage says all the courses that the stage can take: what it asks, what it gives
and what it leaves in memory. A submission either ends before its nonce is taken, or it is cleared
and delivers one draft.
-/

set_option autoImplicit false

namespace Dispatch
open Program (Environment Event Only)
open Step

def NodeQuestion.IsProbe : NodeQuestion → Prop
  | .transactionCount _ => False
  | _ => True

/-- What a submission does at most once. -/
inductive Landmark where
  | count
  | send
  | wait
deriving DecidableEq

def DeskQuestion.landmark? : DeskQuestion → Option Landmark
  | .node (.transactionCount _) => some .count
  | .node _ => none
  | .send _ _ => some .send
  | .wait _ _ => some .wait

def Program.Event.landmark? : Event Desk → Option Landmark
  | .asked _ q _ => q.landmark?
  | .slept _ _ => none

/-- Neither a nonce was asked for nor the wallet. -/
def Quiet (es : List (Event Desk)) : Prop := ∀ e ∈ es, e.landmark? = none

/-- No nonce was asked for and nothing sent. -/
def Settled (es : List (Event Desk)) : Prop :=
  ∀ e ∈ es, e.landmark? = none ∨ e.landmark? = some .wait

def DeskQuestion.draft? : DeskQuestion → Option Draft
  | .send tx _ => some tx
  | _ => none

/-- The draft that an event hands to the wallet. -/
def Program.Event.draft? : Event Desk → Option Draft
  | .asked _ q _ => q.draft?
  | .slept _ _ => none

def drafts (es : List (Event Desk)) : List Draft := es.filterMap Event.draft?

@[simp] theorem quiet_nil : Quiet [] := by simp [Quiet]

@[simp] theorem quiet_cons {e : Event Desk} {es : List (Event Desk)} :
    Quiet (e :: es) ↔ e.landmark? = none ∧ Quiet es := List.forall_mem_cons

@[simp] theorem quiet_append {es es' : List (Event Desk)} :
    Quiet (es ++ es') ↔ Quiet es ∧ Quiet es' := List.forall_mem_append

theorem landmark?_count (t : Nat) (a : Address) (answer : Except Failure UInt64) :
    Event.landmark? (.asked t (DeskQuestion.node (.transactionCount a)) answer) = some .count := rfl

theorem landmark?_send (t : Nat) (tx : Draft) (hints : Hints) (answer : Except Failure Handle) :
    Event.landmark? (.asked t (DeskQuestion.send tx hints) answer) = some .send := rfl

theorem landmark?_wait (t : Nat) (handle : Handle) (bounds : WaitBounds)
    (answer : Except Failure Receipt) :
    Event.landmark? (.asked t (DeskQuestion.wait handle bounds) answer) = some .wait := rfl

theorem found_in_append {before after es es' : List (Event Desk)} {e : Event Desk}
    (h : es ++ es' = before ++ e :: after) :
    (∃ l, es = before ++ e :: l ∧ after = l ++ es') ∨
      ∃ l, before = es ++ l ∧ es' = l ++ e :: after := by
  rcases List.append_eq_append_iff.mp h with ⟨l, rfl, hl⟩ | ⟨l, rfl, hl⟩
  · exact .inr ⟨l, rfl, hl⟩
  · cases l with
    | nil => exact .inr ⟨[], by simp, by simpa using hl.symm⟩
    | cons x l =>
      obtain ⟨rfl, rfl⟩ := List.cons.inj hl
      exact .inl ⟨l, rfl, rfl⟩

theorem eq_of_landmark {before after es es' : List (Event Desk)} {e e' : Event Desk} {m : Landmark}
    (h : before ++ e :: after = es ++ e' :: es') (he : e.landmark? = some m)
    (hes : ∀ x ∈ es, x.landmark? ≠ some m) (hes' : ∀ x ∈ es', x.landmark? ≠ some m) :
    before = es ∧ e = e' ∧ after = es' := by
  rcases found_in_append h.symm with ⟨l, rfl, -⟩ | ⟨l, rfl, hl⟩
  · exact (hes e (by simp) he).elim
  · cases l with
    | nil =>
      obtain ⟨rfl, rfl⟩ := List.cons.inj hl
      exact ⟨by simp, rfl, rfl⟩
    | cons x l =>
      obtain ⟨rfl, rfl⟩ := List.cons.inj hl
      exact (hes' e (by simp) he).elim

theorem Quiet.ne {es : List (Event Desk)} (h : Quiet es) (m : Landmark) :
    ∀ e ∈ es, e.landmark? ≠ some m := fun e he => by simp [h e he]

@[simp] theorem settled_nil : Settled [] := by simp [Settled]

theorem Settled.ne {es : List (Event Desk)} (h : Settled es) {m : Landmark} (hm : m ≠ .wait) :
    ∀ e ∈ es, e.landmark? ≠ some m := by
  intro e he hem
  rcases h e he with h | h
  · cases h.symm.trans hem
  · exact hm (Option.some.inj (hem.symm.trans h))

@[simp] theorem drafts_nil : drafts [] = [] := rfl

@[simp] theorem drafts_append (es es' : List (Event Desk)) :
    drafts (es ++ es') = drafts es ++ drafts es' := List.filterMap_append

theorem drafts_eq_nil {es : List (Event Desk)} (h : ∀ e ∈ es, e.landmark? ≠ some .send) :
    drafts es = [] := by
  refine List.filterMap_eq_nil_iff.mpr fun e he => ?_
  have hm := h e he
  cases e with
  | slept t pause => rfl
  | asked t q answer =>
    cases q with
    | node q => rfl
    | send tx hints => exact (hm rfl).elim
    | wait handle bounds => rfl

theorem Quiet.drafts {es : List (Event Desk)} (h : Quiet es) : drafts es = [] :=
  drafts_eq_nil (h.ne .send)

theorem Settled.drafts {es : List (Event Desk)} (h : Settled es) : drafts es = [] :=
  drafts_eq_nil (h.ne (by decide))

theorem quiet_atDesk {es : List (Event Node)} (h : ∀ e ∈ es, e.Within NodeQuestion.IsProbe) :
    Quiet (es.map Event.atDesk) := by
  intro e he
  obtain ⟨e, he', rfl⟩ := List.mem_map.mp he
  have hp := h e he'
  cases e with
  | slept t pause => rfl
  | asked t q answer =>
    cases q with
    | transactionCount a => exact hp.elim
    | _ => rfl

/-! ## What the node is asked -/

def NodeQuestion.IsPrice : NodeQuestion → Prop
  | .gasPrice | .priorityFee | .latestBlock => True
  | _ => False

section
variable (s : Settings) (o : Options)

theorem legacyFees_only : Only NodeQuestion.IsPrice (s.legacyFees o).run := by
  unfold Settings.legacyFees
  cases o.gasPrice.or s.defaultGasPrice with
  | some price => trivial
  | none => exact Only.bindExcept ⟨trivial, fun _ => trivial⟩ fun _ => trivial

theorem chooseTip_only : Only NodeQuestion.IsPrice (s.chooseTip o).run := by
  unfold Settings.chooseTip
  cases o.tip with
  | some tip => trivial
  | none => exact Only.bindExcept ⟨trivial, fun _ => trivial⟩ fun _ => trivial

theorem chooseMaxFee_only (tip : BitVec 128) :
    Only NodeQuestion.IsPrice (Settings.chooseMaxFee o tip).run := by
  unfold Settings.chooseMaxFee
  cases o.maxFee with
  | some fee => trivial
  | none =>
    refine Only.bindExcept ⟨trivial, fun _ => trivial⟩ fun fees => ?_
    cases fees.baseFee <;> trivial

theorem dynamicFees_only : Only NodeQuestion.IsPrice (s.dynamicFees o).run := by
  unfold Settings.dynamicFees
  refine Only.bindExcept (chooseTip_only s o) fun tip => ?_
  refine Only.bindExcept (chooseMaxFee_only o tip) fun maxFee => ?_
  split <;> trivial

theorem resolveFees_prices : Only NodeQuestion.IsPrice (s.resolveFees o).run := by
  unfold Settings.resolveFees
  by_cases h : (s.multiplier o).IsPositive
  · simp only [h, not_true_eq_false, if_false]
    cases s.chooseFeeModel o with
    | legacy => exact legacyFees_only s o
    | dynamic => exact dynamicFees_only s o
  · simp only [h, not_false_eq_true, if_true]
    trivial

theorem resolveFees_only : Only NodeQuestion.IsProbe (s.resolveFees o).run :=
  (resolveFees_prices s o).mono fun q hq => by
    cases q <;> trivial

end

theorem blockGasLimit_only (s : Simulator) : Only NodeQuestion.IsProbe s.blockGasLimit := by
  refine Only.bind ⟨trivial, fun _ => trivial⟩ fun fees => ?_
  cases fees <;> trivial

theorem estimate_only (s : Simulator) (r : CallRequest) :
    Only NodeQuestion.IsProbe (s.estimate r).run :=
  Only.bindExcept (Only.liftExcept (blockGasLimit_only s)) fun _ =>
    Only.bindExcept ⟨trivial, fun _ => trivial⟩ fun _ => trivial

theorem simulator_only (s : Simulator) (call : Call) (sender : Address) (gas : Option UInt64) :
    Only NodeQuestion.IsProbe (s.run call sender gas) := by
  unfold Simulator.run
  cases gas with
  | some gas => exact Only.bind ⟨trivial, fun _ => trivial⟩ fun _ => trivial
  | none => exact Only.bind (estimate_only s _) fun _ => trivial

theorem confirm_only (hash : Hash) (b : WaitBounds) (started : Nat) (target : UInt64)
    (rounds : Nat) :
    Only (fun q => q = NodeQuestion.blockNumber)
    (Waiting.confirm hash b started target rounds).run := by
  induction rounds with
  | zero => exact Only.bindExcept (Only.liftExcept fun _ => trivial) fun _ => trivial
  | succ rounds ih =>
    refine Only.bindExcept ⟨rfl, fun _ => trivial⟩ fun current => ?_
    split
    · trivial
    · refine Only.bindExcept (Only.liftExcept fun _ => trivial) fun waited => ?_
      split
      · trivial
      · exact Only.bindExcept (Only.liftExcept trivial) fun _ => ih

theorem waitForConfirmations_only (receipt : Receipt) (blocks : UInt64) (b : WaitBounds) :
    Only (fun q => q = NodeQuestion.blockNumber) (waitForConfirmations receipt blocks b).run :=
  Only.bindExcept (Only.liftExcept fun _ => trivial) fun _ => confirm_only _ _ _ _ _

/-! ## Confirmations -/

section
variable {σ : Type} {env : Environment Node σ} {u v : Program.Moment σ} {es : List (Event Node)}

theorem confirm_error {hash : Hash} {b : WaitBounds} {started : Nat} {target : UInt64}
    {rounds : Nat} {f : Failure}
    (h : Program.Leads env (Waiting.confirm hash b started target rounds).run u es (.error f) v) :
    (∃ waited, f = .transactionTimeout (.hash hash) waited) ∨
      ∃ init t, es = init ++ [.asked t .blockNumber (.error f)] := by
  induction rounds generalizing u es with
  | zero => exact .inl ⟨_, Except.error.inj (confirm_over h).2.1⟩
  | succ rounds ih =>
    cases confirm_round h with
    | unanswered => exact .inr ⟨[], _, rfl⟩
    | @late _ waited => exact .inl ⟨waited, rfl⟩
    | again _ _ _ rest =>
      rcases ih rest with late | ⟨init, t, rfl⟩
      · exact .inl late
      · exact .inr ⟨_ :: _ :: init, t, rfl⟩

theorem waitForConfirmations_error {receipt : Receipt} {blocks : UInt64} {b : WaitBounds}
    {f : Failure}
    (h : Program.Leads env (waitForConfirmations receipt blocks b).run u es (.error f) v) :
    (∃ waited, f = .transactionTimeout (.hash receipt.hash) waited) ∨
      ∃ init t, es = init ++ [.asked t .blockNumber (.error f)] :=
  confirm_error (waitForConfirmations_leads h)

end

/-! ## Courses of the stages -/

section
variable {σ : Type} {env : Environment Desk σ} {d : Dispatcher} {call : Call} {o : Options}
  {u v : Scene σ} {es : List (Event Desk)}

theorem attempt_chainId_leads {r : Except Failure UInt64} :
    Leads env (Dispatcher.attempt Node.chainId) u es r v ↔
      r = (env (.node .chainId) u.time u.state).answer ∧ es = [.asked u.time (.node .chainId) r] ∧
        v = u.after env (.node .chainId) := by
  refine (leads_attempt_ask (q := .chainId) (f := fun answer => answer)).trans ?_
  constructor <;> rintro ⟨rfl, rfl, rfl⟩ <;> exact ⟨rfl, rfl, rfl⟩

theorem attempt_balance_leads {a : Address} {r : Except Failure (BitVec 256)} :
    Leads env (Dispatcher.attempt (Node.balance a)) u es r v ↔
      r = (env (.node (.balance a)) u.time u.state).answer ∧
        es = [.asked u.time (.node (.balance a)) r] ∧ v = u.after env (.node (.balance a)) := by
  refine (leads_attempt_ask (q := .balance a) (f := fun answer => answer)).trans ?_
  constructor <;> rintro ⟨rfl, rfl, rfl⟩ <;> exact ⟨rfl, rfl, rfl⟩

def Memory.learn (m : Memory) : Except Failure UInt64 → Memory
  | .ok id => { m with chainId := some id }
  | .error _ => m

theorem resolveChain_leads {r : Except Failure UInt64} :
    Leads env Dispatcher.resolveChain u es r v ↔
      (∃ id, u.memory.chainId = some id ∧ es = [] ∧ r = .ok id ∧ v = u) ∨
      (u.memory.chainId = none ∧ r = (env (.node .chainId) u.time u.state).answer ∧
        es = [.asked u.time (.node .chainId) r] ∧
        v = { u.after env (.node .chainId) with memory := u.memory.learn r }) := by
  unfold Dispatcher.resolveChain
  rw [leads_get_bind]
  cases hc : u.memory.chainId with
  | some id => simp [leads_pure]
  | none =>
    simp only [leads_bind, attempt_chainId_leads, leads_modify, leads_pure]
    constructor
    · rintro (⟨e, ⟨he, rfl, rfl⟩, rfl⟩ | ⟨_, id, _, _, ⟨hid, rfl, rfl⟩, h, rfl⟩)
      · exact .inr ⟨trivial, he, rfl, rfl⟩
      · rcases h with ⟨e, ⟨-, h, -⟩, -⟩ | ⟨_, _, _, _, ⟨rfl, -, rfl⟩, ⟨rfl, rfl, rfl⟩, rfl⟩
        · cases h
        · exact .inr ⟨trivial, hid, rfl, rfl⟩
    · rintro (⟨id, h, -⟩ | ⟨-, hr, rfl, rfl⟩)
      · cases h
      · cases r with
        | error e => exact .inl ⟨e, ⟨hr, rfl, rfl⟩, rfl⟩
        | ok id =>
          exact .inr ⟨_, id, _, [], ⟨hr, rfl, rfl⟩,
            .inr ⟨[], (), _, [], ⟨rfl, trivial, rfl⟩, ⟨rfl, rfl, rfl⟩, rfl⟩, rfl⟩

theorem checkBalance_leads {required : BitVec 256} {r : Except Failure Unit} :
    Leads env (d.checkBalance required) u es r v ↔
      ∃ answer, answer = (env (.node (.balance d.account)) u.time u.state).answer ∧
        es = [.asked u.time (.node (.balance d.account)) answer] ∧
        v = u.after env (.node (.balance d.account)) ∧
        r = (answer.bind fun available =>
          if available < required then .error (.insufficientBalance d.account required available)
          else .ok ()) := by
  unfold Dispatcher.checkBalance
  simp only [leads_bind, attempt_balance_leads]
  constructor
  · rintro (⟨e, ⟨he, rfl, rfl⟩, rfl⟩ | ⟨_, available, _, _, ⟨ha, rfl, rfl⟩, h, rfl⟩)
    · exact ⟨_, he, rfl, rfl, rfl⟩
    · split at h
      · obtain ⟨rfl, rfl, rfl⟩ := leads_throw.mp h
        exact ⟨_, ha, rfl, rfl, by simp [Except.bind, *]⟩
      · obtain ⟨rfl, rfl, rfl⟩ := leads_pure.mp h
        exact ⟨_, ha, rfl, rfl, by simp [Except.bind, *]⟩
  · rintro ⟨e | available, ha, rfl, rfl, rfl⟩
    · exact .inl ⟨e, ⟨ha, rfl, rfl⟩, rfl⟩
    · refine .inr ⟨_, available, _, [], ⟨ha, rfl, rfl⟩, ?_, rfl⟩
      simp only [Except.bind]
      split
      · exact leads_throw.mpr ⟨rfl, rfl, rfl⟩
      · exact leads_pure.mpr ⟨rfl, rfl, rfl⟩

def NonceSource.settle (source : NonceSource) (a : Address) (c : Counters) :
    Except Failure UInt64 → Except Failure UInt64 × Counters
  | .error e => (.error e, c)
  | .ok onChain =>
    match source with
    | .network => (.ok onChain, c)
    | .counted => (.ok (c.take a onChain).1, (c.take a onChain).2)

theorem next_eq_ask (source : NonceSource) (a : Address) (c : Counters) :
    (source.next a).run c =
      .ask (I := Node) (.transactionCount a) fun answer => .done (source.settle a c answer) := by
  refine congrArg (Program.ask (I := Node) (.transactionCount a)) (funext fun answer => ?_)
  cases answer <;> cases source <;> rfl

theorem takeNonce_leads {r : Except Failure UInt64} :
    Leads env (d.takeNonce o) u es r v ↔
      (∃ nonce, o.nonce = some nonce ∧ es = [] ∧ r = .ok nonce ∧ v = u) ∨
      (o.nonce = none ∧ ∃ answer,
        answer = (env (.node (.transactionCount d.account)) u.time u.state).answer ∧
        es = [.asked u.time (.node (.transactionCount d.account)) answer] ∧
        r = (d.nonceSource.settle d.account u.memory.counters answer).1 ∧
        v = { u.after env (.node (.transactionCount d.account)) with
          memory.counters := (d.nonceSource.settle d.account u.memory.counters answer).2 }) := by
  unfold Dispatcher.takeNonce
  cases hn : o.nonce with
  | some nonce => simp [leads_pure]
  | none =>
    simp only [next_eq_ask]
    refine (Program.leads_ask_done (I := Desk) (q := .node (.transactionCount d.account))
      (f := fun answer => ((d.nonceSource.settle d.account u.memory.counters answer).1,
        { u.memory with counters := (d.nonceSource.settle d.account u.memory.counters answer).2
          }))).trans ?_
    obtain ⟨_, _⟩ := v
    simp only [Scene.after, Scene.mk.injEq, Prod.mk.injEq]
    grind

def Dispatcher.handBack (d : Dispatcher) (o : Options) (nonce : UInt64) (m : Memory) : Memory :=
  if o.nonce.isNone then { m with counters := d.nonceSource.release d.account nonce m.counters }
    else m

theorem releaseNonce_leads {nonce : UInt64} {r : Except Failure Unit} :
    Leads env (d.releaseNonce o nonce) u es r v ↔
      es = [] ∧ r = .ok () ∧ v = { u with memory := d.handBack o nonce u.memory } := by
  unfold Dispatcher.releaseNonce Dispatcher.handBack
  split
  · exact leads_modify
  · exact leads_pure

/-- The courses of handing over a draft. -/
inductive Sending (env : Environment Desk σ) (d : Dispatcher) (o : Options) (tx : Draft)
    (hints : Hints) (u : Scene σ) : List (Event Desk) → Except Failure Handle → Scene σ → Prop
  | withoutNonce {es : List (Event Desk)} {e : Failure} {v : Scene σ}
      (taken : Leads env (d.takeNonce o) u es (.error e) v) :
        Sending env d o tx hints u es (.error e) v
  | refused {es : List (Event Desk)} {nonce : UInt64} {w : Scene σ} {e : Failure}
      (taken : Leads env (d.takeNonce o) u es (.ok nonce) w)
      (answer : (env (.send { tx with nonce } hints) w.time w.state).answer = .error e) :
      Sending env d o tx hints u (es ++ [.asked w.time (.send { tx with nonce } hints) (.error e)])
        (.error e)
        { w.after env (.send { tx with nonce } hints) with memory := d.handBack o nonce w.memory }
  | accepted {es : List (Event Desk)} {nonce : UInt64} {w : Scene σ} {handle : Handle}
      (taken : Leads env (d.takeNonce o) u es (.ok nonce) w)
      (answer : (env (.send { tx with nonce } hints) w.time w.state).answer = .ok handle) :
      Sending env d o tx hints u
        (es ++ [.asked w.time (.send { tx with nonce } hints) (.ok handle)])
        (.ok handle) (w.after env (.send { tx with nonce } hints))

theorem sendDraft_cases {tx : Draft} {hints : Hints} {r : Except Failure Handle}
    (h : Leads env (d.sendDraft tx o hints) u es r v) : Sending env d o tx hints u es r v := by
  unfold Dispatcher.sendDraft at h
  rcases leads_bind.mp h with ⟨e, hn, rfl⟩ | ⟨es₁, nonce, w, es₂, hn, ht, rfl⟩
  · exact .withoutNonce hn
  rcases leads_tryCatch.mp ht with ⟨handle, hs, rfl⟩ | ⟨es₃, e, w', es₄, hs, hf, rfl⟩
  · obtain ⟨ha, rfl, rfl⟩ := leads_send.mp hs
    exact .accepted hn ha.symm
  · obtain ⟨he, rfl, rfl⟩ := leads_send.mp hs
    simp only [leads_bind, releaseNonce_leads, leads_throw] at hf
    rcases hf with ⟨_, ⟨-, hc, -⟩, -⟩ | ⟨_, _, _, _, ⟨rfl, -, rfl⟩, ⟨rfl, rfl, rfl⟩, rfl⟩
    · cases hc
    · exact .refused hn he.symm

/-- The courses of waiting for a receipt and for the blocks on top of it. -/
inductive Awaiting (env : Environment Desk σ) (d : Dispatcher) (o : Options) (handle : Handle)
    (u : Scene σ) : List (Event Desk) → Except Failure Receipt → Scene σ → Prop
  | unmined {e : Failure}
      (answer : (env (.wait handle (d.bounds o)) u.time u.state).answer = .error e) :
      Awaiting env d o handle u [.asked u.time (.wait handle (d.bounds o)) (.error e)] (.error e)
        (u.after env (.wait handle (d.bounds o)))
  | mined {receipt : Receipt}
      (answer : (env (.wait handle (d.bounds o)) u.time u.state).answer = .ok receipt)
      (settled : ¬ (receipt.success ∧ 0 < o.confirmationBlocks)) :
      Awaiting env d o handle u [.asked u.time (.wait handle (d.bounds o)) (.ok receipt)]
        (.ok receipt)
        (u.after env (.wait handle (d.bounds o)))
  | confirming {receipt : Receipt} {es : List (Event Desk)} {r : Except Failure Unit} {v : Scene σ}
      (answer : (env (.wait handle (d.bounds o)) u.time u.state).answer = .ok receipt)
      (success : receipt.success) (blocks : 0 < o.confirmationBlocks)
      (confirmed : Leads env (Dispatcher.attempt (waitForConfirmations receipt o.confirmationBlocks
        ((d.bounds o).remainingAfter
          (.ofNanos ((u.after env (.wait handle (d.bounds o))).time - u.time)))))
        (u.after env (.wait handle (d.bounds o))) es r v) :
      Awaiting env d o handle u (.asked u.time (.wait handle (d.bounds o)) (.ok receipt) :: es)
        (r.map fun _ => receipt) v

theorem awaitReceipt_cases {handle : Handle} {r : Except Failure Receipt}
    (h : Leads env (d.awaitReceipt o handle) u es r v) : Awaiting env d o handle u es r v := by
  unfold Dispatcher.awaitReceipt at h
  rcases leads_bind.mp h with ⟨e, hc, -⟩ | ⟨_, started, _, es₂, hc, hw, rfl⟩
  · cases (leads_consult_now.mp hc).2.1
  obtain ⟨rfl, hs, rfl⟩ := leads_consult_now.mp hc
  cases hs
  rcases leads_bind.mp hw with ⟨e, he, rfl⟩ | ⟨_, receipt, w, es₃, hg, hr, rfl⟩
  · obtain ⟨ha, rfl, rfl⟩ := leads_wait.mp he
    exact .unmined ha.symm
  obtain ⟨ha, rfl, rfl⟩ := leads_wait.mp hg
  by_cases hb : receipt.success ∧ 0 < o.confirmationBlocks
  · simp only [hb, and_self, if_true] at hr
    rcases leads_bind.mp hr with ⟨e, hc, -⟩ | ⟨_, elapsed, _, es₄, hc, hk, rfl⟩
    · cases (leads_consult_since.mp hc).2.1
    obtain ⟨rfl, hs, rfl⟩ := leads_consult_since.mp hc
    cases hs
    rcases leads_bind.mp hk with ⟨e, hf, rfl⟩ | ⟨es₅, _, w', _, hf, hp, rfl⟩
    · exact .confirming ha.symm hb.1 hb.2 hf
    · obtain ⟨rfl, rfl, rfl⟩ := leads_pure.mp hp
      rw [List.append_nil]
      exact .confirming ha.symm hb.1 hb.2 hf
  · simp only [hb, if_false] at hr
    obtain ⟨rfl, rfl, rfl⟩ := leads_pure.mp hr
    exact .mined ha.symm hb

theorem deliver_cases {dryRun : Option DryRun} {tx : Draft} {r : Except Failure Outcome}
    (h : Leads env (d.deliver call o dryRun tx) u es r v) :
    (∃ e, Sending env d o tx (Dispatcher.hints call o) u es (.error e) v ∧ r = .error e) ∨
    ∃ es₁ handle w, Sending env d o tx (Dispatcher.hints call o) u es₁ (.ok handle) w ∧
      (o.waitFor = false ∧ es = es₁ ∧
          r = .ok { dryRun, handle := some handle, receipt := none, attempts := 1 } ∧ v = w ∨
        o.waitFor = true ∧ ∃ es₂ r', Awaiting env d o handle w es₂ r' v ∧ es = es₁ ++ es₂ ∧
          r = r'.map fun receipt =>
            { dryRun, handle := some handle, receipt := some receipt, attempts := 1 }) := by
  unfold Dispatcher.deliver at h
  rcases leads_bind.mp h with ⟨e, hs, rfl⟩ | ⟨es₁, handle, w, es₂, hs, hw, rfl⟩
  · exact .inl ⟨e, sendDraft_cases hs, rfl⟩
  refine .inr ⟨es₁, handle, w, sendDraft_cases hs, ?_⟩
  cases hf : o.waitFor with
  | false =>
    simp only [hf, Bool.false_eq_true, if_false] at hw
    obtain ⟨rfl, rfl, rfl⟩ := leads_result.mp hw
    exact .inl ⟨rfl, by simp, rfl, rfl⟩
  | true =>
    simp only [hf, if_true] at hw
    rcases leads_bind.mp hw with ⟨e, ha, rfl⟩ | ⟨es₃, receipt, w', es₄, ha, hp, rfl⟩
    · exact .inr ⟨rfl, es₂, _, awaitReceipt_cases ha, rfl, rfl⟩
    · obtain ⟨rfl, rfl, rfl⟩ := leads_result.mp hp
      exact .inr ⟨rfl, es₃, _, awaitReceipt_cases ha, by simp, rfl⟩

/-- The courses of a dry run that lets the call be sent. -/
inductive Simulated (env : Environment Desk σ) (d : Dispatcher) (call : Call) (o : Options)
    (u : Scene σ) : List (Event Desk) → Option DryRun → Scene σ → Prop
  | skipped (wanted : o.dryRunOnly = false) (skip : o.skipDryRun ∨ d.settings.disableDryRun) :
      Simulated env d call o u [] none u
  | allowed {es : List (Event Desk)} {dryRun : DryRun} {v : Scene σ} (wanted : o.dryRunOnly = false)
      (made : ¬ (o.skipDryRun ∨ d.settings.disableDryRun))
      (simulated : Leads env (Dispatcher.consult (d.dryRun call (Dispatcher.gasOverride call o)))
        u es (.ok dryRun) v)
      (allows : dryRun.isSuccess ∨ o.forceSend) : Simulated env d call o u es (some dryRun) v

/-- The courses of a balance check that is passed or not made. -/
inductive Covered (env : Environment Desk σ) (d : Dispatcher) (tx : Draft) (u : Scene σ) :
    List (Event Desk) → Scene σ → Prop
  | unchecked (skip : d.settings.checkBalance = false) : Covered env d tx u [] u
  | checked {es : List (Event Desk)} {v : Scene σ} (check : d.settings.checkBalance)
      (passed : Leads env (d.checkBalance tx.maxCost) u es (.ok ()) v) : Covered env d tx u es v

/-- The courses of a submission up to its nonce: the dry run allows the call, and the chain, the
fees and the balance are settled. -/
inductive Cleared (env : Environment Desk σ) (d : Dispatcher) (call : Call) (o : Options)
    (u : Scene σ) :
    List (Event Desk) → Option DryRun → Draft → Scene σ → Prop
  | intro {es₁ es₂ es₃ es₄ : List (Event Desk)} {dryRun : Option DryRun} {chainId : UInt64}
      {fees : Fees} {u₁ u₂ u₃ v : Scene σ}
      (simulated : Simulated env d call o u es₁ dryRun u₁)
      (chain : Leads env Dispatcher.resolveChain u₁ es₂ (.ok chainId) u₂)
      (priced : Leads env (Dispatcher.attempt (d.settings.resolveFees o)) u₂ es₃ (.ok fees) u₃)
      (covered : Covered env d (d.draft call o dryRun chainId fees) u₃ es₄ v) :
      Cleared env d call o u (es₁ ++ (es₂ ++ (es₃ ++ es₄))) dryRun
        (d.draft call o dryRun chainId fees) v

theorem consult_quiet {α : Type} {p : Program Node α} {r : Except Failure α}
    (h : Leads env (Dispatcher.consult p) u es r v) (hp : p.Only NodeQuestion.IsProbe) :
    Quiet es ∧ v.memory = u.memory := by
  obtain ⟨asked, a, hl, rfl, -, hm⟩ := leads_consult.mp h
  exact ⟨quiet_atDesk (hl.within hp), hm⟩

theorem attempt_quiet {α : Type} {p : Task Node α} {r : Except Failure α}
    (h : Leads env (Dispatcher.attempt p) u es r v) (hp : Program.Only NodeQuestion.IsProbe p.run) :
    Quiet es ∧ v.memory = u.memory := by
  obtain ⟨asked, hl, rfl, hm⟩ := leads_attempt.mp h
  exact ⟨quiet_atDesk (hl.within hp), hm⟩

theorem confirmations_quiet {receipt : Receipt} {blocks : UInt64} {b : WaitBounds}
    {r : Except Failure Unit}
    (h : Leads env (Dispatcher.attempt (waitForConfirmations receipt blocks b)) u es r v) :
    Quiet es ∧ v.memory = u.memory :=
  attempt_quiet h ((waitForConfirmations_only _ _ _).mono fun q hq => by rw [hq]; trivial)

theorem resolveChain_quiet {r : Except Failure UInt64}
    (h : Leads env Dispatcher.resolveChain u es r v) :
    Quiet es ∧ v.memory.counters = u.memory.counters := by
  rcases resolveChain_leads.mp h with ⟨id, -, rfl, -, rfl⟩ | ⟨-, -, rfl, rfl⟩
  · simp
  · refine ⟨by simp [Event.landmark?, DeskQuestion.landmark?], ?_⟩
    cases r <;> rfl

theorem checkBalance_quiet {required : BitVec 256} {r : Except Failure Unit}
    (h : Leads env (d.checkBalance required) u es r v) : Quiet es ∧ v.memory = u.memory := by
  obtain ⟨answer, -, rfl, rfl, -⟩ := checkBalance_leads.mp h
  exact ⟨by simp [Event.landmark?, DeskQuestion.landmark?], rfl⟩

theorem Simulated.quiet {dryRun : Option DryRun} (h : Simulated env d call o u es dryRun v) :
    Quiet es ∧ v.memory = u.memory := by
  cases h with
  | skipped => simp
  | allowed _ _ simulated => exact consult_quiet simulated (simulator_only _ _ _ _)

theorem Covered.quiet {tx : Draft} (h : Covered env d tx u es v) : Quiet es ∧
    v.memory = u.memory := by
  cases h with
  | unchecked => simp
  | checked _ passed => exact checkBalance_quiet passed

theorem Cleared.quiet {dryRun : Option DryRun} {tx : Draft}
    (h : Cleared env d call o u es dryRun tx v) :
    Quiet es ∧ v.memory.counters = u.memory.counters := by
  obtain ⟨simulated, chain, priced, covered⟩ := h
  have hs := simulated.quiet
  have hc := resolveChain_quiet chain
  have hp := attempt_quiet priced (resolveFees_only _ _)
  have hb := covered.quiet
  refine ⟨?_, by rw [hb.2, hp.2, hc.2, hs.2]⟩
  simp [hs.1, hc.1, hp.1, hb.1]

/-- A submission that ended before its nonce was asked for, and so left nothing behind. -/
structure Halted (u : Scene σ) (es : List (Event Desk)) (r : Except Failure Outcome) (v : Scene σ) :
    Prop where
  quiet : Quiet es
  counters : v.memory.counters = u.memory.counters
  unsent : ∀ outcome, r = .ok outcome → outcome.handle = none ∧ outcome.receipt = none

theorem Halted.of_error {e : Failure} (quiet : Quiet es)
    (counters : v.memory.counters = u.memory.counters) : Halted u es (.error e) v :=
  ⟨quiet, counters, nofun⟩

theorem Halted.after {u₁ : Scene σ} {es₁ : List (Event Desk)} {r : Except Failure Outcome}
    (h : Halted u₁ es r v) (quiet : Quiet es₁) (counters : u₁.memory.counters = u.memory.counters) :
    Halted u (es₁ ++ es) r v :=
  ⟨quiet_append.mpr ⟨quiet, h.quiet⟩, h.counters.trans counters, h.unsent⟩

theorem proceed_cases {dryRun : Option DryRun} {r : Except Failure Outcome}
    (h : Leads env (d.proceed call o dryRun) u es r v) :
    Halted u es r v ∨
    ∃ es₁ es₂ es₃ es₄ chainId fees u₁ u₂ w,
      Leads env Dispatcher.resolveChain u es₁ (.ok chainId) u₁ ∧
      Leads env (Dispatcher.attempt (d.settings.resolveFees o)) u₁ es₂ (.ok fees) u₂ ∧
      Covered env d (d.draft call o dryRun chainId fees) u₂ es₃ w ∧
      Leads env (d.deliver call o dryRun (d.draft call o dryRun chainId fees)) w es₄ r v ∧
      es = es₁ ++ (es₂ ++ (es₃ ++ es₄)) := by
  unfold Dispatcher.proceed at h
  rcases leads_bind.mp h with ⟨e, hc, rfl⟩ | ⟨es₁, chainId, u₁, _, hc, hf, rfl⟩
  · exact .inl (.of_error (resolveChain_quiet hc).1 (resolveChain_quiet hc).2)
  have qc := resolveChain_quiet hc
  rcases leads_bind.mp hf with ⟨e, hp, rfl⟩ | ⟨es₂, fees, u₂, _, hp, hb, rfl⟩
  · have qp := attempt_quiet hp (resolveFees_only _ _)
    exact .inl (.of_error (by simp [qc.1, qp.1]) (by rw [qp.2, qc.2]))
  have qp := attempt_quiet hp (resolveFees_only _ _)
  cases hk : d.settings.checkBalance with
  | false =>
    simp only [hk, Bool.false_eq_true, if_false] at hb
    exact .inr ⟨es₁, es₂, [], _, chainId, fees, u₁, u₂, u₂, hc, hp, .unchecked hk, hb, rfl⟩
  | true =>
    simp only [hk, if_true] at hb
    rcases leads_bind.mp hb with ⟨e, he, rfl⟩ | ⟨es₃, _, u₃, es₄, hg, hd, rfl⟩
    · have qb := checkBalance_quiet he
      exact .inl (.of_error (by simp [qc.1, qp.1, qb.1]) (by rw [qb.2, qp.2, qc.2]))
    · exact .inr ⟨es₁, es₂, es₃, es₄, chainId, fees, u₁, u₂, u₃, hc, hp, .checked hk hg, hd, rfl⟩

theorem Simulated.proceed {dryRun : Option DryRun} {es₁ : List (Event Desk)} {w : Scene σ}
    {r : Except Failure Outcome} (hs : Simulated env d call o u es₁ dryRun w)
    (h : Leads env (d.proceed call o dryRun) w es r v) :
    Halted u (es₁ ++ es) r v ∨
    ∃ es₁' tx w' es₂, Cleared env d call o u es₁' dryRun tx w' ∧
      Leads env (d.deliver call o dryRun tx) w' es₂ r v ∧ es₁ ++ es = es₁' ++ es₂ := by
  rcases proceed_cases h with hh |
    ⟨es₂, es₃, es₄, es₅, chainId, fees, u₁, u₂, w', hc, hp, hb, hd, rfl⟩
  · exact .inl (hh.after hs.quiet.1 (by rw [hs.quiet.2]))
  · exact .inr ⟨_, _, _, _, .intro hs hc hp hb, hd, by simp⟩

/-- The courses of a submission that sends nothing: its options contradict each other, or it ends
with its dry run. -/
inductive Rehearsed (env : Environment Desk σ) (d : Dispatcher) (call : Call) (o : Options)
    (u : Scene σ) :
    List (Event Desk) → Except Failure Outcome → Scene σ → Prop
  | contradictory : Rehearsed env d call o u [] (.error (.invalidArgument .onlyAndWithoutDryRun)) u
  | simulated {es : List (Event Desk)} {dryRun : DryRun} {v : Scene σ}
      (made : Leads env (Dispatcher.consult (d.dryRun call (Dispatcher.gasOverride call o))) u es
        (.ok dryRun) v) :
      Rehearsed env d call o u es
        (.ok { dryRun := some dryRun, handle := none, receipt := none, attempts := 1 }) v

theorem Rehearsed.quiet {r : Except Failure Outcome} (h : Rehearsed env d call o u es r v) :
    Quiet es ∧ v.memory = u.memory := by
  cases h with
  | contradictory => exact ⟨quiet_nil, rfl⟩
  | simulated made => exact consult_quiet made (simulator_only _ _ _ _)

theorem Rehearsed.halted {r : Except Failure Outcome} (h : Rehearsed env d call o u es r v) :
    Halted u es r v := by
  refine ⟨h.quiet.1, by rw [h.quiet.2], ?_⟩
  rintro outcome rfl
  cases h with
  | simulated made => exact ⟨rfl, rfl⟩

theorem perform_simulates {r : Except Failure Outcome} (h : Leads env (d.perform call o) u es r v) :
    Rehearsed env d call o u es r v ∨
    ∃ es₁ dryRun w es₂, Simulated env d call o u es₁ dryRun w ∧
      Leads env (d.proceed call o dryRun) w es₂ r v ∧
      es = es₁ ++ es₂ := by
  unfold Dispatcher.perform at h
  by_cases ho : o.dryRunOnly ∧ o.skipDryRun
  · simp only [ho, and_self, if_true] at h
    rcases leads_bind.mp h with ⟨e, ht, rfl⟩ | ⟨_, _, _, _, ht, -, -⟩
    · obtain ⟨rfl, hr, rfl⟩ := leads_throw.mp ht
      cases hr
      exact .inl .contradictory
    · cases (leads_throw.mp ht).2.1
  simp only [ho, if_false] at h
  cases hk : d.skipsDryRun o with
  | true =>
    simp only [hk, if_true] at h
    have hskip : o.dryRunOnly = false ∧ (o.skipDryRun ∨ d.settings.disableDryRun) := by
      simpa [Dispatcher.skipsDryRun] using hk
    rcases leads_bind.mp h with ⟨e, hn, -⟩ | ⟨_, dryRun, w, es₂, hn, hg, rfl⟩
    · cases (leads_pure.mp hn).2.1
    obtain ⟨rfl, hs, rfl⟩ := leads_pure.mp hn
    cases hs
    simp only [hskip.1, Dispatcher.blocks, Bool.false_eq_true, or_self, if_false] at hg
    exact .inr ⟨_, _, _, _, .skipped hskip.1 hskip.2, hg, rfl⟩
  | false =>
    simp only [hk, Bool.false_eq_true, if_false] at h
    rcases leads_bind.mp h with ⟨e, hm, -⟩ | ⟨es₁, dryRun, w, es₂, hm, hg, rfl⟩
    · obtain ⟨r', hn, hr⟩ := leads_map.mp hm
      obtain ⟨_, a, -, -, rfl, -⟩ := leads_consult.mp hn
      cases hr
    obtain ⟨r', hn, hr⟩ := leads_map.mp hm
    obtain ⟨_, a, -, -, rfl, -⟩ := leads_consult.mp hn
    cases hr
    by_cases hb : o.dryRunOnly = true ∨ Dispatcher.blocks o (some a) = true
    · simp only [hb, if_true] at hg
      obtain ⟨rfl, rfl, rfl⟩ := leads_result.mp hg
      rw [List.append_nil]
      exact .inl (.simulated hn)
    · simp only [hb, if_false] at hg
      obtain ⟨hw, hb⟩ := not_or.mp hb
      refine .inr ⟨_, _, _, _, .allowed (by simpa using hw) ?_ hn ?_, hg, rfl⟩
      · simpa [Dispatcher.skipsDryRun, hw] using hk
      · cases ha : a.isSuccess <;> simp_all [Dispatcher.blocks]

theorem perform_cases {r : Except Failure Outcome} (h : Leads env (d.perform call o) u es r v) :
    Halted u es r v ∨
    ∃ es₁ dryRun tx w es₂, Cleared env d call o u es₁ dryRun tx w ∧
      Leads env (d.deliver call o dryRun tx) w es₂ r v ∧ es = es₁ ++ es₂ := by
  rcases perform_simulates h with rehearsed | ⟨es₁, dryRun, w, es₂, simulated, proceeds, rfl⟩
  · exact .inl rehearsed.halted
  rcases simulated.proceed proceeds with halted | ⟨es₃, tx, w', es₄, cleared, delivered, split⟩
  · exact .inl halted
  · exact .inr ⟨es₃, dryRun, tx, w', es₄, cleared, delivered, split⟩

theorem Simulated.perform {dryRun : Option DryRun} {es₁ es₂ : List (Event Desk)} {w : Scene σ}
    {r : Except Failure Outcome} (hs : Simulated env d call o u es₁ dryRun w)
    (h : Leads env (d.proceed call o dryRun) w es₂ r v) :
    Leads env (d.perform call o) u (es₁ ++ es₂) r v := by
  unfold Dispatcher.perform
  cases hs with
  | skipped wanted skip =>
    have hk : d.skipsDryRun o = true := by simpa [Dispatcher.skipsDryRun, wanted] using skip
    simp only [wanted, hk, Bool.false_eq_true, false_and, false_or, if_true, if_false]
    exact leads_bind.mpr (.inr ⟨_, none, _, _, leads_pure.mpr ⟨rfl, rfl, rfl⟩, h, rfl⟩)
  | @allowed _ a _ wanted made simulated allows =>
    have hk : d.skipsDryRun o = false := by simpa [Dispatcher.skipsDryRun, wanted] using made
    have hb : Dispatcher.blocks o (some a) = false := by
      cases ha : a.isSuccess <;> simp_all [Dispatcher.blocks]
    simp only [wanted, hk, Bool.false_eq_true, false_and, false_or, if_false]
    refine leads_bind.mpr (.inr ⟨_, some a, _, _, leads_map.mpr ⟨_, simulated, rfl⟩, ?_, rfl⟩)
    simpa only [hb, Bool.false_eq_true, if_false] using h

theorem Cleared.perform {dryRun : Option DryRun} {tx : Draft} {es₁ es₂ : List (Event Desk)}
    {w : Scene σ} {r : Except Failure Outcome} (hc : Cleared env d call o u es₁ dryRun tx w)
    (h : Leads env (d.deliver call o dryRun tx) w es₂ r v) :
    Leads env (d.perform call o) u (es₁ ++ es₂) r v := by
  obtain ⟨simulated, chain, priced, covered⟩ := hc
  simp only [List.append_assoc]
  refine simulated.perform (leads_bind.mpr (.inr ⟨_, _, _, _, chain, ?_, rfl⟩))
  refine leads_bind.mpr (.inr ⟨_, _, _, _, priced, ?_, rfl⟩)
  cases covered with
  | unchecked skip => simpa only [skip, Bool.false_eq_true, if_false, List.nil_append] using h
  | checked check passed =>
    simp only [check, if_true]
    exact leads_bind.mpr (.inr ⟨_, _, _, _, passed, h, rfl⟩)

theorem submit_leads {r : Except Failure Outcome} :
    Leads env (d.submit call o) u es r v ↔
      ∃ r', Leads env (d.perform call o) u es r' v ∧ r = r'.bind (Dispatcher.judge o) := by
  unfold Dispatcher.submit
  simp only [leads_bind, leads_result]
  constructor
  · rintro (⟨e, h, rfl⟩ | ⟨es₁, outcome, w, es₂, h, ⟨rfl, rfl, rfl⟩, rfl⟩)
    · exact ⟨_, h, rfl⟩
    · exact ⟨_, by rwa [List.append_nil], rfl⟩
  · rintro ⟨e | outcome, h, rfl⟩
    · exact .inl ⟨e, h, rfl⟩
    · exact .inr ⟨es, outcome, v, [], h, ⟨rfl, rfl, rfl⟩, by simp⟩

end
end Dispatch
