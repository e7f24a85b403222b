import Dispatch.Proofs.Clearance
import Dispatch.Proofs.OutsideCourse
import Dispatch.Proofs.QueueTraffic

/-!
# Deadlines

On a clock that only sleeps and waits for messages move, what is left of a timeout after one wait is
the timeout of the next. So a submission that was accepted ends within one timeout, however many
waits it takes.
-/

set_option autoImplicit false

namespace Dispatch
open Program (Environment Event Moment)

/-! ## Programs run through others -/

namespace Program

variable {I J : Interface} {α σ τ : Type}

/-- The environment in which each question is answered by a program. -/
def Environment.answering (answer : (q : I.Question) → σ → Program J (I.Answer q × σ))
    (env : Environment J τ) :
    Environment I (σ × τ) := fun q t s =>
  let r := (answer q s.1).run env t s.2
  ⟨r.result.1, (r.result.2, r.state), r.time⟩

theorem time_interpret (answer : (q : I.Question) → σ → Program J (I.Answer q × σ))
    (env : Environment J τ)
    (p : Program I α) (t : Nat) (s : σ) (e : τ) :
    ((p.interpret answer s).run env t e).time = (p.run (env.answering answer) t (s, e)).time := by
  induction p generalizing t s e with
  | done a => rfl
  | ask q next ih =>
    rw [interpret, run_bind]
    exact ih _ _ _ _
  | sleep d next ih => exact ih _ _ _
  | clock next ih => exact ih t t s e

def Environment.outsideNode (env : Environment Outside τ) : Environment Node τ := fun q t e =>
  let r := env (OutsideQuestion.node q) t e
  ⟨r.answer, r.state, r.time⟩

theorem time_toOutside (env : Environment Outside τ) (p : Program Node α) (t : Nat) (e : τ) :
    (p.toOutside.run env t e).time = (p.run env.outsideNode t e).time := by
  induction p generalizing t e with
  | done a => rfl
  | ask q next ih => exact ih _ _ _
  | sleep d next ih => exact ih _ _
  | clock next ih => exact ih t t e

/-- The environment that also writes down its replies, the last first. -/
def Environment.recorded (env : Environment I τ) :
    Environment I (τ × List ((q : I.Question) × Reply I τ q)) :=
  fun q t e =>
    let reply := env q t e.1
    ⟨reply.answer, (reply.state, ⟨q, reply⟩ :: e.2), reply.time⟩

def replies (env : Environment I τ) (p : Program I α) (t : Nat) (e : τ) :
    List ((q : I.Question) × Reply I τ q) :=
  (p.run env.recorded t (e, [])).state.2

theorem time_recorded (env : Environment I τ) (p : Program I α) (t : Nat) (e : τ)
    (written : List ((q : I.Question) × Reply I τ q)) :
    (p.run env.recorded t (e, written)).time = (p.run env t e).time := by
  induction p generalizing t e written with
  | done a => rfl
  | ask q next ih => exact ih _ _ _ _
  | sleep d next ih => exact ih _ _ _
  | clock next ih => exact ih t t e written

theorem Leads.recorded {env : Environment I τ} {p : Program I α}
    {u v : Moment (τ × List ((q : I.Question) × Reply I τ q))} {es : List (Event I)} {a : α}
    (h : p.Leads env.recorded u es a v) :
    ∀ x ∈ v.state.2, x ∈ u.state.2 ∨ ∃ t, .asked t x.1 x.2.answer ∈ es := by
  induction p generalizing u es with
  | done b =>
    obtain ⟨-, -, rfl⟩ := leads_done.mp h
    exact fun x hx => .inl hx
  | ask q next ih =>
    obtain ⟨rest, rfl, hr⟩ := leads_ask.mp h
    intro x hx
    rcases ih _ hr x hx with written | ⟨t, asked⟩
    · rcases List.mem_cons.mp written with rfl | before
      · exact .inr ⟨u.time, List.mem_cons_self⟩
      · exact .inl before
    · exact .inr ⟨t, List.mem_cons_of_mem _ asked⟩
  | sleep d next ih =>
    obtain ⟨rest, rfl, hr⟩ := leads_sleep.mp h
    intro x hx
    rcases ih hr x hx with before | ⟨t, asked⟩
    · exact .inl before
    · exact .inr ⟨t, List.mem_cons_of_mem _ asked⟩
  | clock next ih => exact ih _ (leads_clock.mp h)

end Program

/-! ## Waiting at the node -/

section
variable {σ : Type} {env : Environment Node σ} {u v : Moment σ} {es : List (Event Node)}
  {b : WaitBounds} {hash : Hash} {started : Nat}

theorem WaitBounds.nap_le_left (b : WaitBounds) (waited : Duration) :
    (b.nap waited).nanos ≤ b.timeout.nanos - waited.nanos := by
  unfold nap Duration.shorter
  split
  · assumption
  · exact Nat.le_refl _

theorem WaitBounds.add_nap_le (b : WaitBounds) {started time : Nat}
    (left : time ≤ started + b.timeout.nanos) :
    time + (b.nap (.ofNanos (time - started))).nanos ≤ started + b.timeout.nanos := by
  have bounded := b.timeout.bounded
  have cut := b.nap_le_left (.ofNanos (time - started))
  have waited :
    (Duration.ofNanos (time - started)).nanos = min (time - started) (Duration.bound - 1) := rfl
  omega

theorem WaitBounds.add_remaining_le (b : WaitBounds) {started time : Nat}
    (left : time ≤ started + b.timeout.nanos) :
    time + (b.remainingAfter (.ofNanos (time - started))).timeout.nanos ≤
      started + b.timeout.nanos := by
  have bounded := b.timeout.bounded
  have remaining : (b.remainingAfter (.ofNanos (time - started))).timeout.nanos =
      b.timeout.nanos - min (time - started) (Duration.bound - 1) := rfl
  omega

def Prompt (env : Environment Node σ) : Prop := ∀ q t s, (env q t s).time = t

theorem Prompt.after (prompt : Prompt env) (u : Moment σ) (q : NodeQuestion) :
    (u.after env q).time = u.time :=
  prompt q u.time u.state

theorem giveUp_time (prompt : Prompt env) {r : Except Failure Receipt}
    (h : Program.Leads env (Waiting.giveUp hash started).run u es r v) : v.time = u.time := by
  obtain ⟨answer, -, -, rfl⟩ := giveUp_leads h
  exact prompt.after u (.known hash)

theorem poll_time (prompt : Prompt env) {startBlock current : UInt64} {rounds : Nat}
    {r : Except Failure Receipt}
    (h : Program.Leads env (Waiting.poll hash b started startBlock rounds current).run u es r v)
    (left : u.time ≤ started + b.timeout.nanos) : v.time ≤ started + b.timeout.nanos := by
  induction rounds generalizing u es current with
  | zero =>
    rw [giveUp_time prompt h]
    exact left
  | succ rounds ih =>
    rw [← prompt.after u (.receipt hash)] at left
    cases poll_round h with
    | unanswered | found => exact left
    | gaveUp _ ends =>
      rw [giveUp_time prompt ends]
      exact left
    | lost _ napped woken =>
      rw [prompt.after, woken, napped]
      exact b.add_nap_le left
    | again _ napped woken rest =>
      apply ih rest
      rw [prompt.after, woken, napped]
      exact b.add_nap_le left

theorem waitForReceipt_time (prompt : Prompt env) {r : Except Failure Receipt}
    (h : Program.Leads env (waitForReceipt hash b).run u es r v) :
    v.time ≤ u.time + b.timeout.nanos := by
  have begun : (u.after env .blockNumber).time ≤ u.time + b.timeout.nanos := by
    rw [prompt.after]
    exact Nat.le_add_right _ _
  rcases waitForReceipt_leads h with ⟨f, -, -, rfl⟩ | ⟨start, rest, -, polled⟩
  · exact begun
  · exact poll_time prompt polled begun

theorem confirm_time (prompt : Prompt env) {target : UInt64} {rounds : Nat}
    {r : Except Failure Unit}
    (h : Program.Leads env (Waiting.confirm hash b started target rounds).run u es r v)
    (left : u.time ≤ started + b.timeout.nanos) : v.time ≤ started + b.timeout.nanos := by
  induction rounds generalizing u es with
  | zero =>
    obtain ⟨-, -, rfl⟩ := confirm_over h
    exact left
  | succ rounds ih =>
    rw [← prompt.after u .blockNumber] at left
    cases confirm_round h with
    | unanswered | reached | late => exact left
    | again _ waits _ rest =>
      rw [waits] at rest
      exact ih rest (b.add_nap_le left)

theorem waitForConfirmations_time (prompt : Prompt env) {receipt : Receipt} {blocks : UInt64}
    {r : Except Failure Unit}
    (h : Program.Leads env (waitForConfirmations receipt blocks b).run u es r v) :
    v.time ≤ u.time + b.timeout.nanos := by
  exact confirm_time prompt (waitForConfirmations_leads h) (Nat.le_add_right _ _)

end

/-! ## Waiting with a wallet -/

section
variable {σ τ : Type} {env : Environment Outside τ}

/-- Only sleeps and waits for messages take time, and a wait takes no longer than it may. -/
structure OnClock (env : Environment Outside τ) : Prop where
  prompt : ∀ q, (∀ n d, q ≠ .receive n d) → ∀ t e, (env q t e).time = t
  listens : ∀ n d t e, (env (.receive n d) t e).time ≤ t + d.nanos

def Backend.WaitsWithin (b : Backend σ) (env : Environment Outside τ) : Prop :=
  ∀ handle bounds s t e, (((b.wait handle bounds).run.run s).run env t e).time ≤
    t + bounds.timeout.nanos

theorem OnClock.node (clock : OnClock env) : Prompt env.outsideNode :=
  fun q => clock.prompt (.node q) nofun

theorem OnClock.waitAtNode (clock : OnClock env) (wallet : String) (handle : Handle)
    (b : WaitBounds) (s : σ) (t : Nat)
    (e : τ) : (((Backend.waitAtNode wallet handle b).run.run s).run env t e).time ≤
      t + b.timeout.nanos := by
  unfold Backend.waitAtNode
  cases handle.hash? with
  | none => exact Nat.le_add_right _ _
  | some h =>
    have asked :
      (((Action.ofNode (waitForReceipt h b) : Action σ Receipt).run.run s).run env t e).time =
        ((Program.toOutside (waitForReceipt h b).run).run env t e).time :=
      congrArg Program.Run.time
        (Program.run_bind env (Program.toOutside (waitForReceipt h b).run) _ t e)
    show (((Action.ofNode (waitForReceipt h b) : Action σ Receipt).run.run s).run env t e).time ≤ _
    rw [asked, Program.time_toOutside]
    exact waitForReceipt_time clock.node (Program.leads_run _ _ ⟨t, e⟩)

/-! ## Waiting in a queue -/

section
variable {u v : Moment (Queue.State × τ)} {es : List (Event Queue.Shared)} {id : String}

theorem register_time {r : Queue.Register} {a : r.Answer}
    (h : Program.Leads (env.answering Queue.State.answer)
      (.ask (I := Queue.Shared) (.register r) .done) u es a v) :
    v.time = u.time := by
  obtain ⟨-, -, rfl⟩ := (Program.leads_ask_done (I := Queue.Shared) (f := fun a => a)).mp h
  rfl

theorem outside_time {q : OutsideQuestion} {a : q.Answer}
    (h : Program.Leads (env.answering Queue.State.answer)
      (QueueWallet.share (.ask (I := Outside) q .done)) u es a v) :
    v.time = (env q u.time u.state.2).time := by
  obtain ⟨-, -, rfl⟩ := (Program.leads_ask_done (I := Queue.Shared) (f := fun a => a)).mp h
  rfl

theorem OnClock.release (clock : OnClock env) {ticket : Queue.Ticket} {r : Except QueueFailure Unit}
    (h : Program.Leads (env.answering Queue.State.answer) (QueueWallet.release ticket).run u
      es r v) :
    v.time = u.time := by
  obtain ⟨_, _, w, _, dropped, rest, -⟩ := Program.leads_except_lift_bind.mp h
  obtain ⟨_, _, w', _, forgot, rest, -⟩ := Program.leads_except_lift_bind.mp rest
  obtain ⟨-, -, rfl⟩ := Program.leads_except_pure.mp rest
  calc
    v.time = w.time := (outside_time forgot).trans (clock.prompt (.unsubscribe _) nofun _ _)
    _ = u.time := (outside_time dropped).trans (clock.prompt (.drop _) nofun _ _)

theorem OnClock.awaitCompletion (clock : OnClock env) {timeout : Duration}
    {r : Except QueueFailure Hash}
    (h : Program.Leads (env.answering Queue.State.answer)
      (QueueWallet.awaitCompletion id timeout).run u es r v) :
    v.time ≤ u.time + timeout.nanos := by
  obtain ⟨_, found, w, _, removed, looked, -⟩ := Program.leads_except_lift_bind.mp h
  rw [← register_time removed]
  cases found with
  | none =>
    obtain ⟨-, -, rfl⟩ := Program.leads_except_throw.mp looked
    exact Nat.le_add_right _ _
  | some ticket =>
    obtain ⟨_, started, w', _, now, began, -⟩ := Program.leads_except_lift_bind.mp looked
    obtain ⟨-, -, rfl⟩ := Program.leads_now.mp now
    obtain ⟨_, delivery, x, _, received, rest, -⟩ := Program.leads_except_lift_bind.mp began
    have waited : x.time ≤ w'.time + timeout.nanos := by
      rw [outside_time received]
      exact clock.listens _ _ _ _
    -- Whatever was delivered, the rest takes no time.
    cases delivery with
    | late =>
      obtain ⟨_, _, y, _, inserted, left, -⟩ := Program.leads_except_lift_bind.mp rest
      obtain ⟨_, elapsed, y', _, since, last, -⟩ := Program.leads_except_lift_bind.mp left
      obtain ⟨-, -, rfl⟩ := Program.leads_since.mp since
      obtain ⟨-, -, rfl⟩ := Program.leads_except_throw.mp last
      rw [register_time inserted]
      exact waited
    | closed =>
      rcases Program.leads_except_bind.mp rest with ⟨_, released, -⟩ |
        ⟨_, _, y, _, released, last, -⟩
      · rw [clock.release released]
        exact waited
      · obtain ⟨-, -, rfl⟩ := Program.leads_except_throw.mp last
        rw [clock.release released]
        exact waited
    | message payload =>
      rcases Program.leads_except_bind.mp rest with ⟨_, released, -⟩ |
        ⟨_, _, y, _, released, last, -⟩
      · rw [clock.release released]
        exact waited
      · obtain ⟨-, -, rfl⟩ := Program.leads_done.mp last
        rw [clock.release released]
        exact waited

theorem OnClock.awaiting (clock : OnClock env) (q : QueueWallet σ) (id : String)
    (timeout : Duration) (queue : Queue.State) (t : Nat) (e : τ) :
    (((q.program (.wait id timeout)).interpret (J := Outside) Queue.State.answer queue).run env t
      e).time ≤
      t + timeout.nanos := by
  rw [Program.time_interpret]
  have ends :=
    Program.run_bind (env.answering Queue.State.answer) (QueueWallet.awaitCompletion id timeout).run
    (fun r => .done (r.map Handle.hash)) t (queue, e)
  apply Nat.le_trans (Nat.le_of_eq (congrArg Program.Run.time ends))
  exact clock.awaitCompletion (Program.leads_run _ _ ⟨t, queue, e⟩)

theorem OnClock.queueWaits (clock : OnClock env) (q : QueueWallet σ)
    (base : q.base.WaitsWithin env) :
    q.backend.WaitsWithin env := by
  rintro handle bounds ⟨s, queue⟩ t e
  have alone : ∀ handle (b : WaitBounds) s queue t e,
      ((((q.base.wait handle b).run.run s).bind fun r =>
        .done (r.1, r.2, (queue : Queue.State))).run env t e).time ≤
        t + b.timeout.nanos := by
    intro handle b s queue t e
    rw [Program.run_bind]
    exact base handle b s t e
  cases handle with
  | hash h => exact alone (.hash h) bounds s queue t e
  | ticket id =>
    show (((q.wait (.ticket id) bounds).run.run (s, queue)).run env t e).time ≤ _
    rw [q.wait_ticket, Program.run, Program.run_bind]
    have awaited := clock.awaiting q id bounds.timeout queue t e
    revert awaited
    generalize Program.run env _ t e = first
    intro awaited
    obtain ⟨⟨r, queue'⟩, es, time, e'⟩ := first
    cases r with
    | error failure => exact awaited
    | ok handle =>
      have left := alone handle (bounds.remainingAfter (.ofNanos (time - t))) s queue' time e'
      exact Nat.le_trans left (bounds.add_remaining_le awaited)

end

end

/-! ## Submissions -/

section
open Step
variable {σ : Type} {d : Dispatcher} {call : Call} {o : Options} {es : List (Event Desk)}

/-- At the desk the node answers at once and a wait takes no longer than it may. -/
structure DeskOnClock (env : Environment Desk σ) : Prop where
  node : Prompt env.node
  waits : ∀ handle bounds t s, (env (.wait handle bounds) t s).time ≤ t + bounds.timeout.nanos

theorem DeskOnClock.recorded {env : Environment Desk σ} (clock : DeskOnClock env) :
    DeskOnClock env.recorded where
  node q t s := clock.node q t s.1
  waits handle bounds t s := clock.waits handle bounds t s.1

theorem Awaiting.time {env : Environment Desk σ} {u v : Scene σ} {handle : Handle}
    {r : Except Failure Receipt} (h : Awaiting env d o handle u es r v) (clock : DeskOnClock env) :
    v.time ≤ u.time + (d.bounds o).timeout.nanos := by
  have waited := clock.waits handle (d.bounds o) u.time u.state
  cases h with
  | unmined answer => exact waited
  | mined answer settled => exact waited
  | confirming answer success blocks confirmed =>
    obtain ⟨asked, course, -, -⟩ := leads_attempt.mp confirmed
    exact Nat.le_trans (waitForConfirmations_time clock.node course)
      ((d.bounds o).add_remaining_le waited)

section
variable {env : Environment Desk σ}
  {u v : Scene (σ × List ((q : DeskQuestion) × Program.Reply Desk σ q))} {tx : Draft}
    {hints : Hints} {reply : Program.Reply Desk σ (.send tx hints)}

def Scene.Sent (u : Scene (σ × List ((q : DeskQuestion) × Program.Reply Desk σ q))) (tx : Draft)
    (hints : Hints)
    (reply : Program.Reply Desk σ (.send tx hints)) : Prop :=
  ⟨.send tx hints, reply⟩ ∈ u.state.2

theorem Step.Leads.sent {α : Type} {p : Step α} {r : Except Failure α}
    (h : Leads env.recorded p u es r v) (quiet : ∀ e ∈ es, e.landmark? ≠ some .send)
    (sent : v.Sent tx hints reply) :
    u.Sent tx hints reply := by
  rcases Program.Leads.recorded h _ sent with before | ⟨t, asked⟩
  · exact before
  · exact absurd rfl (quiet _ asked)

theorem Covered.sent {tx' : Draft} (h : Covered env.recorded d tx' u es v)
    (sent : v.Sent tx hints reply) :
    u.Sent tx hints reply := by
  cases h with
  | unchecked => exact sent
  | checked _ passed => exact passed.sent ((checkBalance_quiet passed).1.ne .send) sent

theorem Simulated.sent {dryRun : Option DryRun} (h : Simulated env.recorded d call o u es dryRun v)
    (sent : v.Sent tx hints reply) : u.Sent tx hints reply := by
  cases h with
  | skipped => exact sent
  | allowed _ _ made =>
      exact made.sent ((consult_quiet made (simulator_only _ _ _ _)).1.ne .send) sent

theorem Cleared.sent {dryRun : Option DryRun} {tx' : Draft}
    (h : Cleared env.recorded d call o u es dryRun tx' v)
    (sent : v.Sent tx hints reply) : u.Sent tx hints reply := by
  obtain ⟨simulated, chain, priced, covered⟩ := h
  have uncovered := covered.sent sent
  have unpriced := priced.sent ((attempt_quiet priced (resolveFees_only _ _)).1.ne .send) uncovered
  exact simulated.sent (chain.sent ((resolveChain_quiet chain).1.ne .send) unpriced)

theorem Awaiting.sent {handle : Handle} {r : Except Failure Receipt}
    (h : Awaiting env.recorded d o handle u es r v) (sent : v.Sent tx hints reply) :
    u.Sent tx hints reply := by
  have waited : (u.after env.recorded (.wait handle (d.bounds o))).Sent tx hints reply →
    u.Sent tx hints reply := by
    intro sent
    rcases List.mem_cons.mp sent with same | before
    · cases same
    · exact before
  cases h with
  | unmined answer => exact waited sent
  | mined answer settled => exact waited sent
  | confirming answer success blocks confirmed =>
    exact waited (confirmed.sent ((confirmations_quiet confirmed).1.ne .send) sent)

theorem Sending.accepts {tx' : Draft} {hints' : Hints} {r : Except Failure Handle}
    (h : Sending env.recorded d o tx' hints' u es r v) (new : ¬u.Sent tx hints reply)
    (sent : v.Sent tx hints reply)
    (accepted : ∃ handle, reply.answer = .ok handle) : (∃ handle, r = .ok handle) ∧
      reply.time = v.time := by
  have unnumbered : ∀ {es r w}, Leads env.recorded (d.takeNonce o) u es r w →
    ¬w.Sent tx hints reply := by
    intro es r w taken written
    apply new
    apply taken.sent _ written
    intro e he
    rw [takeNonce_landmarks taken e he]
    simp
  cases h with
  | withoutNonce taken => exact absurd sent (unnumbered taken)
  | @refused _ nonce w _ taken answer =>
    rcases List.mem_cons.mp sent with same | before
    · cases same
      obtain ⟨handle, ok⟩ := accepted
      cases ok.symm.trans answer
    · exact absurd before (unnumbered taken)
  | accepted taken answer =>
    rcases List.mem_cons.mp sent with same | before
    · cases same
      exact ⟨⟨_, rfl⟩, rfl⟩
    · exact absurd before (unnumbered taken)

theorem submit_time {r : Except Failure Outcome} (clock : DeskOnClock env)
    (h : Leads env.recorded (d.submit call o) u es r v) (new : ¬u.Sent tx hints reply)
    (sent : v.Sent tx hints reply)
    (accepted : ∃ handle, reply.answer = .ok handle) :
    v.time ≤ reply.time + (d.bounds o).timeout.nanos := by
  obtain ⟨r', performed, -⟩ := submit_leads.mp h
  rcases perform_cases performed with halted | ⟨es₁, dryRun, tx', w, es₂, cleared, delivered, rfl⟩
  · exact absurd (h.sent (halted.quiet.ne .send) sent) new
  have unsent : ¬w.Sent tx hints reply := fun before => new (cleared.sent before)
  rcases deliver_cases delivered with ⟨e, sending, -⟩ | ⟨es₃, handle, w', sending, rest⟩
  · obtain ⟨⟨_, impossible⟩, -⟩ := sending.accepts unsent sent accepted
    cases impossible
  · rcases rest with ⟨-, -, -, rfl⟩ | ⟨-, es₄, r'', awaiting, -, -⟩
    · rw [(sending.accepts unsent sent accepted).2]
      exact Nat.le_add_right _ _
    · rw [(sending.accepts unsent (awaiting.sent sent) accepted).2]
      exact awaiting.time clock.recorded

end

end

section
variable {σ τ : Type} {env : Environment Outside τ} {b : Backend σ}

def Backend.desk (b : Backend σ) (env : Environment Outside τ) : Environment Desk (σ × τ) :=
  env.answering b.answer

theorem Backend.WaitsWithin.desk (waits : b.WaitsWithin env) (clock : OnClock env) :
    DeskOnClock (b.desk env) where
  node q t s := clock.node q t s.2
  waits handle bounds t s := waits handle bounds s.1 t s.2

theorem time_through {α : Type} (b : Backend σ) (env : Environment Outside τ) (step : Step α)
    (memory : Memory) (s : σ) (t : Nat) (e : τ) :
    (((Dispatcher.through b step).run.run (memory, s)).run env t e).time =
      ((step.run.run memory).run (b.desk env) t (s, e)).time := by
  have ends := Program.run_bind env (Program.interpret (J := Outside) b.answer (step.run memory) s)
    (fun r => .done (r.1.1, r.1.2, r.2)) t e
  apply (congrArg Program.Run.time ends).trans
  exact Program.time_interpret (I := Desk) b.answer env _ t s e

/-- Once a wallet has accepted a draft, a submission through it ends within its timeout. -/
def SubmitsInTime (env : Environment Outside τ) (b : Backend σ) (d : Dispatcher) (call : Call)
    (o : Options) : Prop :=
  ∀ (memory : Memory) (s : σ) (t : Nat) (e : τ) (tx : Draft) (hints : Hints)
    (reply : Program.Reply Desk (σ × τ) (.send tx hints)),
    ⟨.send tx hints, reply⟩ ∈ Program.replies (b.desk env) ((d.submit call o).run.run memory)
      t (s, e) →
    (∃ handle, reply.answer = .ok handle) →
    (((Dispatcher.through b (d.submit call o)).run.run (memory, s)).run env t e).time ≤
      reply.time + (o.timeout.getD d.settings.maxWaiting).nanos

theorem Backend.WaitsWithin.submits (waits : b.WaitsWithin env) (clock : OnClock env)
    (d : Dispatcher) (call : Call) (o : Options) : SubmitsInTime env b d call o := by
  intro memory s t e tx hints reply sent accepted
  let u : Scene ((σ × τ) × List ((q : DeskQuestion) × Program.Reply Desk (σ × τ) q)) :=
    ⟨⟨t, (s, e), []⟩, memory⟩
  have bounded :=
    submit_time (waits.desk clock) (Step.leads_enact (b.desk env).recorded (d.submit call o) u)
    List.not_mem_nil sent accepted
  rw [time_through, ← Program.time_recorded _ _ _ _ []]
  exact bounded

/-- The receipt and the blocks on top of it are waited for within one timeout, and in a queue the
completion too. -/
theorem submit_within_timeout (clock : OnClock env) (base : Backend σ) {wallet : String}
    (waits : base.wait = Backend.waitAtNode wallet) (d : Dispatcher) (call : Call) (o : Options) :
    SubmitsInTime env base d call o ∧
      ∀ pool lifetime, SubmitsInTime env (QueueWallet.mk base pool lifetime).backend d call o := by
  have within : base.WaitsWithin env := by
    intro handle bounds s t e
    rw [waits]
    exact clock.waitAtNode wallet handle bounds s t e
  constructor
  · exact within.submits clock d call o
  · intro pool lifetime
    exact (clock.queueWaits ⟨base, pool, lifetime⟩ within).submits clock d call o

end

/-! ## A submission that is never mined -/

def idleOutside : Environment Outside Unit := fun q t s =>
  match q with
  | .receive _ d => ⟨.late, s, t + d.nanos⟩
  | .node (.receipt _) => ⟨.ok none, s, t⟩
  | .node (.known _) => ⟨.ok true, s, t⟩
  | .node .blockNumber => ⟨.ok 1, s, t⟩
  | q => ⟨q.refusal, s, t⟩

theorem idle_onClock : OnClock idleOutside where
  prompt q other t s := by
    cases q with
    | receive n d => exact absurd rfl (other n d)
    | node q => cases q <;> rfl
    | _ => rfl
  listens n d t s := Nat.le_refl _

def accepting : Backend Unit where
  address := .zero
  publicKey := .zero
  sign _ := throw (.unsupported "accepting" "sign")
  signHash _ := throw (.unsupported "accepting" "sign_hash")
  send _ _ := pure (.hash .zero)
  wait := Backend.waitAtNode "accepting"

def patientDispatcher : Dispatcher :=
  { account := .zero, settings := { Settings.standard with checkBalance := false },
    nonceSource := .network }

def patientOptions : Options :=
  { Options.standard with
    skipDryRun := true, nonce := some 0, gasPrice := some 1, timeout := some (.ofSeconds 4) }

def patientMemory : Memory := ⟨some 1, []⟩

def patientSubmission : Step Outcome := patientDispatcher.submit (.ofData .zero []) patientOptions

def patientDraft : Draft :=
  patientDispatcher.draft (.ofData .zero []) patientOptions none 1 (.legacy 1)

theorem patient_accepted :
    ⟨.send patientDraft (Dispatcher.hints (.ofData .zero []) patientOptions), ⟨.ok (.hash .zero),
      ((), ()), 0⟩⟩ ∈
      Program.replies (accepting.desk
        idleOutside) (patientSubmission.run.run patientMemory) 0 ((), ()) :=
  .tail _ (.head _)

theorem patient_ends_in_time :
    (((Dispatcher.through accepting patientSubmission).run.run (patientMemory, ())).run idleOutside
      0 ()).time = 4000000000 ∧
      (((Dispatcher.through accepting patientSubmission).run.run (patientMemory, ())).run
        idleOutside 0 ()).time ≤
        0 + (Duration.ofSeconds 4).nanos := by
  constructor
  · rfl
  · have inTime := submit_within_timeout idle_onClock accepting rfl patientDispatcher
      (.ofData .zero []) patientOptions
    exact inTime.1 patientMemory () 0 () _ _ _ patient_accepted ⟨_, rfl⟩

end Dispatch
