import Dispatch.Proofs.Polling

/-!
# Waiting for confirmations

A wait for confirmations asks for the number of the newest block and for nothing else. It is over
with the first number that is high enough, also with one that is told just when the time is up.
-/

set_option autoImplicit false

namespace Dispatch
open Program (Environment Event Moment)

def Receipt.ConfirmedBy (receipt : Receipt) (blocks current : UInt64) : Prop :=
  min (receipt.blockNumber.toNat + blocks.toNat) (UInt64.size - 1) ≤ current.toNat

theorem Receipt.confirmedBy_iff {receipt : Receipt} {blocks current : UInt64} :
    addWithin64 receipt.blockNumber blocks ≤ current ↔ receipt.ConfirmedBy blocks current := by
  rw [UInt64.le_iff_toNat_le, toNat_addWithin64, ConfirmedBy]

/-- The rounds of a wait from a time on, and what they come to. -/
inductive Watched (hash : Hash) (b : WaitBounds) (started : Nat) (target : UInt64) :
    Nat → List (Event Node) → Except Failure Unit → Prop
  | reached {time : Nat} {current : UInt64} (enough : target ≤ current) :
    Watched hash b started target time
      [.asked time NodeQuestion.blockNumber (.ok (ε := Failure) current)] (.ok ())
  | failed {time : Nat} {f : Failure} :
    Watched hash b started target time [.asked time NodeQuestion.blockNumber (.error f)] (.error f)
  | late {time : Nat} {current : UInt64} (below : ¬ target ≤ current)
      (up : started + b.timeout.nanos ≤ time) :
    Watched hash b started target time
      [.asked time NodeQuestion.blockNumber (.ok (ε := Failure) current)]
      (.error (.transactionTimeout (.hash hash) (.ofNanos (time - started))))
  | again {time : Nat} {current : UInt64} {es : List (Event Node)} {r : Except Failure Unit}
      (below : ¬ target ≤ current) (early : time < started + b.timeout.nanos)
      (rest : Watched hash b started target (b.wake started time) es r) :
    Watched hash b started target time
      (.asked time NodeQuestion.blockNumber (.ok (ε := Failure) current) ::
        .slept time (b.nap (.ofNanos (time - started))) :: es) r

inductive Unreached (target : UInt64) : Event Node → Prop
  | below {t : Nat} {current : UInt64} (low : ¬ target ≤ current) :
    Unreached target (.asked t NodeQuestion.blockNumber (.ok (ε := Failure) current))
  | slept {t : Nat} {d : Duration} : Unreached target (.slept t d)

/-- The last answer of a wait, and what it comes to. -/
inductive Concludes (hash : Hash) (b : WaitBounds) (started : Nat) (target : UInt64) :
    Event Node → Except Failure Unit → Prop
  | reached {t : Nat} {current : UInt64} (enough : target ≤ current) :
    Concludes hash b started target (.asked t NodeQuestion.blockNumber (.ok (ε := Failure) current))
      (.ok ())
  | failed {t : Nat} {f : Failure} :
    Concludes hash b started target (.asked t NodeQuestion.blockNumber (.error f)) (.error f)
  | late {current : UInt64} (low : ¬ target ≤ current) :
    Concludes hash b started target
      (.asked (started + b.timeout.nanos) NodeQuestion.blockNumber (.ok (ε := Failure) current))
      (.error (.transactionTimeout (.hash hash) b.timeout))

/-- What a wait for confirmations does, and what it comes to. -/
structure ConfirmationWait (receipt : Receipt) (blocks : UInt64) (b : WaitBounds) (started : Nat)
    (es : List (Event Node)) (r : Except Failure Unit) : Prop where
  asked : ∀ q ∈ questions es, q = .blockNumber
  queries : (questions es).length ≤ b.timeout.nanos ⌈/⌉ b.pollInterval.nanos + 1
  asleep : asleep es ≤ b.timeout.nanos
  stops : ∀ before t current after,
    es = before ++ .asked t NodeQuestion.blockNumber (.ok (ε := Failure) current) :: after →
      receipt.ConfirmedBy blocks current → after = [] ∧ r = .ok ()
  confirmed : r = .ok () ↔
    ∃ before t current after,
      es = before ++ .asked t NodeQuestion.blockNumber (.ok (ε := Failure) current) :: after ∧
        (∀ e ∈ before, e.failure? = none) ∧ receipt.ConfirmedBy blocks current
  failed : FailsAtOnce es r
  late : ∀ f, r = .error f → (∃ e ∈ es, e.failure? = some f) ∨
    f = .transactionTimeout (.hash receipt.hash) b.timeout ∧ (∀ e ∈ es, e.failure? = none) ∧
      (∀ (t : Nat) (current : UInt64),
        Event.asked (I := Node) t NodeQuestion.blockNumber (.ok (ε := Failure) current) ∈ es →
          ¬ receipt.ConfirmedBy blocks current) ∧
      ∃ before current, es = before ++
        [.asked (started + b.timeout.nanos) NodeQuestion.blockNumber (.ok (ε := Failure) current)]

section
variable {σ : Type} {env : Environment Node σ} {u v : Moment σ} {es : List (Event Node)}
  {hash : Hash} {b : WaitBounds} {started time : Nat} {target : UInt64} {r : Except Failure Unit}

/-! ## The rounds -/

theorem confirm_watched (prompt : Prompt env) (positive : 0 < b.pollInterval.nanos) {rounds : Nat}
    (h : Program.Leads env (Waiting.confirm hash b started target rounds).run u es r v)
    (begun : started ≤ u.time)
    (enough : b.polls (b.left started u.time) ≤ rounds) :
    Watched hash b started target u.time es r := by
  induction rounds generalizing u es with
  | zero => exact absurd enough (Nat.not_succ_le_zero _)
  | succ rounds ih =>
    have answered := prompt.after u .blockNumber
    cases confirm_round h with
    | unanswered => exact .failed
    | reached there => exact .reached there
    | late below waits up =>
      rw [answered] at waits
      rw [waits] at up ⊢
      exact .late below ((WaitBounds.timeout_le_ofNanos begun).mp up)
    | again below waits early rest =>
      rw [answered] at waits
      rw [waits, WaitBounds.timeout_le_ofNanos begun, Nat.not_le] at early
      have fewer := WaitBounds.polls_wake positive begun early
      have later := ih rest
      rw [Moment.past, answered, waits] at later
      rw [answered, waits]
      exact .again below early (later (Nat.le_trans begun (b.le_wake _ _))
        (Nat.le_of_lt_succ (Nat.lt_of_lt_of_le fewer enough)))

theorem waitForConfirmations_watched (prompt : Prompt env) (positive : 0 < b.pollInterval.nanos)
    {receipt : Receipt} {blocks : UInt64}
    (h : Program.Leads env (waitForConfirmations receipt blocks b).run u es r v) :
    Watched receipt.hash b u.time (addWithin64 receipt.blockNumber blocks) u.time es r := by
  refine confirm_watched prompt positive (waitForConfirmations_leads h) le_rfl ?_
  rw [b.left_self]
  exact WaitBounds.polls_timeout_le_rounds positive

theorem confirm_fragile (rounds : Nat) :
    (Waiting.confirm hash b started target rounds).run.Fragile := by
  induction rounds with
  | zero => exact fun _ => trivial
  | succ rounds ih =>
    refine Program.Fragile.bind Program.fragile_blockNumber fun current => ?_
    split
    · trivial
    · refine Program.Fragile.bind (p := ExceptT.lift (Program.since started)) (fun _ => trivial)
        fun waited => ?_
      split
      · trivial
      · exact Program.Fragile.bind (p := ExceptT.lift (Program.pause _)) trivial fun _ => ih

theorem waitForConfirmations_fragile (receipt : Receipt) (blocks : UInt64) (b : WaitBounds) :
    (waitForConfirmations receipt blocks b).run.Fragile :=
  Program.Fragile.bind (p := ExceptT.lift Program.now) (fun _ => trivial) fun _ => confirm_fragile _

theorem Watched.asked (h : Watched hash b started target time es r) :
    ∀ q ∈ questions es, q = .blockNumber := by
  induction h with
  | reached | failed | late => exact fun q asked => List.mem_singleton.mp asked
  | again _ _ _ ih => exact List.forall_mem_cons.mpr ⟨rfl, ih⟩

theorem Watched.queries (h : Watched hash b started target time es r)
    (positive : 0 < b.pollInterval.nanos)
    (begun : started ≤ time) : (questions es).length ≤ b.polls (b.left started time) := by
  induction h with
  | reached | failed | late => exact Nat.succ_le_succ (Nat.zero_le _)
  | @again _ _ es _ _ early rest ih =>
    have fewer := WaitBounds.polls_wake positive begun early
    have more := ih (Nat.le_trans begun (b.le_wake _ _))
    change (questions es).length + 1 ≤ _
    omega

theorem Watched.asleep (h : Watched hash b started target time es r)
    (left : time ≤ started + b.timeout.nanos) :
    asleep es ≤ b.left started time := by
  induction h with
  | reached | failed | late => exact Nat.zero_le _
  | @again time _ es _ _ early rest ih =>
    have fits := WaitBounds.nap_add_le left (ih (WaitBounds.wake_le left))
    change 0 + ((b.nap (.ofNanos (time - started))).nanos + Dispatch.asleep es) ≤ _
    rwa [Nat.zero_add]

theorem Watched.concludes (h : Watched hash b started target time es r) (begun : started ≤ time)
    (left : time ≤ started + b.timeout.nanos) :
    ∃ before last, es = before ++ [last] ∧ (∀ e ∈ before, Unreached target e) ∧
      Concludes hash b started target last r := by
  induction h with
  | reached enough => exact ⟨[], _, rfl, List.forall_mem_nil _, .reached enough⟩
  | failed => exact ⟨[], _, rfl, List.forall_mem_nil _, .failed⟩
  | late below up =>
    obtain rfl := Nat.le_antisymm left up
    rw [Nat.add_sub_cancel_left, Duration.ofNanos_nanos]
    exact ⟨[], _, rfl, List.forall_mem_nil _, .late below⟩
  | again below _ _ ih =>
    obtain ⟨before, last, rfl, low, concludes⟩ :=
      ih (Nat.le_trans begun (b.le_wake _ _)) (WaitBounds.wake_le left)
    exact ⟨_ :: _ :: before, last, rfl, by simpa using ⟨.below below, .slept, low⟩, concludes⟩

/-! ## The end -/

theorem Unreached.silent {e : Event Node} (h : Unreached target e) : e.failure? = none := by
  cases h <;> rfl

theorem Unreached.low_of_asked {t : Nat} {current : UInt64}
    (h : Unreached target (.asked t NodeQuestion.blockNumber (.ok (ε := Failure) current))) :
    ¬ target ≤ current := by
  cases h with
  | below low => exact low

theorem Concludes.ok_of_enough {t : Nat} {current : UInt64}
    (h : Concludes hash b started target
      (.asked t NodeQuestion.blockNumber (.ok (ε := Failure) current)) r)
    (enough : target ≤ current) : r = .ok () := by
  cases h with
  | reached => rfl
  | late low => exact absurd enough low

theorem Concludes.enough_of_ok {last : Event Node}
    (h : Concludes hash b started target last (.ok ())) :
    ∃ t current, last = .asked t NodeQuestion.blockNumber (.ok (ε := Failure) current) ∧
      target ≤ current := by
  cases h with
  | reached enough => exact ⟨_, _, rfl, enough⟩

theorem eq_last_of_split {α : Type} {before before' after : List α} {last e : α}
    (split : before ++ [last] = before' ++ e :: after) (fresh : e ∉ before) :
    e = last ∧ before' = before ∧ after = [] := by
  rcases List.append_eq_append_iff.mp split with ⟨more, rfl, rest⟩ | ⟨more, rfl, rest⟩
  · cases more with
    | nil =>
      obtain ⟨rfl, rfl⟩ := List.cons.inj rest
      exact ⟨rfl, List.append_nil _, rfl⟩
    | cons x more => simp at rest
  · cases more with
    | nil =>
      obtain ⟨rfl, rfl⟩ := List.cons.inj rest
      exact ⟨rfl, (List.append_nil _).symm, rfl⟩
    | cons x more =>
      obtain ⟨rfl, -⟩ := List.cons.inj rest
      exact absurd (List.mem_append_right _ List.mem_cons_self) fresh

theorem Watched.confirmationWait {receipt : Receipt} {blocks : UInt64}
    (h : Watched receipt.hash b started (addWithin64 receipt.blockNumber blocks) started es r)
    (positive : 0 < b.pollInterval.nanos) (failed : FailsAtOnce es r) :
    ConfirmationWait receipt blocks b started es r := by
  have queries := h.queries positive le_rfl
  have asleep := h.asleep (Nat.le_add_right _ _)
  rw [b.left_self] at queries asleep
  have asked := h.asked
  obtain ⟨before, last, rfl, low, concludes⟩ := h.concludes le_rfl (Nat.le_add_right _ _)
  refine ⟨asked, queries, asleep, ?stops, ?confirmed, failed, ?late⟩
  case stops =>
    intro before' t current after split enough
    rw [← Receipt.confirmedBy_iff] at enough
    obtain ⟨rfl, -, rfl⟩ := eq_last_of_split split fun early => (low _ early).low_of_asked enough
    exact ⟨rfl, concludes.ok_of_enough enough⟩
  case confirmed =>
    constructor
    · rintro rfl
      obtain ⟨t, current, rfl, enough⟩ := concludes.enough_of_ok
      exact ⟨before, t, current, [], rfl, fun e early => (low e early).silent,
        Receipt.confirmedBy_iff.mp enough⟩
    · rintro ⟨before', t, current, after, split, -, enough⟩
      rw [← Receipt.confirmedBy_iff] at enough
      obtain ⟨rfl, -, -⟩ := eq_last_of_split split fun early => (low _ early).low_of_asked enough
      exact concludes.ok_of_enough enough
  case late =>
    rintro f rfl
    cases concludes with
    | failed => exact .inl ⟨_, List.mem_append_right _ List.mem_cons_self, rfl⟩
    | late low' =>
      refine .inr ⟨rfl, fun e heard => ?_, fun t current heard => ?_, before, _, rfl⟩
      · rcases List.mem_append.mp heard with early | last
        · exact (low e early).silent
        · cases List.mem_singleton.mp last
          rfl
      · rw [← Receipt.confirmedBy_iff]
        rcases List.mem_append.mp heard with early | last
        · exact (low _ early).low_of_asked
        · cases List.mem_singleton.mp last
          exact low'

/-- A wait for confirmations ends within its timeout and after so many rounds. It ends with the
first block that is far enough, with the first failure of the node, or with an answer that came when
the time was just up. -/
theorem confirmations_are_waited_for (prompt : Prompt env) (positive : 0 < b.pollInterval.nanos)
    (receipt : Receipt) (blocks : UInt64) (t : Nat) (s : σ) :
    let wait := (waitForConfirmations receipt blocks b).run.run env t s
    ConfirmationWait receipt blocks b t wait.events wait.result :=
  have course := Program.leads_run env (waitForConfirmations receipt blocks b).run ⟨t, s⟩
  (waitForConfirmations_watched prompt positive course).confirmationWait positive
    (course.failsAtOnce (waitForConfirmations_fragile receipt blocks b))

theorem late_block_confirms :
    let wait := (waitForConfirmations lateReceipt 1 fourSeconds).run.run lateNode 0 ()
    wait.result = .ok () ∧ wait.time = 4000000000 ∧ (questions wait.events).length = 3 ∧
      ConfirmationWait lateReceipt 1 fourSeconds 0 wait.events wait.result :=
  ⟨rfl, rfl, rfl, confirmations_are_waited_for lateNode_prompt (by decide) lateReceipt 1 0 ()⟩

end

end Dispatch
