import Dispatch.Proofs.Confirmations
import Dispatch.Proofs.NodeFailures
import Dispatch.Proofs.OutsideCourse
import Mathlib.Algebra.Order.Floor.Div

/-!
# Polling

A wait asks, and sleeps no longer than the time left before it asks again. Between intervals of some
length it asks at most once more than there are intervals in its timeout, a last one cut short
counted as one. What it comes to is told by its last questions: nothing that counts is passed over,
and nothing is given up before its time.
-/

set_option autoImplicit false

namespace Dispatch
open Program (Environment Event Moment)

/-! ## The time left -/

theorem Duration.ofNanos_nanos (d : Duration) : Duration.ofNanos d.nanos = d := by
  have bounded := d.bounded
  unfold Duration.ofNanos
  congr 1
  omega

namespace WaitBounds

variable {b : WaitBounds} {started time : Nat}

def left (b : WaitBounds) (started time : Nat) : Nat := started + b.timeout.nanos - time

def wake (b : WaitBounds) (started time : Nat) : Nat :=
  time + (b.nap (.ofNanos (time - started))).nanos

def polls (b : WaitBounds) (left : Nat) : Nat := left ⌈/⌉ b.pollInterval.nanos + 1

theorem left_self (b : WaitBounds) (started : Nat) : b.left started started = b.timeout.nanos :=
  Nat.add_sub_cancel_left _ _

theorem wake_le (left : time ≤ started + b.timeout.nanos) :
    b.wake started time ≤ started + b.timeout.nanos :=
  b.add_nap_le left

theorem le_wake (b : WaitBounds) (started time : Nat) : time ≤ b.wake started time :=
  Nat.le_add_right _ _

theorem timeout_le_ofNanos (begun : started ≤ time) :
    b.timeout ≤ .ofNanos (time - started) ↔ started + b.timeout.nanos ≤ time := by
  have bounded := b.timeout.bounded
  change b.timeout.nanos ≤ min (time - started) (Duration.bound - 1) ↔ _
  omega

theorem nap_nanos {waited : Duration} :
    (b.nap waited).nanos = min b.pollInterval.nanos (b.timeout.nanos - waited.nanos) := by
  unfold nap Duration.shorter
  split
  case isTrue fits => exact (Nat.min_eq_left fits).symm
  case isFalse cut => exact (Nat.min_eq_right (Nat.le_of_lt (Nat.lt_of_not_le cut))).symm

theorem left_wake (begun : started ≤ time) (early : time < started + b.timeout.nanos) :
    b.left started (b.wake started time) = b.left started time - b.pollInterval.nanos := by
  have bounded := b.timeout.bounded
  have waited :
    (Duration.ofNanos (time - started)).nanos = min (time - started) (Duration.bound - 1) := rfl
  rw [left, wake, left, nap_nanos, waited]
  omega

theorem polls_wake (positive : 0 < b.pollInterval.nanos) (begun : started ≤ time)
    (early : time < started + b.timeout.nanos) :
    b.polls (b.left started (b.wake started time)) < b.polls (b.left started time) := by
  rw [left_wake begun early]
  have some_left : 0 < b.left started time := Nat.sub_pos_of_lt early
  generalize b.left started time = left at some_left
  have covered : left ≤ b.pollInterval.nanos * (left ⌈/⌉ b.pollInterval.nanos) :=
    (ceilDiv_le_iff_le_mul positive).mp le_rfl
  have some_interval : 0 < left ⌈/⌉ b.pollInterval.nanos := by
    apply Nat.pos_of_ne_zero
    intro none
    rw [none, Nat.mul_zero] at covered
    exact absurd covered (Nat.not_le.mpr some_left)
  have fewer :
    (left - b.pollInterval.nanos) ⌈/⌉ b.pollInterval.nanos ≤ left ⌈/⌉ b.pollInterval.nanos - 1 := by
    rw [ceilDiv_le_iff_le_mul positive, Nat.mul_sub_one]
    exact Nat.sub_le_sub_right covered _
  unfold polls
  omega

theorem polls_timeout_le_rounds (positive : 0 < b.pollInterval.nanos) :
    b.polls b.timeout.nanos ≤ b.rounds := by
  rw [rounds, if_neg (Nat.pos_iff_ne_zero.mp positive)]
  apply Nat.succ_le_succ
  rw [ceilDiv_le_iff_le_mul positive]
  exact Nat.le_of_lt (Nat.lt_mul_div_succ _ positive)

end WaitBounds

/-! ## Read off the events -/

def Program.Event.nanos : Event Node → Nat
  | .asked _ _ _ => 0
  | .slept _ d => d.nanos

def asleep (es : List (Event Node)) : Nat := (es.map Event.nanos).sum

def Program.Event.block? : Event Node → Option UInt64
  | .asked _ .blockNumber (.ok n) => some n
  | _ => none

def blocks (es : List (Event Node)) : List UInt64 := es.filterMap Event.block?

/-! ## Waiting for a receipt -/

/-- The time is up, or more blocks have passed than are to be waited for. -/
def WaitBounds.Spent (b : WaitBounds) (started : Nat) (start : UInt64) (time : Nat)
    (current : UInt64) : Prop :=
  started + b.timeout.nanos ≤ time ∨
    min (start.toNat + b.blocksToWait.toNat) (UInt64.size - 1) < current.toNat

theorem WaitBounds.spent_iff {b : WaitBounds} {started time : Nat} {start current : UInt64}
    (begun : started ≤ time) :
    b.timeout ≤ .ofNanos (time - started) ∨ addWithin64 start b.blocksToWait < current ↔
      b.Spent started start time current := by
  rw [timeout_le_ofNanos begun, UInt64.lt_iff_toNat_lt, toNat_addWithin64, Spent]

theorem WaitBounds.early_of_unspent {b : WaitBounds} {started time : Nat} {start current : UInt64}
    (unspent : ¬ b.Spent started start time current) : time < started + b.timeout.nanos :=
  Nat.lt_of_not_le fun up => unspent (.inl up)

/-- The rounds of polling from a time on, when the last known block is `current`, and what they come
to. -/
inductive Polled (hash : Hash) (b : WaitBounds) (started : Nat) (start : UInt64) :
    Nat → UInt64 → List (Event Node) → Except Failure Receipt → Prop
  | found {time : Nat} {current : UInt64} {receipt : Receipt} :
    Polled hash b started start time current
      [.asked time (.receipt hash) (.ok (ε := Failure) (some receipt))]
      (.ok receipt)
  | unanswered {time : Nat} {current : UInt64} {f : Failure} :
    Polled hash b started start time current [.asked time (.receipt hash) (.error f)] (.error f)
  | gaveUp {time : Nat} {current : UInt64} {answer : Except Failure Bool}
      (spent : b.Spent started start time current) :
    Polled hash b started start time current
      [.asked time (.receipt hash) (.ok (ε := Failure) none), .asked time (.known hash) answer]
      (verdict hash (.ofNanos (time - started)) answer)
  | lost {time : Nat} {current : UInt64} {f : Failure}
      (unspent : ¬ b.Spent started start time current) :
    Polled hash b started start time current
      [.asked time (.receipt hash) (.ok (ε := Failure) none), .slept time
        (b.nap (.ofNanos (time - started))),
        .asked (b.wake started time) NodeQuestion.blockNumber (.error f)] (.error f)
  | again {time : Nat} {current next : UInt64} {es : List (Event Node)} {r : Except Failure Receipt}
      (unspent : ¬ b.Spent started start time current)
      (rest : Polled hash b started start (b.wake started time) next es r) :
    Polled hash b started start time current
      (.asked time (.receipt hash) (.ok (ε := Failure) none) :: .slept time
        (b.nap (.ofNanos (time - started))) ::
        .asked (b.wake started time) NodeQuestion.blockNumber (.ok (ε := Failure) next) :: es) r

section
variable {σ : Type} {env : Environment Node σ} {u v : Moment σ} {es : List (Event Node)}
  {hash : Hash} {b : WaitBounds} {started time : Nat} {start current : UInt64}
  {r : Except Failure Receipt}

theorem poll_polled (prompt : Prompt env) (positive : 0 < b.pollInterval.nanos) {rounds : Nat}
    (h : Program.Leads env (Waiting.poll hash b started start rounds current).run u es r v)
    (begun : started ≤ u.time)
    (enough : b.polls (b.left started u.time) ≤ rounds) :
    Polled hash b started start u.time current es r := by
  induction rounds generalizing u es current with
  | zero => exact absurd enough (Nat.not_succ_le_zero _)
  | succ rounds ih =>
    have answered := prompt.after u (.receipt hash)
    cases poll_round h with
    | unanswered => exact .unanswered
    | found => exact .found
    | gaveUp spent ends =>
      obtain ⟨answer, rfl, rfl, rfl⟩ := giveUp_leads ends
      rw [answered, WaitBounds.spent_iff begun] at spent
      rw [answered, prompt.after, answered]
      exact .gaveUp spent
    | lost unspent napped woken =>
      rw [answered, WaitBounds.spent_iff begun] at unspent
      rw [woken, napped, Moment.past, answered]
      exact .lost unspent
    | @again _ w nap next _ _ unspent napped woken rest =>
      rw [answered, WaitBounds.spent_iff begun] at unspent
      have slept :
        w.time = b.wake started u.time := by
        rw [woken, napped, Moment.past, answered, WaitBounds.wake]
      have fewer := WaitBounds.polls_wake positive begun (WaitBounds.early_of_unspent unspent)
      have later := ih rest
      rw [prompt.after, slept] at later
      rw [slept, napped, answered]
      exact .again unspent (later (Nat.le_trans begun (b.le_wake _ _)) (by omega))

theorem Polled.queries (h : Polled hash b started start time current es r)
    (positive : 0 < b.pollInterval.nanos) (begun : started ≤ time) :
    (questions es).count (.receipt hash) ≤ b.polls (b.left started time) := by
  induction h with
  | found | unanswered =>
    change [NodeQuestion.receipt hash].count (.receipt hash) ≤ _
    simp [WaitBounds.polls]
  | gaveUp =>
    change [NodeQuestion.receipt hash, .known hash].count (.receipt hash) ≤ _
    simp [WaitBounds.polls]
  | lost =>
    change [NodeQuestion.receipt hash, .blockNumber].count (.receipt hash) ≤ _
    simp [WaitBounds.polls]
  | @again _ _ _ es _ unspent rest ih =>
    have fewer := WaitBounds.polls_wake positive begun (WaitBounds.early_of_unspent unspent)
    have more := ih (Nat.le_trans begun (b.le_wake _ _))
    change (NodeQuestion.receipt hash :: .blockNumber :: questions es).count (.receipt hash) ≤ _
    rw [List.count_cons_self, List.count_cons_of_ne NodeQuestion.noConfusion]
    omega

theorem WaitBounds.nap_add_le (left : time ≤ started + b.timeout.nanos) {n : Nat}
    (more : n ≤ b.left started (b.wake started time)) :
    (b.nap (.ofNanos (time - started))).nanos + n ≤ b.left started time := by
  have awake := wake_le left
  unfold wake at awake more
  unfold WaitBounds.left at more ⊢
  omega

theorem Polled.asleep (h : Polled hash b started start time current es r)
    (left : time ≤ started + b.timeout.nanos) :
    asleep es ≤ b.left started time := by
  induction h with
  | found | unanswered | gaveUp => exact Nat.zero_le _
  | @lost time =>
    have fits : _ + 0 ≤ _ := WaitBounds.nap_add_le left (Nat.zero_le _)
    change 0 + ((b.nap (.ofNanos (time - started))).nanos + 0) ≤ _
    rwa [Nat.zero_add]
  | @again time _ _ es _ unspent rest ih =>
    have fits := WaitBounds.nap_add_le left (ih (WaitBounds.wake_le left))
    change 0 + ((b.nap (.ofNanos (time - started))).nanos + (0 + Dispatch.asleep es)) ≤ _
    rwa [Nat.zero_add, Nat.zero_add]

inductive Unsettled (hash : Hash) : Event Node → Prop
  | unmined {t : Nat} : Unsettled hash (.asked t (.receipt hash) (.ok (ε := Failure) none))
  | slept {t : Nat} {d : Duration} : Unsettled hash (.slept t d)
  | block {t : Nat} {n : UInt64} :
      Unsettled hash (.asked t NodeQuestion.blockNumber (.ok (ε := Failure) n))

inductive Settles (hash : Hash) (started : Nat) : Event Node → Except Failure Receipt → Prop
  | found {t : Nat} {receipt : Receipt} :
    Settles hash started (.asked t (.receipt hash) (.ok (ε := Failure) (some receipt)))
      (.ok receipt)
  | failed {e : Event Node} {f : Failure} (heard : e.failure? = some f) :
      Settles hash started e (.error f)
  | judged {t : Nat} {known : Bool} :
    Settles hash started (.asked t (.known hash) (.ok (ε := Failure) known))
      (verdict hash (.ofNanos (t - started)) (.ok known))

theorem Polled.settles (h : Polled hash b started start time current es r) :
    ∃ before last, es = before ++ [last] ∧ (∀ e ∈ before, Unsettled hash e) ∧
      Settles hash started last r := by
  induction h with
  | found => exact ⟨[], _, rfl, List.forall_mem_nil _, .found⟩
  | unanswered => exact ⟨[], _, rfl, List.forall_mem_nil _, .failed rfl⟩
  | @gaveUp _ _ answer =>
    refine ⟨[_], _, rfl, by simpa using .unmined, ?_⟩
    cases answer with
    | ok known => exact .judged
    | error f => exact .failed rfl
  | lost => exact ⟨[_, _], _, rfl, by simpa using ⟨.unmined, .slept⟩, .failed rfl⟩
  | again _ _ ih =>
    obtain ⟨before, last, rfl, unsettled, settled⟩ := ih
    exact ⟨_ :: _ :: _ :: before, last,
      rfl, by simpa using ⟨.unmined, .slept, .block, unsettled⟩, settled⟩

theorem Unsettled.silent {e : Event Node} (h : Unsettled hash e) : e.failure? = none := by
  cases h <;> rfl

theorem Unsettled.unmined_of_asked {t : Nat} {answer : Except Failure (Option Receipt)}
    (h : Unsettled hash (.asked t (.receipt hash) answer)) : answer = .ok none := by
  cases h
  rfl

theorem Settles.receipt_of_ok {e : Event Node} {receipt : Receipt}
    (h : Settles hash started e (.ok receipt)) :
    ∃ t, e = .asked t (.receipt hash) (.ok (ε := Failure) (some receipt)) := by
  generalize result : Except.ok receipt = r at h
  cases h with
  | found =>
    cases result
    exact ⟨_, rfl⟩
  | failed => cases result
  | @judged _ known => cases known <;> cases result

theorem Settles.ok_of_receipt {t : Nat} {receipt : Receipt}
    (h : Settles hash started (.asked t (.receipt hash) (.ok (ε := Failure) (some receipt))) r) :
    r = .ok receipt := by
  cases h with
  | found => rfl
  | failed heard => cases heard

theorem Polled.gaveUp_of_known (h : Polled hash b started start time current es r)
    (begun : started ≤ time) (left : time ≤ started + b.timeout.nanos)
    (known : .known hash ∈ questions es) :
    ∃ before t answer,
      es = before ++ [.asked t (.receipt hash) (.ok (ε := Failure) none), .asked t (.known hash)
        answer] ∧
      .known hash ∉ questions before ∧ b.Spent started start t ((blocks before).getLastD current) ∧
      started ≤ t ∧ t ≤ started + b.timeout.nanos ∧
        r = verdict hash (.ofNanos (t - started)) answer := by
  induction h with
  | found | unanswered =>
    change NodeQuestion.known hash ∈ [NodeQuestion.receipt hash] at known
    simp at known
  | lost =>
    change NodeQuestion.known hash ∈ [NodeQuestion.receipt hash, .blockNumber] at known
    simp at known
  | @gaveUp time current answer spent =>
    exact ⟨[], time, answer, rfl, List.not_mem_nil, spent, begun, left, rfl⟩
  | @again time current next es r unspent rest ih =>
    have later : NodeQuestion.known hash ∈ questions es := by
      change NodeQuestion.known hash ∈ NodeQuestion.receipt hash :: .blockNumber ::
        questions es at known
      simpa using known
    obtain ⟨before, t, answer, rfl, once, spent, after, within, result⟩ :=
      ih (Nat.le_trans begun (b.le_wake _ _)) (WaitBounds.wake_le left) later
    refine ⟨_ :: _ :: _ :: before, t, answer, rfl, ?_, ?_, after, within, result⟩
    · change NodeQuestion.known hash ∉ NodeQuestion.receipt hash :: .blockNumber :: questions before
      simpa using once
    · change b.Spent started start t ((next :: blocks before).getLastD current)
      rwa [List.getLastD_cons]

end

/-- A wait that asked whether the node knows the transaction did so once: right after the node had
no receipt, when the time was up or more blocks had passed since the first than are to be waited
for. -/
inductive GaveUp (hash : Hash) (b : WaitBounds) (started : Nat) : List (Event Node) →
    Except Failure Receipt → Prop
  | asked {before : List (Event Node)} {t : Nat} {answer : Except Failure Bool}
      {first last : UInt64} {waited : Duration}
      (start : (blocks before).head? = some first) (current : (blocks before).getLast? = some last)
      (spent : b.Spent started first t last) (once : .known hash ∉ questions before)
      (elapsed : waited.nanos = t - started) (within : waited ≤ b.timeout) :
    GaveUp hash b started
      (before ++ [.asked t (.receipt hash) (.ok (ε := Failure) none),
        .asked t (.known hash) answer])
      (verdict hash waited answer)

/-- What a wait for a receipt does, and what it comes to. -/
structure ReceiptWait (hash : Hash) (b : WaitBounds) (started : Nat) (es : List (Event Node))
    (r : Except Failure Receipt) : Prop where
  queries : (questions es).count (.receipt hash) ≤ b.timeout.nanos ⌈/⌉ b.pollInterval.nanos + 1
  asleep : asleep es ≤ b.timeout.nanos
  /-- A receipt is returned just when the node gives it, after nothing but answers without one. -/
  found : ∀ receipt, r = .ok receipt ↔
    ∃ before t after, es = before ++ .asked t (.receipt hash) (.ok (ε := Failure) (some receipt)) ::
      after ∧
      (∀ e ∈ before, e.failure? = none) ∧
      ∀ (t : Nat) (answer : Except Failure (Option Receipt)),
        Event.asked (I := Node) t (NodeQuestion.receipt hash) answer ∈ before → answer = .ok none
  failed : FailsAtOnce es r
  gaveUp : .known hash ∈ questions es → GaveUp hash b started es r
  settled : (∃ receipt, r = .ok receipt) ∨ (∃ e ∈ es, ∃ f, e.failure? = some f ∧ r = .error f) ∨
    .known hash ∈ questions es

section
variable {σ : Type} {env : Environment Node σ} {u v : Moment σ} {es : List (Event Node)}
  {hash : Hash} {b : WaitBounds} {started : Nat} {start : UInt64} {r : Except Failure Receipt}

theorem giveUp_fragile : (Waiting.giveUp hash started).run.Fragile := by
  refine Program.Fragile.bind (Program.fragile_ask (q := .known hash) fun _ _ => failed?_eq_some.mp)
    fun known => ?_
  cases known with
  | true => exact fun _ => trivial
  | false => trivial

theorem poll_fragile (rounds : Nat) (current : UInt64) :
    (Waiting.poll hash b started start rounds current).run.Fragile := by
  induction rounds generalizing current with
  | zero => exact giveUp_fragile
  | succ rounds ih =>
    refine Program.Fragile.bind (Program.fragile_ask (q := .receipt hash) fun _ _ =>
      failed?_eq_some.mp) fun found => ?_
    cases found with
    | some receipt => trivial
    | none =>
      refine Program.Fragile.bind (p := ExceptT.lift (Program.since started)) (fun _ => trivial)
        fun waited => ?_
      split
      · exact giveUp_fragile
      · exact Program.Fragile.bind (p := ExceptT.lift (Program.pause _)) trivial fun _ =>
          Program.Fragile.bind Program.fragile_blockNumber ih

theorem waitForReceipt_fragile (hash : Hash) (b : WaitBounds) :
    (waitForReceipt hash b).run.Fragile :=
  Program.Fragile.bind (p := ExceptT.lift Program.now) (fun _ => trivial) fun _ =>
    Program.Fragile.bind Program.fragile_blockNumber fun _ => poll_fragile _ _

theorem waitForReceipt_polled (prompt : Prompt env) (positive : 0 < b.pollInterval.nanos)
    (h : Program.Leads env (waitForReceipt hash b).run u es r v) :
    (∃ f, es = [.asked u.time NodeQuestion.blockNumber (.error f)] ∧ r = .error f) ∨
      ∃ start rest, es = .asked u.time NodeQuestion.blockNumber (.ok (ε := Failure) start) :: rest ∧
        Polled hash b u.time start u.time start rest r := by
  rcases waitForReceipt_leads h with ⟨f, rfl, rfl, -⟩ | ⟨start, rest, rfl, polled⟩
  · exact .inl ⟨f, rfl, rfl⟩
  have rounds := poll_polled prompt positive polled
  rw [prompt.after, b.left_self] at rounds
  exact .inr ⟨start, rest, rfl, rounds (Nat.le_refl _)
    (WaitBounds.polls_timeout_le_rounds positive)⟩

theorem Polled.found_iff (h : Polled hash b started start started start es r) (receipt : Receipt) :
    r = .ok receipt ↔
      ∃ before t after,
        .asked started NodeQuestion.blockNumber (.ok (ε := Failure) start) :: es =
          before ++ .asked t (.receipt hash) (.ok (ε := Failure) (some receipt)) :: after ∧
        (∀ e ∈ before, e.failure? = none) ∧
        ∀ (t : Nat) (answer : Except Failure (Option Receipt)),
          Event.asked (I := Node) t (NodeQuestion.receipt hash) answer ∈ before →
            answer = .ok none := by
  obtain ⟨before, last, rfl, unsettled, settles⟩ := h.settles
  constructor
  · rintro rfl
    obtain ⟨t, rfl⟩ := settles.receipt_of_ok
    refine ⟨_ :: before, t, [], rfl, List.forall_mem_cons.mpr
      ⟨rfl, fun e he => (unsettled e he).silent⟩, ?_⟩
    intro t answer heard
    rcases List.mem_cons.mp heard with first | heard
    · cases first
    · exact (unsettled _ heard).unmined_of_asked
  · rintro ⟨before', t, after, split, -, -⟩
    have heard : .asked t (NodeQuestion.receipt hash) (.ok (ε := Failure) (some receipt)) ∈
        Event.asked (I := Node) started NodeQuestion.blockNumber (.ok (ε := Failure) start) ::
          (before ++ [last]) := by
      rw [split]
      exact List.mem_append_right _ List.mem_cons_self
    rcases List.mem_cons.mp heard with first | heard
    · cases first
    rcases List.mem_append.mp heard with early | heard
    · cases (unsettled _ early).unmined_of_asked
    · cases List.mem_singleton.mp heard
      exact settles.ok_of_receipt

theorem Polled.receiptWait (h : Polled hash b started start started start es r)
    (positive : 0 < b.pollInterval.nanos)
    (failed : FailsAtOnce (.asked started NodeQuestion.blockNumber (.ok (ε := Failure) start) :: es)
      r) :
    ReceiptWait hash b started
      (.asked started NodeQuestion.blockNumber (.ok (ε := Failure) start) :: es) r where
  queries := by
    change (NodeQuestion.blockNumber :: questions es).count (.receipt hash) ≤ _
    rw [List.count_cons_of_ne NodeQuestion.noConfusion, ← b.left_self started]
    exact h.queries positive le_rfl
  asleep := by
    change 0 + Dispatch.asleep es ≤ _
    rw [Nat.zero_add, ← b.left_self started]
    exact h.asleep (Nat.le_add_right _ _)
  found := h.found_iff
  failed := failed
  gaveUp known := by
    have later : NodeQuestion.known hash ∈ questions es := by
      change NodeQuestion.known hash ∈ NodeQuestion.blockNumber :: questions es at known
      simpa using known
    obtain ⟨before, t, answer, rfl, once, spent, after, within, rfl⟩ :=
      h.gaveUp_of_known le_rfl (Nat.le_add_right _ _) later
    have bounded := b.timeout.bounded
    have elapsed : (Duration.ofNanos (t - started)).nanos = t - started := by
      change min (t - started) (Duration.bound - 1) = _
      omega
    change GaveUp hash b started ((_ :: before) ++ _) _
    refine .asked rfl ?_ spent ?_ elapsed ?_
    · rw [List.getLastD_eq_getLast?]
      exact List.getLast?_cons
    · change NodeQuestion.known hash ∉ NodeQuestion.blockNumber :: questions before
      simpa using once
    · change (Duration.ofNanos (t - started)).nanos ≤ _
      omega
  settled := by
    obtain ⟨before, last, rfl, -, settles⟩ := h.settles
    have heard :
      last ∈ Event.asked (I := Node) started NodeQuestion.blockNumber (.ok (ε := Failure) start) ::
        (before ++ [last]) := List.mem_cons_of_mem _ (List.mem_append_right _ List.mem_cons_self)
    cases settles with
    | found => exact .inl ⟨_, rfl⟩
    | failed reported => exact .inr (.inl ⟨_, heard, _, reported, rfl⟩)
    | judged => exact .inr (.inr (mem_questions heard))

theorem receiptWait_unbegun {f : Failure}
    (failed : FailsAtOnce [.asked started NodeQuestion.blockNumber (.error f)]
    (Except.error f : Except Failure Receipt)) :
    ReceiptWait hash b started [.asked started NodeQuestion.blockNumber (.error f)] (.error f) where
  queries := Nat.zero_le _
  asleep := Nat.zero_le _
  found receipt := by
    refine ⟨nofun, ?_⟩
    rintro ⟨before, t, after, split, -, -⟩
    have heard := List.mem_append_right before (List.mem_cons_self (a := Event.asked (I := Node) t
      (NodeQuestion.receipt hash) (.ok (ε := Failure) (some receipt))) (l := after))
    rw [← split] at heard
    cases List.mem_singleton.mp heard
  failed := failed
  gaveUp known := by
    change NodeQuestion.known hash ∈ [NodeQuestion.blockNumber] at known
    simp at known
  settled := .inr (.inl ⟨_, List.mem_cons_self, f, rfl, rfl⟩)

/-- A wait for a receipt ends within its timeout and after so many rounds. It ends with the first
receipt, the first failure of the node, or when it may give up. -/
theorem receipt_is_waited_for (prompt : Prompt env) (positive : 0 < b.pollInterval.nanos)
    (hash : Hash) (t : Nat) (s : σ) :
    let wait := (waitForReceipt hash b).run.run env t s
    ReceiptWait hash b t wait.events wait.result := by
  have course := Program.leads_run env (waitForReceipt hash b).run ⟨t, s⟩
  have failed := course.failsAtOnce (waitForReceipt_fragile hash b)
  intro wait
  rcases waitForReceipt_polled prompt positive course with ⟨f, events, result⟩ |
    ⟨start, rest, events, polled⟩
  · rw [events, result] at failed ⊢
    exact receiptWait_unbegun failed
  · rw [events] at failed ⊢
    exact polled.receiptWait positive failed

end

/-! ## A receipt that is there when the time is up -/

def lateReceipt : Receipt := ⟨.zero, true, 21000, 3, none⟩

def lateNode : Environment Node Unit := fun q t s =>
  match q with
  | .receipt _ => ⟨.ok (if t < 4000000000 then none else some lateReceipt), s, t⟩
  | .blockNumber => ⟨.ok (.ofNat (t / 1000000000)), s, t⟩
  | q => ⟨q.refusal, s, t⟩

theorem lateNode_prompt : Prompt lateNode := by
  intro q t s
  cases q <;> rfl

def fourSeconds : WaitBounds := { WaitBounds.standard with timeout := .ofSeconds 4 }

theorem late_receipt_found :
    let wait := (waitForReceipt .zero fourSeconds).run.run lateNode 0 ()
    wait.result = .ok lateReceipt ∧ wait.time = 4000000000 ∧
      (questions wait.events).count (.receipt .zero) = 3 ∧
      ReceiptWait .zero fourSeconds 0 wait.events wait.result :=
  ⟨rfl, rfl, by decide, receipt_is_waited_for lateNode_prompt (by decide) .zero 0 ()⟩

end Dispatch
