import Dispatch.Proofs.Course
import Mathlib.Algebra.Group.Nat.Defs

/-!
# The schedule of repeated attempts

Attempts are made one after the other until one decides, or the last one allowed is made. Between
two of them lies one sleep, which never gets shorter from one to the next. What an attempt does is
left open: it may be any program, so its outcomes may come in any order.
-/

set_option autoImplicit false

namespace Dispatch

namespace Duration

variable {a b : Duration} {m n : Nat}

theorem nanos_times (a : Duration) (n : Nat) : (a.times n).nanos = min (a.nanos * n) (bound - 1) :=
  rfl

theorem nanos_longer (a b : Duration) : (a.longer b).nanos = max a.nanos b.nanos := by
  unfold longer
  split
  · exact (Nat.max_eq_right ‹_›).symm
  · exact (Nat.max_eq_left (Nat.le_of_not_le ‹_›)).symm

theorem times_mono (a : Duration) (h : m ≤ n) : a.times m ≤ a.times n := by
  have grows : a.nanos * m ≤ a.nanos * n := Nat.mul_le_mul_left _ h
  show (a.times m).nanos ≤ (a.times n).nanos
  rw [nanos_times, nanos_times]
  omega

theorem longer_mono (h : a ≤ b) (c : Duration) : a.longer c ≤ b.longer c := by
  have grows : a.nanos ≤ b.nanos := h
  show (a.longer c).nanos ≤ (b.longer c).nanos
  rw [nanos_longer, nanos_longer]
  omega

end Duration

/-! ## Sleeps -/

namespace Backoff

theorem factor_eq_min (attempt : UInt32) : factor attempt = min (2 ^ (attempt.toNat - 1))
    (2 ^ 32 - 1) := by
  unfold factor
  split
  · have small : 2 ^ (attempt.toNat - 1) ≤ 2 ^ 31 := Nat.pow_le_pow_right (by omega) (by omega)
    show 2 ^ (attempt.toNat - 1) = _
    omega
  · have large : 2 ^ 32 ≤ 2 ^ (attempt.toNat - 1) := Nat.pow_le_pow_right (by omega) (by omega)
    show 2 ^ 32 - 1 = _
    omega

theorem factor_mono {k k' : UInt32} (h : k ≤ k') : factor k ≤ factor k' := by
  have below : k.toNat - 1 ≤ k'.toNat - 1 := Nat.sub_le_sub_right h 1
  have grows : 2 ^ (k.toNat - 1) ≤ 2 ^ (k'.toNat - 1) := Nat.pow_le_pow_right (by omega) below
  rw [factor_eq_min, factor_eq_min]
  omega

theorem delay_fixed (d : Duration) (k : UInt32) :
    ((fixed d).delay k).nanos = max 1000000000 d.nanos := by
  show (d.longer (.ofSeconds 1)).nanos = _
  rw [Duration.nanos_longer, Nat.max_comm]
  rfl

theorem delay_exponential (first : Duration) (k : UInt32) :
    ((exponential first).delay k).nanos =
      max 1000000000 (min (first.nanos * min (2 ^ (k.toNat - 1)) (2 ^ 32 - 1))
        (Duration.bound - 1)) := by
  show ((first.times (factor k)).longer (.ofSeconds 1)).nanos = _
  rw [Duration.nanos_longer, Nat.max_comm, Duration.nanos_times, factor_eq_min]
  rfl

theorem second_le_delay (b : Backoff) (k : UInt32) : 1000000000 ≤ (b.delay k).nanos := by
  cases b with
  | fixed d =>
    rw [delay_fixed]
    exact Nat.le_max_left _ _
  | exponential first =>
    rw [delay_exponential]
    exact Nat.le_max_left _ _

theorem delay_mono (b : Backoff) {k k' : UInt32} (h : k ≤ k') : b.delay k ≤ b.delay k' := by
  cases b with
  | fixed d => exact Nat.le_refl _
  | exponential first => exact Duration.longer_mono (first.times_mono (factor_mono h)) _

end Backoff

/-! ## Attempts -/

namespace Retry
open Program (Environment Event Moment Run)

structure Position (σ τ : Type) where
  number : UInt32
  memory : σ
  moment : Moment τ

section
variable {I : Interface} {σ τ : Type} (env : Environment I τ) (b : Backoff)
  (attempt : StateT σ (Program I) (Except Failure Outcome))

def made (p : Position σ τ) : Run I τ (Except Failure Outcome × σ) :=
  (attempt.run p.memory).run env p.moment.time p.moment.state

def next (p : Position σ τ) : Position σ τ :=
  let m := made env attempt p
  ⟨p.number + 1, m.result.2, m.time + (b.delay p.number).nanos, m.state⟩

def nth (p : Position σ τ) : Nat → Position σ τ
  | 0 => p
  | j + 1 => nth (next env b attempt p) j

def outcome (p : Position σ τ) (j : Nat) : Except Failure Outcome :=
  (made env attempt (nth env b attempt p j)).result.1

def history (p : Position σ τ) : Nat → List (Event I)
  | 0 => (made env attempt p).events
  | j + 1 =>
    (made env attempt p).events ++
      .slept (made env attempt p).time (b.delay p.number) :: history (next env b attempt p) j

/-- No attempt is made after this outcome. -/
def Decisive : Except Failure Outcome → Prop
  | .ok _ => True
  | .error failure => failure.isRetryable = false

def Retryable (r : Except Failure Outcome) : Prop := ∃ failure, r = .error failure ∧
    failure.isRetryable

def handedBack (k : UInt32) : Except Failure Outcome → Except Failure Outcome
  | .ok outcome => .ok { outcome with attempts := k }
  | .error failure => .error failure

/-- With up to `n` attempts from `p`, the run ends when one was made after `j` others. -/
def EndsAfter (p : Position σ τ) (n j : Nat) : Prop :=
  let final := nth env b attempt p j
  let m := made env attempt final
  (loop b attempt n p.number p.memory).Leads env p.moment (history env b attempt p j)
    (handedBack final.number m.result.1, m.result.2) ⟨m.time, m.state⟩

variable {env b attempt} {p : Position σ τ} {rest : Nat}

theorem number_nth (small : p.number.toNat + rest < 2 ^ 32) :
    (nth env b attempt p rest).number.toNat = p.number.toNat + rest := by
  induction rest generalizing p with
  | zero => rfl
  | succ rest ih =>
    have one : (next env b attempt p).number.toNat = p.number.toNat + 1 := by
      show (p.number + 1).toNat = _
      rw [UInt32.toNat_add]
      apply Nat.mod_eq_of_lt
      show p.number.toNat + 1 < 2 ^ 32
      omega
    rw [nth, ih (by omega), one]
    omega

theorem not_decisive {r : Except Failure Outcome} : ¬Decisive r ↔ Retryable r := by
  cases r <;> simp [Decisive, Retryable]

variable (env attempt p) in
theorem leads_made : (attempt.run p.memory).Leads env p.moment (made env attempt p).events
    (made env attempt p).result ⟨(made env attempt p).time, (made env attempt p).state⟩ := rfl

theorem endsAfter_first (last : Decisive (made env attempt p).result.1 ∨ rest = 0) :
    EndsAfter env b attempt p (rest + 1) 0 := by
  have first := leads_made env attempt p
  refine Program.leads_bind.mpr ⟨_, _, _, [], first, ?_, (List.append_nil _).symm⟩
  cases hm : (made env attempt p).result with
  | mk r s =>
    rw [hm] at last
    cases r with
    | ok outcome => exact Program.leads_done.mpr ⟨rfl, by rw [nth, hm]; rfl, rfl⟩
    | error failure =>
      have ends : failure.isRetryable = false ∨ rest = 0 := last
      simp only [ends, if_true]
      exact Program.leads_done.mpr ⟨rfl, by rw [nth, hm]; rfl, rfl⟩

theorem EndsAfter.again {j : Nat} (others : EndsAfter env b attempt (next env b attempt p) rest j)
    (retryable : Retryable (made env attempt p).result.1) (left : rest ≠ 0) :
    EndsAfter env b attempt p (rest + 1) (j + 1) := by
  have first := leads_made env attempt p
  refine Program.leads_bind.mpr ⟨_, _, _, _, first, ?_, rfl⟩
  obtain ⟨failure, hf, again⟩ := retryable
  cases hm : (made env attempt p).result with
  | mk r s =>
    rw [hm] at hf
    obtain rfl := hf
    have goesOn : ¬(failure.isRetryable = false ∨ rest = 0) := by simp [again, left]
    simp only [goesOn, if_false]
    have memory : (next env b attempt p).memory = s := congrArg Prod.snd hm
    unfold EndsAfter at others
    rw [memory] at others
    exact Program.leads_sleep.mpr ⟨_, rfl, others⟩

variable (env b attempt p) in
theorem exists_endsAfter {n : Nat} (some : n ≠ 0) :
    ∃ last < n, (∀ j < last, Retryable (outcome env b attempt p j)) ∧
      (Decisive (outcome env b attempt p last) ∨ last + 1 = n) ∧
        EndsAfter env b attempt p n last := by
  -- On the attempts allowed, from the front: what follows the first one is a run with one attempt
  -- less.
  induction n generalizing p with
  | zero => exact absurd rfl some
  | succ rest ih =>
    by_cases ends : Decisive (made env attempt p).result.1 ∨ rest = 0
    · refine ⟨0, Nat.succ_pos _, nofun, ?_, endsAfter_first ends⟩
      rcases ends with decisive | rfl
      · exact .inl decisive
      · exact .inr rfl
    · obtain ⟨undecided, left⟩ := not_or.mp ends
      have retryable := not_decisive.mp undecided
      obtain ⟨last, allowed, earlier, stops, ends⟩ := ih (p := next env b attempt p) left
      refine ⟨last + 1, Nat.succ_lt_succ allowed, ?_, ?_, ends.again retryable left⟩
      · intro j hj
        cases j with
        | zero => exact retryable
        | succ j => exact earlier j (Nat.lt_of_succ_lt_succ hj)
      · rcases stops with decisive | all
        · exact .inl decisive
        · exact .inr (congrArg Nat.succ all)

end

end Retry

open Program Retry

section
variable {I : Interface} {σ τ : Type}

/-- The run of a policy goes through one attempt after `last` others. -/
structure Scheduled (env : Environment I τ) (policy : RetryPolicy)
    (attempt : StateT σ (Program I) (Except Failure Outcome)) (p : Position σ τ) (last : Nat) :
    Prop where
  allowed : last < policy.attempts.toNat
  numbered : ∀ j ≤ last, (nth env policy.backoff attempt p j).number.toNat = j + 1
  earlier : ∀ j < last, Retryable (outcome env policy.backoff attempt p j)
  stops : Decisive (outcome env policy.backoff attempt p last) ∨ last + 1 = policy.attempts.toNat
  ends :
    let final := nth env policy.backoff attempt p last
    let m := made env attempt final
    ((retry policy attempt).run p.memory).Leads env p.moment
      (history env policy.backoff attempt p last)
      (handedBack final.number (outcome env policy.backoff attempt p last), m.result.2)
        ⟨m.time, m.state⟩

/-- A policy without attempts runs nothing and fails. Any other makes one attempt after the other,
each but the last with one sleep after it, until the first that decides or the last allowed, and
hands back what that one came to. The sleeps take at least a second and never get shorter. -/
theorem retry_schedule (env : Environment I τ) (policy : RetryPolicy)
    (attempt : StateT σ (Program I) (Except Failure Outcome)) (memory : σ) (u : Moment τ) :
    (policy.attempts = 0 →
      ((retry policy attempt).run memory).Leads env u []
        (.error (.invalidArgument .noAttempts), memory) u) ∧
    (policy.attempts ≠ 0 → ∃ last, Scheduled env policy attempt ⟨1, memory, u⟩ last) ∧
    (∀ d k, ((Backoff.fixed d).delay k).nanos = max 1000000000 d.nanos) ∧
    (∀ first k, ((Backoff.exponential first).delay k).nanos =
      max 1000000000 (min (first.nanos * min (2 ^ (k.toNat - 1)) (2 ^ 32 - 1))
        (Duration.bound - 1))) ∧
    (∀ (b : Backoff) k, 1000000000 ≤ (b.delay k).nanos) ∧
    ∀ (b : Backoff) k k', k ≤ k' → b.delay k ≤ b.delay k' := by
  refine ⟨?_, ?_, Backoff.delay_fixed, Backoff.delay_exponential, Backoff.second_le_delay,
    fun b _ _ h => b.delay_mono h⟩
  · intro none
    unfold retry
    rw [none]
    exact leads_done.mpr ⟨rfl, rfl, rfl⟩
  · intro some
    have positive : policy.attempts.toNat ≠ 0 := by
      intro zero
      exact some (UInt32.toNat_inj.mp zero)
    have start : (⟨1, memory, u⟩ : Position σ τ).number.toNat = 1 := rfl
    obtain ⟨last, allowed, earlier, stops, ends⟩ :=
      exists_endsAfter env policy.backoff attempt ⟨1, memory, u⟩ positive
    refine ⟨last, allowed, ?_, earlier, stops, ends⟩
    intro j hj
    have bounded : policy.attempts.toNat < 2 ^ 32 := policy.attempts.toNat_lt
    rw [number_nth (by omega), start]
    omega

end

end Dispatch
