import Dispatch.Proofs.BrokerMail
import Dispatch.Proofs.NonceRuns
import Dispatch.Proofs.OutsideCourse

/-!
# Nonces that are out

Whoever counts nonces may have many of them out at once, for many accounts, and hand them back in
any order. The counter of an account stays above all its nonces that are out, so none is given
twice.
-/

set_option autoImplicit false

namespace Dispatch
open Program (Environment Moment Leads)

namespace Counters
variable {c : Counters} {a b : Address}

theorem lookup_set_of_ne (other : b ≠ a) (c : Counters) (n : UInt64) :
    (c.set a n).lookup b = c.lookup b := by
  rw [set, lookup_cons_of_ne other, lookup_filter_of_ne other]

theorem lookup_take_of_ne (other : b ≠ a) (c : Counters) (k : UInt64) :
    (c.take a k).2.lookup b = c.lookup b := lookup_set_of_ne other c _

theorem lookup_release_of_ne (other : b ≠ a) (c : Counters) (n : UInt64) :
    (c.release a n).lookup b = c.lookup b := by
  unfold release
  split
  · exact lookup_set_of_ne other c n
  · rfl

theorem next_release (c : Counters) (a : Address) (n : UInt64) :
    (c.next a = n + 1 ∧ (c.release a n).next a = n) ∨ (c.release a n).next a = c.next a := by
  unfold release
  split
  · rename_i last
    exact .inl ⟨by rw [next, last, Option.getD_some], next_set c a n⟩
  · exact .inr rfl

/-! What an account gets depends on its own counter. -/

theorem next_congr {c' : Counters} (same : c'.lookup a = c.lookup a) : c'.next a = c.next a := by
  rw [next, same, next]

theorem take_congr {c' : Counters} (same : c'.lookup a = c.lookup a) (k : UInt64) :
    (c'.take a k).1 = (c.take a k).1 ∧ (c'.take a k).2.lookup a = (c.take a k).2.lookup a := by
  simp [take, next_congr same]

theorem lookup_release_congr {c' : Counters} (same : c'.lookup a = c.lookup a) (n : UInt64) :
    (c'.release a n).lookup a = (c.release a n).lookup a := by
  unfold release
  rw [same]
  split
  · rw [lookup_set, lookup_set]
  · exact same

end Counters

/-! ## Dealings -/

/-- What is done with a counter: an account's next nonce is asked for, with what the node counted
and what came of it, or a nonce is handed back. -/
inductive Dealing where
  | next (account : Address) (counted result : Except Failure UInt64)
  | release (account : Address) (nonce : UInt64)

namespace Dealing

def account : Dealing → Address
  | .next a _ _ => a
  | .release a _ => a

/-- What is out for an account after one more dealing. -/
def settle (a : Address) (out : List UInt64) : Dealing → List UInt64
  | .next b _ (.ok n) => if b = a then n :: out else out
  | .next _ _ (.error _) => out
  | .release b n => if b = a then out.erase n else out

theorem settle_of_ne {a : Address} {d : Dealing} (other : d.account ≠ a) (out : List UInt64) :
    settle a out d = out := by
  cases d with
  | next b counted result => cases result <;> simp [settle, show b ≠ a from other]
  | release b n => simp [settle, show b ≠ a from other]

end Dealing

/-- The nonces that an account was given and that were not handed back. -/
def outstanding (a : Address) (ds : List Dealing) : List UInt64 := ds.foldl (Dealing.settle a) []

/-- The dealings for an account. -/
def dealingsOf (a : Address) (ds : List Dealing) : List Dealing := ds.filter fun d => d.account = a

theorem outstanding_snoc (a : Address) (ds : List Dealing) (d : Dealing) :
    outstanding a (ds ++ [d]) = Dealing.settle a (outstanding a ds) d := by
  rw [outstanding, List.foldl_append, List.foldl_cons, List.foldl_nil, outstanding]

theorem dealingsOf_snoc (ds : List Dealing) (d : Dealing) :
    dealingsOf d.account (ds ++ [d]) = dealingsOf d.account ds ++ [d] := by simp [dealingsOf]

theorem dealingsOf_snoc_of_ne {a : Address} {d : Dealing} (other : d.account ≠ a)
    (ds : List Dealing) :
    dealingsOf a (ds ++ [d]) = dealingsOf a ds := by simp [dealingsOf, other]

theorem outstanding_dealingsOf (a : Address) (ds : List Dealing) :
    outstanding a (dealingsOf a ds) = outstanding a ds := by
  induction ds using List.reverseRecOn with
  | nil => rfl
  | append_singleton ds d ih =>
    by_cases own : d.account = a
    · subst own
      rw [dealingsOf_snoc, outstanding_snoc, outstanding_snoc, ih]
    · rw [dealingsOf_snoc_of_ne own, outstanding_snoc, Dealing.settle_of_ne own, ih]

/-- From the counters `c` the dealings lead to others. Each starts at any moment of the node, and
what is handed back is out. -/
inductive Deals {σ : Type} (env : Environment Node σ) (c : Counters) : List Dealing →
    Counters → Prop
  | start : Deals env c [] c
  | next {ds : List Dealing} {c₁ c₂ : Counters} {a : Address} {u v : Moment σ}
      {counted result : Except Failure UInt64} (earlier : Deals env c ds c₁)
      (course : Leads env ((NonceSource.counted.next a).run c₁) u
        [.asked u.time (NodeQuestion.transactionCount a) counted] (result, c₂) v) :
      Deals env c (ds ++ [.next a counted result]) c₂
  | release {ds : List Dealing} {c₁ : Counters} {a : Address} {n : UInt64}
      (earlier : Deals env c ds c₁)
      (out : n ∈ outstanding a ds) :
        Deals env c (ds ++ [.release a n]) (NonceSource.counted.release a n c₁)

section
variable {σ : Type} {env : Environment Node σ} {c c₁ c₂ : Counters} {a : Address} {u v : Moment σ}
  {ds : List Dealing} {counted result : Except Failure UInt64}

theorem counted_leads {es : List (Program.Event Node)} :
    Leads env ((NonceSource.counted.next a).run c) u es (result, c₁) v ↔
      ∃ counted : Except Failure UInt64, counted =
        (env (.transactionCount a) u.time u.state).answer ∧
        es = [.asked u.time (NodeQuestion.transactionCount a) counted] ∧
        (result, c₁) = NonceSource.counted.settle a c counted ∧
        v = u.after env (.transactionCount a) := by
  rw [next_eq_ask]
  refine Program.leads_ask_done.trans ?_
  constructor
  · rintro ⟨hr, hes, hv⟩
    exact ⟨_, rfl, hes, hr, hv⟩
  · rintro ⟨_, rfl, hes, hr, hv⟩
    exact ⟨hr, hes, hv⟩

theorem next_cases
    (course : Leads env ((NonceSource.counted.next a).run c) u
      [.asked u.time (NodeQuestion.transactionCount a) counted] (result, c₁) v) :
    (∃ e, counted = .error e ∧ result = .error e ∧ c₁ = c) ∨
      ∃ k, counted = .ok k ∧ result = .ok (c.take a k).1 ∧ c₁ = (c.take a k).2 := by
  obtain ⟨answer, -, heard, settled, -⟩ := counted_leads.mp course
  obtain rfl : counted = answer := by
    cases heard
    rfl
  cases counted with
  | error e =>
    obtain ⟨rfl, rfl⟩ := Prod.mk.inj settled
    exact .inl ⟨e, rfl, rfl, rfl⟩
  | ok k =>
    obtain ⟨rfl, rfl⟩ := Prod.mk.inj settled
    exact .inr ⟨k, rfl, rfl, rfl⟩

/-! ## The counter stays above what is out -/

def Bounded (ds : List Dealing) : Prop :=
  ∀ a counted n, Dealing.next a counted (.ok n) ∈ ds → n.toNat < UInt64.size - 1

theorem Bounded.of_append {ds' : List Dealing} (h : Bounded (ds ++ ds')) : Bounded ds :=
  fun a counted n given => h a counted n (List.mem_append_left ds' given)

/-- What is out for an account is below its counter, and nothing is out twice. -/
structure Ahead (ds : List Dealing) (c : Counters) : Prop where
  below : ∀ a, ∀ n ∈ outstanding a ds, n.toNat < (c.next a).toNat
  distinct : ∀ a, (outstanding a ds).Nodup

theorem toNat_add_one {n : UInt64} (h : n.toNat < UInt64.size - 1) :
    (n + 1).toNat = n.toNat + 1 := by
  rw [UInt64.toNat_add]
  change (n.toNat + 1) % UInt64.size = _
  exact Nat.mod_eq_of_lt (by omega)

theorem toNat_add_one_of_lt {n : UInt64} (h : n.toNat < (n + 1).toNat) :
    (n + 1).toNat = n.toNat + 1 := by
  rw [UInt64.toNat_add, UInt64.toNat_one] at h ⊢
  rcases Nat.lt_or_ge (n.toNat + 1) (2 ^ 64) with small | large
  · exact Nat.mod_eq_of_lt small
  · have full : n.toNat + 1 = 2 ^ 64 := Nat.le_antisymm n.toNat_lt large
    rw [full, Nat.mod_self] at h
    exact absurd h (Nat.not_lt_zero _)

theorem Ahead.of_other {d : Dealing} {b : Address} (h : Ahead ds c) (other : d.account ≠ b)
    (same : c₁.lookup b = c.lookup b) :
    (∀ n ∈ outstanding b (ds ++ [d]), n.toNat < (c₁.next b).toNat) ∧
      (outstanding b (ds ++ [d])).Nodup := by
  rw [outstanding_snoc, Dealing.settle_of_ne other, Counters.next_congr same]
  exact ⟨h.below b, h.distinct b⟩

theorem Ahead.lt_take (h : Ahead ds c) (k : UInt64) :
    k.toNat ≤ (c.take a k).1.toNat ∧ ∀ m ∈ outstanding a ds, m.toNat < (c.take a k).1.toNat := by
  rw [Counters.toNat_take]
  refine ⟨Nat.le_max_right _ _, ?_⟩
  intro m out
  exact Nat.lt_of_lt_of_le (h.below a m out) (Nat.le_max_left _ _)

theorem Ahead.take {k : UInt64} (h : Ahead ds c) (counted : Except Failure UInt64)
    (bound : (c.take a k).1.toNat < UInt64.size - 1) :
    Ahead (ds ++ [.next a counted (.ok (c.take a k).1)]) (c.take a k).2 := by
  obtain ⟨-, above⟩ := h.lt_take (a := a) k
  have step (b : Address) :
      (∀ n ∈ outstanding b (ds ++ [.next a counted (.ok (c.take a k).1)]), n.toNat <
        ((c.take a k).2.next b).toNat) ∧
        (outstanding b (ds ++ [.next a counted (.ok (c.take a k).1)])).Nodup := by
    by_cases own : a = b
    · subst own
      rw [outstanding_snoc, Counters.next_take, toNat_add_one bound, Dealing.settle, if_pos rfl]
      constructor
      · intro n out
        rcases List.mem_cons.mp out with rfl | out
        · exact Nat.lt_succ_self _
        · exact Nat.lt_succ_of_lt (above n out)
      · refine List.nodup_cons.mpr ⟨?_, h.distinct a⟩
        intro out
        exact Nat.lt_irrefl _ (above _ out)
    · exact h.of_other own (Counters.lookup_take_of_ne (Ne.symm own) c k)
  exact ⟨fun b => (step b).1, fun b => (step b).2⟩

theorem Ahead.release {n : UInt64} (h : Ahead ds c) (out : n ∈ outstanding a ds) :
    Ahead (ds ++ [.release a n]) (c.release a n) := by
  have step (b : Address) :
      (∀ m ∈ outstanding b (ds ++ [.release a n]), m.toNat < ((c.release a n).next b).toNat) ∧
        (outstanding b (ds ++ [.release a n])).Nodup := by
    by_cases own : a = b
    · subst own
      rw [outstanding_snoc, Dealing.settle, if_pos rfl]
      refine ⟨?_, (h.distinct a).erase n⟩
      intro m left
      obtain ⟨differ, there⟩ := (List.Nodup.mem_erase_iff (h.distinct a)).mp left
      have under := h.below a m there
      rcases Counters.next_release c a n with ⟨last, back⟩ | stays
      · -- the counter falls back by one, to the nonce that is no longer out
        have apart : m.toNat ≠ n.toNat := fun same => differ (UInt64.toNat_inj.mp same)
        have top := h.below a n out
        rw [last] at under top
        rw [toNat_add_one_of_lt top] at under
        rw [back]
        omega
      · rw [stays]
        exact under
    · exact h.of_other own (Counters.lookup_release_of_ne (Ne.symm own) c n)
  exact ⟨fun b => (step b).1, fun b => (step b).2⟩

theorem Ahead.refuse (h : Ahead ds c) (a : Address) (counted : Except Failure UInt64)
    (e : Failure) :
    Ahead (ds ++ [.next a counted (.error e)]) c := by
  have same (b : Address) : outstanding b (ds ++ [.next a counted (.error e)]) = outstanding b ds :=
    outstanding_snoc b ds _
  constructor
  · intro b
    rw [same b]
    exact h.below b
  · intro b
    rw [same b]
    exact h.distinct b

theorem Deals.ahead (h : Deals env c ds c₁) (bounded : Bounded ds) : Ahead ds c₁ := by
  induction h with
  | start => exact ⟨nofun, fun _ => List.nodup_nil⟩
  | next earlier course ih =>
    have before := ih bounded.of_append
    rcases next_cases course with ⟨e, rfl, rfl, rfl⟩ | ⟨k, rfl, rfl, rfl⟩
    · exact before.refuse _ _ e
    · exact before.take _ (bounded _ _ _ (List.mem_append_right _ List.mem_cons_self))
  | release earlier out ih => exact (ih bounded.of_append).release out

/-! ## Each dealing by itself -/

theorem Deals.last {d : Dealing} (h : Deals env c (ds ++ [d]) c₁) : ∃ c', Deals env c ds c' ∧
    ((∃ a counted result, ∃ u v : Moment σ, d = .next a counted result ∧
        Leads env ((NonceSource.counted.next a).run c') u
          [.asked u.time (NodeQuestion.transactionCount a) counted] (result, c₁) v) ∨
      ∃ a n, d = .release a n ∧ n ∈ outstanding a ds ∧ c₁ = c'.release a n) := by
  generalize split : ds ++ [d] = whole at h
  cases h with
  | start => simp at split
  | next earlier course =>
    obtain ⟨rfl, same⟩ := List.append_inj' split rfl
    cases same
    exact ⟨_, earlier, .inl ⟨_, _, _, _, _, rfl, course⟩⟩
  | release earlier out =>
    obtain ⟨rfl, same⟩ := List.append_inj' split rfl
    cases same
    exact ⟨_, earlier, .inr ⟨_, _, rfl, out, rfl⟩⟩

theorem Deals.earlier {ds' : List Dealing} (h : Deals env c (ds ++ ds') c₁) :
    ∃ c', Deals env c ds c' := by
  induction ds' using List.reverseRecOn generalizing c₁ with
  | nil => exact ⟨c₁, by simpa using h⟩
  | append_singleton ds' d ih =>
    rw [← List.append_assoc] at h
    obtain ⟨c', before, -⟩ := h.last
    exact ih before

theorem Deals.given {after : List Dealing} {n : UInt64} (bounded : Bounded ds)
    (h : Deals env c (ds ++ .next a counted (.ok n) :: after) c₁) :
    (∃ k, counted = .ok k ∧ k.toNat ≤ n.toNat) ∧ ∀ m ∈ outstanding a ds, m.toNat < n.toNat := by
  rw [List.append_cons] at h
  obtain ⟨c₂, upto⟩ := h.earlier
  obtain ⟨c', before, ⟨b, counted', result, u, v, same, course⟩ | ⟨b, m, other, -⟩⟩ := upto.last
  · obtain ⟨rfl, rfl, rfl⟩ := Dealing.next.inj same
    rcases next_cases course with ⟨e, -, failed, -⟩ | ⟨k, rfl, given, -⟩
    · cases failed
    · cases given
      obtain ⟨reported, above⟩ := (before.ahead bounded).lt_take (a := a) k
      exact ⟨⟨k, rfl, reported⟩, above⟩
  · cases other

theorem Deals.alone (h : Deals env c ds c₁) (a : Address) :
    ∃ c', Deals env c (dealingsOf a ds) c' ∧ c'.lookup a = c₁.lookup a := by
  induction h with
  | start => exact ⟨c, .start, rfl⟩
  | @next ds c₁ c₂ b u v counted result earlier course ih =>
    obtain ⟨c', before, same⟩ := ih
    by_cases own : b = a
    · subst own
      obtain ⟨answer, answered, heard, settled, moved⟩ := counted_leads.mp course
      have again : ∃ c'', (result, c'') = NonceSource.counted.settle b c' answer ∧
        c''.lookup b = c₂.lookup b := by
        cases answer with
        | error e =>
          obtain ⟨rfl, rfl⟩ := Prod.mk.inj settled
          exact ⟨c', rfl, same⟩
        | ok k =>
          obtain ⟨rfl, rfl⟩ := Prod.mk.inj settled
          obtain ⟨nonce, kept⟩ := Counters.take_congr same k
          exact ⟨(c'.take b k).2, Prod.ext (congrArg Except.ok nonce.symm) rfl, kept⟩
      obtain ⟨c'', settled', kept⟩ := again
      have course' := counted_leads.mpr ⟨answer, answered, heard, settled', moved⟩
      exact ⟨c'', dealingsOf_snoc ds (.next b counted result) ▸ .next before course', kept⟩
    · have others : dealingsOf a (ds ++ [.next b counted result]) = dealingsOf a ds :=
        dealingsOf_snoc_of_ne (d := .next b counted result) own ds
      refine ⟨c', others ▸ before, same.trans ?_⟩
      rcases next_cases course with ⟨e, -, -, rfl⟩ | ⟨k, -, -, rfl⟩
      · rfl
      · exact (Counters.lookup_take_of_ne (Ne.symm own) c₁ k).symm
  | @release ds c₁ b n earlier out ih =>
    obtain ⟨c', before, same⟩ := ih
    by_cases own : b = a
    · subst own
      have out' : n ∈ outstanding b (dealingsOf b ds) := by rwa [outstanding_dealingsOf]
      exact ⟨c'.release b n, dealingsOf_snoc ds (.release b n) ▸ .release before out',
        Counters.lookup_release_congr same n⟩
    · have others : dealingsOf a (ds ++ [.release b n]) = dealingsOf a ds :=
        dealingsOf_snoc_of_ne (d := .release b n) own ds
      exact ⟨c', others ▸ before,
        same.trans (Counters.lookup_release_of_ne (Ne.symm own) c₁ n).symm⟩

/-- Through any dealings with a counter, where only what is out is handed back and all nonces are
below the greatest number of 64 bits: at no time has an account a nonce out twice; a nonce that is
given is at least what the node just counted and greater than all that the account has out; a
request fails just when the node fails, and then leaves the counters as they were; and an account
gets the same when the dealings for all others are left out. -/
theorem outstanding_nonces (h : Deals env c ds c₁) (bounded : Bounded ds) :
    (∀ a before after, ds = before ++ after → (outstanding a before).Nodup) ∧
    (∀ a before counted n after, ds = before ++ .next a counted (.ok n) :: after →
      (∃ k, counted = .ok k ∧ k.toNat ≤ n.toNat) ∧ ∀ m ∈ outstanding a before, m.toNat < n.toNat) ∧
    (∀ c₂ a (u : Moment σ) es result c₃ v, Leads env ((NonceSource.counted.next a).run c₂) u es
      (result, c₃) v →
      ∃ counted, es = [.asked u.time (NodeQuestion.transactionCount a) counted] ∧
        ((∃ e, counted = .error e ∧ result = .error e ∧ c₃ = c₂) ∨ ∃ k n, counted = .ok k ∧
          result = .ok n)) ∧
    (∀ a, ∃ c', Deals env c (dealingsOf a ds) c' ∧ c'.lookup a = c₁.lookup a) := by
  refine ⟨?distinct, ?given, ?failing, h.alone⟩
  case distinct =>
    rintro a before after rfl
    obtain ⟨c', upto⟩ := h.earlier
    exact (upto.ahead bounded.of_append).distinct a
  case given =>
    rintro a before counted n after rfl
    exact h.given bounded.of_append
  case failing =>
    intro c₂ a u es result c₃ v course
    obtain ⟨counted, -, rfl, -⟩ := counted_leads.mp course
    refine ⟨counted, rfl, ?_⟩
    rcases next_cases course with failed | ⟨k, reported, given, -⟩
    · exact .inl failed
    · exact .inr ⟨k, _, reported, given⟩

end

/-! ## Three nonces that cross -/

def fourCounting : Environment Node Unit := fun q t s =>
  match q with
  | .transactionCount _ => ⟨.ok 4, s, t⟩
  | q => ⟨q.refusal, s, t⟩

def crossing : List Dealing :=
  [.next .zero (.ok 4) (.ok 4), .next .zero (.ok 4) (.ok 5), .next (.ofNat 1) (.ok 4) (.ok 4),
    .release .zero 4, .next .zero (.ok 4) (.ok 6)]

theorem deals_crossing : Deals fourCounting [] crossing [(.zero, 7), (.ofNat 1, 5)] := by
  have asks (c c₁ : Counters) (a : Address) (n : UInt64)
      (settled : (Except.ok n, c₁) = NonceSource.counted.settle a c (.ok 4)) :
      Leads fourCounting ((NonceSource.counted.next a).run c) (⟨0, ()⟩ : Moment Unit)
        [.asked 0 (NodeQuestion.transactionCount a) (Except.ok 4)] (Except.ok n, c₁) ⟨0, ()⟩ :=
    counted_leads.mpr ⟨_, rfl, rfl, settled, rfl⟩
  have first := Deals.next .start (asks [] [(.zero, 5)] .zero 4 rfl)
  have second := Deals.next first (asks _ [(.zero, 6)] .zero 5 rfl)
  have other := Deals.next second (asks _ [(.ofNat 1, 5), (.zero, 6)] (.ofNat 1) 4 rfl)
  have back := Deals.release other (a := .zero) (n := 4) (by decide)
  exact .next back (asks _ _ .zero 6 rfl)

theorem bounded_crossing : Bounded crossing := by
  intro a counted n given
  simp only [crossing, List.mem_cons, List.not_mem_nil, or_false, Dealing.next.injEq,
    Except.ok.injEq, reduceCtorEq,
    false_or] at given
  rcases given with ⟨-, -, rfl⟩ | ⟨-, -, rfl⟩ | ⟨-, -, rfl⟩ | ⟨-, -, rfl⟩ <;> decide

theorem crossing_outstanding :
    outstanding .zero crossing = [6, 5] ∧ (outstanding .zero crossing).Nodup ∧
      ∀ m ∈ outstanding .zero (crossing.take 4), m.toNat < (6 : UInt64).toNat := by
  obtain ⟨distinct, given, -, -⟩ := outstanding_nonces deals_crossing bounded_crossing
  exact ⟨by decide, distinct _ crossing [] (List.append_nil _).symm, (given _ _ _ 6 [] rfl).2⟩

end Dispatch
