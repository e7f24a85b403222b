import Dispatch.Proofs.Verdicts
import Mathlib.Data.List.Induction

/-!
# Nonces over many submissions

Submissions follow one another and share the counters. Whatever fails in them, the counter stays at
what is due: one more than the greatest nonce that the wallet accepted, or the greatest count that
the node reported.
-/

set_option autoImplicit false

namespace Dispatch
open Program (Environment Event)
open Step

def DeskQuestion.accepted? : (q : DeskQuestion) → Desk.Answer q → Option Nat
  | .send tx _, answer =>
    match (answer : Except Failure Handle) with
    | .ok _ => some tx.nonce.toNat
    | .error _ => none
  | _, _ => none

def DeskQuestion.reported? : (q : DeskQuestion) → Desk.Answer q → Option Nat
  | .node (.transactionCount _), answer =>
    match (answer : Except Failure UInt64) with
    | .ok n => some n.toNat
    | .error _ => none
  | _, _ => none

def Program.Event.accepted? : Event Desk → Option Nat
  | .asked _ q answer => q.accepted? answer
  | .slept _ _ => none

def Program.Event.reported? : Event Desk → Option Nat
  | .asked _ q answer => q.reported? answer
  | .slept _ _ => none

def accepted (es : List (Event Desk)) : List Nat := es.filterMap Event.accepted?

def reported (es : List (Event Desk)) : List Nat := es.filterMap Event.reported?

def greatest (ns : List Nat) : Nat := ns.foldr max 0

/-- The nonce to be used next: one more than the greatest accepted one, unless the node reported
more. -/
def due (es : List (Event Desk)) : Nat :=
  max (greatest ((accepted es).map (· + 1))) (greatest (reported es))

@[simp] theorem accepted_append (es es' : List (Event Desk)) :
    accepted (es ++ es') = accepted es ++ accepted es' := List.filterMap_append

@[simp] theorem reported_append (es es' : List (Event Desk)) :
    reported (es ++ es') = reported es ++ reported es' := List.filterMap_append

theorem greatest_append (ns ms : List Nat) : greatest (ns ++ ms) = max (greatest ns)
    (greatest ms) := by
  induction ns with
  | nil => simp [greatest]
  | cons n ns ih =>
    change max n (greatest (ns ++ ms)) = max (max n (greatest ns)) (greatest ms)
    rw [ih, Nat.max_assoc]

theorem le_greatest {ns : List Nat} {n : Nat} (h : n ∈ ns) : n ≤ greatest ns := by
  induction ns with
  | nil => cases h
  | cons m ns ih =>
    change n ≤ max m (greatest ns)
    rcases List.mem_cons.mp h with rfl | h
    · exact Nat.le_max_left _ _
    · exact Nat.le_trans (ih h) (Nat.le_max_right _ _)

theorem due_append (es es' : List (Event Desk)) : due (es ++ es') = max (due es) (due es') := by
  unfold due
  rw [accepted_append, reported_append, List.map_append, greatest_append, greatest_append]
  omega

theorem due_le_append (es es' : List (Event Desk)) : due es ≤ due (es ++ es') := by
  rw [due_append]
  exact Nat.le_max_left _ _

@[simp] theorem due_nil : due [] = 0 := rfl

theorem due_count (t : Nat) (a : Address) (n : UInt64) :
    due [.asked t (.node (.transactionCount a)) (Except.ok n)] = n.toNat := by
  change max 0 (max n.toNat 0) = n.toNat
  simp

theorem due_accepted (t : Nat) (tx : Draft) (hints : Hints) (handle : Handle) :
    due [.asked t (.send tx hints) (Except.ok handle)] = tx.nonce.toNat + 1 := by
  change max (max (tx.nonce.toNat + 1) 0) 0 = tx.nonce.toNat + 1
  simp

theorem due_refused (t : Nat) (tx : Draft) (hints : Hints) (e : Failure) :
    due [.asked t (.send tx hints) (Except.error e)] = 0 := rfl

theorem due_uncounted (t : Nat) (a : Address) (e : Failure) :
    due [.asked t (.node (.transactionCount a)) (Except.error e)] = 0 := rfl

theorem due_singleton_cases (e : Event Desk) :
    due [e] = 0 ∨
    (∃ t a n, e = .asked t (.node (.transactionCount a)) (Except.ok n)) ∨
    ∃ t tx hints handle, e = .asked t (.send tx hints) (Except.ok handle) := by
  cases e with
  | slept t pause => exact .inl rfl
  | asked t q answer =>
    cases q with
    | node q =>
      cases q with
      | transactionCount a =>
        cases answer with
        | ok n => exact .inr (.inl ⟨t, a, n, rfl⟩)
        | error e => exact .inl rfl
      | _ => exact .inl rfl
    | send tx hints =>
      cases answer with
      | ok handle => exact .inr (.inr ⟨t, tx, hints, handle, rfl⟩)
      | error e => exact .inl rfl
    | wait handle bounds => exact .inl rfl

theorem accepted?_of_draft? {e : Event Desk} (h : e.draft? = none) : e.accepted? = none := by
  cases e with
  | slept t pause => rfl
  | asked t q answer =>
    cases q with
    | send tx hints => cases h
    | _ => rfl

theorem due_unsent {es : List (Event Desk)} (h : drafts es = []) :
    due es = greatest (reported es) := by
  have ha : accepted es = [] := List.filterMap_eq_nil_iff.mpr fun e he =>
    accepted?_of_draft? (List.filterMap_eq_nil_iff.mp h e he)
  rw [due, ha]
  exact Nat.zero_max _

theorem due_singleton {e : Event Desk} (h : e.landmark? = none ∨ e.landmark? = some .wait) :
    due [e] = 0 := by
  rcases due_singleton_cases e with hz | ⟨t, a, n, rfl⟩ | ⟨t, tx, hints, handle, rfl⟩
  · exact hz
  · simp [landmark?_count] at h
  · simp [landmark?_send] at h

theorem Settled.due {es : List (Event Desk)} (h : Settled es) : due es = 0 := by
  induction es with
  | nil => rfl
  | cons e es ih =>
    obtain ⟨he, hes⟩ := List.forall_mem_cons.mp h
    rw [← List.singleton_append, due_append, due_singleton he, ih hes, Nat.max_self]

theorem Quiet.due {es : List (Event Desk)} (h : Quiet es) : due es = 0 :=
  Settled.due fun e he => .inl (h e he)

/-! ## The counter -/

namespace Counters
variable (c : Counters) (a : Address) (n : UInt64)

@[simp] theorem lookup_set : (c.set a n).lookup a = some n := by simp [set]

@[simp] theorem next_set : (c.set a n).next a = n := by simp [next]

theorem toNat_take : (c.take a n).1.toNat = max (c.next a).toNat n.toNat := by
  change (if c.next a ≤ n then n else c.next a).toNat = _
  split
  · next h => exact (Nat.max_eq_right (UInt64.le_iff_toNat_le.mp h)).symm
  · next h => exact (Nat.max_eq_left (by rw [UInt64.le_iff_toNat_le] at h; omega)).symm

theorem next_take : (c.take a n).2.next a = (c.take a n).1 + 1 := by simp [take]

theorem next_release_take : ((c.take a n).2.release a (c.take a n).1).next a = (c.take a n).1 := by
  simp [take, release]

end Counters

/-! ## One submission -/

/-- What a submission without a nonce of its own does to the counters. -/
inductive Turn (a : Address) (c : Counters) : List (Event Desk) → Counters → Prop
  | idle {es : List (Event Desk)} (undue : due es = 0) (unsent : drafts es = []) : Turn a c es c
  | refused {es : List (Event Desk)} {t t' : Nat} {n : UInt64} {tx : Draft} {hints : Hints}
      {e : Failure}
      (quiet : Quiet es) (taken : tx.nonce = (c.take a n).1) :
      Turn a c (es ++ [.asked t (.node (.transactionCount a)) (Except.ok n)] ++
        [.asked t' (.send tx hints) (Except.error e)]) ((c.take a n).2.release a tx.nonce)
  | accepted {es rest : List (Event Desk)} {t t' : Nat} {n : UInt64} {tx : Draft} {hints : Hints}
      {handle : Handle} (quiet : Quiet es) (taken : tx.nonce = (c.take a n).1)
      (settled : Settled rest) :
      Turn a c (es ++ [.asked t (.node (.transactionCount a)) (Except.ok n)] ++
        .asked t' (.send tx hints) (Except.ok handle) :: rest) (c.take a n).2

/-- The counter is what is due after the events, as long as that is a number of 64 bits. -/
def Keeps (a : Address) (c : Counters) (es : List (Event Desk)) : Prop :=
  due es < UInt64.size → (c.next a).toNat = due es

section
variable {a : Address} {c c' : Counters} {es pre : List (Event Desk)}

theorem Keeps.take {n : UInt64} {t : Nat} (h : Keeps a c pre) (quiet : Quiet es)
    (below : due (pre ++ (es ++ [.asked t (.node (.transactionCount a)) (Except.ok n)])) <
      UInt64.size) :
    (c.take a n).1.toNat =
      due (pre ++ (es ++ [.asked t (.node (.transactionCount a)) (Except.ok n)])) := by
  rw [due_append, due_append, quiet.due, due_count] at *
  rw [Counters.toNat_take, h (by omega)]
  omega

theorem Turn.keeps (h : Turn a c es c') (hk : Keeps a c pre) : Keeps a c' (pre ++ es) := by
  intro below
  cases h with
  | idle undue =>
    rw [due_append, undue] at *
    rw [hk (by omega)]
    omega
  | @refused es t t' n tx hints e quiet taken =>
    rw [← List.append_assoc, due_append, due_refused, Nat.max_zero] at *
    rw [taken, Counters.next_release_take]
    exact hk.take quiet below
  | @accepted es rest t t' n tx hints handle quiet taken settled =>
    have hd : due (pre ++ (es ++ [.asked t (.node (.transactionCount a)) (Except.ok n)] ++
        .asked t' (.send tx hints) (Except.ok handle) :: rest)) =
        max (due (pre ++ (es ++ [.asked t (.node (.transactionCount a)) (Except.ok n)])))
          (tx.nonce.toNat + 1) := by
      rw [List.append_cons, ← List.append_assoc, due_append, settled.due, Nat.max_zero,
        ← List.append_assoc, due_append, due_accepted]
    rw [hd] at below ⊢
    have ht := hk.take quiet (t := t) (n := n) (by omega)
    rw [← taken] at ht
    -- what is accepted is due, so the counter does not run over its 64 bits
    have hlt : tx.nonce.toNat + 1 < UInt64.size := by omega
    rw [Counters.next_take, ← taken, UInt64.toNat_add]
    change (tx.nonce.toNat + 1) % UInt64.size = _
    rw [Nat.mod_eq_of_lt hlt]
    omega

theorem Quiet.counted_ne_send (quiet : Quiet es) (t : Nat) (a : Address)
    (answer : Except Failure UInt64) :
    ∀ e ∈ es ++ [.asked t (.node (.transactionCount a)) answer], e.landmark? ≠ some .send := by
  intro e he
  rcases List.mem_append.mp he with he | he
  · exact quiet.ne .send e he
  · cases List.mem_singleton.mp he
    simp [landmark?_count]

theorem Turn.nonce {before after : List (Event Desk)} {t : Nat} {tx : Draft} {hints : Hints}
    {answer : Except Failure Handle}
    (h : Turn a c (before ++ .asked t (.send tx hints) answer :: after) c') (hk : Keeps a c pre)
    (below : due (pre ++ before) < UInt64.size) : tx.nonce.toNat = due (pre ++ before) := by
  generalize hes : before ++ .asked t (.send tx hints) answer :: after = es at h
  have hm := landmark?_send t tx hints answer
  cases h with
  | idle undue unsent =>
    rw [← hes, drafts_append] at unsent
    cases (List.append_eq_nil_iff.mp unsent).2
  | @refused es t t' n tx' hints e quiet taken =>
    obtain ⟨rfl, he, -⟩ := eq_of_landmark hes hm (quiet.counted_ne_send _ _ _) (by simp)
    cases he
    rw [taken, hk.take quiet below]
  | @accepted es rest t t' n tx' hints handle quiet taken settled =>
    obtain ⟨rfl, he, -⟩ := eq_of_landmark hes hm (quiet.counted_ne_send _ _ _)
      (settled.ne (by decide))
    cases he
    rw [taken, hk.take quiet below]

end

section
variable {σ : Type} {env : Environment Desk σ} {d : Dispatcher} {call : Call} {o : Options}
  {u v : Scene σ} {es : List (Event Desk)}

theorem Awaiting.memory {handle : Handle} {r : Except Failure Receipt}
    (h : Awaiting env d o handle u es r v) : v.memory = u.memory := by
  cases h with
  | unmined => rfl
  | mined => rfl
  | confirming _ _ _ confirmed => exact (confirmations_quiet confirmed).2

theorem takeNonce_counted {r : Except Failure UInt64} (counted : d.nonceSource = .counted)
    (free : o.nonce = none) (h : Leads env (d.takeNonce o) u es r v) :
    (∃ e, es = [.asked u.time (.node (.transactionCount d.account)) (Except.error e)] ∧
      r = .error e ∧
      v.memory.counters = u.memory.counters) ∨
    ∃ n, es = [.asked u.time (.node (.transactionCount d.account)) (Except.ok n)] ∧
      r = .ok (u.memory.counters.take d.account n).1 ∧
      v.memory.counters = (u.memory.counters.take d.account n).2 := by
  rcases takeNonce_leads.mp h with ⟨_, own, -⟩ | ⟨-, answer, -, rfl, rfl, rfl⟩
  · cases free.symm.trans own
  · rw [counted]
    cases answer with
    | error e => exact .inl ⟨e, rfl, rfl, rfl⟩
    | ok n => exact .inr ⟨n, rfl, rfl, rfl⟩

theorem deliver_turn {dryRun : Option DryRun} {tx : Draft} {r : Except Failure Outcome}
    {es₁ : List (Event Desk)} (counted : d.nonceSource = .counted) (free : o.nonce = none)
    (quiet : Quiet es₁) (h : Leads env (d.deliver call o dryRun tx) u es r v) :
    Turn d.account u.memory.counters (es₁ ++ es) v.memory.counters := by
  rcases deliver_cases h with ⟨e, hs, -⟩ | ⟨es₂, handle, w, hs, hw⟩
  · cases hs with
    | withoutNonce taken =>
      rcases takeNonce_counted counted free taken with ⟨e', rfl, -, hm⟩ | ⟨n, -, hr, -⟩
      · rw [hm]
        refine .idle ?_ ?_
        · rw [due_append, quiet.due, due_uncounted]
          rfl
        · rw [drafts_append, quiet.drafts]
          rfl
      · cases hr
    | @refused _ nonce w _ taken answer =>
      rcases takeNonce_counted counted free taken with ⟨e', -, hr, -⟩ | ⟨n, rfl, hr, hm⟩
      · cases hr
      · cases hr
        have hv : (d.handBack o (u.memory.counters.take d.account n).1 w.memory).counters =
            (u.memory.counters.take d.account n).2.release d.account
              (u.memory.counters.take d.account n).1 := by
          simp [Dispatcher.handBack, free, counted, hm, NonceSource.release]
        rw [← List.append_assoc]
        exact hv ▸ .refused quiet rfl
  · cases hs with
    | accepted taken answer =>
      rcases takeNonce_counted counted free taken with ⟨e', -, hr, -⟩ | ⟨n, rfl, hr, hm⟩
      · cases hr
      · cases hr
        rcases hw with ⟨-, rfl, -, rfl⟩ | ⟨-, es₃, r', ha, rfl, -⟩
        · rw [← List.append_assoc]
          exact hm ▸ .accepted quiet rfl settled_nil
        · rw [ha.memory]
          simp only [← List.append_assoc]
          rw [List.append_assoc _ [_] es₃]
          exact hm ▸ .accepted quiet rfl ha.settled

theorem submit_turn {r : Except Failure Outcome} (counted : d.nonceSource = .counted)
    (free : o.nonce = none) (h : Leads env (d.submit call o) u es r v) :
    Turn d.account u.memory.counters es v.memory.counters := by
  obtain ⟨r', hp, -⟩ := submit_leads.mp h
  rcases perform_cases hp with hh | ⟨es₁, dryRun, tx, w, es₂, hc, hd, rfl⟩
  · rw [hh.counters]
    exact .idle hh.quiet.due hh.quiet.drafts
  · rw [← hc.quiet.2]
    exact deliver_turn counted free hc.quiet.1 hd

/-! ## Many submissions -/

/-- Submissions one after another, none with a nonce of its own. Each starts from the memory that
the one before it left, at any time and state of the surroundings. -/
inductive Series (env : Environment Desk σ) (d : Dispatcher) :
    Scene σ → List (Event Desk) → Scene σ → Prop
  | done {u : Scene σ} : Series env d u [] u
  | next {call : Call} {o : Options} {u v u' w : Scene σ} {es es' : List (Event Desk)}
      {r : Except Failure Outcome} (free : o.nonce = none)
      (submitted : Leads env (d.submit call o) u es r v) (kept : u'.memory = v.memory)
      (others : Series env d u' es' w) : Series env d u (es ++ es') w

theorem Series.nonce {pre before after : List (Event Desk)} {t : Nat} {tx : Draft} {hints : Hints}
    {answer : Except Failure Handle} (counted : d.nonceSource = .counted) (h : Series env d u es v)
    (hk : Keeps d.account u.memory.counters pre)
    (hes : es = before ++ .asked t (.send tx hints) answer :: after)
    (below : due (pre ++ before) < UInt64.size) : tx.nonce.toNat = due (pre ++ before) := by
  induction h generalizing pre before with
  | done => cases before <;> cases hes
  | @next call o u v u' w es es' r free submitted kept others ih =>
    have turn := submit_turn counted free submitted
    rcases found_in_append hes with ⟨l, rfl, -⟩ | ⟨l, rfl, rfl⟩
    · exact turn.nonce hk below
    · rw [← List.append_assoc] at below ⊢
      exact ih (kept ▸ turn.keeps hk) rfl below

/-- Every draft has the nonce that is due at its turn. -/
def InTurn (es : List (Event Desk)) : Prop :=
  ∀ before t tx hints answer after, es = before ++ .asked t (.send tx hints) answer :: after →
    due before < UInt64.size → tx.nonce.toNat = due before

theorem InTurn.of_append {es' : List (Event Desk)} (h : InTurn (es ++ es')) : InTurn es := by
  rintro before t tx hints answer after rfl below
  exact h before t tx hints answer (after ++ es') (by simp) below

theorem InTurn.no_gap (h : InTurn es) (below : due es < UInt64.size) {m : Nat} (hm : m < due es) :
    m ∈ accepted es ∨ ∃ n ∈ reported es, m < n := by
  induction es using List.reverseRecOn with
  | nil => cases hm
  | append_singleton es e ih =>
    rw [due_append] at below hm
    rw [accepted_append, reported_append]
    by_cases hlt : m < due es
    · rcases ih h.of_append (by omega) hlt with ha | ⟨n, hn, hmn⟩
      · exact .inl (List.mem_append_left _ ha)
      · exact .inr ⟨n, List.mem_append_left _ hn, hmn⟩
    rcases due_singleton_cases e with hz | ⟨t, a, n, rfl⟩ | ⟨t, tx, hints, handle, rfl⟩
    · omega
    · rw [due_count] at hm
      exact .inr ⟨n.toNat, List.mem_append_right _ List.mem_cons_self, by omega⟩
    · have ht := h es t tx hints (.ok handle) [] rfl (by omega)
      rw [due_accepted] at hm
      obtain rfl : m = tx.nonce.toNat := by omega
      exact .inl (List.mem_append_right _ List.mem_cons_self)

theorem Series.inTurn (counted : d.nonceSource = .counted)
    (fresh : u.memory.counters.lookup d.account = none) (h : Series env d u es v) : InTurn es := by
  have hk : Keeps d.account u.memory.counters [] := fun _ => by simp [Counters.next, fresh]
  intro before t tx hints answer after hes below
  exact h.nonce counted hk hes below

/-- Over submissions that count their nonces from the start, each draft has the nonce that is due:
it is above all accepted ones, it is that of the last draft again if this was refused and the node
has not counted further, and it leaves no nonce out that the node has not counted. -/
theorem series_nonces (counted : d.nonceSource = .counted)
    (fresh : u.memory.counters.lookup d.account = none) (h : Series env d u es v)
    {before after : List (Event Desk)} {t : Nat} {tx : Draft} {hints : Hints}
    {answer : Except Failure Handle}
    (hes : es = before ++ .asked t (.send tx hints) answer :: after)
    (below : due before < UInt64.size) :
    tx.nonce.toNat = due before ∧
    (∀ n ∈ accepted before, n < tx.nonce.toNat) ∧
    (∀ init t' tx' hints' e mid,
      before = init ++ .asked t' (.send tx' hints') (Except.error e) :: mid → drafts mid = [] →
      tx.nonce.toNat = max tx'.nonce.toNat (greatest (reported mid))) ∧
    (∀ m < tx.nonce.toNat, m ∈ accepted before ∨ ∃ n ∈ reported before, m < n) := by
  have turns := h.inTurn counted fresh
  have hn := turns _ _ _ _ _ _ hes below
  have hbefore : InTurn before := InTurn.of_append (hes ▸ turns)
  refine ⟨hn, ?_, ?_, ?_⟩
  · intro n ha
    have := le_greatest (List.mem_map_of_mem (f := (· + 1)) ha)
    rw [hn, due]
    omega
  · rintro init t' tx' hints' e mid rfl unsent
    have hi := hbefore _ _ _ _ _ _ rfl (Nat.lt_of_le_of_lt (due_le_append _ _) below)
    rw [hn, hi, due_append, ← List.singleton_append, due_append, due_refused, due_unsent unsent]
    omega
  · intro m hm
    exact hbefore.no_gap below (hn ▸ hm)

end

def reluctant : Environment Desk Nat := fun q t n =>
  match q with
  | .send tx hints =>
    if n = 0 then ⟨.error (.rpc (own "busy")), 1, t⟩
    else ⟨(standstill (.send tx hints) t ()).answer, n + 1, t⟩
  | q => ⟨(standstill q t ()).answer, n, t⟩

def reluctantStep : Step Outcome := plainDispatcher.submit (.ofData .zero []) forcedOptions

def reluctantScene : Nat → Scene Nat
  | 0 => ⟨⟨0, 0⟩, ⟨none, []⟩⟩
  | n + 1 => arrive reluctant reluctantStep (reluctantScene n)

def reluctantEvents (n : Nat) : List (Event Desk) :=
  (enact reluctant reluctantStep (reluctantScene n)).events

theorem reluctant_series :
    Series reluctant plainDispatcher (reluctantScene 0)
      (reluctantEvents 0 ++ (reluctantEvents 1 ++ [])) (reluctantScene 2) :=
  .next rfl (leads_enact _ _ _) rfl (.next rfl (leads_enact _ _ _) rfl .done)

def reluctantDraft : Draft :=
  plainDispatcher.draft (.ofData .zero []) forcedOptions (some (.wouldRevert "refused")) 1
    (.legacy 1)

theorem reluctantEvents_eq :
    reluctantEvents 0 ++ (reluctantEvents 1 ++ []) = reluctantEvents 0 ++
      (reluctantEvents 1).take 3 ++
      [.asked 0 (.send reluctantDraft (Dispatcher.hints (.ofData .zero []) forcedOptions))
        (Except.ok (.hash .zero))] := by rfl

theorem reluctant_nonce :
    let before := reluctantEvents 0 ++ (reluctantEvents 1).take 3
    reluctantDraft.nonce.toNat = due before ∧
    (∀ n ∈ accepted before, n < reluctantDraft.nonce.toNat) ∧
    (∀ init t' tx' hints' e mid,
      before = init ++ .asked t' (.send tx' hints') (Except.error e) :: mid → drafts mid = [] →
      reluctantDraft.nonce.toNat = max tx'.nonce.toNat (greatest (reported mid))) ∧
    (∀ m < reluctantDraft.nonce.toNat, m ∈ accepted before ∨ ∃ n ∈ reported before, m < n) :=
  series_nonces rfl rfl reluctant_series reluctantEvents_eq (by decide +kernel)

end Dispatch
