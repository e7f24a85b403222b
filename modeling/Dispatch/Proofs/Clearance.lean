import Dispatch.Proofs.GasLimits
import Dispatch.Proofs.Stages

/-!
# A submission sends what was cleared

A draft reaches the wallet at most once in a submission, and only after the dry run, the chain, the
fees and the balance have all allowed it. Nothing before that touches a nonce.
-/

set_option autoImplicit false

namespace Dispatch
open Program (Environment Event)
open Step

section
variable {σ : Type} {env : Environment Desk σ} {d : Dispatcher} {call : Call} {o : Options}
  {u v : Scene σ} {es : List (Event Desk)}

/-- The courses by which a submission gets its nonce: the caller gave it, or the nonce source
does. -/
inductive Numbered (env : Environment Desk σ) (d : Dispatcher) (o : Options) (u : Scene σ) :
    List (Event Desk) → UInt64 → Scene σ → Prop
  | given {nonce : UInt64} (own : o.nonce = some nonce) : Numbered env d o u [] nonce u
  | drawn {asked : List (Event Node)} {nonce : UInt64} {counters : Counters} {w : Program.Moment σ}
      (free : o.nonce = none)
      (next : Program.Leads env.node ((d.nonceSource.next d.account).run u.memory.counters)
        u.toMoment asked (.ok nonce, counters) w) :
      Numbered env d o u (asked.map Event.atDesk) nonce ⟨w, { u.memory with counters }⟩

/-- Nothing but a dry run was not asked for, and the dry run was skipped or succeeded or does not
matter. -/
def Dispatcher.Permits (d : Dispatcher) (o : Options) (dryRun : Option DryRun) : Prop :=
  o.dryRunOnly = false ∧
    (o.skipDryRun ∨ d.settings.disableDryRun ∨ (∃ gas, dryRun = some (.wouldSucceed gas)) ∨
      o.forceSend)

theorem Simulated.permits {dryRun : Option DryRun} (h : Simulated env d call o u es dryRun v) :
    d.Permits o dryRun := by
  cases h with
  | skipped wanted skip =>
    rcases skip with skip | disabled
    · exact ⟨wanted, .inl skip⟩
    · exact ⟨wanted, .inr (.inl disabled)⟩
  | @allowed _ dryRun _ wanted _ _ allows =>
    refine ⟨wanted, .inr (.inr ?_)⟩
    rcases allows with success | force
    · cases dryRun with
      | wouldSucceed gas => exact .inl ⟨gas, rfl⟩
      | wouldRevert reason => cases success
      | nodeError error => cases success
    · exact .inr force

theorem Cleared.permits {dryRun : Option DryRun} {tx : Draft}
    (h : Cleared env d call o u es dryRun tx v) :
    d.Permits o dryRun := by
  obtain ⟨simulated, -, -, -⟩ := h
  exact simulated.permits

/-- A draft of the call from the account, with the gas for it, and on the chain and with the fees
that were resolved among these events. -/
structure Handed (env : Environment Desk σ) (d : Dispatcher) (call : Call) (o : Options)
    (u : Scene σ) (es : List (Event Desk)) (dryRun : Option DryRun) (tx : Draft) : Prop where
  sender : tx.sender = d.account
  recipient : tx.recipient = call.recipient
  value : tx.value = call.value
  data : tx.data = call.data
  gasLimit : Limited d.settings call o dryRun tx.gasLimit
  chainId : u.memory.chainId = some tx.chainId ∨
    u.memory.chainId = none ∧ ∃ t, .asked t (.node .chainId) (.ok tx.chainId) ∈ es
  resolved : ∃ es₁ u₁ es₂ u₂ es₃ u₃ es₄, es = es₁ ++ (es₂ ++ (es₃ ++ es₄)) ∧
    Simulated env d call o u es₁ dryRun u₁ ∧
    Leads env Dispatcher.resolveChain u₁ es₂ (.ok tx.chainId) u₂ ∧
    Leads env (Dispatcher.attempt (d.settings.resolveFees o)) u₂ es₃ (.ok tx.fees) u₃

theorem Cleared.handed {dryRun : Option DryRun} {tx : Draft}
    (h : Cleared env d call o u es dryRun tx v)
    (nonce : UInt64) : Handed env d call o u es dryRun { tx with nonce } := by
  obtain ⟨simulated, chain, priced, -⟩ := h
  refine ⟨rfl, rfl, rfl, rfl, limited_resolveGasLimit _ _ _ _, ?_,
    ⟨_, _, _, _, _, _, _, rfl, simulated, chain, priced⟩⟩
  rw [← simulated.quiet.2]
  rcases resolveChain_leads.mp chain with ⟨id, known, -, same, -⟩ | ⟨unknown, -, rfl, -⟩
  · cases same
    exact .inl known
  · exact .inr ⟨unknown, _, List.mem_append_right _ (List.mem_append_left _ List.mem_cons_self)⟩

theorem Cleared.draft {dryRun : Option DryRun} {tx : Draft}
    (h : Cleared env d call o u es dryRun tx v) :
    ∃ chainId fees, tx = d.draft call o dryRun chainId fees := by
  obtain ⟨-, -, -, -⟩ := h
  exact ⟨_, _, rfl⟩

theorem next_leads {source : NonceSource} {a : Address} {c c' : Counters} {env : Environment Node σ}
    {u v : Program.Moment σ} {asked : List (Event Node)} {r : Except Failure UInt64} :
    Program.Leads env ((source.next a).run c) u asked (r, c') v ↔
      (r, c') = source.settle a c (env (.transactionCount a) u.time u.state).answer ∧
        asked = [.asked u.time (.transactionCount a)
          (env (.transactionCount a) u.time u.state).answer] ∧
        v = u.after env (.transactionCount a) := by
  rw [next_eq_ask]
  exact Program.leads_ask_done

theorem settle_error {source : NonceSource} {a : Address} {c : Counters} {e : Failure}
    {answer : Except Failure UInt64} (h : .error e = (source.settle a c answer).1) :
    answer = .error e := by
  cases answer with
  | error e' => exact h.symm
  | ok onChain => cases source <;> cases h

theorem settle_ok {source : NonceSource} {a : Address} {c : Counters} {nonce : UInt64}
    {answer : Except Failure UInt64} (h : .ok nonce = (source.settle a c answer).1) :
    ∃ onChain, answer = .ok onChain := by
  cases answer with
  | error e' => cases h
  | ok onChain => exact ⟨onChain, rfl⟩

theorem numbered_iff {nonce : UInt64} :
    Numbered env d o u es nonce v ↔ Leads env (d.takeNonce o) u es (.ok nonce) v := by
  rw [takeNonce_leads]
  constructor
  · rintro (own | ⟨free, next⟩)
    · exact .inl ⟨nonce, own, rfl, rfl, rfl⟩
    · obtain ⟨hr, rfl, rfl⟩ := next_leads.mp next
      obtain ⟨hn, rfl⟩ := Prod.mk.inj hr
      exact .inr ⟨free, _, rfl, rfl, hn, rfl⟩
  · rintro (⟨_, own, rfl, hn, rfl⟩ | ⟨free, answer, rfl, rfl, hn, rfl⟩)
    · cases hn
      exact .given own
    · exact .drawn free (next_leads.mpr ⟨Prod.ext hn rfl, rfl, rfl⟩)

theorem takeNonce_landmarks {r : Except Failure UInt64} (h : Leads env (d.takeNonce o) u es r v) :
    ∀ e ∈ es, e.landmark? = some .count := by
  rcases takeNonce_leads.mp h with ⟨_, -, rfl, -⟩ | ⟨-, answer, -, rfl, -⟩
  · simp
  · simp [Event.landmark?, DeskQuestion.landmark?]

theorem Sending.landmarks {tx : Draft} {hints : Hints} {r : Except Failure Handle}
    (h : Sending env d o tx hints u es r v) :
    ∀ e ∈ es, e.landmark? = some .count ∨ e.landmark? = some .send := by
  cases h with
  | withoutNonce taken => exact fun e he => .inl (takeNonce_landmarks taken e he)
  | refused taken | accepted taken =>
    intro e he
    rcases List.mem_append.mp he with he | he
    · exact .inl (takeNonce_landmarks taken e he)
    · cases List.mem_singleton.mp he
      exact .inr rfl

theorem Awaiting.settled {handle : Handle} {r : Except Failure Receipt}
    (h : Awaiting env d o handle u es r v) : Settled es := by
  cases h with
  | unmined => simp [Settled, landmark?_wait]
  | mined => simp [Settled, landmark?_wait]
  | confirming _ _ _ confirmed =>
    intro e he
    rcases List.mem_cons.mp he with rfl | he
    · exact .inr rfl
    · exact .inl ((confirmations_quiet confirmed).1 e he)

/-- What is done with a cleared draft: it gets a nonce, it is handed over, and its receipt and the
blocks on top of that are waited for. -/
inductive Delivers (tx : Draft) (hints : Hints) : Event Desk → Prop
  | counts {t : Nat} {a : Address} {answer : Except Failure UInt64} :
      Delivers tx hints (.asked t (.node (.transactionCount a)) answer)
  | sends {t : Nat} {nonce : UInt64} {answer : Except Failure Handle} :
      Delivers tx hints (.asked t (.send { tx with nonce } hints) answer)
  | waits {t : Nat} {handle : Handle} {bounds : WaitBounds} {answer : Except Failure Receipt} :
      Delivers tx hints (.asked t (.wait handle bounds) answer)
  | confirms {t : Nat} {answer : Except Failure UInt64} :
      Delivers tx hints (.asked t (.node .blockNumber) answer)
  | sleeps {t : Nat} {pause : Duration} : Delivers tx hints (.slept t pause)

theorem takeNonce_delivers {tx : Draft} {hints : Hints} {r : Except Failure UInt64}
    (h : Leads env (d.takeNonce o) u es r v) : ∀ e ∈ es, Delivers tx hints e := by
  rcases takeNonce_leads.mp h with ⟨_, -, rfl, -⟩ | ⟨-, answer, -, rfl, -⟩
  · simp
  · intro e he
    cases List.mem_singleton.mp he
    exact .counts

theorem Sending.delivers {tx : Draft} {hints : Hints} {r : Except Failure Handle}
    (h : Sending env d o tx hints u es r v) : ∀ e ∈ es, Delivers tx hints e := by
  cases h with
  | withoutNonce taken => exact takeNonce_delivers taken
  | refused taken | accepted taken =>
    intro e he
    rcases List.mem_append.mp he with he | he
    · exact takeNonce_delivers taken e he
    · cases List.mem_singleton.mp he
      exact .sends

theorem Awaiting.delivers {tx : Draft} {hints : Hints} {handle : Handle}
    {r : Except Failure Receipt}
    (h : Awaiting env d o handle u es r v) : ∀ e ∈ es, Delivers tx hints e := by
  cases h with
  | unmined | mined =>
    intro e he
    cases List.mem_singleton.mp he
    exact .waits
  | confirming _ _ _ confirmed =>
    intro e he
    rcases List.mem_cons.mp he with rfl | he
    · exact .waits
    obtain ⟨asked, course, rfl, -⟩ := leads_attempt.mp confirmed
    obtain ⟨e, listed, rfl⟩ := List.mem_map.mp he
    have within := course.within (waitForConfirmations_only _ _ _) e listed
    cases e with
    | slept t pause => exact .sleeps
    | asked t q answer =>
      cases within
      exact .confirms

theorem deliver_delivers {dryRun : Option DryRun} {tx : Draft} {r : Except Failure Outcome}
    (h : Leads env (d.deliver call o dryRun tx) u es r v) :
    ∀ e ∈ es, Delivers tx (Dispatcher.hints call o) e := by
  rcases deliver_cases h with ⟨_, sending, -⟩ |
    ⟨es₁, handle, w, sending, ⟨-, rfl, -⟩ | ⟨-, es₂, _, awaiting, rfl, -⟩⟩
  · exact sending.delivers
  · exact sending.delivers
  · intro e he
    rcases List.mem_append.mp he with he | he
    · exact sending.delivers e he
    · exact awaiting.delivers e he

theorem Numbered.events {nonce : UInt64} (h : Numbered env d o u es nonce v) :
    o.nonce = some nonce ∧ es = [] ∨
    o.nonce = none ∧ ∃ onChain,
      es = [.asked u.time (.node (.transactionCount d.account)) (.ok onChain)] := by
  cases h with
  | given own => exact .inl ⟨own, rfl⟩
  | drawn free next =>
    obtain ⟨hr, rfl, -⟩ := next_leads.mp next
    obtain ⟨onChain, ha⟩ := settle_ok (Prod.mk.inj hr).1
    exact .inr ⟨free, onChain, by rw [ha]; rfl⟩

/-- How far a submission comes: it ends before its nonce is asked for, or it gets none, or it hands
over the cleared draft, after which only the receipt and the blocks on top of it are asked for. -/
inductive Reached (env : Environment Desk σ) (d : Dispatcher) (call : Call) (o : Options)
    (u : Scene σ) :
    List (Event Desk) → Prop
  | halted {es : List (Event Desk)} (quiet : Quiet es) : Reached env d call o u es
  | unnumbered {es : List (Event Desk)} {dryRun : Option DryRun} {tx : Draft} {v w : Scene σ}
      {e : Failure} (cleared : Cleared env d call o u es dryRun tx w) (free : o.nonce = none)
      (failed : Leads env (d.takeNonce o) w
        [.asked w.time (.node (.transactionCount d.account)) (.error e)] (.error e) v) :
      Reached env d call o u
        (es ++ [.asked w.time (.node (.transactionCount d.account)) (.error e)])
  | sent {es₁ es₂ rest : List (Event Desk)} {dryRun : Option DryRun} {tx : Draft} {w w' : Scene σ}
      {nonce : UInt64} {answer : Except Failure Handle}
      (cleared : Cleared env d call o u es₁ dryRun tx w)
        (numbered : Numbered env d o w es₂ nonce w')
      (settled : Settled rest) :
      Reached env d call o u (es₁ ++ (es₂ ++
        .asked w'.time (.send { tx with nonce } (Dispatcher.hints call o)) answer :: rest))

theorem Cleared.reached {dryRun : Option DryRun} {tx : Draft} {es₁ : List (Event Desk)}
    {w : Scene σ} {r : Except Failure Outcome} (hc : Cleared env d call o u es₁ dryRun tx w)
    (h : Leads env (d.deliver call o dryRun tx) w es r v) : Reached env d call o u (es₁ ++ es) := by
  rcases deliver_cases h with ⟨e, hs, -⟩ | ⟨es₂, handle, w, hs, hw⟩
  · cases hs with
    | withoutNonce taken =>
      rcases takeNonce_leads.mp taken with ⟨_, -, -, he, -⟩ | ⟨free, answer, -, rfl, he, -⟩
      · cases he
      · cases settle_error he
        exact .unnumbered hc free taken
    | refused taken answer => exact .sent hc (numbered_iff.mpr taken) settled_nil
  · cases hs with
    | accepted taken answer =>
      rcases hw with ⟨-, rfl, -⟩ | ⟨-, es₃, r', ha, rfl, -⟩
      · exact .sent hc (numbered_iff.mpr taken) settled_nil
      · rw [List.append_assoc]
        exact .sent hc (numbered_iff.mpr taken) ha.settled

theorem submit_reached {r : Except Failure Outcome} (h : Leads env (d.submit call o) u es r v) :
    Reached env d call o u es := by
  obtain ⟨r', hp, -⟩ := submit_leads.mp h
  rcases perform_cases hp with hh | ⟨es₁, dryRun, tx, w, es₂, hc, hd, rfl⟩
  · exact .halted hh.quiet
  · exact hc.reached hd

theorem Numbered.landmarks {nonce : UInt64} (h : Numbered env d o u es nonce v) :
    ∀ e ∈ es, e.landmark? = some .count := takeNonce_landmarks (numbered_iff.mp h)

theorem Reached.drafts_length (h : Reached env d call o u es) : (drafts es).length ≤ 1 := by
  cases h with
  | halted quiet => simp [quiet.drafts]
  | unnumbered cleared => simp [cleared.quiet.1.drafts, drafts_eq_nil, landmark?_count]
  | @sent es₁ es₂ rest _ _ _ w' _ answer cleared numbered settled =>
    have hn := drafts_eq_nil fun e he => by rw [numbered.landmarks e he]; simp
    have hr := settled.drafts
    rw [drafts_append, drafts_append, cleared.quiet.1.drafts, hn]
    exact Nat.le_of_eq (congrArg (fun l => l.length + 1) hr)

theorem Reached.of_draft {tx : Draft} (h : Reached env d call o u es) (htx : tx ∈ drafts es) :
    ∃ es₁ dryRun tx₀ w es₂ nonce w', Cleared env d call o u es₁ dryRun tx₀ w ∧
      Numbered env d o w es₂ nonce w' := by
  cases h with
  | halted quiet => simp [quiet.drafts] at htx
  | unnumbered cleared =>
    rw [drafts_append, cleared.quiet.1.drafts] at htx
    cases htx
  | sent cleared numbered => exact ⟨_, _, _, _, _, _, _, cleared, numbered⟩

theorem Reached.of_send {before after : List (Event Desk)} {t : Nat} {tx : Draft} {hints : Hints}
    {answer : Except Failure Handle}
    (h : Reached env d call o u (before ++ .asked t (.send tx hints) answer :: after)) :
    ∃ es₁ dryRun tx₀ w es₂ nonce w', Cleared env d call o u es₁ dryRun tx₀ w ∧
      Numbered env d o w es₂ nonce w' ∧ before = es₁ ++ es₂ ∧ tx = { tx₀ with nonce } ∧
      hints = Dispatcher.hints call o := by
  generalize hes : before ++ .asked t (.send tx hints) answer :: after = es at h
  have hm := landmark?_send t tx hints answer
  cases h with
  | halted quiet => cases hm.symm.trans (quiet _ (by simp [← hes]))
  | unnumbered cleared =>
    rcases List.mem_append.mp (hes ▸ List.mem_append_right _ List.mem_cons_self) with h | h
    · cases hm.symm.trans (cleared.quiet.1 _ h)
    · cases List.mem_singleton.mp h
  | @sent es₁ es₂ rest dryRun tx₀ w w' nonce _ cleared numbered settled =>
    rw [← List.append_assoc] at hes
    obtain ⟨rfl, he, -⟩ := eq_of_landmark hes hm
      (fun e he => by
        rcases List.mem_append.mp he with h | h
        · simp [cleared.quiet.1 e h]
        · simp [numbered.landmarks e h])
      (settled.ne (by decide))
    cases he
    exact ⟨_, _, _, _, _, _, _, cleared, numbered, rfl, rfl, rfl⟩

theorem Reached.of_count {before after : List (Event Desk)} {t : Nat} {a : Address}
    {answer : Except Failure UInt64}
    (h : Reached env d call o u
      (before ++ .asked t (.node (.transactionCount a)) answer :: after)) :
    (∃ dryRun tx w, Cleared env d call o u before dryRun tx w) ∧ o.nonce = none ∧ a = d.account ∧
      ∀ e, answer = .error e → after = [] := by
  generalize hes : before ++ .asked t (.node (.transactionCount a)) answer :: after = es at h
  have hm := landmark?_count t a answer
  cases h with
  | halted quiet => cases hm.symm.trans (quiet _ (by simp [← hes]))
  | unnumbered cleared free =>
    obtain ⟨rfl, he, rfl⟩ := eq_of_landmark hes hm (cleared.quiet.1.ne _) (by simp)
    cases he
    exact ⟨⟨_, _, _, cleared⟩, free, rfl, fun _ _ => rfl⟩
  | @sent es₁ es₂ rest dryRun tx₀ w w' nonce _ cleared numbered settled =>
    rcases numbered.events with ⟨-, rfl⟩ | ⟨free, onChain, rfl⟩
    · obtain h | h | h := by
        simpa using (hes ▸ List.mem_append_right before List.mem_cons_self :
          Event.asked t (DeskQuestion.node (.transactionCount a)) answer ∈ es₁ ++ ([] ++ _ :: rest))
      · cases hm.symm.trans (cleared.quiet.1 _ h)
      · cases h
      · exact (settled.ne (by decide) _ h hm).elim
    · obtain ⟨rfl, he, rfl⟩ := eq_of_landmark hes hm (cleared.quiet.1.ne _) (by
        intro e he
        rcases List.mem_cons.mp he with rfl | he
        · simp [landmark?_send]
        · exact settled.ne (by decide) e he)
      cases he
      exact ⟨⟨_, _, _, cleared⟩, free, rfl, nofun⟩

theorem Numbered.sends {dryRun : Option DryRun} {tx : Draft} {es₁ : List (Event Desk)} {w : Scene σ}
    {nonce : UInt64} {r : Except Failure Outcome} (hn : Numbered env d o u es₁ nonce w)
    (h : Leads env (d.deliver call o dryRun tx) u es r v) : { tx with nonce } ∈ drafts es := by
  rcases deliver_cases h with ⟨e, hs, -⟩ | ⟨es₂, handle, w₂, hs, hw⟩
  · cases hs with
    | withoutNonce taken => cases ((numbered_iff.mp hn).unique taken).2.1
    | refused taken answer =>
      cases ((numbered_iff.mp hn).unique taken).2.1
      rw [drafts_append]
      exact List.mem_append_right _ List.mem_cons_self
  · cases hs with
    | @accepted es₂ nonce' w₁ _ taken answer =>
      cases ((numbered_iff.mp hn).unique taken).2.1
      have hsent : { tx with nonce } ∈ drafts
          (es₂ ++ [.asked w₁.time (.send { tx with nonce } (Dispatcher.hints call o))
            (.ok handle)]) := by
        rw [drafts_append]
        exact List.mem_append_right _ List.mem_cons_self
      rcases hw with ⟨-, rfl, -⟩ | ⟨-, es₃, r', -, rfl, -⟩
      · exact hsent
      · rw [drafts_append]
        exact List.mem_append_left _ hsent

theorem Cleared.sends {dryRun : Option DryRun} {tx : Draft} {es₁ es₂ : List (Event Desk)}
    {w w' : Scene σ} {nonce : UInt64} (hc : Cleared env d call o u es₁ dryRun tx w)
    (hn : Numbered env d o w es₂ nonce w') :
    { tx with nonce } ∈ drafts (enact env (d.submit call o) u).events := by
  have hd := leads_enact env (d.deliver call o dryRun tx) w
  rw [(submit_leads.mpr ⟨_, hc.perform hd, rfl⟩).events_eq, drafts_append]
  exact List.mem_append_right _ (hn.sends hd)

/-- The draft that a submission hands over is the only one, and it is that of the call, cleared: the
dry run allowed it, and chain, fees and balance were settled before. No nonce is asked for earlier,
and none is used if the nonce source fails. -/
theorem submit_sends_cleared_once (env : Environment Desk σ) (d : Dispatcher) (call : Call)
    (o : Options) (u : Scene σ) :
    let es := (enact env (d.submit call o) u).events
    (drafts es).length ≤ 1 ∧
    (drafts es ≠ [] ↔ ∃ es₁ dryRun tx w es₂ nonce w',
      Cleared env d call o u es₁ dryRun tx w ∧ Numbered env d o w es₂ nonce w') ∧
    (∀ before t tx hints answer after, es = before ++ .asked t (.send tx hints) answer :: after →
      ∃ es₁ dryRun chainId fees w es₂ nonce w', d.Permits o dryRun ∧
        Cleared env d call o u es₁ dryRun (d.draft call o dryRun chainId fees) w ∧
        Numbered env d o w es₂ nonce w' ∧ before = es₁ ++ es₂ ∧
        tx = { d.draft call o dryRun chainId fees with nonce } ∧
        Handed env d call o u es₁ dryRun tx ∧ hints = Dispatcher.hints call o) ∧
    (∀ before t a answer after,
      es = before ++ .asked t (.node (.transactionCount a)) answer :: after →
      (∃ dryRun tx w, d.Permits o dryRun ∧ Cleared env d call o u before dryRun tx w) ∧
        o.nonce = none ∧ a = d.account ∧ ∀ e, answer = .error e → drafts es = []) := by
  intro es
  have h : Reached env d call o u es := submit_reached (leads_enact env (d.submit call o) u)
  refine ⟨h.drafts_length, ⟨fun hd => ?_, ?_⟩, ?_, ?_⟩
  · obtain ⟨tx, htx⟩ := List.exists_mem_of_ne_nil _ hd
    exact h.of_draft htx
  · rintro ⟨es₁, dryRun, tx, w, es₂, nonce, w', hc, hn⟩
    exact List.ne_nil_of_mem (hc.sends hn)
  · intro before t tx hints answer after hes
    obtain ⟨es₁, dryRun, tx₀, w, es₂, nonce, w', hc, hn, hb, htx, hh⟩ := (hes ▸ h).of_send
    have handed := htx ▸ hc.handed nonce
    obtain ⟨chainId, fees, rfl⟩ := hc.draft
    exact ⟨es₁, dryRun, chainId, fees, w, es₂, nonce, w', hc.permits, hc, hn, hb, htx, handed, hh⟩
  · intro before t a answer after hes
    obtain ⟨hc, free, ha, hfail⟩ := (hes ▸ h).of_count
    obtain ⟨dryRun, tx, w, hc⟩ := hc
    refine ⟨⟨dryRun, tx, w, hc.permits, hc⟩, free, ha, fun e he => ?_⟩
    rw [hes, hfail e he, drafts_append, hc.quiet.1.drafts]
    rfl

end
end Dispatch
