import Dispatch.Proofs.DeviceCommands
import Dispatch.Proofs.SignersAgree
import Mathlib.Data.List.Forall2

/-!
# The stream of an emulator

Commands go to an emulator over a stream and its replies come back over it, one behind the other and
without marks between them. Each exchange writes its command behind its length and reads just one
reply, also when that is a refusal, so that the next exchange starts with the first byte of the next
reply. This holds over any number of exchanges, and so over any number of signatures, wherever they
stop.
-/

set_option autoImplicit false

namespace Dispatch
open Program (Environment Event Moment Leads)

namespace Ledger

/-! ## What goes over the stream -/

/-- A reply of an emulator. -/
structure Reply where
  data : Bytes
  status : UInt16
  short : data.length < UInt32.size

def Reply.bytes (reply : Reply) : Bytes :=
  Bytes.ofNat 4 reply.data.length ++ (reply.data ++ Bytes.ofNat 2 reply.status.toNat)

def framed (cmd : Bytes) : Bytes := Bytes.ofNat 4 cmd.length ++ cmd

/-- What an exchange comes to by its reply: the data, or the failure that the status stands for. -/
def Answers (reply : Reply) (r : Except Failure Bytes) : Prop :=
  reply.status = 0x9000 ∧ r = .ok reply.data ∨
    reply.status ≠ 0x9000 ∧ ∃ fault, checkStatus reply.status = .error fault ∧
      r = .error (.signing (.device fault))

theorem checkStatus_ok_iff {word : UInt16} : checkStatus word = .ok () ↔ word = 0x9000 := by
  unfold checkStatus
  split_ifs <;> simp_all

theorem Answers.of_accepted {reply : Reply} {r : Except Failure Bytes} (h : Answers reply r)
    (accepts : reply.status = 0x9000) : r = .ok reply.data := by
  rcases h with ⟨-, rfl⟩ | ⟨refused, -⟩
  · rfl
  · exact absurd accepts refused

theorem Answers.of_refused {reply : Reply} {r : Except Failure Bytes} {fault : DeviceFault}
    (h : Answers reply r)
    (check : checkStatus reply.status = .error fault) : r = .error (.signing (.device fault)) := by
  rcases h with ⟨accepts, -⟩ | ⟨-, fault', check', rfl⟩
  · rw [checkStatus_ok_iff.mpr accepts] at check
    cases check
  · cases check.symm.trans check'
    rfl

/-- An outside with a stream that takes all bytes and gives its own in order; `unread` is all that
it still has to give, whether that has come or not. -/
structure Streams {σ : Type} (env : Environment Outside σ) (written unread : σ → Bytes) : Prop where
  write : ∀ u b, ∃ es v, Leads env (Outside.write b).run u es (.ok ()) v ∧
    written v.state = written u.state ++ b ∧ unread v.state = unread u.state
  read : ∀ u b rest, unread u.state = b ++ rest →
    ∃ es v, Leads env (Outside.read b.length).run u es (.ok b) v ∧
    written v.state = written u.state ∧ unread v.state = rest

section
variable {σ : Type} {env : Environment Outside σ} {written unread : σ → Bytes} {u : Moment σ}

/-! ## One exchange -/

theorem Streams.leads_framed (h : Streams env written unread) {cmd rest : Bytes} {reply : Reply}
    (short : cmd.length < UInt32.size) (next : unread u.state = reply.bytes ++ rest) :
    ∃ es v, Leads env (exchangeFramed cmd).run u es (.ok (reply.data, reply.status)) v ∧
      written v.state = written u.state ++ framed cmd ∧ unread v.state = rest := by
  have size : (Bytes.ofNat 4 reply.data.length).toNat = reply.data.length := by
    rw [Bytes.toNat_ofNat]
    exact Nat.mod_eq_of_lt reply.short
  have word : UInt16.ofNat (Bytes.ofNat 2 reply.status.toNat).toNat = reply.status := by
    have small : reply.status.toNat < 256 ^ 2 := reply.status.toNat_lt
    rw [Bytes.toNat_ofNat, Nat.mod_eq_of_lt small, UInt16.ofNat_toNat]
  obtain ⟨es₁, v₁, sent, written₁, unread₁⟩ := h.write u (framed cmd)
  rw [next, Reply.bytes, List.append_assoc, List.append_assoc] at unread₁
  obtain ⟨es₂, v₂, length, written₂, unread₂⟩ := h.read v₁ _ _ unread₁
  obtain ⟨es₃, v₃, data, written₃, unread₃⟩ := h.read v₂ _ _ unread₂
  obtain ⟨es₄, v₄, status, written₄, unread₄⟩ := h.read v₃ _ _ unread₃
  rw [Bytes.length_ofNat] at length status
  refine ⟨es₁ ++ (es₂ ++ (es₃ ++ (es₄ ++ []))), v₄,
    ?_, by rw [written₄, written₃, written₂, written₁], unread₄⟩
  unfold exchangeFramed
  rw [if_neg (Nat.not_le.mpr short)]
  refine Program.leads_except_bind.mpr (.inr ⟨es₁, (), v₁, _, sent, ?_, rfl⟩)
  refine Program.leads_except_bind.mpr (.inr ⟨es₂, _, v₂, _, length, ?_, rfl⟩)
  rw [size]
  refine Program.leads_except_bind.mpr (.inr ⟨es₃, _, v₃, _, data, ?_, rfl⟩)
  refine Program.leads_except_bind.mpr (.inr ⟨es₄, _, v₄, _, status, ?_, rfl⟩)
  rw [word]
  exact Program.leads_except_pure.mpr ⟨rfl, rfl, rfl⟩

theorem Streams.leads_exchange (h : Streams env written unread) {cmd rest : Bytes} {reply : Reply}
    (short : cmd.length < UInt32.size) (next : unread u.state = reply.bytes ++ rest) :
    ∃ es r v, Leads env (exchange .emulator cmd).run u es r v ∧ Answers reply r ∧
      written v.state = written u.state ++ framed cmd ∧ unread v.state = rest := by
  obtain ⟨es, v, course, sent, left⟩ := h.leads_framed short next
  cases check : checkStatus reply.status with
  | ok _ =>
    refine ⟨es ++ [], .ok reply.data, v, ?_, .inl ⟨checkStatus_ok_iff.mp check, rfl⟩, sent, left⟩
    refine Program.leads_except_lift_bind.mpr ⟨es, _, v, [], course, ?_, rfl⟩
    dsimp only
    rw [check]
    exact Program.leads_except_pure.mpr ⟨rfl, rfl, rfl⟩
  | error fault =>
    have refused : reply.status ≠ 0x9000 := by
      intro accepted
      rw [checkStatus_ok_iff.mpr accepted] at check
      cases check
    refine ⟨es ++ [], _, v, ?_, .inr ⟨refused, fault, check, rfl⟩, sent, left⟩
    refine Program.leads_except_lift_bind.mpr ⟨es, _, v, [], course, ?_, rfl⟩
    dsimp only
    rw [check]
    exact Program.leads_except_throw.mpr ⟨rfl, rfl, rfl⟩

theorem exchange_long {cmd : Bytes} (long : UInt32.size ≤ cmd.length) :
    ∃ why, Leads env (exchange .emulator cmd).run u []
    (.error (.signing (.device (.transport why)))) u := by
  obtain ⟨why, refused⟩ : ∃ why, exchangeFramed cmd = throw why := ⟨_, if_pos long⟩
  refine ⟨why, Program.leads_except_lift_bind.mpr ⟨[], .error why, u, [], ?_, ?_, rfl⟩⟩
  · rw [refused]
    exact Program.leads_except_throw.mpr ⟨rfl, rfl, rfl⟩
  · exact Program.leads_except_throw.mpr ⟨rfl, rfl, rfl⟩

/-! ## One exchange after another -/

theorem Streams.leads_exchanges (h : Streams env written unread) {cmds : List Bytes}
    {replies : List Reply} {rest : Bytes} (short : ∀ cmd ∈ cmds, cmd.length < UInt32.size)
    (each : cmds.length = replies.length)
    (next : unread u.state = replies.flatMap Reply.bytes ++ rest) :
    ∃ es results v, Leads env (cmds.mapM' fun cmd => (exchange .emulator cmd).run) u es results v ∧
      List.Forall₂ Answers replies results ∧
        written v.state = written u.state ++ cmds.flatMap framed ∧
      unread v.state = rest := by
  induction cmds generalizing replies u with
  | nil =>
    obtain rfl := List.length_eq_zero_iff.mp each.symm
    exact ⟨[], [], u, Program.leads_done.mpr ⟨rfl, rfl, rfl⟩, .nil, (List.append_nil _).symm, next⟩
  | cons cmd cmds ih =>
    cases replies with
    | nil => cases each
    | cons reply replies =>
      obtain ⟨shortCmd, shortRest⟩ := List.forall_mem_cons.mp short
      rw [List.flatMap_cons, List.append_assoc] at next
      obtain ⟨es₁, r, w, course, answers, sent, left⟩ := h.leads_exchange shortCmd next
      obtain ⟨es₂, rs, v, courses, answered, sents, lefts⟩ := ih shortRest (Nat.succ.inj each) left
      refine ⟨es₁ ++ (es₂ ++ []), r :: rs, v, ?_, .cons answers answered, ?_, lefts⟩
      · refine Program.leads_bind.mpr ⟨es₁, r, w, _, course, ?_, rfl⟩
        exact Program.leads_bind.mpr
          ⟨es₂, rs, v, _, courses, Program.leads_done.mpr ⟨rfl, rfl, rfl⟩, rfl⟩
      · rw [sents, sent, List.flatMap_cons, List.append_assoc]

end

/-! ## A row of commands -/

/-- How a row of commands goes over the stream, by the replies taken and the commands sent: all are
accepted and the last answer counts, or the first refusal ends it. -/
inductive Relayed (cmds : List Bytes) (last : Bytes) : List Reply → List Bytes →
    Except Failure Bytes → Prop
  | accepted {replies : List Reply} (each : replies.length = cmds.length)
      (ok : ∀ reply ∈ replies, reply.status = 0x9000) :
      Relayed cmds last replies cmds (.ok ((replies.map Reply.data).getLastD last))
  | refused {sent unsent : List Bytes} {replies : List Reply} {bad : Reply} {fault : DeviceFault}
      (split : cmds = sent ++ unsent) (each : replies.length + 1 = sent.length)
      (ok : ∀ reply ∈ replies, reply.status = 0x9000)
        (check : checkStatus bad.status = .error fault) :
      Relayed cmds last (replies ++ [bad]) sent (.error (.signing (.device fault)))

section
variable {cmds sent : List Bytes} {cmd last : Bytes} {reply : Reply} {replies : List Reply}
  {r : Except Failure Bytes}

theorem Relayed.length_le (h : Relayed cmds last replies sent r) :
    replies.length ≤ cmds.length := by
  cases h with
  | accepted each => exact each.le
  | refused split each =>
    rw [split, List.length_append, List.length_append, List.length_singleton]
    omega

theorem Relayed.cons (accepts : reply.status = 0x9000)
    (h : Relayed cmds reply.data replies sent r) :
    Relayed (cmd :: cmds) last (reply :: replies) (cmd :: sent) r := by
  cases h with
  | accepted each ok =>
    have all : Relayed (cmd :: cmds) last (reply :: _) (cmd :: cmds) _ :=
      .accepted (congrArg (· + 1) each) (List.forall_mem_cons.mpr ⟨accepts, ok⟩)
    rwa [List.map_cons, List.getLastD_cons] at all
  | refused split each ok check =>
    exact .refused (congrArg (cmd :: ·) split) (congrArg (· + 1) each)
      (List.forall_mem_cons.mpr ⟨accepts, ok⟩) check

theorem Relayed.stopped {fault : DeviceFault} (check : checkStatus reply.status = .error fault) :
    Relayed (cmd :: cmds) last [reply] [cmd] (.error (.signing (.device fault))) :=
  show Relayed (cmd :: cmds) last ([] ++ [reply]) [cmd] _ from .refused rfl rfl nofun check

theorem Relayed.cases_cons (h : Relayed (cmd :: cmds) last replies sent r) :
    ∃ reply more, replies = reply :: more ∧
      ((reply.status = 0x9000 ∧ ∃ rest, sent = cmd :: rest ∧ Relayed cmds reply.data more rest r) ∨
        ∃ fault, checkStatus reply.status = .error fault ∧ more = [] ∧ sent = [cmd] ∧
          r = .error (.signing (.device fault))) := by
  cases h with
  | accepted each ok =>
    cases replies with
    | nil => cases each
    | cons reply more =>
      obtain ⟨accepts, rest⟩ := List.forall_mem_cons.mp ok
      rw [List.map_cons, List.getLastD_cons]
      exact ⟨reply, more, rfl, .inl ⟨accepts, cmds, rfl, .accepted (Nat.succ.inj each) rest⟩⟩
  | @refused _ unsent earlier bad fault split each ok check =>
    cases sent with
    | nil => cases each
    | cons first sent =>
      obtain ⟨rfl, rest⟩ := List.cons.inj split
      cases earlier with
      | nil =>
        obtain rfl := List.length_eq_zero_iff.mp (Nat.succ.inj each).symm
        exact ⟨bad, [], rfl, .inr ⟨fault, check, rfl, rfl, rfl⟩⟩
      | cons reply earlier =>
        obtain ⟨accepts, later⟩ := List.forall_mem_cons.mp ok
        exact ⟨reply, earlier ++ [bad], rfl,
          .inl ⟨accepts, sent, rfl, .refused rest (Nat.succ.inj each) later check⟩⟩

theorem exists_relayed (last : Bytes) (enough : cmds.length ≤ replies.length) :
    ∃ taken left sent r, replies = taken ++ left ∧ Relayed cmds last taken sent r := by
  induction cmds generalizing last replies with
  | nil => exact ⟨[], replies, [], .ok last, rfl, .accepted rfl nofun⟩
  | cons cmd cmds ih =>
    cases replies with
    | nil => exact absurd enough (Nat.not_succ_le_zero _)
    | cons reply replies =>
      cases check : checkStatus reply.status with
      | ok _ =>
        obtain ⟨taken, left, sent, r, rfl, relayed⟩ := ih reply.data (Nat.le_of_succ_le_succ enough)
        exact ⟨reply :: taken, left, cmd :: sent, r, rfl, relayed.cons
          (checkStatus_ok_iff.mp check)⟩
      | error fault => exact ⟨[reply], replies, [cmd], _, rfl, .stopped check⟩

end

/-- How a wallet signs a draft over the stream, by the replies taken and the commands sent. -/
inductive Signing (w : LedgerWallet) (tx : Draft) : List Reply → List Bytes →
    Except Failure SignedTransaction → Prop
  | foreign {failure : Failure} (refusal : Backend.ensureSender w.address tx = .error failure) :
      Signing w tx [] [] (.error failure)
  | refused {replies : List Reply} {sent : List Bytes} {failure : Failure}
      (own : tx.sender = w.address)
      (relayed : Relayed (signCommands w.pathPrefix tx.signingBytes) [] replies sent
        (.error failure)) :
      Signing w tx replies sent (.error failure)
  | malformed {replies : List Reply} {sent : List Bytes} {answer : Bytes} {fault : Malformation}
      (own : tx.sender = w.address)
      (relayed : Relayed (signCommands w.pathPrefix tx.signingBytes) [] replies sent (.ok answer))
      (read : readSignature tx answer = .error fault) :
        Signing w tx replies sent (.error (.signing (.malformed fault)))
  | signed {replies : List Reply} {sent : List Bytes} {answer : Bytes} {signature : Signature}
      (own : tx.sender = w.address)
      (relayed : Relayed (signCommands w.pathPrefix tx.signingBytes) [] replies sent (.ok answer))
      (read : readSignature tx answer = .ok signature) :
        Signing w tx replies sent (.ok (tx.signed signature))

inductive Signings (w : LedgerWallet) :
    List Draft → List Reply → List Bytes → List (Except Failure SignedTransaction) → Prop
  | nil : Signings w [] [] [] []
  | cons {tx : Draft} {txs : List Draft} {replies replies' : List Reply} {sent sent' : List Bytes}
      {r : Except Failure SignedTransaction} {rs : List (Except Failure SignedTransaction)}
      (head : Signing w tx replies sent r) (tail : Signings w txs replies' sent' rs) :
      Signings w (tx :: txs) (replies ++ replies') (sent ++ sent') (r :: rs)

section
variable {w : LedgerWallet}

theorem Signing.length_le {tx : Draft} {replies : List Reply} {sent : List Bytes}
    {r : Except Failure SignedTransaction} (h : Signing w tx replies sent r) :
    replies.length ≤ (signCommands w.pathPrefix tx.signingBytes).length := by
  cases h with
  | foreign => exact Nat.zero_le _
  | refused _ relayed => exact relayed.length_le
  | malformed _ relayed => exact relayed.length_le
  | signed _ relayed => exact relayed.length_le

theorem exists_signing {tx : Draft} {replies : List Reply}
    (enough : (signCommands w.pathPrefix tx.signingBytes).length ≤ replies.length) :
    ∃ taken left sent r, replies = taken ++ left ∧ Signing w tx taken sent r := by
  by_cases own : tx.sender = w.address
  · obtain ⟨taken, left, sent, failure | answer, split, relayed⟩ := exists_relayed [] enough
    · exact ⟨taken, left, sent, _, split, .refused own relayed⟩
    · cases read : readSignature tx answer with
      | error fault => exact ⟨taken, left, sent, _, split, .malformed own relayed read⟩
      | ok signature => exact ⟨taken, left, sent, _, split, .signed own relayed read⟩
  · exact ⟨[], replies, [], _, rfl, .foreign (if_neg own)⟩

theorem exists_signings {txs : List Draft} {replies : List Reply}
    (enough : (txs.map fun tx => (signCommands w.pathPrefix tx.signingBytes).length).sum ≤
      replies.length) :
    ∃ taken left sent rs, replies = taken ++ left ∧ Signings w txs taken sent rs := by
  induction txs generalizing replies with
  | nil => exact ⟨[], replies, [], [], rfl, .nil⟩
  | cons tx txs ih =>
    rw [List.map_cons, List.sum_cons] at enough
    obtain ⟨taken, left, sent, r, rfl, signing⟩ := exists_signing (Nat.le_of_add_right_le enough)
    have taken_le := signing.length_le
    rw [List.length_append] at enough
    have enough' : (txs.map fun tx => (signCommands w.pathPrefix tx.signingBytes).length).sum ≤
      left.length := by omega
    obtain ⟨taken', left', sent', rs, rfl, signings⟩ := ih enough'
    exact ⟨taken ++ taken', left', sent ++ sent', r :: rs, (List.append_assoc _ _ _).symm,
      .cons signing signings⟩

end

/-! ## Signing over the stream -/

section
variable {σ : Type} {env : Environment Outside σ} {written unread : σ → Bytes} {u : Moment σ}
  {w : LedgerWallet}

theorem Streams.leads_exchangeAll (h : Streams env written unread) {cmds sent : List Bytes}
    {last rest : Bytes} {replies : List Reply} {r : Except Failure Bytes}
    (short : ∀ cmd ∈ cmds, cmd.length < UInt32.size) (relayed : Relayed cmds last replies sent r)
    (next : unread u.state = replies.flatMap Reply.bytes ++ rest) :
    ∃ es v, Leads env (exchangeAll .emulator cmds last).run u es r v ∧
      written v.state = written u.state ++ sent.flatMap framed ∧ unread v.state = rest := by
  induction cmds generalizing last replies sent u with
  | nil =>
    cases relayed with
    | accepted each =>
      obtain rfl := List.length_eq_zero_iff.mp each
      exact ⟨[], u, Program.leads_except_pure.mpr ⟨rfl, rfl, rfl⟩, (List.append_nil _).symm, next⟩
    | refused split each =>
      rw [(List.append_eq_nil_iff.mp split.symm).1] at each
      cases each
  | cons cmd cmds ih =>
    obtain ⟨shortCmd, shortRest⟩ := List.forall_mem_cons.mp short
    obtain ⟨reply, more, rfl, goes⟩ := relayed.cases_cons
    rw [List.flatMap_cons, List.append_assoc] at next
    obtain ⟨es₁, answer, m, asked, answers, written₁, unread₁⟩ := h.leads_exchange shortCmd next
    rcases goes with ⟨accepts, later, rfl, onward⟩ | ⟨fault, check, rfl, rfl, rfl⟩
    · obtain rfl := answers.of_accepted accepts
      obtain ⟨es₂, v, course, written₂, unread₂⟩ := ih shortRest onward unread₁
      refine ⟨es₁ ++ es₂, v, Program.leads_except_bind.mpr
        (.inr ⟨es₁, _, m, es₂, asked, course, rfl⟩), ?_, unread₂⟩
      rw [written₂, written₁, List.flatMap_cons, List.append_assoc]
    · obtain rfl := answers.of_refused check
      refine ⟨es₁, m, Program.leads_except_bind.mpr (.inl ⟨_, asked, rfl⟩), ?_, unread₁⟩
      rw [written₁, List.flatMap_singleton]

theorem Streams.leads_sign (h : Streams env written unread) (link : w.link = .emulator) {tx : Draft}
    {replies : List Reply} {sent : List Bytes} {rest : Bytes} {r : Except Failure SignedTransaction}
    (signing : Signing w tx replies sent r)
    (next : unread u.state = replies.flatMap Reply.bytes ++ rest) :
    ∃ es v, Leads env (w.sign tx).run u es r v ∧
      written v.state = written u.state ++ sent.flatMap framed ∧
      unread v.state = rest := by
  have short : ∀ cmd ∈ signCommands w.pathPrefix tx.signingBytes, cmd.length < UInt32.size :=
    fun cmd among => (length_le_of_mem_signCommands among).trans_lt (by decide)
  have admits (own : tx.sender = w.address) : Backend.ensureSender w.address tx = .ok () :=
    if_pos own
  unfold LedgerWallet.sign
  rw [link]
  cases signing with
  | foreign refusal =>
    rw [refusal]
    exact ⟨[], u, Program.leads_except_throw.mpr ⟨rfl, rfl, rfl⟩, (List.append_nil _).symm, next⟩
  | @refused _ _ failure own relayed =>
    obtain ⟨es, v, course, writes, reads⟩ := h.leads_exchangeAll short relayed next
    rw [admits own]
    exact ⟨es, v, Program.leads_except_bind.mpr (.inl ⟨failure, course, rfl⟩), writes, reads⟩
  | @malformed _ _ answer fault own relayed read =>
    obtain ⟨es, v, course, writes, reads⟩ := h.leads_exchangeAll short relayed next
    rw [admits own]
    refine ⟨es ++ [], v, Program.leads_except_bind.mpr (.inr ⟨es, answer, v, [], course, ?_, rfl⟩),
      writes, reads⟩
    rw [read]
    exact Program.leads_except_throw.mpr ⟨rfl, rfl, rfl⟩
  | @signed _ _ answer signature own relayed read =>
    obtain ⟨es, v, course, writes, reads⟩ := h.leads_exchangeAll short relayed next
    rw [admits own]
    refine ⟨es ++ [], v, Program.leads_except_bind.mpr (.inr ⟨es, answer, v, [], course, ?_, rfl⟩),
      writes, reads⟩
    rw [read]
    exact Program.leads_except_pure.mpr ⟨rfl, rfl, rfl⟩

theorem Streams.leads_signs (h : Streams env written unread) (link : w.link = .emulator)
    {txs : List Draft} {replies : List Reply} {sent : List Bytes} {rest : Bytes}
    {rs : List (Except Failure SignedTransaction)} (signings : Signings w txs replies sent rs)
    (next : unread u.state = replies.flatMap Reply.bytes ++ rest) :
    ∃ es v, Leads env (txs.mapM' fun tx => (w.sign tx).run) u es rs v ∧
      written v.state = written u.state ++ sent.flatMap framed ∧ unread v.state = rest := by
  induction signings generalizing u with
  | nil => exact ⟨[], u, Program.leads_done.mpr ⟨rfl, rfl, rfl⟩, (List.append_nil _).symm, next⟩
  | cons signing _ ih =>
    rw [List.flatMap_append, List.append_assoc] at next
    obtain ⟨es₁, m, course, written₁, unread₁⟩ := h.leads_sign link signing next
    obtain ⟨es₂, v, courses, written₂, unread₂⟩ := ih unread₁
    refine ⟨es₁ ++ (es₂ ++ []), v, ?_, ?_, unread₂⟩
    · refine Program.leads_bind.mpr ⟨es₁, _, m, _, course, ?_, rfl⟩
      exact Program.leads_bind.mpr
        ⟨es₂, _, v, _, courses, Program.leads_done.mpr ⟨rfl, rfl, rfl⟩, rfl⟩
    · rw [written₂, written₁, List.flatMap_append, List.append_assoc]

end

/-! ## A stream on which all replies have come -/

structure Pipe where
  written : Bytes
  unread : Bytes

def pipe : Environment Outside Pipe := fun q t s =>
  match q with
  | .write b => ⟨.ok (), { s with written := s.written ++ b }, t⟩
  | .read n =>
    if n ≤ s.unread.length then ⟨.ok (s.unread.take n), { s with unread := s.unread.drop n }, t⟩
    else ⟨.error "closed", s, t⟩
  | q => ⟨q.refusal, s, t⟩

theorem streams_pipe : Streams pipe Pipe.written Pipe.unread where
  write u b := ⟨_, _, Program.leads_ask_done.mpr ⟨rfl, rfl, rfl⟩, rfl, rfl⟩
  read u b rest next := by
    have come : b.length ≤ u.state.unread.length := by
      rw [next, List.length_append]
      exact Nat.le_add_right _ _
    have reply :
      pipe (.read b.length) u.time u.state = ⟨.ok b, { u.state with unread := rest }, u.time⟩ := by
      refine (if_pos come).trans ?_
      rw [next, List.take_left, List.drop_left]
    refine ⟨_, ⟨u.time, { u.state with unread := rest }⟩, Program.leads_ask_done.mpr ⟨?_, rfl, ?_⟩,
      rfl, rfl⟩
    · rw [reply]
    · unfold Moment.after
      rw [reply]

end Ledger

open Ledger in
/-- Over a stream on which the replies to come stand one behind the other, each exchange writes its
command behind its length, takes just one reply, whatever its status, and comes to the reply's data
if that is accepted and to the failure of its status if not; a command too long for a length does
not reach the stream. So a wallet's signatures, one after another, send their commands in order up
to the first refusal, and the replies that they did not ask for are what is left on the stream. -/
theorem stream_stays_in_step {σ : Type} {env : Environment Outside σ} {written unread : σ → Bytes}
    (stream : Streams env written unread) :
    (∀ (cmds : List Bytes) (replies : List Reply) (rest : Bytes) (u : Moment σ),
      (∀ cmd ∈ cmds, cmd.length < 2 ^ 32) →
      cmds.length = replies.length → unread u.state = replies.flatMap Reply.bytes ++ rest →
      ∃ es results v, Leads env (cmds.mapM' fun cmd => (exchange .emulator cmd).run) u es
        results v ∧
        List.Forall₂ Answers replies results ∧
        written v.state = written u.state ++ cmds.flatMap
          (fun cmd => Bytes.ofNat 4 cmd.length ++ cmd) ∧
        unread v.state = rest) ∧
    (∀ (cmd : Bytes) (u : Moment σ), 2 ^ 32 ≤ cmd.length →
      ∃ why, Leads env (exchange .emulator cmd).run u []
        (.error (.signing (.device (.transport why)))) u) ∧
    ∀ (w : LedgerWallet) (txs : List Draft), w.link = .emulator →
      (∀ replies sent rs rest u, Signings w txs replies sent rs →
        unread u.state = replies.flatMap Reply.bytes ++ rest →
        ∃ es v, Leads env (txs.mapM' fun tx => (w.sign tx).run) u es rs v ∧
          written v.state = written u.state ++ sent.flatMap
            (fun cmd => Bytes.ofNat 4 cmd.length ++ cmd) ∧
          unread v.state = rest) ∧
      ∀ replies : List Reply,
        (txs.map fun tx => (signCommands w.pathPrefix tx.signingBytes).length).sum ≤
          replies.length →
        ∃ taken left sent rs, replies = taken ++ left ∧ Signings w txs taken sent rs :=
  ⟨fun _ _ _ _ short each next => stream.leads_exchanges short each next, fun _ _ long =>
    exchange_long long,
    fun _ _ link =>
      ⟨fun _ _ _ _ _ signings next => stream.leads_signs link signings next, fun _ =>
      exists_signings⟩⟩

def unitEmulated : LedgerWallet := { unitHardware with link := .emulator }

def unitRefusal : Ledger.Reply := ⟨[0x04], 0x6985, by decide⟩

def unitReply : Ledger.Reply := ⟨dearAnswer, 0x9000, by decide⟩

open Ledger in
theorem refusal_leaves_next_reply :
    (∃ es v, Leads pipe ([[0xe0, 0x04, 0, 0, 0], [0xe0, 0x06, 0, 0, 0]].mapM' fun cmd =>
      (exchange .emulator cmd).run)
        ⟨0, ⟨[], [unitRefusal, unitReply].flatMap Reply.bytes⟩⟩ es
        [.error (.signing (.device .denied)), .ok dearAnswer] v ∧
      v.state.written = [0, 0, 0, 5, 0xe0, 0x04, 0, 0, 0, 0, 0, 0, 5, 0xe0, 0x06, 0, 0, 0] ∧
        v.state.unread = []) ∧
    ∃ cmd es v, Leads pipe ([pricedDraft 2, pricedDraft 2].mapM' fun tx =>
      (unitEmulated.sign tx).run)
        ⟨0, ⟨[], [unitRefusal, unitReply].flatMap Reply.bytes⟩⟩ es
        [.error (.signing (.device .denied)), .ok ((pricedDraft 2).signed dearSignature)] v ∧
      v.state.written = framed cmd ++ framed cmd ∧ v.state.unread = [] := by
  obtain ⟨exchanges, -, signs⟩ := stream_stays_in_step streams_pipe
  have next : [unitRefusal, unitReply].flatMap Reply.bytes =
    [unitRefusal, unitReply].flatMap Reply.bytes ++ [] :=
    (List.append_nil _).symm
  refine ⟨?_, ?_⟩
  · obtain ⟨es, results, v, course, answers, writes, reads⟩ :=
      exchanges [[0xe0, 0x04, 0, 0, 0], [0xe0, 0x06, 0, 0, 0]] _ [] ⟨0, ⟨[], _⟩⟩
        (by decide) rfl next
    obtain ⟨r, _, first, rest, rfl⟩ := List.forall₂_cons_left_iff.mp answers
    obtain ⟨r', _, second, none, rfl⟩ := List.forall₂_cons_left_iff.mp rest
    obtain rfl := List.forall₂_nil_left_iff.mp none
    rw [first.of_refused rfl, second.of_accepted rfl] at course
    exact ⟨es, v, course, writes, reads⟩
  · have one : (signCommands unitEmulated.pathPrefix (pricedDraft 2).signingBytes).length = 1 := by
      rw [length_signCommands]
      decide +kernel
    obtain ⟨cmd, only⟩ := List.length_eq_one_iff.mp one
    have refused :
      Signing unitEmulated (pricedDraft 2) [unitRefusal] [cmd]
      (.error (.signing (.device .denied))) := by
      refine .refused rfl ?_
      rw [only]
      exact .stopped rfl
    have signed :
        Signing unitEmulated (pricedDraft 2) [unitReply] [cmd]
          (.ok ((pricedDraft 2).signed dearSignature)) := by
      refine .signed rfl ?_ (readSignature_of_carries carries_dearAnswer)
      rw [only]
      exact .accepted rfl (by simp [unitReply])
    obtain ⟨es, v, course, writes, reads⟩ :=
      (signs unitEmulated _ rfl).1 _ _ _ [] ⟨0, ⟨[], _⟩⟩ (.cons refused (.cons signed .nil)) next
    rw [List.append_nil, List.flatMap_append, List.flatMap_singleton] at writes
    exact ⟨cmd, es, v, course, writes, reads⟩

end Dispatch
