import Dispatch.Proofs.BrokerChannels
import Mathlib.Data.List.Induction

/-!
# What a broker delivers

Over any history, with subscriptions that are dropped while others stay, each one that is still
there has had what was published on its channel since it came, once and in order. Who is there
follows from the history alone: only those who dropped their subscription are forgotten.
-/

set_option autoImplicit false

namespace Dispatch

namespace Broker

inductive Operation where
  | subscribe (channel : String)
  | publish (channel payload : String)
  | receive (subscription : Nat)
  | drop (subscription : Nat)
  | unsubscribe (channel : String)

/-- An operation with what came of it. -/
inductive Entry where
  | subscribed (channel : String) (subscription : Nat)
  | published (channel payload : String) (count : Nat)
  | received (subscription : Nat) (message : Option String)
  | dropped (subscription : Nat)
  | unsubscribed (channel : String)
deriving DecidableEq

def perform (b : Broker) : Operation → Entry × Broker
  | .subscribe c => (.subscribed c (b.subscribe c).1, (b.subscribe c).2)
  | .publish c payload => (.published c payload (b.publish c payload).1, (b.publish c payload).2)
  | .receive n =>
    match b.take n with
    | some (message, b') => (.received n (some message), b')
    | none => (.received n none, b)
  | .drop n => (.dropped n, b.drop n)
  | .unsubscribe c => (.unsubscribed c, b.unsubscribe c)

def proceed (so : List Entry × Broker) (op : Operation) : List Entry × Broker :=
  (so.1 ++ [(so.2.perform op).1], (so.2.perform op).2)

def history (ops : List Operation) : List Entry × Broker := ops.foldl proceed ([], empty)

theorem history_snoc (ops : List Operation) (op : Operation) :
    history (ops ++ [op]) = proceed (history ops) op := by
  rw [history, List.foldl_append, List.foldl_cons, List.foldl_nil, history]

/-! ## Read off a history -/

namespace Entry

def settle (c : String) (ns : List Nat) : Entry → List Nat
  | .subscribed c' n => if c' = c then ns ++ [n] else ns
  | .dropped n => ns.filter fun m => m != n
  | _ => ns

/-- What the entry publishes on a channel. -/
def payload? (c : String) : Entry → Option String
  | .published c' payload _ => if c' = c then some payload else none
  | _ => none

def message? (n : Nat) : Entry → Option String
  | .received m message => if m = n then message else none
  | _ => none

end Entry

/-- The subscriptions of a channel that were not dropped, in the order in which they came. -/
def listeners (c : String) (es : List Entry) : List Nat := es.foldl (Entry.settle c) []

def payloads (c : String) (es : List Entry) : List String := es.filterMap (Entry.payload? c)

def messages (n : Nat) (es : List Entry) : List String := es.filterMap (Entry.message? n)

/-- Since the subscription came, on this channel, these entries were made, and it was not
dropped. -/
def Since (es : List Entry) (c : String) (n : Nat) (later : List Entry) : Prop :=
  (∃ before, es = before ++ .subscribed c n :: later) ∧ .dropped n ∉ later

section
variable {es later : List Entry} {e : Entry} {c : String} {n : Nat}

theorem listeners_snoc (c : String) (es : List Entry) (e : Entry) :
    listeners c (es ++ [e]) = Entry.settle c (listeners c es) e := by
  rw [listeners, List.foldl_append, List.foldl_cons, List.foldl_nil, listeners]

theorem payloads_snoc (c : String) (es : List Entry) (e : Entry) :
    payloads c (es ++ [e]) = payloads c es ++ (e.payload? c).toList := by
  cases he : e.payload? c <;> simp [payloads, he]

theorem messages_snoc (n : Nat) (es : List Entry) (e : Entry) :
    messages n (es ++ [e]) = messages n es ++ (e.message? n).toList := by
  cases he : e.message? n <;> simp [messages, he]

theorem snoc_eq_split {α : Type} {l before after : List α} {x y : α}
    (h : l ++ [x] = before ++ y :: after) :
    (x = y ∧ l = before ∧ after = []) ∨ ∃ after', after = after' ++ [x] ∧
      l = before ++ y :: after' := by
  rcases List.eq_nil_or_concat after with rfl | ⟨after', z, rfl⟩
  · obtain ⟨same, last⟩ := List.append_inj' h rfl
    exact .inl ⟨List.singleton_inj.mp last, same, rfl⟩
  · rw [List.concat_eq_append, ← List.cons_append, ← List.append_assoc] at h
    obtain ⟨same, last⟩ := List.append_inj' h rfl
    cases List.singleton_inj.mp last
    exact .inr ⟨after', List.concat_eq_append, same⟩

theorem Since.snoc_cases (h : Since (es ++ [e]) c n later) :
    (e = .subscribed c n ∧ later = []) ∨
      ∃ earlier, later = earlier ++ [e] ∧ e ≠ .dropped n ∧ Since es c n earlier := by
  obtain ⟨⟨before, split⟩, stays⟩ := h
  rcases snoc_eq_split split with ⟨rfl, -, rfl⟩ | ⟨earlier, rfl, within⟩
  · exact .inl ⟨rfl, rfl⟩
  · have parts := List.mem_append.not.mp stays
    refine .inr ⟨earlier, rfl, ?_, ⟨before, within⟩, fun gone => parts (.inl gone)⟩
    rintro rfl
    exact parts (.inr List.mem_cons_self)

theorem Since.snoc (h : Since es c n later) (stays : e ≠ .dropped n) :
    Since (es ++ [e]) c n (later ++ [e]) := by
  obtain ⟨⟨before, rfl⟩, kept⟩ := h
  refine ⟨⟨before, by simp⟩, ?_⟩
  intro gone
  rcases List.mem_append.mp gone with gone | gone
  · exact kept gone
  · exact stays (List.mem_singleton.mp gone).symm

theorem Since.last (es : List Entry) (c : String) (n : Nat) :
    Since (es ++ [.subscribed c n]) c n [] :=
  ⟨⟨es, rfl⟩, List.not_mem_nil⟩

end

/-! ## One operation -/

/-- From one broker to the next by an entry: who is there, what waits for each, and what is
counted. -/
structure Advances (b : Broker) (e : Entry) (b' : Broker) : Prop where
  there : ∀ c, b'.live c = e.settle c (b.live c)
  known : ∀ n, b'.isLive n → (∃ c, e = .subscribed c n) ∨ b.isLive n ∧ e ≠ .dropped n
  starts : ∀ c n, e = .subscribed c n → b'.Carries n c []
  carries : ∀ c n waiting, e ≠ .dropped n → b.Carries n c waiting →
    ∃ waiting', b'.Carries n c waiting' ∧
      (e.message? n).toList ++ waiting' = waiting ++ (e.payload? c).toList
  counts : ∀ c payload k, e = .published c payload k → k = (b.live c).length

section
variable {b : Broker}

theorem advances_subscribe (h : b.Fresh) (c : String) :
    b.Advances (.subscribed c (b.subscribe c).1) (b.subscribe c).2 where
  there c' := by
    rw [live_subscribe h, Entry.settle]
    by_cases hc : c' = c
    · rw [if_pos hc, if_pos hc.symm, hc]
      rfl
    · rw [if_neg hc, if_neg (Ne.symm hc)]
  known n hn := by
    rw [isLive, inbox?_subscribe] at hn
    split at hn
    · rename_i new
      exact .inl ⟨c, by rw [new]; rfl⟩
    · exact .inr ⟨hn, Entry.noConfusion⟩
  starts _ _ he := by
    obtain ⟨rfl, rfl⟩ := Entry.subscribed.inj he
    exact .of_next h c
  carries _ _ waiting _ carried := ⟨waiting, carried.subscribe h c, (List.append_nil waiting).symm⟩
  counts _ _ _ he := by cases he

theorem advances_publish (b : Broker) (c payload : String) :
    b.Advances (.published c payload (b.publish c payload).1) (b.publish c payload).2 where
  there c' := live_publish b c payload c'
  known n hn := by
    rw [isLive, inbox?_publish, Option.isSome_map] at hn
    exact .inr ⟨hn, Entry.noConfusion⟩
  starts _ _ he := by cases he
  carries c' _ _ _ carried := by
    refine ⟨_, carried.publish c payload, ?_⟩
    by_cases hc : c = c' <;> simp [Entry.message?, Entry.payload?, hc]
  counts c' payload' k he := by
    obtain ⟨rfl, rfl, rfl⟩ := Entry.published.inj he
    rfl

theorem advances_take {n : Nat} {message : String} {b' : Broker}
    (taken : b.take n = some (message, b')) :
    b.Advances (.received n (some message)) b' where
  there c := live_take taken c
  known m hm := by
    obtain ⟨waiting, had, -, others, -⟩ := take_eq_some taken
    refine .inr ⟨?_, Entry.noConfusion⟩
    by_cases same : m = n
    · rw [isLive, same, had]
      rfl
    · rwa [isLive, ← others m same]
  starts _ _ he := by cases he
  carries c m waiting _ carried := by
    by_cases same : m = n
    · subst same
      obtain ⟨rest, rfl, left⟩ := carried.take_self taken
      exact ⟨rest, left, by simp [Entry.message?, Entry.payload?]⟩
    · exact ⟨waiting, carried.take taken same, by
        simp [Entry.message?, Entry.payload?, Ne.symm same]⟩
  counts _ _ _ he := by cases he

theorem advances_wait (b : Broker) (n : Nat) : b.Advances (.received n none) b where
  there _ := rfl
  known _ hm := .inr ⟨hm, Entry.noConfusion⟩
  starts _ _ he := by cases he
  carries _ _ waiting _ carried := ⟨waiting, carried, by simp [Entry.message?, Entry.payload?]⟩
  counts _ _ _ he := by cases he

theorem advances_drop (b : Broker) (n : Nat) : b.Advances (.dropped n) (b.drop n) where
  there c := live_drop b n c
  known m hm := by
    rw [isLive, inbox?_drop] at hm
    split at hm
    · cases hm
    · rename_i other
      exact .inr ⟨hm, fun same => other (Entry.dropped.inj same).symm⟩
  starts _ _ he := by cases he
  carries _ m waiting stays carried := by
    have other : m ≠ n := fun same => stays (by rw [same])
    exact ⟨waiting, carried.drop other, (List.append_nil waiting).symm⟩
  counts _ _ _ he := by cases he

theorem advances_unsubscribe (b : Broker) (c : String) : b.Advances (.unsubscribed c)
    (b.unsubscribe c) where
  there c' := live_unsubscribe b c c'
  known _ hn := .inr ⟨hn, Entry.noConfusion⟩
  starts _ _ he := by cases he
  carries _ _ waiting _ carried := ⟨waiting, carried.unsubscribe c, (List.append_nil waiting).symm⟩
  counts _ _ _ he := by cases he

theorem advances_perform (h : b.Fresh) (op : Operation) :
    b.Advances (b.perform op).1 (b.perform op).2 := by
  cases op with
  | subscribe c => exact advances_subscribe h c
  | publish c payload => exact advances_publish b c payload
  | receive n =>
    rw [perform]
    split
    · rename_i taken
      exact advances_take taken
    · exact advances_wait b n
  | drop n => exact advances_drop b n
  | unsubscribe c => exact advances_unsubscribe b c

theorem Fresh.perform (h : b.Fresh) (op : Operation) : (b.perform op).2.Fresh := by
  cases op with
  | subscribe c => exact h.subscribe c
  | publish c payload => exact h.publish c payload
  | receive n =>
    rw [Broker.perform]
    split
    · rename_i taken
      exact h.take taken
    · exact h
  | drop n => exact h.drop n
  | unsubscribe c => exact h.unsubscribe c

theorem Tidy.perform (h : b.Tidy) (op : Operation) : (b.perform op).2.Tidy := by
  cases op with
  | subscribe c => exact h.subscribe c
  | publish c payload => exact h.publish c payload
  | receive n =>
    rw [Broker.perform]
    split
    · rename_i taken
      exact h.take taken
    · exact h
  | drop n => exact h.drop n
  | unsubscribe c => exact h.unsubscribe c

end

/-! ## A whole history -/

/-- The broker is as its history tells. -/
structure Told (es : List Entry) (b : Broker) : Prop where
  there : ∀ c, b.live c = listeners c es
  known : ∀ n, b.isLive n → ∃ c later, Since es c n later
  mail : ∀ c n later, Since es c n later →
    ∃ waiting, b.Carries n c waiting ∧ messages n later ++ waiting = payloads c later
  counted : ∀ before c payload k after, es = before ++ .published c payload k :: after →
    k = (listeners c before).length

theorem told_empty : Told [] empty where
  there _ := rfl
  known _ hn := by cases hn
  mail c n later h := by
    obtain ⟨⟨before, split⟩, -⟩ := h
    cases before <;> cases split
  counted before c payload k after split := by cases before <;> cases split

theorem Told.advance {es : List Entry} {b b' : Broker} {e : Entry} (h : Told es b)
    (step : b.Advances e b') :
    Told (es ++ [e]) b' where
  there c := by rw [step.there, h.there, listeners_snoc]
  known n hn := by
    rcases step.known n hn with ⟨c, rfl⟩ | ⟨was, stays⟩
    · exact ⟨c, [], .last es c n⟩
    · obtain ⟨c, later, since⟩ := h.known n was
      exact ⟨c, later ++ [e], since.snoc stays⟩
  mail c n later since := by
    rcases since.snoc_cases with ⟨came, rfl⟩ | ⟨earlier, rfl, stays, since⟩
    · exact ⟨[], step.starts c n came, rfl⟩
    · obtain ⟨waiting, carried, sent⟩ := h.mail c n earlier since
      obtain ⟨waiting', carried', moved⟩ := step.carries c n waiting stays carried
      refine ⟨waiting', carried', ?_⟩
      calc messages n (earlier ++ [e]) ++ waiting'
          = messages n earlier ++ ((e.message? n).toList ++ waiting') := by
            rw [messages_snoc, List.append_assoc]
        _ = (messages n earlier ++ waiting) ++ (e.payload? c).toList := by
          rw [moved, List.append_assoc]
        _ = payloads c (earlier ++ [e]) := by rw [sent, payloads_snoc]
  counted before c payload k after split := by
    rcases snoc_eq_split split with ⟨published, rfl, -⟩ | ⟨after', -, within⟩
    · rw [step.counts c payload k published, h.there]
    · exact h.counted before c payload k after' within

theorem told_history (ops : List Operation) :
    (history ops).2.Fresh ∧ (history ops).2.Tidy ∧ Told (history ops).1 (history ops).2 := by
  induction ops using List.reverseRecOn with
  | nil => exact ⟨fresh_empty, tidy_empty, told_empty⟩
  | append_singleton ops op ih =>
    obtain ⟨fresh, tidy, told⟩ := ih
    rw [history_snoc]
    exact ⟨fresh.perform op, tidy.perform op, told.advance (advances_perform fresh op)⟩

/-! ## One channel and the others -/

def Operation.Concerns (b : Broker) (c : String) : Operation → Prop
  | .subscribe c' | .publish c' _ | .unsubscribe c' => c' = c
  | .receive n | .drop n => n ∈ b.live c

theorem lookup_setSubscribers_of_ne {b : Broker} {c c' : String} (other : c' ≠ c) (ns : List Nat) :
    (b.setSubscribers c ns).channels.lookup c' = b.channels.lookup c' := by
  unfold setSubscribers
  cases ns with
  | nil => exact lookup_filter_of_ne other b.channels
  | cons n ns => exact (lookup_cons_of_ne other _ _).trans (lookup_filter_of_ne other b.channels)

theorem Told.elsewhere {es : List Entry} {b : Broker} (h : Told es b) (fresh : b.Fresh)
    {op : Operation} {c : String} (other : ¬ op.Concerns b c) :
    (b.perform op).2.channels.lookup c = b.channels.lookup c ∧
      ∀ n ∈ b.live c, (b.perform op).2.inbox? n = b.inbox? n := by
  cases op with
  | subscribe c' =>
    refine ⟨lookup_setSubscribers_of_ne (Ne.symm other) _, ?_⟩
    intro n there
    have young : n ≠ b.next := Nat.ne_of_lt (fresh.listed c n (mem_live.mp there).1)
    rw [perform, inbox?_subscribe, if_neg young]
  | publish c' payload =>
    refine ⟨lookup_setSubscribers_of_ne (Ne.symm other) _, ?_⟩
    intro n there
    obtain ⟨listed, boxed⟩ := mem_live.mp there
    obtain ⟨c'', later, since⟩ := h.known n boxed
    obtain ⟨waiting, carried, -⟩ := h.mail c'' n later since
    have apart : n ∉ b.live c' := by
      intro also
      exact other ((carried.only c' (mem_live.mp also).1).trans (carried.only c listed).symm)
    rw [perform, inbox?_publish, carried.inbox, Option.map_some, if_neg apart]
  | receive m =>
    rw [perform]
    split
    · rename_i taken
      obtain ⟨-, -, -, others, channels, -⟩ := take_eq_some taken
      refine ⟨congrArg (List.lookup c) channels, ?_⟩
      intro n there
      exact others n fun same => other (same ▸ there)
    · exact ⟨rfl, fun _ _ => rfl⟩
  | drop m =>
    refine ⟨rfl, ?_⟩
    intro n there
    have apart : n ≠ m := fun same => other (same ▸ there)
    rw [perform, inbox?_drop, if_neg apart]
  | unsubscribe c' => exact ⟨lookup_setSubscribers_of_ne (Ne.symm other) _, fun _ _ => rfl⟩

end Broker

open Broker in
/-- Whatever was done at a broker: who is there came on some channel and stayed, and what it was
given with what waits for it is what was published there since, once and in order. Exactly those who
came and did not drop their subscription are there, whoever else was forgotten; publishing tells how
many they are. Each channel that is kept has somebody listed, and another operation leaves it alone,
with its mail, if it is on another channel. -/
theorem delivers_once_in_order (ops : List Operation) :
    let es := (history ops).1
    let b := (history ops).2
    (∀ n, b.isLive n ↔ ∃ c later, Since es c n later) ∧
    (∀ c n later, Since es c n later →
      ∃ waiting, b.inbox? n = some waiting ∧ messages n later ++ waiting = payloads c later) ∧
    (∀ c, b.live c = listeners c es) ∧
    (∀ before c payload k after, es = before ++ .published c payload k :: after →
      k = (listeners c before).length) ∧
    ((b.channels.map Prod.fst).Nodup ∧ ∀ entry ∈ b.channels, entry.2 ≠ []) ∧
    (∀ op c, ¬ op.Concerns b c → (b.perform op).2.channels.lookup c = b.channels.lookup c ∧
      ∀ n ∈ b.live c, (b.perform op).2.inbox? n = b.inbox? n) := by
  obtain ⟨fresh, tidy, told⟩ := told_history ops
  refine ⟨?there, ?mail, told.there, told.counted, ⟨tidy.once, tidy.filled⟩, fun op c =>
    told.elsewhere fresh⟩
  case there =>
    intro n
    refine ⟨told.known n, ?_⟩
    rintro ⟨c, later, since⟩
    obtain ⟨waiting, carried, -⟩ := told.mail c n later since
    rw [isLive, carried.inbox]
    rfl
  case mail =>
    intro c n later since
    obtain ⟨waiting, carried, sent⟩ := told.mail c n later since
    exact ⟨waiting, carried.inbox, sent⟩

/-- Of two subscriptions one is dropped before the first message and forgotten with it; the other
gets both. -/
example : (Broker.history [.subscribe "done", .subscribe "done", .drop 0, .publish "done" "first",
    .receive 1,
    .unsubscribe "done", .publish "done" "second", .receive 1]).1 =
    [.subscribed "done" 0, .subscribed "done" 1, .dropped 0, .published "done" "first" 1,
      .received 1 (some "first"), .unsubscribed "done", .published "done" "second" 1,
      .received 1 (some "second")] := by decide

end Dispatch
