import Mathlib.Data.List.Basic
import Dispatch.Queue.Broker

/-!
# The mail of a subscription

A subscription that is carried on a channel gets what is published there, in order, and nothing
else. What is done to other subscriptions and other channels leaves its mail alone.
-/

set_option autoImplicit false

namespace Dispatch

theorem lookup_cons_of_ne {α β : Type} [BEq α] [LawfulBEq α] {k k' : α} (h : k' ≠ k) (v : β)
    (l : List (α × β)) : ((k, v) :: l).lookup k' = l.lookup k' := by
  rw [List.lookup_cons, beq_false_of_ne h]

theorem lookup_filter_self {α β : Type} [BEq α] [LawfulBEq α] (k : α) (l : List (α × β)) :
    (l.filter fun entry => entry.1 != k).lookup k = none := by
  rw [List.lookup_eq_none_iff]
  intro entry he
  have other : entry.1 ≠ k := by simpa using (List.mem_filter.mp he).2
  simpa using other.symm

theorem lookup_filter_of_ne {α β : Type} [BEq α] [LawfulBEq α] {k k' : α} (h : k' ≠ k)
    (l : List (α × β)) :
    (l.filter fun entry => entry.1 != k).lookup k' = l.lookup k' := by
  induction l with
  | nil => rfl
  | cons entry l ih =>
    obtain ⟨key, value⟩ := entry
    by_cases hk : key = k
    · rw [List.filter_cons_of_neg (by simp [hk]), ih, lookup_cons_of_ne (hk ▸ h)]
    · rw [List.filter_cons_of_pos (by simp [hk]), List.lookup_cons, List.lookup_cons, ih]

theorem lookup_map_snd {α β : Type} [BEq α] [LawfulBEq α] (f : α → β → β) (k : α)
    (l : List (α × β)) :
    (l.map fun entry => (entry.1, f entry.1 entry.2)).lookup k = (l.lookup k).map (f k) := by
  induction l with
  | nil => rfl
  | cons entry l ih =>
    obtain ⟨key, value⟩ := entry
    by_cases hk : k = key
    · subst hk
      simp
    · rw [List.map_cons, lookup_cons_of_ne hk, lookup_cons_of_ne hk, ih]

namespace Broker

variable {b : Broker} {n : Nat} {c : String} {mail : List String}

theorem subscribers_setSubscribers (b : Broker) (c c' : String) (ns : List Nat) :
    (b.setSubscribers c ns).subscribers c' = if c' = c then ns else b.subscribers c' := by
  unfold subscribers setSubscribers
  by_cases hc : c' = c
  · subst hc
    cases ns <;> simp [lookup_filter_self]
  · have other : (c' == c) = false := by simp [hc]
    cases ns <;> simp [hc, other, List.lookup_cons, lookup_filter_of_ne hc]

theorem mem_live : n ∈ b.live c ↔ n ∈ b.subscribers c ∧ (b.inbox? n).isSome := by
  simp [live, isLive]

/-! ## Numbers not given yet -/

/-- Numbers from the next one on are nobody's. -/
structure Fresh (b : Broker) : Prop where
  listed : ∀ c n, n ∈ b.subscribers c → n < b.next
  boxed : ∀ n, (b.inbox? n).isSome → n < b.next

theorem fresh_empty : empty.Fresh := by
  constructor <;> simp [empty, subscribers, inbox?]

theorem inbox?_subscribe (b : Broker) (c : String) :
    (b.subscribe c).2.inbox? n = if n = b.next then some [] else b.inbox? n := by
  by_cases hn : n = b.next
  · simp [subscribe, inbox?, hn]
  · have other : (n == b.next) = false := by simp [hn]
    simp [subscribe, inbox?, setSubscribers, List.lookup_cons, hn, other]

theorem subscribers_subscribe (b : Broker) (c c' : String) :
    (b.subscribe c).2.subscribers c' =
      if c' = c then b.subscribers c ++ [b.next] else b.subscribers c' :=
  subscribers_setSubscribers b c c' _

theorem inbox?_publish (b : Broker) (c payload : String) :
    (b.publish c payload).2.inbox? n =
      (b.inbox? n).map fun mail => if n ∈ b.live c then mail ++ [payload] else mail := by
  have mapped := lookup_map_snd
    (fun m (mail : List String) => if (b.live c).contains m then mail ++ [payload] else mail) n
      b.inboxes
  simp only [List.contains_iff_mem] at mapped
  simpa [publish, inbox?] using mapped

theorem subscribers_publish (b : Broker) (c payload c' : String) :
    (b.publish c payload).2.subscribers c' = if c' = c then b.live c else b.subscribers c' :=
  subscribers_setSubscribers b c c' _

theorem subscribers_unsubscribe (b : Broker) (c c' : String) :
    (b.unsubscribe c).subscribers c' = if c' = c then b.live c else b.subscribers c' :=
  subscribers_setSubscribers b c c' _

theorem inbox?_drop (b : Broker) (m : Nat) :
    (b.drop m).inbox? n = if n = m then none else b.inbox? n := by
  by_cases hn : n = m
  · simp [drop, inbox?, hn, lookup_filter_self]
  · simp [drop, inbox?, hn, lookup_filter_of_ne hn]

theorem take_eq_some {message : String} {b' : Broker} (h : b.take n = some (message, b')) :
    ∃ waiting, b.inbox? n = some (message :: waiting) ∧ b'.inbox? n = some waiting ∧
      (∀ m, m ≠ n → b'.inbox? m = b.inbox? m) ∧ b'.channels = b.channels ∧ b'.next = b.next := by
  unfold take at h
  split at h
  · rename_i oldest waiting hb
    obtain ⟨rfl, rfl⟩ := Prod.mk.inj (Option.some.inj h)
    have mapped := lookup_map_snd (fun m (mail : List String) => if m = n then waiting else mail)
    have same : (b.inboxes.map fun entry => if entry.1 = n then (n, waiting) else entry) =
        b.inboxes.map fun entry => (entry.1, if entry.1 = n then waiting else entry.2) := by
      apply List.map_congr_left
      intro entry _
      by_cases he : entry.1 = n
      · simp [he]
      · simp [he]
    refine ⟨waiting, hb, ?_, ?_, rfl, rfl⟩
    · unfold inbox? at hb ⊢
      simp only
      rw [same, mapped n, hb]
      simp
    · intro m hm
      unfold inbox?
      simp only
      rw [same, mapped m]
      simp [hm]
  · cases h

theorem exists_take {message : String} {waiting : List String}
    (h : b.inbox? n = some (message :: waiting)) :
    ∃ b', b.take n = some (message, b') := by
  unfold take
  rw [h]
  exact ⟨_, rfl⟩

theorem Fresh.subscribe (h : b.Fresh) (c : String) : (b.subscribe c).2.Fresh := by
  have next : (b.subscribe c).2.next = b.next + 1 := rfl
  constructor
  · intro c' m hm
    rw [subscribers_subscribe] at hm
    split at hm
    · rcases List.mem_append.mp hm with hm | hm
      · have := h.listed c m hm
        omega
      · have := List.mem_singleton.mp hm
        omega
    · have := h.listed c' m hm
      omega
  · intro m hm
    rw [inbox?_subscribe] at hm
    split at hm
    · omega
    · have := h.boxed m hm
      omega

theorem Fresh.publish (h : b.Fresh) (c payload : String) : (b.publish c payload).2.Fresh := by
  constructor
  · intro c' m hm
    rw [subscribers_publish] at hm
    split at hm
    · exact h.listed c m (mem_live.mp hm).1
    · exact h.listed c' m hm
  · intro m hm
    rw [inbox?_publish, Option.isSome_map] at hm
    exact h.boxed m hm

theorem Fresh.unsubscribe (h : b.Fresh) (c : String) : (b.unsubscribe c).Fresh := by
  constructor
  · intro c' m hm
    rw [subscribers_unsubscribe] at hm
    split at hm
    · exact h.listed c m (mem_live.mp hm).1
    · exact h.listed c' m hm
  · exact h.boxed

theorem Fresh.drop (h : b.Fresh) (m : Nat) : (b.drop m).Fresh := by
  constructor
  · exact h.listed
  · intro k hk
    rw [inbox?_drop] at hk
    split at hk
    · cases hk
    · exact h.boxed k hk

theorem Fresh.take (h : b.Fresh) {m : Nat} {message : String} {b' : Broker}
    (ht : b.take m = some (message, b')) : b'.Fresh := by
  obtain ⟨waiting, had, has, others, channels, next⟩ := take_eq_some ht
  constructor
  · intro c k hk
    rw [next]
    apply h.listed c k
    unfold subscribers at hk ⊢
    rwa [channels] at hk
  · intro k hk
    rw [next]
    by_cases hm : k = m
    · subst hm
      exact h.boxed k (by rw [had]; rfl)
    · rw [others k hm] at hk
      exact h.boxed k hk

/-! ## Mail -/

/-- The subscription is listed under the channel and no other, and the mail waits for it. -/
structure Carries (b : Broker) (n : Nat) (c : String) (mail : List String) : Prop where
  inbox : b.inbox? n = some mail
  listed : n ∈ b.subscribers c
  only : ∀ c', n ∈ b.subscribers c' → c' = c

theorem Carries.of_next (h : b.Fresh) (c : String) :
    (b.subscribe c).2.Carries (b.subscribe c).1 c [] := by
  have given : (b.subscribe c).1 = b.next := rfl
  constructor
  · rw [inbox?_subscribe, given, if_pos rfl]
  · rw [subscribers_subscribe, given, if_pos rfl]
    simp
  · intro c' hc'
    rw [subscribers_subscribe, given] at hc'
    split at hc'
    · assumption
    · exact absurd (h.listed c' _ hc') (Nat.lt_irrefl _)

theorem Carries.subscribe (h : b.Carries n c mail) (hb : b.Fresh) (c' : String) :
    (b.subscribe c').2.Carries n c mail := by
  have old : n ≠ b.next := by
    have := hb.listed c n h.listed
    omega
  have same : ∀ c'', n ∈ (b.subscribe c').2.subscribers c'' ↔ n ∈ b.subscribers c'' := by
    intro c''
    rw [subscribers_subscribe]
    split
    · simp [*]
    · rfl
  constructor
  · rw [inbox?_subscribe, if_neg old]
    exact h.inbox
  · exact (same c).mpr h.listed
  · intro c'' hc''
    exact h.only c'' ((same c'').mp hc'')

theorem Carries.mem_live (h : b.Carries n c mail) (c' : String) : n ∈ b.live c' ↔
    n ∈ b.subscribers c' := by
  rw [Broker.mem_live, h.inbox]
  simp

theorem Carries.publish (h : b.Carries n c mail) (c' payload : String) :
    (b.publish c' payload).2.Carries n c (if c' = c then mail ++ [payload] else mail) := by
  have same : ∀ c'', n ∈ (b.publish c' payload).2.subscribers c'' ↔ n ∈ b.subscribers c'' := by
    intro c''
    rw [subscribers_publish]
    split
    · rename_i hc
      rw [hc, h.mem_live]
    · rfl
  have on : n ∈ b.live c' ↔ c' = c := by
    rw [h.mem_live]
    constructor
    · exact h.only c'
    · intro hc
      exact hc ▸ h.listed
  constructor
  · rw [inbox?_publish, h.inbox]
    simp [on]
  · exact (same c).mpr h.listed
  · intro c'' hc''
    exact h.only c'' ((same c'').mp hc'')

theorem Carries.unsubscribe (h : b.Carries n c mail) (c' : String) :
    (b.unsubscribe c').Carries n c mail := by
  have same : ∀ c'', n ∈ (b.unsubscribe c').subscribers c'' ↔ n ∈ b.subscribers c'' := by
    intro c''
    rw [subscribers_unsubscribe]
    split
    · rename_i hc
      rw [hc, h.mem_live]
    · rfl
  constructor
  · exact h.inbox
  · exact (same c).mpr h.listed
  · intro c'' hc''
    exact h.only c'' ((same c'').mp hc'')

theorem Carries.drop (h : b.Carries n c mail) {m : Nat} (hm : n ≠ m) :
    (b.drop m).Carries n c mail := by
  constructor
  · rw [inbox?_drop, if_neg hm]
    exact h.inbox
  · exact h.listed
  · exact h.only

theorem Carries.take (h : b.Carries n c mail) {m : Nat} {message : String} {b' : Broker}
    (ht : b.take m = some (message, b')) (hm : n ≠ m) : b'.Carries n c mail := by
  obtain ⟨waiting, had, has, others, channels, next⟩ := take_eq_some ht
  have same : ∀ c', b'.subscribers c' = b.subscribers c' := by
    intro c'
    unfold subscribers
    rw [channels]
  constructor
  · rw [others n hm]
    exact h.inbox
  · rw [same]
    exact h.listed
  · intro c' hc'
    exact h.only c' (same c' ▸ hc')

theorem Carries.take_self (h : b.Carries n c mail) {message : String} {b' : Broker}
    (ht : b.take n = some (message, b')) : ∃ waiting, mail = message :: waiting ∧
      b'.Carries n c waiting := by
  obtain ⟨waiting, had, has, others, channels, next⟩ := take_eq_some ht
  rw [h.inbox] at had
  refine ⟨waiting, Option.some.inj had, has, ?_, ?_⟩
  · unfold subscribers
    rw [channels]
    exact h.listed
  · intro c' hc'
    unfold subscribers at hc'
    rw [channels] at hc'
    exact h.only c' hc'

end Broker

end Dispatch
