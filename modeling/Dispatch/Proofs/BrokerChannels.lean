import Dispatch.Proofs.BrokerMail

/-!
# The channels of a broker

Each channel is kept once and with somebody listed. Who is listed without being there any more is
forgotten when something is published on the channel, or when the broker is asked to.
-/

set_option autoImplicit false

namespace Dispatch

namespace Broker

/-- Each channel stands once, with somebody listed. -/
structure Tidy (b : Broker) : Prop where
  once : (b.channels.map Prod.fst).Nodup
  filled : ∀ entry ∈ b.channels, entry.2 ≠ []

section
variable {b : Broker} {n : Nat} {c c' : String}

theorem tidy_empty : empty.Tidy := ⟨List.nodup_nil, nofun⟩

theorem Tidy.setSubscribers (h : b.Tidy) (c : String) (ns : List Nat) :
    (b.setSubscribers c ns).Tidy := by
  have others : ((b.channels.filter fun entry => entry.1 != c).map Prod.fst).Nodup :=
    h.once.sublist (List.filter_sublist.map Prod.fst)
  have filled : ∀ entry ∈ b.channels.filter fun entry => entry.1 != c, entry.2 ≠ [] :=
    fun entry he => h.filled entry (List.mem_filter.mp he).1
  cases ns with
  | nil => exact ⟨others, filled⟩
  | cons n ns =>
    constructor
    · apply List.nodup_cons.mpr
      refine ⟨?_, others⟩
      intro listed
      obtain ⟨entry, he, same⟩ := List.mem_map.mp listed
      have other := (List.mem_filter.mp he).2
      simp [same] at other
    · exact List.forall_mem_cons.mpr ⟨List.cons_ne_nil n ns, filled⟩

theorem Tidy.subscribe (h : b.Tidy) (c : String) : (b.subscribe c).2.Tidy := by
  obtain ⟨once, filled⟩ := h.setSubscribers c (b.subscribers c ++ [b.next])
  exact ⟨once, filled⟩

theorem Tidy.publish (h : b.Tidy) (c payload : String) : (b.publish c payload).2.Tidy := by
  obtain ⟨once, filled⟩ := h.setSubscribers c (b.live c)
  exact ⟨once, filled⟩

theorem Tidy.unsubscribe (h : b.Tidy) (c : String) : (b.unsubscribe c).Tidy :=
  h.setSubscribers c (b.live c)

theorem Tidy.drop (h : b.Tidy) (m : Nat) : (b.drop m).Tidy := ⟨h.once, h.filled⟩

theorem Tidy.take (h : b.Tidy) {message : String} {b' : Broker}
    (taken : b.take n = some (message, b')) : b'.Tidy := by
  obtain ⟨_, _, _, _, channels, _⟩ := take_eq_some taken
  constructor
  · rw [channels]
    exact h.once
  · rw [channels]
    exact h.filled

theorem Tidy.mem_channels (h : b.Tidy) : c ∈ b.channels.map Prod.fst ↔ b.subscribers c ≠ [] := by
  unfold subscribers
  cases found : b.channels.lookup c with
  | none =>
    have absent : c ∉ b.channels.map Prod.fst := by
      intro listed
      obtain ⟨entry, he, rfl⟩ := List.mem_map.mp listed
      have other := List.lookup_eq_none_iff.mp found entry he
      simp at other
    simp [absent]
  | some ns =>
    obtain ⟨before, after, split, -⟩ := List.lookup_eq_some_iff.mp found
    have there : (c, ns) ∈ b.channels := by rw [split]; simp
    have listed : c ∈ b.channels.map Prod.fst := List.mem_map_of_mem there
    simp only [listed, Option.getD_some, true_iff]
    exact h.filled _ there

/-! ## Who is there -/

theorem filter_isLive_congr {b' : Broker} {ns : List Nat}
    (same : ∀ m ∈ ns, (b'.inbox? m).isSome = (b.inbox? m).isSome) :
    ns.filter b'.isLive = ns.filter b.isLive := List.filter_congr same

theorem filter_live (b : Broker) (c : String) : (b.live c).filter b.isLive = b.live c := by
  rw [live, List.filter_filter]
  simp only [Bool.and_self]

theorem live_subscribe (h : b.Fresh) (c c' : String) :
    (b.subscribe c).2.live c' = if c' = c then b.live c ++ [b.next] else b.live c' := by
  have old : ∀ c', (b.subscribers c').filter (b.subscribe c).2.isLive = b.live c' := by
    intro c'
    apply filter_isLive_congr
    intro m hm
    have young : m ≠ b.next := Nat.ne_of_lt (h.listed c' m hm)
    rw [inbox?_subscribe, if_neg young]
  have new : (b.subscribe c).2.isLive b.next = true := by
    rw [isLive, inbox?_subscribe, if_pos rfl]
    rfl
  rw [live, subscribers_subscribe]
  split
  · rw [List.filter_append, old, List.filter_cons_of_pos new, List.filter_nil]
  · exact old c'

theorem live_publish (b : Broker) (c payload c' : String) :
    (b.publish c payload).2.live c' = b.live c' := by
  have same : ∀ ns : List Nat, ns.filter (b.publish c payload).2.isLive = ns.filter b.isLive := by
    intro ns
    apply filter_isLive_congr
    intro m _
    rw [inbox?_publish, Option.isSome_map]
  rw [live, subscribers_publish, same]
  split
  · rename_i hc
    rw [hc, filter_live]
  · rfl

theorem live_unsubscribe (b : Broker) (c c' : String) : (b.unsubscribe c).live c' = b.live c' := by
  have same : ∀ ns : List Nat, ns.filter (b.unsubscribe c).isLive = ns.filter b.isLive :=
    fun _ => rfl
  rw [live, subscribers_unsubscribe, same]
  split
  · rename_i hc
    rw [hc, filter_live]
  · rfl

theorem live_drop (b : Broker) (m : Nat) (c' : String) :
    (b.drop m).live c' = (b.live c').filter fun n => n != m := by
  rw [live, live, List.filter_filter]
  apply List.filter_congr
  intro n _
  rw [isLive, inbox?_drop, isLive]
  by_cases hn : n = m
  · simp [hn]
  · simp [hn]

theorem live_take {message : String} {b' : Broker} (taken : b.take n = some (message, b'))
    (c' : String) :
    b'.live c' = b.live c' := by
  obtain ⟨waiting, had, has, others, channels, -⟩ := take_eq_some taken
  have listed : b'.subscribers c' = b.subscribers c' := by rw [subscribers, channels, subscribers]
  rw [live, listed, live]
  apply filter_isLive_congr
  intro m _
  by_cases hm : m = n
  · rw [hm, had, has]
    rfl
  · rw [others m hm]

end

end Broker

end Dispatch
