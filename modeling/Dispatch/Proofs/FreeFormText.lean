import Dispatch.Proofs.JsonMembers
import Dispatch.Proofs.JsonText

/-!
# Free-form values in text

A free-form value without fractions is read back from its text, if it is not nested too deeply. The
reader goes into one level less than its limit.
-/

set_option autoImplicit false

namespace Dispatch.Json

/-! ## Values and their nesting -/

mutual

/-- A value as it is kept without fractions: whole numbers of 64 bits, with a sign or without, and
members in the order of their names. -/
def Storable : Json → Prop
  | .integer n => -0x8000000000000000 ≤ n ∧ n < 0x10000000000000000
  | .float _ => False
  | .array items => StorableItems items
  | .object members => Sorted members ∧ StorableMembers members
  | _ => True

def StorableItems : List Json → Prop
  | [] => True
  | v :: rest => Storable v ∧ StorableItems rest

def StorableMembers : List (String × Json) → Prop
  | [] => True
  | (_, v) :: rest => Storable v ∧ StorableMembers rest

end

mutual

/-- The levels of arrays and objects; an empty one is a level too. -/
def depth : Json → Nat
  | .array items => depthItems items + 1
  | .object members => depthMembers members + 1
  | _ => 0

def depthItems : List Json → Nat
  | [] => 0
  | v :: rest => max (depth v) (depthItems rest)

def depthMembers : List (String × Json) → Nat
  | [] => 0
  | (_, v) :: rest => max (depth v) (depthMembers rest)

end

section
variable {ms acc : List (String × Json)} {name : String} {v : Json} {d : Nat}

theorem storableMembers_iff : StorableMembers ms ↔ ∀ m ∈ ms, Storable m.2 := by
  induction ms with
  | nil => exact ⟨fun _ => List.forall_mem_nil _, fun _ => trivial⟩
  | cons m ms ih => rw [StorableMembers, ih, List.forall_mem_cons]

theorem depthMembers_lt_iff (h : 0 < d) : depthMembers ms < d ↔ ∀ m ∈ ms, depth m.2 < d := by
  induction ms with
  | nil => exact ⟨fun _ => List.forall_mem_nil _, fun _ => h⟩
  | cons m ms ih => rw [depthMembers, Nat.max_lt, ih, List.forall_mem_cons]

/-! ## Members in order -/

theorem insert_last (h : ∀ m ∈ ms, m.1 < name) : insert name v ms = ms ++ [(name, v)] := by
  induction ms with
  | nil => rfl
  | cons m ms ih =>
    obtain ⟨first, rest⟩ := List.forall_mem_cons.mp h
    obtain ⟨k, w⟩ := m
    have before : ¬ name < k := String.lt_asymm first
    have other : ¬ name = k := by
      rintro rfl
      exact String.lt_irrefl _ first
    rw [insert, if_neg before, if_neg other, ih rest, List.cons_append]

theorem foldl_insert_sorted (h : Sorted (acc ++ ms)) :
    ms.foldl (fun ms (name, v) => insert name v ms) acc = acc ++ ms := by
  induction ms generalizing acc with
  | nil => exact (List.append_nil acc).symm
  | cons m ms ih =>
    obtain ⟨k, w⟩ := m
    have behind : ∀ m ∈ acc, m.1 < k := fun m hm =>
      (List.pairwise_append.mp h).2.2 m hm _ List.mem_cons_self
    rw [List.append_cons] at h ⊢
    rw [← insert_last (v := w) behind] at h ⊢
    exact ih h

theorem Sorted.ordered_eq (h : Sorted ms) : ordered ms = ms := by
  rw [← List.nil_append ms] at h
  exact foldl_insert_sorted h

theorem mem_foldl_insert {m : String × Json}
    (h : m ∈ ms.foldl (fun ms (name, v) => insert name v ms) acc) :
    m ∈ ms ∨ m ∈ acc := by
  induction ms generalizing acc with
  | nil => exact .inr h
  | cons first ms ih =>
    rcases ih h with h | h
    · exact .inl (List.mem_cons_of_mem first h)
    · rcases mem_insert h with rfl | h
      · exact .inl List.mem_cons_self
      · exact .inr h

end

/-! ## Reading back -/

mutual

theorem Storable.whole (v : Json) (h : Storable v) : Whole v := by
  cases v with
  | float x => exact h.elim
  | array items => exact StorableItems.whole items h
  | object members => exact StorableMembers.whole members h.2
  | _ => trivial

theorem StorableItems.whole (items : List Json) (h : StorableItems items) : WholeItems items := by
  cases items with
  | nil => trivial
  | cons v rest => exact ⟨Storable.whole v h.1, StorableItems.whole rest h.2⟩

theorem StorableMembers.whole (members : List (String × Json)) (h : StorableMembers members) :
    WholeMembers members := by
  cases members with
  | nil => trivial
  | cons m rest => exact ⟨Storable.whole m.2 h.1, StorableMembers.whole rest h.2⟩

end

theorem ofNumeral?_integer {n : Int} (h : Storable (.integer n)) :
    ofNumeral? (.whole (decide (n < 0)) n.natAbs) = some (.integer n) := by
  obtain ⟨low, high⟩ := h
  by_cases negative : n < 0
  · rw [decide_eq_true negative, ofNumeral?, if_pos (by omega)]
    congr 2
    omega
  · have bound : n.natAbs < UInt64.size := by
      change n.natAbs < 0x10000000000000000
      omega
    rw [decide_eq_false negative, ofNumeral?, if_pos bound]
    congr 2
    omega

mutual

/-- A value is read from its tree just when it is nested less deeply than allowed. -/
theorem ofTree?_toTree (v : Json) (h : Storable v) (d : Nat) (hd : 0 < d) :
    ofTree? d (toTree v) = if depth v < d then some v else none := by
  cases v with
  | null => exact (if_pos hd).symm
  | bool b => exact (if_pos hd).symm
  | integer n => exact (ofNumeral?_integer h).trans (if_pos hd).symm
  | float x => exact h.elim
  | string s => exact (if_pos hd).symm
  | array items =>
    rw [toTree, ofTree?, depth]
    by_cases shallow : d ≤ 1
    · rw [if_pos shallow, if_neg (by omega)]
    · rw [if_neg shallow, ofItems?_itemTrees items h (d - 1) (by omega)]
      by_cases fits : depthItems items < d - 1
      · rw [if_pos fits, if_pos (by omega), Option.map_some]
      · rw [if_neg fits, if_neg (by omega), Option.map_none]
  | object members =>
    rw [toTree, ofTree?, depth]
    by_cases shallow : d ≤ 1
    · rw [if_pos shallow, if_neg (by omega)]
    · rw [if_neg shallow, ofMembers?_memberTrees members h.2 (d - 1) (by omega)]
      by_cases fits : depthMembers members < d - 1
      · rw [if_pos fits, if_pos (by omega), Option.map_some, h.1.ordered_eq]
      · rw [if_neg fits, if_neg (by omega), Option.map_none]

theorem ofItems?_itemTrees (items : List Json) (h : StorableItems items) (d : Nat) (hd : 0 < d) :
    ofItems? d (itemTrees items) = if depthItems items < d then some items else none := by
  cases items with
  | nil => exact (if_pos hd).symm
  | cons v rest =>
    rw [itemTrees, ofItems?, ofTree?_toTree v h.1 d hd, ofItems?_itemTrees rest h.2 d hd,
      depthItems]
    by_cases first : depth v < d
    · by_cases others : depthItems rest < d
      · rw [if_pos first, if_pos others, if_pos (Nat.max_lt.mpr ⟨first, others⟩)]
      · rw [if_pos first, if_neg others, if_neg fun both => others (Nat.max_lt.mp both).2]
    · rw [if_neg first, if_neg fun both => first (Nat.max_lt.mp both).1]

theorem ofMembers?_memberTrees (members : List (String × Json)) (h : StorableMembers members)
    (d : Nat) (hd : 0 < d) :
    ofMembers? d (memberTrees members) =
      if depthMembers members < d then some members else none := by
  cases members with
  | nil => exact (if_pos hd).symm
  | cons m rest =>
    obtain ⟨name, v⟩ := m
    rw [memberTrees, depthMembers]
    unfold ofMembers?
    rw [ofTree?_toTree v h.1 d hd, ofMembers?_memberTrees rest h.2 d hd]
    by_cases first : depth v < d
    · by_cases others : depthMembers rest < d
      · rw [if_pos first, if_pos others, if_pos (Nat.max_lt.mpr ⟨first, others⟩)]
      · rw [if_pos first, if_neg others, if_neg fun both => others (Nat.max_lt.mp both).2]
    · rw [if_neg first, if_neg fun both => first (Nat.max_lt.mp both).1]

end

def freeForm? (text : String) : Option Json := (read? text.toList).bind (ofTree? depthLimit)

def deepest : Nat := depthLimit - 1

theorem freeForm?_render {v : Json} (h : Storable v) :
    freeForm? v.render = if depth v ≤ deepest then some v else none := by
  have limit : depth v ≤ deepest ↔ depth v < depthLimit := Nat.lt_succ_iff.symm
  rw [freeForm?, read?_render (Storable.whole v h), Option.bind_some, ofTree?_toTree v h depthLimit
    (by decide)]
  simp only [limit]

end Dispatch.Json
