import Dispatch.Json.Decode

/-!
# Members of an object by their names

Putting members in the order of their names keeps what each name stands for. Where no name stands
twice, the fields of a record are the members of those names. What was read from a field or as a
free-form value tells what stood there.
-/

set_option autoImplicit false

namespace Dispatch.Json

/-! ## The order of names -/

def Sorted (ms : List (String × Json)) : Prop := ms.Pairwise fun a b => a.1 < b.1

theorem mem_insert {name : String} {v : Json} {ms : List (String × Json)} {m : String × Json}
    (h : m ∈ insert name v ms) : m = (name, v) ∨ m ∈ ms := by
  induction ms with
  | nil => exact .inl (List.mem_singleton.mp h)
  | cons entry rest ih =>
    obtain ⟨k, w⟩ := entry
    rw [insert] at h
    by_cases before : name < k
    · rw [if_pos before] at h
      exact List.mem_cons.mp h
    rw [if_neg before] at h
    by_cases same : name = k
    · rw [if_pos same] at h
      rcases List.mem_cons.mp h with h | h
      · exact .inl h
      · exact .inr (List.mem_cons_of_mem _ h)
    · rw [if_neg same] at h
      rcases List.mem_cons.mp h with h | h
      · exact .inr (List.mem_cons.mpr (.inl h))
      · rcases ih h with h | h
        · exact .inl h
        · exact .inr (List.mem_cons_of_mem _ h)

theorem sorted_insert {ms : List (String × Json)} (h : Sorted ms) (name : String) (v : Json) :
    Sorted (insert name v ms) := by
  induction ms with
  | nil => exact List.pairwise_singleton _ _
  | cons entry rest ih =>
    obtain ⟨k, w⟩ := entry
    obtain ⟨first, tail⟩ := List.pairwise_cons.mp h
    rw [insert]
    by_cases before : name < k
    · rw [if_pos before]
      apply List.pairwise_cons.mpr
      constructor
      · intro m hm
        rcases List.mem_cons.mp hm with rfl | hm
        · exact before
        · exact String.lt_trans before (first m hm)
      · exact h
    rw [if_neg before]
    by_cases same : name = k
    · subst same
      rw [if_pos rfl]
      exact List.pairwise_cons.mpr ⟨first, tail⟩
    · rw [if_neg same]
      have behind : k < name := Std.lt_of_le_of_ne (String.not_lt.mp before) (Ne.symm same)
      apply List.pairwise_cons.mpr
      constructor
      · intro m hm
        rcases mem_insert hm with rfl | hm
        · exact behind
        · exact first m hm
      · exact ih tail

theorem sorted_foldl {ms acc : List (String × Json)} (h : Sorted acc) :
    Sorted (ms.foldl (fun ms (name, v) => insert name v ms) acc) := by
  induction ms generalizing acc with
  | nil => exact h
  | cons m ms ih => exact ih (sorted_insert h m.1 m.2)

theorem sorted_ordered (ms : List (String × Json)) : Sorted (ordered ms) := sorted_foldl .nil

theorem Sorted.nodup {ms : List (String × Json)} (h : Sorted ms) : (ms.map Prod.fst).Nodup := by
  apply List.pairwise_map.mpr
  apply List.Pairwise.imp _ h
  intro a b hab heq
  rw [heq] at hab
  exact String.lt_irrefl _ hab

/-! ## What a name stands for -/

theorem lookup_cons (name : String) (v : Json) (ms : List (String × Json)) (k : String) :
    ((name, v) :: ms).lookup k = if k = name then some v else ms.lookup k := by
  by_cases h : k = name
  · rw [if_pos h, List.lookup_cons, beq_iff_eq.mpr h]
  · rw [if_neg h, List.lookup_cons, beq_eq_false_iff_ne.mpr h]

theorem lookup_insert (name : String) (v : Json) (ms : List (String × Json)) (k : String) :
    (insert name v ms).lookup k = if k = name then some v else ms.lookup k := by
  induction ms with
  | nil => exact lookup_cons name v [] k
  | cons entry rest ih =>
    obtain ⟨l, w⟩ := entry
    rw [insert]
    by_cases before : name < l
    · rw [if_pos before, lookup_cons]
    rw [if_neg before]
    by_cases same : name = l
    · subst same
      rw [if_pos rfl, lookup_cons, lookup_cons]
      by_cases hk : k = name
      · rw [if_pos hk, if_pos hk]
      · rw [if_neg hk, if_neg hk, if_neg hk]
    · rw [if_neg same, lookup_cons, lookup_cons, ih]
      by_cases hk : k = l
      · rw [if_pos hk, if_pos hk, if_neg (hk ▸ Ne.symm same)]
      · rw [if_neg hk, if_neg hk]

theorem lookup_eq_none {ms : List (String × Json)} {k : String} (h : k ∉ ms.map Prod.fst) :
    ms.lookup k = none := by
  induction ms with
  | nil => rfl
  | cons entry rest ih =>
    obtain ⟨l, w⟩ := entry
    rw [List.map_cons, List.mem_cons, not_or] at h
    rw [lookup_cons, if_neg h.1, ih h.2]

theorem lookup_foldl {ms acc : List (String × Json)} (h : (ms.map Prod.fst).Nodup) (k : String) :
    (ms.foldl (fun ms (name, v) => insert name v ms) acc).lookup k =
      (ms.lookup k).or (acc.lookup k) := by
  induction ms generalizing acc with
  | nil => rfl
  | cons entry rest ih =>
    obtain ⟨name, v⟩ := entry
    obtain ⟨fresh, distinct⟩ := List.nodup_cons.mp h
    rw [List.foldl_cons, ih distinct, lookup_insert, lookup_cons]
    by_cases hk : k = name
    · subst hk
      rw [if_pos rfl, if_pos rfl, lookup_eq_none fresh]
      rfl
    · rw [if_neg hk, if_neg hk]

theorem lookup_ordered {ms : List (String × Json)} (h : (ms.map Prod.fst).Nodup) (k : String) :
    (ordered ms).lookup k = ms.lookup k := by
  rw [ordered, lookup_foldl h, List.lookup_nil, Option.or_none]

/-! ## Fields -/

theorem filter_memberTrees {ms : List (String × Json)} (h : (ms.map Prod.fst).Nodup)
    (name : String) :
    (memberTrees ms).filter (fun m => m.1 == some name) =
      ((ms.lookup name).map fun v => (some name, toTree v)).toList := by
  induction ms with
  | nil => rfl
  | cons entry rest ih =>
    obtain ⟨k, v⟩ := entry
    obtain ⟨fresh, distinct⟩ := List.nodup_cons.mp h
    rw [memberTrees, lookup_cons, List.filter_cons, ih distinct]
    by_cases hk : name = k
    · subst hk
      rw [if_pos rfl, if_pos (beq_self_eq_true (some name)), lookup_eq_none fresh]
      rfl
    · have other : ¬ (some k == some name) = true := by
        rw [beq_iff_eq, Option.some.injEq]
        exact Ne.symm hk
      rw [if_neg hk, if_neg other]

theorem single?_memberTrees {ms : List (String × Json)} (h : (ms.map Prod.fst).Nodup)
    (name : String) :
    single? name (memberTrees ms) = some ((ms.lookup name).map toTree) := by
  rw [single?, filter_memberTrees h]
  cases ms.lookup name with
  | none => rfl
  | some v => rfl

theorem memberTrees_named (ms : List (String × Json)) :
    (memberTrees ms).all (fun m => m.1.isSome) = true := by
  induction ms with
  | nil => rfl
  | cons entry rest ih => exact ih

theorem fields?_of_single {members : List (Literal × Tree)} (names : List String)
    (field : String → Option Tree) (named : ∀ m ∈ members, m.1.isSome = true)
    (once : ∀ name ∈ names, single? name members = some (field name)) :
    fields? names (.object members) = some (names.map field) := by
  rw [fields?, if_pos (List.all_eq_true.mpr named)]
  induction names with
  | nil => rfl
  | cons name names ih =>
    obtain ⟨first, rest⟩ := List.forall_mem_cons.mp once
    rw [List.mapM_cons, first, ih rest]
    rfl

theorem fields?_object {ms : List (String × Json)} (h : (ms.map Prod.fst).Nodup)
    (names : List String) :
    fields? names (toTree (.object ms)) =
      some (names.map fun name => (ms.lookup name).map toTree) :=
  fields?_of_single names _ (List.all_eq_true.mp (memberTrees_named ms)) fun name _ =>
    single?_memberTrees h name

/-! ## Values of fields -/

section
variable {α : Type} {read : Tree → Option α} {field : Option Tree}

theorem optional?_eq_none (h : optional? read field = some none) : field = none ∨
    field = some .null := by
  cases field with
  | none => exact .inl rfl
  | some t =>
    cases t with
    | null => exact .inr rfl
    | _ =>
      obtain ⟨_, -, given⟩ := Option.map_eq_some_iff.mp h
      cases given

theorem optional?_eq_some {a : α} (h : optional? read field = some (some a)) :
    ∃ t, field = some t ∧ read t = some a := by
  cases field with
  | none => cases h
  | some t =>
    refine ⟨t, rfl, ?_⟩
    cases t with
    | null => cases h
    | _ =>
      obtain ⟨_, value, given⟩ := Option.map_eq_some_iff.mp h
      rw [value, given]

end

section
variable {α : Type} (read : Tree → Option α) (members : List (Literal × Tree)) (name : String)

/-- One member has the name, with a value that can be read. -/
def Holds : Prop := ∃ t a, single? name members = some (some t) ∧ read t = some a

def Lacks : Prop := single? name members = some none ∨ single? name members = some (some .null)

/-- The member of the name, if there is just one. -/
def field : Option Tree := (single? name members).getD none

end

section
variable {α : Type} {read : Tree → Option α} {members : List (Literal × Tree)} {name : String}

theorem Holds.required? (h : Holds read members name) :
    single? name members = some (field members name) ∧
      ∃ a, required? read (field members name) = some a := by
  obtain ⟨t, a, single, value⟩ := h
  have member : field members name = some t := by rw [field, single, Option.getD_some]
  rw [member]
  exact ⟨single, a, value⟩

theorem Holds.optional? (h : Holds read members name) (null : read .null = none) :
    single? name members = some (field members name) ∧ ¬ Lacks members name ∧
      ∃ a, Json.optional? read (field members name) = some (some a) := by
  obtain ⟨t, a, single, value⟩ := h
  have member : field members name = some t := by rw [field, single, Option.getD_some]
  have some_value : t ≠ .null := by
    rintro rfl
    rw [null] at value
    cases value
  refine ⟨by rw [member, single], ?_, a, ?_⟩
  · rintro (absent | lacks)
    · rw [single] at absent
      cases absent
    · rw [single] at lacks
      exact some_value (Option.some.inj (Option.some.inj lacks))
  · rw [member]
    cases t with
    | null => exact absurd rfl some_value
    | _ => simp only [Json.optional?, value, Option.map_some]

theorem Lacks.optional? (h : Lacks members name) (read : Tree → Option α) :
    single? name members = some (field members name) ∧
      Json.optional? read (field members name) = some none := by
  rcases h with single | single
  · rw [field, single]
    exact ⟨rfl, rfl⟩
  · rw [field, single]
    exact ⟨rfl, rfl⟩

theorem optional?_cases (h : Lacks members name ∨ Holds read members name)
    (null : read .null = none) :
    single? name members = some (field members name) ∧ ∃ x : Option α,
      Json.optional? read (field members name) = some x ∧ (x.isSome ↔ Holds read members name) ∧
        (x = none ↔ Lacks members name) := by
  rcases h with lacks | holds
  · obtain ⟨single, value⟩ := lacks.optional? read
    refine ⟨single, none, value, ⟨nofun, fun holds => ?_⟩, fun _ => lacks, fun _ => rfl⟩
    exact absurd lacks (holds.optional? null).2.1
  · obtain ⟨single, stands, a, value⟩ := holds.optional? null
    exact ⟨single, some a, value, ⟨fun _ => holds, fun _ => rfl⟩, nofun, fun lacks =>
      absurd lacks stands⟩

end

/-! ## Free-form values -/

theorem natBelow?_toTree {bound n : Nat} (h : n < bound) :
    natBelow? bound (toTree (.integer n)) = some n := by
  have positive : decide ((n : Int) < 0) = false := decide_eq_false (by omega)
  rw [toTree, positive, Int.natAbs_natCast, natBelow?, if_pos h]

theorem eq_zero_of_signed64? {v : Json} (h : signed64? v.toTree = some 0) : v = .integer 0 := by
  cases v with
  | integer n =>
    rw [toTree] at h
    by_cases negative : n < 0
    · rw [decide_eq_true negative, signed64?] at h
      split at h
      next range =>
        have := Option.some.inj h
        omega
      · cases h
    · rw [decide_eq_false negative, signed64?] at h
      split at h
      next range =>
        have zero : (n.natAbs : Int) = 0 := Option.some.inj h
        rw [show n = 0 by omega]
      · cases h
  | _ => cases h

theorem ofNumeral?_ne_object {n : Numeral} {ms : List (String × Json)} :
    ofNumeral? n ≠ some (.object ms) := by
  intro h
  unfold ofNumeral? at h
  split at h
  · have value := Option.some.inj h
    split at value <;> cases value
  · have value := Option.some.inj h
    split at value <;> cases value
  · split at h <;> cases h

theorem distinct_of_ofTree? {depth : Nat} {t : Tree} {ms : List (String × Json)}
    (h : ofTree? depth t = some (.object ms)) : (ms.map Prod.fst).Nodup := by
  cases t with
  | object members =>
    rw [ofTree?] at h
    split at h
    · cases h
    · obtain ⟨all, -, ordered⟩ := Option.map_eq_some_iff.mp h
      cases ordered
      exact (sorted_ordered all).nodup
  | array items =>
    rw [ofTree?] at h
    split at h
    · cases h
    · obtain ⟨_, -, other⟩ := Option.map_eq_some_iff.mp h
      cases other
  | number n => exact absurd h ofNumeral?_ne_object
  | string s =>
    obtain ⟨_, -, other⟩ := Option.map_eq_some_iff.mp h
    cases other
  | _ => cases h

end Dispatch.Json
