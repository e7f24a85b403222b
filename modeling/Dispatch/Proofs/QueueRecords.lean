import Dispatch.Proofs.DraftText
import Dispatch.Proofs.FreeFormText
import Dispatch.Queue.Wallet

/-!
# Records of queued drafts

The record of a draft is read back from its text, whatever goes with the draft, if that is not
nested too deeply. A manager who puts a gas limit into it has the draft with that limit.
-/

set_option autoImplicit false

namespace Dispatch

open Json (Sorted Storable depth)

theorem Draft.ofTree_congr {t t' : Json.Tree}
    (same : Json.fields? fieldNames t = Json.fields? fieldNames t') :
    ofTree t = ofTree t' := by
  rw [ofTree, flat?, same, ← flat?, ← ofTree]

theorem Json.storable_ofNat {n : Nat} (h : n < UInt64.size) : Storable (.integer n) := by
  change n < 0x10000000000000000 at h
  constructor <;> omega

namespace Queue

def Plain (v : Json) : Prop := Storable v ∧ depth v = 0

/-- What a record has besides the members of the draft, in place of its gas among others. -/
def addedMembers (id : String) (seconds : UInt64) (hints : Hints) : List (String × Json) :=
  [("gas", .null), ("id", .string id), ("status", .string "PROPOSED"),
    ("score", .integer (score (hints.priority.getD standardPriority) seconds).toNat),
    ("multiplier", optionJson Json.float hints.multiplier),
    ("method", optionJson Json.string hints.operation),
    ("meta", hints.metadata.getD .null)]

section
variable {id : String} {seconds : UInt64} {tx : Draft} {hints : Hints}

theorem sorted_recordMembers : Sorted (recordMembers id seconds tx hints) :=
  Json.sorted_foldl (Json.sorted_ordered tx.members)

theorem mem_recordMembers {m : String × Json} (h : m ∈ recordMembers id seconds tx hints) :
    m ∈ addedMembers id seconds hints ∨ m ∈ tx.members := by
  rcases Json.mem_foldl_insert h with added | drafted
  · exact .inl added
  · rcases Json.mem_foldl_insert drafted with drafted | none
    · exact .inr drafted
    · cases none

theorem lookup_recordMembers (k : String) :
    (recordMembers id seconds tx hints).lookup k =
      ((addedMembers id seconds hints).lookup k).or (tx.members.lookup k) := by
  have distinct : ((addedMembers id seconds hints).map Prod.fst).Nodup := by
    show ["gas", "id", "status", "score", "multiplier", "method", "meta"].Nodup
    decide
  exact (Json.lookup_foldl distinct k).trans
    (congrArg _ (Json.lookup_ordered tx.distinct_members k))

theorem plain_ofNat {n : Nat} (h : n < UInt64.size) : Plain (.integer n) :=
  ⟨Json.storable_ofNat h, rfl⟩

theorem plain_draftMembers (fits : tx.FitsValue) : ∀ m ∈ tx.members, Plain m.2 := by
  have fees : ∀ m ∈ Draft.feeMembers tx.fees, Plain m.2 := by
    unfold Draft.FitsValue at fits
    cases hf : tx.fees with
    | legacy gasPrice =>
      rw [hf] at fits
      exact List.forall_mem_singleton.mpr (plain_ofNat fits)
    | dynamic maxFee tip =>
      rw [hf] at fits
      exact List.forall_mem_cons.mpr
        ⟨plain_ofNat fits.1, List.forall_mem_singleton.mpr (plain_ofNat fits.2)⟩
  intro m hm
  rcases List.mem_append.mp hm with others | hm
  · simp only [List.mem_cons, List.not_mem_nil, or_false] at others
    rcases others with rfl | rfl | rfl | rfl | rfl | rfl | rfl
    all_goals first | exact ⟨trivial, rfl⟩ | exact plain_ofNat (UInt64.toNat_lt _)
  · exact fees m hm

theorem addedMembers_cases (unscaled : hints.multiplier = none) {m : String × Json}
    (h : m ∈ addedMembers id seconds hints) : m = ("meta", hints.metadata.getD .null) ∨
      Plain m.2 := by
  simp only [addedMembers, List.mem_cons, List.not_mem_nil, or_false] at h
  rcases h with rfl | rfl | rfl | rfl | rfl | rfl | rfl
  case inr.inr.inr.inl => exact .inr (plain_ofNat (UInt64.toNat_lt _))
  case inr.inr.inr.inr.inl => exact .inr (unscaled ▸ ⟨trivial, rfl⟩)
  case inr.inr.inr.inr.inr.inl => cases hints.operation <;> exact .inr ⟨trivial, rfl⟩
  case inr.inr.inr.inr.inr.inr => exact .inl rfl
  all_goals exact .inr ⟨trivial, rfl⟩

/-- Of all that a record holds, only the metadata can be nested. -/
theorem recordMembers_cases (fits : tx.FitsValue) (unscaled : hints.multiplier = none)
    {m : String × Json}
    (h : m ∈ recordMembers id seconds tx hints) : m = ("meta", hints.metadata.getD .null) ∨
      Plain m.2 := by
  rcases mem_recordMembers h with added | drafted
  · exact addedMembers_cases unscaled added
  · exact .inr (plain_draftMembers fits m drafted)

theorem meta_mem_recordMembers :
    ("meta", hints.metadata.getD .null) ∈ recordMembers id seconds tx hints := by
  have found :
    (recordMembers id seconds tx hints).lookup "meta" = some (hints.metadata.getD .null) :=
    lookup_recordMembers "meta"
  obtain ⟨before, after, split, -⟩ := List.lookup_eq_some_iff.mp found
  rw [split]
  exact List.mem_append_right before List.mem_cons_self

theorem storable_record (fits : tx.FitsValue) (unscaled : hints.multiplier = none)
    (free : Storable (hints.metadata.getD .null)) :
    Storable (.object (recordMembers id seconds tx hints)) := by
  refine ⟨sorted_recordMembers, Json.storableMembers_iff.mpr ?_⟩
  intro m hm
  rcases recordMembers_cases fits unscaled hm with rfl | plain
  · exact free
  · exact plain.1

theorem depth_record_le {d : Nat} (fits : tx.FitsValue) (unscaled : hints.multiplier = none) :
    depth (.object (recordMembers id seconds tx hints)) ≤ d ↔
      depth (hints.metadata.getD .null) < d := by
  rw [depth, Nat.add_one_le_iff]
  rcases Nat.eq_zero_or_pos d with rfl | positive
  · simp only [Nat.not_lt_zero]
  rw [Json.depthMembers_lt_iff positive]
  constructor
  · intro all
    exact all _ meta_mem_recordMembers
  · intro shallow m hm
    rcases recordMembers_cases fits unscaled hm with rfl | plain
    · exact shallow
    · rwa [plain.2]

theorem lookup_priced (g : UInt64) {name : String} (field : name ∈ Draft.fieldNames) :
    (Json.insert "gas" (.integer g.toNat) (recordMembers id seconds tx hints)).lookup name =
      { tx with gasLimit := g }.members.lookup name := by
  rw [Json.lookup_insert, lookup_recordMembers]
  simp only [Draft.fieldNames, List.mem_cons, List.not_mem_nil, or_false] at field
  rcases field with rfl | rfl | rfl | rfl | rfl | rfl | rfl | rfl | rfl | rfl <;> rfl

theorem ofTree_priced (g : UInt64) :
    Draft.ofTree
      (Json.toTree
        (.object (Json.insert "gas" (.integer g.toNat) (recordMembers id seconds tx hints)))) =
      .ok { tx with gasLimit := g } := by
  let priced : Draft := { tx with gasLimit := g }
  have sorted : Sorted (recordMembers id seconds tx hints) := sorted_recordMembers
  have distinct := (Json.sorted_insert sorted "gas" (.integer g.toNat)).nodup
  have fields : Json.fields? Draft.fieldNames
      (Json.toTree
        (.object (Json.insert "gas" (.integer g.toNat) (recordMembers id seconds tx hints)))) =
      Json.fields? Draft.fieldNames priced.toJson.toTree := by
    rw [Json.fields?_object distinct, Draft.toJson, Json.fields?_object priced.distinct_members]
    refine congrArg some (List.map_congr_left fun name field => ?_)
    rw [lookup_priced g field]
  rw [Draft.ofTree_congr fields, priced.ofTree_toTree]

/-! ## Read by a manager -/

/-- What a manager finds in a record. -/
structure Tells (tx : Draft) (hints : Hints) (id : String) (seconds : UInt64)
    (members : List (String × Json)) :
    Prop where
  gas : members.lookup "gas" = some .null
  id : members.lookup "id" = some (.string id)
  status : members.lookup "status" = some (.string "PROPOSED")
  method : members.lookup "method" = some (optionJson Json.string hints.operation)
  metadata : members.lookup "meta" = some (hints.metadata.getD .null)
  score : members.lookup "score" = some (.integer (score (hints.priority.getD 1) seconds).toNat)
  draft : ∀ g : UInt64,
    Draft.ofTree (Json.toTree (.object (Json.insert "gas" (.integer g.toNat) members))) =
    .ok { tx with gasLimit := g }

theorem tells_recordMembers : Tells tx hints id seconds (recordMembers id seconds tx hints) where
  gas := lookup_recordMembers "gas"
  id := lookup_recordMembers "id"
  status := lookup_recordMembers "status"
  method := lookup_recordMembers "method"
  metadata := lookup_recordMembers "meta"
  score := lookup_recordMembers "score"
  draft := ofTree_priced

theorem freeForm?_record (fits : tx.FitsValue) (unscaled : hints.multiplier = none)
    (free : Storable (hints.metadata.getD .null)) :
    Json.freeForm? (Json.object (recordMembers id seconds tx hints)).render =
      if depth (hints.metadata.getD .null) <
        Json.deepest then some (.object (recordMembers id seconds tx hints))
      else none := by
  rw [Json.freeForm?_render (storable_record fits unscaled free)]
  simp only [depth_record_le fits unscaled]

/-- A manager learns all about a draft from a text. -/
def Informs (tx : Draft) (hints : Hints) (id : String) (seconds : UInt64) (text : String) : Prop :=
  ∃ members, Json.freeForm? text = some (.object members) ∧ Tells tx hints id seconds members

theorem informs_record_iff (fits : tx.FitsValue) (unscaled : hints.multiplier = none)
    (free : Storable (hints.metadata.getD .null)) :
    Informs tx hints id seconds (Json.object (recordMembers id seconds tx hints)).render ↔
      depth (hints.metadata.getD .null) < Json.deepest := by
  rw [Informs, freeForm?_record fits unscaled free]
  constructor
  · rintro ⟨members, read, -⟩
    by_contra deep
    rw [if_neg deep] at read
    cases read
  · intro shallow
    exact ⟨_, if_pos shallow, tells_recordMembers⟩

end

end Queue

end Dispatch
