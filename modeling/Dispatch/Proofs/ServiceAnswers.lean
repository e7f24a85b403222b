import Dispatch.Proofs.HonestService

/-!
# What a signing service's answers come to

An answer holds data and an error, either of which may be missing or null. Data of success without
an error is the result, and an error next to data of the right type is the failure, whatever the
status. What is no such answer is shown as it came, also when an error stands in it.
-/

set_option autoImplicit false

namespace Dispatch
open Program (Environment Event Moment Leads)

namespace Remote

/-- Data and error of an answer: the members of these names, each at most once, or one or two
items. -/
inductive Encloses : Json.Tree → Option Json.Tree → Option Json.Tree → Prop
  | object {members : List (Json.Literal × Json.Tree)} {data error : Option Json.Tree}
      (named : ∀ m ∈ members, m.1.isSome = true) (first : Json.single? "data" members = some data)
      (second : Json.single? "error" members = some error) : Encloses (.object members) data error
  | item {data : Json.Tree} : Encloses (.array [data]) (some data) none
  | items {data error : Json.Tree} : Encloses (.array [data, error]) (some data) (some error)

def Absent (field : Option Json.Tree) : Prop := field = none ∨ field = some .null

def Carries {α : Type} (read : Json.Tree → Option α) (field : Option Json.Tree) (a : α) : Prop :=
  ∃ t, field = some t ∧ t ≠ .null ∧ read t = some a

/-- The answer can be read: each of its fields is absent or has its type. -/
def Readable {α : Type} (read : Json.Tree → Option α) (t : Json.Tree) : Prop :=
  ∃ data error, Encloses t data error ∧ (Absent data ∨ ∃ d, Carries read data d) ∧
    (Absent error ∨ ∃ why, Carries Json.text? error why)

/-- What a call comes to after a reply of a status with a text. -/
structure Tells {α : Type} (read : Json.Tree → Option α) (status : Nat) (text : List Char)
    (r : Except Failure α) :
    Prop where
  data : ∀ d, r = .ok d ↔ (200 ≤ status ∧ status < 300) ∧ ∃ t data error, Json.read? text = some t ∧
    Encloses t data error ∧ Absent error ∧ Carries read data d
  /-- An error counts whatever the status, next to data that is absent or of its type. -/
  error : ∀ t data error why, Json.read? text = some t → Encloses t data error →
    Carries Json.text? error why →
    (Absent data ∨ ∃ d, Carries read data d) → r = .error (.signing (.rejected why))
  /-- Nothing in a text that cannot be read counts, be it an error. -/
  unread : (∀ t, Json.read? text = some t → ¬ Readable read t) →
    if 200 ≤ status ∧
      status < 300 then ∃ why, r = .error (.signing (.malformed (.body why (String.ofList text))))
    else r = .error (.signing (.rejected (Http.statusText status ++ " - " ++ String.ofList text)))
  empty : ∀ t data error, Json.read? text = some t → Encloses t data error → Absent error →
    (Absent data ∨ ¬ (200 ≤ status ∧ status < 300) ∧ ∃ d, Carries read data d) →
      r = .error (.signing (.rejected (Http.statusText status ++ " without data")))

inductive Service.Calls {α : Type} (s : Service) (read : Json.Tree → Option α) :
    Task Outside α → Prop
  | get (path : String) : Calls s read (s.get path read)
  | post (path : String) (body : Json) : Calls s read (s.post path body read)

/-! ## Reading an answer -/

section
variable {α : Type} {read : Json.Tree → Option α} {t : Json.Tree} {field : Option Json.Tree}

theorem optional?_none_iff : Json.optional? read field = some none ↔ Absent field := by
  constructor
  · exact Json.optional?_eq_none
  · rintro (rfl | rfl) <;> rfl

theorem optional?_some_iff {a : α} : Json.optional? read field = some (some a) ↔
    Carries read field a := by
  constructor
  · intro h
    obtain ⟨t, rfl, value⟩ := Json.optional?_eq_some h
    refine ⟨t, rfl, ?_, value⟩
    rintro rfl
    cases h
  · rintro ⟨t, rfl, given, value⟩
    cases t with
    | null => exact absurd rfl given
    | _ => simp only [Json.optional?, value, Option.map_some]

theorem Encloses.answer? {data error : Option Json.Tree} (h : Encloses t data error) :
    Remote.answer? read t =
      (Json.optional? read data).bind fun d => (Json.optional? Json.text? error).bind fun e =>
        some ⟨d, e⟩ := by
  cases h with
  | @object members _ _ named first second =>
    have fields : Json.fields? ["data", "error"] (.object members) = some [data, error] := by
      rw [Json.fields?, if_pos (List.all_eq_true.mpr named)]
      simp [first, second]
    simp only [Remote.answer?, fields, Option.bind_eq_bind, Option.bind_some]
  | item => rfl
  | items => rfl

theorem exists_encloses {a : Answer α} (h : answer? read t = some a) :
    ∃ data error, Encloses t data error := by
  cases t with
  | object members =>
    by_cases named : members.all (fun m => m.1.isSome) = true
    · rw [answer?, Json.fields?, if_pos named] at h
      cases first : Json.single? "data" members with
      | none => simp [first] at h
      | some data =>
        cases second : Json.single? "error" members with
        | none => simp [first, second] at h
        | some error => exact ⟨data, error, .object (List.all_eq_true.mp named) first second⟩
    · rw [answer?, Json.fields?, if_neg named] at h
      cases h
  | array items =>
    rcases items with _ | ⟨data, _ | ⟨error, _ | ⟨more, rest⟩⟩⟩
    · cases h
    · exact ⟨_, _, .item⟩
    · exact ⟨_, _, .items⟩
    · have long : ¬ (data :: error :: more :: rest).length ≤ ["data", "error"].length := by simp
      rw [answer?, Json.fields?, if_neg long] at h
      cases h
  | _ => cases h

theorem answer?_some_iff {d : Option α} {e : Option String} :
    answer? read t = some ⟨d, e⟩ ↔ ∃ data error, Encloses t data error ∧
      Json.optional? read data = some d ∧
      Json.optional? Json.text? error = some e := by
  constructor
  · intro h
    obtain ⟨data, error, encloses⟩ := exists_encloses h
    rw [encloses.answer?] at h
    obtain ⟨d', first, h⟩ := Option.bind_eq_some_iff.mp h
    obtain ⟨e', second, h⟩ := Option.bind_eq_some_iff.mp h
    cases h
    exact ⟨data, error, encloses, first, second⟩
  · rintro ⟨data, error, encloses, first, second⟩
    rw [encloses.answer?, first, second]
    rfl

theorem optional?_isSome_iff : (∃ d, Json.optional? read field = some d) ↔ Absent field ∨
    ∃ a, Carries read field a := by
  constructor
  · rintro ⟨_ | a, value⟩
    · exact .inl (optional?_none_iff.mp value)
    · exact .inr ⟨a, optional?_some_iff.mp value⟩
  · rintro (absent | ⟨a, carries⟩)
    · exact ⟨none, optional?_none_iff.mpr absent⟩
    · exact ⟨some a, optional?_some_iff.mpr carries⟩

theorem readable_iff : Readable read t ↔ ∃ a, answer? read t = some a := by
  constructor
  · rintro ⟨data, error, encloses, first, second⟩
    obtain ⟨d, first⟩ := optional?_isSome_iff.mpr first
    obtain ⟨e, second⟩ := optional?_isSome_iff.mpr second
    exact ⟨⟨d, e⟩, answer?_some_iff.mpr ⟨data, error, encloses, first, second⟩⟩
  · rintro ⟨⟨d, e⟩, read⟩
    obtain ⟨data, error, encloses, first, second⟩ := answer?_some_iff.mp read
    exact ⟨data, error, encloses, optional?_isSome_iff.mp ⟨d, first⟩, optional?_isSome_iff.mp
      ⟨e, second⟩⟩

end

/-! ## Unpacking -/

section
variable {α : Type} {read : Json.Tree → Option α} {reply : Http.Reply} {bytes : Bytes}

theorem isSuccess_iff {status : Nat} : Http.isSuccess status = true ↔ 200 ≤ status ∧
    status < 300 := by
  rw [Http.isSuccess, Bool.and_eq_true, decide_eq_true_iff, decide_eq_true_iff]

/-- The text of a body, read as an answer. -/
def answerIn? (read : Json.Tree → Option α) (bytes : Bytes) : Option (Answer α) :=
  (Json.read? (Text.unmarked bytes)).bind (answer? read)

theorem answerIn?_of_encloses {t : Json.Tree} {data error : Option Json.Tree} {d : Option α}
    {e : Option String} (text : Json.read? (Text.unmarked bytes) = some t)
    (encloses : Encloses t data error) (first : Json.optional? read data = some d)
    (second : Json.optional? Json.text? error = some e) :
    answerIn? read bytes = some ⟨d, e⟩ := by
  rw [answerIn?, text]
  exact answer?_some_iff.mpr ⟨data, error, encloses, first, second⟩

theorem unpack_unread (body : reply.body = .ok bytes) (unread : answerIn? read bytes = none) :
    unpack read reply =
      if Http.isSuccess reply.status then
        .error (.malformed (.body "not an answer" (String.ofList (Text.unmarked bytes))))
      else .error (.rejected
        (Http.statusText reply.status ++ " - " ++ String.ofList (Text.unmarked bytes))) := by
  unfold answerIn? at unread
  simp only [unpack, body, unread]

theorem unpack_error (body : reply.body = .ok bytes) {d : Option α} {why : String}
    (answer : answerIn? read bytes = some ⟨d, some why⟩) :
    unpack read reply = .error (.rejected why) := by
  unfold answerIn? at answer
  simp only [unpack, body, answer]

theorem unpack_data (body : reply.body = .ok bytes) {d : α}
    (answer : answerIn? read bytes = some ⟨some d, none⟩) :
    unpack read reply =
      if Http.isSuccess reply.status then .ok d
      else .error (.rejected (Http.statusText reply.status ++ " without data")) := by
  unfold answerIn? at answer
  simp only [unpack, body, answer]

theorem unpack_empty (body : reply.body = .ok bytes)
    (answer : answerIn? read bytes = some ⟨none, none⟩) :
    unpack read reply = .error (.rejected (Http.statusText reply.status ++ " without data")) := by
  unfold answerIn? at answer
  simp only [unpack, body, answer]

theorem unpack_eq_ok_iff (body : reply.body = .ok bytes) {d : α} :
    unpack read reply = .ok d ↔ Http.isSuccess reply.status = true ∧
      answerIn? read bytes = some ⟨some d, none⟩ := by
  constructor
  · intro result
    cases answer : answerIn? read bytes with
    | none =>
      rw [unpack_unread body answer] at result
      split at result <;> cases result
    | some answer' =>
      obtain ⟨_ | d', _ | why⟩ := answer'
      · rw [unpack_empty body answer] at result
        cases result
      · rw [unpack_error body answer] at result
        cases result
      · rw [unpack_data body answer] at result
        split at result
        next success =>
          cases result
          exact ⟨success, rfl⟩
        next => cases result
      · rw [unpack_error body answer] at result
        cases result
  · rintro ⟨success, answer⟩
    rw [unpack_data body answer, if_pos success]

theorem ofSigner_eq_ok {r : Except SigningFailure α} {d : α} : ofSigner r = .ok d ↔ r = .ok d := by
  cases r <;> simp [ofSigner]

theorem tells_unpack (body : reply.body = .ok bytes) :
    Tells read reply.status (Text.unmarked bytes) (ofSigner (unpack read reply)) where
  data d := by
    rw [ofSigner_eq_ok, unpack_eq_ok_iff body, isSuccess_iff]
    refine and_congr_right fun _ => ⟨fun answer => ?_, ?_⟩
    · obtain ⟨t, text, answer⟩ := Option.bind_eq_some_iff.mp answer
      obtain ⟨data, error, encloses, first, second⟩ := answer?_some_iff.mp answer
      exact ⟨t, data, error, text, encloses, optional?_none_iff.mp second,
        optional?_some_iff.mp first⟩
    · rintro ⟨t, data, error, text, encloses, calm, carries⟩
      exact answerIn?_of_encloses text encloses (optional?_some_iff.mpr carries)
        (optional?_none_iff.mpr calm)
  error t data error why text encloses refused rest := by
    obtain ⟨d, first⟩ := optional?_isSome_iff.mpr rest
    have answer := answerIn?_of_encloses text encloses first (optional?_some_iff.mpr refused)
    rw [unpack_error body answer]
    rfl
  unread nothing := by
    have unread : answerIn? read bytes = none := by
      rw [Option.eq_none_iff_forall_ne_some]
      rintro answer found
      obtain ⟨t, text, found⟩ := Option.bind_eq_some_iff.mp found
      exact nothing t text (readable_iff.mpr ⟨answer, found⟩)
    rw [unpack_unread body unread]
    simp only [isSuccess_iff]
    split
    · exact ⟨_, rfl⟩
    · rfl
  empty t data error text encloses calm rest := by
    have calm : Json.optional? Json.text? error = some none := optional?_none_iff.mpr calm
    rcases rest with absent | ⟨failing, d, carries⟩
    · rw [unpack_empty body
        (answerIn?_of_encloses text encloses (optional?_none_iff.mpr absent) calm)]
      rfl
    · rw [unpack_data body (answerIn?_of_encloses text encloses (optional?_some_iff.mpr carries)
        calm), if_neg]
      · rfl
      · rwa [isSuccess_iff]

end

/-! ## Calls -/

section
variable {σ α : Type} {env : Environment Outside σ} {u v : Moment σ} {es : List (Event Outside)}
  {s : Service} {read : Json.Tree → Option α} {reply : Http.Reply} {r : Except Failure α}

theorem Service.Calls.replied {call : Task Outside α} (calls : s.Calls read call)
    (h : Leads env call.run u es r v) (replied : Replied reply es) :
    r = ofSigner (unpack read reply) := by
  cases calls with
  | get => exact exchange_replied h replied
  | post => exact post_replied h replied

/-- Whatever a service replies to a call, the status and the text of the body tell what the call
comes to. -/
theorem replies_tell {call : Task Outside α} (calls : s.Calls read call)
    (h : Leads env call.run u es r v) (replied : Replied reply es) :
    (∀ bytes, reply.body = .ok bytes → Tells read reply.status (Text.unmarked bytes) r) ∧
      ∀ why, reply.body = .error why → r = .error (.signing (.malformed (.unreadable why))) := by
  obtain rfl := calls.replied h replied
  refine ⟨fun bytes body => tells_unpack body, fun why body => ?_⟩
  simp only [unpack, body]
  rfl

end

/-! ## A service that refuses -/

def answering (status : Nat) (body : Json) : Environment Outside Unit := fun q t s =>
  match q with
  | .http _ => ⟨.ok ⟨status, .ok (Bytes.ofText body.render)⟩, s, t⟩
  | q => ⟨q.refusal, s, t⟩

theorem get_answering_replied {α : Type} {s : Service} {read : Json.Tree → Option α} {path : String}
    {status : Nat} {body : Json} {u v : Moment Unit} {es : List (Event Outside)}
    {r : Except Failure α} (requestable : Url.isRequestable (s.url ++ path) = true)
    (h : Leads (answering status body) (s.get path read).run u es r v) :
    Replied ⟨status, .ok (Bytes.ofText body.render)⟩ es := by
  unfold Service.get Service.exchange at h
  simp only [Outside.http, requestable] at h
  obtain ⟨rest, rfl, -⟩ := Program.leads_ask.mp h
  exact ⟨_, _, List.mem_cons_self⟩

theorem read?_unmarked_render {body : Json} (whole : Json.Whole body) :
    Json.read? (Text.unmarked (Bytes.ofText body.render)) = some body.toTree := by
  have read : Json.read? (Text.lossy (Bytes.ofText body.render)) = some body.toTree := by
    rw [Text.lossy_ofText]
    exact Json.read?_render whole
  rwa [Text.unmarked_eq_lossy read]

def refusing (data : Json) : Json := .object [("data", data), ("error", .string "refused")]

def askAddress : Task Outside Address :=
  unitRemote.service.get "/address" (fieldOf? "address" Json.address?)

theorem askAddress_requestable : Url.isRequestable (unitRemote.service.url ++ "/address") =
    true := by
  decide +kernel

theorem error_without_data_counts :
    (askAddress.run.run (answering 500 (refusing .null)) 0 ()).result =
      .error (.signing (.rejected "refused")) := by
  have course := Program.leads_run (answering 500 (refusing .null)) askAddress.run ⟨0, ()⟩
  obtain ⟨tells, -⟩ :=
    replies_tell (.get _) course (get_answering_replied askAddress_requestable course)
  have text : Json.read? (Text.unmarked (Bytes.ofText (refusing .null).render)) = _ :=
    read?_unmarked_render (by simp [refusing, Json.Whole, Json.WholeMembers])
  refine (tells _ rfl).error _ _ _ "refused" text (.object ?_ rfl rfl)
    ⟨_, rfl, Json.Tree.noConfusion, rfl⟩ (.inl (.inr rfl))
  exact List.all_eq_true.mp (Json.memberTrees_named _)

theorem error_beside_number_lost :
    ¬ ∀ (env : Environment Outside Unit) (s : Service) (call : Task Outside Address)
      (u v : Moment Unit)
      (es : List (Event Outside)) (r : Except Failure Address) (reply : Http.Reply) (bytes : Bytes)
      (members : List (Json.Literal × Json.Tree)) (why : String),
      s.Calls (fieldOf? "address" Json.address?) call → Leads env call.run u es r v →
        Replied reply es →
        reply.body = .ok bytes → Json.read? (Text.unmarked bytes) = some (.object members) →
          Json.single? "error" members = some (some (.string (some why))) →
            r = .error (.signing (.rejected why)) := by
  intro counts
  have course := Program.leads_run (answering 200 (refusing (.integer 5))) askAddress.run ⟨0, ()⟩
  have replied := get_answering_replied askAddress_requestable course
  have text : Json.read? (Text.unmarked (Bytes.ofText (refusing (.integer 5)).render)) = _ :=
    read?_unmarked_render (by simp [refusing, Json.Whole, Json.WholeMembers])
  have rejected := counts _ _ _ _ _ _ _ _ _ _ "refused" (.get _) course replied rfl text rfl
  have unread :
    answerIn? (fieldOf? "address" Json.address?) (Bytes.ofText (refusing (.integer 5)).render) =
    none := by
    rw [answerIn?, text]
    rfl
  have malformed := (Service.Calls.get _).replied course replied
  rw [unpack_unread rfl unread] at malformed
  cases rejected.symm.trans malformed

end Remote

end Dispatch
