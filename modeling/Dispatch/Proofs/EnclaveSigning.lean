import Dispatch.Proofs.HexDigits
import Dispatch.Proofs.JsonMembers
import Dispatch.Proofs.JsonText
import Dispatch.Proofs.OutsideCourse
import Dispatch.Proofs.TextLines
import Dispatch.Proofs.Utf8
import Dispatch.Wallet.Enclave

/-!
# Signing in an enclave

An enclave that signs the digest it is sent, and answers with the scalars in hexadecimal digits,
gives the signature that it made, whatever else its answer says.
-/

set_option autoImplicit false

namespace Dispatch

/-! ## Scalars in text -/

theorem Hex.noBlank_of_digit {c : Char} {d : Nat} (h : Hex.digitValue? c = some d) :
    Text.isBlank c = false := by
  have range := (Hex.digit_cases h).2
  simp only [Text.isBlank, Bool.or_eq_false_iff, Bool.and_eq_false_iff, decide_eq_false_iff_not]
  omega

theorem Hex.Spells.noBlank {digits : List Char} {n : Nat} (h : Hex.Spells digits n) :
    ∀ c ∈ digits, Text.isBlank c = false := by
  intro c hc
  obtain ⟨d, hd⟩ := h.digits c hc
  exact Hex.noBlank_of_digit hd

theorem Hex.Spells.noBlank_marked {digits : List Char} {n : Nat} (h : Hex.Spells digits n) :
    ∀ c ∈ '0' :: 'x' :: digits, Text.isBlank c = false := by
  intro c hc
  rcases List.mem_cons.mp hc with rfl | hc
  · rfl
  rcases List.mem_cons.mp hc with rfl | hc
  · rfl
  · exact h.noBlank c hc

theorem PublicKey.read_marked (key : PublicKey) :
    PublicKey.read (Hex.marked key.toList).toList = .ok key := by
  have chars : (Hex.marked key.toList).toList = '0' :: 'x' :: key.toList.flatMap Hex.pair := by
    simp [Hex.marked, Hex.bare]
  have trimmed : Text.trim (Hex.marked key.toList).toList = (Hex.marked key.toList).toList := by
    rw [chars]
    exact Text.trim_of_noBlank (Hex.spells_pairs key.toList).noBlank_marked
  have plain : ¬ (key.toList.length = 65 ∧ key.toList.head? = some 4) := by
    rw [key.length_eq]
    omega
  simp only [PublicKey.read, trimmed, Hex.read?_marked, plain, if_false, FixedBytes.ofBytes?_toList]

namespace Enclave
open Program (Environment Event Moment)

/-- The text has the number's digits, with or without the marker. -/
def Writes (text : String) (n : Nat) : Prop :=
  ∃ digits, Hex.Spells digits n ∧ (text.toList = digits ∨ text.toList = '0' :: 'x' :: digits)

theorem readScalar_of_writes {text : String} {x : BitVec 256} (h : Writes text x.toNat) :
    readScalar text = .ok x := by
  obtain ⟨digits, spells, written⟩ := h
  have stripped : (Text.strip? ['0', 'x'] (Text.trim text.toList)).getD (Text.trim text.toList) =
    digits := by
    rcases written with bare | marked
    · rw [bare, Text.trim_of_noBlank spells.noBlank]
      -- Digits do not start with the marker, whose letter is none.
      cases digits with
      | nil => rfl
      | cons c cs =>
        by_cases zero : '0' = c
        · cases cs with
          | nil => simp [Text.strip?]
          | cons c' cs =>
            obtain ⟨d, hd⟩ := spells.digits c' (by simp)
            have letter : 'x' ≠ c' := (Hex.ne_of_digit hd (by decide)).symm
            simp [Text.strip?, letter]
        · simp [Text.strip?, zero]
    · rw [marked, Text.trim_of_noBlank spells.noBlank_marked]
      rfl
  rw [readScalar, stripped, spells.scalar?]

/-! ## Answers -/

def Scalar : Json → Prop
  | .null => True
  | .bool _ => True
  | .integer n => -0x8000000000000000 ≤ n ∧ n < 0x10000000000000000
  | .string _ => True
  | _ => False

/-- An answer that carries a signature: it has a result and no error, the result has only values
without parts, among them both scalars and the parity, plain or counted from 27. No name stands
twice. -/
structure Carries (signature : Signature) (members result : List (String × Json)) : Prop where
  whole : Json.WholeMembers members
  distinct : (members.map Prod.fst).Nodup
  hasResult : members.lookup "result" = some (.object result)
  hasNoError : members.lookup "error" = none ∨ members.lookup "error" = some .null
  scalars : ∀ m ∈ result, Scalar m.2
  distinctResult : (result.map Prod.fst).Nodup
  status : result.lookup "status" = some (.integer 0)
  errorMessage : result.lookup "errorMessage" = none ∨
    ∃ text, result.lookup "errorMessage" = some (.string text)
  v : ∃ n : Nat, result.lookup "signature_v" = some (.integer n) ∧
    (n = signature.odd.toNat ∨ n = 27 + signature.odd.toNat)
  r : ∃ text, result.lookup "signature_r" = some (.string text) ∧ Writes text signature.r.toNat
  s : ∃ text, result.lookup "signature_s" = some (.string text) ∧ Writes text signature.s.toNat

theorem ofTree?_scalar {v : Json} (h : Scalar v) (depth : Nat) :
    Json.ofTree? depth v.toTree = some v := by
  cases v with
  | null => rfl
  | bool b => rfl
  | integer n =>
    obtain ⟨low, high⟩ := h
    by_cases negative : n < 0
    · have range : 0 < n.natAbs ∧ n.natAbs ≤ 0x8000000000000000 := by omega
      have value : -(n.natAbs : Int) = n := by omega
      simp only [Json.toTree, Json.ofTree?, decide_eq_true negative, Json.ofNumeral?,
        if_pos range, value]
    · have range : n.natAbs < UInt64.size := by
        show n.natAbs < 0x10000000000000000
        omega
      have value : (n.natAbs : Int) = n := by omega
      simp only [Json.toTree, Json.ofTree?, decide_eq_false negative, Json.ofNumeral?,
        if_pos range, value]
  | float x => exact h.elim
  | string s => rfl
  | array items => exact h.elim
  | object members => exact h.elim

theorem ofMembers?_scalars {ms : List (String × Json)} (h : ∀ m ∈ ms, Scalar m.2) (depth : Nat) :
    Json.ofMembers? depth (Json.memberTrees ms) = some ms := by
  induction ms with
  | nil => rfl
  | cons m ms ih =>
    obtain ⟨name, v⟩ := m
    have first := ofTree?_scalar (h (name, v) List.mem_cons_self) depth
    have rest := ih fun m hm => h m (List.mem_cons_of_mem _ hm)
    simp only [Json.memberTrees, Json.ofMembers?, first, rest]

theorem inner?_object {ms : List (String × Json)} (h : ∀ m ∈ ms, Scalar m.2) :
    inner? (Json.toTree (.object ms)) = some (.object (Json.ordered ms)) := by
  rw [inner?, Json.toTree, Json.ofTree?, if_neg (by decide), ofMembers?_scalars h]
  rfl

section
variable {signature : Signature} {members result : List (String × Json)}

theorem Carries.answer? (h : Carries signature members result) :
    answer? (Json.toTree (.object members)) =
      some ⟨some (.object (Json.ordered result)), none⟩ := by
  have given : Json.optional? inner? ((members.lookup "result").map Json.toTree) =
      some (some (.object (Json.ordered result))) := by
    rw [h.hasResult]
    show (inner? (Json.toTree (.object result))).map some = _
    rw [inner?_object h.scalars]
    rfl
  have clean : Json.optional? inner? ((members.lookup "error").map Json.toTree) = some none := by
    rcases h.hasNoError with absent | null
    · rw [absent]
      rfl
    · rw [null]
      rfl
  unfold Enclave.answer?
  rw [Json.fields?_object h.distinct]
  show (Json.optional? inner? ((members.lookup "result").map Json.toTree)).bind (fun result =>
    (Json.optional? inner? ((members.lookup "error").map Json.toTree)).bind fun error =>
      some (⟨result, error⟩ : Answer)) = _
  rw [given, clean]
  rfl

theorem Carries.fields (h : Carries signature members result) (names : List String) :
    Json.fields? names (Json.toTree (.object (Json.ordered result))) =
      some (names.map fun name => (result.lookup name).map Json.toTree) := by
  rw [Json.fields?_object (Json.sorted_ordered result).nodup]
  simp only [Json.lookup_ordered h.distinctResult]

theorem Carries.status? (h : Carries signature members result) :
    ∃ text, status? (Json.toTree (.object (Json.ordered result))) = some (0, text) := by
  have text : ∃ text, Json.defaulted? "" Json.text?
    ((result.lookup "errorMessage").map Json.toTree) = some text := by
    rcases h.errorMessage with absent | ⟨text, given⟩
    · exact ⟨"", by rw [absent]; rfl⟩
    · exact ⟨text, by rw [given]; rfl⟩
  obtain ⟨text, read⟩ := text
  refine ⟨text, ?_⟩
  unfold Enclave.status?
  rw [h.fields]
  show (Json.required? Json.signed64? ((result.lookup "status").map Json.toTree)).bind (fun code =>
    (Json.defaulted? "" Json.text? ((result.lookup "errorMessage").map Json.toTree)).bind
      fun text =>
      some (code, text)) = _
  rw [h.status, read]
  rfl

theorem readParity_of_carried {odd : Bool} {n : Nat} (h : n = odd.toNat ∨ n = 27 + odd.toNat) :
    readParity (UInt8.ofNat n) = .ok odd := by
  cases odd <;> rcases h with rfl | rfl <;> rfl

theorem Carries.rawSignature? (h : Carries signature members result) :
    ∃ raw, rawSignature? (Json.toTree (.object (Json.ordered result))) = some raw ∧
      readSignature raw = .ok signature := by
  obtain ⟨n, hv, number⟩ := h.v
  obtain ⟨r, hr, writesR⟩ := h.r
  obtain ⟨s, hs, writesS⟩ := h.s
  have small : n < 256 := by
    have := Bool.toNat_le signature.odd
    omega
  refine ⟨⟨UInt8.ofNat n, r, s⟩, ?_, ?_⟩
  · unfold Enclave.rawSignature?
    rw [h.fields]
    show ((Json.required? (fun t => (Json.natBelow? 256 t).map UInt8.ofNat)
      ((result.lookup "signature_v").map Json.toTree)).bind fun v =>
        (Json.required? Json.text? ((result.lookup "signature_r").map Json.toTree)).bind fun r =>
          (Json.required? Json.text? ((result.lookup "signature_s").map Json.toTree)).bind fun s =>
            some (⟨v, r, s⟩ : RawSignature)) = _
    rw [hv, hr, hs]
    show ((Json.natBelow? 256 (Json.toTree (.integer n))).map UInt8.ofNat).bind _ = _
    rw [Json.natBelow?_toTree small]
    rfl
  · rw [readSignature, readScalar_of_writes writesR, readScalar_of_writes writesS,
      readParity_of_carried number]
    rfl

theorem Carries.unpack_result {α : Type} (h : Carries signature members result) (method : String)
    {read : Json.Tree → Option α} {a : α}
    (given : read (Json.toTree (.object (Json.ordered result))) = some a) :
    unpack method read (Bytes.ofText (Json.object members).render) = .ok a := by
  obtain ⟨text, status⟩ := h.status?
  have tree := Json.readBytes?_render (v := .object members) h.whole
  unfold Enclave.unpack
  rw [tree, Option.bind_some, h.answer?]
  simp only [status, given, ne_eq, not_true, if_false]

theorem Carries.unpack (h : Carries signature members result) (method : String) :
    ∃ raw, unpack method Enclave.rawSignature? (Bytes.ofText (Json.object members).render) =
      .ok raw ∧
      readSignature raw = .ok signature := by
  obtain ⟨raw, read, signed⟩ := h.rawSignature?
  exact ⟨raw, h.unpack_result method read, signed⟩

end

/-! ## The request for a signature -/

def Server.request (server : Server) (id : Counter) (method : String)
    (params : List (String × Json)) :
    Http.Request :=
  { method := .post, url := server.url, headers := [("Content-Type", "application/json")]
    body := Bytes.ofText (requestBody id method params).render, identity := server.identity }

def signRequest (w : EnclaveWallet) (id : Counter) (digest : Hash) : Http.Request :=
  w.server.request id "ecdsaSignMessageHash"
    [("base", .integer 16), ("keyName", .string w.keyName),
      ("messageHash", .string (Hex.bare digest.toList))]

section
variable {σ : Type} {env : Environment Outside σ}

theorem Server.call_answered {α : Type} {server : Server}
    (reachable : Url.isRequestable server.url = true) (method : String)
    (params : List (String × Json)) (read : Json.Tree → Option α) {n : Counter}
    {u : Moment σ} {status : Nat} {body : Bytes}
    (answered : (env (.http (server.request n method params)) u.time u.state).answer = .ok
      ⟨status, .ok body⟩) :
    Action.Leads env (server.call method params read) n u
      [.asked u.time (OutsideQuestion.http (server.request n method params))
        (.ok ⟨status, .ok body⟩)]
      (ofSigner (Enclave.unpack method read body)) (n + 1)
      (u.after env (OutsideQuestion.http (server.request n method params))) := by
  have number : Action.Leads env (modifyGet fun n => (n, n + 1) : Action Counter Counter) n u []
    (.ok n) (n + 1) u :=
    Program.leads_done.mpr ⟨rfl, rfl, rfl⟩
  have asked : Program.Leads env (Outside.http (server.request n method params)).run u
      [.asked u.time (OutsideQuestion.http (server.request n method params))
        (.ok ⟨status, .ok body⟩)]
      (.ok ⟨status, .ok body⟩)
        (u.after env (OutsideQuestion.http (server.request n method params))) := by
    rw [Outside.http,
      if_pos (show Url.isRequestable (server.request n method params).url = true from reachable)]
    rw [← answered]
    exact Program.leads_ask_done.mpr ⟨rfl, rfl, rfl⟩
  unfold Server.call
  exact number.bind
    ((Action.leads_ofProgram.mpr ⟨_, asked, rfl, rfl⟩).bind
    (Action.leads_result.mpr ⟨rfl, rfl, rfl, rfl⟩))

/-- The enclave signs each digest that it is asked to sign by the function. -/
structure Signs (env : Environment Outside σ) (w : EnclaveWallet) (f : Hash → Signature) :
    Prop where
  reachable : Url.isRequestable w.server.url = true
  answers : ∀ id digest t s, ∃ status members result,
    (env (OutsideQuestion.http (signRequest w id digest)) t s).answer =
      .ok ⟨status, .ok (Bytes.ofText (Json.object members).render)⟩ ∧
        Carries (f digest) members result

/-- A wallet in such an enclave signs as the enclave does. -/
theorem Signs.sign {w : EnclaveWallet} {f : Hash → Signature} (h : Signs env w f) {tx : Draft}
    (sender : tx.sender = w.address)
    (recovers : (f tx.signingHash).recover? tx.signingHash = some w.address) (n : Counter)
    (u : Moment σ) :
    ∃ es v, Action.Leads env (w.sign tx) n u es (.ok (tx.signed (f tx.signingHash))) (n + 1) v := by
  obtain ⟨status, members, result, answered, carries⟩ := h.answers n tx.signingHash u.time u.state
  obtain ⟨raw, unpacked, read⟩ := carries.unpack "ecdsaSignMessageHash"
  have called := Server.call_answered h.reachable "ecdsaSignMessageHash" _ rawSignature? answered
  rw [unpacked] at called
  have own : Backend.ensureSender w.address tx = .ok () := if_pos sender
  have checked : checkSignature w.address tx.signingHash (f tx.signingHash) =
    .ok (f tx.signingHash) := by
    simp only [checkSignature, recovers, ne_eq, not_true, if_false]
  have signed :
    ∃ es v, Action.Leads env (w.signDigest tx.signingHash) n u es (.ok (f tx.signingHash))
    (n + 1) v := by
    apply Exists.intro
    apply Exists.intro
    apply called.bind
    rw [read]
    exact Action.leads_result.mpr ⟨rfl, by rw [checked]; rfl, rfl, rfl⟩
  obtain ⟨es, v, signed⟩ := signed
  refine ⟨es ++ [], v, ?_⟩
  unfold EnclaveWallet.sign
  rw [own]
  exact signed.bind (Action.leads_pure.mpr ⟨rfl, rfl, rfl, rfl⟩)

end

end Enclave

end Dispatch
