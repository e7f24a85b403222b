import Dispatch.Proofs.HexDigits
import Dispatch.Proofs.Utf8
import Dispatch.Wallet.Ledger
import Mathlib.Data.List.Basic

/-!
# Answers that name an account

A device names an account by its key and by the digits of its address, each behind a byte that
counts it. Which answers are read so, and for what each of the others is refused: the two counts
come from the device, and no place is looked at that the answer does not have.
-/

set_option autoImplicit false

namespace Dispatch

namespace Hex

/-! ## Digits in bytes -/

theorem length_encoded_digit {c : Char} {n : Nat} (h : digitValue? c = some n) :
    (String.utf8EncodeChar c).length = 1 := by
  have range := (digit_cases h).2
  rw [Text.utf8EncodeChar_eq, if_pos (by omega)]
  rfl

theorem Writes.length_encoded {text : List Char} {b : Bytes} (h : Writes text b) :
    (text.flatMap String.utf8EncodeChar).length = 2 * b.length := by
  induction b generalizing text with
  | nil =>
    rw [List.map_eq_nil_iff.mp h]
    rfl
  | cons d rest ih =>
    obtain ⟨hi, tail, rfl, -, -⟩ := List.map_eq_cons_iff.mp h
    cases tail with
    | nil => exact absurd h not_writes_singleton
    | cons lo text =>
      obtain ⟨_, _, same, high, low, written⟩ := writes_cons_cons_iff.mp h
      cases same
      simp only [List.flatMap_cons, List.length_append, length_encoded_digit high,
        length_encoded_digit low, ih written,
        List.length_cons]
      omega

theorem Writes.length_ofText {text : String} {b : Bytes} (h : Writes text.toList b) :
    (Bytes.ofText text).length = 2 * b.length := by
  rw [Bytes.ofText_eq_flatMap, h.length_encoded]

end Hex

namespace Ledger

/-! ## The two parts -/

/-- The two parts of an answer, each behind a byte that counts it, and perhaps more bytes. -/
def Parts (answer point digits : Bytes) : Prop :=
  ∃ n m rest, point.length = n.toNat ∧ digits.length = m.toNat ∧
    answer = n :: (point ++ m :: (digits ++ rest))

def Denotes (digits : Bytes) (account : Address) : Prop :=
  ∃ text, digits = Bytes.ofText text ∧ Hex.Writes text.toList account.toList

/-- An answer names an account by the mark of an uncompressed point, the key and the digits. -/
def Names (answer : Bytes) (account : Address) (key : PublicKey) : Prop :=
  ∃ n digits rest, digits.length = n.toNat ∧ Denotes digits account ∧
    answer = 0x41 :: 0x04 :: (key.toList ++ n :: (digits ++ rest))

def naming (account : Address) (key : PublicKey) (chosen : Nat → Bool) : Bytes :=
  0x41 :: 0x04 ::
    (key.toList ++ 0x28 :: Bytes.ofText (String.ofList (Hex.capitals chosen account.toList)))

inductive NamesNone (answer : Bytes) : Malformation → Prop
  | short : (∀ point digits, ¬ Parts answer point digits) → NamesNone answer .shortAddressResponse
  | point {point digits : Bytes} : Parts answer point digits →
      (∀ key : PublicKey, point ≠ 0x04 :: key.toList) →
      NamesNone answer (.publicKeyLength point.length)
  | text {key : PublicKey} {digits : Bytes} : Parts answer (0x04 :: key.toList) digits →
      (∀ text, digits ≠ Bytes.ofText text) → NamesNone answer (.addressText "not text")
  | digits {key : PublicKey} {text : String} :
      Parts answer (0x04 :: key.toList) (Bytes.ofText text) →
      (∀ account : Address, ¬ Hex.Writes text.toList account.toList) →
      NamesNone answer (.address text.toList "not an address")

section
variable {answer point digits part rest b : Bytes} {account : Address} {key : PublicKey}
  {fault : Malformation}

theorem counted?_eq_some_iff : counted? b = some (part, rest) ↔ ∃ n, part.length = n.toNat ∧
    b = n :: (part ++ rest) := by
  constructor
  · intro h
    unfold counted? at h
    split at h
    · cases h
    next n body =>
      split_ifs at h with short
      cases h
      refine ⟨n, ?_, ?_⟩
      · rw [List.length_take]
        omega
      · rw [List.take_append_drop]
  · rintro ⟨n, size, rfl⟩
    have long : ¬ (part ++ rest).length < n.toNat := by
      rw [List.length_append]
      omega
    rw [counted?, if_neg long, List.take_left' size, List.drop_left' size]

theorem splitAddressResponse?_eq_some_iff :
    splitAddressResponse? answer = some (point, digits) ↔ Parts answer point digits := by
  simp only [splitAddressResponse?, Option.bind_eq_bind, Option.bind_eq_some_iff, Prod.exists,
    counted?_eq_some_iff,
    Option.some.injEq, Prod.mk.injEq]
  constructor
  · rintro ⟨_, body, ⟨n, size, rfl⟩, _, rest, ⟨m, size', rfl⟩, rfl, rfl⟩
    exact ⟨n, m, rest, size, size', rfl⟩
  · rintro ⟨n, m, rest, size, size', rfl⟩
    exact ⟨point, _, ⟨n, size, rfl⟩, digits, rest, ⟨m, size', rfl⟩, rfl, rfl⟩

theorem names_iff_parts :
    Names answer account key ↔ ∃ digits, Parts answer (0x04 :: key.toList) digits ∧
      Denotes digits account := by
  have size : (0x04 :: key.toList).length = (0x41 : UInt8).toNat := by
    rw [List.length_cons, key.length_eq]
    rfl
  constructor
  · rintro ⟨n, digits, rest, counted, denoted, rfl⟩
    exact ⟨digits, ⟨0x41, n, rest, size, counted, rfl⟩, denoted⟩
  · rintro ⟨digits, ⟨n, m, rest, counted, counted', rfl⟩, denoted⟩
    cases UInt8.toNat_inj.mp (size.symm.trans counted)
    exact ⟨m, digits, rest, counted', denoted, rfl⟩

theorem names_of_writes {text : String} (h : Hex.Writes text.toList account.toList)
    (key : PublicKey) (rest : Bytes) :
    Names (0x41 :: 0x04 :: (key.toList ++ 0x28 :: (Bytes.ofText text ++ rest))) account key := by
  refine ⟨0x28, Bytes.ofText text, rest, ?_, ⟨text, rfl, h⟩, rfl⟩
  rw [h.length_ofText, account.length_eq]
  rfl

/-! ## Reading each part -/

theorem readPoint_marked (key : PublicKey) : readPoint (0x04 :: key.toList) = .ok key := by
  simp only [readPoint, FixedBytes.ofBytes?_toList]

theorem readPoint_unmarked (h : ∀ key : PublicKey, point ≠ 0x04 :: key.toList) :
    readPoint point = .error (.publicKeyLength point.length) := by
  unfold readPoint
  split
  next body =>
    split
    next key found =>
      exact absurd (congrArg (List.cons 0x04) (FixedBytes.ofBytes?_eq_some_iff.mp found).symm)
        (h key)
    · rfl
  · rfl

theorem readAddress_writes {text : String} (h : Hex.Writes text.toList account.toList) :
    readAddress (Bytes.ofText text) = .ok account := by
  simp only [readAddress, Bytes.toText?_ofText, Hex.readBare?_eq_some_iff.mpr h, Option.bind_some,
    FixedBytes.ofBytes?_toList]

theorem readAddress_writes_none {text : String}
    (h : ∀ account : Address, ¬ Hex.Writes text.toList account.toList) :
    readAddress (Bytes.ofText text) = .error (.address text.toList "not an address") := by
  have unread : (Hex.readBare? text.toList).bind FixedBytes.ofBytes? = (none : Option Address) := by
    refine Option.eq_none_iff_forall_ne_some.mpr fun account read => ?_
    obtain ⟨b, digits, size⟩ := Option.bind_eq_some_iff.mp read
    cases FixedBytes.ofBytes?_eq_some_iff.mp size
    exact h account (Hex.readBare?_eq_some_iff.mp digits)
  simp only [readAddress, Bytes.toText?_ofText, unread]

theorem readAddress_broken (h : ∀ text, digits ≠ Bytes.ofText text) :
    readAddress digits = .error (.addressText "not text") := by
  have unread : digits.toText? = none :=
    Option.eq_none_iff_forall_ne_some.mpr fun text read =>
      h text (Bytes.toText?_eq_some_iff.mp read)
  simp only [readAddress, unread]

/-! ## Reading the whole answer -/

theorem readAddressResponse_parts (h : Parts answer point digits) :
    readAddressResponse answer = do
      let key ← readPoint point
      let address ← readAddress digits
      return (address, key) := by
  rw [readAddressResponse, splitAddressResponse?_eq_some_iff.mpr h]

theorem readAddressResponse_short (h : ∀ point digits, ¬ Parts answer point digits) :
    readAddressResponse answer = .error .shortAddressResponse := by
  have split : splitAddressResponse? answer = none := by
    refine Option.eq_none_iff_forall_ne_some.mpr fun (point, digits) parts => ?_
    exact h point digits (splitAddressResponse?_eq_some_iff.mp parts)
  rw [readAddressResponse, split]
  rfl

theorem readAddressResponse_names (h : Names answer account key) :
    readAddressResponse answer = .ok (account, key) := by
  obtain ⟨_, parts, text, rfl, written⟩ := names_iff_parts.mp h
  rw [readAddressResponse_parts parts, readPoint_marked, readAddress_writes written]
  rfl

theorem readAddressResponse_namesNone (h : NamesNone answer fault) :
    readAddressResponse answer = .error fault := by
  cases h with
  | short none => exact readAddressResponse_short none
  | point parts unmarked =>
    rw [readAddressResponse_parts parts, readPoint_unmarked unmarked]
    rfl
  | text parts broken =>
    rw [readAddressResponse_parts parts, readPoint_marked, readAddress_broken broken]
    rfl
  | digits parts unwritten =>
    rw [readAddressResponse_parts parts, readPoint_marked, readAddress_writes_none unwritten]
    rfl

theorem names_or_namesNone (answer : Bytes) :
    (∃ account key, Names answer account key) ∨ ∃ fault, NamesNone answer fault := by
  by_cases short : ∀ point digits, ¬ Parts answer point digits
  · exact .inr ⟨_, .short short⟩
  push Not at short
  obtain ⟨point, digits, parts⟩ := short
  by_cases unmarked : ∀ key : PublicKey, point ≠ 0x04 :: key.toList
  · exact .inr ⟨_, .point parts unmarked⟩
  push Not at unmarked
  obtain ⟨key, rfl⟩ := unmarked
  by_cases broken : ∀ text, digits ≠ Bytes.ofText text
  · exact .inr ⟨_, .text parts broken⟩
  push Not at broken
  obtain ⟨text, rfl⟩ := broken
  by_cases unwritten : ∀ account : Address, ¬ Hex.Writes text.toList account.toList
  · exact .inr ⟨_, .digits parts unwritten⟩
  push Not at unwritten
  obtain ⟨account, written⟩ := unwritten
  exact .inl ⟨account, key, names_iff_parts.mpr ⟨_, parts, text, rfl, written⟩⟩

theorem readAddressResponse_ok_iff : readAddressResponse answer = .ok (account, key) ↔
    Names answer account key := by
  refine ⟨fun read => ?_, readAddressResponse_names⟩
  rcases names_or_namesNone answer with ⟨account', key', named⟩ | ⟨fault, none⟩
  · cases read.symm.trans (readAddressResponse_names named)
    exact named
  · cases read.symm.trans (readAddressResponse_namesNone none)

theorem readAddressResponse_error_iff : readAddressResponse answer = .error fault ↔
    NamesNone answer fault := by
  refine ⟨fun read => ?_, readAddressResponse_namesNone⟩
  rcases names_or_namesNone answer with ⟨account, key, named⟩ | ⟨fault', none⟩
  · cases read.symm.trans (readAddressResponse_names named)
  · cases read.symm.trans (readAddressResponse_namesNone none)
    exact none

theorem readAddressResponse_naming (account : Address) (key : PublicKey) (chosen : Nat → Bool)
    (rest : Bytes) :
    readAddressResponse (naming account key chosen ++ rest) = .ok (account, key) := by
  have written := Hex.writes_capitals chosen account.toList
  rw [← String.toList_ofList (l := Hex.capitals chosen account.toList)] at written
  have named := names_of_writes written key rest
  simp only [naming, List.cons_append, List.append_assoc]
  exact readAddressResponse_names named

/-!
## Reading by places

The reading takes one part after another off the front of the answer. The same is got by looking at
places of the whole answer, as many from the front as the counts say, where an access to a place
that is not there has no outcome at all.
-/

def window? (b : Bytes) (start stop : Nat) : Option Bytes :=
  if start ≤ stop ∧ stop ≤ b.length then some (b.extract start stop) else none

/-- The bytes behind a place that the byte at the place counts. Each access comes after a look at
the length of the answer. -/
def countedAt (answer : Bytes) (place : Nat) : ExceptT Malformation Option Bytes := do
  if answer.length ≤ place then throw .shortAddressResponse
  let n ← ExceptT.lift answer[place]?
  if answer.length < place + 1 + n.toNat then throw .shortAddressResponse
  ExceptT.lift (window? answer (place + 1) (place + 1 + n.toNat))

def readByPlaces (answer : Bytes) : ExceptT Malformation Option (Address × PublicKey) := do
  let point ← countedAt answer 0
  let digits ← countedAt answer (1 + point.length)
  let key ← liftExcept (readPoint point)
  let address ← liftExcept (readAddress digits)
  return (address, key)

theorem countedAt_drop (answer : Bytes) (place : Nat) :
    (countedAt answer place).run = some (match counted? (answer.drop place) with
      | none => .error .shortAddressResponse
      | some (part, _) => .ok part) := by
  cases behind : answer.drop place with
  | nil =>
    have outside : answer.length ≤ place := List.drop_eq_nil_iff.mp behind
    simp [countedAt, outside, counted?]
  | cons n body =>
    have inside : ¬ answer.length ≤ place := fun outside => by
      rw [List.drop_of_length_le outside] at behind
      cases behind
    have here : answer[place]? = some n := by rw [← List.head?_drop, behind, List.head?_cons]
    have after : answer.drop (place + 1) = body := by rw [← List.tail_drop, behind, List.tail_cons]
    have size : body.length = answer.length - (place + 1) := by rw [← after, List.length_drop]
    by_cases short : body.length < n.toNat
    · have cut : answer.length < place + 1 + n.toNat := by omega
      simp [countedAt, inside, here, counted?, short, cut]
    · have whole : ¬ answer.length < place + 1 + n.toNat := by omega
      have counted : window? answer (place + 1) (place + 1 + n.toNat) =
        some (body.take n.toNat) := by
        rw [window?, if_pos (by omega), List.extract_eq_take_drop, after, Nat.add_sub_cancel_left]
      simp [countedAt, inside, here, counted?, short, whole, counted]

theorem run_bind_ok {α β : Type} {x : ExceptT Malformation Option α} {a : α}
    (h : x.run = some (.ok a))
    (f : α → ExceptT Malformation Option β) : (x >>= f).run = (f a).run := by
  rw [ExceptT.run_bind, h]
  rfl

theorem run_bind_error {α β : Type} {x : ExceptT Malformation Option α}
    (h : x.run = some (.error fault))
    (f : α → ExceptT Malformation Option β) : (x >>= f).run = some (.error fault) := by
  rw [ExceptT.run_bind, h]
  rfl

/-- Read by its places, an answer always has an outcome, and the same one: no access is to a place
that is not there. -/
theorem run_readByPlaces (answer : Bytes) :
    (readByPlaces answer).run = some (readAddressResponse answer) := by
  have atFront := countedAt_drop answer 0
  rw [List.drop_zero] at atFront
  cases first : counted? answer with
  | none =>
    rw [first] at atFront
    rw [readByPlaces, run_bind_error atFront, readAddressResponse, splitAddressResponse?, first]
    rfl
  | some parts =>
    obtain ⟨point, rest⟩ := parts
    rw [first] at atFront
    rw [readByPlaces, run_bind_ok atFront]
    obtain ⟨n, size, rfl⟩ := counted?_eq_some_iff.mp first
    have behind := countedAt_drop (n :: (point ++ rest)) (1 + point.length)
    rw [Nat.add_comm, List.drop_succ_cons, List.drop_left, Nat.add_comm] at behind
    cases second : counted? rest with
    | none =>
      rw [second] at behind
      rw [run_bind_error behind, readAddressResponse, splitAddressResponse?, first]
      simp only [Option.bind_eq_bind, Option.bind_some, second]
      rfl
    | some parts' =>
      obtain ⟨digits, tail⟩ := parts'
      rw [second] at behind
      obtain ⟨m, size', rfl⟩ := counted?_eq_some_iff.mp second
      rw [run_bind_ok behind, readAddressResponse_parts ⟨n, m, tail, size, size', rfl⟩]
      cases readPoint point <;> cases readAddress digits <;> rfl

end

end Ledger

open Ledger in
/-- An answer to the address command is read just when it names an account: 65 bytes for the mark
and the key, and the 40 digits of the address in letters of either case, each part behind its count,
whatever follows. Every other answer is malformed, and it is told why. No answer, whatever its
counts are, leads to an access outside of it. -/
theorem address_answers_are_read (answer : Bytes) :
    (∀ account key, readAddressResponse answer = .ok (account, key) ↔ Names answer account key) ∧
    (∀ fault, readAddressResponse answer = .error fault ↔ NamesNone answer fault) ∧
    (∀ account key chosen rest, readAddressResponse (naming account key chosen ++ rest) = .ok
      (account, key)) ∧
    (readByPlaces answer).run = some (readAddressResponse answer) :=
  ⟨fun _ _ => readAddressResponse_ok_iff, fun _ => readAddressResponse_error_iff,
    readAddressResponse_naming,
    run_readByPlaces answer⟩

end Dispatch
