import Dispatch.Proofs.ServiceAnswers
import Dispatch.Queue.Completion

/-!
# Completions in text

A completion is read back from its text, whatever its texts are. How a completion ends is told by
the fields of the text it was read from: an error wins over a hash, and without either the
transaction failed.
-/

set_option autoImplicit false

namespace Dispatch

namespace Json

theorem text?_eq_some_iff {t : Tree} {s : String} : text? t = some s ↔ t = .string (some s) := by
  constructor
  · intro h
    cases t with
    | string l =>
      cases h
      rfl
    | _ => cases h
  · rintro rfl
    rfl

theorem optional?_of_read {α : Type} {read : Tree → Option α} {t : Tree} {a : α}
    (null : read .null = none)
    (value : read t = some a) : optional? read (some t) = some (some a) := by
  cases t with
  | null =>
    rw [null] at value
    cases value
  | _ => simp [optional?, value]

end Json

namespace Queue

namespace GivenUp

theorem ofTag?_eq_some_iff {kind text : String} {e : GivenUp} :
    ofTag? kind text = some e ↔ e.tag = kind ∧ e.text = text := by
  constructor
  · intro h
    unfold ofTag? at h
    split at h
    next same => cases h; exact ⟨same.symm, rfl⟩
    split at h
    next same => cases h; exact ⟨same.symm, rfl⟩
    split at h
    next same => cases h; exact ⟨same.symm, rfl⟩
    cases h
  · rintro ⟨rfl, rfl⟩
    cases e <;> simp [ofTag?, tag, GivenUp.text]

def Written (kind text : String) (t : Json.Tree) : Prop :=
  ∃ k, Json.fields? ["type", "message"] t = some [some k, some (.string (some text))] ∧
    tag? k = some kind

theorem ofTree?_eq_some_iff {t : Json.Tree} {e : GivenUp} : ofTree? t = some e ↔
    Written e.tag e.text t := by
  constructor
  · intro h
    unfold ofTree? at h
    obtain ⟨fields, found, h⟩ := Option.bind_eq_some_iff.mp h
    split at h
    next k m =>
      obtain ⟨kind, tagged, h⟩ := Option.bind_eq_some_iff.mp h
      obtain ⟨text, message, h⟩ := Option.bind_eq_some_iff.mp h
      obtain ⟨rfl, rfl⟩ := ofTag?_eq_some_iff.mp h
      rw [Json.text?_eq_some_iff.mp message] at found
      exact ⟨k, found, tagged⟩
    next => cases h
  · rintro ⟨k, found, tagged⟩
    have kept : ofTag? e.tag e.text = some e := ofTag?_eq_some_iff.mpr ⟨rfl, rfl⟩
    simp [ofTree?, found, tagged, Json.text?, kept]

theorem written_toJson (e : GivenUp) : Written e.tag e.text e.toJson.toTree :=
  ⟨.string (some e.tag), by rw [toJson, Json.fields?_object (by simp)]; rfl, rfl⟩

end GivenUp

namespace Completion
open Json (required? optional?)
open Remote (Absent)

/-! ## Reading back -/

theorem whole_toJson (c : Completion) : Json.Whole c.toJson := by
  cases hash : c.hash <;> cases error : c.error <;>
    simp [toJson, hash, error, GivenUp.toJson, Json.Whole, Json.WholeMembers]

def fieldNames : List String := ["id", "status", "tx_hash", "error"]

theorem ofTree?_eq_some_iff {t : Json.Tree} {c : Completion} :
    ofTree? t = some c ↔ ∃ hash error,
      Json.fields? fieldNames t = some [some (.string (some c.id)), some (.string (some c.status)),
        hash, error] ∧
        optional? Json.hash? hash = some c.hash ∧
          optional? GivenUp.ofTree? error = some c.error := by
  constructor
  · intro h
    unfold ofTree? at h
    obtain ⟨fields, found, h⟩ := Option.bind_eq_some_iff.mp h
    split at h
    next i s hash error =>
      obtain ⟨id, named, h⟩ := Option.bind_eq_some_iff.mp h
      obtain ⟨status, stated, h⟩ := Option.bind_eq_some_iff.mp h
      obtain ⟨mined, hashed, h⟩ := Option.bind_eq_some_iff.mp h
      obtain ⟨failed, failing, h⟩ := Option.bind_eq_some_iff.mp h
      cases h
      obtain ⟨ti, rfl, read_id⟩ := Option.bind_eq_some_iff.mp named
      obtain ⟨ts, rfl, read_status⟩ := Option.bind_eq_some_iff.mp stated
      rw [Json.text?_eq_some_iff.mp read_id, Json.text?_eq_some_iff.mp read_status] at found
      exact ⟨hash, error, found, hashed, failing⟩
    next => cases h
  · rintro ⟨hash, error, found, hashed, failing⟩
    rw [fieldNames] at found
    simp [ofTree?, found, required?, Json.text?, hashed, failing]

theorem ofTree?_toTree (c : Completion) : ofTree? c.toJson.toTree = some c := by
  obtain ⟨id, status, hash, error⟩ := c
  apply ofTree?_eq_some_iff.mpr
  refine ⟨_, _, Json.fields?_object (by simp) fieldNames, ?_, ?_⟩
  · cases hash with
    | none => rfl
    | some h => exact congrArg (Option.map some) (Json.fixed?_marked h)
  · cases error with
    | none => rfl
    | some e => exact congrArg (Option.map some) (GivenUp.ofTree?_eq_some_iff.mpr e.written_toJson)

theorem read?_render (c : Completion) : read? c.toJson.render.toList = some c := by
  rw [read?, Json.read?_render c.whole_toJson, Option.bind_some, ofTree?_toTree]

theorem read?_eq_some_iff {cs : List Char} {c : Completion} :
    read? cs = some c ↔ ∃ t, Json.read? cs = some t ∧ ofTree? t = some c := Option.bind_eq_some_iff

/-! ## How a completion ends -/

/-- How a completion ends whose text holds a hash and an error in these fields. -/
inductive Ends (id status : String) : Option Json.Tree → Option Json.Tree →
    Except QueueFailure Hash → Prop
  | notSent {hash : Option Json.Tree} {t : Json.Tree} {text : String}
      (error : GivenUp.Written "not-sent" text t) :
      Ends id status hash (some t) (.error (.notSent id text))
  | notFound {hash : Option Json.Tree} {t : Json.Tree} {text : String}
      (error : GivenUp.Written "not-found" text t) :
      Ends id status hash (some t) (.error (.notFound id text))
  | failed {hash : Option Json.Tree} {t : Json.Tree} {text : String}
      (error : GivenUp.Written "failed" text t) :
      Ends id status hash (some t) (.error (.failed id text))
  | mined {error : Option Json.Tree} {t : Json.Tree} {h : Hash} (faultless : Absent error)
      (hash : Json.hash? t = some h) : Ends id status (some t) error (.ok h)
  | hashless {hash error : Option Json.Tree} (faultless : Absent error) (unmined : Absent hash) :
      Ends id status hash error
        (.error (.failed id ("completed with status " ++ status ++ " but no hash")))

section
variable {c : Completion} {hash error : Option Json.Tree} {r : Except QueueFailure Hash}

theorem ends_result (hashed : optional? Json.hash? hash = some c.hash)
    (failing : optional? GivenUp.ofTree? error = some c.error) :
    Ends c.id c.status hash error c.result := by
  obtain ⟨id, status, mined, given⟩ := c
  cases given with
  | some e =>
    obtain ⟨t, rfl, read⟩ := Json.optional?_eq_some failing
    have written := GivenUp.ofTree?_eq_some_iff.mp read
    cases e with
    | notSent text => exact .notSent written
    | notFound text => exact .notFound written
    | failed text => exact .failed written
  | none =>
    have faultless := Json.optional?_eq_none failing
    cases mined with
    | some h =>
      obtain ⟨t, rfl, read⟩ := Json.optional?_eq_some hashed
      exact .mined faultless read
    | none => exact .hashless faultless (Json.optional?_eq_none hashed)

theorem error_of_written {t : Json.Tree} {e : GivenUp} (written : GivenUp.Written e.tag e.text t)
    (failing : optional? GivenUp.ofTree? (some t) = some c.error) : c.error = some e := by
  rw [Json.optional?_of_read rfl (GivenUp.ofTree?_eq_some_iff.mpr written)] at failing
  exact (Option.some.inj failing).symm

theorem ends_iff (hashed : optional? Json.hash? hash = some c.hash)
    (failing : optional? GivenUp.ofTree? error = some c.error) : Ends c.id c.status hash error r ↔
      c.result = r := by
  constructor
  · intro ends
    unfold result
    cases ends with
    | notSent written => rw [error_of_written (e := .notSent _) written failing]; rfl
    | notFound written => rw [error_of_written (e := .notFound _) written failing]; rfl
    | failed written => rw [error_of_written (e := .failed _) written failing]; rfl
    | @mined _ t h faultless read =>
      have none : c.error = none := by
        rw [Remote.optional?_none_iff.mpr faultless] at failing
        exact (Option.some.inj failing).symm
      have some : c.hash = some h := by
        rw [Json.optional?_of_read rfl read] at hashed
        exact (Option.some.inj hashed).symm
      rw [none, some]
    | hashless faultless unmined =>
      rw [Remote.optional?_none_iff.mpr faultless] at failing
      rw [Remote.optional?_none_iff.mpr unmined] at hashed
      rw [← Option.some.inj failing, ← Option.some.inj hashed]
  · rintro rfl
    exact ends_result hashed failing

end

/-- A completion is read back from its text. A text that is one carries its fields, and the hash and
the error in them tell how it ends. -/
theorem completions_are_told (c : Completion) {cs : List Char} {d : Completion}
    (told : read? cs = some d) :
    read? c.toJson.render.toList = some c ∧
    ∃ t hash error, Json.read? cs = some t ∧
      Json.fields? fieldNames t = some [some (.string (some d.id)), some (.string (some d.status)),
        hash, error] ∧
      ∀ r, Ends d.id d.status hash error r ↔ d.result = r := by
  obtain ⟨t, tree, read⟩ := read?_eq_some_iff.mp told
  obtain ⟨hash, error, fields, hashed, failing⟩ := ofTree?_eq_some_iff.mp read
  exact ⟨c.read?_render, t, hash, error, tree, fields, fun r => ends_iff hashed failing⟩

def droppedText : String :=
  "\x7b\"error\":\x7b\"message\":\"\\ud83d\\ude00 \\u0022\\n\"," ++
    "\"type\":\x7b\"not-found\":null\x7d\x7d, \"seen\":[1.5],\n" ++
    "\"tx_hash\":\"0x0000000000000000000000000000000000000000000000000000000000000000\"," ++
    "\"status\":\"\",\"id\":\"a\"\x7d"

def dropped : Completion := ⟨"a", "", some .zero, some (.notFound "😀 \"\n")⟩

theorem dropped_ends_in_error :
    read? droppedText.toList = some dropped ∧ read? dropped.toJson.render.toList = some dropped ∧
    ∃ t hash error, Json.read? droppedText.toList = some t ∧
      Json.fields? fieldNames t =
        some [some (.string (some "a")), some (.string (some "")), hash, error] ∧
      Ends "a" "" hash error (.error (.notFound "a" "😀 \"\n")) := by
  have told : read? droppedText.toList = some dropped := by decide +kernel
  obtain ⟨back, t, hash, error, tree, fields, ends⟩ := completions_are_told dropped told
  exact ⟨told, back, t, hash, error, tree, fields, (ends _).mpr rfl⟩

end Completion

end Queue

end Dispatch
