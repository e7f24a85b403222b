import Dispatch.Pem.Key
import Dispatch.Proofs.KeyTexts

/-!
# Keys without marker lines

A body that comes without its marker lines is put between them, on one line. The strict form has at
most 64 characters in a line, so the body is read if it has no more of them, and then as the same
key.
-/

set_option autoImplicit false

namespace Dispatch

namespace Base64

def Used (c : Char) : Prop := (digitValue? c).isSome = true ∨ c = '='

theorem used_range {c : Char} (h : Used c) :
    65 ≤ c.toNat ∧ c.toNat ≤ 90 ∨ 97 ≤ c.toNat ∧ c.toNat ≤ 122 ∨ 48 ≤ c.toNat ∧ c.toNat ≤ 57 ∨
      c.toNat = 43 ∨ c.toNat = 47 ∨ c.toNat = 61 := by
  rcases h with h | rfl
  · unfold digitValue? at h
    split at h
    next range => exact .inl range
    split at h
    next range => exact .inr (.inl range)
    split at h
    next range => exact .inr (.inr (.inl range))
    split at h
    next same => exact .inr (.inr (.inr (.inl (same ▸ rfl))))
    split at h
    next same => exact .inr (.inr (.inr (.inr (.inl (same ▸ rfl)))))
    next => cases h
  · decide

theorem used_of_decode? {cs : List Char} {b : Bytes} (h : decode? cs = some b) :
    ∀ c ∈ cs, Used c := by
  fun_induction decode? cs generalizing b with
  | case1 => exact fun _ none => absurd none List.not_mem_nil
  | case2 x y d rest _ _ second first filled =>
    obtain ⟨rfl, rfl, -⟩ := filled
    simp [Used, first, second]
  | case5 x y z rest _ _ second first _ _ third filled =>
    obtain ⟨rfl, -⟩ := filled
    simp [Used, first, second, third]
  | case8 x y z w rest _ _ second first _ _ third _ _ fourth ih =>
    obtain ⟨later, decoded, -⟩ := Option.map_eq_some_iff.mp h
    have others := ih decoded
    simpa [Used, first, second, third, fourth] using others
  | _ => cases h

theorem Used.noBlank {c : Char} (h : Used c) : Text.isBlank c = false := by
  have range := used_range h
  simp only [Text.isBlank, Bool.or_eq_false_iff, Bool.and_eq_false_iff, decide_eq_false_iff_not]
  omega

theorem Used.ne {c : Char} (h : Used c) : c ≠ '\\' ∧ c ≠ '-' ∧ c ≠ '\n' ∧ c ≠ '\r' := by
  have range := used_range h
  refine ⟨?_, ?_, ?_, ?_⟩ <;> rintro rfl <;> revert range <;> decide

end Base64

namespace Pem

/-! ## The strict form, less its line ends -/

def oneLine (cs : List Char) : List Char := cs.filter fun c => c != '\n' && c != '\r'

section
variable {cs rest front tail label body : List Char}

theorem oneLine_append (a b : List Char) : oneLine (a ++ b) = oneLine a ++ oneLine b :=
  List.filter_append a b

theorem oneLine_of_used (h : ∀ c ∈ body, Base64.Used c) : oneLine body = body := by
  refine List.filter_eq_self.mpr fun c hc => ?_
  have ne := (h c hc).ne
  simp [ne.2.2.1, ne.2.2.2]

theorem oneLine_stripLineEnd? (h : stripLineEnd? cs = some rest) : oneLine rest = oneLine cs := by
  unfold stripLineEnd? at h
  split at h <;> cases h <;> rfl

theorem oneLine_stripFinalLineEnd? (h : stripFinalLineEnd? cs = some front) :
    oneLine front = oneLine cs := by
  have ended {back : List Char} (ending : List Char) (whole : cs.reverse = ending.reverse ++ back)
      (none : oneLine ending = []) : oneLine back.reverse = oneLine cs := by
    rw [← List.reverse_reverse cs, whole, List.reverse_append, List.reverse_reverse, oneLine_append,
      none, List.append_nil]
  unfold stripFinalLineEnd? at h
  split at h
  next back whole => cases h; exact ended ['\r', '\n'] whole rfl
  next back whole => cases h; exact ended ['\n'] whole rfl
  next back whole => cases h; exact ended ['\r'] whole rfl
  next => cases h

theorem oneLine_getD (cs : List Char) : oneLine ((stripFinalLineEnd? cs).getD cs) = oneLine cs := by
  cases ended : stripFinalLineEnd? cs with
  | none => rfl
  | some front => exact oneLine_stripFinalLineEnd? ended

theorem stripEnd?_eq_some (h : stripEnd? tail cs = some front) : cs = front ++ tail := by
  obtain ⟨back, found, rfl⟩ := Option.map_eq_some_iff.mp h
  rw [← List.reverse_reverse cs, Text.strip?_eq_some found, List.reverse_append,
    List.reverse_reverse]

theorem stripEnd?_append (tail front : List Char) :
    stripEnd? tail (front ++ tail) = some front := by
  rw [stripEnd?, List.reverse_append, Text.strip?_append, Option.map_some, List.reverse_reverse]

theorem label?_eq_some {afterWord : Bool} (h : label? afterWord cs = some (label, rest)) :
    cs = label ++ rest := by
  induction cs generalizing afterWord label with
  | nil => cases h; rfl
  | cons c cs ih =>
    rw [label?] at h
    split at h
    · cases h; rfl
    split at h
    · obtain ⟨⟨l, r⟩, found, same⟩ := Option.map_eq_some_iff.mp h
      cases same
      exact congrArg (c :: ·) (ih found)
    split at h
    · obtain ⟨⟨l, r⟩, found, same⟩ := Option.map_eq_some_iff.mp h
      cases same
      exact congrArg (c :: ·) (ih found)
    · cases h

theorem oneLine_joinLines? {fuel : ℕ} (h : joinLines? fuel cs = some body) :
    oneLine body = oneLine cs := by
  induction fuel generalizing cs body with
  | zero => cases h
  | succ fuel ih =>
    rw [joinLines?] at h
    split at h
    · cases h; rfl
    split at h
    next rest ended =>
      obtain ⟨later, joined, rfl⟩ := Option.map_eq_some_iff.mp h
      rw [oneLine_append, ih joined, oneLine_stripLineEnd? ended, ← oneLine_append,
        List.take_append_drop]
    next => cases h

theorem decode?_eq_some {name : String} {der : Bytes} (h : decode? cs = some (name, der)) :
    ∃ whole body, skipPreamble? cs = some whole ∧ (∀ c ∈ body, Base64.Used c) ∧
      Base64.decode? body = some der ∧
      oneLine whole =
        oneLine (beginMark ++ name.toList ++ dashes ++ body ++ endMark ++ name.toList ++
        dashes) := by
  unfold decode? at h
  obtain ⟨whole, found, h⟩ := Option.bind_eq_some_iff.mp h
  obtain ⟨marked, begins, h⟩ := Option.bind_eq_some_iff.mp h
  obtain ⟨⟨label, named⟩, labelled, h⟩ := Option.bind_eq_some_iff.mp h
  obtain ⟨dashed, closed, h⟩ := Option.bind_eq_some_iff.mp h
  obtain ⟨opened, first, h⟩ := Option.bind_eq_some_iff.mp h
  obtain ⟨undashed, last, h⟩ := Option.bind_eq_some_iff.mp h
  obtain ⟨unlabelled, again, h⟩ := Option.bind_eq_some_iff.mp h
  obtain ⟨unmarked, ends, h⟩ := Option.bind_eq_some_iff.mp h
  obtain ⟨lines, ended, h⟩ := Option.bind_eq_some_iff.mp h
  obtain ⟨joined, full, h⟩ := Option.bind_eq_some_iff.mp h
  obtain ⟨bytes, decoded, h⟩ := Option.bind_eq_some_iff.mp h
  cases h
  have used := Base64.used_of_decode? decoded
  have start : whole = beginMark ++ label ++ dashes ++ dashed := by
    rw [Text.strip?_eq_some begins, label?_eq_some labelled, Text.strip?_eq_some closed]
    simp only [List.append_assoc]
  have finish : oneLine dashed = oneLine (joined ++ endMark ++ label ++ dashes) := by
    calc oneLine dashed = oneLine opened := (oneLine_stripLineEnd? first).symm
      _ = oneLine ((stripFinalLineEnd? opened).getD opened) := (oneLine_getD opened).symm
      _ = oneLine (unmarked ++ endMark ++ label ++ dashes) := by
        rw [stripEnd?_eq_some last, stripEnd?_eq_some again, stripEnd?_eq_some ends]
      _ = oneLine (joined ++ endMark ++ label ++ dashes) := by
        simp only [oneLine_append, oneLine_joinLines? full, oneLine_stripFinalLineEnd? ended]
  refine ⟨whole, joined, found, used, decoded, ?_⟩
  rw [start, oneLine_append, finish, ← oneLine_append, String.toList_ofList]
  simp only [List.append_assoc]

/-! ## A body on one line -/

def keyLabel : List Char := "EC PRIVATE KEY".toList

theorem stripFinalLineEnd?_concat {c : Char} (h : c ≠ '\n' ∧ c ≠ '\r') (cs : List Char) :
    stripFinalLineEnd? (cs ++ [c]) = none := by
  rw [stripFinalLineEnd?, List.reverse_concat]
  split
  next same => exact absurd (List.cons.inj same).1 h.1
  next same => exact absurd (List.cons.inj same).1 h.1
  next same => exact absurd (List.cons.inj same).1 h.2
  next => rfl

theorem stripFinalLineEnd?_lineFeed (h : '\r' ∉ body) :
    stripFinalLineEnd? (body ++ ['\n']) = some body := by
  have back : ∀ rest, body.reverse ≠ '\r' :: rest := fun rest same =>
    h (List.mem_reverse.mp (same ▸ List.mem_cons_self))
  rw [stripFinalLineEnd?, List.reverse_concat]
  split
  next same => exact absurd (List.cons.inj same).2 (back _)
  next same => rw [← (List.cons.inj same).2, List.reverse_reverse]
  next same => exact absurd (List.cons.inj same).1 (by decide)
  next _ other _ => exact absurd rfl (other _)

theorem joinLines?_oneLine (fuel : ℕ) (h : ∀ c ∈ body, c ≠ '\n' ∧ c ≠ '\r') :
    joinLines? (fuel + 1) body = if body.length ≤ 64 then some body else none := by
  rw [joinLines?]
  split
  next => rfl
  next long =>
    have unended : stripLineEnd? (body.drop 64) = none := by
      have among : ∀ c ∈ body.drop 64, c ≠ '\n' ∧ c ≠ '\r' := fun c hc =>
        h c (List.mem_of_mem_drop hc)
      unfold stripLineEnd?
      split
      next whole => exact absurd rfl (among '\r' (whole ▸ List.mem_cons_self)).2
      next whole => exact absurd rfl (among '\n' (whole ▸ List.mem_cons_self)).1
      next whole => exact absurd rfl (among '\r' (whole ▸ List.mem_cons_self)).2
      next => rfl
    rw [unended]

theorem label?_keyLabel (rest : List Char) :
    label? false (keyLabel ++ '-' :: rest) = some (keyLabel, '-' :: rest) := by
  have chars : keyLabel = ['E', 'C', ' ', 'P', 'R', 'I', 'V', 'A', 'T', 'E', ' ', 'K', 'E', 'Y'] :=
    rfl
  simp [chars, label?, isLabelChar]

theorem beginLine_eq : beginLine = beginMark ++ keyLabel ++ dashes := rfl

theorem endLine_eq : endLine = endMark ++ keyLabel ++ dashes := rfl

/-- A body on one line between marker lines is decoded if it has at most 64 characters. -/
theorem decode?_armour (h : ∀ c ∈ body, c ≠ '\n' ∧ c ≠ '\r') :
    decode? (armour body) =
      if body.length ≤ 64 then (Base64.decode? body).map ("EC PRIVATE KEY", ·) else none := by
  let inside := body ++ ['\n'] ++ endMark ++ keyLabel ++ dashes
  have left : dashes = '-' :: "----".toList := rfl
  have right : dashes = "----".toList ++ ['-'] := rfl
  have begins :
    Text.strip? beginMark (armour body) = some (keyLabel ++ (dashes ++ '\n' :: inside)) := by
    have whole : armour body = beginMark ++ (keyLabel ++ (dashes ++ '\n' :: inside)) := by
      rw [armour_eq_join, beginLine_eq, endLine_eq]
      simp [Text.join, inside]
    rw [whole, Text.strip?_append]
  have found : skipPreamble? (armour body) = some (armour body) := by
    rw [skipPreamble?, begins]
    rfl
  have labelled : label? false (keyLabel ++ (dashes ++ '\n' :: inside)) =
    some (keyLabel, dashes ++ '\n' :: inside) := by
    rw [left]
    exact label?_keyLabel _
  have unended : stripFinalLineEnd? inside = none := by
    have last : inside = (body ++ ['\n'] ++ endMark ++ keyLabel ++ "----".toList) ++ ['-'] := by
      simp [inside, right]
    rw [last]
    exact stripFinalLineEnd?_concat (by decide) _
  have unreturned : '\r' ∉ body := fun found => (h '\r' found).2 rfl
  have name : String.ofList keyLabel = "EC PRIVATE KEY" := String.ofList_toList
  simp only [decode?, found, begins, labelled, Text.strip?_append, stripLineEnd?, unended,
    Option.getD_none, inside,
    stripEnd?_append, stripFinalLineEnd?_lineFeed unreturned, joinLines?_oneLine body.length h,
      name,
    Option.bind_eq_bind, Option.bind_some]
  split
  · rw [Option.bind_some, Option.map_eq_bind]
    rfl
  · rfl

end

/-! ## Reading a body -/

/-- What a key's text has between its marker lines, less the line ends. -/
def BareBody (p b : List Char) : Prop :=
  ∃ whole, skipPreamble? (normalize p) = some whole ∧ oneLine whole = beginLine ++ b ++ endLine

section
variable {p b body : List Char} {der : Bytes}

theorem solid_of_used (used : ∀ c ∈ body, Base64.Used c) : Solid body :=
  ⟨fun found => (used _ found).ne.1 rfl, fun c hc => (used c hc).noBlank⟩

theorem normalize_of_used (used : ∀ c ∈ body, Base64.Used c) : normalize body = armour body := by
  have tidied := tidy_solid (solid_of_used used)
  have bare : ¬ Armoured (tidy body) := by
    rw [tidied]
    intro armoured
    have hyphen : '-' ∈ "-----BEGIN".toList := by decide
    exact (used _ (Text.contains_subset armoured.1 hyphen)).ne.2.1 rfl
  rw [normalize_of_bare bare, tidied, List.filter_eq_self.mpr]
  intro c hc
  rw [(used c hc).noBlank]
  rfl

theorem ofText?_of_decode? (sec1 : decode? (normalize p) = some ("EC PRIVATE KEY", der)) :
    RequestKey.ofText? p = ownKey? der := by
  rw [RequestKey.ofText?, sec1]
  rfl

theorem ofText?_of_used (used : ∀ c ∈ body, Base64.Used c) :
    RequestKey.ofText? body =
      if body.length ≤ 64 then (Base64.decode? body).bind ownKey? else none := by
  have unbroken : ∀ c ∈ body, c ≠ '\n' ∧ c ≠ '\r' := fun c hc => (used c hc).ne.2.2
  have decoded := decode?_armour unbroken
  rw [← normalize_of_used used] at decoded
  split
  next short =>
    rw [if_pos short] at decoded
    cases bytes : Base64.decode? body with
    | none =>
      rw [bytes] at decoded
      rw [RequestKey.ofText?, decoded]
      rfl
    | some der =>
      rw [bytes] at decoded
      exact ofText?_of_decode? decoded
  next long =>
    rw [if_neg long] at decoded
    rw [RequestKey.ofText?, decoded]
    rfl

theorem bareBody_of_decode? (sec1 : decode? (normalize p) = some ("EC PRIVATE KEY", der)) :
    ∃ body, (∀ c ∈ body, Base64.Used c) ∧ Base64.decode? body = some der ∧
      ∀ b, BareBody p b ↔ b = body := by
  obtain ⟨whole, body, found, used, decoded, between⟩ := decode?_eq_some sec1
  have marked : oneLine whole = beginLine ++ body ++ endLine := by
    have first : oneLine beginLine = beginLine := rfl
    have last : oneLine endLine = endLine := rfl
    calc
      oneLine whole = oneLine (beginMark ++ keyLabel ++ dashes ++ body ++ endMark ++ keyLabel ++
        dashes) := between
      _ = oneLine (beginLine ++ body ++ endLine) := by
        rw [beginLine_eq, endLine_eq]; simp only [List.append_assoc]
      _ = beginLine ++ body ++ endLine := by
        rw [oneLine_append, oneLine_append, first, last, oneLine_of_used used]
  refine ⟨body, used, decoded, fun b => ⟨?_, ?_⟩⟩
  · rintro ⟨again, same, bare⟩
    rw [found] at same
    cases same
    rw [marked] at bare
    exact (List.append_cancel_left (List.append_cancel_right bare)).symm
  · rintro rfl
    exact ⟨whole, found, marked⟩

end

/-- The body of a key's text is read on its own if it has at most 64 characters, and as the key of
the text; a longer one is refused. -/
theorem bare_body_is_read {p : List Char} {der : Bytes}
    (sec1 : decode? (normalize p) = some ("EC PRIVATE KEY", der)) :
    ∃ b, (∀ body, BareBody p body ↔ body = b) ∧
      RequestKey.ofText? b = if b.length ≤ 64 then RequestKey.ofText? p else none := by
  obtain ⟨b, used, decoded, unique⟩ := bareBody_of_decode? sec1
  refine ⟨b, unique, ?_⟩
  rw [ofText?_of_used used, decoded, ofText?_of_decode? sec1]
  rfl

def keyText (lines : List String) : List Char :=
  Text.join ['\n'] ([beginLine] ++ lines.map String.toList ++ [endLine])

def told (p : List Char) : Option (String × Option ℕ) :=
  (decode? (normalize p)).map fun (label, der) => (label, (ownKey? der).map RequestKey.scalar)

theorem read_of_told {p : List Char} {d : ℕ} (h : told p = some ("EC PRIVATE KEY", some d)) :
    ∃ der, decode? (normalize p) = some ("EC PRIVATE KEY", der) ∧
      RequestKey.ofText? p = some ⟨d⟩ := by
  obtain ⟨⟨label, der⟩, sec1, same⟩ := Option.map_eq_some_iff.mp h
  obtain ⟨rfl, key⟩ := Prod.mk.inj same
  obtain ⟨k, own, rfl⟩ := Option.map_eq_some_iff.mp key
  exact ⟨der, sec1, (ofText?_of_decode? sec1).trans own⟩

theorem bareBody_of_map {p b : List Char}
    (h : (skipPreamble? (normalize p)).map oneLine = some (beginLine ++ b ++ endLine)) :
    BareBody p b :=
  Option.map_eq_some_iff.mp h

def shortLines : List String := ["MCUCAQEEIGskyglLiPKpUJgWr2LmHYnd4WWz6tABztfzVq+fio4p"]

def shortBody : List Char := shortLines.flatMap String.toList

def testScalar : ℕ := 0x6b24ca094b88f2a9509816af62e61d89dde165b3ead001ced7f356af9f8a8e29

theorem short_body_is_read :
    RequestKey.ofText? (keyText shortLines) = some ⟨testScalar⟩ ∧
      BareBody (keyText shortLines) shortBody ∧
      RequestKey.ofText? shortBody = some ⟨testScalar⟩ := by
  have scalar : told (keyText shortLines) = some ("EC PRIVATE KEY", some testScalar) := by
    decide +kernel
  have body : (skipPreamble? (normalize (keyText shortLines))).map oneLine =
      some (beginLine ++ shortBody ++ endLine) := by decide +kernel
  have short : shortBody.length ≤ 64 := by decide +kernel
  obtain ⟨der, sec1, read⟩ := read_of_told scalar
  have bare := bareBody_of_map body
  obtain ⟨b, unique, again⟩ := bare_body_is_read sec1
  obtain rfl := (unique shortBody).mp bare
  rw [if_pos short, read] at again
  exact ⟨read, bare, again⟩

def wholeLines : List String :=
  ["MHcCAQEEIGskyglLiPKpUJgWr2LmHYnd4WWz6tABztfzVq+fio4poAoGCCqGSM49",
    "AwEHoUQDQgAELsEdiBCcjtURel54qCN/RDLhKpJwnpcyrvsylQB9sTITN7E5tMY2",
    "+SHnZFLpUCImOoTHfOGbisOzQtODfeHzfA=="]

def wholeBody : List Char := wholeLines.flatMap String.toList

theorem not_every_bare_body_is_read :
    ¬ ∀ (p b : List Char) (der : Bytes) (k : RequestKey),
      decode? (normalize p) = some ("EC PRIVATE KEY", der) →
      RequestKey.ofText? p = some k → BareBody p b → RequestKey.ofText? b = some k := by
  intro all
  have scalar : told (keyText wholeLines) = some ("EC PRIVATE KEY", some testScalar) := by
    decide +kernel
  have body : (skipPreamble? (normalize (keyText wholeLines))).map oneLine =
      some (beginLine ++ wholeBody ++ endLine) := by decide +kernel
  have long : ¬ wholeBody.length ≤ 64 := by decide +kernel
  obtain ⟨der, sec1, read⟩ := read_of_told scalar
  have bare := bareBody_of_map body
  obtain ⟨b, used, -, unique⟩ := bareBody_of_decode? sec1
  obtain rfl := (unique wholeBody).mp bare
  have refused : RequestKey.ofText? wholeBody = none := by rw [ofText?_of_used used, if_neg long]
  have again := all (keyText wholeLines) wholeBody der ⟨testScalar⟩ sec1 read bare
  rw [refused] at again
  cases again

end Pem

end Dispatch
