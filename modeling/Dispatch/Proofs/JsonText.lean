import Dispatch.Json.Bytes
import Dispatch.Json.Value
import Dispatch.Proofs.HexDigits
import Dispatch.Proofs.Utf8
import Mathlib.Data.List.Forall2
import Mathlib.Data.List.TakeDrop

/-!
# Reading back written JSON

The text of a value without other than whole numbers is read as the tree of the value. The reader
takes its fuel from the length of the text, and every step that uses some takes a character.
-/

set_option autoImplicit false

namespace Dispatch.Json

mutual

def Whole : Json → Prop
  | .float _ => False
  | .array items => WholeItems items
  | .object members => WholeMembers members
  | _ => True

def WholeItems : List Json → Prop
  | [] => True
  | v :: rest => Whole v ∧ WholeItems rest

def WholeMembers : List (String × Json) → Prop
  | [] => True
  | (_, v) :: rest => Whole v ∧ WholeMembers rest

end

namespace Reader

/-! ## String literals -/

inductive Piece.Denotes : Piece → Char → Prop where
  | char (c : Char) : Denotes (.char c) c
  | control {c : Char} (h : c.toNat < 0x20) : Denotes (.unit c.toNat) c

theorem pieces?_escaped (c : Char) :
    ∃ p : Piece, p.Denotes c ∧ ∀ fuel cs, pieces? (fuel + 1) (escaped c ++ cs) =
      (pieces? fuel cs).map fun (ps, rest) => (p :: ps, rest) := by
  unfold escaped
  split
  next h => exact ⟨.char c, .char c, by subst h; intros; rfl⟩
  split
  next h => exact ⟨.char c, .char c, by subst h; intros; rfl⟩
  split
  next h => exact ⟨.char c, .char c, by subst h; intros; rfl⟩
  split
  next h => exact ⟨.char c, .char c, by subst h; intros; rfl⟩
  split
  next h => exact ⟨.char c, .char c, by subst h; intros; rfl⟩
  split
  next h => exact ⟨.char c, .char c, by subst h; intros; rfl⟩
  split
  next h => exact ⟨.char c, .char c, by subst h; intros; rfl⟩
  split
  next control =>
    have high : Hex.digitValue? (Hex.digit (c.toNat / 16)) = some (c.toNat / 16) :=
      Hex.digitValue?_digit (by omega)
    have low : Hex.digitValue? (Hex.digit (c.toNat % 16)) = some (c.toNat % 16) :=
      Hex.digitValue?_digit (by omega)
    have zero : Hex.digitValue? '0' = some 0 := by decide
    have number : ((0 * 16 + 0) * 16 + c.toNat / 16) * 16 + c.toNat % 16 = c.toNat := by omega
    refine ⟨.unit c.toNat, .control control, fun fuel cs => ?_⟩
    simp only [List.cons_append, List.nil_append, pieces?, hex4?, zero, high, low, number]
  next quote slash _ _ _ _ _ control =>
    refine ⟨.char c, .char c, fun fuel cs => ?_⟩
    have plain : ¬ (c.toNat < 0x20 ∨ c = '\\') := not_or.mpr ⟨control, slash⟩
    rw [List.singleton_append, pieces?, if_neg plain]
    · exact quote
    · exact fun _ h _ => slash h
    · exact fun _ _ h _ => slash h

theorem pieces?_text (cs rest : List Char) :
    ∃ ps, List.Forall₂ Piece.Denotes ps cs ∧ ∀ fuel, cs.length < fuel →
      pieces? fuel (cs.flatMap escaped ++ '"' :: rest) = some (ps, rest) := by
  induction cs with
  | nil =>
    refine ⟨[], .nil, fun fuel h => ?_⟩
    cases fuel with
    | zero => omega
    | succ fuel => rfl
  | cons c cs ih =>
    obtain ⟨p, hp, step⟩ := pieces?_escaped c
    obtain ⟨ps, hps, ih⟩ := ih
    refine ⟨p :: ps, .cons hp hps, fun fuel h => ?_⟩
    cases fuel with
    | zero => omega
    | succ fuel =>
      rw [List.length_cons] at h
      rw [List.flatMap_cons, List.append_assoc, step, ih fuel (by omega)]
      rfl

theorem assemble?_of_denotes {ps : List Piece} {cs : List Char}
    (h : List.Forall₂ Piece.Denotes ps cs) :
    assemble? ps = some cs := by
  induction h with
  | nil => rfl
  | @cons p c ps cs hp hps ih =>
    cases hp with
    | char c => rw [assemble?, ih]; rfl
    | control hc =>
      have high : isHigh c.toNat = false := by simp [isHigh]; omega
      have low : isLow c.toNat = false := by simp [isLow]; omega
      cases hps with
      | nil => simp [assemble?, high, low, Char.ofNat_toNat]
      | @cons p' c' ps cs hp' hps =>
        cases hp' <;> simp [assemble?, high, low, Char.ofNat_toNat] at ih ⊢ <;> exact ih

theorem escaped_ne_nil (c : Char) : 0 < (escaped c).length := by
  unfold escaped
  repeat' split
  all_goals exact Nat.succ_pos _

theorem length_le_escaped (cs : List Char) : cs.length ≤ (cs.flatMap escaped).length := by
  induction cs with
  | nil => exact Nat.zero_le _
  | cons c cs ih =>
    have := escaped_ne_nil c
    rw [List.flatMap_cons, List.length_append, List.length_cons]
    omega

theorem literal?_written (s : String) (rest : List Char) :
    literal? (s.toList.flatMap escaped ++ '"' :: rest) = some (some s, rest) := by
  obtain ⟨ps, hps, read⟩ := pieces?_text s.toList rest
  have fuel : s.toList.length < (s.toList.flatMap escaped ++ '"' :: rest).length + 1 := by
    have := length_le_escaped s.toList
    rw [List.length_append]
    omega
  simp only [literal?, read _ fuel, assemble?_of_denotes hps, Option.map_some, String.ofList_toList]

/-! ## Whole numbers -/

/-- What may follow a value inside of another. -/
def Closes : List Char → Prop
  | [] => True
  | c :: _ => c = ',' ∨ c = ']' ∨ c = '\x7d'

theorem span_digits {ds rest : List Char} (hd : ∀ c ∈ ds, c.isDigit = true) (hr : Closes rest) :
    (ds ++ rest).span Char.isDigit = (ds, rest) := by
  have stop : rest.takeWhile Char.isDigit = [] ∧ rest.dropWhile Char.isDigit = rest := by
    cases rest with
    | nil => exact ⟨rfl, rfl⟩
    | cons c cs => rcases hr with rfl | rfl | rfl <;> exact ⟨rfl, rfl⟩
  rw [List.span_eq_takeWhile_dropWhile, List.takeWhile_append_of_pos hd,
    List.dropWhile_append_of_pos hd,
    stop.1, stop.2, List.append_nil]

theorem digits_isDigit (n : Nat) : ∀ c ∈ Nat.toDigits 10 n, c.isDigit = true :=
  fun _ h => Nat.isDigit_of_mem_toDigits (by decide) (by decide) h

theorem digits_of_zero_head {n : Nat} {ds : List Char} (h : Nat.toDigits 10 n = '0' :: ds) :
    ds = [] := by
  induction n using Nat.strongRecOn generalizing ds with
  | ind n ih =>
    rw [Nat.toDigits_eq_if (by decide)] at h
    split at h
    · exact (List.cons.inj h).2.symm
    next large =>
      cases hq : Nat.toDigits 10 (n / 10) with
      | nil => exact absurd hq Nat.toDigits_ne_nil
      | cons c front =>
        rw [hq, List.cons_append] at h
        obtain ⟨rfl, rfl⟩ := List.cons.inj h
        have front_nil : front = [] := ih (n / 10) (by omega) hq
        have quotient : Nat.ofDigitChars 10 (Nat.toDigits 10 (n / 10)) 0 = n / 10 :=
          Nat.ofDigitChars_ten_toDigits
        rw [hq, front_nil] at quotient
        have zero : Nat.ofDigitChars 10 ['0'] 0 = 0 := rfl
        omega

theorem value_digits (n : Nat) : value (Nat.toDigits 10 n) = n := by
  have := Nat.ofDigitChars_ten_toDigits (n := n)
  rwa [Nat.ofDigitChars_eq_foldl] at this

theorem whole?_digits (n : Nat) {rest : List Char} (h : Closes rest) :
    whole? (Nat.toDigits 10 n ++ rest) = some (Nat.toDigits 10 n, rest) := by
  rw [whole?, span_digits (digits_isDigit n) h]
  cases hd : Nat.toDigits 10 n with
  | nil => exact absurd hd Nat.toDigits_ne_nil
  | cons c ds =>
    by_cases zero : c = '0'
    · subst zero
      rw [digits_of_zero_head hd]
      rfl
    · split
      next heq => cases heq
      next heq =>
        cases heq
        exact absurd rfl zero
      next heq => exact congrArg some heq.symm

theorem fraction?_closes {rest : List Char} (h : Closes rest) :
    fraction? rest = some (none, rest) := by
  cases rest with
  | nil => rfl
  | cons c cs => rcases h with rfl | rfl | rfl <;> rfl

theorem exponent?_closes {rest : List Char} (h : Closes rest) :
    exponent? rest = some (none, rest) := by
  cases rest with
  | nil => rfl
  | cons c cs => rcases h with rfl | rfl | rfl <;> rfl

theorem unsigned?_written (negative : Bool) (n : Nat) {rest : List Char} (h : Closes rest) :
    unsigned? negative (Nat.toDigits 10 n ++ rest) = some (.whole negative n, rest) := by
  simp only [unsigned?, whole?_digits n h, fraction?_closes h, exponent?_closes h, value_digits,
    Option.bind_eq_bind, Option.bind_some]

theorem numeral?_written (n : Int) {rest : List Char} (h : Closes rest) :
    numeral? (integerText n ++ rest) = some (.whole (decide (n < 0)) n.natAbs, rest) := by
  unfold integerText
  by_cases negative : n < 0
  · rw [if_pos negative, decide_eq_true negative, List.cons_append]
    exact unsigned?_written true n.natAbs h
  · rw [if_neg negative, decide_eq_false negative]
    cases hd : Nat.toDigits 10 n.natAbs with
    | nil => exact absurd hd Nat.toDigits_ne_nil
    | cons c ds =>
      have digit : c.isDigit = true := digits_isDigit n.natAbs c (by simp [hd])
      have minus : c ≠ '-' := by
        rintro rfl
        exact absurd digit (by decide)
      rw [List.cons_append, numeral?, ← List.cons_append, ← hd, unsigned?_written false _ h]
      exact fun _ hc => minus (List.cons.inj hc).1

/-! ## Values -/

theorem integerText_head (n : Int) : ∃ c cs, integerText n = c :: cs ∧
    (c = '-' ∨ c.isDigit = true) := by
  unfold integerText
  split
  · exact ⟨_, _, rfl, .inl rfl⟩
  · cases hd : Nat.toDigits 10 n.natAbs with
    | nil => exact absurd hd Nat.toDigits_ne_nil
    | cons c cs => exact ⟨c, cs, rfl, .inr (digits_isDigit n.natAbs c (by simp [hd]))⟩

theorem ne_of_numeric {c d : Char} (h : c = '-' ∨ c.isDigit = true) (minus : d ≠ '-')
    (digit : d.isDigit = false) : c ≠ d := by
  rintro rfl
  rcases h with h | h
  · exact minus h
  · rw [h] at digit
    cases digit

theorem value?_numeral {c : Char} (h : c = '-' ∨ c.isDigit = true) (fuel : Nat) (cs : List Char) :
    value? (fuel + 1) (c :: cs) = (numeral? (c :: cs)).map fun (n, rest) => (.number n, rest) := by
  have other {d : Char} := ne_of_numeric (d := d) h
  rw [value?, if_neg (other (by decide) (by decide)), if_neg (other (by decide) (by decide)),
    if_neg (other (by decide) (by decide)), if_neg (other (by decide) (by decide)),
    if_neg (other (by decide) (by decide)), if_neg (other (by decide) (by decide))]

theorem chars_head {v : Json} (h : Whole v) :
    ∃ c cs, chars v = c :: cs ∧ isSpace c = false ∧ c ≠ ']' := by
  cases v with
  | null => exact ⟨_, _, rfl, by decide, by decide⟩
  | bool b => cases b <;> exact ⟨_, _, rfl, by decide, by decide⟩
  | integer n =>
    obtain ⟨c, cs, hc, numeric⟩ := integerText_head n
    have other {d : Char} := ne_of_numeric (d := d) numeric
    refine ⟨c, cs, hc, ?_, other (by decide) (by decide)⟩
    simp only [isSpace, other (d := ' ') (by decide) (by decide), other (d := '\n') (by decide)
      (by decide),
      other (d := '\t') (by decide) (by decide), other (d := '\r') (by decide) (by decide),
        decide_false,
      Bool.or_false]
  | float x => exact h.elim
  | string s => exact ⟨_, _, rfl, by decide, by decide⟩
  | array items => exact ⟨_, _, rfl, by decide, by decide⟩
  | object members => exact ⟨_, _, rfl, by decide, by decide⟩

theorem skip_chars {v : Json} (h : Whole v) (rest : List Char) :
    skip (chars v ++ rest) = chars v ++ rest := by
  obtain ⟨c, cs, hc, space, -⟩ := chars_head h
  rw [hc, List.cons_append, skip, List.dropWhile_cons_of_neg (by rw [space]; decide)]

theorem itemChars_cons (v : Json) (vs : List Json) :
    itemChars (v :: vs) = chars v ++ if vs = [] then [] else ',' :: itemChars vs := by
  cases vs with
  | nil => simp [itemChars]
  | cons w ws => simp [itemChars]

theorem memberChars_cons (name : String) (v : Json) (ms : List (String × Json)) :
    memberChars ((name, v) :: ms) =
      literal name ++ ':' :: (chars v ++ if ms = [] then [] else ',' :: memberChars ms) := by
  cases ms with
  | nil => simp [memberChars]
  | cons w ws => simp [memberChars]

section
variable {fuel : Nat} {cs tail rest : List Char} {t : Tree} {ts : List Tree}
  {ms : List (Literal × Tree)}

theorem literal_append (s : String) (rest : List Char) :
    literal s ++ rest = '"' :: (s.toList.flatMap escaped ++ '"' :: rest) := by
  simp [literal]

theorem value?_literal (fuel : Nat) (s : String) (rest : List Char) :
    value? (fuel + 1) (literal s ++ rest) = some (.string (some s), rest) := by
  have read := literal?_written s rest
  rw [literal_append, value?]
  simp [read]

theorem value?_array (space : skip cs = cs) (head : cs.head? ≠ some ']')
    (read : items? fuel cs = some (ts, rest)) :
    value? (fuel + 1) ('[' :: cs) = some (.array ts, rest) := by
  rw [value?]
  simp only [Char.reduceEq, if_false, if_true, space]
  split
  next heq => exact absurd rfl head
  next => rw [read]; rfl

theorem value?_object (space : skip cs = cs) (head : cs.head? ≠ some '\x7d')
    (read : members? fuel cs = some (ms, rest)) :
    value? (fuel + 1) ('\x7b' :: cs) = some (.object ms, rest) := by
  rw [value?]
  simp only [Char.reduceEq, if_false, if_true, space]
  split
  next heq => exact absurd rfl head
  next => rw [read]; rfl

theorem items?_last (read : value? fuel cs = some (t, ']' :: rest)) :
    items? (fuel + 1) cs = some ([t], rest) := by
  rw [items?, read]
  rfl

theorem items?_more (read : value? fuel cs = some (t, ',' :: tail)) (space : skip tail = tail)
    (more : items? fuel tail = some (ts, rest)) : items? (fuel + 1) cs = some (t :: ts, rest) := by
  rw [items?, read]
  change (items? fuel (skip tail)).map _ = _
  rw [space, more]
  rfl

theorem members?_last (name : String) (space : skip cs = cs)
    (read : value? fuel cs = some (t, '\x7d' :: rest)) :
    members? (fuel + 1) (literal name ++ ':' :: cs) = some ([(some name, t)], rest) := by
  have colon : skip (':' :: cs) = ':' :: cs := rfl
  have brace : skip ('\x7d' :: rest) = '\x7d' :: rest := rfl
  rw [literal_append, members?, literal?_written]
  simp only [colon, space, read, brace]

theorem members?_more (name : String) (space : skip cs = cs)
    (read : value? fuel cs = some (t, ',' :: tail)) (space' : skip tail = tail)
    (more : members? fuel tail = some (ms, rest)) :
    members? (fuel + 1) (literal name ++ ':' :: cs) = some ((some name, t) :: ms, rest) := by
  have colon : skip (':' :: cs) = ':' :: cs := rfl
  have comma : skip (',' :: tail) = ',' :: tail := rfl
  rw [literal_append, members?, literal?_written]
  simp only [colon, space, read, comma, space', more, Option.map_some]

end

theorem skip_itemChars {v : Json} {vs : List Json} (h : WholeItems (v :: vs)) (rest : List Char) :
    skip (itemChars (v :: vs) ++ rest) = itemChars (v :: vs) ++ rest := by
  rw [itemChars_cons, List.append_assoc, skip_chars h.1]

theorem head?_itemChars {v : Json} {vs : List Json} (h : WholeItems (v :: vs)) (rest : List Char) :
    (itemChars (v :: vs) ++ rest).head? ≠ some ']' := by
  obtain ⟨c, cs, hc, -, bracket⟩ := chars_head h.1
  rw [itemChars_cons, List.append_assoc, hc]
  exact fun heq => bracket (Option.some.inj heq)

theorem memberChars_head (m : String × Json) (ms : List (String × Json)) (rest : List Char) :
    ∃ cs, memberChars (m :: ms) ++ rest = '"' :: cs := by
  obtain ⟨name, v⟩ := m
  exact ⟨_, by rw [memberChars_cons, List.append_assoc, literal_append]⟩

/-- With fuel for each character, and for the closing bracket of a list, what was written is
read. -/
theorem written_at (fuel : Nat) :
    (∀ v rest, Whole v → (chars v).length ≤ fuel → Closes rest →
      value? fuel (chars v ++ rest) = some (toTree v, rest)) ∧
    (∀ v vs rest, WholeItems (v :: vs) → (itemChars (v :: vs)).length < fuel →
      items? fuel (itemChars (v :: vs) ++ ']' :: rest) = some (itemTrees (v :: vs), rest)) ∧
    (∀ m ms rest, WholeMembers (m :: ms) → (memberChars (m :: ms)).length < fuel →
      members? fuel (memberChars (m :: ms) ++ '\x7d' :: rest) =
        some (memberTrees (m :: ms), rest)) := by
  induction fuel with
  | zero =>
    refine ⟨fun v rest whole h => ?_, fun _ _ _ _ h => absurd h (Nat.not_lt_zero _),
      fun _ _ _ _ h => absurd h (Nat.not_lt_zero _)⟩
    obtain ⟨c, cs, hc, -⟩ := chars_head whole
    rw [hc, List.length_cons] at h
    omega
  | succ fuel ih =>
    obtain ⟨readValue, readItems, readMembers⟩ := ih
    refine ⟨fun v rest whole h close => ?_, fun v vs rest whole h => ?_,
      fun m ms rest whole h => ?_⟩
    · cases v with
      | null => rfl
      | bool b => cases b <;> rfl
      | integer n =>
        obtain ⟨c, cs, hc, numeric⟩ := integerText_head n
        have read := numeral?_written n close
        rw [hc, List.cons_append] at read
        rw [chars, hc, List.cons_append, value?_numeral numeric, read]
        rfl
      | float x => exact whole.elim
      | string s => exact value?_literal fuel s rest
      | array items =>
        cases items with
        | nil => rfl
        | cons v vs =>
          rw [chars, List.length_append, List.length_cons, List.length_singleton] at h
          rw [chars, List.append_assoc, List.cons_append]
          exact value?_array (skip_itemChars whole _) (head?_itemChars whole _)
            (readItems v vs rest whole (by omega))
      | object members =>
        cases members with
        | nil => rfl
        | cons m ms =>
          rw [chars, List.length_append, List.length_cons, List.length_singleton] at h
          rw [chars, List.append_assoc, List.cons_append]
          obtain ⟨cs, hcs⟩ := memberChars_head m ms (['\x7d'] ++ rest)
          refine value?_object ?_ ?_ (readMembers m ms rest whole (by omega))
          · rw [hcs]; rfl
          · rw [hcs]; exact fun heq => absurd (Option.some.inj heq) (by decide)
    · rw [itemChars_cons, List.length_append] at h
      rw [itemChars_cons, List.append_assoc]
      cases vs with
      | nil => exact items?_last (readValue v _ whole.1 (by omega) (.inr (.inl rfl)))
      | cons w ws =>
        rw [if_neg (List.cons_ne_nil w ws), List.length_cons] at h
        rw [if_neg (List.cons_ne_nil w ws), List.cons_append]
        exact items?_more (readValue v _ whole.1 (by omega) (.inl rfl)) (skip_itemChars whole.2 _)
          (readItems w ws rest whole.2 (by omega))
    · obtain ⟨name, v⟩ := m
      rw [memberChars_cons, List.length_append, List.length_cons, List.length_append] at h
      rw [memberChars_cons, List.append_assoc, List.cons_append, List.append_assoc]
      cases ms with
      | nil =>
        exact members?_last name (skip_chars whole.1 _)
          (readValue v _ whole.1 (by omega) (.inr (.inr rfl)))
      | cons m ms =>
        rw [if_neg (List.cons_ne_nil m ms), List.length_cons] at h
        rw [if_neg (List.cons_ne_nil m ms), List.cons_append]
        obtain ⟨cs, hcs⟩ := memberChars_head m ms ('\x7d' :: rest)
        refine members?_more name (skip_chars whole.1 _)
          (readValue v _ whole.1 (by omega) (.inl rfl)) ?_
          (readMembers m ms rest whole.2 (by omega))
        rw [hcs]
        rfl

end Reader

theorem read?_chars {v : Json} (h : Whole v) : read? (chars v) = some (toTree v) := by
  have space := Reader.skip_chars h []
  have read := (Reader.written_at ((chars v).length + 1)).1 v [] h (Nat.le_succ _) trivial
  rw [List.append_nil] at space read
  rw [read?, readPrefix?, space, read]
  rfl

theorem read?_render {v : Json} (h : Whole v) : read? v.render.toList = some (toTree v) := by
  rw [render, String.toList_ofList, read?_chars h]

/-! ## Bytes -/

mutual

theorem common_self (t : Tree) : common t t = t := by
  cases t with
  | string s => rw [common, if_pos rfl]
  | array items => rw [common, commonItems_self items]
  | object members => rw [common, commonMembers_self members]
  | _ => rw [common] <;> nofun

theorem commonItems_self (items : List Tree) : commonItems items items = items := by
  cases items with
  | nil => rw [commonItems]; nofun
  | cons t rest => rw [commonItems, common_self t, commonItems_self rest]

theorem commonMembers_self (members : List (Literal × Tree)) :
    commonMembers members members = members := by
  cases members with
  | nil => rw [commonMembers]; nofun
  | cons m rest => rw [commonMembers, if_pos rfl, common_self m.2, commonMembers_self rest]

end

theorem readBytes?_ofText (s : String) : readBytes? (Bytes.ofText s) = read? s.toList := by
  unfold readBytes?
  rw [Text.charsBy_ofText, Text.charsBy_ofText]
  cases read? s.toList with
  | none => rfl
  | some t => exact congrArg some (common_self t)

theorem readBytes?_render {v : Json} (h : Whole v) :
    readBytes? (Bytes.ofText v.render) = some (toTree v) := by
  rw [readBytes?_ofText, read?_render h]

end Dispatch.Json
