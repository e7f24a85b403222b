import Dispatch.Proofs.DeviceCommands
import Dispatch.Proofs.TextLines
import Mathlib.Data.List.Forall2

/-!
# Paths in text and on the wire

Which texts are a path, and what the bytes of a path are. The bytes tell the levels of the path, so
two texts have the same bytes just when they are paths of the same levels, and the path of an
account leads to that account or is none.
-/

set_option autoImplicit false

namespace Dispatch

namespace Text

/-! ## Numbers -/

/-- One or more digits after an optional plus sign, which have a value. -/
def Numeral (cs : List Char) (n : Nat) : Prop :=
  ∃ sign digits, (sign = [] ∨ sign = ['+']) ∧ digits ≠ [] ∧ (∀ c ∈ digits, c.isDigit = true) ∧
    Nat.ofDigitChars 10 digits 0 = n ∧ cs = sign ++ digits

theorem digits?_eq_some_iff {cs : List Char} {n : Nat} :
    Binary64.digits? cs = some n ↔ (∀ c ∈ cs, c.isDigit = true) ∧ Nat.ofDigitChars 10 cs 0 = n := by
  rw [Binary64.digits?, Nat.ofDigitChars_eq_foldl, ← List.all_eq_true]
  split <;> simp_all

theorem numeral_digits (n : Nat) : Numeral (digits n) n :=
  ⟨[], digits n, .inl rfl, Nat.toDigits_ne_nil, fun _ h => Nat.isDigit_of_mem_toDigits (by decide)
    (by decide) h,
    Nat.ofDigitChars_ten_toDigits, rfl⟩

theorem readNat?_eq_some_iff {bound n : Nat} {cs : List Char} :
    readNat? bound cs = some n ↔ Numeral cs n ∧ n < bound := by
  have unsigned (body : List Char) :
      (if body.isEmpty then none else (Binary64.digits? body).bind fun m =>
        if m < bound then some m else none) =
        some n ↔
        (body ≠ [] ∧ (∀ c ∈ body, c.isDigit = true) ∧ Nat.ofDigitChars 10 body 0 = n) ∧
          n < bound := by
    cases body with
    | nil => simp
    | cons c body =>
      simp only [List.isEmpty_cons, Bool.false_eq_true, if_false, Option.bind_eq_some_iff,
        digits?_eq_some_iff,
        Option.ite_none_right_eq_some, Option.some.injEq]
      constructor
      · rintro ⟨m, ⟨all, rfl⟩, small, rfl⟩
        exact ⟨⟨List.cons_ne_nil c body, all, rfl⟩, small⟩
      · rintro ⟨⟨-, all, value⟩, small⟩
        exact ⟨n, ⟨all, value⟩, small, rfl⟩
  unfold readNat?
  split
  · rename_i rest
    rw [unsigned]
    refine and_congr_left'
      ⟨fun ⟨filled, all, value⟩ => ⟨['+'], rest, .inr rfl, filled, all, value, rfl⟩, ?_⟩
    rintro ⟨sign, digits, rfl | rfl, filled, all, value, whole⟩
    · rw [List.nil_append] at whole
      exact absurd (all '+' (whole ▸ List.mem_cons_self)) (by decide)
    · cases whole
      exact ⟨filled, all, value⟩
  · rename_i noSign
    rw [unsigned]
    refine and_congr_left'
      ⟨fun ⟨filled, all, value⟩ => ⟨[], cs, .inl rfl, filled, all, value, rfl⟩, ?_⟩
    rintro ⟨sign, digits, rfl | rfl, filled, all, value, rfl⟩
    · exact ⟨filled, all, value⟩
    · exact absurd rfl (noSign digits)

theorem Numeral.unique {cs : List Char} {m n : Nat} (hm : Numeral cs m) (hn : Numeral cs n) :
    m = n := by
  have read {k : Nat} (h : Numeral cs k) (small : k < max m n + 1) :
    readNat? (max m n + 1) cs = some k :=
    readNat?_eq_some_iff.mpr ⟨h, small⟩
  exact Option.some.inj ((read hm (by omega)).symm.trans (read hn (by omega)))

theorem Numeral.mem {cs : List Char} {n : Nat} (h : Numeral cs n) : ∀ c ∈ cs, c = '+' ∨
    c.isDigit = true := by
  obtain ⟨sign, digits, plus, -, all, -, rfl⟩ := h
  intro c hc
  rcases List.mem_append.mp hc with hc | hc
  · rcases plus with rfl | rfl
    · cases hc
    · exact .inl (List.mem_singleton.mp hc)
  · exact .inr (all c hc)

theorem splitAt_join {sep : Char} {parts : List (List Char)} (filled : parts ≠ [])
    (h : ∀ part ∈ parts, sep ∉ part) :
    splitAt sep (join [sep] parts) = parts := by
  induction parts with
  | nil => exact absurd rfl filled
  | cons part parts ih =>
    obtain ⟨here, rest⟩ := List.forall_mem_cons.mp h
    by_cases last : parts = []
    · subst last
      exact splitAt_of_not_mem here
    · rw [join_cons last, splitAt_append here, ih last rest]

end Text

namespace DerivationPath
open Text (Numeral)

/-! ## Levels in text -/

@[ext]
structure Level where
  index : Nat
  hardened : Bool
  index_lt : index < 2 ^ 31
deriving DecidableEq

/-- What stands behind the number of a hardened level. -/
def mark (hardened : Bool) : List Char := if hardened then ['\''] else []

def Stands (part : List Char) (level : Level) : Prop :=
  ∃ numeral, Numeral numeral level.index ∧ part = numeral ++ mark level.hardened

/-- A path of levels: their parts, with slashes between them, behind any number of root marks. -/
def Denotes (path : List Char) (levels : List Level) : Prop :=
  ∃ roots parts, path = (List.replicate roots ['m', '/']).flatten ++ Text.join ['/'] parts ∧
    parts ≠ [] ∧
    List.Forall₂ Stands parts levels

def Level.word (level : Level) : Nat := if level.hardened then level.index + 2 ^ 31 else level.index

theorem Level.word_lt (level : Level) : level.word < 2 ^ 32 := by
  have := level.index_lt
  rw [word]
  split <;> omega

def Level.ofWord (n : Nat) : Level := ⟨n % 2 ^ 31, decide (2 ^ 31 ≤ n), Nat.mod_lt n (by decide)⟩

theorem Level.ofWord_word (level : Level) : ofWord level.word = level := by
  have small := level.index_lt
  rw [ofWord, word]
  ext
  · dsimp only
    split <;> omega
  · dsimp only
    cases level.hardened with
    | true =>
      rw [if_pos rfl]
      exact decide_eq_true (by omega)
    | false =>
      rw [if_neg Bool.false_ne_true]
      exact decide_eq_false (by omega)

theorem Level.word_injective : Function.Injective Level.word :=
  Function.LeftInverse.injective Level.ofWord_word

/-! ## Reading a part -/

theorem not_apostrophe {numeral : List Char} {n : Nat} (h : Numeral numeral n) : '\'' ∉ numeral :=
  fun among => absurd (h.mem _ among) (by decide)

theorem splitHardened_marked {numeral : List Char} (h : '\'' ∉ numeral) (hardened : Bool) :
    splitHardened (numeral ++ mark hardened) = (numeral, hardened) := by
  cases hardened with
  | true => simp [splitHardened, mark]
  | false =>
    have last : numeral.getLast? ≠ some '\'' := fun last => h (List.mem_of_getLast? last)
    simp [splitHardened, mark, last]

theorem marked_splitHardened (part : List Char) :
    (splitHardened part).1 ++ mark (splitHardened part).2 = part := by
  rw [splitHardened]
  split
  · rename_i last
    exact List.dropLast_append_getLast? _ last
  · exact List.append_nil part

theorem hardenedBit_eq : hardenedBit = 2 ^ 31 := by decide

theorem readPart_eq_ok_iff {part : List Char} {word : Nat} :
    readPart part = .ok word ↔ ∃ level, Stands part level ∧ word = level.word := by
  constructor
  · intro h
    have whole := marked_splitHardened part
    rw [readPart] at h
    generalize splitHardened part = split at h whole
    obtain ⟨numeral, hardened⟩ := split
    dsimp only at h whole
    cases hn : Text.readNat? UInt32.size numeral with
    | none => rw [hn] at h; cases h
    | some n =>
      rw [hn, hardenedBit_eq] at h
      dsimp only at h
      have small : n < 2 ^ 31 := by
        by_contra large
        rw [if_pos (Nat.not_lt.mp large)] at h
        cases h
      rw [if_neg (Nat.not_le.mpr small)] at h
      have value := (Text.readNat?_eq_some_iff.mp hn).1
      exact ⟨⟨n, hardened, small⟩, ⟨numeral, value, whole.symm⟩, (Except.ok.inj h).symm⟩
  · rintro ⟨level, ⟨numeral, value, rfl⟩, rfl⟩
    have small := level.index_lt
    have read : Text.readNat? UInt32.size numeral = some level.index :=
      Text.readNat?_eq_some_iff.mpr ⟨value, small.trans (by decide)⟩
    rw [readPart, splitHardened_marked (not_apostrophe value)]
    dsimp only
    rw [read, hardenedBit_eq]
    exact if_neg (Nat.not_le.mpr small)

theorem stands_iff {part : List Char} {level : Level} : Stands part level ↔
    readPart part = .ok level.word := by
  rw [readPart_eq_ok_iff]
  refine ⟨fun h => ⟨level, h, rfl⟩, ?_⟩
  rintro ⟨other, h, same⟩
  rwa [Level.word_injective same]

/-! ## Reading a path -/

theorem mem_marked {numeral : List Char} {n : Nat} (h : Numeral numeral n) (hardened : Bool) :
    ∀ c ∈ numeral ++ mark hardened, c = '+' ∨ c.isDigit = true ∨ c = '\'' := by
  intro c hc
  rcases List.mem_append.mp hc with hc | hc
  · exact (h.mem c hc).imp_right .inl
  · rw [mark] at hc
    split at hc
    · exact .inr (.inr (List.mem_singleton.mp hc))
    · cases hc

theorem dropRoot_roots (roots : Nat) {rest : List Char} (h : 'm' ∉ rest.head?) :
    dropRoot ((List.replicate roots ['m', '/']).flatten ++ rest) = rest := by
  induction roots with
  | zero =>
    rw [List.replicate_zero, List.flatten_nil, List.nil_append]
    unfold dropRoot
    split
    · exact absurd rfl h
    · rfl
  | succ roots ih =>
    rw [List.replicate_succ, List.flatten_cons, List.append_assoc]
    exact ih

theorem roots_dropRoot (path : List Char) :
    ∃ roots, path = (List.replicate roots ['m', '/']).flatten ++ dropRoot path := by
  fun_induction dropRoot path with
  | case1 rest ih =>
    obtain ⟨roots, whole⟩ := ih
    refine ⟨roots + 1, ?_⟩
    rw [List.replicate_succ, List.flatten_cons, List.append_assoc, ← whole]
    rfl
  | case2 path => exact ⟨0, rfl⟩

theorem mapM_eq_ok_iff {α β ε : Type} {f : α → Except ε β} {as : List α} {bs : List β} :
    as.mapM f = .ok bs ↔ List.Forall₂ (fun a b => f a = .ok b) as bs := by
  induction as generalizing bs with
  | nil => cases bs <;> simp [pure, Except.pure]
  | cons a as ih =>
    rw [List.mapM_cons, List.forall₂_cons_left_iff]
    simp only [← ih]
    cases f a with
    | error e => simp [bind, Except.bind]
    | ok b =>
      cases as.mapM f with
      | error e => simp [bind, Except.bind]
      | ok rest =>
        simp only [bind, Except.bind, pure, Except.pure, Except.ok.injEq]
        constructor
        · rintro rfl
          exact ⟨b, rest, rfl, rfl, rfl⟩
        · rintro ⟨_, _, rfl, rfl, rfl⟩
          rfl

theorem stands_of_mem {parts : List (List Char)} {levels : List Level}
    (h : List.Forall₂ Stands parts levels) :
    ∀ part ∈ parts, ∃ level, Stands part level := by
  induction h with
  | nil => nofun
  | cons stands _ ih => exact List.forall_mem_cons.mpr ⟨⟨_, stands⟩, ih⟩

theorem splitAt_dropRoot (roots : Nat) {parts : List (List Char)} (filled : parts ≠ [])
    (h : ∀ part ∈ parts, ∀ c ∈ part, c = '+' ∨ c.isDigit = true ∨ c = '\'') :
    Text.splitAt '/'
      (dropRoot ((List.replicate roots ['m', '/']).flatten ++ Text.join ['/'] parts)) = parts := by
  have absent {c : Char} (other : ¬ (c = '+' ∨ c.isDigit = true ∨ c = '\'')) :
    ∀ part ∈ parts, c ∉ part :=
    fun part among inside => other (h part among c inside)
  have noRoot : 'm' ∉ (Text.join ['/'] parts).head? := by
    intro first
    rcases Text.mem_join (List.mem_of_mem_head? first) with same | ⟨part, among, inside⟩
    · exact absurd same (by decide)
    · exact absent (by decide) part among inside
  rw [dropRoot_roots roots noRoot, Text.splitAt_join filled (absent (by decide))]

theorem denotes_iff {path : List Char} {levels : List Level} :
    Denotes path levels ↔
      (Text.splitAt '/' (dropRoot path)).mapM readPart = .ok (levels.map Level.word) := by
  rw [mapM_eq_ok_iff, List.forall₂_map_right_iff]
  simp only [← stands_iff]
  constructor
  · rintro ⟨roots, parts, rfl, filled, stand⟩
    rwa [splitAt_dropRoot roots filled fun part among => ?_]
    obtain ⟨level, numeral, value, rfl⟩ := stands_of_mem stand part among
    exact mem_marked value level.hardened
  · intro stand
    obtain ⟨roots, whole⟩ := roots_dropRoot path
    exact ⟨roots, _, by rwa [Text.join_splitAt], Text.splitAt_ne_nil _ _, stand⟩

theorem Denotes.unique {path : List Char} {levels levels' : List Level} (h : Denotes path levels)
    (h' : Denotes path levels') : levels = levels' := by
  have same := (denotes_iff.mp h).symm.trans (denotes_iff.mp h')
  exact List.map_injective_iff.mpr Level.word_injective (Except.ok.inj same)

theorem words_of_mapM {parts : List (List Char)} {words : List Nat}
    (h : parts.mapM readPart = .ok words) :
    ∃ levels : List Level, words = levels.map Level.word := by
  have each := mapM_eq_ok_iff.mp h
  clear h
  induction each with
  | nil => exact ⟨[], rfl⟩
  | cons read _ ih =>
    obtain ⟨level, -, rfl⟩ := readPart_eq_ok_iff.mp read
    obtain ⟨levels, rfl⟩ := ih
    exact ⟨level :: levels, rfl⟩

/-! ## Paths on the wire -/

def wire (levels : List Level) : Bytes :=
  UInt8.ofNat levels.length :: levels.flatMap fun level => Bytes.ofNat 4 level.word

def decode? : Bytes → Option (List Level)
  | [] => none
  | count :: words =>
    if words.length = 4 * count.toNat then some ((Bytes.chunks 4 words).map fun word =>
      Level.ofWord word.toNat)
    else none

theorem encode_eq_ok_iff {path : List Char} {b : Bytes} :
    encode path = .ok b ↔ ∃ levels, Denotes path levels ∧ levels.length ≤ 255 ∧
      b = wire levels := by
  simp only [denotes_iff]
  unfold encode
  cases read : (Text.splitAt '/' (dropRoot path)).mapM readPart with
  | error fault => simp [bind, Except.bind]
  | ok words =>
    obtain ⟨levels, rfl⟩ := words_of_mapM read
    have bytes : UInt8.ofNat levels.length :: (levels.map Level.word).flatMap (Bytes.ofNat 4) =
      wire levels := by
      rw [wire, List.flatMap_map]
    have only (levels' : List Level) :
        (Except.ok (levels.map Level.word) : Except DeviceFault (List Nat)) =
          .ok (levels'.map Level.word) ↔
          levels' = levels := by
      rw [Except.ok.injEq, (List.map_injective_iff.mpr Level.word_injective).eq_iff, eq_comm]
    simp only [only, exists_eq_left, bind, Except.bind, List.length_map]
    by_cases deep : 256 ≤ levels.length
    · rw [if_pos deep]
      exact iff_of_false nofun fun h => absurd h.1 (by omega)
    · rw [if_neg deep, bytes]
      constructor
      · intro h
        exact ⟨by omega, (Except.ok.inj h).symm⟩
      · rintro ⟨-, rfl⟩
        rfl

theorem length_wire (levels : List Level) : (wire levels).length = 1 + 4 * levels.length := by
  induction levels with
  | nil => rfl
  | cons level levels ih =>
    rw [wire, List.length_cons] at ih
    rw [wire, List.flatMap_cons, List.length_cons, List.length_append, Bytes.length_ofNat,
      List.length_cons]
    omega

theorem decode?_wire {levels : List Level} (h : levels.length ≤ 255) :
    decode? (wire levels) = some levels := by
  have length := length_wire levels
  rw [wire, List.length_cons] at length
  have count : (UInt8.ofNat levels.length).toNat = levels.length := by
    rw [UInt8.toNat_ofNat', Nat.mod_eq_of_lt (by omega)]
  have four : ∀ word ∈ levels.map fun level => Bytes.ofNat 4 level.word, word.length = 4 := by
    simp
  have back (level : Level) : Level.ofWord (Bytes.toNat (Bytes.ofNat 4 level.word)) = level := by
    have small : level.word < 256 ^ 4 := level.word_lt
    rw [Bytes.toNat_ofNat, Nat.mod_eq_of_lt small, Level.ofWord_word]
  rw [wire, decode?, count, if_pos (by omega), List.flatMap_def, Bytes.chunks_flatten_of_length
    (by decide) four,
    List.map_map]
  simp only [Function.comp_def, back, List.map_id']

/-! ## Paths of accounts -/

theorem stands_marked {numeral : List Char} {n : Nat} (h : Numeral numeral n) {hardened : Bool}
    {level : Level} :
    Stands (numeral ++ mark hardened) level ↔ (level.index, level.hardened) = (n, hardened) := by
  constructor
  · rintro ⟨numeral', value, whole⟩
    have split := splitHardened_marked (not_apostrophe value) level.hardened
    rw [← whole, splitHardened_marked (not_apostrophe h)] at split
    obtain ⟨rfl, rfl⟩ := Prod.mk.inj split
    rw [value.unique h]
  · intro same
    obtain ⟨rfl, rfl⟩ := Prod.mk.inj same
    exact ⟨numeral, h, rfl⟩

theorem denotes_digits {numbers : List (Nat × Bool)} (filled : numbers ≠ []) {levels : List Level} :
    Denotes (Text.join ['/'] (numbers.map fun n => Text.digits n.1 ++ mark n.2)) levels ↔
      levels.map (fun level => (level.index, level.hardened)) = numbers := by
  have chars : ∀ part ∈ numbers.map fun n => Text.digits n.1 ++ mark n.2,
      ∀ c ∈ part, c = '+' ∨ c.isDigit = true ∨ c = '\'' := by
    intro part among
    obtain ⟨n, -, rfl⟩ := List.mem_map.mp among
    exact mem_marked (Text.numeral_digits n.1) n.2
  have parts := splitAt_dropRoot 0 (mt List.map_eq_nil_iff.mp filled) chars
  rw [List.replicate_zero, List.flatten_nil, List.nil_append] at parts
  rw [denotes_iff, parts, mapM_eq_ok_iff, List.forall₂_map_right_iff, List.forall₂_map_left_iff]
  simp only [← stands_iff, stands_marked (Text.numeral_digits _)]
  rw [← List.forall₂_eq_eq_eq, List.forall₂_map_left_iff]
  exact ⟨List.Forall₂.flip, List.Forall₂.flip⟩

def accountNumbers (index : UInt32) (legacy : Bool) : List (Nat × Bool) :=
  if legacy then [(44, true), (60, true), (0, true), (index.toNat, false)]
  else [(44, true), (60, true), (index.toNat, true), (0, false), (0, false)]

theorem account_eq (index : UInt32) (legacy : Bool) :
    account index legacy =
      Text.join ['/'] ((accountNumbers index legacy).map fun n => Text.digits n.1 ++ mark n.2) := by
  have written : Text.digits 44 = ['4', '4'] ∧ Text.digits 60 = ['6', '0'] ∧
    Text.digits 0 = ['0'] := by decide
  cases legacy <;> simp [account, accountNumbers, Text.join, mark, written]

theorem denotes_account {index : UInt32} {legacy : Bool} {levels : List Level} :
    Denotes (account index legacy) levels ↔
      levels.map (fun level => (level.index, level.hardened)) = accountNumbers index legacy := by
  have filled : accountNumbers index legacy ≠ [] := by cases legacy <;> exact List.cons_ne_nil _ _
  rw [account_eq, denotes_digits filled]

theorem exists_levels {numbers : List (Nat × Bool)} :
    (∃ levels : List Level, levels.map (fun level => (level.index, level.hardened)) = numbers) ↔
      ∀ n ∈ numbers, n.1 < 2 ^ 31 := by
  constructor
  · rintro ⟨levels, rfl⟩ n among
    obtain ⟨level, -, rfl⟩ := List.mem_map.mp among
    exact level.index_lt
  · intro small
    induction numbers with
    | nil => exact ⟨[], rfl⟩
    | cons n numbers ih =>
      obtain ⟨here, rest⟩ := List.forall_mem_cons.mp small
      obtain ⟨levels, same⟩ := ih rest
      exact ⟨⟨n.1, n.2, here⟩ :: levels, by rw [List.map_cons, same]⟩

theorem exists_denotes_account (index : UInt32) (legacy : Bool) :
    (∃ levels, Denotes (account index legacy) levels) ↔ index.toNat < 2 ^ 31 := by
  simp only [denotes_account, exists_levels]
  cases legacy <;> simp [accountNumbers]

end DerivationPath

open DerivationPath in
/-- A text is encoded just when it is a path of at most 255 levels, and then as their number in a
byte and each level in four, the highest bit for a hardened one. So the bytes tell the levels, paths
have the same bytes just when they have the same levels, and the path of an account is encoded just
when the account's number leaves the highest bit free, and leads to that account. -/
theorem paths_are_encoded :
    (∀ path b, encode path = .ok b ↔ ∃ levels, Denotes path levels ∧ levels.length ≤ 255 ∧
      b = UInt8.ofNat levels.length :: levels.flatMap fun level =>
        Bytes.ofNat 4 (if level.hardened then level.index + 2 ^ 31 else level.index)) ∧
    (∀ path b levels, encode path = .ok b → Denotes path levels →
      b.length = 1 + 4 * levels.length ∧ b.head?.map UInt8.toNat = some levels.length ∧
        decode? b = some levels) ∧
    (∀ path path' b b' levels levels', encode path = .ok b → encode path' = .ok b' →
      Denotes path levels →
      Denotes path' levels' → (b = b' ↔ levels = levels')) ∧
    ∀ index legacy, ((∃ b, encode (account index legacy) = .ok b) ↔ index.toNat < 2 ^ 31) ∧
      ∀ b, encode (account index legacy) = .ok b →
        (decode? b).map (List.map fun level => (level.index, level.hardened)) =
          some (accountNumbers index legacy) := by
  have told {path : List Char} {b : Bytes} {levels : List Level} (encoded : encode path = .ok b)
      (denotes : Denotes path levels) : levels.length ≤ 255 ∧ b = wire levels := by
    obtain ⟨levels', denotes', short, rfl⟩ := encode_eq_ok_iff.mp encoded
    rw [denotes.unique denotes']
    exact ⟨short, rfl⟩
  refine ⟨fun path b => encode_eq_ok_iff, fun path b levels encoded denotes => ?bytes,
    fun path path' b b' levels levels' encoded encoded' denotes denotes' => ?same,
    fun index legacy => ⟨?free, ?account⟩⟩
  case bytes =>
    obtain ⟨short, rfl⟩ := told encoded denotes
    refine ⟨length_wire levels, ?_, decode?_wire short⟩
    rw [wire, List.head?_cons, Option.map_some, UInt8.toNat_ofNat', Nat.mod_eq_of_lt (by omega)]
  case same =>
    obtain ⟨short, rfl⟩ := told encoded denotes
    obtain ⟨short', rfl⟩ := told encoded' denotes'
    refine ⟨fun equal => ?_, fun equal => by rw [equal]⟩
    have read := decode?_wire short
    rw [equal, decode?_wire short'] at read
    exact (Option.some.inj read).symm
  case free =>
    rw [← exists_denotes_account index legacy]
    constructor
    · rintro ⟨b, encoded⟩
      obtain ⟨levels, denotes, -⟩ := encode_eq_ok_iff.mp encoded
      exact ⟨levels, denotes⟩
    · rintro ⟨levels, denotes⟩
      have short : levels.length ≤ 255 := by
        rw [← List.length_map, denotes_account.mp denotes]
        cases legacy <;> simp [accountNumbers]
      exact ⟨_, encode_eq_ok_iff.mpr ⟨levels, denotes, short, rfl⟩⟩
  case account =>
    intro b encoded
    obtain ⟨levels, denotes, short, rfl⟩ := encode_eq_ok_iff.mp encoded
    rw [decode?_wire short, Option.map_some, denotes_account.mp denotes]

open DerivationPath in
theorem adorned_path_encoded :
    encode "m/m/+044'/60/0'".toList = .ok [3, 0x80, 0, 0, 44, 0, 0, 0, 60, 0x80, 0, 0, 0] ∧
    ∃ levels, Denotes "m/m/+044'/60/0'".toList levels ∧
      decode? [3, 0x80, 0, 0, 44, 0, 0, 0, 60, 0x80, 0, 0, 0] = some levels := by
  have encoded :
    encode "m/m/+044'/60/0'".toList = .ok [3, 0x80, 0, 0, 44, 0, 0, 0, 60, 0x80, 0, 0, 0] := by rfl
  obtain ⟨accepted, read, -⟩ := paths_are_encoded
  obtain ⟨levels, denotes, -⟩ := (accepted _ _).mp encoded
  exact ⟨encoded, levels, denotes, (read _ _ _ encoded denotes).2.2⟩

end Dispatch
