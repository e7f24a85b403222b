import Dispatch.Text.Blank
import Mathlib.Data.List.DropRight
import Mathlib.Data.List.TakeDrop

/-!
# Lines and their blanks

A text is its lines joined, and lines are got back from the joined text. Blanks around a text, and
empty lines around its lines, go when it is trimmed. A replacement leaves alone what does not start
with the first character of what it looks for.
-/

set_option autoImplicit false

namespace Dispatch.Text

/-! ## Trimming -/

def Trimmed (cs : List Char) : Prop :=
  (∀ c ∈ cs.head?, isBlank c = false) ∧ ∀ c ∈ cs.getLast?, isBlank c = false

instance (cs : List Char) : Decidable (Trimmed cs) :=
  decidable_of_iff (cs.head?.all (!isBlank ·) = true ∧ cs.getLast?.all (!isBlank ·) = true)
    (by simp [Trimmed, Option.all_eq_true])

section
variable {cs a b : List Char}

theorem trimStart_append (h : ∀ c ∈ a, isBlank c = true) : trimStart (a ++ cs) = trimStart cs :=
  List.dropWhile_append_of_pos h

theorem trimEnd_append (h : ∀ c ∈ b, isBlank c = true) : trimEnd (cs ++ b) = trimEnd cs := by
  have back : ∀ c ∈ b.reverse, isBlank c = true := fun c hc => h c (List.mem_reverse.mp hc)
  rw [trimEnd, List.reverse_append, List.dropWhile_append_of_pos back]
  rfl

theorem trim_blank_append (h : ∀ c ∈ a, isBlank c = true) : trim (a ++ cs) = trim cs := by
  rw [trim, trimStart_append h, trim]

theorem trim_append_blank (h : ∀ c ∈ b, isBlank c = true) : trim (cs ++ b) = trim cs := by
  have all : trimStart b = [] := List.dropWhile_eq_nil_iff.mpr h
  rw [trim, trim, trimStart, List.dropWhile_append]
  by_cases blank : (cs.dropWhile isBlank).isEmpty = true
  · have none : trimStart cs = [] := List.isEmpty_iff.mp blank
    rw [if_pos blank, none]
    exact congrArg trimEnd all
  · rw [if_neg blank, trimEnd_append h]
    rfl

theorem trimStart_eq_self (h : ∀ c ∈ cs.head?, isBlank c = false) : trimStart cs = cs := by
  cases cs with
  | nil => rfl
  | cons c cs => simp [trimStart, h c rfl]

theorem trimEnd_eq_self (h : ∀ c ∈ cs.getLast?, isBlank c = false) : trimEnd cs = cs := by
  rw [← List.head?_reverse] at h
  have back : cs.reverse.dropWhile isBlank = cs.reverse := trimStart_eq_self h
  rw [trimEnd, back, List.reverse_reverse]

theorem Trimmed.trim_eq (h : Trimmed cs) : trim cs = cs := by
  rw [trim, trimStart_eq_self h.1, trimEnd_eq_self h.2]

theorem head?_trimStart (cs : List Char) : ∀ c ∈ (trimStart cs).head?, isBlank c = false := by
  intro c hc
  have stop := List.head?_dropWhile_not isBlank cs
  rw [trimStart] at hc
  rwa [hc] at stop

theorem getLast?_trimEnd (cs : List Char) : ∀ c ∈ (trimEnd cs).getLast?, isBlank c = false := by
  rw [trimEnd, List.getLast?_reverse]
  exact head?_trimStart cs.reverse

theorem head?_trimEnd {c : Char} (h : c ∈ (trimEnd cs).head?) : c ∈ cs.head? := by
  obtain ⟨rest, whole⟩ : trimEnd cs <+: cs := List.rdropWhile_prefix isBlank cs
  rw [← whole, List.head?_append, Option.mem_def.mp h]
  rfl

theorem trimmed_trim (cs : List Char) : Trimmed (trim cs) :=
  ⟨fun c hc => head?_trimStart cs c (head?_trimEnd hc), getLast?_trimEnd (trimStart cs)⟩

theorem trimmed_of_noBlank (h : ∀ c ∈ cs, isBlank c = false) : Trimmed cs :=
  ⟨fun c hc => h c (List.mem_of_mem_head? hc), fun c hc => h c (List.mem_of_mem_getLast? hc)⟩

theorem trim_of_noBlank (h : ∀ c ∈ cs, isBlank c = false) : trim cs = cs :=
  (trimmed_of_noBlank h).trim_eq

end

theorem trimStart_subset (cs : List Char) : trimStart cs ⊆ cs :=
  (List.dropWhile_sublist isBlank).subset

theorem trim_subset (cs : List Char) : trim cs ⊆ cs := by
  intro c hc
  have kept : c ∈ ((trimStart cs).reverse.dropWhile isBlank).reverse := hc
  rw [List.mem_reverse] at kept
  exact trimStart_subset cs (List.mem_reverse.mp ((List.dropWhile_sublist isBlank).subset kept))

/-! ## Parts and lines -/

section
variable {sep : Char} {part cs : List Char} {parts : List (List Char)}

theorem splitAt_ne_nil (sep : Char) (cs : List Char) : splitAt sep cs ≠ [] := by
  cases cs with
  | nil => exact List.cons_ne_nil _ _
  | cons c cs =>
    rw [splitAt]
    split
    · exact List.cons_ne_nil _ _
    · split <;> exact List.cons_ne_nil _ _

theorem splitAt_of_not_mem (h : sep ∉ part) : splitAt sep part = [part] := by
  induction part with
  | nil => rfl
  | cons c part ih =>
    obtain ⟨other, rest⟩ := List.ne_and_not_mem_of_not_mem_cons h
    rw [splitAt, if_neg (Ne.symm other), ih rest]

theorem splitAt_append (h : sep ∉ part) :
    splitAt sep (part ++ sep :: cs) = part :: splitAt sep cs := by
  induction part with
  | nil => rw [List.nil_append, splitAt, if_pos rfl]
  | cons c part ih =>
    obtain ⟨other, rest⟩ := List.ne_and_not_mem_of_not_mem_cons h
    rw [List.cons_append, splitAt, if_neg (Ne.symm other), ih rest]

theorem join_cons (h : parts ≠ []) :
    join [sep] (part :: parts) = part ++ sep :: join [sep] parts := by
  cases parts with
  | nil => exact absurd rfl h
  | cons next parts => simp [join]

theorem join_concat (h : parts ≠ []) :
    join [sep] (parts ++ [part]) = join [sep] parts ++ sep :: part := by
  induction parts with
  | nil => exact absurd rfl h
  | cons first parts ih =>
    by_cases last : parts = []
    · subst last
      exact join_cons (List.cons_ne_nil _ _)
    · rw [List.cons_append, join_cons (List.append_ne_nil_of_left_ne_nil last _), ih last,
        join_cons last,
        List.append_assoc, List.cons_append]

theorem subset_join (h : part ∈ parts) : part ⊆ join [sep] parts := by
  induction parts with
  | nil => cases h
  | cons first parts ih =>
    by_cases last : parts = []
    · subst last
      rw [List.mem_singleton.mp h]
      exact List.Subset.refl _
    · rw [join_cons last]
      rcases List.mem_cons.mp h with rfl | later
      · exact List.subset_append_left _ _
      · exact fun c hc => List.mem_append_right _ (List.mem_cons_of_mem _ (ih later hc))

theorem mem_join {c : Char} (h : c ∈ join [sep] parts) : c = sep ∨ ∃ part ∈ parts, c ∈ part := by
  induction parts with
  | nil => cases h
  | cons first parts ih =>
    by_cases last : parts = []
    · subst last
      exact .inr ⟨first, List.mem_cons_self, h⟩
    · rw [join_cons last] at h
      rcases List.mem_append.mp h with h | h
      · exact .inr ⟨first, List.mem_cons_self, h⟩
      · rcases List.mem_cons.mp h with same | later
        · exact .inl same
        · exact (ih later).imp_right fun ⟨part, among, found⟩ =>
            ⟨part, List.mem_cons_of_mem _ among, found⟩

theorem join_splitAt (sep : Char) (cs : List Char) : join [sep] (splitAt sep cs) = cs := by
  induction cs with
  | nil => rfl
  | cons c cs ih =>
    rw [splitAt]
    by_cases same : c = sep
    · rw [if_pos same, join_cons (splitAt_ne_nil sep cs), ih, same]
      rfl
    · rw [if_neg same]
      cases whole : splitAt sep cs with
      | nil => exact absurd whole (splitAt_ne_nil sep cs)
      | cons part parts =>
        rw [whole] at ih
        cases parts with
        | nil => exact congrArg (c :: ·) ih
        | cons next parts => exact congrArg (c :: ·) ih

theorem subset_of_mem_splitAt (h : part ∈ splitAt sep cs) : part ⊆ cs := by
  have within : part ⊆ join [sep] (splitAt sep cs) := subset_join h
  rwa [join_splitAt] at within

theorem not_mem_of_mem_splitAt (h : part ∈ splitAt sep cs) : sep ∉ part := by
  induction cs generalizing part with
  | nil =>
    rw [List.mem_singleton.mp h]
    exact List.not_mem_nil
  | cons c cs ih =>
    rw [splitAt] at h
    by_cases same : c = sep
    · rw [if_pos same] at h
      rcases List.mem_cons.mp h with rfl | later
      · exact List.not_mem_nil
      · exact ih later
    · rw [if_neg same] at h
      cases whole : splitAt sep cs with
      | nil => exact absurd whole (splitAt_ne_nil sep cs)
      | cons first rest =>
        rw [whole] at h ih
        rcases List.mem_cons.mp h with rfl | later
        · exact List.not_mem_cons_of_ne_of_not_mem (Ne.symm same) (ih List.mem_cons_self)
        · exact ih (List.mem_cons_of_mem _ later)

theorem dropReturn_subset (cs : List Char) : dropReturn cs ⊆ cs := by
  unfold dropReturn
  split
  · exact List.dropLast_subset cs
  · exact List.Subset.refl cs

theorem trim_dropReturn (cs : List Char) : trim (dropReturn cs) = trim cs := by
  unfold dropReturn
  split
  next h =>
    obtain ⟨front, rfl⟩ := List.getLast?_eq_some_iff.mp h
    have blank : ∀ c ∈ ['\r'], isBlank c = true := List.forall_mem_singleton.mpr rfl
    rw [List.dropLast_concat, trim_append_blank blank]
  next => rfl

theorem lines_append (h : '\n' ∉ part) :
    lines (part ++ '\n' :: cs) = dropReturn part :: lines cs := by
  have more := splitAt_ne_nil '\n' cs
  simp only [lines, splitAt_append h, List.dropLast_cons_of_ne_nil more,
    List.getLast?_cons_of_ne_nil more]
  cases (splitAt '\n' cs).getLast? with
  | none => rfl
  | some last => cases last <;> rfl

theorem lines_of_not_mem (h : '\n' ∉ part) : lines part = if part = [] then [] else [part] := by
  simp only [lines, splitAt_of_not_mem h]
  cases part <;> rfl

theorem subset_of_mem_lines (h : part ∈ lines cs) : ∃ whole ∈ splitAt '\n' cs, part ⊆ whole := by
  have ended : part ∈ (splitAt '\n' cs).dropLast.map dropReturn →
    ∃ whole ∈ splitAt '\n' cs, part ⊆ whole := by
    intro h
    obtain ⟨whole, found, rfl⟩ := List.mem_map.mp h
    exact ⟨whole, List.dropLast_subset _ found, dropReturn_subset whole⟩
  simp only [lines] at h
  split at h
  next => exact ended h
  next last _ found =>
    rcases List.mem_append.mp h with h | h
    · exact ended h
    · rw [List.mem_singleton.mp h]
      exact ⟨last, List.mem_of_getLast? found, List.Subset.refl last⟩
  next => exact ended h

end

/-! ## Empty lines at the ends -/

section
variable {part : List Char} {parts : List (List Char)}

theorem blank_lineFeed : ∀ c ∈ ['\n'], isBlank c = true := List.forall_mem_singleton.mpr rfl

theorem trim_join_nil_cons (parts : List (List Char)) :
    trim (join ['\n'] ([] :: parts)) = trim (join ['\n'] parts) := by
  by_cases last : parts = []
  · subst last
    rfl
  · rw [join_cons last]
    exact trim_blank_append (a := ['\n']) blank_lineFeed

theorem trim_join_concat_nil (parts : List (List Char)) :
    trim (join ['\n'] (parts ++ [[]])) = trim (join ['\n'] parts) := by
  by_cases first : parts = []
  · subst first
    rfl
  · rw [join_concat first, trim_append_blank blank_lineFeed]

theorem trim_join_empties (m n : ℕ) (parts : List (List Char)) :
    trim (join ['\n'] (List.replicate m [] ++ parts ++ List.replicate n [])) =
      trim (join ['\n'] parts) := by
  induction m with
  | zero =>
    induction n with
    | zero => rw [List.replicate_zero, List.nil_append, List.append_nil]
    | succ n ih => rw [List.replicate_succ', ← List.append_assoc, trim_join_concat_nil, ih]
  | succ m ih =>
      rw [List.replicate_succ, List.cons_append, List.cons_append, trim_join_nil_cons, ih]

theorem head?_join_cons (h : part ≠ []) (parts : List (List Char)) :
    (join ['\n'] (part :: parts)).head? = part.head? := by
  by_cases last : parts = []
  · subst last
    rfl
  · rw [join_cons last, List.head?_append_of_ne_nil part h]

theorem getLast?_join_concat (h : part ≠ []) (parts : List (List Char)) :
    (join ['\n'] (parts ++ [part])).getLast? = part.getLast? := by
  by_cases first : parts = []
  · subst first
    rfl
  · rw [join_concat first, List.getLast?_append_of_ne_nil _ (List.cons_ne_nil _ part),
      List.getLast?_cons_of_ne_nil h]

theorem trimStart_join (h : ∀ part ∈ parts, Trimmed part) :
    ∃ left, left ⊆ parts ∧ trimStart (join ['\n'] parts) = join ['\n'] left := by
  induction parts with
  | nil => exact ⟨[], List.Subset.refl [], rfl⟩
  | cons part parts ih =>
    obtain ⟨first, rest⟩ := List.forall_mem_cons.mp h
    by_cases empty : part = []
    · subst empty
      obtain ⟨left, among, whole⟩ := ih rest
      refine ⟨left, List.subset_cons_of_subset _ among, ?_⟩
      by_cases last : parts = []
      · subst last
        exact whole
      · rw [join_cons last, ← whole]
        exact trimStart_append (a := ['\n']) blank_lineFeed
    · refine ⟨part :: parts, List.Subset.refl _, trimStart_eq_self ?_⟩
      rw [head?_join_cons empty]
      exact first.1

theorem trimEnd_join (h : ∀ part ∈ parts, Trimmed part) :
    ∃ left, left ⊆ parts ∧ trimEnd (join ['\n'] parts) = join ['\n'] left := by
  -- from the last line on, where the blanks are dropped
  induction parts using List.reverseRecOn with
  | nil => exact ⟨[], List.Subset.refl [], rfl⟩
  | append_singleton parts part ih =>
    by_cases empty : part = []
    · subst empty
      obtain ⟨left, among, whole⟩ := ih fun part hp => h part (List.mem_append_left _ hp)
      refine ⟨left, List.subset_append_of_subset_left _ among, ?_⟩
      by_cases first : parts = []
      · subst first
        exact whole
      · rw [join_concat first, ← whole, trimEnd_append blank_lineFeed]
    · refine ⟨parts ++ [part], List.Subset.refl _, trimEnd_eq_self ?_⟩
      rw [getLast?_join_concat empty]
      exact (h part (List.mem_append_right _ List.mem_cons_self)).2

theorem trim_join (h : ∀ part ∈ parts, Trimmed part) :
    ∃ left, left ⊆ parts ∧ trim (join ['\n'] parts) = join ['\n'] left := by
  obtain ⟨later, among, start⟩ := trimStart_join h
  obtain ⟨left, of_those, whole⟩ := trimEnd_join fun part hp => h part (among hp)
  exact ⟨left, List.Subset.trans of_those among, by rw [trim, start, whole]⟩

theorem trimmed_join (h : ∀ part ∈ parts, Trimmed part) (first : ∀ part ∈ parts.head?, part ≠ [])
    (last : ∀ part ∈ parts.getLast?, part ≠ []) : Trimmed (join ['\n'] parts) := by
  constructor
  · cases parts with
    | nil => exact fun c hc => nomatch hc
    | cons part parts =>
      rw [head?_join_cons (first part rfl)]
      exact (h part List.mem_cons_self).1
  · cases parts using List.reverseRecOn with
    | nil => exact fun c hc => nomatch hc
    | append_singleton parts part =>
      rw [getLast?_join_concat (last part List.getLast?_concat)]
      exact (h part (List.mem_append_right _ List.mem_cons_self)).2

end

/-! ## Occurrences -/

section
variable {c : Char} {needle by_ a cs : List Char}

theorem strip?_append (needle cs : List Char) : strip? needle (needle ++ cs) = some cs := by
  induction needle with
  | nil => rfl
  | cons c needle ih => rw [List.cons_append, strip?, if_pos rfl, ih]

theorem strip?_eq_some {rest : List Char} (h : strip? needle cs = some rest) :
    cs = needle ++ rest := by
  induction needle generalizing cs with
  | nil => exact Option.some.inj h
  | cons c needle ih =>
    cases cs with
    | nil => cases h
    | cons d cs =>
      rw [strip?] at h
      by_cases same : c = d
      · rw [if_pos same] at h
        rw [same, ih h, List.cons_append]
      · rw [if_neg same] at h
        cases h

theorem contains_append_self (needle cs : List Char) : contains needle (needle ++ cs) = true := by
  cases whole : needle ++ cs with
  | nil =>
    rw [(List.append_eq_nil_iff.mp whole).1]
    rfl
  | cons c rest => rw [contains, ← whole, strip?_append, Option.isSome_some, Bool.true_or]

theorem contains_subset (h : contains needle cs = true) : needle ⊆ cs := by
  induction cs with
  | nil =>
    rw [List.isEmpty_iff.mp h]
    exact List.Subset.refl []
  | cons c cs ih =>
    rcases Bool.or_eq_true_iff.mp h with here | later
    · obtain ⟨rest, found⟩ := Option.isSome_iff_exists.mp here
      rw [strip?_eq_some found]
      exact List.subset_append_left needle rest
    · exact List.subset_cons_of_subset c (ih later)

theorem contains_append (a : List Char) (h : contains needle cs = true) :
    contains needle (a ++ cs) = true := by
  induction a with
  | nil => exact h
  | cons c a ih => rw [List.cons_append, contains, ih, Bool.or_true]

theorem replace_cons_of_ne {d : Char} (h : d ≠ c) :
    replace (c :: needle) by_ (d :: cs) = d :: replace (c :: needle) by_ cs := by
  rw [replace, strip?, if_neg (Ne.symm h)]
  rfl

theorem replace_append (h : c ∉ a) :
    replace (c :: needle) by_ (a ++ cs) = a ++ replace (c :: needle) by_ cs := by
  induction a with
  | nil => rfl
  | cons d a ih =>
    obtain ⟨other, rest⟩ := List.ne_and_not_mem_of_not_mem_cons h
    rw [List.cons_append, replace_cons_of_ne (Ne.symm other), ih rest, List.cons_append]

theorem replace_of_not_mem (h : c ∉ cs) : replace (c :: needle) by_ cs = cs := by
  have whole : replace (c :: needle) by_ (cs ++ []) = cs ++ replace (c :: needle) by_ [] :=
    replace_append h
  rwa [List.append_nil, replace, List.append_nil] at whole

theorem replace_found (c : Char) (needle by_ cs : List Char) :
    replace (c :: needle) by_ (c :: needle ++ cs) = by_ ++ replace (c :: needle) by_ cs := by
  have found := strip?_append (c :: needle) cs
  rw [List.cons_append] at found ⊢
  rw [replace, found]
  simp

end

end Dispatch.Text
