import HidMend.Text.Blank
import Mathlib.Tactic.Common
import Mathlib.Data.List.Basic
import Mathlib.Data.List.TakeWhile

/-!
# White space around words and between them

A text has one core, the part that neither begins nor ends with white space and has nothing else
around it, and one list of words, with white space between any two of them.  Trimming gives the core
and splitting gives the words.  What is known about words comes from one equation: a white space
character cuts a text into two, and the words of the second follow those of the first.
-/

namespace HidMend.Text

/-- White space only. -/
def IsGap (gap : List Char) : Prop :=
  ∀ char ∈ gap, isBlank char = true

/-- No white space at all. -/
def IsSolid (text : List Char) : Prop :=
  ∀ char ∈ text, isBlank char = false

/-- The core of a text: what is left without the white space around it. -/
structure TrimsTo (text core : List Char) : Prop where
  around : ∃ front back, IsGap front ∧ IsGap back ∧ text = front ++ core ++ back
  head_solid : ∀ char ∈ core.head?, isBlank char = false
  last_solid : ∀ char ∈ core.getLast?, isBlank char = false

instance (gap : List Char) : Decidable (IsGap gap) :=
  List.decidableBAll (fun char => isBlank char = true) gap

instance (text : List Char) : Decidable (IsSolid text) :=
  List.decidableBAll (fun char => isBlank char = false) text

structure IsWord (word : List Char) : Prop where
  ne_nil : word ≠ []
  solid : IsSolid word

/-- The words of a text in their order.  At least one white space character stands between a word
and what comes behind it, so that no word can be taken for two or two for one. -/
inductive Separated : List Char → List (List Char) → Prop
  | gap {gap : List Char} (hgap : IsGap gap) : Separated gap []
  | last {gap word : List Char} (hgap : IsGap gap) (hword : IsWord word) :
      Separated (gap ++ word) [word]
  | cons {gap word rest : List Char} {char : Char} {words : List (List Char)} (hgap : IsGap gap)
      (hword : IsWord word) (hchar : isBlank char = true) (hrest : Separated rest words) :
      Separated (gap ++ word ++ char :: rest) (word :: words)

variable {text core front back gap word left right : List Char} {separator char : Char}
  {found : List (List Char)}

theorem isGap_nil : IsGap [] := by
  simp [IsGap]

theorem IsGap.cons (hchar : isBlank char = true) (hgap : IsGap gap) : IsGap (char :: gap) :=
  List.forall_mem_cons.mpr ⟨hchar, hgap⟩

theorem isSolid_nil : IsSolid [] := by
  simp [IsSolid]

theorem isSolid_append_iff : IsSolid (left ++ right) ↔ IsSolid left ∧ IsSolid right :=
  List.forall_mem_append

/-! ## The core of a text -/

theorem trimStart_append (hgap : IsGap gap) (text : List Char) :
    trimStart (gap ++ text) = trimStart text :=
  List.dropWhile_append_of_pos hgap

theorem trimStart_of_head_solid (hhead : ∀ char ∈ text.head?, isBlank char = false) :
    trimStart text = text := by
  cases text with
  | nil => rfl
  | cons char rest => exact List.dropWhile_cons_of_neg (by simp [hhead char rfl])

/-- The end of a text is the start of the text read backwards. -/
theorem trimEnd_eq (text : List Char) : trimEnd text = (trimStart text.reverse).reverse :=
  rfl

theorem trimEnd_append (hgap : IsGap gap) (text : List Char) :
    trimEnd (text ++ gap) = trimEnd text := by
  have hreverse : IsGap gap.reverse := fun char hchar => hgap char (List.mem_reverse.mp hchar)
  rw [trimEnd_eq, List.reverse_append, trimStart_append hreverse, trimEnd_eq]

theorem trimEnd_of_last_solid (hlast : ∀ char ∈ text.getLast?, isBlank char = false) :
    trimEnd text = text := by
  rw [trimEnd_eq, trimStart_of_head_solid (by rwa [List.head?_reverse]), List.reverse_reverse]

theorem exists_trimStart (text : List Char) :
    (∃ gap, IsGap gap ∧ text = gap ++ trimStart text) ∧
      ∀ char ∈ (trimStart text).head?, isBlank char = false := by
  refine ⟨⟨text.takeWhile isBlank, ?_, List.takeWhile_append_dropWhile.symm⟩, ?_⟩
  · intro char hchar
    exact List.mem_takeWhile_imp hchar
  · intro char hchar
    have hhead := List.head?_dropWhile_not isBlank text
    rw [trimStart] at hchar
    rw [Option.mem_def.mp hchar] at hhead
    simpa using hhead

theorem exists_trimEnd (text : List Char) :
    (∃ gap, IsGap gap ∧ text = trimEnd text ++ gap) ∧
      ∀ char ∈ (trimEnd text).getLast?, isBlank char = false := by
  obtain ⟨⟨gap, hgap, htext⟩, hhead⟩ := exists_trimStart text.reverse
  rw [trimEnd_eq, List.getLast?_reverse]
  refine ⟨⟨gap.reverse, fun char hchar => hgap char (List.mem_reverse.mp hchar), ?_⟩, hhead⟩
  rw [← List.reverse_append, ← htext, List.reverse_reverse]

theorem TrimsTo.trim_eq (htrims : TrimsTo text core) : trim text = core := by
  obtain ⟨⟨front, back, hfront, hback, rfl⟩, hhead, hlast⟩ := htrims
  by_cases hcore : core = []
  · subst hcore
    rw [List.append_nil, trim, trimStart_append hfront, ← List.append_nil back,
      trimStart_append hback]
    rfl
  · have hstart : ∀ char ∈ (core ++ back).head?, isBlank char = false := by
      rwa [List.head?_append_of_ne_nil _ hcore]
    rw [List.append_assoc, trim, trimStart_append hfront, trimStart_of_head_solid hstart,
      trimEnd_append hback, trimEnd_of_last_solid hlast]

theorem trimsTo_trim (text : List Char) : TrimsTo text (trim text) := by
  obtain ⟨⟨front, hfront, htext⟩, hhead⟩ := exists_trimStart text
  obtain ⟨⟨back, hback, hstart⟩, hlast⟩ := exists_trimEnd (trimStart text)
  refine ⟨⟨front, back, hfront, hback, ?_⟩, ?_, hlast⟩
  · rw [trim, List.append_assoc, ← hstart, ← htext]
  · intro char hchar
    apply hhead
    rw [hstart, ← trim, List.head?_append, Option.mem_def.mp hchar]
    rfl

/-- Trimming leaves what begins and ends with no white space, between white space. -/
theorem trim_eq_iff : trim text = core ↔ TrimsTo text core := by
  constructor
  · rintro rfl
    exact trimsTo_trim text
  · exact TrimsTo.trim_eq

/-- White space behind a text does not change its core. -/
theorem TrimsTo.append_gap (htrims : TrimsTo text core) (hgap : IsGap gap) :
    TrimsTo (text ++ gap) core := by
  obtain ⟨⟨front, back, hfront, hback, rfl⟩, hhead, hlast⟩ := htrims
  have hlonger : IsGap (back ++ gap) := List.forall_mem_append.mpr ⟨hback, hgap⟩
  exact ⟨⟨front, back ++ gap, hfront, hlonger, List.append_assoc _ _ _⟩, hhead, hlast⟩

theorem existsUnique_trimsTo (text : List Char) : ∃! core, TrimsTo text core := by
  simp only [← trim_eq_iff]
  exact existsUnique_eq'

/-- Without white space of its own a text is the core of what it is put into. -/
theorem IsSolid.trimsTo (hsolid : IsSolid core) (hfront : IsGap front) (hback : IsGap back) :
    TrimsTo (front ++ core ++ back) core where
  around := ⟨front, back, hfront, hback, rfl⟩
  head_solid _ hchar := hsolid _ (List.mem_of_mem_head? hchar)
  last_solid _ hchar := hsolid _ (List.mem_of_getLast? hchar)

/-! ## The first separator -/

theorem splitFirst?_append (hfront : separator ∉ front) (rest : List Char) :
    splitFirst? separator (front ++ separator :: rest) = some (front, rest) := by
  induction front with
  | nil => simp [splitFirst?]
  | cons char front ih =>
      simp only [List.mem_cons, not_or] at hfront
      rw [List.cons_append, splitFirst?, if_neg (Ne.symm hfront.1), ih hfront.2]
      rfl

theorem splitFirst?_of_not_mem (hnone : separator ∉ text) : splitFirst? separator text = none := by
  induction text with
  | nil => rfl
  | cons char rest ih =>
      simp only [List.mem_cons, not_or] at hnone
      rw [splitFirst?, if_neg (Ne.symm hnone.1), ih hnone.2]
      rfl

/-- A text is divided by the first occurrence of a separator in one way only. -/
theorem append_separator_inj {otherLeft otherRight : List Char} (hleft : separator ∉ left)
    (hother : separator ∉ otherLeft)
    (heq : left ++ separator :: right = otherLeft ++ separator :: otherRight) :
    left = otherLeft ∧ right = otherRight := by
  have hsplit := splitFirst?_append hleft right
  rw [heq, splitFirst?_append hother] at hsplit
  cases hsplit
  exact ⟨rfl, rfl⟩

/-! ## Words -/

theorem wordsFrom_cons_of_blank (hchar : isBlank char = true) (word rest : List Char) :
    wordsFrom word (char :: rest) = wordsFrom word [] ++ words rest := by
  rw [wordsFrom.eq_2, if_pos hchar, wordsFrom.eq_1]
  split_ifs <;> rfl

theorem wordsFrom_cons_of_solid (hchar : isBlank char = false) (word rest : List Char) :
    wordsFrom word (char :: rest) = wordsFrom (word ++ [char]) rest := by
  rw [wordsFrom, if_neg (by simp [hchar])]

theorem wordsFrom_append_blank (hchar : isBlank char = true) (word left right : List Char) :
    wordsFrom word (left ++ char :: right) = wordsFrom word left ++ words right := by
  induction left generalizing word with
  | nil => exact wordsFrom_cons_of_blank hchar word right
  | cons first left ih =>
      rw [List.cons_append]
      cases hfirst : isBlank first with
      | true =>
          simp only [wordsFrom_cons_of_blank hfirst, words, ih, List.append_assoc]
      | false => rw [wordsFrom_cons_of_solid hfirst, wordsFrom_cons_of_solid hfirst, ih]

/-- White space cuts a text into two. -/
theorem words_append_blank (hchar : isBlank char = true) (left right : List Char) :
    words (left ++ char :: right) = words left ++ words right :=
  wordsFrom_append_blank hchar [] left right

theorem words_gap_append (hgap : IsGap gap) (text : List Char) :
    words (gap ++ text) = words text := by
  induction gap with
  | nil => rfl
  | cons char gap ih =>
      obtain ⟨hchar, hgap⟩ := List.forall_mem_cons.mp hgap
      rw [List.cons_append]
      exact (words_append_blank hchar [] _).trans (ih hgap)

theorem words_of_isGap (hgap : IsGap gap) : words gap = [] := by
  rw [← List.append_nil gap, words_gap_append hgap]
  rfl

theorem wordsFrom_of_isSolid (hsolid : IsSolid text) (word : List Char) :
    wordsFrom word text = wordsFrom (word ++ text) [] := by
  induction text generalizing word with
  | nil => rw [List.append_nil]
  | cons char rest ih =>
      obtain ⟨hchar, hrest⟩ := List.forall_mem_cons.mp hsolid
      rw [wordsFrom_cons_of_solid hchar, ih hrest, List.append_assoc, List.singleton_append]

theorem IsWord.words_eq (hword : IsWord word) : words word = [word] := by
  rw [words, wordsFrom_of_isSolid hword.solid, List.nil_append, wordsFrom,
    if_neg (by simp [hword.ne_nil])]

theorem Separated.words_eq (hseparated : Separated text found) : words text = found := by
  induction hseparated with
  | gap hgap => exact words_of_isGap hgap
  | last hgap hword => rw [words_gap_append hgap, hword.words_eq]
  | cons hgap hword hchar _ ih =>
      rw [words_append_blank hchar, words_gap_append hgap, hword.words_eq, ih]
      rfl

theorem Separated.cons_blank (hchar : isBlank char = true) (hseparated : Separated text found) :
    Separated (char :: text) found := by
  cases hseparated with
  | gap hgap => exact .gap (hgap.cons hchar)
  | last hgap hword => exact .last (hgap.cons hchar) hword
  | cons hgap hword hblank hrest => exact .cons (hgap.cons hchar) hword hblank hrest

/-- The word that is being read stands in front of the text that is left. -/
theorem separated_wordsFrom (hsolid : IsSolid word) (text : List Char) :
    Separated (word ++ text) (wordsFrom word text) := by
  induction text generalizing word with
  | nil =>
      rw [wordsFrom, List.append_nil]
      split_ifs with hempty
      · rw [List.isEmpty_iff.mp hempty]
        exact .gap isGap_nil
      · exact .last isGap_nil ⟨by simpa using hempty, hsolid⟩
  | cons char rest ih =>
      have hrest : Separated rest (wordsFrom [] rest) := ih isSolid_nil
      rw [wordsFrom]
      split_ifs with hchar hempty
      · rw [List.isEmpty_iff.mp hempty]
        exact hrest.cons_blank hchar
      · exact .cons isGap_nil ⟨by simpa using hempty, hsolid⟩ hchar hrest
      · have hlonger : IsSolid (word ++ [char]) :=
          isSolid_append_iff.mpr ⟨hsolid, by simpa [IsSolid] using hchar⟩
        simpa using ih hlonger

/-- White space between two texts keeps their words apart. -/
theorem words_append_gap_append (hgap : IsGap gap) (hne : gap ≠ []) (left right : List Char) :
    words (left ++ gap ++ right) = words left ++ words right := by
  obtain ⟨char, gap, rfl⟩ := List.exists_cons_of_ne_nil hne
  obtain ⟨hchar, hgap⟩ := List.forall_mem_cons.mp hgap
  rw [List.append_assoc, List.cons_append, words_append_blank hchar, words_gap_append hgap]

/-- Words with one white space character between them. -/
theorem separated_intercalate (hchar : isBlank char = true) (hwords : ∀ word ∈ found, IsWord word) :
    Separated (List.intercalate [char] found) found := by
  induction found with
  | nil => exact .gap isGap_nil
  | cons word more ih =>
      obtain ⟨hword, hmore⟩ := List.forall_mem_cons.mp hwords
      cases more with
      | nil =>
          rw [List.intercalate_singleton]
          exact .last isGap_nil hword
      | cons next more =>
          rw [List.intercalate_cons_cons, List.append_assoc]
          exact .cons isGap_nil hword hchar (ih hmore)

/-- The words of a text are the words that white space separates. -/
theorem words_eq_iff : words text = found ↔ Separated text found := by
  constructor
  · rintro rfl
    exact separated_wordsFrom isSolid_nil text
  · exact Separated.words_eq

theorem existsUnique_separated (text : List Char) : ∃! found, Separated text found := by
  simp only [← words_eq_iff]
  exact existsUnique_eq'

end HidMend.Text
