import HidMend.Yaml.Document
import Mathlib.Tactic.Common

/-!
# Words as plain scalars

A word begins with a letter and goes on with letters, digits, hyphens and underscores.  None of its
characters means anything but itself inside a plain scalar, and where its first letter stands no
mark, no property and no other style of a scalar can start.  So a word is read up to what follows
it: a colon with a gap behind, the end of the text or the end of its line.
-/

namespace HidMend.Yaml

/-- The characters with which words begin. -/
def letters : List Char :=
  "abcdefghijklmnopqrstuvwxyz".toList

/-- The characters of words. -/
def wordChars : List Char :=
  letters ++ "0123456789-_".toList

structure IsPlainWord (word : List Char) : Prop where
  head : ∃ first ∈ word.head?, first ∈ letters
  mem : ∀ char ∈ word, char ∈ wordChars

theorem isPlainWord_iff (word : List Char) :
    (word.head?.any letters.contains && word.all wordChars.contains) = true ↔
      IsPlainWord word := by
  rw [Bool.and_eq_true, Option.any_eq_true, List.all_eq_true]
  simp only [List.contains_iff_mem]
  exact ⟨fun hword => ⟨hword.1, hword.2⟩, fun hword => ⟨hword.head, hword.mem⟩⟩

instance (word : List Char) : Decidable (IsPlainWord word) :=
  decidable_of_iff _ (isPlainWord_iff word)

/-- Where a letter stands. -/
def LetterAhead (text : List Char) : Prop :=
  ∃ first rest, text = first :: rest ∧ first ∈ letters

variable {char : Char} {word text rest : List Char} {cursor : Cursor}

theorem forall_mem_wordChars {fact : Char → Prop} [DecidablePred fact]
    (hall : wordChars.all (fun char => fact char) = true) : ∀ char ∈ wordChars, fact char := by
  simpa using hall

theorem forall_mem_letters {fact : Char → Prop} [DecidablePred fact]
    (hall : letters.all (fun char => fact char) = true) : ∀ char ∈ letters, fact char := by
  simpa using hall

theorem mem_wordChars_of_mem_letters (hchar : char ∈ letters) : char ∈ wordChars :=
  List.mem_append_left _ hchar

theorem isBreak_of_mem : ∀ char ∈ wordChars, isBreak char = false :=
  forall_mem_wordChars (by decide)

theorem isGap_of_mem : ∀ char ∈ wordChars, isGap char = false :=
  forall_mem_wordChars (by decide)

theorem not_mem_indicators : ∀ char ∈ letters, indicators.contains char = false :=
  forall_mem_letters (by decide)

theorem colon_not_mem : ':' ∉ wordChars := by decide

theorem hash_not_mem : '#' ∉ wordChars := by decide

theorem IsPlainWord.exists_cons (hword : IsPlainWord word) :
    ∃ first more, word = first :: more ∧ first ∈ letters := by
  obtain ⟨first, hhead, hfirst⟩ := hword.head
  obtain ⟨more, hword⟩ := List.head?_eq_some_iff.mp hhead
  exact ⟨first, more, hword, hfirst⟩

theorem IsPlainWord.letterAhead (hword : IsPlainWord word) (rest : List Char) :
    LetterAhead (word ++ rest) := by
  obtain ⟨first, more, rfl, hfirst⟩ := hword.exists_cons
  exact ⟨first, more ++ rest, rfl, hfirst⟩

theorem ne_of_mem_letters {first : Char} (hfirst : first ∈ letters) (hchar : char ∉ letters) :
    first ≠ char :=
  fun heq => hchar (heq ▸ hfirst)

/-! ## Where a letter stands -/

namespace LetterAhead

theorem ne_cons (hahead : LetterAhead text) (hchar : char ∉ letters) (rest : List Char) :
    text ≠ char :: rest := by
  rintro rfl
  obtain ⟨first, more, htext, hfirst⟩ := hahead
  cases htext
  exact hchar hfirst

theorem skipFrom_eq (hahead : LetterAhead text) (line column : ℕ) (fresh : Bool) :
    Cursor.skipFrom false false text line column fresh = ⟨text, line, column, fresh⟩ := by
  obtain ⟨first, rest, rfl, hfirst⟩ := hahead
  have hmark : first ≠ byteOrderMark := ne_of_mem_letters hfirst (by decide)
  have hspace : first ≠ ' ' := ne_of_mem_letters hfirst (by decide)
  have htab : first ≠ '\t' := ne_of_mem_letters hfirst (by decide)
  have hhash : first ≠ '#' := ne_of_mem_letters hfirst (by decide)
  rw [Cursor.skipFrom, isBreak_of_mem first (mem_wordChars_of_mem_letters hfirst)]
  simp [hmark, hspace, htab, hhash]

theorem skip_eq (hahead : LetterAhead cursor.rest) : cursor.skip = cursor :=
  hahead.skipFrom_eq _ _ _

theorem atEnd_eq (hahead : LetterAhead cursor.rest) : cursor.atEnd = false := by
  obtain ⟨first, rest, hrest, -⟩ := hahead
  rw [Cursor.atEnd, hrest]
  rfl

theorem atMarker_eq (hahead : LetterAhead cursor.rest) (hchar : char ∉ letters) :
    cursor.atMarker char = false := by
  obtain ⟨first, rest, hrest, hfirst⟩ := hahead
  simp [Cursor.atMarker, hrest, ne_of_mem_letters hfirst hchar]

theorem atBoundary_eq (hahead : LetterAhead cursor.rest) : cursor.atBoundary = false := by
  rw [Cursor.atBoundary, hahead.atMarker_eq (by decide), hahead.atMarker_eq (by decide)]
  rfl

theorem atIndicator_eq (hahead : LetterAhead cursor.rest) (hchar : char ∉ letters) :
    cursor.atIndicator char = false := by
  obtain ⟨first, rest, hrest, hfirst⟩ := hahead
  simp [Cursor.atIndicator, hrest, ne_of_mem_letters hfirst hchar]

theorem atBlockScalar_eq (hahead : LetterAhead cursor.rest) : atBlockScalar cursor = false := by
  obtain ⟨first, rest, hrest, hfirst⟩ := hahead
  have hliteral : first ≠ '|' := ne_of_mem_letters hfirst (by decide)
  have hfolded : first ≠ '>' := ne_of_mem_letters hfirst (by decide)
  simp [atBlockScalar, hrest, hliteral, hfolded]

/-- No tag and no anchor begins with a letter. -/
theorem properties_eq (hahead : LetterAhead cursor.rest) (flow : Bool) (handles : Handles) :
    properties flow handles cursor = .ok (.none, cursor) := by
  have hproperty : property flow handles .none cursor = .ok none := by
    rw [property]
    split
    · next heq => exact absurd heq (hahead.ne_cons (by decide) _)
    · next heq => exact absurd heq (hahead.ne_cons (by decide) _)
    · rfl
  rw [properties, hproperty]

theorem plainAhead_eq (hahead : LetterAhead text) : plainAhead false text = true := by
  obtain ⟨first, rest, rfl, hfirst⟩ := hahead
  have hmem := mem_wordChars_of_mem_letters hfirst
  rw [plainAhead, isBreak_of_mem first hmem, isGap_of_mem first hmem,
    not_mem_indicators first hfirst]
  rfl

/-- Only a plain scalar can start with a letter. -/
theorem inlineNode_eq (hahead : LetterAhead cursor.rest) (handles : Handles) (least fuel : ℕ)
    (anchors : Anchors) {text : List Char} {behind : Cursor}
    (hplain : plainFrom false least [] .none cursor.rest cursor.line cursor.column =
      .ok (text, behind)) :
    inlineNode handles least fuel .none cursor anchors =
      .ok ⟨.scalar .plain none text, behind, anchors⟩ := by
  have hscalar : inlineScalar false least .none cursor anchors =
      .ok ⟨.scalar .plain none text, behind, anchors⟩ := by
    rw [inlineScalar]
    split
    · next heq => exact absurd heq (hahead.ne_cons (by decide) _)
    · next heq => exact absurd heq (hahead.ne_cons (by decide) _)
    · rw [hahead.plainAhead_eq, hplain]
      rfl
  rw [inlineNode]
  split
  · next heq => exact absurd heq (hahead.ne_cons (by decide) _)
  · next heq => exact absurd heq (hahead.ne_cons (by decide) _)
  · next heq => exact absurd heq (hahead.ne_cons (by decide) _)
  · exact hscalar

end LetterAhead

/-! ## Reading a word -/

theorem plainFrom_of_mem (hchar : char ∈ wordChars) (indent : ℕ) (text rest : List Char)
    (line column : ℕ) :
    plainFrom false indent text .none (char :: rest) line column =
      plainFrom false indent (text ++ [char]) .none rest line (column + 1) := by
  have hcolon : char ≠ ':' := fun heq => colon_not_mem (heq ▸ hchar)
  rw [plainFrom]
  simp [isBreak_of_mem char hchar, isGap_of_mem char hchar, hcolon, Pending.isNone, Pending.none,
    Pending.lineEnded, Pending.text]

/-- A word is read character by character. -/
theorem plainFrom_append (hword : ∀ char ∈ word, char ∈ wordChars) (indent : ℕ)
    (text rest : List Char) (line column : ℕ) :
    plainFrom false indent text .none (word ++ rest) line column =
      plainFrom false indent (text ++ word) .none rest line (column + word.length) := by
  induction word generalizing text column with
  | nil => simp
  | cons char word ih =>
      obtain ⟨hchar, hword⟩ := List.forall_mem_cons.mp hword
      rw [List.cons_append, plainFrom_of_mem hchar, ih hword]
      simp [Nat.add_assoc, Nat.add_comm 1]

/-- A word ends in front of a colon with a gap behind. -/
theorem plainFrom_colon (hgap : gapAhead rest = true) (indent : ℕ) (text : List Char)
    (line column : ℕ) :
    plainFrom false indent text .none (':' :: rest) line column =
      .ok (text, ⟨':' :: rest, line, column, false⟩) := by
  rw [plainFrom]
  simp [isBreak, isGap, hgap, Pending.isNone, Pending.none, Pending.lineEnded]

end HidMend.Yaml
