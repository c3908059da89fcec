import HidMend.Proofs.Yaml.Word
import Mathlib.Data.List.Basic

/-!
# Rows of keys and items

A document may be written in rows: a row is a key with at most one word behind it, or an item of a
list, indented by two spaces.  Behind a key alone, items are the elements of its sequence, and
behind a word they continue it, since a plain scalar goes on over all lines that are indented.

The invariant of reading is that the cursor stands at the next row, past its indentation, where a
block collection may start.
-/

namespace HidMend.Yaml

inductive Row
  | key (name : String) (value : Option String)
  | item (name : String)
  deriving DecidableEq, Repr

namespace Row

/-- What stands behind the colon of a key. -/
def behindColon : Option String → List Char
  | none => []
  | some value => ' ' :: value.toList

/-- What stands on a row behind its indentation. -/
def body : Row → List Char
  | key name value => name.toList ++ ':' :: behindColon value
  | item name => '-' :: ' ' :: name.toList

def indent : Row → ℕ
  | key _ _ => 0
  | item _ => 2

def chars (row : Row) : List Char :=
  List.replicate row.indent ' ' ++ row.body

/-- Keys, values and items are words. -/
def IsPlain : Row → Prop
  | key name value => IsPlainWord name.toList ∧ ∀ word ∈ value, IsPlainWord word.toList
  | item name => IsPlainWord name.toList

/-- Rows behind a line end, with `last` at the end of the text. -/
def behind (last : List Char) : List Row → List Char
  | [] => last
  | row :: rows => '\n' :: (row.chars ++ behind last rows)

/-- The cursor stands at the first of some rows, or at the end of the text. -/
def Awaits (last : List Char) : List Row → Cursor → Prop
  | [], cursor => cursor.rest = []
  | row :: rows, cursor => cursor.rest = row.body ++ behind last rows ∧ cursor.column = row.indent ∧
      cursor.fresh = true

variable {last : List Char} {row : Row} {rows more : List Row} {cursor : Cursor} {name : String}

theorem indent_lt (row : Row) : row.indent < 3 := by
  cases row with
  | key name value => exact Nat.succ_pos 2
  | item name => exact Nat.lt_succ_self 2

/-! ## The first characters of a row -/

theorem IsPlain.cases (hplain : row.IsPlain) (rest : List Char) :
    LetterAhead (row.body ++ rest) ∧ row.indent = 0 ∨
      (∃ more, row.body ++ rest = '-' :: ' ' :: more) ∧ row.indent = 2 := by
  cases row with
  | key name value =>
      rw [body, List.append_assoc]
      exact .inl ⟨hplain.1.letterAhead _, rfl⟩
  | item name => exact .inr ⟨⟨_, rfl⟩, rfl⟩

theorem skipFrom_body (hplain : row.IsPlain) (rest : List Char) (line : ℕ) (fresh : Bool) :
    Cursor.skipFrom false false (row.body ++ rest) line row.indent fresh =
      ⟨row.body ++ rest, line, row.indent, fresh⟩ := by
  rcases hplain.cases rest with ⟨hahead, -⟩ | ⟨⟨more, hmore⟩, hindent⟩
  · exact hahead.skipFrom_eq _ _ _
  · rw [hmore, hindent, Cursor.skipFrom]
    simp [isBreak]

theorem skipFrom_space (rest : List Char) (line column : ℕ) (fresh : Bool) :
    Cursor.skipFrom false false (' ' :: rest) line column fresh =
      Cursor.skipFrom false false rest line (column + 1) fresh := by
  rw [Cursor.skipFrom]
  simp [isBreak, byteOrderMark]

theorem skipFrom_indent (row : Row) (rest : List Char) (line : ℕ) (fresh : Bool) :
    Cursor.skipFrom false false (row.chars ++ rest) line 0 fresh =
      Cursor.skipFrom false false (row.body ++ rest) line row.indent fresh := by
  cases row with
  | key name value => rfl
  | item name =>
      rw [chars, List.append_assoc]
      exact (skipFrom_space _ _ _ _).trans (skipFrom_space _ _ _ _)

/-! ## Between rows -/

/-- What may stand behind the last row. -/
def IsEnding (last : List Char) : Prop :=
  last = [] ∨ last = ['\n']

/-- What may stand behind the items of a key. -/
def StartsFlush (rows : List Row) : Prop :=
  ∀ row ∈ rows.head?, row.indent = 0

/-- What is skipped in front of a row leads to the row. -/
theorem Awaits.skip (hplain : ∀ row ∈ rows, row.IsPlain) (hawaits : Awaits last rows cursor) :
    Awaits last rows cursor.skip := by
  cases rows with
  | nil =>
      rw [Awaits] at hawaits
      rw [Awaits, Cursor.skip, hawaits]
      rfl
  | cons row rows =>
      obtain ⟨hrest, hcolumn, hfresh⟩ := hawaits
      rw [Cursor.skip, hrest, hcolumn, hfresh, skipFrom_body (hplain row List.mem_cons_self)]
      exact ⟨rfl, rfl, rfl⟩

/-- Line ends and indentation lead to the next row. -/
theorem awaits_skip (hlast : IsEnding last) (hplain : ∀ row ∈ rows, row.IsPlain)
    (hrest : cursor.rest = behind last rows) : Awaits last rows cursor.skip := by
  rw [Cursor.skip, hrest]
  cases rows with
  | nil => rcases hlast with rfl | rfl <;> rfl
  | cons row rows =>
      have hbreak : isBreak '\n' = true := rfl
      rw [behind, Cursor.skipFrom, if_pos hbreak, skipFrom_indent,
        skipFrom_body (hplain row List.mem_cons_self)]
      exact ⟨rfl, rfl, by simp⟩

/-! ## Plain scalars at the end of a row -/

section

variable {indent : ℕ} {text : List Char} {char : Char}

/-- A line end without anything around it. -/
def broken : Pending :=
  ⟨[], ['\n'], false⟩

theorem plainFrom_break (indent : ℕ) (text rest : List Char) (line column : ℕ) :
    plainFrom false indent text .none ('\n' :: rest) line column =
      plainFrom false indent text broken rest (line + 1) 0 := by
  rw [plainFrom]
  rfl

theorem plainFrom_broken_space (indent : ℕ) (text rest : List Char) (line column : ℕ) :
    plainFrom false indent text broken (' ' :: rest) line column =
      plainFrom false indent text broken rest line (column + 1) := by
  rw [plainFrom]
  simp [isBreak, isGap, broken, Pending.addGap, Pending.lineEnded]

/-- A scalar ends at the first character that is indented too little. -/
theorem plainFrom_broken_outside {column : ℕ} (hbreak : isBreak char = false)
    (hgap : isGap char = false) (hcolumn : column < indent) (text rest : List Char) (line : ℕ) :
    plainFrom false indent text broken (char :: rest) line column =
      .ok (text, ⟨char :: rest, line, column, true⟩) := by
  rw [plainFrom]
  simp [hbreak, hgap, hcolumn, broken, Pending.isNone, Pending.lineEnded]

/-- A scalar ends in front of a row that is indented too little. -/
theorem plainFrom_broken_body (hplain : row.IsPlain) (hindent : row.indent < indent)
    (text rest : List Char) (line : ℕ) :
    plainFrom false indent text broken (row.body ++ rest) line row.indent =
      .ok (text, ⟨row.body ++ rest, line, row.indent, true⟩) := by
  rcases hplain.cases rest with ⟨⟨first, more, hbody, hfirst⟩, -⟩ | ⟨⟨more, hmore⟩, -⟩
  · have hmem := mem_wordChars_of_mem_letters hfirst
    rw [hbody]
    exact plainFrom_broken_outside (isBreak_of_mem first hmem) (isGap_of_mem first hmem) hindent
      text more line
  · rw [hmore]
    exact plainFrom_broken_outside rfl rfl hindent text _ line

theorem plainFrom_broken_indent (row : Row) (indent : ℕ) (text rest : List Char) (line : ℕ) :
    plainFrom false indent text broken (row.chars ++ rest) line 0 =
      plainFrom false indent text broken (row.body ++ rest) line row.indent := by
  cases row with
  | key name value => rfl
  | item name =>
      rw [chars, List.append_assoc]
      exact (plainFrom_broken_space _ _ _ _ _).trans (plainFrom_broken_space _ _ _ _ _)

/-- A word ends with its row if the next row is indented less than the word must be. -/
theorem plainFrom_behind (hlast : IsEnding last) (hplain : ∀ row ∈ rows, row.IsPlain)
    (hindent : ∀ row ∈ rows.head?, row.indent < indent) (text : List Char) (line column : ℕ) :
    ∃ cursor, plainFrom false indent text .none (behind last rows) line column =
      .ok (text, cursor) ∧ Awaits last rows cursor := by
  cases rows with
  | nil =>
      rcases hlast with rfl | rfl
      · exact ⟨_, rfl, rfl⟩
      · refine ⟨⟨[], line + 1, 0, true⟩, ?_, rfl⟩
        rw [behind, plainFrom_break, plainFrom]
        rfl
  | cons row rows =>
      refine ⟨⟨row.body ++ behind last rows, line + 1, row.indent, true⟩, ?_, rfl, rfl, rfl⟩
      rw [behind, plainFrom_break, plainFrom_broken_indent]
      exact plainFrom_broken_body (hplain row List.mem_cons_self) (hindent row rfl) _ _ _

/-- A single space, behind which a scalar goes on. -/
def spaced : Pending :=
  ⟨[' '], [], false⟩

theorem plainFrom_spaced (hchar : char ∈ wordChars) {column : ℕ} (hcolumn : 0 < column)
    (text rest : List Char) (line : ℕ) :
    plainFrom false 1 text spaced (char :: rest) line column =
      plainFrom false 1 (text ++ [' ', char]) .none rest line (column + 1) := by
  have hcolon : char ≠ ':' := fun heq => colon_not_mem (heq ▸ hchar)
  have hhash : char ≠ '#' := fun heq => hash_not_mem (heq ▸ hchar)
  have hinside : column ≠ 0 := Nat.ne_of_gt hcolumn
  rw [plainFrom]
  simp [isBreak_of_mem char hchar, isGap_of_mem char hchar, hcolon, hhash, spaced, Pending.isNone,
    Pending.lineEnded, Pending.text, Cursor.atBoundary, Cursor.atMarker, hinside]

theorem plainFrom_broken_mark {column : ℕ} (hcolumn : 0 < column) (text rest : List Char)
    (line : ℕ) :
    plainFrom false 1 text broken ('-' :: ' ' :: rest) line column =
      plainFrom false 1 (text ++ [' ', '-']) spaced rest line (column + 2) := by
  have hinside : column ≠ 0 := Nat.ne_of_gt hcolumn
  have hmark : plainFrom false 1 text broken ('-' :: ' ' :: rest) line column =
      plainFrom false 1 (text ++ [' ', '-']) .none (' ' :: rest) line (column + 1) := by
    rw [plainFrom]
    simp [isBreak, isGap, broken, Pending.isNone, Pending.lineEnded, Pending.text, Pending.fold,
      Cursor.atBoundary, Cursor.atMarker, hinside]
  rw [hmark, plainFrom]
  simp [isBreak, isGap, spaced, Pending.none, Pending.addGap, Pending.lineEnded]

/-- How an item continues a word. -/
def continued (name : String) : List Char :=
  ' ' :: '-' :: ' ' :: name.toList

/-- Where more is indented a scalar goes on, even at what would be the mark of an item. -/
theorem plainFrom_item {name : String} (hname : IsPlainWord name.toList) (text : List Char)
    (rows : List Row) (line column : ℕ) :
    plainFrom false 1 text .none (behind last (item name :: rows)) line column =
      plainFrom false 1 (text ++ continued name) .none (behind last rows)
        (line + 1) (4 + name.toList.length) := by
  obtain ⟨first, more, hchars, -⟩ := hname.exists_cons
  have hmem := hname.mem
  rw [hchars] at hmem
  obtain ⟨hhead, hmore⟩ := List.forall_mem_cons.mp hmem
  have hbody : (item name).body ++ behind last rows =
      '-' :: ' ' :: first :: (more ++ behind last rows) := by
    rw [body, hchars]
    rfl
  have hindent : (item name).indent = 2 := rfl
  have hcolumn : 4 + name.toList.length = 2 + 2 + 1 + more.length := by
    rw [hchars, List.length_cons]
    omega
  rw [behind, plainFrom_break, plainFrom_broken_indent, hbody, hindent,
    plainFrom_broken_mark (by decide), plainFrom_spaced hhead (by decide), plainFrom_append hmore,
    hcolumn, continued, hchars]
  simp

theorem plainFrom_items (hlast : IsEnding last) (hplain : ∀ row ∈ more, row.IsPlain)
    (hflush : StartsFlush more) {items : List String}
    (hitems : ∀ name ∈ items, IsPlainWord name.toList) (text : List Char) (line column : ℕ) :
    ∃ cursor, plainFrom false 1 text .none (behind last (items.map item ++ more)) line column =
      .ok (text ++ items.flatMap continued, cursor) ∧ Awaits last more cursor := by
  -- every item becomes part of the text that the next one continues
  induction items generalizing text line column with
  | nil =>
      have hindent : ∀ row ∈ more.head?, row.indent < 1 := fun row hrow =>
        Nat.lt_one_iff.mpr (hflush row hrow)
      simpa using plainFrom_behind hlast hplain hindent text line column
  | cons name items ih =>
      obtain ⟨hname, hitems⟩ := List.forall_mem_cons.mp hitems
      obtain ⟨cursor, hread, hawaits⟩ := ih hitems (text ++ continued name)
        (line + 1) (4 + name.toList.length)
      refine ⟨cursor, ?_, hawaits⟩
      rw [List.map_cons, List.cons_append, plainFrom_item hname, hread, List.flatMap_cons,
        List.append_assoc]

end

/-! ## Words as nodes -/

/-- No key ends in front of a row. -/
theorem Awaits.keyColon?_eq (hplain : ∀ row ∈ rows, row.IsPlain)
    (hawaits : Awaits last rows cursor) (start : Cursor) : keyColon? start cursor = none := by
  cases rows with
  | nil =>
      rw [Awaits] at hawaits
      simp [keyColon?, Cursor.skip, Cursor.skipFrom, Cursor.atIndicator, hawaits]
  | cons row rows =>
      obtain ⟨hrest, hcolumn, -⟩ := hawaits
      have hrow : row.IsPlain := hplain row List.mem_cons_self
      have hcolon : Cursor.atIndicator ':'
          ⟨row.body ++ behind last rows, cursor.line, row.indent, false⟩ = false := by
        rcases hrow.cases (behind last rows) with ⟨hahead, -⟩ | ⟨⟨more, hmore⟩, -⟩
        · exact LetterAhead.atIndicator_eq hahead (by decide)
        · rw [hmore]
          rfl
      simp [keyColon?, Cursor.skip, hrest, hcolumn, skipFrom_body hrow, hcolon]

section

variable {content tail : Cursor} {text : List Char} {least : ℕ}

theorem blockContent_word (handles : Handles) (anchors : Anchors) {first : Cursor}
    (hahead : LetterAhead content.rest)
    (hread : plainFrom false least [] .none content.rest content.line content.column =
      .ok (text, tail))
    (hcolon : keyColon? first tail = none) (fuel : ℕ) :
    blockContent handles (fuel + 1) least .none .none first content anchors =
      .ok ⟨.scalar .plain none text, tail, anchors⟩ := by
  have hinline := hahead.inlineNode_eq handles least fuel anchors hread
  have hitem : content.atIndicator '-' = false := hahead.atIndicator_eq (by decide)
  have hquestion : content.atIndicator '?' = false := hahead.atIndicator_eq (by decide)
  have hvalue : content.atIndicator ':' = false := hahead.atIndicator_eq (by decide)
  have hopen : anchors.openNode .none = anchors := rfl
  rw [blockContent]
  simp only [hitem, hquestion, hvalue, hahead.atBlockScalar_eq, hopen, hinline, hcolon]
  rfl

/-- Where a node starts without properties, it is what stands there. -/
theorem blockNode_eq_blockContent (handles : Handles) (anchors : Anchors)
    (hskip : cursor.skip = content) {flush : Bool}
    (hstarts : blockStarts least flush content = true)
    (hproperties : properties false handles content = .ok (.none, content))
    (hend : content.atEnd = false) (fuel : ℕ) :
    blockNode handles (fuel + 1) least flush .none cursor anchors =
      blockContent handles fuel least .none .none content content anchors := by
  rw [blockNode]
  simp only [hskip, hstarts, hproperties, hend]
  simp

theorem blockNode_of_letterAhead (handles : Handles) (anchors : Anchors)
    (hskip : cursor.skip = content) (hahead : LetterAhead content.rest)
    (hleast : least ≤ content.column) (flush : Bool) (fuel : ℕ) :
    blockNode handles (fuel + 1) least flush .none cursor anchors =
      blockContent handles fuel least .none .none content content anchors := by
  have hstarts : blockStarts least flush content = true := by
    simp [blockStarts, blockEnds, hahead.atEnd_eq, hahead.atBoundary_eq, hleast]
  exact blockNode_eq_blockContent handles anchors hskip hstarts (hahead.properties_eq false handles)
    hahead.atEnd_eq fuel

/-- A node that begins with a letter and is no key is a word and what continues it. -/
theorem blockNode_word (handles : Handles) (anchors : Anchors) (hskip : cursor.skip = content)
    (hahead : LetterAhead content.rest) (hleast : least ≤ content.column)
    (hread : plainFrom false least [] .none content.rest content.line content.column =
      .ok (text, tail))
    (hcolon : keyColon? content tail = none) (flush : Bool) (fuel : ℕ) :
    blockNode handles (fuel + 2) least flush .none cursor anchors =
      .ok ⟨.scalar .plain none text, tail, anchors⟩ := by
  rw [blockNode_of_letterAhead handles anchors hskip hahead hleast]
  exact blockContent_word handles anchors hahead hread hcolon fuel

end

/-! ## Items -/

/-- The node of a word. -/
def wordNode (word : String) : Node :=
  .scalar .plain none word.toList

variable (handles : Handles) (anchors : Anchors)

/-- An item is read as its word. -/
theorem blockNode_item (hlast : IsEnding last) (hname : IsPlainWord name.toList)
    (hplain : ∀ row ∈ rows, row.IsPlain) (hawaits : Awaits last (item name :: rows) cursor)
    (fuel : ℕ) :
    ∃ tail, blockNode handles (fuel + 2) (2 + 1) false .none cursor.passMark anchors =
      .ok ⟨wordNode name, tail, anchors⟩ ∧ Awaits last rows tail := by
  obtain ⟨hrest, hcolumn, -⟩ := hawaits
  have hahead := hname.letterAhead (behind last rows)
  have hskip : cursor.passMark.skip = ⟨name.toList ++ behind last rows, cursor.line, 4, true⟩ := by
    have hmark : cursor.passMark =
        ⟨' ' :: (name.toList ++ behind last rows), cursor.line, 3, true⟩ := by
      rw [Cursor.passMark, Cursor.pass, hrest, hcolumn]
      rfl
    rw [hmark, Cursor.skip, skipFrom_space]
    exact hahead.skipFrom_eq _ _ _
  obtain ⟨tail, hread, htail⟩ := plainFrom_behind hlast hplain (fun row _ => row.indent_lt)
    ([] ++ name.toList) cursor.line (4 + name.toList.length)
  rw [← plainFrom_append hname.mem] at hread
  have hleast : 3 ≤ 4 := by decide
  exact ⟨tail, blockNode_word handles anchors hskip hahead hleast hread
    (htail.keyColon?_eq hplain _) _ _, htail⟩

theorem Awaits.atBoundary_eq (hrow : row.IsPlain) (hawaits : Awaits last (row :: rows) cursor) :
    cursor.atBoundary = false := by
  obtain ⟨hrest, hcolumn, -⟩ := hawaits
  rcases hrow.cases (behind last rows) with ⟨hahead, -⟩ | ⟨-, hindent⟩
  · rw [← hrest] at hahead
    exact hahead.atBoundary_eq
  · simp [Cursor.atBoundary, Cursor.atMarker, hcolumn, hindent]

theorem Awaits.atEnd_eq (hrow : row.IsPlain) (hawaits : Awaits last (row :: rows) cursor) :
    cursor.atEnd = false := by
  obtain ⟨hrest, -⟩ := hawaits
  rw [Cursor.atEnd, hrest]
  rcases hrow.cases (behind last rows) with ⟨⟨first, more, hbody, -⟩, -⟩ | ⟨⟨more, hbody⟩, -⟩
  · rw [hbody]
    rfl
  · rw [hbody]
    rfl

theorem Awaits.blockEnds_eq_false (hrow : row.IsPlain)
    (hawaits : Awaits last (row :: rows) cursor) {least : ℕ} (hleast : least ≤ row.indent) :
    blockEnds least cursor = false := by
  have hcolumn : least ≤ cursor.column := hawaits.2.1 ▸ hleast
  simp [blockEnds, hawaits.atEnd_eq hrow, hawaits.atBoundary_eq hrow, hcolumn]

theorem Awaits.blockEnds_eq_true (hflush : StartsFlush rows) (hawaits : Awaits last rows cursor)
    (least : ℕ) : blockEnds (least + 1) cursor = true := by
  cases rows with
  | nil =>
      rw [Awaits] at hawaits
      simp [blockEnds, Cursor.atEnd, hawaits]
  | cons row rows =>
      obtain ⟨-, hcolumn, -⟩ := hawaits
      simp [blockEnds, hcolumn, hflush row rfl]

theorem Awaits.atIndicator_item (hawaits : Awaits last (item name :: rows) cursor) :
    cursor.atIndicator '-' = true := by
  rw [Cursor.atIndicator, hawaits.1]
  rfl

theorem Awaits.blockStarts_eq_false (hmore : ∀ row ∈ more, row.IsPlain) (hflush : StartsFlush more)
    (hawaits : Awaits last more cursor) : blockStarts (0 + 1) true cursor = false := by
  have hends : blockEnds (0 + 1) cursor = true := hawaits.blockEnds_eq_true hflush 0
  cases more with
  | nil =>
      rw [Awaits] at hawaits
      simp [blockStarts, hends, Cursor.atEnd, hawaits]
  | cons row rows =>
      have hahead : LetterAhead cursor.rest := by
        rcases (hmore row List.mem_cons_self).cases (behind last rows) with
          ⟨hahead, -⟩ | ⟨-, hindent⟩
        · rwa [hawaits.1]
        · exact absurd hindent (by rw [hflush row rfl]; decide)
      have hitem : cursor.atIndicator '-' = false := hahead.atIndicator_eq (by decide)
      simp [blockStarts, hends, hahead.atBlockScalar_eq, hitem]

theorem Awaits.properties_item (hawaits : Awaits last (item name :: more) cursor)
    : properties false handles cursor = .ok (.none, cursor) := by
  have hproperty : property false handles .none cursor = .ok none := by
    rw [property, hawaits.1]
    rfl
  rw [properties, hproperty]

/-- A key alone has its items for its value. -/
theorem blockContent_items {content tail : Cursor} {elements : List Node} {fuel : ℕ}
    (hawaits : Awaits last (item name :: more) content)
    (hread : blockElements handles fuel 2 false content anchors = .ok (elements, tail, anchors))
    (first : Cursor) :
    blockContent handles (fuel + 1) (0 + 1) .none .none first content anchors =
      .ok ⟨.sequence elements, tail, anchors⟩ := by
  have hcolumn : content.column = 2 := hawaits.2.1
  have hfresh : content.fresh = true := hawaits.2.2
  have hflush : decide (2 < 0 + 1) = false := rfl
  have hopen : anchors.openNode .none = anchors := rfl
  rw [blockContent]
  simp only [hawaits.atIndicator_item, hfresh, hcolumn, hflush, hopen, hread]
  rfl

/-- Items are read up to the next key. -/
theorem blockElements_items (hlast : IsEnding last) (hmore : ∀ row ∈ more, row.IsPlain)
    (hflush : StartsFlush more) {items : List String} (hname : IsPlainWord name.toList)
    (hitems : ∀ name ∈ items, IsPlainWord name.toList) (fuel : ℕ)
    (hawaits : Awaits last (item name :: (items.map item ++ more)) cursor) :
    ∃ tail, blockElements handles (items.length + fuel + 3) 2 false cursor anchors =
      .ok ((name :: items).map wordNode, tail, anchors) ∧ Awaits last more tail := by
  induction items generalizing name cursor with
  | nil =>
      obtain ⟨tail, hread, htail⟩ :=
        blockNode_item handles anchors hlast hname hmore hawaits fuel
      have hnext := htail.skip hmore
      refine ⟨tail.skip, ?_, hnext⟩
      rw [List.length_nil, Nat.zero_add, blockElements]
      simp only [hread, hnext.blockEnds_eq_true hflush 1]
      rfl
  | cons next items ih =>
      obtain ⟨hnextName, hitems⟩ := List.forall_mem_cons.mp hitems
      have hrows : ∀ row ∈ item next :: (items.map item ++ more), row.IsPlain := by
        simpa [IsPlain, or_imp, forall_and] using ⟨hnextName, hitems, hmore⟩
      obtain ⟨tail, hread, htail⟩ :=
        blockNode_item handles anchors hlast hname hrows hawaits (items.length + fuel + 1)
      have hnext := htail.skip hrows
      have hrow : (item next).IsPlain := hnextName
      obtain ⟨final, hfinal, hdone⟩ := ih hnextName hitems hnext
      have hcolumn : tail.skip.column = 2 := hnext.2.1
      have hfresh : tail.skip.fresh = true := hnext.2.2
      refine ⟨final, ?_, hdone⟩
      rw [List.length_cons, Nat.add_right_comm items.length 1 fuel, blockElements]
      simp only [hread, hnext.blockEnds_eq_false hrow (Nat.le_refl 2), hcolumn, hfresh,
        hnext.atIndicator_item, hfinal]
      rfl

end Row

end HidMend.Yaml
