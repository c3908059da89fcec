import HidMend.Proofs.Yaml.Rows

/-!
# Entries of keys and items

An entry is a key with what stands behind it: a word or nothing, and the items on the next rows.  A
block mapping of entries is read as what its rows say, whatever the words, as long as every key is
short enough to be one; a longer key is refused wherever it stands.
-/

namespace HidMend.Yaml

/-- A key with its value and the items behind it. -/
structure Entry where
  key : String
  value : Option String
  items : List String
  deriving DecidableEq, Repr

namespace Entry

def rows (entry : Entry) : List Row :=
  .key entry.key entry.value :: entry.items.map .item

structure IsPlain (entry : Entry) : Prop where
  key : IsPlainWord entry.key.toList
  value : ∀ word ∈ entry.value, IsPlainWord word.toList
  items : ∀ name ∈ entry.items, IsPlainWord name.toList

/-- What the rows of an entry say. -/
def valueNode : Entry → Node
  | ⟨_, some value, items⟩ => .scalar .plain none (value.toList ++ items.flatMap Row.continued)
  | ⟨_, none, []⟩ => Node.empty none
  | ⟨_, none, items⟩ => .sequence (items.map Row.wordNode)

def node (entry : Entry) : Node × Node :=
  (Row.wordNode entry.key, entry.valueNode)

variable {last : List Char} {entry : Entry} {more : List Row} {cursor : Cursor}

open Row

variable (handles : Handles) (anchors : Anchors)

/-- The value of a key ends in front of the next key. -/
theorem blockNode_value (hlast : IsEnding last) (hplain : entry.IsPlain)
    (hmore : ∀ row ∈ more, row.IsPlain) (hflush : StartsFlush more) (fuel : ℕ)
    (hrest : cursor.rest =
      behindColon entry.value ++ behind last (entry.items.map item ++ more)) :
    ∃ tail, blockNode handles (entry.items.length + fuel + 4) (0 + 1) true .none cursor anchors =
      .ok ⟨entry.valueNode, tail, anchors⟩ ∧ Awaits last more tail := by
  obtain ⟨key, value, items⟩ := entry
  cases value with
  | some value =>
      have hvalue : IsPlainWord value.toList := hplain.value value rfl
      have hahead := hvalue.letterAhead (behind last (items.map item ++ more))
      have hskip : cursor.skip = ⟨value.toList ++ behind last (items.map item ++ more),
          cursor.line, cursor.column + 1, cursor.fresh⟩ := by
        rw [Cursor.skip, hrest, behindColon, List.cons_append, skipFrom_space]
        exact hahead.skipFrom_eq _ _ _
      obtain ⟨tail, hread, htail⟩ := plainFrom_items hlast hmore hflush hplain.items
        ([] ++ value.toList) cursor.line (cursor.column + 1 + value.toList.length)
      rw [← plainFrom_append hvalue.mem] at hread
      have hleast : 0 + 1 ≤ cursor.column + 1 := by omega
      exact ⟨tail, blockNode_word handles anchors hskip hahead hleast hread
        (htail.keyColon?_eq hmore _) _ _, htail⟩
  | none =>
      rw [behindColon, List.nil_append] at hrest
      cases items with
      | nil =>
          have hnext : Awaits last more cursor.skip := awaits_skip hlast hmore hrest
          refine ⟨cursor.skip, ?_, hnext⟩
          rw [blockNode]
          simp only [hnext.blockStarts_eq_false hmore hflush]
          rfl
      | cons name items =>
          obtain ⟨hname, hitems⟩ := List.forall_mem_cons.mp hplain.items
          have hrows : ∀ row ∈ item name :: (items.map item ++ more), row.IsPlain := by
            simpa [Row.IsPlain, or_imp, forall_and] using ⟨hname, hitems, hmore⟩
          have hrow : (item name).IsPlain := hname
          have hnext : Awaits last (item name :: (items.map item ++ more)) cursor.skip :=
            awaits_skip hlast hrows hrest
          obtain ⟨tail, hread, htail⟩ :=
            blockElements_items handles anchors hlast hmore hflush hname hitems fuel hnext
          have hends : blockEnds (0 + 1) cursor.skip = false :=
            hnext.blockEnds_eq_false hrow (show 0 + 1 ≤ 2 by decide)
          have hstarts : blockStarts (0 + 1) true cursor.skip = true := by
            simp [blockStarts, hends]
          refine ⟨tail, ?_, htail⟩
          rw [List.length_cons, Nat.add_right_comm items.length 1 fuel,
            blockNode_eq_blockContent handles anchors rfl hstarts (hnext.properties_item handles)
              (hnext.atEnd_eq hrow)]
          exact blockContent_items handles anchors hnext hread cursor.skip

/-! ## Keys -/

/-- What stands behind the colon of an entry that has further rows behind it. -/
def afterColon (last : List Char) (entry : Entry) (more : List Row) : List Char :=
  behindColon entry.value ++ behind last (entry.items.map item ++ more)

/-- The colon of an entry whose key starts at the cursor. -/
def colon (last : List Char) (entry : Entry) (more : List Row) (cursor : Cursor) : Cursor :=
  ⟨':' :: afterColon last entry more, cursor.line, entry.key.toList.length, false⟩

theorem rest_eq (hawaits : Awaits last (entry.rows ++ more) cursor) :
    cursor.rest = entry.key.toList ++ ':' :: afterColon last entry more := by
  rw [hawaits.1, body, List.append_assoc]
  rfl

theorem gapAhead_afterColon (hlast : IsEnding last) (entry : Entry) (more : List Row) :
    gapAhead (afterColon last entry more) = true := by
  rw [afterColon]
  cases entry.value with
  | some value => rfl
  | none =>
      cases entry.items.map item ++ more with
      | nil => rcases hlast with rfl | rfl <;> rfl
      | cons row rows => rfl

theorem letterAhead_of_awaits (hplain : entry.IsPlain)
    (hawaits : Awaits last (entry.rows ++ more) cursor) : LetterAhead cursor.rest := by
  rw [rest_eq hawaits]
  exact hplain.key.letterAhead _

theorem plainFrom_key (hlast : IsEnding last) (hplain : entry.IsPlain)
    (hawaits : Awaits last (entry.rows ++ more) cursor) (least : ℕ) :
    plainFrom false least [] .none cursor.rest cursor.line cursor.column =
      .ok (entry.key.toList, colon last entry more cursor) := by
  have hcolumn : cursor.column = 0 := hawaits.2.1
  rw [rest_eq hawaits, hcolumn, plainFrom_append hplain.key.mem,
    plainFrom_colon (gapAhead_afterColon hlast entry more), List.nil_append, Nat.zero_add]
  rfl

theorem skip_colon (last : List Char) (entry : Entry) (more : List Row) (cursor : Cursor) :
    (colon last entry more cursor).skip = colon last entry more cursor := by
  rw [colon, Cursor.skip, Cursor.skipFrom]
  simp [isBreak, byteOrderMark]

/-- A key that is short enough is closed by its colon. -/
theorem keyColon?_of_short (hlast : IsEnding last)
    (hawaits : Awaits last (entry.rows ++ more) cursor)
    (hshort : entry.key.toList.length ≤ Cursor.maxKeySize) :
    keyColon? cursor (colon last entry more cursor) = some
      ⟨afterColon last entry more, cursor.line, entry.key.toList.length + 1, false⟩ := by
  have hcolumn : cursor.column = 0 := hawaits.2.1
  have hskip := skip_colon last entry more cursor
  have hgap := gapAhead_afterColon hlast entry more
  rw [colon] at hskip ⊢
  simp [keyColon?, hskip, Cursor.closesKey, Cursor.atIndicator, Cursor.passToken, Cursor.pass,
    hcolumn, hshort, hgap]

theorem keyColon?_of_long (hawaits : Awaits last (entry.rows ++ more) cursor)
    (hlong : Cursor.maxKeySize < entry.key.toList.length) :
    keyColon? cursor (colon last entry more cursor) = none := by
  have hcolumn : cursor.column = 0 := hawaits.2.1
  have hskip := skip_colon last entry more cursor
  have hfar : ¬entry.key.toList.length ≤ Cursor.maxKeySize := Nat.not_le.mpr hlong
  rw [colon] at hskip ⊢
  simp [keyColon?, hskip, Cursor.closesKey, hcolumn, hfar]

/-! ## One entry -/

/-- An entry with a short key is read as its key and its value. -/
theorem blockEntry_of_short (hlast : IsEnding last) (hplain : entry.IsPlain)
    (hmore : ∀ row ∈ more, row.IsPlain) (hflush : StartsFlush more)
    (hshort : entry.key.toList.length ≤ Cursor.maxKeySize) {fuel : ℕ}
    (hfuel : entry.items.length + 5 ≤ fuel) (hawaits : Awaits last (entry.rows ++ more) cursor) :
    ∃ tail, blockEntry handles fuel 0 cursor anchors = .ok (entry.node, tail, anchors) ∧
      Awaits last more tail := by
  obtain ⟨extra, rfl⟩ : ∃ extra, fuel = entry.items.length + extra + 5 :=
    ⟨fuel - entry.items.length - 5, by omega⟩
  have hahead := letterAhead_of_awaits hplain hawaits
  have hquestion : cursor.atIndicator '?' = false := hahead.atIndicator_eq (by decide)
  have hvalue : cursor.atIndicator ':' = false := hahead.atIndicator_eq (by decide)
  have hkey := hahead.inlineNode_eq handles (0 + 1) (entry.items.length + extra + 4) anchors
    (plainFrom_key hlast hplain hawaits (0 + 1))
  have hcolon := keyColon?_of_short hlast hawaits hshort
  have hinside : Cursor.rest
      ⟨afterColon last entry more, cursor.line, entry.key.toList.length + 1, false⟩ =
        behindColon entry.value ++ behind last (entry.items.map item ++ more) := rfl
  obtain ⟨tail, hread, htail⟩ :=
    blockNode_value handles anchors hlast hplain hmore hflush extra hinside
  refine ⟨tail, ?_, htail⟩
  rw [blockEntry]
  simp only [hquestion, hvalue, hahead.properties_eq, hkey, hcolon, hread]
  rfl

theorem blockEntry_of_long (hlast : IsEnding last) (hplain : entry.IsPlain)
    (hlong : Cursor.maxKeySize < entry.key.toList.length) (fuel : ℕ)
    (hawaits : Awaits last (entry.rows ++ more) cursor) :
    ∃ fault, blockEntry handles (fuel + 1) 0 cursor anchors = .error fault := by
  have hahead := letterAhead_of_awaits hplain hawaits
  have hquestion : cursor.atIndicator '?' = false := hahead.atIndicator_eq (by decide)
  have hvalue : cursor.atIndicator ':' = false := hahead.atIndicator_eq (by decide)
  have hkey := hahead.inlineNode_eq handles (0 + 1) fuel anchors
    (plainFrom_key hlast hplain hawaits (0 + 1))
  refine ⟨(colon last entry more cursor).fault .missingValue, ?_⟩
  rw [blockEntry]
  simp only [hquestion, hvalue, hahead.properties_eq, hkey, keyColon?_of_long hawaits hlong]
  rfl

/-! ## All entries -/

variable {entries : List Entry}

/-- The rows of entries. -/
def allRows (entries : List Entry) : List Row :=
  entries.flatMap rows

theorem startsFlush_allRows (entries : List Entry) : StartsFlush (allRows entries) := by
  cases entries with
  | nil => nofun
  | cons entry entries =>
      intro row hrow
      cases hrow
      rfl

theorem IsPlain.rows (hplain : entry.IsPlain) : ∀ row ∈ entry.rows, row.IsPlain := by
  simpa [Entry.rows, Row.IsPlain] using ⟨⟨hplain.key, hplain.value⟩, hplain.items⟩

theorem isPlain_allRows (hplain : ∀ entry ∈ entries, entry.IsPlain) :
    ∀ row ∈ allRows entries, row.IsPlain := by
  intro row hrow
  obtain ⟨entry, hentry, hmem⟩ := List.mem_flatMap.mp hrow
  exact (hplain entry hentry).rows row hmem

theorem allRows_cons (entry : Entry) (entries : List Entry) :
    allRows (entry :: entries) = entry.rows ++ allRows entries :=
  List.flatMap_cons

theorem length_allRows_cons (entry : Entry) (entries : List Entry) :
    (allRows (entry :: entries)).length = entry.items.length + (allRows entries).length + 1 := by
  rw [allRows_cons, List.length_append, Entry.rows, List.length_cons, List.length_map,
    Nat.add_right_comm]

/-- At an entry a block mapping goes on. -/
theorem mapping_goes_on (hplain : entry.IsPlain)
    (hawaits : Awaits last (entry.rows ++ more) cursor) :
    blockEnds 0 cursor = false ∧ cursor.column = 0 ∧ cursor.fresh = true := by
  have hrow : (Row.key entry.key entry.value).IsPlain := hplain.rows _ List.mem_cons_self
  exact ⟨hawaits.blockEnds_eq_false hrow (Nat.le_refl 0), hawaits.2⟩

/-- Entries with short keys are read one by one, up to the end. -/
theorem blockEntries_of_short (hlast : IsEnding last) (hplain : entry.IsPlain)
    (hmore : ∀ entry ∈ entries, entry.IsPlain)
    (hshort : ∀ other ∈ entry :: entries, other.key.toList.length ≤ Cursor.maxKeySize) {fuel : ℕ}
    (hfuel : (allRows (entry :: entries)).length + 5 ≤ fuel)
    (hawaits : Awaits last (allRows (entry :: entries)) cursor) :
    ∃ tail, blockEntries handles fuel 0 cursor anchors =
      .ok ((entry :: entries).map node, tail, anchors) ∧ Awaits last [] tail := by
  -- an entry takes one unit of fuel and has at least one row, so the bound carries over
  induction entries generalizing entry cursor fuel with
  | nil =>
      rw [length_allRows_cons] at hfuel
      obtain ⟨fuel, rfl⟩ : ∃ less, fuel = less + 1 := ⟨fuel - 1, by omega⟩
      obtain ⟨tail, hread, htail⟩ := blockEntry_of_short handles anchors hlast hplain
        (isPlain_allRows hmore) (startsFlush_allRows []) (hshort entry List.mem_cons_self)
        (show entry.items.length + 5 ≤ fuel by omega) (allRows_cons entry [] ▸ hawaits)
      have hdone : Awaits last [] tail.skip := htail.skip nofun
      have hends : blockEnds 0 tail.skip = true := by
        have hrest : tail.skip.rest = [] := hdone
        simp [blockEnds, Cursor.atEnd, hrest]
      refine ⟨tail.skip, ?_, hdone⟩
      rw [blockEntries]
      simp only [hread, hends]
      rfl
  | cons next entries ih =>
      rw [length_allRows_cons] at hfuel
      obtain ⟨fuel, rfl⟩ : ∃ less, fuel = less + 1 := ⟨fuel - 1, by omega⟩
      obtain ⟨hfirst, hothers⟩ := List.forall_mem_cons.mp hshort
      obtain ⟨hnextPlain, hmorePlain⟩ := List.forall_mem_cons.mp hmore
      have hrows := isPlain_allRows hmore
      obtain ⟨tail, hread, htail⟩ := blockEntry_of_short handles anchors hlast hplain hrows
        (startsFlush_allRows _) hfirst (show entry.items.length + 5 ≤ fuel by omega)
        (allRows_cons entry _ ▸ hawaits)
      have hnext := htail.skip hrows
      obtain ⟨hgoes, hcolumn, hfresh⟩ := mapping_goes_on hnextPlain (allRows_cons next _ ▸ hnext)
      obtain ⟨final, hfinal, hdone⟩ := ih hnextPlain hmorePlain hothers
        (show (allRows (next :: entries)).length + 5 ≤ fuel by omega) hnext
      refine ⟨final, ?_, hdone⟩
      rw [blockEntries]
      simp only [hread, hgoes, hcolumn, hfresh, hfinal]
      rfl

theorem blockEntries_of_long_first (hlast : IsEnding last) (hplain : entry.IsPlain)
    (hlong : Cursor.maxKeySize < entry.key.toList.length) (fuel : ℕ)
    (hawaits : Awaits last (entry.rows ++ more) cursor) :
    ∃ fault, blockEntries handles (fuel + 2) 0 cursor anchors = .error fault := by
  obtain ⟨fault, hfault⟩ :=
    blockEntry_of_long handles anchors hlast hplain hlong fuel hawaits
  refine ⟨fault, ?_⟩
  rw [blockEntries]
  simp only [hfault]

/-- A long key is refused wherever it stands. -/
theorem blockEntries_of_long (hlast : IsEnding last) (hplain : entry.IsPlain)
    (hmore : ∀ entry ∈ entries, entry.IsPlain)
    (hlong : ∃ other ∈ entry :: entries, Cursor.maxKeySize < other.key.toList.length) {fuel : ℕ}
    (hfuel : (allRows (entry :: entries)).length + 5 ≤ fuel)
    (hawaits : Awaits last (allRows (entry :: entries)) cursor) :
    ∃ fault, blockEntries handles fuel 0 cursor anchors = .error fault := by
  -- what stands in front of the first long key is read as ever
  induction entries generalizing entry cursor fuel with
  | nil =>
      obtain ⟨fuel, rfl⟩ : ∃ less, fuel = less + 2 := ⟨fuel - 2, by omega⟩
      have hfirst : Cursor.maxKeySize < entry.key.toList.length := by simpa using hlong
      exact blockEntries_of_long_first handles anchors hlast hplain hfirst fuel
        (allRows_cons entry [] ▸ hawaits)
  | cons next entries ih =>
      rw [length_allRows_cons] at hfuel
      obtain ⟨fuel, rfl⟩ : ∃ less, fuel = less + 2 := ⟨fuel - 2, by omega⟩
      rcases Nat.lt_or_ge Cursor.maxKeySize entry.key.toList.length with hfirst | hfirst
      · exact blockEntries_of_long_first handles anchors hlast hplain hfirst fuel
          (allRows_cons entry _ ▸ hawaits)
      · obtain ⟨hnextPlain, hmorePlain⟩ := List.forall_mem_cons.mp hmore
        have hothers : ∃ other ∈ next :: entries, Cursor.maxKeySize < other.key.toList.length := by
          obtain ⟨other, hother, hsize⟩ := hlong
          rcases List.mem_cons.mp hother with rfl | hother
          · exact absurd hsize (Nat.not_lt.mpr hfirst)
          · exact ⟨other, hother, hsize⟩
        have hrows := isPlain_allRows hmore
        obtain ⟨tail, hread, htail⟩ := blockEntry_of_short handles anchors hlast hplain hrows
          (startsFlush_allRows _) hfirst (show entry.items.length + 5 ≤ fuel + 1 by omega)
          (allRows_cons entry _ ▸ hawaits)
        have hnext := htail.skip hrows
        obtain ⟨hgoes, hcolumn, hfresh⟩ :=
          mapping_goes_on hnextPlain (allRows_cons next _ ▸ hnext)
        obtain ⟨fault, hfault⟩ := ih hnextPlain hmorePlain hothers
          (show (allRows (next :: entries)).length + 5 ≤ fuel + 1 by omega) hnext
        refine ⟨fault, ?_⟩
        rw [blockEntries]
        simp only [hread, hgoes, hcolumn, hfresh, hfault]
        rfl

/-! ## The mapping -/

/-- Where a key stands that is short enough, a mapping starts. -/
theorem blockContent_of_short (hlast : IsEnding last) (hplain : entry.IsPlain)
    (hshort : entry.key.toList.length ≤ Cursor.maxKeySize)
    (hawaits : Awaits last (entry.rows ++ more) cursor) (least fuel : ℕ) :
    blockContent handles (fuel + 1) least .none .none cursor cursor anchors =
      (blockEntries handles fuel 0 cursor anchors).map fun found =>
        ⟨.mapping found.1, found.2.1, found.2.2⟩ := by
  have hahead := letterAhead_of_awaits hplain hawaits
  have hinline := hahead.inlineNode_eq handles least fuel anchors
    (plainFrom_key hlast hplain hawaits least)
  have hitem : cursor.atIndicator '-' = false := hahead.atIndicator_eq (by decide)
  have hquestion : cursor.atIndicator '?' = false := hahead.atIndicator_eq (by decide)
  have hvalue : cursor.atIndicator ':' = false := hahead.atIndicator_eq (by decide)
  have hcolumn : cursor.column = 0 := hawaits.2.1
  have hfresh : cursor.fresh = true := hawaits.2.2
  have hopen : anchors.openNode .none = anchors := rfl
  rw [blockContent]
  simp only [hitem, hquestion, hvalue, hahead.atBlockScalar_eq, hopen, hinline,
    keyColon?_of_short hlast hawaits hshort, hfresh, hcolumn]
  cases blockEntries handles fuel 0 cursor anchors with
  | error fault => rfl
  | ok found => rfl

/-- A first key that is too long is read as a word alone. -/
theorem blockContent_of_long (hlast : IsEnding last) (hplain : entry.IsPlain)
    (hlong : Cursor.maxKeySize < entry.key.toList.length)
    (hawaits : Awaits last (entry.rows ++ more) cursor) (least fuel : ℕ) :
    blockContent handles (fuel + 1) least .none .none cursor cursor anchors =
      .ok ⟨wordNode entry.key, colon last entry more cursor, anchors⟩ :=
  blockContent_word handles anchors (letterAhead_of_awaits hplain hawaits)
    (plainFrom_key hlast hplain hawaits least) (keyColon?_of_long hawaits hlong) fuel

end Entry

end HidMend.Yaml
