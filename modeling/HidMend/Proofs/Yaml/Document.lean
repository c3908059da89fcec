import HidMend.Proofs.Yaml.Entries

/-!
# Documents of entries

A text that consists of the rows of entries is read as one block mapping, in which every entry says
what its rows say.  Rows whose first is a key are always those of entries, so this is so wherever a
row is put in or left out behind the first key.
-/

namespace HidMend.Yaml

namespace Row

/-- Rows with line feeds between them, and what stands behind the last. -/
def written (last : List Char) (rows : List Row) : List Char :=
  List.intercalate ['\n'] (rows.map chars) ++ last

theorem written_cons (last : List Char) (row : Row) (rows : List Row) :
    written last (row :: rows) = row.chars ++ behind last rows := by
  induction rows generalizing row with
  | nil => simp [written, behind]
  | cons next rows ih =>
      have hnext := ih next
      rw [written, List.map_cons] at hnext
      rw [written, List.map_cons, List.map_cons, List.intercalate_cons_cons, List.append_assoc,
        List.append_assoc, hnext, behind]
      rfl

theorem length_le_length_behind (last : List Char) (rows : List Row) :
    rows.length ≤ (behind last rows).length := by
  induction rows with
  | nil => exact Nat.zero_le _
  | cons row rows ih =>
      rw [behind, List.length_cons, List.length_cons, List.length_append]
      omega

/-- A text is longer than it has rows behind the first. -/
theorem length_le_length_written (last : List Char) (rows : List Row) :
    rows.length ≤ (written last rows).length + 1 := by
  cases rows with
  | nil => exact Nat.zero_le _
  | cons row rows =>
      have hrows := length_le_length_behind last rows
      rw [written_cons, List.length_cons, List.length_append]
      omega

end Row

/-! ## Reading the text -/

namespace Entry

open Row

variable {last : List Char} {entry : Entry} {entries : List Entry} {cursor : Cursor}

theorem read_directives (hahead : LetterAhead cursor.rest) (directives : Directives) (fuel : ℕ) :
    Directives.read (fuel + 1) directives cursor = .ok (directives, cursor) := by
  rw [Directives.read, hahead.skip_eq]
  split
  · next heq => exact absurd heq (hahead.ne_cons (by decide) _)
  · rfl

theorem awaits_start (last : List Char) (entry : Entry) (entries : List Entry) :
    Awaits last (allRows (entry :: entries)) (.start (written last (allRows (entry :: entries)))) :=
  ⟨written_cons last _ _, rfl, rfl⟩

theorem atMarker_colon (last : List Char) (entry : Entry) (more : List Row) (cursor : Cursor)
    {char : Char} (hchar : char ≠ ':') :
    (colon last entry more cursor).atMarker char = false := by
  simp [Cursor.atMarker, colon, hchar.symm]

theorem finish_eq (hend : cursor.atEnd = true) (fuel : ℕ) : finish (fuel + 1) cursor = .ok () := by
  have hrest : cursor.rest = [] := List.isEmpty_iff.mp hend
  rw [finish, Cursor.skip, hrest]
  rfl

section

variable (handles : Handles) {size : ℕ}

theorem content_of_short (hlast : IsEnding last) (hplain : entry.IsPlain)
    (hmore : ∀ other ∈ entries, other.IsPlain)
    (hshort : ∀ other ∈ entry :: entries, other.key.toList.length ≤ Cursor.maxKeySize)
    (hsize : (allRows (entry :: entries)).length ≤ size + 1)
    (hawaits : Awaits last (allRows (entry :: entries)) cursor) :
    content handles size cursor = .ok ⟨.mapping ((entry :: entries).map node), []⟩ := by
  have hfirst : Awaits last (entry.rows ++ allRows entries) cursor := hawaits
  have hahead := letterAhead_of_awaits hplain hfirst
  obtain ⟨tail, hread, htail⟩ := blockEntries_of_short handles Anchors.empty hlast hplain hmore
    hshort (show (allRows (entry :: entries)).length + 5 ≤ 4 * size + 6 by omega) hawaits
  have hnode : blockNode handles (4 * size + 8) 0 false .none cursor .empty =
      .ok ⟨.mapping ((entry :: entries).map node), tail, .empty⟩ := by
    rw [blockNode_of_letterAhead handles _ hahead.skip_eq hahead (Nat.zero_le _),
      blockContent_of_short handles _ hlast hplain (hshort entry List.mem_cons_self) hfirst, hread]
    rfl
  have hdone : Awaits last [] tail.skip := htail.skip nofun
  have hend : tail.skip.atEnd = true := List.isEmpty_iff.mpr hdone
  rw [content, hnode]
  simp only [hend, finish_eq hend]
  rfl

/-- A long key is refused in any place: the first is read as a word, whose colon is out of place,
and any other has no colon where one must be. -/
theorem content_of_long (hlast : IsEnding last) (hplain : entry.IsPlain)
    (hmore : ∀ other ∈ entries, other.IsPlain)
    (hlong : ∃ other ∈ entry :: entries, Cursor.maxKeySize < other.key.toList.length)
    (hsize : (allRows (entry :: entries)).length ≤ size + 1)
    (hawaits : Awaits last (allRows (entry :: entries)) cursor) :
    ∃ fault, content handles size cursor = .error fault := by
  have hfirst : Awaits last (entry.rows ++ allRows entries) cursor := hawaits
  have hahead := letterAhead_of_awaits hplain hfirst
  have hnode := blockNode_of_letterAhead handles Anchors.empty hahead.skip_eq hahead
    (Nat.zero_le _) false (4 * size + 7)
  rcases Nat.lt_or_ge Cursor.maxKeySize entry.key.toList.length with hkey | hkey
  · rw [blockContent_of_long handles _ hlast hplain hkey hfirst] at hnode
    refine ⟨(colon last entry (allRows entries) cursor).fault .misplacedContent, ?_⟩
    have hstart := atMarker_colon last entry (allRows entries) cursor (show '-' ≠ ':' by decide)
    have hstop := atMarker_colon last entry (allRows entries) cursor (show '.' ≠ ':' by decide)
    rw [content, hnode]
    simp only [skip_colon, hstart, hstop]
    rfl
  · obtain ⟨fault, hfault⟩ := blockEntries_of_long handles Anchors.empty hlast hplain hmore hlong
      (show (allRows (entry :: entries)).length + 5 ≤ 4 * size + 6 by omega) hawaits
    rw [blockContent_of_short handles _ hlast hplain hkey hfirst, hfault] at hnode
    refine ⟨fault, ?_⟩
    rw [content, hnode]
    rfl

end

theorem documentOf?_eq_content (hplain : entry.IsPlain) (last : List Char) (entries : List Entry) :
    documentOf? (written last (allRows (entry :: entries))) =
      (content Directives.none.allHandles (written last (allRows (entry :: entries))).length
        (.start (written last (allRows (entry :: entries))))).map some := by
  have hstart : Awaits last (entry.rows ++ allRows entries) _ := awaits_start last entry entries
  have hahead := letterAhead_of_awaits hplain hstart
  have hmarker := hahead.atMarker_eq (show '-' ∉ letters by decide)
  have hend := hahead.atMarker_eq (show '.' ∉ letters by decide)
  rw [documentOf?]
  simp only [read_directives hahead, hmarker, hahead.atEnd_eq, hend]
  rfl

end Entry

/-! ## The characters of the text -/

/-- The characters of rows. -/
def rowChars : List Char :=
  wordChars ++ [':', ' ', '\n']

theorem forall_mem_rowChars {fact : Char → Prop} [DecidablePred fact]
    (hall : rowChars.all (fun char => fact char) = true) : ∀ char ∈ rowChars, fact char := by
  simpa using hall

/-- Rows have nothing but line feeds for line ends. -/
theorem normalizeBreaks_of_mem {text : List Char} (htext : ∀ char ∈ text, char ∈ rowChars) :
    normalizeBreaks text = text := by
  have hkept : ∀ char ∈ rowChars, char ≠ '\r' ∧ char ≠ '\u0085' := forall_mem_rowChars (by decide)
  induction text with
  | nil => rfl
  | cons char rest ih =>
      obtain ⟨hchar, hrest⟩ := List.forall_mem_cons.mp htext
      obtain ⟨hreturn, hnext⟩ := hkept char hchar
      rw [normalizeBreaks, ih hrest, if_neg (not_or.mpr ⟨hreturn, hnext⟩)]
      exact fun _ hpair _ => hreturn hpair

namespace Row

variable {last : List Char} {row : Row} {rows : List Row}

theorem mem_rowChars_of_isPlainWord {word : List Char} (hword : IsPlainWord word) :
    ∀ char ∈ word, char ∈ rowChars :=
  fun char hchar => List.mem_append_left _ (hword.mem char hchar)

theorem IsPlain.mem_rowChars (hplain : row.IsPlain) : ∀ char ∈ row.chars, char ∈ rowChars := by
  have hspace : ' ' ∈ rowChars := by decide
  have hcolon : ':' ∈ rowChars := by decide
  have hmark : '-' ∈ rowChars := by decide
  have hindent : ∀ char ∈ List.replicate row.indent ' ', char ∈ rowChars :=
    fun char hchar => List.eq_of_mem_replicate hchar ▸ hspace
  refine List.forall_mem_append.mpr ⟨hindent, ?_⟩
  cases row with
  | key name value =>
      obtain ⟨hname, hvalue⟩ := hplain
      have hbehind : ∀ char ∈ behindColon value, char ∈ rowChars := by
        cases value with
        | none => nofun
        | some word =>
            exact List.forall_mem_cons.mpr
              ⟨hspace, mem_rowChars_of_isPlainWord (hvalue word rfl)⟩
      exact List.forall_mem_append.mpr
        ⟨mem_rowChars_of_isPlainWord hname, List.forall_mem_cons.mpr ⟨hcolon, hbehind⟩⟩
  | item name =>
      exact List.forall_mem_cons.mpr
        ⟨hmark, List.forall_mem_cons.mpr ⟨hspace, mem_rowChars_of_isPlainWord hplain⟩⟩

theorem mem_rowChars_of_mem_behind (hlast : IsEnding last) (hplain : ∀ row ∈ rows, row.IsPlain) :
    ∀ char ∈ behind last rows, char ∈ rowChars := by
  have hbreak : '\n' ∈ rowChars := by decide
  induction rows with
  | nil =>
      rcases hlast with rfl | rfl
      · nofun
      · exact List.forall_mem_cons.mpr ⟨hbreak, nofun⟩
  | cons row rows ih =>
      obtain ⟨hrow, hrows⟩ := List.forall_mem_cons.mp hplain
      exact List.forall_mem_cons.mpr
        ⟨hbreak, List.forall_mem_append.mpr ⟨hrow.mem_rowChars, ih hrows⟩⟩

theorem mem_rowChars_of_mem_written (hlast : IsEnding last)
    (hplain : ∀ other ∈ row :: rows, other.IsPlain) :
    ∀ char ∈ written last (row :: rows), char ∈ rowChars := by
  obtain ⟨hrow, hrows⟩ := List.forall_mem_cons.mp hplain
  rw [written_cons]
  exact List.forall_mem_append.mpr ⟨hrow.mem_rowChars, mem_rowChars_of_mem_behind hlast hrows⟩

/-- Rows are read as they are written. -/
theorem document?_written (hlast : IsEnding last) (hplain : ∀ other ∈ row :: rows, other.IsPlain) :
    document? (String.ofList (written last (row :: rows))) =
      documentOf? (written last (row :: rows)) := by
  have hmem := mem_rowChars_of_mem_written hlast hplain
  have hreadable : ∀ char ∈ rowChars, isReadable char = true := forall_mem_rowChars (by decide)
  have hall : (written last (row :: rows)).all isReadable = true :=
    List.all_eq_true.mpr fun char hchar => hreadable char (hmem char hchar)
  rw [document?, String.toList_ofList, normalizeBreaks_of_mem hmem]
  exact if_pos hall

end Row

/-! ## Whole documents -/

namespace Entry

open Row

variable {last : List Char} {entry : Entry} {entries : List Entry}

theorem document?_eq_content (hlast : IsEnding last)
    (hplain : ∀ other ∈ entry :: entries, other.IsPlain) :
    document? (String.ofList (written last (allRows (entry :: entries)))) =
      (content Directives.none.allHandles (written last (allRows (entry :: entries))).length
        (.start (written last (allRows (entry :: entries))))).map some := by
  have hentry := hplain entry List.mem_cons_self
  rw [← documentOf?_eq_content hentry]
  exact document?_written hlast (isPlain_allRows hplain)

/-- Rows with short keys are a mapping of their entries. -/
theorem document?_of_short (hlast : IsEnding last)
    (hplain : ∀ other ∈ entry :: entries, other.IsPlain)
    (hshort : ∀ other ∈ entry :: entries, other.key.toList.length ≤ Cursor.maxKeySize) :
    document? (String.ofList (written last (allRows (entry :: entries)))) =
      .ok (some ⟨.mapping ((entry :: entries).map node), []⟩) := by
  obtain ⟨hentry, hmore⟩ := List.forall_mem_cons.mp hplain
  rw [document?_eq_content hlast hplain, content_of_short _ hlast hentry hmore hshort
    (length_le_length_written last _) (awaits_start last entry entries)]
  rfl

/-- Rows with a key that is too long are refused. -/
theorem document?_of_long (hlast : IsEnding last)
    (hplain : ∀ other ∈ entry :: entries, other.IsPlain)
    (hlong : ∃ other ∈ entry :: entries, Cursor.maxKeySize < other.key.toList.length) :
    ∃ fault, document? (String.ofList (written last (allRows (entry :: entries)))) =
      .error fault := by
  obtain ⟨hentry, hmore⟩ := List.forall_mem_cons.mp hplain
  obtain ⟨fault, hfault⟩ := content_of_long Directives.none.allHandles hlast hentry hmore hlong
    (length_le_length_written last _) (awaits_start last entry entries)
  refine ⟨fault, ?_⟩
  rw [document?_eq_content hlast hplain, hfault]
  rfl

end Entry

/-! ## Rows in any order -/

namespace Row

variable {last : List Char} {row : Row} {rows : List Row}

def key? : Row → Option String
  | key name _ => some name
  | item _ => none

/-- The items in front of the first key, and an entry for every key. -/
def group : List Row → List String × List Entry
  | [] => ([], [])
  | item name :: rows => (name :: (group rows).1, (group rows).2)
  | key name value :: rows => ([], ⟨name, value, (group rows).1⟩ :: (group rows).2)

theorem rows_eq (rows : List Row) :
    rows = (group rows).1.map item ++ Entry.allRows (group rows).2 := by
  induction rows with
  | nil => rfl
  | cons row rows ih =>
      cases row with
      | key name value => exact congrArg (key name value :: ·) ih
      | item name => exact congrArg (item name :: ·) ih

theorem keys_group (rows : List Row) :
    (group rows).2.map Entry.key = rows.filterMap key? := by
  induction rows with
  | nil => rfl
  | cons row rows ih =>
      cases row with
      | key name value => exact congrArg (name :: ·) ih
      | item name => exact ih

theorem isPlain_group (hplain : ∀ row ∈ rows, row.IsPlain) :
    (∀ name ∈ (group rows).1, IsPlainWord name.toList) ∧
      ∀ entry ∈ (group rows).2, entry.IsPlain := by
  induction rows with
  | nil => exact ⟨nofun, nofun⟩
  | cons row rows ih =>
      obtain ⟨hrow, hrows⟩ := List.forall_mem_cons.mp hplain
      obtain ⟨hitems, hentries⟩ := ih hrows
      cases row with
      | key name value =>
          exact ⟨nofun, List.forall_mem_cons.mpr ⟨⟨hrow.1, hrow.2, hitems⟩, hentries⟩⟩
      | item name => exact ⟨List.forall_mem_cons.mpr ⟨hrow, hitems⟩, hentries⟩

/-- Rows that start with a key are those of some entries. -/
theorem exists_allRows (hplain : ∀ row ∈ rows, row.IsPlain) (hflush : StartsFlush rows) :
    ∃ entries, rows = Entry.allRows entries ∧ (∀ entry ∈ entries, entry.IsPlain) ∧
      entries.map Entry.key = rows.filterMap key? := by
  refine ⟨(group rows).2, ?_, (isPlain_group hplain).2, keys_group rows⟩
  cases rows with
  | nil => rfl
  | cons row rows =>
      cases row with
      | key name value => exact rows_eq _
      | item name => exact absurd (hflush (item name) rfl) (show ¬2 = 0 by decide)

theorem filterMap_key?_rows (entry : Entry) : entry.rows.filterMap key? = [entry.key] := by
  have hitems : (entry.items.map item).filterMap key? = [] := by
    rw [List.filterMap_map]
    exact List.filterMap_eq_nil_iff.mpr fun _ _ => rfl
  rw [Entry.rows, List.filterMap_cons]
  exact congrArg (entry.key :: ·) hitems

theorem filterMap_key?_allRows (entries : List Entry) :
    (Entry.allRows entries).filterMap key? = entries.map Entry.key := by
  induction entries with
  | nil => rfl
  | cons entry entries ih =>
      rw [Entry.allRows_cons, List.filterMap_append, filterMap_key?_rows, ih]
      rfl

end Row

end HidMend.Yaml
