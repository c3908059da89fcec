import HidMend.Settings
import HidMend.Proofs.Text.Blank
import HidMend.Proofs.Yaml.Document
import Mathlib.Data.List.Nodup

/-!
# Settings files are loaded as they are written

A draft holds a key as soon as it has read it, and refuses it from then on; so whatever is loaded
has only known keys, each at most once, and any other document of entries is refused, wherever in it
the offending entry stands.
-/

namespace HidMend.Settings

open Yaml (Entry IsPlainWord Row)

/-- The text of some rows. -/
def page (last : List Char) (rows : List Row) : String :=
  String.ofList (Row.written last rows)

def knownKeys : List String :=
  [disabledKey, strictKey]

/-- The names of the menders to leave out. -/
def disabledEntry (names : List String) : Entry :=
  ⟨disabledKey, none, names⟩

/-- Whether groups are compared. -/
def strictEntry (strict : Bool) : Entry :=
  ⟨strictKey, some (if strict then "true" else "false"), []⟩

/-- Both keys in either order, one of them, or none. -/
def forms (names : List String) (strict : Bool) : List (List Entry) :=
  [[disabledEntry names, strictEntry strict], [strictEntry strict, disabledEntry names],
    [disabledEntry names], [strictEntry strict], []]

structure LoadsAsWritten (last : List Char) (names : List String) (strict : Bool) : Prop where
  both : ofYaml (page last (Entry.allRows [disabledEntry names, strictEntry strict])) =
    .ok ⟨names, strict⟩
  swapped : ofYaml (page last (Entry.allRows [strictEntry strict, disabledEntry names])) =
    .ok ⟨names, strict⟩
  disabled_alone : ofYaml (page last (Entry.allRows [disabledEntry names])) =
    .ok ⟨names, default.strict⟩
  strict_alone : ofYaml (page last (Entry.allRows [strictEntry strict])) =
    .ok ⟨default.disabled, strict⟩
  neither : ofYaml (page last []) = .ok default
  /-- An entry with another key is refused, between any two rows. -/
  refuses_unknown : ∀ form ∈ forms names strict, ∀ front back, Entry.allRows form = front ++ back →
    ∀ entry : Entry, entry.IsPlain → entry.key ∉ knownKeys →
      ∃ problem, ofYaml (page last (front ++ entry.rows ++ back)) = .error (.malformed problem)
  /-- So is one with a key that is there already. -/
  refuses_repeated : ∀ form ∈ forms names strict, ∀ front back, Entry.allRows form = front ++ back →
    ∀ entry : Entry, entry.IsPlain → entry.key ∈ form.map Entry.key →
      ∃ problem, ofYaml (page last (front ++ entry.rows ++ back)) = .error (.malformed problem)

variable {last : List Char} {names : List String} {strict : Bool} {entry : Entry}
  {entries : List Entry} {document : Yaml.Document} {draft next final : Draft}

/-! ## Words and lists of words -/

theorem toText?_wordNode (document : Yaml.Document) (word : String) :
    (document.resolve (Row.wordNode word)).toText? = some word :=
  congrArg some String.ofList_toList

theorem mapM_wordNode (document : Yaml.Document) (names : List String) :
    (names.map Row.wordNode).mapM (fun element => (document.resolve element).toText?) =
      some names := by
  induction names with
  | nil => rfl
  | cons name names ih =>
      rw [List.map_cons, List.mapM_cons, toText?_wordNode, ih]
      rfl

theorem namesOfNode_disabledEntry (document : Yaml.Document) (names : List String) :
    namesOfNode document (disabledEntry names).valueNode = .ok names := by
  cases names with
  | nil => rfl
  | cons name names =>
      have hresolve : document.resolve (disabledEntry (name :: names)).valueNode =
          .sequence ((name :: names).map Row.wordNode) := rfl
      rw [namesOfNode, hresolve]
      simp only [mapM_wordNode]

theorem truthOfNode_strictEntry (document : Yaml.Document) (strict : Bool) :
    truthOfNode document (strictEntry strict).valueNode = .ok strict := by
  cases strict with
  | false => rfl
  | true => rfl

/-! ## Drafts -/

namespace Draft

def Has (draft : Draft) (key : String) : Prop :=
  key = disabledKey ∧ draft.disabled.isSome ∨ key = strictKey ∧ draft.strict.isSome

theorem readEntry_of_disabledKey (hkey : entry.key = disabledKey) :
    draft.readEntry document entry.node =
      if draft.disabled.isSome then .error (.repeatedKey entry.key)
      else (namesOfNode document entry.valueNode).map fun names =>
        { draft with disabled := some names } := by
  rw [readEntry, Entry.node, toText?_wordNode]
  exact if_pos hkey

theorem readEntry_of_strictKey (hkey : entry.key = strictKey) :
    draft.readEntry document entry.node =
      if draft.strict.isSome then .error (.repeatedKey entry.key)
      else (truthOfNode document entry.valueNode).map fun strict =>
        { draft with strict := some strict } := by
  have hother : entry.key ≠ disabledKey := by
    rw [hkey]
    decide
  rw [readEntry, Entry.node, toText?_wordNode]
  exact (if_neg hother).trans (if_pos hkey)

theorem readEntry_of_unknown (hkey : entry.key ∉ knownKeys) :
    draft.readEntry document entry.node = .error (.unknownKey entry.key) := by
  obtain ⟨hdisabled, hstrict⟩ : entry.key ≠ disabledKey ∧ entry.key ≠ strictKey := by
    simpa [knownKeys] using hkey
  rw [readEntry, Entry.node, toText?_wordNode]
  exact (if_neg hdisabled).trans (if_neg hstrict)

theorem readEntry_disabledEntry (document : Yaml.Document) (hdisabled : draft.disabled = none)
    (names : List String) :
    draft.readEntry document (disabledEntry names).node =
      .ok { draft with disabled := some names } := by
  rw [readEntry_of_disabledKey rfl, hdisabled, namesOfNode_disabledEntry]
  rfl

theorem readEntry_strictEntry (document : Yaml.Document) (hstrict : draft.strict = none)
    (strict : Bool) :
    draft.readEntry document (strictEntry strict).node =
      .ok { draft with strict := some strict } := by
  rw [readEntry_of_strictKey rfl, hstrict, truthOfNode_strictEntry]
  rfl

theorem eq_of_fill {α : Type} {field : Option α} {problem : SettingsProblem}
    {value : Except SettingsProblem α} {fill : α → Draft}
    (hfill : (if field.isSome then .error problem else value.map fill) = .ok next) :
    field = none ∧ ∃ content, next = fill content := by
  cases field with
  | some content => cases hfill
  | none =>
      cases value with
      | error problem => cases hfill
      | ok content =>
          cases hfill
          exact ⟨rfl, content, rfl⟩

/-- An entry sets the field of its key, which was not set. -/
theorem readEntry_cases (hread : draft.readEntry document entry.node = .ok next) :
    (entry.key = disabledKey ∧ draft.disabled = none ∧
        ∃ names, next = { draft with disabled := some names }) ∨
      entry.key = strictKey ∧ draft.strict = none ∧
        ∃ strict, next = { draft with strict := some strict } := by
  by_cases hdisabled : entry.key = disabledKey
  · rw [readEntry_of_disabledKey hdisabled] at hread
    exact .inl ⟨hdisabled, eq_of_fill hread⟩
  by_cases hstrict : entry.key = strictKey
  · rw [readEntry_of_strictKey hstrict] at hread
    exact .inr ⟨hstrict, eq_of_fill hread⟩
  have hunknown : entry.key ∉ knownKeys := by
    simpa [knownKeys] using ⟨hdisabled, hstrict⟩
  rw [readEntry_of_unknown hunknown] at hread
  cases hread

/-- What one entry does to a draft: its key is known, was not there, and is there from then on. -/
theorem has_of_readEntry (hread : draft.readEntry document entry.node = .ok next) :
    entry.key ∈ knownKeys ∧ ¬draft.Has entry.key ∧ next.Has entry.key ∧
      ∀ key, draft.Has key → next.Has key := by
  have hkeys : disabledKey ≠ strictKey := by decide
  rcases readEntry_cases hread with ⟨hkey, hnone, names, rfl⟩ | ⟨hkey, hnone, strict, rfl⟩
  · rw [hkey]
    refine ⟨List.mem_cons_self, ?_, .inl ⟨rfl, rfl⟩, fun key hhas => ?_⟩
    · simp [Has, hnone, hkeys]
    · exact hhas.imp (fun hfirst => ⟨hfirst.1, rfl⟩) id
  · rw [hkey]
    refine ⟨List.mem_cons_of_mem _ List.mem_cons_self, ?_, .inr ⟨rfl, rfl⟩, fun key hhas => ?_⟩
    · simp [Has, hnone, hkeys.symm]
    · exact hhas.imp id fun hsecond => ⟨hsecond.1, rfl⟩

/-- An entry that is read makes way for those behind it. -/
theorem foldlM_of_readEntry (hread : draft.readEntry document entry.node = .ok next)
    (entries : List Entry) :
    ((entry :: entries).map Entry.node).foldlM (readEntry document) draft =
      (entries.map Entry.node).foldlM (readEntry document) next := by
  rw [List.map_cons, List.foldlM_cons, hread]
  rfl

/-- What all entries do: their keys are known, were not there, and none of them is there twice. -/
theorem keys_of_foldlM
    (hread : (entries.map Entry.node).foldlM (readEntry document) draft = .ok final) :
    (entries.map Entry.key).Nodup ∧
      ∀ key ∈ entries.map Entry.key, key ∈ knownKeys ∧ ¬draft.Has key := by
  -- what the next draft has tells the first key from all later ones
  induction entries generalizing draft with
  | nil => exact ⟨List.nodup_nil, nofun⟩
  | cons entry entries ih =>
      cases hnext : draft.readEntry document entry.node with
      | error problem =>
          rw [List.map_cons, List.foldlM_cons, hnext] at hread
          cases hread
      | ok next =>
          rw [foldlM_of_readEntry hnext] at hread
          obtain ⟨hknown, hfresh, hhas, hkept⟩ := has_of_readEntry hnext
          obtain ⟨hnodup, hkeys⟩ := ih hread
          have hother : entry.key ∉ entries.map Entry.key := fun hmem => (hkeys _ hmem).2 hhas
          refine ⟨List.nodup_cons.mpr ⟨hother, hnodup⟩,
            List.forall_mem_cons.mpr ⟨⟨hknown, hfresh⟩, fun key hkey => ?_⟩⟩
          exact (hkeys key hkey).imp_right (mt (hkept key))

end Draft

/-! ## Texts -/

theorem trim_ne_nil {text : List Char} (hahead : Yaml.LetterAhead text) : Text.trim text ≠ [] := by
  obtain ⟨first, rest, rfl, hfirst⟩ := hahead
  have hsolid : ∀ char ∈ Yaml.letters, Text.isBlank char = false :=
    Yaml.forall_mem_letters (by decide)
  intro htrim
  obtain ⟨⟨front, back, hfront, hback, htext⟩, -, -⟩ := Text.trim_eq_iff.mp htrim
  have hgap : Text.IsGap (first :: rest) := by
    rw [htext, List.append_nil]
    exact List.forall_mem_append.mpr ⟨hfront, hback⟩
  exact absurd (hgap first List.mem_cons_self) (by simp [hsolid first hfirst])

theorem letterAhead_written (hplain : entry.IsPlain) (last : List Char) (entries : List Entry) :
    Yaml.LetterAhead (Row.written last (Entry.allRows (entry :: entries))) :=
  Entry.letterAhead_of_awaits hplain (Entry.awaits_start last entry entries)

theorem ofYaml_page (hplain : entry.IsPlain) (last : List Char) (entries : List Entry) :
    ofYaml (page last (Entry.allRows (entry :: entries))) =
      match Yaml.document? (page last (Entry.allRows (entry :: entries))) with
      | .error fault => .error (.malformed (.yaml fault))
      | .ok none => .ok default
      | .ok (some document) => (ofDocument document).mapError .malformed := by
  have htrim := trim_ne_nil (letterAhead_written hplain last entries)
  have hchars : (page last (Entry.allRows (entry :: entries))).toList =
      Row.written last (Entry.allRows (entry :: entries)) := String.toList_ofList
  rw [ofYaml, hchars]
  exact if_neg (by simpa using htrim)

/-- Entries with short keys are loaded by what they make of a draft. -/
theorem ofYaml_of_short (hlast : Row.IsEnding last)
    (hplain : ∀ other ∈ entry :: entries, other.IsPlain)
    (hshort : ∀ other ∈ entry :: entries, other.key.toList.length ≤ Yaml.Cursor.maxKeySize) :
    ofYaml (page last (Entry.allRows (entry :: entries))) =
      ((((entry :: entries).map Entry.node).foldlM
        (Draft.readEntry ⟨.mapping ((entry :: entries).map Entry.node), []⟩) .empty).map
          Draft.complete).mapError .malformed := by
  rw [ofYaml_page (hplain entry List.mem_cons_self), page,
    Entry.document?_of_short hlast hplain hshort]
  rfl

/-- Only known keys are loaded, and each at most once. -/
theorem ofYaml_malformed (hlast : Row.IsEnding last) (hplain : ∀ entry ∈ entries, entry.IsPlain)
    (hkeys : ¬((entries.map Entry.key).Nodup ∧ ∀ key ∈ entries.map Entry.key, key ∈ knownKeys)) :
    ∃ problem, ofYaml (page last (Entry.allRows entries)) = .error (.malformed problem) := by
  cases entries with
  | nil => exact absurd ⟨List.nodup_nil, nofun⟩ hkeys
  | cons entry entries =>
      by_cases hlong : ∃ other ∈ entry :: entries,
          Yaml.Cursor.maxKeySize < other.key.toList.length
      · obtain ⟨fault, hfault⟩ := Entry.document?_of_long hlast hplain hlong
        refine ⟨.yaml fault, ?_⟩
        rw [ofYaml_page (hplain entry List.mem_cons_self), page, hfault]
      · have hshort : ∀ other ∈ entry :: entries,
            other.key.toList.length ≤ Yaml.Cursor.maxKeySize := by
          simpa using hlong
        rw [ofYaml_of_short hlast hplain hshort]
        cases hread : ((entry :: entries).map Entry.node).foldlM
            (Draft.readEntry ⟨.mapping ((entry :: entries).map Entry.node), []⟩) .empty with
        | error problem => exact ⟨problem, rfl⟩
        | ok final =>
            obtain ⟨hnodup, hknown⟩ := Draft.keys_of_foldlM hread
            exact absurd ⟨hnodup, fun key hkey => (hknown key hkey).1⟩ hkeys

/-- An entry that is put between two rows is refused if its key is unknown or there already. -/
theorem ofYaml_inserted (hlast : Row.IsEnding last) (hplain : ∀ other ∈ entries, other.IsPlain)
    (hentry : entry.IsPlain) {front back : List Row}
    (hsplit : Entry.allRows entries = front ++ back)
    (hkey : entry.key ∉ knownKeys ∨ entry.key ∈ entries.map Entry.key) :
    ∃ problem, ofYaml (page last (front ++ entry.rows ++ back)) = .error (.malformed problem) := by
  obtain ⟨hfront, hback⟩ := List.forall_mem_append.mp (hsplit ▸ Entry.isPlain_allRows hplain)
  have hrows : ∀ row ∈ front ++ entry.rows ++ back, row.IsPlain :=
    List.forall_mem_append.mpr ⟨List.forall_mem_append.mpr ⟨hfront, hentry.rows⟩, hback⟩
  have hflush : Row.StartsFlush (front ++ entry.rows ++ back) := by
    have hstart : Row.StartsFlush (front ++ back) := hsplit ▸ Entry.startsFlush_allRows entries
    cases front with
    | nil => exact Entry.startsFlush_allRows [entry]
    | cons row front => exact hstart
  -- items right behind the new entry now belong to it, but no key comes or goes
  obtain ⟨others, hothers, hplain, hkeys⟩ := Row.exists_allRows hrows hflush
  have hbefore : entries.map Entry.key = front.filterMap Row.key? ++ back.filterMap Row.key? := by
    rw [← Row.filterMap_key?_allRows, hsplit, List.filterMap_append]
  rw [List.filterMap_append, List.filterMap_append, Row.filterMap_key?_rows] at hkeys
  rw [hothers]
  refine ofYaml_malformed hlast hplain ?_
  rintro ⟨hnodup, hknown⟩
  rw [hkeys, List.append_assoc] at hnodup hknown
  rcases hkey with hunknown | hthere
  · have hmem : entry.key ∈ front.filterMap Row.key? ++ ([entry.key] ++ back.filterMap Row.key?) :=
      List.mem_append_right _ List.mem_cons_self
    exact hunknown (hknown entry.key hmem)
  · rw [hbefore] at hthere
    exact (List.nodup_cons.mp (List.nodup_middle.mp hnodup)).1 hthere

/-! ## The documented forms -/

theorem isPlain_disabledEntry (hnames : ∀ name ∈ names, IsPlainWord name.toList) :
    (disabledEntry names).IsPlain where
  key := (by decide : IsPlainWord disabledKey.toList)
  value := nofun
  items := hnames

theorem isPlain_strictEntry (strict : Bool) : (strictEntry strict).IsPlain where
  key := (by decide : IsPlainWord strictKey.toList)
  value := by
    rintro word ⟨rfl⟩
    cases strict <;> decide
  items := nofun

theorem key_mem_of_mem_forms {form : List Entry} (hform : form ∈ forms names strict) :
    ∀ entry ∈ form, entry.key ∈ knownKeys := by
  simp only [forms, List.mem_cons, List.not_mem_nil, or_false] at hform
  rcases hform with rfl | rfl | rfl | rfl | rfl <;>
    simp [disabledEntry, strictEntry, knownKeys]

theorem short_of_mem_forms {form : List Entry} (hform : form ∈ forms names strict) :
    ∀ entry ∈ form, entry.key.toList.length ≤ Yaml.Cursor.maxKeySize := by
  have hshort : ∀ key ∈ knownKeys, key.toList.length ≤ Yaml.Cursor.maxKeySize := by decide
  exact fun entry hentry => hshort _ (key_mem_of_mem_forms hform entry hentry)

theorem isPlain_of_mem_forms (hnames : ∀ name ∈ names, IsPlainWord name.toList) {form : List Entry}
    (hform : form ∈ forms names strict) : ∀ entry ∈ form, entry.IsPlain := by
  have hdisabled := isPlain_disabledEntry hnames
  have hstrict := isPlain_strictEntry strict
  simp only [forms, List.mem_cons, List.not_mem_nil, or_false] at hform
  rcases hform with rfl | rfl | rfl | rfl | rfl <;> simp [hdisabled, hstrict]

/-- A text in one of the forms is read entry by entry. -/
theorem ofYaml_of_mem_forms (hnames : ∀ name ∈ names, IsPlainWord name.toList)
    (hlast : Row.IsEnding last) (hform : entry :: entries ∈ forms names strict) (final : Draft)
    (hread : ∀ document, ((entry :: entries).map Entry.node).foldlM (Draft.readEntry document)
      .empty = .ok final) :
    ofYaml (page last (Entry.allRows (entry :: entries))) = .ok final.complete := by
  rw [ofYaml_of_short hlast (isPlain_of_mem_forms hnames hform) (short_of_mem_forms hform), hread]
  rfl

/-- Settings files are loaded as they are written, and nothing in them is passed over. -/
theorem loads_as_written (hnames : ∀ name ∈ names, IsPlainWord name.toList) (strict : Bool)
    (hlast : Row.IsEnding last) : LoadsAsWritten last names strict where
  both := by
    have hform : [disabledEntry names, strictEntry strict] ∈ forms names strict := by simp [forms]
    refine ofYaml_of_mem_forms hnames hlast hform ⟨some names, some strict⟩ fun document => ?_
    rw [Draft.foldlM_of_readEntry (Draft.readEntry_disabledEntry document rfl names),
      Draft.foldlM_of_readEntry (Draft.readEntry_strictEntry document rfl strict)]
    rfl
  swapped := by
    have hform : [strictEntry strict, disabledEntry names] ∈ forms names strict := by simp [forms]
    refine ofYaml_of_mem_forms hnames hlast hform ⟨some names, some strict⟩ fun document => ?_
    rw [Draft.foldlM_of_readEntry (Draft.readEntry_strictEntry document rfl strict),
      Draft.foldlM_of_readEntry (Draft.readEntry_disabledEntry document rfl names)]
    rfl
  disabled_alone := by
    have hform : [disabledEntry names] ∈ forms names strict := by simp [forms]
    refine ofYaml_of_mem_forms hnames hlast hform ⟨some names, none⟩ fun document => ?_
    rw [Draft.foldlM_of_readEntry (Draft.readEntry_disabledEntry document rfl names)]
    rfl
  strict_alone := by
    have hform : [strictEntry strict] ∈ forms names strict := by simp [forms]
    refine ofYaml_of_mem_forms hnames hlast hform ⟨none, some strict⟩ fun document => ?_
    rw [Draft.foldlM_of_readEntry (Draft.readEntry_strictEntry document rfl strict)]
    rfl
  neither := by
    rcases hlast with rfl | rfl
    · rfl
    · rfl
  refuses_unknown form hform front back hsplit entry hentry hkey :=
    ofYaml_inserted hlast (isPlain_of_mem_forms hnames hform) hentry hsplit (.inl hkey)
  refuses_repeated form hform front back hsplit entry hentry hkey :=
    ofYaml_inserted hlast (isPlain_of_mem_forms hnames hform) hentry hsplit (.inr hkey)

/-- Names that are words of YAML, too, are names. -/
theorem loads_as_written_keywords :
    (∀ name ∈ ["null", "no", "x-1"], IsPlainWord name.toList) ∧ Row.IsEnding ['\n'] ∧
      LoadsAsWritten ['\n'] ["null", "no", "x-1"] false :=
  ⟨by decide, .inr rfl, loads_as_written (by decide) false (.inr rfl)⟩

example : page ['\n'] (Entry.allRows [disabledEntry ["tilt", "xp-pen"], strictEntry false]) =
    "disabled_modules:\n  - tilt\n  - xp-pen\nstrict_identity: false\n" :=
  rfl

end HidMend.Settings
