import HidMend.Proofs.Device.Sysname
import HidMend.Proofs.Text.Utf8

/-!
# Sysnames in paths

The reader of sysnames takes exactly the texts of the grammar, alone and in the last part of a path.

The last part of a path is the last one between slashes that is neither empty nor a point.  What
stands in front of it, up to a slash, does not matter; behind it may stand slashes, and points after
slashes.  Every text of the grammar can name an entry of a directory, so it is found as the last
part of a path whatever directories the path leads through, also where their names are no texts.
-/

namespace HidMend.Sysname

/-- Slashes, with points after some of them: what may follow the last part of a path. -/
inductive Trails : Bytes → Prop
  | nil : Trails []
  | cons {gap rest : Bytes} (hgap : gap = [] ∨ gap = [point]) (hrest : Trails rest) :
      Trails (slash :: (gap ++ rest))

/-- A path that has this part at its end, alone or below directories of any kind. -/
inductive EndsIn (part : Bytes) : Bytes → Prop
  | alone {behind : Bytes} (hbehind : Trails behind) : EndsIn part (part ++ behind)
  | below {behind : Bytes} (directories : Bytes) (hbehind : Trails behind) :
      EndsIn part (directories ++ slash :: (part ++ behind))

/-- A part that can be the name of an entry in a directory. -/
structure IsName (part : Bytes) : Prop where
  ne_nil : part ≠ []
  ne_point : part ≠ [point]
  ne_points : part ≠ [point, point]
  slash_not_mem : slash ∉ part

variable {path part other front rest behind : Bytes}

/-! ## Parts -/

/-- A part that counts. -/
def visible (part : Bytes) : Bool :=
  part ≠ [] && part ≠ [point]

theorem visible_eq_false_iff : visible part = false ↔ part = [] ∨ part = [point] := by
  simp [visible, ← Bool.not_eq_true, imp_iff_not_or]

theorem visible_eq_true_iff : visible part = true ↔ part ≠ [] ∧ part ≠ [point] := by
  simp [visible]

theorem slash_not_mem_gap (hgap : part = [] ∨ part = [point]) : slash ∉ part := by
  rcases hgap with rfl | rfl <;> decide

/-- A text without a slash extends the part that is begun. -/
theorem partsFrom_append (hpart : slash ∉ part) (front rest : Bytes) :
    partsFrom front (part ++ rest) = partsFrom (front ++ part) rest := by
  induction part generalizing front with
  | nil => simp
  | cons byte part ih =>
      rw [List.mem_cons, not_or] at hpart
      rw [List.cons_append, partsFrom, if_neg (Ne.symm hpart.1), ih hpart.2, List.append_assoc]
      rfl

/-- A slash ends a part, whatever stands in front of it. -/
theorem partsFrom_append_slash (part front rest : Bytes) :
    partsFrom part (front ++ slash :: rest) = partsFrom part front ++ partsFrom [] rest := by
  induction front generalizing part with
  | nil => simp [partsFrom]
  | cons byte front ih =>
      rw [List.cons_append, partsFrom, partsFrom]
      split_ifs with hslash
      · rw [ih, List.cons_append]
      · exact ih (part ++ [byte])

/-- What trails a part adds no part that counts. -/
theorem Trails.filter_partsFrom (hbehind : Trails behind) (part : Bytes) :
    (partsFrom part behind).filter visible = [part].filter visible := by
  induction hbehind generalizing part with
  | nil => rfl
  | @cons gap rest hgap _ ih =>
      have hhidden : [gap].filter visible = [] := by
        simp [visible_eq_false_iff.mpr hgap]
      rw [partsFrom, if_pos rfl, partsFrom_append (slash_not_mem_gap hgap), List.nil_append,
        List.filter_cons, ih, hhidden, List.filter_cons]
      rfl

/-- Directories in front do not change where a path ends. -/
theorem EndsIn.directories_append (front : Bytes) (hends : EndsIn part path) :
    EndsIn part (front ++ slash :: path) := by
  cases hends with
  | alone hbehind => exact .below front hbehind
  | below directories hbehind =>
      rw [← List.cons_append, ← List.append_assoc]
      exact .below (front ++ slash :: directories) hbehind

/-- Where a path ends is the last part that counts. -/
theorem EndsIn.getLast?_eq (hends : EndsIn part path) (hvisible : visible part = true)
    (hslash : slash ∉ part) : ((partsFrom [] path).filter visible).getLast? = some part := by
  have hlast : [part].filter visible = [part] := by simp [hvisible]
  cases hends with
  | alone hbehind =>
      rw [partsFrom_append hslash, List.nil_append, hbehind.filter_partsFrom, hlast]
      rfl
  | below directories hbehind =>
      rw [partsFrom_append_slash, List.filter_append, partsFrom_append hslash, List.nil_append,
        hbehind.filter_partsFrom, hlast, List.getLast?_concat]

/-- A path ends in a part that counts, or it has none.  The induction follows the splitter: `front`
is the part that it has begun. -/
theorem exists_endsIn_or_trails (hfront : slash ∉ front) (path : Bytes) :
    (∃ part, visible part = true ∧ slash ∉ part ∧ EndsIn part (front ++ path)) ∨
      (∀ part ∈ partsFrom front path, visible part = false) ∧
        Trails (slash :: (front ++ path)) := by
  induction path generalizing front with
  | nil =>
      cases hvisible : visible front with
      | true => exact .inl ⟨front, hvisible, hfront, .alone .nil⟩
      | false =>
          refine .inr ⟨?_, .cons (visible_eq_false_iff.mp hvisible) .nil⟩
          simpa [partsFrom] using hvisible
  | cons byte rest ih =>
      by_cases hbyte : byte = slash
      · subst hbyte
        rw [partsFrom, if_pos rfl]
        obtain ⟨part, hvisible, hslash, hends⟩ | ⟨hhidden, htrails⟩ := ih List.not_mem_nil
        · exact .inl ⟨part, hvisible, hslash, hends.directories_append front⟩
        cases hvisible : visible front with
        | true => exact .inl ⟨front, hvisible, hfront, .alone htrails⟩
        | false =>
            refine .inr ⟨?_, .cons (visible_eq_false_iff.mp hvisible) htrails⟩
            exact List.forall_mem_cons.mpr ⟨hvisible, hhidden⟩
      · have hlonger : slash ∉ front ++ [byte] := by
          simpa [hfront] using Ne.symm hbyte
        rw [partsFrom, if_neg hbyte]
        simpa only [List.append_assoc, List.singleton_append] using ih hlonger

/-- The last part of a path is the name in which the path ends. -/
theorem lastPart?_eq_some_iff : lastPart? path = some part ↔ IsName part ∧ EndsIn part path := by
  have hvisible : (fun part : Bytes => decide (part ≠ []) && decide (part ≠ [point])) = visible :=
    rfl
  rw [lastPart?, hvisible]
  constructor
  · intro hpart
    obtain ⟨last, hvisible, hslash, hends⟩ | ⟨hhidden, -⟩ :=
      exists_endsIn_or_trails (List.not_mem_nil (a := slash)) path
    · rw [List.nil_append] at hends
      rw [hends.getLast?_eq hvisible hslash] at hpart
      obtain ⟨hpoints, hlast⟩ := Option.ite_none_left_eq_some.mp hpart
      obtain rfl := Option.some.inj hlast
      obtain ⟨hnil, hpoint⟩ := visible_eq_true_iff.mp hvisible
      exact ⟨⟨hnil, hpoint, hpoints, hslash⟩, hends⟩
    · rw [List.filter_eq_nil_iff.mpr (by simpa using hhidden)] at hpart
      cases hpart
  · rintro ⟨hname, hends⟩
    have hvisible := visible_eq_true_iff.mpr ⟨hname.ne_nil, hname.ne_point⟩
    rw [hends.getLast?_eq hvisible hname.slash_not_mem]
    exact if_neg hname.ne_points

/-! ## Sysnames as names -/

/-- The characters of the grammar. -/
def spellings : List Char :=
  ':' :: '.' :: Hex.digitSpellings

theorem slash_not_mem_utf8EncodeChar :
    ∀ char ∈ spellings, slash ∉ String.utf8EncodeChar char := by
  have hdigits : ∀ char ∈ Hex.digitSpellings, slash ∉ String.utf8EncodeChar char :=
    Hex.forall_mem_digitSpellings (by decide)
  simp only [spellings, List.forall_mem_cons]
  exact ⟨by decide, by decide, hdigits⟩

/-- A sysname is spelled with digits, colons and a point. -/
theorem Spells.forall_mem_spellings {text : List Char} {groups : Groups}
    (hspells : Spells text groups) : ∀ char ∈ text, char ∈ spellings := by
  obtain ⟨⟨hbus, hvendor, hproduct, hinstance⟩, hshape⟩ := hspells
  have hdigits : ∀ {width digits}, Hex.IsGroup width digits →
      ∀ char ∈ digits, char ∈ spellings := by
    intro width digits hgroup char hchar
    simp [spellings, hgroup.mem char hchar]
  have hmarks : ':' ∈ spellings ∧ '.' ∈ spellings := by
    simp [spellings]
  rw [hshape, Groups.withMarks]
  simp only [List.forall_mem_append, List.forall_mem_cons]
  exact ⟨⟨⟨hdigits hbus, hmarks.1, hdigits hvendor⟩, hmarks.1, hdigits hproduct⟩, hmarks.2,
    hdigits hinstance⟩

/-- A text of the grammar can name an entry of a directory: it is longer than a point or two, and
has no slash. -/
theorem Spells.isName {name : String} {groups : Groups} (hspells : Spells name.toList groups) :
    IsName (bytesOfText name) := by
  have hlength : (bytesOfText name).length = 19 := by
    rw [length_bytesOfText, hspells.utf8ByteSize_eq]
  have hother : ∀ bytes : Bytes, bytes.length ≠ 19 → bytesOfText name ≠ bytes := by
    rintro _ hne rfl
    exact hne hlength
  refine ⟨hother _ (by decide), hother _ (by decide), hother _ (by decide), ?_⟩
  rw [bytesOfText_eq_flatMap, List.mem_flatMap]
  rintro ⟨char, hchar, hslash⟩
  exact slash_not_mem_utf8EncodeChar char (hspells.forall_mem_spellings char hchar) hslash

/-- A sysname is read from a path if the path ends in a text that spells it. -/
theorem ofHostPath_eq_ok_iff {sysname : Sysname} {shown : String} :
    ofHostPath path shown = .ok sysname ↔
      ∃ name, EndsIn (bytesOfText name) path ∧ parse name = .ok sysname := by
  constructor
  · intro hread
    rw [ofHostPath] at hread
    split at hread
    · next part hpart =>
        obtain ⟨-, hends⟩ := lastPart?_eq_some_iff.mp hpart
        split at hread
        · next name hname =>
            rw [textOfBytes_eq_ok_iff] at hname
            exact ⟨name, hname ▸ hends, hread⟩
        · cases hread
    · cases hread
  · rintro ⟨name, hends, hparse⟩
    obtain ⟨groups, hspells, -⟩ := parse_eq_ok_iff.mp hparse
    rw [ofHostPath, lastPart?_eq_some_iff.mpr ⟨hspells.isName, hends⟩]
    simp only [textOfBytes_bytesOfText, hparse]

/-! ## The result -/

/-- What reading a sysname, alone or from a path, and writing it amount to. -/
structure ReadsItsGrammar : Prop where
  accepts_iff : ∀ {name}, (∃ sysname, parse name = .ok sysname) ↔
    name.utf8ByteSize = 19 ∧ ∃ groups, Spells name.toList groups
  refuses : ∀ {name}, (¬∃ sysname, parse name = .ok sysname) →
    parse name = .error (.invalidSysname name)
  /-- The numbers of an accepted text are those of its groups, and they are written with digits in
  upper case. -/
  reads : ∀ {name groups}, Spells name.toList groups →
    ∃ sysname, parse name = .ok sysname ∧ groups.Denotes sysname ∧ sysname.text = name.toUpper
  reads_text : ∀ sysname, parse sysname.text = .ok sysname
  /-- The directories above do not matter, and no more does the text that stands for the path. -/
  reads_path : ∀ {sysname path} (shown : String), EndsIn (bytesOfText sysname.text) path →
    ofHostPath path shown = .ok sysname

/-- The reader accepts exactly its grammar, is inverse to the writer, and finds what is written as
the last part of any path. -/
theorem reads_its_grammar : ReadsItsGrammar where
  accepts_iff := by
    intro name
    simp only [parse_eq_ok_iff]
    constructor
    · rintro ⟨_, groups, hspells, -⟩
      exact ⟨hspells.utf8ByteSize_eq, groups, hspells⟩
    · rintro ⟨-, groups, hspells⟩
      exact ⟨_, groups, hspells, hspells.wellFormed.denotes⟩
  refuses := fun hfails => (parse_ok_or_invalid _).resolve_left hfails
  reads := by
    intro name groups hspells
    have hdenotes := hspells.wellFormed.denotes
    exact ⟨_, parse_eq_ok_iff.mpr ⟨groups, hspells, hdenotes⟩, hdenotes, hspells.text_eq hdenotes⟩
  reads_text := parse_text
  reads_path := by
    intro sysname path shown hends
    exact ofHostPath_eq_ok_iff.mpr ⟨sysname.text, hends, sysname.parse_text⟩

/-- The digits of a pen, with either case in them. -/
def penGroups : Groups :=
  ⟨"0003".toList, "28bd".toList, "095B".toList, "000b".toList⟩

/-- The pen is also found below a directory whose name is no text. -/
theorem reads_its_grammar_pen :
    Spells "0003:28bd:095B.000b".toList penGroups ∧
      parse "0003:28bd:095B.000b" = .ok ⟨⟨3⟩, 0x28BD, 0x095B, 0x000B⟩ ∧
      penGroups.Denotes ⟨⟨3⟩, 0x28BD, 0x095B, 0x000B⟩ ∧
      (Sysname.mk ⟨3⟩ 0x28BD 0x095B 0x000B).text = "0003:28BD:095B.000B" ∧
      ofHostPath (bytesOfText "/sys/" ++ [0xFF] ++
        slash :: (bytesOfText "0003:28BD:095B.000B" ++ [slash, point])) "" =
          .ok ⟨⟨3⟩, 0x28BD, 0x095B, 0x000B⟩ := by
  have hspells : Spells "0003:28bd:095B.000b".toList penGroups :=
    ⟨⟨by decide, by decide, by decide, by decide⟩, by decide⟩
  have hparse : parse "0003:28bd:095B.000b" = .ok ⟨⟨3⟩, 0x28BD, 0x095B, 0x000B⟩ := by
    decide
  have hupper : "0003:28bd:095B.000b".toUpper = "0003:28BD:095B.000B" :=
    String.toList_inj.mp (String.toList_map.trans (by decide))
  obtain ⟨sysname, hread, hdenotes, htext⟩ := reads_its_grammar.reads hspells
  obtain rfl := Except.ok.inj (hparse.symm.trans hread)
  rw [hupper] at htext
  refine ⟨hspells, hparse, hdenotes, htext, reads_its_grammar.reads_path "" ?_⟩
  rw [htext]
  exact .below _ (.cons (.inr rfl) .nil)

end HidMend.Sysname
