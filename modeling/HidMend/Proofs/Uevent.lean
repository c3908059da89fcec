import HidMend.Scan
import HidMend.Proofs.Text.Lines

/-!
# The last value of a key counts

A line assigns a value to a key if the two are what its first equals sign divides, without the white
space around them.  Reading a line replaces the value of its key and nothing else, so after all
lines every field has what the last line of its key assigns.  From that one fact follow the law for
two texts, where the second overrides the first field by field, and that all other lines might as
well not be there.
-/

namespace HidMend.Uevent

/-- What the first equals sign of a line divides, without the white space around it. -/
def Assigns (line key value : List Char) : Prop :=
  ∃ left right, line = left ++ '=' :: right ∧ '=' ∉ left ∧ Text.TrimsTo left key ∧
    Text.TrimsTo right value

/-- The value that the last of some lines with a key assigns. -/
def LastValue (text key value : List Char) : Prop :=
  ∃ before line after, Text.Lined text (before ++ line :: after) ∧ Assigns line key value ∧
    ∀ later ∈ after, ∀ other, ¬Assigns later key other

/-- No line of a text has a key. -/
def Unset (text key : List Char) : Prop :=
  ∃ found, Text.Lined text found ∧ ∀ line ∈ found, ∀ value, ¬Assigns line key value

variable {line key value text : List Char} {uevent : Uevent} {field : Uevent → Option String}

/-! ## One line -/

theorem entry?_append {left : List Char} (hleft : '=' ∉ left) (right : List Char) :
    entry? (left ++ '=' :: right) = some (Text.trim left, Text.trim right) := by
  unfold entry?
  rw [Text.splitFirst?_append hleft]
  rfl

theorem entry?_of_not_mem (hline : '=' ∉ line) : entry? line = none := by
  unfold entry?
  rw [Text.splitFirst?_of_not_mem hline]
  rfl

/-- A line has the key and the value that it assigns. -/
theorem entry?_eq_some_iff : entry? line = some (key, value) ↔ Assigns line key value := by
  by_cases hmem : '=' ∈ line
  · obtain ⟨left, right, rfl, hleft⟩ := List.eq_append_cons_of_mem hmem
    rw [entry?_append hleft]
    constructor
    · intro hentry
      cases hentry
      exact ⟨left, right, rfl, hleft, Text.trimsTo_trim left, Text.trimsTo_trim right⟩
    · rintro ⟨otherLeft, otherRight, hsame, hother, hkey, hvalue⟩
      obtain ⟨rfl, rfl⟩ := Text.append_separator_inj hleft hother hsame
      rw [hkey.trim_eq, hvalue.trim_eq]
  · rw [entry?_of_not_mem hmem]
    constructor
    · nofun
    · rintro ⟨left, right, rfl, -⟩
      exact absurd (List.mem_append_right _ List.mem_cons_self) hmem

/-- The value of a key in a line. -/
def value? (key line : List Char) : Option (List Char) :=
  entry? line |>.bind fun entry => if entry.1 = key then some entry.2 else none

theorem value?_eq_some_iff : value? key line = some value ↔ Assigns line key value := by
  rw [← entry?_eq_some_iff, value?]
  cases entry? line with
  | none => simp
  | some entry => simp [Prod.ext_iff]

theorem value?_eq_none_iff : value? key line = none ↔ ∀ value, ¬Assigns line key value := by
  simp only [← value?_eq_some_iff, Option.eq_none_iff_forall_ne_some, ne_eq]

/-- A carriage return at the end of a line is white space behind its value. -/
theorem value?_append_return (key line : List Char) :
    value? key (line ++ ['\r']) = value? key line := by
  have hentry : entry? (line ++ ['\r']) = entry? line := by
    by_cases hmem : '=' ∈ line
    · obtain ⟨left, right, rfl, hleft⟩ := List.eq_append_cons_of_mem hmem
      have hreturn : Text.IsGap ['\r'] := by decide
      have htrim := ((Text.trimsTo_trim right).append_gap hreturn).trim_eq
      rw [List.append_assoc, List.cons_append, entry?_append hleft, entry?_append hleft, htrim]
    · have hlonger : '=' ∉ line ++ ['\r'] := by simpa using hmem
      rw [entry?_of_not_mem hmem, entry?_of_not_mem hlonger]
  rw [value?, value?, hentry]

/-! ## One field -/

/-- A field that has the value of a key: a line with the key replaces it, and no other line does. -/
def Follows (key : String) (field : Uevent → Option String) : Prop :=
  ∀ uevent line,
    field (readLine uevent line) = ((value? key.toList line).map String.ofList).or (field uevent)

theorem readLine_of_entry (hentry : entry? line = some (key, value)) :
    readLine uevent line =
      if key = "HID_NAME".toList then { uevent with name := some (String.ofList value) }
      else if key = "MODALIAS".toList then { uevent with modalias := some (String.ofList value) }
      else uevent := by
  rw [readLine, hentry]

theorem value?_of_entry (other : List Char) (hentry : entry? line = some (key, value)) :
    value? other line = if key = other then some value else none := by
  rw [value?, hentry, Option.bind_some]

theorem follows_name : Follows "HID_NAME" name := by
  intro uevent line
  cases hentry : entry? line with
  | none =>
      rw [readLine, value?, hentry]
      rfl
  | some entry =>
      rw [readLine_of_entry hentry, value?_of_entry _ hentry]
      by_cases hname : entry.1 = "HID_NAME".toList
      · rw [if_pos hname, if_pos hname]
        rfl
      · rw [if_neg hname, if_neg hname]
        split_ifs <;> rfl

theorem follows_modalias : Follows "MODALIAS" modalias := by
  intro uevent line
  cases hentry : entry? line with
  | none =>
      rw [readLine, value?, hentry]
      rfl
  | some entry =>
      rw [readLine_of_entry hentry, value?_of_entry _ hentry]
      by_cases hmodalias : entry.1 = "MODALIAS".toList
      · have hname : entry.1 ≠ "HID_NAME".toList := by
          rw [hmodalias]
          decide
        rw [if_neg hname, if_pos hmodalias, if_pos hmodalias]
        rfl
      · rw [if_neg hmodalias, if_neg hmodalias]
        split_ifs <;> rfl

/-! ## All lines -/

section

variable {key : String} {text : String}

/-- Lines that are read one after another leave the last value that they assign, or what there was.
-/
theorem Follows.foldl_readLine (hfollows : Follows key field) (found : List (List Char))
    (uevent : Uevent) :
    field (found.foldl readLine uevent) =
      ((found.filterMap (value? key.toList)).getLast?.map String.ofList).or (field uevent) := by
  induction found generalizing uevent with
  | nil => rfl
  | cons line more ih =>
      rw [List.foldl_cons, ih, hfollows, List.filterMap_cons]
      cases value? key.toList line with
      | none => rfl
      | some value =>
          rw [List.getLast?_cons]
          cases (more.filterMap (value? key.toList)).getLast? <;> rfl

/-- The last value of a key counts. -/
theorem Follows.parse_eq (hfollows : Follows key field) (hempty : field empty = none)
    (text : String) :
    field (parse text) =
      ((Text.lines text.toList).filterMap (value? key.toList)).getLast?.map String.ofList := by
  rw [parse, hfollows.foldl_readLine, hempty, Option.or_none]

/-- A value is the last one of its key if a line assigns it and no line behind assigns the key. -/
theorem lastValue_iff {key value : List Char} {text : List Char} :
    ((Text.lines text).filterMap (value? key)).getLast? = some value ↔
      LastValue text key value := by
  rw [List.getLast?_filterMap, List.findSome?_eq_some_iff]
  constructor
  · rintro ⟨after, line, before, hlines, hvalue, hafter⟩
    rw [List.reverse_eq_append_iff, List.reverse_cons, List.append_assoc,
      List.singleton_append] at hlines
    refine ⟨before.reverse, line, after.reverse, Text.lines_eq_iff.mp hlines,
      value?_eq_some_iff.mp hvalue, fun later hlater => ?_⟩
    exact value?_eq_none_iff.mp (hafter later (List.mem_reverse.mp hlater))
  · rintro ⟨before, line, after, hlined, hassigns, hafter⟩
    refine ⟨after.reverse, line, before.reverse, ?_, value?_eq_some_iff.mpr hassigns,
      fun later hlater => ?_⟩
    · rw [hlined.lines_eq, List.reverse_append, List.reverse_cons, List.append_assoc,
        List.singleton_append]
    · exact value?_eq_none_iff.mpr (hafter later (List.mem_reverse.mp hlater))

theorem unset_iff {key : List Char} {text : List Char} :
    ((Text.lines text).filterMap (value? key)).getLast? = none ↔ Unset text key := by
  rw [List.getLast?_filterMap, List.findSome?_eq_none_iff]
  constructor
  · intro hnone
    refine ⟨Text.lines text, Text.lines_eq_iff.mp rfl, fun line hline => ?_⟩
    exact value?_eq_none_iff.mp (hnone line (List.mem_reverse.mpr hline))
  · rintro ⟨found, hlined, hnone⟩ line hline
    rw [hlined.lines_eq, List.mem_reverse] at hline
    exact value?_eq_none_iff.mpr (hnone line hline)

/-- A field is the last value of its key. -/
theorem Follows.parse_eq_some_iff (hfollows : Follows key field) (hempty : field empty = none)
    {value : String} :
    field (parse text) = some value ↔ LastValue text.toList key.toList value.toList := by
  rw [hfollows.parse_eq hempty, ← lastValue_iff, Option.map_eq_some_iff]
  constructor
  · rintro ⟨last, hlast, rfl⟩
    rw [hlast, String.toList_ofList]
  · intro hlast
    exact ⟨value.toList, hlast, String.ofList_toList⟩

/-- A field is missing if and only if no line assigns its key. -/
theorem Follows.parse_eq_none_iff (hfollows : Follows key field) (hempty : field empty = none) :
    field (parse text) = none ↔ Unset text.toList key.toList := by
  rw [hfollows.parse_eq hempty, ← unset_iff, Option.map_eq_none_iff]

/-! ## Two texts -/

theorem filterMap_value?_newline {newline : String} (hnewline : newline ∈ ["\n", "\r\n"])
    (key : List Char) (left right : String) :
    (Text.lines (left ++ newline ++ right).toList).filterMap (value? key) =
      (Text.lines left.toList).filterMap (value? key) ++
        (Text.lines right.toList).filterMap (value? key) := by
  have hempty : value? key [] = none := rfl
  have hfeed := Text.filterMap_lines_feed hempty (value?_append_return key)
  rcases List.mem_pair.mp hnewline with rfl | rfl
  · rw [String.toList_append, String.toList_append, List.append_assoc]
    exact hfeed left.toList right.toList
  · have hreturn : (left ++ "\r\n" ++ right).toList =
        (left.toList ++ ['\r']) ++ '\n' :: right.toList := by
      rw [String.toList_append, String.toList_append, List.append_assoc, List.append_assoc]
      rfl
    rw [hreturn, hfeed, Text.filterMap_lines_return hempty (value?_append_return key)]

/-- What the second text says overrides the first. -/
theorem Follows.parse_append (hfollows : Follows key field) (hempty : field empty = none)
    {newline : String} (hnewline : newline ∈ ["\n", "\r\n"]) (left right : String) :
    field (parse (left ++ newline ++ right)) = (field (parse right)).or (field (parse left)) := by
  rw [hfollows.parse_eq hempty, hfollows.parse_eq hempty, hfollows.parse_eq hempty,
    filterMap_value?_newline hnewline, List.getLast?_append, Option.map_or]

/-- A line without the key of a field may be left out. -/
theorem Follows.parse_leave_out (hfollows : Follows key field) (hempty : field empty = none)
    {shorter : String} {before after : List (List Char)} {line : List Char}
    (htext : Text.Lined text.toList (before ++ line :: after))
    (hshorter : Text.Lined shorter.toList (before ++ after))
    (hline : ∀ value, ¬Assigns line key.toList value) :
    field (parse text) = field (parse shorter) := by
  rw [hfollows.parse_eq hempty, hfollows.parse_eq hempty, htext.lines_eq, hshorter.lines_eq,
    List.filterMap_append, List.filterMap_append,
    List.filterMap_cons_none (value?_eq_none_iff.mpr hline)]

end

/-! ## The result -/

/-- A field that the last line with a key decides. -/
structure KeepsLast (key : String) (field : Uevent → Option String) : Prop where
  last : ∀ {text value : String},
    field (parse text) = some value ↔ LastValue text.toList key.toList value.toList
  absent : ∀ {text : String}, field (parse text) = none ↔ Unset text.toList key.toList
  /-- Of two texts with a newline between them the second counts where it has a value. -/
  overrides : ∀ left right, ∀ newline ∈ ["\n", "\r\n"],
    field (parse (left ++ newline ++ right)) = (field (parse right)).or (field (parse left))

theorem Follows.keepsLast {key : String} (hfollows : Follows key field)
    (hempty : field empty = none) : KeepsLast key field where
  last := hfollows.parse_eq_some_iff hempty
  absent := hfollows.parse_eq_none_iff hempty
  overrides left right _ hnewline := hfollows.parse_append hempty hnewline left right

/-- What reading a uevent file amounts to. -/
structure LastValuesCount : Prop where
  name : KeepsLast "HID_NAME" name
  modalias : KeepsLast "MODALIAS" modalias
  /-- A line with neither key might as well not be there. -/
  ignores : ∀ {text shorter : String} {before line after},
    Text.Lined text.toList (before ++ line :: after) →
    Text.Lined shorter.toList (before ++ after) →
    (∀ value, ¬Assigns line "HID_NAME".toList value) →
    (∀ value, ¬Assigns line "MODALIAS".toList value) → parse text = parse shorter

/-- Of each key the last line counts, a key without a line is missing, and all other lines might as
well be missing. -/
theorem last_values_count : LastValuesCount where
  name := follows_name.keepsLast rfl
  modalias := follows_modalias.keepsLast rfl
  ignores {text shorter _ _ _} htext hshorter hname hmodalias := by
    have hnames : (parse text).name = (parse shorter).name :=
      follows_name.parse_leave_out rfl htext hshorter hname
    have hmodaliases : (parse text).modalias = (parse shorter).modalias :=
      follows_modalias.parse_leave_out rfl htext hshorter hmodalias
    calc
      parse text = ⟨(parse text).name, (parse text).modalias⟩ := rfl
      _ = ⟨(parse shorter).name, (parse shorter).modalias⟩ := by rw [hnames, hmodaliases]
      _ = parse shorter := rfl

end HidMend.Uevent
