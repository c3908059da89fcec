import HidMend.Proofs.Text.Blank

/-!
# Lines of a text

A text has one list of lines, each of which ends at its line feed, at a carriage return with a line
feed behind it, or at the end of the text.  A line feed cuts a text into two, and the lines of the
second follow those of the first; at the cut the last line of the first loses a carriage return, and
an empty first gains an empty line, so the equation holds for whatever takes no notice of these.
-/

namespace HidMend.Text

/-- The lines of a text in their order. -/
inductive Lined : List Char → List (List Char) → Prop
  | nil : Lined [] []
  | last {line : List Char} (hline : '\n' ∉ line) (hne : line ≠ []) : Lined line [line]
  | feed {line rest : List Char} {found : List (List Char)} (hline : '\n' ∉ line)
      (hreturn : line.getLast? ≠ some '\r') (hrest : Lined rest found) :
      Lined (line ++ '\n' :: rest) (line :: found)
  | returnFeed {line rest : List Char} {found : List (List Char)} (hline : '\n' ∉ line)
      (hrest : Lined rest found) : Lined (line ++ '\r' :: '\n' :: rest) (line :: found)

variable {text line front : List Char} {char : Char} {found : List (List Char)}

/-! ## One line -/

theorem dropReturn_of_ne (hreturn : line.getLast? ≠ some '\r') : dropReturn line = line :=
  if_neg hreturn

theorem dropReturn_append (line : List Char) : dropReturn (line ++ ['\r']) = line := by
  rw [dropReturn, if_pos List.getLast?_concat, List.dropLast_concat]

theorem dropReturn_cases (line : List Char) :
    line = dropReturn line ++ ['\r'] ∨ line.getLast? ≠ some '\r' ∧ dropReturn line = line := by
  by_cases hreturn : line.getLast? = some '\r'
  · obtain ⟨front, rfl⟩ := List.getLast?_eq_some_iff.mp hreturn
    exact .inl (by rw [dropReturn_append])
  · exact .inr ⟨hreturn, dropReturn_of_ne hreturn⟩

theorem linesFrom_feed (line rest : List Char) :
    linesFrom line ('\n' :: rest) = dropReturn line :: lines rest := by
  rw [linesFrom.eq_2, if_pos rfl, lines]

theorem linesFrom_cons (hchar : char ≠ '\n') (line rest : List Char) :
    linesFrom line (char :: rest) = linesFrom (line ++ [char]) rest := by
  rw [linesFrom.eq_2, if_neg hchar]

theorem linesFrom_of_not_mem (hfront : '\n' ∉ front) (line : List Char) :
    linesFrom line front = linesFrom (line ++ front) [] := by
  induction front generalizing line with
  | nil => rw [List.append_nil]
  | cons char front ih =>
      simp only [List.mem_cons, not_or] at hfront
      rw [linesFrom_cons (Ne.symm hfront.1), ih hfront.2, List.append_assoc, List.singleton_append]

/-- A line ends at the first line feed. -/
theorem linesFrom_append_feed (hfront : '\n' ∉ front) (line rest : List Char) :
    linesFrom line (front ++ '\n' :: rest) = dropReturn (line ++ front) :: lines rest := by
  induction front generalizing line with
  | nil => rw [List.nil_append, linesFrom_feed, List.append_nil]
  | cons char front ih =>
      simp only [List.mem_cons, not_or] at hfront
      rw [List.cons_append, linesFrom_cons (Ne.symm hfront.1), ih hfront.2, List.append_assoc,
        List.singleton_append]

/-! ## The lines of a text -/

theorem Lined.lines_eq (hlined : Lined text found) : lines text = found := by
  induction hlined with
  | nil => rfl
  | last hline hne =>
      rw [lines, linesFrom_of_not_mem hline, List.nil_append, linesFrom,
        if_neg (by simpa using hne)]
  | feed hline hreturn _ ih =>
      rw [lines, linesFrom_append_feed hline, List.nil_append, dropReturn_of_ne hreturn, ih]
  | @returnFeed line rest found hline _ ih =>
      have hfeed : line ++ '\r' :: '\n' :: rest = (line ++ ['\r']) ++ '\n' :: rest := by simp
      have hreturn : '\n' ∉ line ++ ['\r'] := by simpa using hline
      rw [hfeed, lines, linesFrom_append_feed hreturn, List.nil_append, dropReturn_append, ih]

/-- The line that is being read stands in front of the text that is left. -/
theorem lined_linesFrom (hline : '\n' ∉ line) (text : List Char) :
    Lined (line ++ text) (linesFrom line text) := by
  induction text generalizing line with
  | nil =>
      rw [linesFrom, List.append_nil]
      split_ifs with hempty
      · rw [List.isEmpty_iff.mp hempty]
        exact .nil
      · exact .last hline (by simpa using hempty)
  | cons char rest ih =>
      rw [linesFrom]
      split_ifs with hchar
      · subst hchar
        have hrest : Lined rest (linesFrom [] rest) := ih List.not_mem_nil
        rcases dropReturn_cases line with hcase | ⟨hreturn, hsame⟩
        · have hbody : '\n' ∉ dropReturn line := by
            rw [hcase] at hline
            exact fun hmem => hline (List.mem_append_left _ hmem)
          have htext : line ++ '\n' :: rest = dropReturn line ++ '\r' :: '\n' :: rest := by
            conv_lhs => rw [hcase]
            simp
          rw [htext]
          exact .returnFeed hbody hrest
        · rw [hsame]
          exact .feed hline hreturn hrest
      · have hlonger : '\n' ∉ line ++ [char] := by
          simpa using ⟨hline, Ne.symm hchar⟩
        simpa using ih hlonger

/-- The lines of a text are the one list that its line ends cut it into. -/
theorem lines_eq_iff : lines text = found ↔ Lined text found := by
  constructor
  · rintro rfl
    exact lined_linesFrom List.not_mem_nil text
  · exact Lined.lines_eq

/-! ## Two texts -/

section

variable {Value : Type} {read : List Char → Option Value}

theorem filterMap_linesFrom_nil (hempty : read [] = none) (line : List Char) :
    (linesFrom line []).filterMap read = (read line).toList := by
  rw [linesFrom]
  split_ifs with hnone
  · rw [List.isEmpty_iff.mp hnone, hempty]
    rfl
  · cases hread : read line with
    | none => simp [hread]
    | some value => simp [hread]

theorem read_dropReturn (hreturn : ∀ line, read (line ++ ['\r']) = read line)
    (line : List Char) : read (dropReturn line) = read line := by
  rcases dropReturn_cases line with hcase | ⟨-, hsame⟩
  · conv_rhs => rw [hcase, hreturn]
  · rw [hsame]

theorem filterMap_linesFrom_feed (hempty : read [] = none)
    (hreturn : ∀ line, read (line ++ ['\r']) = read line) (line left right : List Char) :
    (linesFrom line (left ++ '\n' :: right)).filterMap read =
      (linesFrom line left).filterMap read ++ (lines right).filterMap read := by
  induction left generalizing line with
  | nil =>
      rw [List.nil_append, linesFrom_feed, filterMap_linesFrom_nil hempty, List.filterMap_cons,
        read_dropReturn hreturn]
      cases read line <;> rfl
  | cons char left ih =>
      rw [List.cons_append]
      by_cases hchar : char = '\n'
      · subst hchar
        rw [linesFrom_feed, linesFrom_feed, List.filterMap_cons, List.filterMap_cons, lines, ih [],
          ← lines]
        cases read (dropReturn line) <;> rfl
      · rw [linesFrom_cons hchar, linesFrom_cons hchar, ih]

/-- A line feed cuts a text into two. -/
theorem filterMap_lines_feed (hempty : read [] = none)
    (hreturn : ∀ line, read (line ++ ['\r']) = read line) (left right : List Char) :
    (lines (left ++ '\n' :: right)).filterMap read =
      (lines left).filterMap read ++ (lines right).filterMap read :=
  filterMap_linesFrom_feed hempty hreturn [] left right

theorem filterMap_linesFrom_return (hempty : read [] = none)
    (hreturn : ∀ line, read (line ++ ['\r']) = read line) (line text : List Char) :
    (linesFrom line (text ++ ['\r'])).filterMap read = (linesFrom line text).filterMap read := by
  induction text generalizing line with
  | nil =>
      rw [List.nil_append, linesFrom_cons (by decide), filterMap_linesFrom_nil hempty,
        filterMap_linesFrom_nil hempty, hreturn]
  | cons char rest ih =>
      rw [List.cons_append]
      by_cases hchar : char = '\n'
      · subst hchar
        rw [linesFrom_feed, linesFrom_feed, List.filterMap_cons, List.filterMap_cons, lines, ih [],
          ← lines]
      · rw [linesFrom_cons hchar, linesFrom_cons hchar, ih]

/-- A carriage return at the end of a text belongs to its last line. -/
theorem filterMap_lines_return (hempty : read [] = none)
    (hreturn : ∀ line, read (line ++ ['\r']) = read line) (text : List Char) :
    (lines (text ++ ['\r'])).filterMap read = (lines text).filterMap read :=
  filterMap_linesFrom_return hempty hreturn [] text

end

end HidMend.Text
