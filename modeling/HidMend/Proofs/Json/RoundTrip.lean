import HidMend.Proofs.Json.Layout

/-!
# Printed JSON is read back

The two printers differ in white space only.  Each writes a layout of its value, and so what either
of them prints is read back.
-/

namespace HidMend.Json

/-- A value that is written as it is meant: its strings have texts, and its numbers are natural. -/
inductive Plain : Json → Prop
  | null : Plain null
  | bool (choice : Bool) : Plain (bool choice)
  | natural (number : ℕ) : Plain (natural number)
  | string (text : List Char) : Plain (string (some text))
  | array {elements : List Json} (helements : ∀ element ∈ elements, Plain element) :
      Plain (array elements)
  | object {members : List (JsonText × Json)} (hkeys : ∀ member ∈ members, member.1.isSome)
      (hvalues : ∀ member ∈ members, Plain member.2) : Plain (object members)

variable {value : Json} {elements : List Json} {members : List (JsonText × Json)} {gap : List Char}

/-! ## Lists of parts -/

theorem intercalate_comma_cons (text : List Char) (texts : List (List Char)) :
    List.intercalate [','] (text :: texts) = text ++ texts.flatMap (',' :: ·) := by
  induction texts generalizing text with
  | nil => simp
  | cons next texts ih => simp [List.intercalate_cons_cons, ih]

/-- Elements with any printer for each of them. -/
theorem laidOut_array (print : Json → List Char) (hgap : IsGap gap)
    (hprint : ∀ element ∈ elements, LaidOut element (print element)) :
    LaidOut (array elements)
      ('[' :: List.intercalate [','] (elements.map print) ++ gap ++ [']']) := by
  have hlaid := LaidOut.array (elements.map fun element => (element, print element)) hgap
    (by simpa using hprint)
  simpa [Function.comp_def] using hlaid

/-- Members with keys behind one gap, values behind another, and any printer for the values. -/
theorem laidOut_object (front space : List Char) (print : Json → List Char) (hgap : IsGap gap)
    (hfront : IsGap front) (hspace : IsGap space) (hkeys : ∀ member ∈ members, member.1.isSome)
    (hprint : ∀ member ∈ members, LaidOut member.2 (print member.2)) :
    LaidOut (object members) ('\x7b' :: List.intercalate [','] (members.map fun member =>
      front ++ quoteText member.1 ++ ':' :: (space ++ print member.2)) ++ gap ++ ['\x7d']) := by
  have hlaid := LaidOut.object
    (members.map fun member => ⟨front, member.1.getD [], [], member.2, space ++ print member.2⟩)
    hgap (List.forall_mem_map.mpr fun _ _ => ⟨hfront, isGap_nil⟩)
    (List.forall_mem_map.mpr fun member hmember => by
      simpa using LaidOut.gap hspace isGap_nil (hprint member hmember))
  have hentries : ∀ member ∈ members, (some (member.1.getD []), member.2) = member := by
    rintro ⟨_ | key, value⟩ hmember
    · cases hkeys _ hmember
    · rfl
  simpa [Function.comp_def, LaidMember.entry, LaidMember.layout, quoteText,
    List.map_congr_left hentries] using hlaid

/-! ## The indented printer -/

theorem prettyElements_eq (level : ℕ) (elements : List Json) : prettyElements level elements =
    elements.flatMap fun element => ',' :: (newLine level ++ pretty level element) := by
  induction elements with
  | nil => rfl
  | cons element elements ih => simp [prettyElements, ih]

theorem prettyMembers_eq (level : ℕ) (members : List (JsonText × Json)) :
    prettyMembers level members = members.flatMap fun member =>
      ',' :: (newLine level ++ quoteText member.1 ++ ':' :: ' ' :: pretty level member.2) := by
  induction members with
  | nil => rfl
  | cons member members ih => simp [prettyMembers, ih]

/-- Indented lines are a layout. -/
theorem laidOut_pretty (hplain : Plain value) (level : ℕ) : LaidOut value (pretty level value) := by
  induction hplain generalizing level with
  | null => exact .null
  | bool choice =>
      cases choice with
      | false => exact .false
      | true => exact .true
  | natural number => exact .natural number
  | string text => exact .string text
  | @array elements _ ih =>
      cases elements with
      | nil => exact .array [] isGap_nil (by simp)
      | cons element elements =>
          have hlines : ∀ part ∈ element :: elements,
              LaidOut part (newLine (level + 1) ++ pretty (level + 1) part) := by
            intro part hpart
            simpa using LaidOut.gap (isGap_newLine (level + 1)) isGap_nil (ih part hpart _)
          simpa [pretty, prettyElements_eq, intercalate_comma_cons, List.flatMap_map] using
            laidOut_array _ (isGap_newLine level) hlines
  | @object members hkeys _ ih =>
      cases members with
      | nil => exact .object [] isGap_nil (by simp) (by simp)
      | cons member members =>
          have hspace : IsGap [' '] := List.forall_mem_singleton.mpr rfl
          simpa [pretty, prettyMembers_eq, intercalate_comma_cons, List.flatMap_map] using
            laidOut_object (newLine (level + 1)) [' '] (pretty (level + 1)) (isGap_newLine level)
              (isGap_newLine (level + 1)) hspace hkeys fun part hpart => ih part hpart _

/-- What is printed on indented lines is the value that is read from it. -/
theorem parse?_toPretty (hplain : Plain value) : parse? value.toPretty = some value :=
  parse?_of_laidOut (laidOut_pretty hplain 0)

/-! ## The compact printer -/

theorem compactElements_eq (elements : List Json) :
    compactElements elements = elements.flatMap fun element => ',' :: compact element := by
  induction elements with
  | nil => rfl
  | cons element elements ih => simp [compactElements, ih]

theorem compactMembers_eq (members : List (JsonText × Json)) :
    compactMembers members = members.flatMap fun member =>
      ',' :: (quoteText member.1 ++ ':' :: compact member.2) := by
  induction members with
  | nil => rfl
  | cons member members ih => simp [compactMembers, ih]

/-- A text without any space is a layout. -/
theorem laidOut_compact (hplain : Plain value) : LaidOut value (compact value) := by
  induction hplain with
  | null => exact .null
  | bool choice =>
      cases choice with
      | false => exact .false
      | true => exact .true
  | natural number => exact .natural number
  | string text => exact .string text
  | @array elements _ ih =>
      cases elements with
      | nil => exact .array [] isGap_nil (by simp)
      | cons element elements =>
          simpa [compact, compactElements_eq, intercalate_comma_cons, List.flatMap_map] using
            laidOut_array compact isGap_nil ih
  | @object members hkeys _ ih =>
      cases members with
      | nil => exact .object [] isGap_nil (by simp) (by simp)
      | cons member members =>
          simpa [compact, compactMembers_eq, intercalate_comma_cons, List.flatMap_map] using
            laidOut_object [] [] compact isGap_nil isGap_nil isGap_nil hkeys ih

/-- What is printed without spaces is the value that is read from it. -/
theorem parse?_toCompact (hplain : Plain value) : parse? value.toCompact = some value :=
  parse?_of_laidOut (laidOut_compact hplain)

end HidMend.Json
