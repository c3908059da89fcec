import HidMend.Proofs.Json.Literal
import Mathlib.Data.List.DropRight

/-!
# Layouts of JSON values

A layout of a value spells its parts one behind the other, with any white space around each of them.
The reader is described by rules, one for each kind of value and each place in a list of parts.
Along these rules every layout is read as its value: its length is fuel enough, because each step
into a part has a character of its own.
-/

namespace HidMend.Json

/-- All white space. -/
def IsGap (gap : List Char) : Prop :=
  ∀ char ∈ gap, isSpace char = true

/-- A member of an object in a layout. -/
structure LaidMember where
  front : List Char
  key : List Char
  back : List Char
  value : Json
  text : List Char

namespace LaidMember

def entry (member : LaidMember) : JsonText × Json :=
  (some member.key, member.value)

/-- The key with white space in front of it and behind it, a colon, and the text of the value. -/
def layout (member : LaidMember) : List Char :=
  member.front ++ quote member.key ++ member.back ++ ':' :: member.text

end LaidMember

/-- The layouts of a value.  White space is free; strings and numbers have the spelling in which
they are printed. -/
inductive LaidOut : Json → List Char → Prop
  | null : LaidOut null "null".toList
  | true : LaidOut (bool true) "true".toList
  | false : LaidOut (bool false) "false".toList
  | natural (number : ℕ) : LaidOut (natural number) (Decimal.digits number)
  | string (text : List Char) : LaidOut (string (some text)) (quote text)
  | array {gap : List Char} (parts : List (Json × List Char)) (hgap : IsGap gap)
      (hparts : ∀ part ∈ parts, LaidOut part.1 part.2) :
      LaidOut (array (parts.map Prod.fst))
        ('[' :: List.intercalate [','] (parts.map Prod.snd) ++ gap ++ [']'])
  | object {gap : List Char} (members : List LaidMember) (hgap : IsGap gap)
      (hgaps : ∀ member ∈ members, IsGap member.front ∧ IsGap member.back)
      (hmembers : ∀ member ∈ members, LaidOut member.value member.text) :
      LaidOut (object (members.map LaidMember.entry))
        ('\x7b' :: List.intercalate [','] (members.map LaidMember.layout) ++ gap ++ ['\x7d'])
  | gap {front back text : List Char} {value : Json} (hfront : IsGap front) (hback : IsGap back)
      (hlaid : LaidOut value text) : LaidOut value (front ++ text ++ back)

variable {fuel : ℕ} {text gap front back more rest key : List Char} {value element : Json}
  {elements : List Json} {members : List (JsonText × Json)}

/-! ## White space -/

theorem isGap_newLine (level : ℕ) : IsGap (newLine level) := by
  rintro char (_ | ⟨_, hchar⟩)
  · rfl
  · rw [List.eq_of_mem_replicate hchar]
    rfl

theorem skipSpace_append (hgap : IsGap gap) (text : List Char) :
    skipSpace (gap ++ text) = skipSpace text :=
  List.dropWhile_append_of_pos hgap

theorem skipSpace_cons (char : Char) (hchar : isSpace char = false) (text : List Char) :
    skipSpace (char :: text) = char :: text :=
  List.dropWhile_cons_of_neg (by simp [hchar])

theorem skipSpace_idem (text : List Char) : skipSpace (skipSpace text) = skipSpace text :=
  List.dropWhile_idempotent isSpace _

theorem value?_skipSpace (fuel : ℕ) (text : List Char) :
    value? fuel (skipSpace text) = value? fuel text := by
  cases fuel with
  | zero => rfl
  | succ fuel => rw [value?, value?, skipSpace_idem]

theorem elements?_skipSpace (fuel : ℕ) (text : List Char) :
    elements? fuel (skipSpace text) = elements? fuel text := by
  cases fuel with
  | zero => rfl
  | succ fuel => rw [elements?, elements?, value?_skipSpace]

theorem members?_skipSpace (fuel : ℕ) (text : List Char) :
    members? fuel (skipSpace text) = members? fuel text := by
  cases fuel with
  | zero => rfl
  | succ fuel => rw [members?, members?, skipSpace_idem]

theorem value?_append (hgap : IsGap gap) (fuel : ℕ) (text : List Char) :
    value? fuel (gap ++ text) = value? fuel text := by
  rw [← value?_skipSpace, skipSpace_append hgap, value?_skipSpace]

theorem members?_append (hgap : IsGap gap) (fuel : ℕ) (text : List Char) :
    members? fuel (gap ++ text) = members? fuel text := by
  rw [← members?_skipSpace, skipSpace_append hgap, members?_skipSpace]

/-! ## Rules of the reader -/

theorem value?_null (fuel : ℕ) (rest : List Char) :
    value? (fuel + 1) ("null".toList ++ rest) = some (null, rest) := rfl

theorem value?_true (fuel : ℕ) (rest : List Char) :
    value? (fuel + 1) ("true".toList ++ rest) = some (bool true, rest) := rfl

theorem value?_false (fuel : ℕ) (rest : List Char) :
    value? (fuel + 1) ("false".toList ++ rest) = some (bool false, rest) := rfl

/-- A quoted text is read back. -/
theorem value?_quote (fuel : ℕ) (text rest : List Char) :
    value? (fuel + 1) (quote text ++ rest) = some (string (some text), rest) := by
  rw [quote_append, value?, skipSpace_cons _ rfl]
  simp [string?_quote]

/-- A number is read back where nothing follows that could be part of it. -/
theorem value?_digits (fuel number : ℕ) (hends : EndsNumber rest) :
    value? (fuel + 1) (Decimal.digits number ++ rest) = some (natural number, rest) := by
  cases hdigits : Decimal.digits number with
  | nil => exact absurd hdigits (Decimal.digits_ne_nil number)
  | cons char run =>
      have hdigit : char.isDigit = true :=
        Decimal.isDigit_of_mem_digits number char (by rw [hdigits]; exact List.mem_cons_self)
      have hother : ∀ other, other.isDigit = false → char ≠ other := by
        rintro other hnot rfl
        rw [hdigit] at hnot
        cases hnot
      have hspace : isSpace char = false := by
        simp [isSpace, hother]
      have hunsigned : number? (char :: (run ++ rest)) = some (natural number, rest) := by
        rw [number?, ← List.cons_append, ← hdigits, unsigned?_digits number hends]
        rintro _ ⟨⟩
        exact hother '-' rfl rfl
      rw [List.cons_append, value?, skipSpace_cons char hspace]
      simp only [hunsigned, if_neg (hother '\x7b' rfl), if_neg (hother '[' rfl),
        if_neg (hother '\x22' rfl), if_neg (hother 'n' rfl), if_neg (hother 't' rfl),
        if_neg (hother 'f' rfl)]

theorem elements?_bracket (fuel : ℕ) (rest : List Char) :
    elements? fuel (']' :: rest) = none := by
  cases fuel with
  | zero => rfl
  | succ fuel => cases fuel <;> rfl

theorem members?_brace (fuel : ℕ) (rest : List Char) :
    members? fuel ('\x7d' :: rest) = none := by
  cases fuel <;> rfl

theorem value?_array (helements : elements? fuel text = some (elements, rest)) :
    value? (fuel + 1) ('[' :: text) = some (array elements, rest) := by
  rw [← elements?_skipSpace] at helements
  rw [value?, skipSpace_cons _ rfl]
  simp only [Char.reduceEq, if_false, if_true]
  split
  · next after hclosed =>
      rw [hclosed, elements?_bracket] at helements
      cases helements
  · rw [helements]
    rfl

theorem value?_object (hmembers : members? fuel text = some (members, rest)) :
    value? (fuel + 1) ('\x7b' :: text) = some (object members, rest) := by
  rw [← members?_skipSpace] at hmembers
  rw [value?, skipSpace_cons _ rfl]
  simp only [if_true]
  split
  · next after hclosed =>
      rw [hclosed, members?_brace] at hmembers
      cases hmembers
  · rw [hmembers]
    rfl

theorem value?_emptyArray (hgap : IsGap gap) (fuel : ℕ) (rest : List Char) :
    value? (fuel + 1) ('[' :: (gap ++ ']' :: rest)) = some (array [], rest) := by
  rw [value?, skipSpace_cons _ rfl]
  simp only [Char.reduceEq, if_false, if_true, skipSpace_append hgap, skipSpace_cons ']' rfl]

theorem value?_emptyObject (hgap : IsGap gap) (fuel : ℕ) (rest : List Char) :
    value? (fuel + 1) ('\x7b' :: (gap ++ '\x7d' :: rest)) = some (object [], rest) := by
  rw [value?, skipSpace_cons _ rfl]
  simp only [if_true, skipSpace_append hgap, skipSpace_cons '\x7d' rfl]

/-- The last element is the one behind which the list is closed. -/
theorem elements?_last (hgap : IsGap gap)
    (helement : value? fuel text = some (element, gap ++ ']' :: rest)) :
    elements? (fuel + 1) text = some ([element], rest) := by
  rw [elements?, helement]
  simp only [skipSpace_append hgap, skipSpace_cons ']' rfl]

theorem elements?_more (hgap : IsGap gap)
    (helement : value? fuel text = some (element, gap ++ ',' :: more))
    (hmore : elements? fuel more = some (elements, rest)) :
    elements? (fuel + 1) text = some (element :: elements, rest) := by
  rw [elements?, helement]
  simp only [skipSpace_append hgap, skipSpace_cons ',' rfl, hmore, Option.map_some]

theorem members?_last (hback : IsGap back) (hgap : IsGap gap)
    (hvalue : value? fuel text = some (value, gap ++ '\x7d' :: rest)) :
    members? (fuel + 1) (quote key ++ (back ++ ':' :: text)) =
      some ([(some key, value)], rest) := by
  rw [quote_append, members?, skipSpace_cons _ rfl]
  simp only [string?_quote, skipSpace_append hback, skipSpace_cons ':' rfl, hvalue,
    skipSpace_append hgap, skipSpace_cons '\x7d' rfl]

theorem members?_more (hback : IsGap back) (hgap : IsGap gap)
    (hvalue : value? fuel text = some (value, gap ++ ',' :: more))
    (hmore : members? fuel more = some (members, rest)) :
    members? (fuel + 1) (quote key ++ (back ++ ':' :: text)) =
      some ((some key, value) :: members, rest) := by
  rw [quote_append, members?, skipSpace_cons _ rfl]
  simp only [string?_quote, skipSpace_append hback, skipSpace_cons ':' rfl, hvalue,
    skipSpace_append hgap, skipSpace_cons ',' rfl, hmore, Option.map_some]

/-! ## Layouts are read -/

/-- Read up to white space behind it, with the length of the text for fuel. -/
def Reads (value : Json) (text : List Char) : Prop :=
  ∀ fuel rest, EndsNumber rest → text.length ≤ fuel →
    ∃ gap, IsGap gap ∧ value? fuel (text ++ rest) = some (value, gap ++ rest)

theorem isGap_nil : IsGap [] := by
  simp [IsGap]

theorem IsGap.append (hfront : IsGap front) (hback : IsGap back) : IsGap (front ++ back) :=
  List.forall_mem_append.mpr ⟨hfront, hback⟩

theorem endsNumber_gap_append (hgap : IsGap gap) (hrest : EndsNumber rest) :
    EndsNumber (gap ++ rest) := by
  cases gap with
  | nil => exact hrest
  | cons char gap =>
      have hspace := hgap char List.mem_cons_self
      simp only [isSpace, Bool.or_eq_true, beq_iff_eq] at hspace
      obtain ((rfl | rfl) | rfl) | rfl := hspace <;>
        exact endsNumber_cons rfl (by decide) (by decide) (by decide) _

theorem endsNumber_mark (mark : Char) (hmark : mark ∈ [',', ']', '\x7d']) (rest : List Char) :
    EndsNumber (mark :: rest) := by
  simp only [List.mem_cons, List.not_mem_nil, or_false] at hmark
  obtain rfl | rfl | rfl := hmark <;>
    exact endsNumber_cons rfl (by decide) (by decide) (by decide) _

/-- A value whose text is read to its end. -/
theorem reads_of_value? (hne : text ≠ [])
    (hread : ∀ fuel rest, EndsNumber rest → text.length ≤ fuel + 1 →
      value? (fuel + 1) (text ++ rest) = some (value, rest)) : Reads value text := by
  intro fuel rest hends hfuel
  obtain ⟨left, rfl⟩ : ∃ left, fuel = left + 1 :=
    Nat.exists_eq_add_one.mpr (Nat.lt_of_lt_of_le (List.length_pos_of_ne_nil hne) hfuel)
  exact ⟨[], isGap_nil, hread left rest hends hfuel⟩

/-- Elements that are read alone are read as a list, and the fuel suffices for all of them. -/
theorem elements?_of_reads {part : Json × List Char} {parts : List (Json × List Char)}
    (hgap : IsGap gap) (hreads : ∀ other ∈ part :: parts, Reads other.1 other.2)
    (hfuel : (List.intercalate [','] ((part :: parts).map Prod.snd)).length < fuel) :
    elements? fuel (List.intercalate [','] ((part :: parts).map Prod.snd) ++ (gap ++ ']' :: rest)) =
      some ((part :: parts).map Prod.fst, rest) := by
  induction parts generalizing part fuel with
  | nil =>
      obtain _ | fuel := fuel
      · omega
      simp only [List.map_cons, List.map_nil, List.intercalate_singleton] at hfuel ⊢
      have hends := endsNumber_gap_append hgap (endsNumber_mark ']' (by simp) rest)
      obtain ⟨space, hspace, hread⟩ := hreads part List.mem_cons_self fuel _ hends (by omega)
      exact elements?_last (hspace.append hgap) (by rw [hread, List.append_assoc])
  | cons next parts ih =>
      obtain _ | fuel := fuel
      · omega
      simp only [List.map_cons, List.intercalate_cons_cons, List.length_append,
        List.length_singleton] at hfuel ih ⊢
      -- the comma pays for the step to the next element
      have hmore := ih (fun other hother => hreads other (List.mem_cons_of_mem _ hother))
        (show _ < fuel by omega)
      obtain ⟨space, hspace, hread⟩ := hreads part List.mem_cons_self fuel _
        (endsNumber_mark ',' (by simp) _) (by omega)
      rw [List.append_assoc, List.append_assoc]
      exact elements?_more hspace hread hmore

/-- Members whose values are read alone are read as an object. -/
theorem members?_of_reads {member : LaidMember} {members : List LaidMember} (hgap : IsGap gap)
    (hgaps : ∀ other ∈ member :: members, IsGap other.front ∧ IsGap other.back)
    (hreads : ∀ other ∈ member :: members, Reads other.value other.text)
    (hfuel : (List.intercalate [','] ((member :: members).map LaidMember.layout)).length < fuel) :
    members? fuel (List.intercalate [','] ((member :: members).map LaidMember.layout) ++
      (gap ++ '\x7d' :: rest)) = some ((member :: members).map LaidMember.entry, rest) := by
  induction members generalizing member fuel with
  | nil =>
      obtain _ | fuel := fuel
      · omega
      obtain ⟨hfront, hback⟩ := hgaps member List.mem_cons_self
      simp only [List.map_cons, List.map_nil, List.intercalate_singleton, LaidMember.layout,
        List.length_append, List.length_cons] at hfuel ⊢
      have hends := endsNumber_gap_append hgap (endsNumber_mark '\x7d' (by simp) rest)
      obtain ⟨space, hspace, hread⟩ := hreads member List.mem_cons_self fuel _ hends (by omega)
      simp only [List.append_assoc, List.cons_append]
      rw [members?_append hfront]
      exact members?_last hback (hspace.append hgap) (by rw [hread, List.append_assoc])
  | cons next members ih =>
      obtain _ | fuel := fuel
      · omega
      obtain ⟨hfront, hback⟩ := hgaps member List.mem_cons_self
      simp only [List.map_cons, List.intercalate_cons_cons, List.length_append,
        List.length_singleton] at hfuel ih ⊢
      have hmore := ih (fun other hother => hgaps other (List.mem_cons_of_mem _ hother))
        (fun other hother => hreads other (List.mem_cons_of_mem _ hother)) (show _ < fuel by omega)
      rw [LaidMember.layout] at hfuel ⊢
      simp only [List.length_append, List.length_cons] at hfuel
      obtain ⟨space, hspace, hread⟩ := hreads member List.mem_cons_self fuel _
        (endsNumber_mark ',' (by simp) _) (by omega)
      simp only [List.append_assoc, List.cons_append, List.nil_append] at hread hmore ⊢
      rw [members?_append hfront]
      exact members?_more hback hspace hread hmore

/-- An array of values that are read is read. -/
theorem reads_array {parts : List (Json × List Char)} (hgap : IsGap gap)
    (hreads : ∀ part ∈ parts, Reads part.1 part.2) :
    Reads (array (parts.map Prod.fst))
      ('[' :: List.intercalate [','] (parts.map Prod.snd) ++ gap ++ [']']) := by
  apply reads_of_value? (by simp)
  intro fuel rest _ hfuel
  simp only [List.cons_append, List.append_assoc, List.nil_append, List.length_cons,
    List.length_append] at hfuel ⊢
  cases parts with
  | nil => exact value?_emptyArray hgap fuel rest
  | cons part parts => exact value?_array (elements?_of_reads hgap hreads (by omega))

theorem reads_object {members : List LaidMember} (hgap : IsGap gap)
    (hgaps : ∀ member ∈ members, IsGap member.front ∧ IsGap member.back)
    (hreads : ∀ member ∈ members, Reads member.value member.text) :
    Reads (object (members.map LaidMember.entry))
      ('\x7b' :: List.intercalate [','] (members.map LaidMember.layout) ++ gap ++ ['\x7d']) := by
  apply reads_of_value? (by simp)
  intro fuel rest _ hfuel
  simp only [List.cons_append, List.append_assoc, List.nil_append, List.length_cons,
    List.length_append] at hfuel ⊢
  cases members with
  | nil => exact value?_emptyObject hgap fuel rest
  | cons member members => exact value?_object (members?_of_reads hgap hgaps hreads (by omega))

theorem Reads.append (hfront : IsGap front) (hback : IsGap back) (hreads : Reads value text) :
    Reads value (front ++ text ++ back) := by
  intro fuel rest hends hfuel
  simp only [List.length_append] at hfuel
  obtain ⟨gap, hgap, hread⟩ :=
    hreads fuel (back ++ rest) (endsNumber_gap_append hback hends) (by omega)
  refine ⟨gap ++ back, hgap.append hback, ?_⟩
  rw [List.append_assoc, List.append_assoc, value?_append hfront, hread, List.append_assoc]

/-- Every layout of a value is read as the value. -/
theorem reads_of_laidOut (hlaid : LaidOut value text) : Reads value text := by
  induction hlaid with
  | null => exact reads_of_value? (List.cons_ne_nil _ _) fun fuel rest _ _ => value?_null fuel rest
  | true => exact reads_of_value? (List.cons_ne_nil _ _) fun fuel rest _ _ => value?_true fuel rest
  | false =>
      exact reads_of_value? (List.cons_ne_nil _ _) fun fuel rest _ _ => value?_false fuel rest
  | natural number =>
      exact reads_of_value? (Decimal.digits_ne_nil number) fun fuel rest hends _ =>
        value?_digits fuel number hends
  | string text =>
      exact reads_of_value? (List.cons_ne_nil _ _) fun fuel rest _ _ => value?_quote fuel text rest
  | array parts hgap _ ih => exact reads_array hgap ih
  | object members hgap hgaps _ ih => exact reads_object hgap hgaps ih
  | gap hfront hback _ ih => exact Reads.append hfront hback ih

/-- Every layout of a value is read as this value. -/
theorem parse?_of_laidOut (hlaid : LaidOut value text) :
    parse? (String.ofList text) = some value := by
  obtain ⟨gap, hgap, hread⟩ :=
    reads_of_laidOut hlaid (text.length + 1) [] endsNumber_nil (Nat.le_succ _)
  rw [List.append_nil, List.append_nil] at hread
  have hend : skipSpace gap = [] := List.dropWhile_eq_nil_iff.mpr hgap
  rw [parse?, String.length_ofList, String.toList_ofList, hread]
  simp only [hend, List.isEmpty_nil, if_true]

end HidMend.Json
