import HidMend.Device.Identity
import HidMend.Proofs.Text.Hex

/-!
# Sysnames: what is read and what is written

A sysname spells four numbers in four digits each, with two colons and a point between them.  The
reader takes exactly these texts, and takes a written sysname back to what it was written from.
-/

namespace HidMend

/-! ## Letters and numbers of a fixed width

The two readers of identity strings succeed exactly on their own part at the front of a text, and
leave the rest. -/

namespace Layout

variable {mark : Char} {text rest : List Char} {width number : ℕ}

/-- A letter is read in either case, and nothing is read in its place. -/
theorem marker?_eq_some_iff :
    marker? mark text = some rest ↔ ∃ char, (char = mark ∨ char = mark.toUpper) ∧
      text = char :: rest := by
  cases text with
  | nil => simp [marker?]
  | cons char tail =>
      simp only [marker?, Option.ite_none_right_eq_some, Option.some.injEq, List.cons.injEq]
      constructor
      · rintro ⟨hchar, rfl⟩
        exact ⟨char, hchar, rfl, rfl⟩
      · rintro ⟨_, hchar, rfl, rfl⟩
        exact ⟨hchar, rfl⟩

/-- A number is read from exactly as many digits as it is wide. -/
theorem number?_eq_some_iff :
    number? width text = some (number, rest) ↔ ∃ digits, Hex.IsGroup width digits ∧
      text = digits ++ rest ∧ number = Hex.placeValue digits := by
  simp only [number?, Option.ite_none_right_eq_some, Bool.and_eq_true, decide_eq_true_eq,
    List.all_eq_true, Hex.isDigit_iff, Option.some.injEq, Prod.mk.injEq]
  constructor
  · rintro ⟨⟨hlength, hdigits⟩, rfl, rfl⟩
    exact ⟨text.take width, ⟨hlength, hdigits⟩, (List.take_append_drop width text).symm,
      Hex.value_eq_placeValue hdigits⟩
  · rintro ⟨digits, ⟨rfl, hdigits⟩, rfl, rfl⟩
    rw [List.take_left, List.drop_left]
    exact ⟨⟨rfl, hdigits⟩, Hex.value_eq_placeValue hdigits, rfl⟩

end Layout

/-! ## Sysnames -/

namespace Sysname

/-- The digits of the four numbers. -/
structure Groups where
  bus : List Char
  vendor : List Char
  product : List Char
  instanceNumber : List Char

namespace Groups

/-- The four groups with their marks between them. -/
def withMarks (groups : Groups) : List Char :=
  groups.bus ++ ':' :: groups.vendor ++ ':' :: groups.product ++ '.' :: groups.instanceNumber

structure WellFormed (groups : Groups) : Prop where
  bus : Hex.IsGroup 4 groups.bus
  vendor : Hex.IsGroup 4 groups.vendor
  product : Hex.IsGroup 4 groups.product
  instanceNumber : Hex.IsGroup 4 groups.instanceNumber

/-- Digits and a sysname have the same four numbers. -/
structure Denotes (groups : Groups) (sysname : Sysname) : Prop where
  bus : sysname.bus.number.toNat = Hex.placeValue groups.bus
  vendor : sysname.vendor.toNat = Hex.placeValue groups.vendor
  product : sysname.product.toNat = Hex.placeValue groups.product
  instanceNumber : sysname.instanceNumber.toNat = Hex.placeValue groups.instanceNumber

end Groups

/-- A text of the grammar, with the groups of digits in it. -/
structure Spells (text : List Char) (groups : Groups) : Prop where
  wellFormed : groups.WellFormed
  shape : text = groups.withMarks

variable {text : List Char} {groups : Groups} {sysname other : Sysname}

namespace Groups

/-- The sysname of four groups, each of which fits its field. -/
theorem WellFormed.denotes (hgroups : groups.WellFormed) :
    groups.Denotes ⟨⟨UInt16.ofNat (Hex.placeValue groups.bus)⟩,
      UInt16.ofNat (Hex.placeValue groups.vendor), UInt16.ofNat (Hex.placeValue groups.product),
      UInt16.ofNat (Hex.placeValue groups.instanceNumber)⟩ where
  bus := UInt16.toNat_ofNat_of_lt' (Hex.placeValue_lt hgroups.bus)
  vendor := UInt16.toNat_ofNat_of_lt' (Hex.placeValue_lt hgroups.vendor)
  product := UInt16.toNat_ofNat_of_lt' (Hex.placeValue_lt hgroups.product)
  instanceNumber := UInt16.toNat_ofNat_of_lt' (Hex.placeValue_lt hgroups.instanceNumber)

theorem Denotes.unique (hleft : groups.Denotes sysname) (hright : groups.Denotes other) :
    sysname = other := by
  obtain ⟨⟨bus⟩, vendor, product, instanceNumber⟩ := sysname
  obtain ⟨⟨otherBus⟩, otherVendor, otherProduct, otherInstanceNumber⟩ := other
  rw [Sysname.mk.injEq, Bus.mk.injEq]
  exact ⟨UInt16.toNat.inj (hleft.bus.trans hright.bus.symm),
    UInt16.toNat.inj (hleft.vendor.trans hright.vendor.symm),
    UInt16.toNat.inj (hleft.product.trans hright.product.symm),
    UInt16.toNat.inj (hleft.instanceNumber.trans hright.instanceNumber.symm)⟩

end Groups

/-! ## Reading -/

/-- The reader accepts the grammar and nothing else. -/
theorem ofText?_eq_some_iff :
    ofText? text = some sysname ↔ ∃ groups, Spells text groups ∧ groups.Denotes sysname := by
  have hmark : ∀ mark ∈ [':', '.'], ∀ char : Char,
      (char = mark ∨ char = mark.toUpper) ↔ char = mark := by
    simp
  simp only [ofText?, Option.bind_eq_bind, Option.bind_eq_some_iff, Prod.exists,
    Layout.marker?_eq_some_iff, Layout.number?_eq_some_iff, hmark ':' (by simp),
    hmark '.' (by simp), exists_eq_left]
  constructor
  · rintro ⟨_, _, ⟨bus, hbus, rfl, rfl⟩, _, rfl, _, _, ⟨vendor, hvendor, rfl, rfl⟩, _, rfl,
      _, _, ⟨product, hproduct, rfl, rfl⟩, _, rfl, _, rest, ⟨instanceNumber, hinstance, rfl, rfl⟩,
      hread⟩
    simp only [List.isEmpty_iff, Option.ite_none_right_eq_some, Option.some.injEq] at hread
    obtain ⟨rfl, rfl⟩ := hread
    have hgroups : Groups.WellFormed ⟨bus, vendor, product, instanceNumber⟩ :=
      ⟨hbus, hvendor, hproduct, hinstance⟩
    exact ⟨_, ⟨hgroups, by simp [Groups.withMarks]⟩, hgroups.denotes⟩
  · rintro ⟨groups, ⟨hgroups, rfl⟩, hdenotes⟩
    have hfront : groups.withMarks = groups.bus ++ (':' :: (groups.vendor ++ (':' ::
        (groups.product ++ ('.' :: groups.instanceNumber))))) := by
      simp only [Groups.withMarks, List.append_assoc, List.cons_append]
    refine ⟨_, _, ⟨groups.bus, hgroups.bus, hfront, rfl⟩, _, rfl,
      _, _, ⟨groups.vendor, hgroups.vendor, rfl, rfl⟩, _, rfl,
      _, _, ⟨groups.product, hgroups.product, rfl, rfl⟩, _, rfl,
      _, [], ⟨groups.instanceNumber, hgroups.instanceNumber, (List.append_nil _).symm, rfl⟩, ?_⟩
    rw [hdenotes.unique hgroups.denotes]
    rfl

/-- The reader accepts the texts of the grammar and no others. -/
theorem parse_eq_ok_iff {name : String} :
    parse name = .ok sysname ↔ ∃ groups, Spells name.toList groups ∧ groups.Denotes sysname := by
  rw [parse, ← ofText?_eq_some_iff]
  cases ofText? name.toList <;> simp

/-- A refusal repeats the name. -/
theorem parse_ok_or_invalid (name : String) :
    (∃ sysname, parse name = .ok sysname) ∨ parse name = .error (.invalidSysname name) := by
  rw [parse]
  cases ofText? name.toList <;> simp

/-- Every character of the grammar takes one byte. -/
theorem Spells.utf8ByteSize_eq {name : String} (hspells : Spells name.toList groups) :
    name.utf8ByteSize = 19 := by
  obtain ⟨⟨hbus, hvendor, hproduct, hinstance⟩, hshape⟩ := hspells
  rw [← String.utf8Len_toList, hshape]
  simp only [Groups.withMarks, String.utf8Len_append, String.utf8Len_cons, hbus.utf8Len_eq,
    hvendor.utf8Len_eq, hproduct.utf8Len_eq, hinstance.utf8Len_eq]
  rfl

/-! ## Writing -/

/-- The groups that a sysname is written with. -/
def writtenGroups (sysname : Sysname) : Groups :=
  ⟨Hex.fixed 4 sysname.bus.number.toNat, Hex.fixed 4 sysname.vendor.toNat,
    Hex.fixed 4 sysname.product.toNat, Hex.fixed 4 sysname.instanceNumber.toNat⟩

theorem writtenGroups_denotes (sysname : Sysname) : sysname.writtenGroups.Denotes sysname where
  bus := (Hex.placeValue_fixed sysname.bus.number.toNat_lt).symm
  vendor := (Hex.placeValue_fixed sysname.vendor.toNat_lt).symm
  product := (Hex.placeValue_fixed sysname.product.toNat_lt).symm
  instanceNumber := (Hex.placeValue_fixed sysname.instanceNumber.toNat_lt).symm

theorem text_spells (sysname : Sysname) : Spells sysname.text.toList sysname.writtenGroups where
  wellFormed := ⟨Hex.isGroup_fixed .., Hex.isGroup_fixed .., Hex.isGroup_fixed ..,
    Hex.isGroup_fixed ..⟩
  shape := String.toList_ofList

/-- What is written is read back. -/
theorem parse_text (sysname : Sysname) : parse sysname.text = .ok sysname :=
  parse_eq_ok_iff.mpr ⟨_, sysname.text_spells, sysname.writtenGroups_denotes⟩

/-- A text that is read is written with its digits in upper case. -/
theorem Spells.text_eq {name : String} (hspells : Spells name.toList groups)
    (hdenotes : groups.Denotes sysname) : sysname.text = name.toUpper := by
  obtain ⟨⟨hbus, hvendor, hproduct, hinstance⟩, hshape⟩ := hspells
  have hupper : name.toUpper.toList = name.toList.map Char.toUpper := String.toList_map
  rw [← String.toList_inj, hupper, hshape, text, String.toList_ofList, hdenotes.bus,
    hdenotes.vendor, hdenotes.product, hdenotes.instanceNumber, Hex.fixed_placeValue hbus,
    Hex.fixed_placeValue hvendor, Hex.fixed_placeValue hproduct, Hex.fixed_placeValue hinstance]
  simp [Groups.withMarks]

end Sysname

end HidMend
