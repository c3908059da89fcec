import HidMend.Device.Basic
import HidMend.Proofs.Text.Blank
import HidMend.Proofs.Text.Hex
import Mathlib.Data.List.Nodup

/-!
# The text of an identity is its own

Buses and groups are shown by the kernel's names, and by four digits where there is no name.  A name
stands for one number, and every name has an underscore, which is no digit, so a name is never taken
for digits.  Neither names nor digits have a comma, so the commas in the text of an identity are
those between its fields, and the text gives all four fields back.
-/

namespace HidMend

/-! ## Digits of a word -/

/-- Four digits for a word. -/
def Hex.wordText (number : UInt16) : String :=
  String.ofList (Hex.fixed 4 number.toNat)

/-- Four digits tell a number. -/
theorem Hex.wordText_injective : Function.Injective Hex.wordText := by
  intro left right heq
  have hdigits : Hex.fixed 4 left.toNat = Hex.fixed 4 right.toNat := String.ofList_injective heq
  apply UInt16.toNat.inj
  calc
    left.toNat = Hex.placeValue (Hex.fixed 4 left.toNat) :=
      (Hex.placeValue_fixed left.toNat_lt).symm
    _ = Hex.placeValue (Hex.fixed 4 right.toNat) := congrArg Hex.placeValue hdigits
    _ = right.toNat := Hex.placeValue_fixed right.toNat_lt

theorem Hex.mem_of_mem_wordText {number : UInt16} {char : Char}
    (hchar : char ∈ (Hex.wordText number).toList) : char ∈ Hex.digitSpellings := by
  rw [Hex.wordText, String.toList_ofList] at hchar
  exact (Hex.isGroup_fixed 4 number.toNat).mem char hchar

theorem Hex.comma_not_mem_wordText (number : UInt16) : ',' ∉ (Hex.wordText number).toList :=
  fun hcomma => absurd (Hex.mem_of_mem_wordText hcomma) (by decide)

/-! ## Tables of names -/

/-- Names of numbers that cannot be taken for one another, for digits or for several fields. -/
structure DistinctNames (names : List (UInt16 × String)) : Prop where
  nodup : (names.map Prod.snd).Nodup
  underscore_mem : ∀ entry ∈ names, '_' ∈ entry.2.toList
  comma_not_mem : ∀ entry ∈ names, ',' ∉ entry.2.toList

namespace DistinctNames

variable {names : List (UInt16 × String)} {left right number : UInt16} {name : String}

/-- A number as its name in a table, or else as its digits. -/
def shown (names : List (UInt16 × String)) (number : UInt16) : String :=
  (names.lookup number).getD (Hex.wordText number)

theorem mem_of_lookup (hlookup : names.lookup number = some name) : (number, name) ∈ names := by
  obtain ⟨front, back, rfl, -⟩ := List.lookup_eq_some_iff.mp hlookup
  simp

/-- Where no name is given twice, a name tells its number. -/
theorem lookup_inj (hnames : DistinctNames names) (hleft : names.lookup left = some name)
    (hright : names.lookup right = some name) : left = right := by
  have hentry : (left, name) = (right, name) :=
    List.inj_on_of_nodup_map hnames.nodup (mem_of_lookup hleft) (mem_of_lookup hright) rfl
  exact congrArg Prod.fst hentry

/-- No name is also the digits of some number. -/
theorem ne_wordText (hnames : DistinctNames names) (hlookup : names.lookup left = some name)
    (right : UInt16) : name ≠ Hex.wordText right := by
  intro hdigits
  have hunderscore : '_' ∈ name.toList := hnames.underscore_mem _ (mem_of_lookup hlookup)
  rw [hdigits] at hunderscore
  exact absurd (Hex.mem_of_mem_wordText hunderscore) (by decide)

/-- What is shown for a number, be it a name or digits, tells the number. -/
theorem shown_injective (hnames : DistinctNames names) : Function.Injective (shown names) := by
  intro left right heq
  unfold shown at heq
  cases hleft : names.lookup left with
  | none =>
      cases hright : names.lookup right with
      | none =>
          rw [hleft, hright] at heq
          exact Hex.wordText_injective heq
      | some name =>
          rw [hleft, hright] at heq
          exact absurd heq.symm (hnames.ne_wordText hright left)
  | some name =>
      cases hright : names.lookup right with
      | none =>
          rw [hleft, hright] at heq
          exact absurd heq (hnames.ne_wordText hleft right)
      | some other =>
          rw [hleft, hright] at heq
          cases heq
          exact hnames.lookup_inj hleft hright

theorem comma_not_mem_shown (hnames : DistinctNames names) (number : UInt16) :
    ',' ∉ (shown names number).toList := by
  unfold shown
  cases hlookup : names.lookup number with
  | none => exact Hex.comma_not_mem_wordText number
  | some name => exact hnames.comma_not_mem _ (mem_of_lookup hlookup)

end DistinctNames

theorem Bus.distinctNames : DistinctNames Bus.names where
  nodup := by decide
  underscore_mem := by decide
  comma_not_mem := by decide

theorem Group.distinctNames : DistinctNames Group.names where
  nodup := by decide
  underscore_mem := by decide
  comma_not_mem := by decide

theorem Bus.text_injective : Function.Injective Bus.text := by
  intro left right heq
  exact congrArg Bus.mk (Bus.distinctNames.shown_injective heq)

theorem Group.text_injective : Function.Injective Group.text := by
  intro left right heq
  exact congrArg Group.mk (Group.distinctNames.shown_injective heq)

/-! ## Four fields in one text -/

namespace DeviceId

variable {device : DeviceId} {bus group vendor product : String}

/-- The text in which four fields are shown. -/
def framed (bus group vendor product : String) : String :=
  "HID_DEVICE(" ++ bus ++ ", " ++ group ++ ", 0x" ++ vendor ++ ", 0x" ++ product ++ ")"

theorem text_eq_framed (device : DeviceId) :
    device.text = framed device.bus.text device.group.text (Hex.wordText device.vendor)
      (Hex.wordText device.product) :=
  rfl

theorem toList_joined (opening bus gap group mark vendor next product closing : String) :
    (opening ++ bus ++ gap ++ group ++ mark ++ vendor ++ next ++ product ++ closing).toList =
      opening.toList ++ (bus.toList ++ (gap.toList ++ (group.toList ++ (mark.toList ++
        (vendor.toList ++ (next.toList ++ (product.toList ++ closing.toList))))))) := by
  simp only [String.toList_append, List.append_assoc]

/-- Each field but the last ends in front of a comma. -/
theorem toList_framed (bus group vendor product : String) :
    (framed bus group vendor product).toList =
      "HID_DEVICE(".toList ++ (bus.toList ++ ',' :: ' ' :: (group.toList ++ ',' ::
        (" 0x".toList ++ (vendor.toList ++ ',' :: (" 0x".toList ++ (product.toList ++ [')'])))))) :=
  toList_joined "HID_DEVICE(" bus ", " group ", 0x" vendor ", 0x" product ")"

/-- Parts without commas are found again in the frame. -/
theorem framed_inj {otherBus otherGroup otherVendor otherProduct : String}
    (hbus : ',' ∉ bus.toList) (hgroup : ',' ∉ group.toList) (hvendor : ',' ∉ vendor.toList)
    (hotherBus : ',' ∉ otherBus.toList) (hotherGroup : ',' ∉ otherGroup.toList)
    (hotherVendor : ',' ∉ otherVendor.toList)
    (heq : framed bus group vendor product =
      framed otherBus otherGroup otherVendor otherProduct) :
    bus = otherBus ∧ group = otherGroup ∧ vendor = otherVendor ∧ product = otherProduct := by
  have hlist := congrArg String.toList heq
  rw [toList_framed, toList_framed] at hlist
  obtain ⟨hbuses, hlist⟩ :=
    Text.append_separator_inj hbus hotherBus (List.append_cancel_left hlist)
  obtain ⟨hgroups, hlist⟩ :=
    Text.append_separator_inj hgroup hotherGroup (List.cons.inj hlist).2
  obtain ⟨hvendors, hlist⟩ :=
    Text.append_separator_inj hvendor hotherVendor (List.append_cancel_left hlist)
  have hproducts := List.append_cancel_right (List.append_cancel_left hlist)
  exact ⟨String.toList_injective hbuses, String.toList_injective hgroups,
    String.toList_injective hvendors, String.toList_injective hproducts⟩

/-- Whatever four texts are framed, the text of an identity is read in one way. -/
theorem fields_of_text_eq (hbus : ',' ∉ bus.toList) (hgroup : ',' ∉ group.toList)
    (hvendor : ',' ∉ vendor.toList) (htext : device.text = framed bus group vendor product) :
    device.bus.text = bus ∧ device.group.text = group ∧ Hex.wordText device.vendor = vendor ∧
      Hex.wordText device.product = product := by
  rw [text_eq_framed] at htext
  exact framed_inj (Bus.distinctNames.comma_not_mem_shown _)
    (Group.distinctNames.comma_not_mem_shown _) (Hex.comma_not_mem_wordText _) hbus hgroup hvendor
    htext

/-- The text of an identity tells all of its four numbers. -/
theorem text_injective : Function.Injective text := by
  intro left right heq
  rw [text_eq_framed right] at heq
  obtain ⟨hbus, hgroup, hvendor, hproduct⟩ :=
    fields_of_text_eq (Bus.distinctNames.comma_not_mem_shown _)
      (Group.distinctNames.comma_not_mem_shown _) (Hex.comma_not_mem_wordText _) heq
  have hbuses : left.bus = right.bus := Bus.text_injective hbus
  have hgroups : left.group = right.group := Group.text_injective hgroup
  have hvendors : left.vendor = right.vendor := Hex.wordText_injective hvendor
  have hproducts : left.product = right.product := Hex.wordText_injective hproduct
  cases left
  cases right
  rw [mk.injEq]
  exact ⟨hbuses, hgroups, hvendors, hproducts⟩

/-! ## The result -/

/-- Names that stand for one value each and are not the text of a value without a name. -/
structure NamesApart {Kind : Type} (name? : Kind → Option String) (text : Kind → String) :
    Prop where
  unique : ∀ {left right name}, name? left = some name → name? right = some name → left = right
  ne_text : ∀ {left right name}, name? left = some name → name? right = none → name ≠ text right

/-- What the text of an identity tells. -/
structure TextIdentifies : Prop where
  /-- Two identities never have the same text. -/
  injective : Function.Injective text
  buses : NamesApart Bus.name? Bus.text
  groups : NamesApart Group.name? Group.text
  /-- No other four texts than those of its fields make up the text of an identity. -/
  fields : ∀ {device : DeviceId} {bus group vendor product : String}, ',' ∉ bus.toList →
    ',' ∉ group.toList → ',' ∉ vendor.toList → device.text = framed bus group vendor product →
    device.bus.text = bus ∧ device.group.text = group ∧ Hex.wordText device.vendor = vendor ∧
      Hex.wordText device.product = product

/-- Whoever reads the text of an identity knows which device is meant. -/
theorem text_identifies : TextIdentifies where
  injective := text_injective
  buses := by
    refine ⟨fun hleft hright => ?_, fun hleft hright => ?_⟩
    · exact congrArg Bus.mk (Bus.distinctNames.lookup_inj hleft hright)
    · rw [Bus.text, hright]
      exact Bus.distinctNames.ne_wordText hleft _
  groups := by
    refine ⟨fun hleft hright => ?_, fun hleft hright => ?_⟩
    · exact congrArg Group.mk (Group.distinctNames.lookup_inj hleft hright)
    · rw [Group.text, hright]
      exact Group.distinctNames.ne_wordText hleft _
  fields := fields_of_text_eq

end DeviceId

end HidMend
