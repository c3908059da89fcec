import HidMend.Proofs.Device.Sysname
import Mathlib.Data.String.Basic

/-!
# Modaliases: what is read and what is written

A modalias without its scheme spells four numbers: groups of four, four, eight and eight digits,
each after a letter, with letters and digits in either case.  The grammar is stated apart from the
reader, by the groups that a text spells and the numbers that these stand for.  The reader accepts
exactly the texts of the grammar, and a modalias is written in the one spelling with letters in
lower case and digits in upper case.
-/

namespace HidMend.Modalias

/-- The digits of the four numbers. -/
structure Groups where
  bus : List Char
  group : List Char
  vendor : List Char
  product : List Char

namespace Groups

def map (change : Char → Char) (groups : Groups) : Groups :=
  ⟨groups.bus.map change, groups.group.map change, groups.vendor.map change,
    groups.product.map change⟩

/-- The four groups, each after its letter. -/
def withMarks (busMark groupMark vendorMark productMark : Char) (groups : Groups) : List Char :=
  busMark :: groups.bus ++ groupMark :: groups.group ++ vendorMark :: groups.vendor
    ++ productMark :: groups.product

/-- The widths of the groups. -/
structure WellFormed (groups : Groups) : Prop where
  bus : Hex.IsGroup 4 groups.bus
  group : Hex.IsGroup 4 groups.group
  vendor : Hex.IsGroup 8 groups.vendor
  product : Hex.IsGroup 8 groups.product

/-- Digits and a modalias have the same four numbers. -/
structure Denotes (groups : Groups) (modalias : Modalias) : Prop where
  bus : modalias.bus.toNat = Hex.placeValue groups.bus
  group : modalias.group.toNat = Hex.placeValue groups.group
  vendor : modalias.vendor.toNat = Hex.placeValue groups.vendor
  product : modalias.product.toNat = Hex.placeValue groups.product

end Groups

/-- A text of the grammar, with the groups of digits in it. -/
structure Spells (body : List Char) (groups : Groups) : Prop where
  wellFormed : groups.WellFormed
  shape : ∃ busMark groupMark vendorMark productMark,
    (busMark = 'b' ∨ busMark = 'B') ∧ (groupMark = 'g' ∨ groupMark = 'G') ∧
    (vendorMark = 'v' ∨ vendorMark = 'V') ∧ (productMark = 'p' ∨ productMark = 'P') ∧
    body = groups.withMarks busMark groupMark vendorMark productMark

/-- A text has this body: it is what follows the scheme, or the whole text if no scheme stands in
front. -/
def HasBody (text body : String) : Prop :=
  text = "hid:" ++ body ∨ text = body ∧ ∀ rest, text ≠ "hid:" ++ rest

variable {text left right body leftBody rightBody : String} {chars : List Char}
  {groups : Groups} {modalias : Modalias}

/-! ## Groups of digits -/

namespace Groups

theorem withMarks_map (change : Char → Char) (busMark groupMark vendorMark productMark : Char) :
    (groups.withMarks busMark groupMark vendorMark productMark).map change =
      (groups.map change).withMarks (change busMark) (change groupMark) (change vendorMark)
        (change productMark) := by
  simp [withMarks, map]

/-- The modalias of four groups, each of which fits its field. -/
theorem WellFormed.denotes (hgroups : groups.WellFormed) :
    groups.Denotes ⟨UInt16.ofNat (Hex.placeValue groups.bus),
      UInt16.ofNat (Hex.placeValue groups.group), UInt32.ofNat (Hex.placeValue groups.vendor),
      UInt32.ofNat (Hex.placeValue groups.product)⟩ where
  bus := UInt16.toNat_ofNat_of_lt' (Hex.placeValue_lt hgroups.bus)
  group := UInt16.toNat_ofNat_of_lt' (Hex.placeValue_lt hgroups.group)
  vendor := UInt32.toNat_ofNat_of_lt' (Hex.placeValue_lt hgroups.vendor)
  product := UInt32.toNat_ofNat_of_lt' (Hex.placeValue_lt hgroups.product)

theorem Denotes.unique {other : Modalias} (hleft : groups.Denotes modalias)
    (hright : groups.Denotes other) : modalias = other := by
  obtain ⟨bus, group, vendor, product⟩ := modalias
  obtain ⟨otherBus, otherGroup, otherVendor, otherProduct⟩ := other
  rw [Modalias.mk.injEq]
  exact ⟨UInt16.toNat.inj (hleft.bus.trans hright.bus.symm),
    UInt16.toNat.inj (hleft.group.trans hright.group.symm),
    UInt32.toNat.inj (hleft.vendor.trans hright.vendor.symm),
    UInt32.toNat.inj (hleft.product.trans hright.product.symm)⟩

theorem WellFormed.map_toLower (hgroups : groups.WellFormed) :
    (groups.map Char.toLower).WellFormed where
  bus := hgroups.bus.map_toLower
  group := hgroups.group.map_toLower
  vendor := hgroups.vendor.map_toLower
  product := hgroups.product.map_toLower

/-- The case of the digits does not count. -/
theorem Denotes.map_toLower (hgroups : groups.WellFormed) (hdenotes : groups.Denotes modalias) :
    (groups.map Char.toLower).Denotes modalias where
  bus := hdenotes.bus.trans (Hex.placeValue_map_toLower hgroups.bus).symm
  group := hdenotes.group.trans (Hex.placeValue_map_toLower hgroups.group).symm
  vendor := hdenotes.vendor.trans (Hex.placeValue_map_toLower hgroups.vendor).symm
  product := hdenotes.product.trans (Hex.placeValue_map_toLower hgroups.product).symm

end Groups

/-! ## Reading -/

theorem Spells.exists_marks (hspells : Spells chars groups) :
    ∃ busMark groupMark vendorMark productMark,
      chars = groups.withMarks busMark groupMark vendorMark productMark ∧
      [busMark, groupMark, vendorMark, productMark].map Char.utf8Size = [1, 1, 1, 1] ∧
      [busMark, groupMark, vendorMark, productMark].map Char.toLower = ['b', 'g', 'v', 'p'] := by
  obtain ⟨-, busMark, groupMark, vendorMark, productMark, hbus, hgroup, hvendor, hproduct, rfl⟩ :=
    hspells
  refine ⟨busMark, groupMark, vendorMark, productMark, rfl, ?_⟩
  rcases hbus with rfl | rfl <;> rcases hgroup with rfl | rfl <;>
    rcases hvendor with rfl | rfl <;> rcases hproduct with rfl | rfl <;> decide

/-- Every character of the grammar takes one byte. -/
theorem Spells.utf8ByteSize_eq (hspells : Spells body.toList groups) : body.utf8ByteSize = 28 := by
  obtain ⟨hbus, hgroup, hvendor, hproduct⟩ := hspells.wellFormed
  obtain ⟨busMark, groupMark, vendorMark, productMark, hshape, hsizes, -⟩ := hspells.exists_marks
  simp only [List.map_cons, List.map_nil, List.cons.injEq, and_true] at hsizes
  rw [← String.utf8Len_toList, hshape]
  simp only [Groups.withMarks, String.utf8Len_append, String.utf8Len_cons, hbus.utf8Len_eq,
    hgroup.utf8Len_eq, hvendor.utf8Len_eq, hproduct.utf8Len_eq, hsizes]

/-- The reader accepts the grammar and nothing else. -/
theorem ofBody?_eq_some_iff :
    ofBody? chars = some modalias ↔ ∃ groups, Spells chars groups ∧ groups.Denotes modalias := by
  simp only [ofBody?, Option.bind_eq_bind, Option.bind_eq_some_iff, Prod.exists,
    Layout.marker?_eq_some_iff, Layout.number?_eq_some_iff]
  constructor
  -- The reader has cut off a letter and a group four times, and nothing is left.
  · rintro ⟨_, ⟨busMark, hbusMark, rfl⟩, _, _, ⟨bus, hbus, rfl, rfl⟩,
      _, ⟨groupMark, hgroupMark, rfl⟩, _, _, ⟨group, hgroup, rfl, rfl⟩,
      _, ⟨vendorMark, hvendorMark, rfl⟩, _, _, ⟨vendor, hvendor, rfl, rfl⟩,
      _, ⟨productMark, hproductMark, rfl⟩, _, rest, ⟨product, hproduct, rfl, rfl⟩, hread⟩
    simp only [List.isEmpty_iff, Option.ite_none_right_eq_some, Option.some.injEq] at hread
    obtain ⟨rfl, rfl⟩ := hread
    have hgroups : Groups.WellFormed ⟨bus, group, vendor, product⟩ :=
      ⟨hbus, hgroup, hvendor, hproduct⟩
    refine ⟨⟨bus, group, vendor, product⟩, ⟨hgroups, ?_⟩, hgroups.denotes⟩
    exact ⟨busMark, groupMark, vendorMark, productMark, hbusMark, hgroupMark, hvendorMark,
      hproductMark, by simp [Groups.withMarks]⟩
  · rintro ⟨groups, ⟨hgroups, busMark, groupMark, vendorMark, productMark, hbusMark, hgroupMark,
      hvendorMark, hproductMark, rfl⟩, hdenotes⟩
    refine ⟨_, ⟨busMark, hbusMark, by simp [Groups.withMarks]⟩, _, _,
      ⟨groups.bus, hgroups.bus, rfl, rfl⟩, _, ⟨groupMark, hgroupMark, rfl⟩, _, _,
      ⟨groups.group, hgroups.group, rfl, rfl⟩, _, ⟨vendorMark, hvendorMark, rfl⟩, _, _,
      ⟨groups.vendor, hgroups.vendor, rfl, rfl⟩, _, ⟨productMark, hproductMark, rfl⟩, _, [],
      ⟨groups.product, hgroups.product, (List.append_nil _).symm, rfl⟩, ?_⟩
    rw [hdenotes.unique hgroups.denotes]
    rfl

/-- A text has one body, with a scheme in front or without. -/
theorem existsUnique_hasBody (text : String) : ∃! body, HasBody text body := by
  by_cases hscheme : ∃ rest, text = "hid:" ++ rest
  · obtain ⟨rest, rfl⟩ := hscheme
    refine ⟨rest, .inl rfl, ?_⟩
    rintro body (hbody | ⟨-, hnone⟩)
    · exact ((String.append_right_inj _).mp hbody).symm
    · exact absurd rfl (hnone rest)
  · rw [not_exists] at hscheme
    refine ⟨text, .inr ⟨rfl, hscheme⟩, ?_⟩
    rintro body (hbody | ⟨hbody, -⟩)
    · exact absurd hbody (hscheme body)
    · exact hbody.symm

theorem HasBody.bodyOf_eq (hbody : HasBody text body) : bodyOf text.toList = body.toList := by
  rcases hbody with rfl | ⟨rfl, hnone⟩
  · rw [String.toList_append]
    rfl
  · have hfront : text.toList.take 4 ≠ scheme := by
      intro hfront
      refine hnone (String.ofList (text.toList.drop 4)) ?_
      calc
        text = String.ofList (text.toList.take 4 ++ text.toList.drop 4) := by
          rw [List.take_append_drop, String.ofList_toList]
        _ = "hid:" ++ String.ofList (text.toList.drop 4) := by
          rw [hfront]
          exact String.ofList_append
    rw [bodyOf, if_neg hfront]

/-- A text is read if and only if its body is of the grammar. -/
theorem parse_eq_ok_iff (hbody : HasBody text body) :
    parse text = .ok modalias ↔ ∃ groups, Spells body.toList groups ∧ groups.Denotes modalias := by
  rw [← ofBody?_eq_some_iff, ← hbody.bodyOf_eq, parse]
  cases ofBody? (bodyOf text.toList) <;> simp

/-- A refusal repeats the text. -/
theorem parse_ok_or_invalid (text : String) :
    (∃ modalias, parse text = .ok modalias) ∨ parse text = .error (.invalidModalias text) := by
  rw [parse]
  cases ofBody? (bodyOf text.toList) <;> simp

/-! ## Writing -/

/-- The groups that a modalias is written with. -/
def writtenGroups (modalias : Modalias) : Groups :=
  ⟨Hex.fixed 4 modalias.bus.toNat, Hex.fixed 4 modalias.group.toNat,
    Hex.fixed 8 modalias.vendor.toNat, Hex.fixed 8 modalias.product.toNat⟩

theorem writtenGroups_denotes (modalias : Modalias) :
    modalias.writtenGroups.Denotes modalias where
  bus := (Hex.placeValue_fixed modalias.bus.toNat_lt).symm
  group := (Hex.placeValue_fixed modalias.group.toNat_lt).symm
  vendor := (Hex.placeValue_fixed modalias.vendor.toNat_lt).symm
  product := (Hex.placeValue_fixed modalias.product.toNat_lt).symm

theorem body_eq (modalias : Modalias) :
    modalias.body = modalias.writtenGroups.withMarks 'b' 'g' 'v' 'p' :=
  rfl

theorem body_spells (modalias : Modalias) : Spells modalias.body modalias.writtenGroups where
  wellFormed := ⟨Hex.isGroup_fixed .., Hex.isGroup_fixed .., Hex.isGroup_fixed ..,
    Hex.isGroup_fixed ..⟩
  shape := ⟨'b', 'g', 'v', 'p', .inl rfl, .inl rfl, .inl rfl, .inl rfl, modalias.body_eq⟩

theorem text_eq (modalias : Modalias) : modalias.text = "hid:" ++ String.ofList modalias.body :=
  String.ofList_append

/-- Groups that are read and written come out in upper case. -/
theorem writtenGroups_eq (hgroups : groups.WellFormed) (hdenotes : groups.Denotes modalias) :
    modalias.writtenGroups = groups.map Char.toUpper := by
  simp only [writtenGroups, Groups.map, hdenotes.bus, hdenotes.group, hdenotes.vendor,
    hdenotes.product, Hex.fixed_placeValue hgroups.bus, Hex.fixed_placeValue hgroups.group,
    Hex.fixed_placeValue hgroups.vendor, Hex.fixed_placeValue hgroups.product]

/-- A body without a scheme in front is read as it stands: it begins with another letter. -/
theorem parse_body (modalias : Modalias) :
    parse (String.ofList modalias.body) = .ok modalias := by
  have hbody : HasBody (String.ofList modalias.body) (String.ofList modalias.body) := by
    refine .inr ⟨rfl, fun rest htext => ?_⟩
    have hchars := congrArg String.toList htext
    rw [String.toList_ofList, String.toList_append, body_eq] at hchars
    exact absurd (List.cons.inj hchars).1 (by decide)
  rw [parse_eq_ok_iff hbody, String.toList_ofList]
  exact ⟨modalias.writtenGroups, modalias.body_spells, modalias.writtenGroups_denotes⟩

/-- What is written is read back. -/
theorem parse_text (modalias : Modalias) : parse modalias.text = .ok modalias := by
  rw [parse_eq_ok_iff (.inl modalias.text_eq), String.toList_ofList]
  exact ⟨modalias.writtenGroups, modalias.body_spells, modalias.writtenGroups_denotes⟩

/-! ## Case -/

theorem Spells.map_toLower_eq (hspells : Spells chars groups) :
    chars.map Char.toLower = (groups.map Char.toLower).withMarks 'b' 'g' 'v' 'p' := by
  obtain ⟨_, _, _, _, rfl, -, hlower⟩ := hspells.exists_marks
  simp only [List.map_cons, List.map_nil, List.cons.injEq, and_true] at hlower
  simp only [Groups.withMarks_map, hlower]

/-- The grammar takes no notice of case. -/
theorem Spells.map_toLower (hspells : Spells chars groups) :
    Spells (chars.map Char.toLower) (groups.map Char.toLower) where
  wellFormed := hspells.wellFormed.map_toLower
  shape := ⟨'b', 'g', 'v', 'p', .inl rfl, .inl rfl, .inl rfl, .inl rfl, hspells.map_toLower_eq⟩

/-- Up to case, a body that is read is the one that is written. -/
theorem Spells.map_toLower_body (hspells : Spells chars groups)
    (hdenotes : groups.Denotes modalias) :
    chars.map Char.toLower = modalias.body.map Char.toLower := by
  have hcase : (groups.map Char.toUpper).map Char.toLower = groups.map Char.toLower := by
    have hgroups := hspells.wellFormed
    simp only [Groups.map, Hex.map_toLower_map_toUpper hgroups.bus,
      Hex.map_toLower_map_toUpper hgroups.group, Hex.map_toLower_map_toUpper hgroups.vendor,
      Hex.map_toLower_map_toUpper hgroups.product]
  rw [hspells.map_toLower_eq, modalias.body_spells.map_toLower_eq,
    writtenGroups_eq hspells.wellFormed hdenotes, hcase]

theorem Spells.ofBody?_map_toLower (hspells : Spells chars groups)
    (hdenotes : groups.Denotes modalias) : ofBody? (chars.map Char.toLower) = some modalias :=
  ofBody?_eq_some_iff.mpr ⟨_, hspells.map_toLower, hdenotes.map_toLower hspells.wellFormed⟩

theorem toList_toLower (text : String) : text.toLower.toList = text.toList.map Char.toLower :=
  String.toList_map

/-- Two texts are the same modalias if and only if they differ in nothing but case. -/
theorem eq_iff_toLower_eq {other : Modalias} (hleft : HasBody left leftBody)
    (hright : HasBody right rightBody) (hparse : parse left = .ok modalias)
    (hother : parse right = .ok other) :
    modalias = other ↔ leftBody.toLower = rightBody.toLower := by
  obtain ⟨_, hleftSpells, hleftDenotes⟩ := (parse_eq_ok_iff hleft).mp hparse
  obtain ⟨_, hrightSpells, hrightDenotes⟩ := (parse_eq_ok_iff hright).mp hother
  rw [← String.toList_inj, toList_toLower, toList_toLower]
  constructor
  · rintro rfl
    rw [hleftSpells.map_toLower_body hleftDenotes, hrightSpells.map_toLower_body hrightDenotes]
  · intro hlower
    have hread := hleftSpells.ofBody?_map_toLower hleftDenotes
    rw [hlower, hrightSpells.ofBody?_map_toLower hrightDenotes] at hread
    exact (Option.some.inj hread).symm

/-! ## The identity of the device -/

theorem device_ofDevice (device : DeviceId) : (ofDevice device).device = .ok device := by
  have hvendor := device.vendor.toNat_lt
  have hproduct := device.product.toNat_lt
  simp only [Modalias.device, ofDevice, UInt16.toNat_toUInt32, UInt16.toUInt16_toUInt32]
  rw [if_pos hvendor, if_pos hproduct]

/-- A modalias is that of a device if vendor and product have 16 bits. -/
theorem device_eq_ok_iff (modalias : Modalias) :
    (∃ device, modalias.device = .ok device) ↔
      modalias.vendor.toNat < 65536 ∧ modalias.product.toNat < 65536 := by
  rw [Modalias.device]
  split_ifs with hvendor hproduct <;> simp [*]

/-! ## The result -/

/-- What reading and writing a modalias amount to. -/
structure ReadsAsWritten : Prop where
  /-- At most one scheme is taken away. -/
  body : ∀ text, ∃! body, HasBody text body
  accepts_iff : ∀ {text body}, HasBody text body →
    ((∃ modalias, parse text = .ok modalias) ↔
      body.utf8ByteSize = 28 ∧ ∃ groups, Spells body.toList groups)
  refuses : ∀ {text}, (¬∃ modalias, parse text = .ok modalias) →
    parse text = .error (.invalidModalias text)
  /-- The numbers of an accepted text are those of its groups, and they are written after letters in
  lower case and with digits in upper case. -/
  reads : ∀ {text body groups}, HasBody text body → Spells body.toList groups →
    ∃ modalias, parse text = .ok modalias ∧ groups.Denotes modalias ∧
      modalias.text =
        "hid:" ++ String.ofList ((groups.map Char.toUpper).withMarks 'b' 'g' 'v' 'p')
  reads_text : ∀ modalias, parse modalias.text = .ok modalias ∧
    ∃ body, modalias.text = "hid:" ++ body ∧ parse body = .ok modalias
  eq_iff : ∀ {left right leftBody rightBody leftModalias rightModalias},
    HasBody left leftBody → HasBody right rightBody →
    parse left = .ok leftModalias → parse right = .ok rightModalias →
    (leftModalias = rightModalias ↔ leftBody.toLower = rightBody.toLower)
  device_ofDevice : ∀ device, (ofDevice device).device = .ok device
  device_iff : ∀ modalias : Modalias, (∃ device, modalias.device = .ok device) ↔
    modalias.vendor.toNat < 65536 ∧ modalias.product.toNat < 65536

/-- The reader accepts exactly its grammar and is inverse to the writer. -/
theorem reads_as_written : ReadsAsWritten where
  body := existsUnique_hasBody
  accepts_iff := by
    intro text body hbody
    simp only [parse_eq_ok_iff hbody]
    constructor
    · rintro ⟨_, groups, hspells, -⟩
      exact ⟨hspells.utf8ByteSize_eq, groups, hspells⟩
    · rintro ⟨-, groups, hspells⟩
      exact ⟨_, groups, hspells, hspells.wellFormed.denotes⟩
  refuses := fun hfails => (parse_ok_or_invalid _).resolve_left hfails
  reads := by
    intro text body groups hbody hspells
    have hdenotes := hspells.wellFormed.denotes
    refine ⟨_, (parse_eq_ok_iff hbody).mpr ⟨groups, hspells, hdenotes⟩, hdenotes, ?_⟩
    rw [text_eq, body_eq, writtenGroups_eq hspells.wellFormed hdenotes]
  reads_text := fun modalias =>
    ⟨modalias.parse_text, String.ofList modalias.body, modalias.text_eq, modalias.parse_body⟩
  eq_iff := eq_iff_toLower_eq
  device_ofDevice := device_ofDevice
  device_iff := device_eq_ok_iff

/-- The digits of a pen, with either case in them. -/
def penGroups : Groups :=
  ⟨"0003".toList, "0001".toList, "000028bd".toList, "0000095B".toList⟩

/-- A modalias of mixed case, and another spelling of it. -/
theorem reads_as_written_pen :
    HasBody "hid:B0003g0001V000028bdp0000095B" "B0003g0001V000028bdp0000095B" ∧
      Spells "B0003g0001V000028bdp0000095B".toList penGroups ∧
      parse "hid:B0003g0001V000028bdp0000095B" = .ok ⟨3, 1, 0x28BD, 0x095B⟩ ∧
      penGroups.Denotes ⟨3, 1, 0x28BD, 0x095B⟩ ∧
      (Modalias.mk 3 1 0x28BD 0x095B).text = "hid:b0003g0001v000028BDp0000095B" := by
  have hbody : HasBody "hid:B0003g0001V000028bdp0000095B" "B0003g0001V000028bdp0000095B" :=
    .inl (by decide)
  have hspells : Spells "B0003g0001V000028bdp0000095B".toList penGroups :=
    ⟨⟨by decide, by decide, by decide, by decide⟩,
      'B', 'g', 'V', 'p', .inr rfl, .inl rfl, .inr rfl, .inl rfl, by decide⟩
  have hparse : parse "hid:B0003g0001V000028bdp0000095B" = .ok ⟨3, 1, 0x28BD, 0x095B⟩ := by
    decide
  obtain ⟨modalias, hread, hdenotes, htext⟩ := reads_as_written.reads hbody hspells
  obtain rfl := Except.ok.inj (hparse.symm.trans hread)
  exact ⟨hbody, hspells, hparse, hdenotes, htext⟩

end HidMend.Modalias
