import HidMend.Device.Argument
import HidMend.Proofs.Device.Modalias
import HidMend.Proofs.Text.Numeral

/-!
# The two notations of a device

Without the white space around it, the name of a device is a pair of numerals with a colon between
them, or a modalias whose vendor and product have 16 bits.  A pair never begins like a scheme, and a
modalias has no colon but that of its scheme, so no text is both.  The reader asks for the scheme
and for the first colon only, and yet accepts exactly the texts of the two notations.
-/

namespace HidMend.Modalias

/-- The characters of a modalias behind its scheme. -/
def bodySpellings : List Char :=
  "bBgGvVpP".toList ++ Hex.digitSpellings

variable {text body : String} {chars : List Char} {groups : Groups} {modalias : Modalias}
  {device : DeviceId}

theorem Spells.mem (hspells : Spells chars groups) : ∀ char ∈ chars, char ∈ bodySpellings := by
  obtain ⟨⟨hbus, hgroup, hvendor, hproduct⟩, busMark, groupMark, vendorMark, productMark, hbusMark,
    hgroupMark, hvendorMark, hproductMark, rfl⟩ := hspells
  have hdigits : ∀ {width digits}, Hex.IsGroup width digits →
      ∀ char ∈ digits, char ∈ bodySpellings :=
    fun hdigits char hchar => List.mem_append_right _ (hdigits.mem char hchar)
  have hbusMark : busMark ∈ bodySpellings := by rcases hbusMark with rfl | rfl <;> decide
  have hgroupMark : groupMark ∈ bodySpellings := by rcases hgroupMark with rfl | rfl <;> decide
  have hvendorMark : vendorMark ∈ bodySpellings := by
    rcases hvendorMark with rfl | rfl <;> decide
  have hproductMark : productMark ∈ bodySpellings := by
    rcases hproductMark with rfl | rfl <;> decide
  simp only [Groups.withMarks, List.cons_append, List.forall_mem_append, List.forall_mem_cons]
  exact ⟨hbusMark, ⟨⟨hdigits hbus, hgroupMark, hdigits hgroup⟩, hvendorMark, hdigits hvendor⟩,
    hproductMark, hdigits hproduct⟩

theorem isBlank_of_mem_bodySpellings : ∀ char ∈ bodySpellings, Text.isBlank char = false := by
  have hall : bodySpellings.all (fun char => !Text.isBlank char) = true := by
    decide
  simpa using hall

/-- Only modaliases of devices have the identity of a device. -/
theorem device_eq_ok_iff_eq : modalias.device = .ok device ↔ modalias = ofDevice device := by
  constructor
  · intro hdevice
    rw [Modalias.device] at hdevice
    split_ifs at hdevice with hvendor hproduct
    cases hdevice
    have hwide : ∀ value : UInt32, value.toNat < 65536 → value.toUInt16.toUInt32 = value := by
      intro value hvalue
      rw [← UInt32.toNat_inj, UInt16.toNat_toUInt32, UInt32.toNat_toUInt16]
      exact Nat.mod_eq_of_lt hvalue
    simp only [ofDevice, hwide _ hvendor, hwide _ hproduct]
  · rintro rfl
    exact device_ofDevice device

end HidMend.Modalias

namespace HidMend.DeviceId

/-- The numerals of vendor and product, with a colon between them. -/
def IsPair (text : String) (vendor product : UInt16) : Prop :=
  ∃ left right, text.toList = left ++ ':' :: right ∧ Hex.Numeral left vendor.toNat ∧
    Hex.Numeral right product.toNat

/-- A modalias of a device: its digits stand for the four numbers of the identity, so those of
vendor and product stand for numbers of 16 bits. -/
def IsModalias (text : String) (device : DeviceId) : Prop :=
  ∃ body groups, Modalias.HasBody text body ∧ Modalias.Spells body.toList groups ∧
    groups.Denotes (Modalias.ofDevice device)

variable {argument text body front back : String} {left right : List Char}
  {vendor product : UInt16} {device : DeviceId} {groups : Modalias.Groups} {amount : ℕ}

/-- What the reader asks for before it takes a text for a modalias. -/
def LooksLikeModalias (text : String) : Prop :=
  text.toList.take 4 = Modalias.scheme ∨ ':' ∉ text.toList

/-! ## What tells the notations apart -/

theorem looksLikeModalias_of_spells (hbody : Modalias.HasBody text body)
    (hspells : Modalias.Spells body.toList groups) : LooksLikeModalias text := by
  rcases hbody with rfl | ⟨rfl, -⟩
  · rw [LooksLikeModalias, String.toList_append]
    exact .inl rfl
  · exact .inr fun hcolon => absurd (hspells.mem ':' hcolon) (by decide)

/-- A numeral has no letter of the scheme in front, and the colon behind it is there. -/
theorem not_looksLikeModalias_of_numeral (hleft : Hex.Numeral left amount)
    (htext : text.toList = left ++ ':' :: right) : ¬LooksLikeModalias text := by
  rintro (hscheme | hnone)
  · obtain ⟨first, rest, rfl, hfirst⟩ := hleft.exists_cons
    rw [htext] at hscheme
    obtain ⟨rfl, -⟩ := List.cons.inj hscheme
    exact absurd hfirst (by decide)
  · exact hnone (by simp [htext])

theorem colon_not_mem (hleft : Hex.Numeral left amount) : ':' ∉ left :=
  fun hcolon => absurd (hleft.mem ':' hcolon) (by decide)

/-- Whatever the numbers, a modalias is no pair of numerals. -/
theorem ne_of_spells (hbody : Modalias.HasBody text body)
    (hspells : Modalias.Spells body.toList groups) (hleft : Hex.Numeral left amount) :
    text.toList ≠ left ++ ':' :: right :=
  fun htext => not_looksLikeModalias_of_numeral hleft htext
    (looksLikeModalias_of_spells hbody hspells)

/-- A pair is never taken for a modalias. -/
theorem IsPair.not_looksLikeModalias (hpair : IsPair text vendor product) :
    ¬LooksLikeModalias text := by
  obtain ⟨left, right, htext, hleft, -⟩ := hpair
  exact not_looksLikeModalias_of_numeral hleft htext

theorem IsModalias.looksLikeModalias (hmodalias : IsModalias text device) :
    LooksLikeModalias text := by
  obtain ⟨body, groups, hbody, hspells, -⟩ := hmodalias
  exact looksLikeModalias_of_spells hbody hspells

/-! ## The two readers -/

/-- A pair is read if and only if both of its parts are numerals of 16 bits. -/
theorem ofPair_eq_ok_iff : ofPair left right = .ok device ↔ ∃ vendor product : UInt16,
    Hex.Numeral left vendor.toNat ∧ Hex.Numeral right product.toNat ∧
      device = usb vendor product := by
  simp only [ofPair, ← Hex.word_eq_ok_iff]
  cases Hex.word left with
  | error fault => simp
  | ok vendor =>
      cases Hex.word right with
      | error fault => simp
      | ok product => simp [eq_comm]

/-- The reader of modaliases accepts the modaliases of devices and nothing else. -/
theorem ofModalias_eq_ok_iff : ofModalias text = .ok device ↔ IsModalias text device := by
  obtain ⟨body, hbody, hunique⟩ := Modalias.existsUnique_hasBody text
  have hmodalias :
      IsModalias text device ↔ Modalias.parse text = .ok (Modalias.ofDevice device) := by
    rw [Modalias.parse_eq_ok_iff hbody]
    constructor
    · rintro ⟨other, groups, hother, hspells, hdenotes⟩
      cases hunique other hother
      exact ⟨groups, hspells, hdenotes⟩
    · rintro ⟨groups, hspells, hdenotes⟩
      exact ⟨body, groups, hbody, hspells, hdenotes⟩
  rw [hmodalias, ofModalias]
  cases Modalias.parse text with
  | error fault => simp
  | ok modalias => simp [Modalias.device_eq_ok_iff_eq]

/-! ## The reader of both -/

/-- An argument that looks like a modalias is read as one or refused. -/
theorem ofArgument_of_looksLikeModalias (htrims : Text.TrimsTo argument.toList text.toList)
    (hlooks : LooksLikeModalias text) :
    ofArgument argument = (ofModalias text).mapError .identity := by
  rw [ofArgument, htrims.trim_eq, String.ofList_toList]
  rcases hlooks with hscheme | hnone
  · simp only [if_pos hscheme]
  · simp only [Text.splitFirst?_of_not_mem hnone, ite_self]

/-- Any other argument is read as a pair, cut at its first colon. -/
theorem ofArgument_of_not_looksLikeModalias (htrims : Text.TrimsTo argument.toList text.toList)
    (hlooks : ¬LooksLikeModalias text) (htext : text.toList = left ++ ':' :: right)
    (hcolon : ':' ∉ left) : ofArgument argument = ofPair left right := by
  rw [LooksLikeModalias, not_or, htext] at hlooks
  rw [ofArgument, htrims.trim_eq, htext]
  simp only [if_neg hlooks.1, Text.splitFirst?_append hcolon]

/-- The numerals of a pair are what the first colon of the text divides. -/
theorem isPair_iff (htext : text.toList = left ++ ':' :: right) (hcolon : ':' ∉ left) :
    IsPair text vendor product ↔
      Hex.Numeral left vendor.toNat ∧ Hex.Numeral right product.toNat := by
  constructor
  · rintro ⟨other, rest, hother, hleft, hright⟩
    have hsplit := Text.splitFirst?_append (colon_not_mem hleft) rest
    rw [← hother, htext, Text.splitFirst?_append hcolon] at hsplit
    cases hsplit
    exact ⟨hleft, hright⟩
  · rintro ⟨hleft, hright⟩
    exact ⟨left, right, htext, hleft, hright⟩

/-- An argument is read if and only if it is in one of the two notations. -/
theorem ofArgument_eq_ok_iff (htrims : Text.TrimsTo argument.toList text.toList) :
    ofArgument argument = .ok device ↔
      (∃ vendor product, IsPair text vendor product ∧ device = usb vendor product) ∨
        IsModalias text device := by
  by_cases hlooks : LooksLikeModalias text
  · have hpair : ¬∃ vendor product, IsPair text vendor product ∧ device = usb vendor product :=
      fun ⟨_, _, hpair, _⟩ => hpair.not_looksLikeModalias hlooks
    rw [ofArgument_of_looksLikeModalias htrims hlooks, or_iff_right hpair, ← ofModalias_eq_ok_iff]
    cases ofModalias text <;> simp [Except.mapError]
  · have hmodalias : ¬IsModalias text device :=
      fun hmodalias => hlooks hmodalias.looksLikeModalias
    have hmem : ':' ∈ text.toList := not_not.mp (not_or.mp hlooks).2
    obtain ⟨left, right, htext, hcolon⟩ := List.eq_append_cons_of_mem hmem
    rw [ofArgument_of_not_looksLikeModalias htrims hlooks htext hcolon, or_iff_left hmodalias,
      ofPair_eq_ok_iff]
    simp only [isPair_iff htext hcolon, and_assoc]

/-! ## Names with white space around them -/

/-- An argument has one text between its white space. -/
theorem existsUnique_trimsTo (argument : String) :
    ∃! text : String, Text.TrimsTo argument.toList text.toList := by
  obtain ⟨core, hcore, hunique⟩ := Text.existsUnique_trimsTo argument.toList
  refine ⟨String.ofList core, by simpa using hcore, fun text htext => ?_⟩
  rw [← hunique _ htext, String.ofList_toList]

theorem IsPair.isSolid (hpair : IsPair text vendor product) : Text.IsSolid text.toList := by
  obtain ⟨left, right, htext, hleft, hright⟩ := hpair
  rw [htext, Text.isSolid_append_iff]
  exact ⟨hleft.isWord.solid, List.forall_mem_cons.mpr ⟨by decide, hright.isWord.solid⟩⟩

theorem IsModalias.isSolid (hmodalias : IsModalias text device) : Text.IsSolid text.toList := by
  obtain ⟨body, groups, hbody, hspells, -⟩ := hmodalias
  have hsolid : Text.IsSolid body.toList := fun char hchar =>
    Modalias.isBlank_of_mem_bodySpellings char (hspells.mem char hchar)
  rcases hbody with rfl | ⟨rfl, -⟩
  · rw [String.toList_append, Text.isSolid_append_iff]
    exact ⟨by decide, hsolid⟩
  · exact hsolid

theorem trimsTo_of_isSolid (hsolid : Text.IsSolid text.toList)
    (hfront : Text.IsGap front.toList) (hback : Text.IsGap back.toList) :
    Text.TrimsTo (front ++ text ++ back).toList text.toList := by
  rw [String.toList_append, String.toList_append]
  exact hsolid.trimsTo hfront hback

/-- White space around a pair does not count. -/
theorem ofArgument_of_isPair (hpair : IsPair text vendor product) (hfront : Text.IsGap front.toList)
    (hback : Text.IsGap back.toList) :
    ofArgument (front ++ text ++ back) = .ok (usb vendor product) :=
  (ofArgument_eq_ok_iff (trimsTo_of_isSolid hpair.isSolid hfront hback)).mpr
    (.inl ⟨vendor, product, hpair, rfl⟩)

theorem ofArgument_of_isModalias (hmodalias : IsModalias text device)
    (hfront : Text.IsGap front.toList) (hback : Text.IsGap back.toList) :
    ofArgument (front ++ text ++ back) = .ok device :=
  (ofArgument_eq_ok_iff (trimsTo_of_isSolid hmodalias.isSolid hfront hback)).mpr (.inr hmodalias)

/-- What is written for a device is a modalias of it. -/
theorem isModalias_text (device : DeviceId) :
    IsModalias (Modalias.ofDevice device).text device := by
  rw [← ofModalias_eq_ok_iff, ofModalias, Modalias.parse_text]
  exact Modalias.device_ofDevice device

theorem isModalias_body (device : DeviceId) :
    IsModalias (String.ofList (Modalias.ofDevice device).body) device := by
  rw [← ofModalias_eq_ok_iff, ofModalias, Modalias.parse_body]
  exact Modalias.device_ofDevice device

/-- Vendor and product in four digits each. -/
def pairText (vendor product : UInt16) : String :=
  String.ofList (Hex.fixed 4 vendor.toNat ++ ':' :: Hex.fixed 4 product.toNat)

theorem isPair_pairText (vendor product : UInt16) :
    IsPair (pairText vendor product) vendor product := by
  have hnumeral : ∀ value : UInt16, Hex.Numeral (Hex.fixed 4 value.toNat) value.toNat := by
    intro value
    have hunmarked : [] ∈ Hex.marks := List.mem_cons_self
    simpa using Hex.numeral_fixed hunmarked (show 0 < 4 by decide) value.toNat_lt
  exact ⟨_, _, String.toList_ofList, hnumeral vendor, hnumeral product⟩

/-! ## The result -/

/-- What reading the name of a device amounts to. -/
structure ReadsTwoNotations : Prop where
  trims : ∀ argument : String, ∃! text : String, Text.TrimsTo argument.toList text.toList
  accepts_iff : ∀ {argument text device}, Text.TrimsTo argument.toList text.toList →
    (ofArgument argument = .ok device ↔
      (∃ vendor product, IsPair text vendor product ∧ device = usb vendor product) ∨
        IsModalias text device)
  refuses : ∀ {argument text}, Text.TrimsTo argument.toList text.toList →
    (¬∃ vendor product, IsPair text vendor product) → (¬∃ device, IsModalias text device) →
    ∃ fault, ofArgument argument = .error fault
  /-- Even with numbers of any size no text has both forms. -/
  disjoint : ∀ {text body groups left right amount}, Modalias.HasBody text body →
    Modalias.Spells body.toList groups → Hex.Numeral left amount →
    text.toList ≠ left ++ ':' :: right
  /-- White space around a modalias does not matter, nor does its scheme. -/
  reads_modalias : ∀ device {front back : String}, Text.IsGap front.toList →
    Text.IsGap back.toList →
    ofArgument (front ++ (Modalias.ofDevice device).text ++ back) = .ok device ∧
      ∃ body, (Modalias.ofDevice device).text = "hid:" ++ body ∧
        ofArgument (front ++ body ++ back) = .ok device
  reads_pair : ∀ {text front back : String} {vendor product}, IsPair text vendor product →
    Text.IsGap front.toList → Text.IsGap back.toList →
    ofArgument (front ++ text ++ back) = .ok (usb vendor product)
  reads_pairText : ∀ vendor product {front back : String}, Text.IsGap front.toList →
    Text.IsGap back.toList →
    ofArgument (front ++ pairText vendor product ++ back) = .ok (usb vendor product)

/-- The name of a device is read exactly if it has one of the two forms, and no text has both. -/
theorem ofArgument_reads_two_notations : ReadsTwoNotations where
  trims := existsUnique_trimsTo
  accepts_iff := ofArgument_eq_ok_iff
  refuses {argument text} htrims hpair hmodalias := by
    cases hread : ofArgument argument with
    | error fault => exact ⟨fault, rfl⟩
    | ok device =>
        rcases (ofArgument_eq_ok_iff htrims).mp hread with ⟨vendor, product, hform, -⟩ | hform
        · exact absurd ⟨vendor, product, hform⟩ hpair
        · exact absurd ⟨device, hform⟩ hmodalias
  disjoint := ne_of_spells
  reads_modalias device _ _ hfront hback :=
    ⟨ofArgument_of_isModalias (isModalias_text device) hfront hback, _, Modalias.text_eq _,
      ofArgument_of_isModalias (isModalias_body device) hfront hback⟩
  reads_pair := ofArgument_of_isPair
  reads_pairText vendor product _ _ := ofArgument_of_isPair (isPair_pairText vendor product)

/-- A pair with a mark, zeros in front and either case, and a modalias of which the vendor has a
seventeenth bit. -/
theorem ofArgument_reads_two_notations_pen :
    (Text.TrimsTo " \u30000x28bd:0000095B\n".toList "0x28bd:0000095B".toList ∧
      IsPair "0x28bd:0000095B" 0x28BD 0x095B ∧
      ofArgument " \u30000x28bd:0000095B\n" = .ok (usb 0x28BD 0x095B)) ∧
    ((¬∃ vendor product, IsPair "hid:b0003g0001v000128BDp0000095B" vendor product) ∧
      (¬∃ device, IsModalias "hid:b0003g0001v000128BDp0000095B" device) ∧
      ∃ fault, ofArgument "hid:b0003g0001v000128BDp0000095B" = .error fault) := by
  have htrims : Text.TrimsTo " \u30000x28bd:0000095B\n".toList "0x28bd:0000095B".toList :=
    Text.trim_eq_iff.mp (by decide)
  have hpair : IsPair "0x28bd:0000095B" 0x28BD 0x095B :=
    ⟨"0x28bd".toList, "0000095B".toList, by decide, Hex.word_eq_ok_iff.mp (by decide),
      Hex.word_eq_ok_iff.mp (by decide)⟩
  have hnone : ¬∃ vendor product, IsPair "hid:b0003g0001v000128BDp0000095B" vendor product :=
    fun ⟨_, _, hform⟩ => hform.not_looksLikeModalias (.inl (by decide))
  have hwide : ¬∃ device, IsModalias "hid:b0003g0001v000128BDp0000095B" device := by
    rintro ⟨device, hform⟩
    cases (show ofModalias "hid:b0003g0001v000128BDp0000095B" =
      .error (.valueTooLarge "vendor id" 0x128BD) by decide).symm.trans
      (ofModalias_eq_ok_iff.mpr hform)
  exact ⟨⟨htrims, hpair, (ofArgument_reads_two_notations.accepts_iff htrims).mpr
      (.inl ⟨_, _, hpair, rfl⟩)⟩,
    hnone, hwide, ofArgument_reads_two_notations.refuses (Text.trim_eq_iff.mp (by decide)) hnone
      hwide⟩

end HidMend.DeviceId
