import HidMend.Proofs.Descriptor.ConstantToData
import HidMend.Proofs.Descriptor.Extent

/-!
# What becomes of every byte

A change that succeeds leaves a buffer that is said byte by byte by the one it found: a byte becomes
data if its item is listed and was a constant input item before the change, and it stays otherwise.
Items may overlap, repeat, or cover the byte that tells the layouts apart.  The list of items enters
as a set, so neither their order nor their repetition matters, and the effect is exact.
-/

namespace HidMend.ConstantToData.Converted

variable {items others : List ℕ} {before after left right : Bytes}

/-- A converted descriptor, byte by byte. -/
theorem getElem?_eq (hconverted : Converted items before after) (offset : ℕ) :
    after[offset]? =
      if ∃ item ∈ items, item + 1 = offset ∧ before[item]? = some 0x81 ∧
          before[offset]? = some 0x03 then some 0x02
      else before[offset]? := by
  split_ifs with hlisted
  · obtain ⟨item, hitem, rfl, hconstant⟩ := hlisted
    exact hconverted.data item hitem hconstant
  · apply hconverted.kept
    rintro item hitem rfl hconstant
    exact hlisted ⟨item, hitem, rfl, hconstant⟩

/-- What the items leave depends on which they are, not on how they are listed. -/
theorem congr (hsame : ∀ item, item ∈ items ↔ item ∈ others)
    (hconverted : Converted items before after) : Converted others before after where
  length_eq := hconverted.length_eq
  data item hitem := hconverted.data item ((hsame item).mpr hitem)
  kept offset hkept := hconverted.kept offset fun item hitem => hkept item ((hsame item).mp hitem)

/-- There is one way to convert items. -/
theorem unique (hleft : Converted items before left) (hright : Converted items before right) :
    left = right := by
  apply List.ext_getElem?
  intro offset
  rw [hleft.getElem?_eq, hright.getElem?_eq]

/-- A constant item does not survive, and its data byte differs from the one before. -/
theorem ne_iff (hconverted : Converted items before after) :
    after ≠ before ↔ ∃ item ∈ items, IsConstant before item := by
  constructor
  · intro hdiffers
    by_contra hnone
    refine hdiffers (hconverted.eq_of_forall fun item hitem hconstant => ?_)
    exact hnone ⟨item, hitem, hconstant⟩
  · rintro ⟨item, hitem, hconstant⟩ rfl
    exact hconverted.not_isConstant hitem hconstant

end HidMend.ConstantToData.Converted

namespace HidMend.Patch

open ConstantToData

variable {change : ConstantToData} {others : List ℕ} {size : ℕ} {bytes after : Bytes}
  {patched : PatchResult}

theorem Fits.congr_items (hsame : ∀ item, item ∈ others ↔ item ∈ change.items)
    (hfits : (constantToData change).Fits size bytes) :
    (constantToData ⟨change.discriminator, others⟩).Fits size bytes :=
  ⟨hfits.1, fun hlayout item hitem => hfits.2 hlayout item ((hsame item).mp hitem)⟩

/-- Items may be listed in any order and more than once. -/
theorem apply_constantToData_congr_items (hsame : ∀ item, item ∈ others ↔ item ∈ change.items)
    (hfits : (constantToData change).Fits size bytes) :
    (constantToData ⟨change.discriminator, others⟩).apply size bytes =
      (constantToData change).apply size bytes := by
  cases hlayout : change.discriminator.holds (bytes.take size) with
  | false =>
      rw [apply_constantToData_of_not_holds hfits.1 hlayout]
      exact apply_constantToData_of_not_holds hfits.1 hlayout
  | true =>
      obtain ⟨effect, left, happly, hleft, heffect⟩ := apply_constantToData_of_holds hfits hlayout
      obtain ⟨next, right, hagain, hright, hnext⟩ :=
        apply_constantToData_of_holds (hfits.congr_items hsame) hlayout
      obtain rfl : right = left := (hright.congr hsame).unique hleft
      rw [hagain, happly,
        Effect.eq_of_changed_iff ((hnext.trans hright.ne_iff.symm).trans
          (hleft.ne_iff.trans heffect.symm))]

/-- A change that succeeds acts on all items at once, as they stood before it, if it finds its
layout, and not at all otherwise.  The effect is exact, the items may be listed in any order and
repeatedly, and a second run finds nothing to do. -/
theorem apply_constantToData_pointwise
    (happly : (constantToData change).apply size bytes = (.ok patched, after)) :
    (¬(change.discriminator.offset < size ∧
          bytes[change.discriminator.offset]? = some change.discriminator.factory) →
        patched.effect = .unchanged ∧ after = bytes) ∧
      ((change.discriminator.offset < size ∧
          bytes[change.discriminator.offset]? = some change.discriminator.factory) →
        ∀ offset, after[offset]? =
          if ∃ item ∈ change.items, item + 1 = offset ∧ bytes[item]? = some 0x81 ∧
              bytes[offset]? = some 0x03 then some 0x02
          else bytes[offset]?) ∧
      patched.size = size ∧
      (patched.effect = .changed ↔ after ≠ bytes) ∧
      (∀ others, (∀ item, item ∈ others ↔ item ∈ change.items) →
        (constantToData ⟨change.discriminator, others⟩).apply size bytes =
          (.ok patched, after)) ∧
      (constantToData change).apply size after = (.ok ⟨size, .unchanged⟩, after) := by
  have hfits := fits_of_apply_eq_ok happly
  have hreordered : ∀ others, (∀ item, item ∈ others ↔ item ∈ change.items) →
      (constantToData ⟨change.discriminator, others⟩).apply size bytes = (.ok patched, after) := by
    intro others hsame
    rw [apply_constantToData_congr_items hsame hfits, happly]
  obtain ⟨hsize, hagain⟩ := apply_constantToData_again happly
  simp only [← GuardedByte.holds_take_iff, Bool.not_eq_true]
  cases hlayout : change.discriminator.holds (bytes.take size) with
  | false =>
      rw [apply_constantToData_of_not_holds hfits.1 hlayout] at happly
      cases happly
      exact ⟨fun _ => ⟨rfl, rfl⟩, nofun, rfl, by simp, hreordered, hagain⟩
  | true =>
      obtain ⟨effect, left, hleft, hconverted, heffect⟩ :=
        apply_constantToData_of_holds hfits hlayout
      rw [hleft] at happly
      cases happly
      exact ⟨nofun, fun _ => hconverted.getElem?_eq, rfl, heffect.trans hconverted.ne_iff.symm,
        hreordered, hagain⟩

/-- Names overlapping items, one of them twice, and tells the layout by a byte that it rewrites. -/
def overlapping : ConstantToData :=
  ⟨⟨3, 0x03⟩, [2, 3, 1, 2]⟩

/-- The data of one item is another item, and the outcome is the same in any order. -/
theorem apply_constantToData_pointwise_overlapping :
    (constantToData overlapping).apply 5 [0x05, 0x81, 0x81, 0x03, 0x03] =
        (.ok ⟨5, .changed⟩, [0x05, 0x81, 0x81, 0x02, 0x03]) ∧
      (constantToData ⟨⟨3, 0x03⟩, [1, 2, 3]⟩).apply 5 [0x05, 0x81, 0x81, 0x03, 0x03] =
        (.ok ⟨5, .changed⟩, [0x05, 0x81, 0x81, 0x02, 0x03]) ∧
      (constantToData overlapping).apply 5 [0x05, 0x81, 0x81, 0x02, 0x03] =
        (.ok ⟨5, .unchanged⟩, [0x05, 0x81, 0x81, 0x02, 0x03]) := by
  have happly : (constantToData overlapping).apply 5 [0x05, 0x81, 0x81, 0x03, 0x03] =
      (.ok ⟨5, .changed⟩, [0x05, 0x81, 0x81, 0x02, 0x03]) := rfl
  obtain ⟨-, -, -, -, hreordered, hagain⟩ := apply_constantToData_pointwise happly
  have hsame : ∀ item, item ∈ [1, 2, 3] ↔ item ∈ overlapping.items := by
    intro item
    simp only [overlapping, List.mem_cons, List.not_mem_nil, or_false]
    tauto
  exact ⟨happly, hreordered [1, 2, 3] hsame, hagain⟩

end HidMend.Patch
