import HidMend.Catalog.Builtin
import HidMend.Proofs.Descriptor.ConstantToData
import HidMend.Proofs.Descriptor.Gate

/-!
# The descriptors of the built-in recipes

Each recipe mends every descriptor that its gate accepts, whatever the buffer behind it holds.  The
pen gets its fixed descriptor; the mouse keeps its own, in which some constant items are data now if
the layout is the affected one.
-/

namespace HidMend

namespace ArtistPro

variable {size : ℕ} {descriptor bytes : Bytes}

/-- The recipe of the pen asks for one size and one byte. -/
theorem gate_check_eq_ok_iff :
    recipe.gate.check size descriptor = .ok () ↔ size = 113 ∧ descriptor[17]? = some 0x45 := by
  rw [Gate.check_eq_ok_iff]
  simp [recipe, gate, factorySize, GuardedByte.holds]

theorem length_fixedDescriptor : fixedDescriptor.length = 111 := by decide

/-- The fixed descriptor is shorter than the one that the gate accepts, so there is room for it. -/
theorem mendDescriptor_eq (hroom : 113 ≤ bytes.length) :
    recipe.mendDescriptor 113 bytes =
      (.ok ⟨111, .changed⟩, fixedDescriptor ++ bytes.drop 111) := by
  have hpatch : recipe.patch = some (.replace fixedDescriptor) := rfl
  have hfits : 111 ≤ bytes.length := by omega
  rw [Recipe.mendDescriptor, hpatch]
  simp only [Patch.apply, if_neg (Nat.not_lt.mpr hroom), length_fixedDescriptor, if_pos hfits]

end ArtistPro

namespace Momentum

open ConstantToData

variable {size : ℕ} {descriptor bytes : Bytes}

/-- The recipe of the mouse asks for its size alone. -/
theorem gate_check_eq_ok_iff : recipe.gate.check size descriptor = .ok () ↔ size = 213 := by
  rw [Gate.check_eq_ok_iff]
  simp [recipe, Gate.sizeOnly, factorySize]

/-- The change of the recipe. -/
def change : ConstantToData :=
  ⟨usage, constantInputs⟩

theorem mendDescriptor_eq (size : ℕ) (bytes : Bytes) :
    recipe.mendDescriptor size bytes = (Patch.constantToData change).apply size bytes := rfl

/-- All items lie inside a descriptor that passes the gate. -/
theorem change_fits (hroom : 213 ≤ bytes.length) :
    (Patch.constantToData change).Fits 213 bytes :=
  ⟨hroom, fun _ => by decide⟩

/-- A descriptor with its padding turned into data: in the affected layout, the bytes behind three
items change if they are constant inputs. -/
def repaired (descriptor : Bytes) : Bytes :=
  if descriptor[3]? = some 0x06 then
    descriptor.mapIdx fun offset byte =>
      if (offset = 85 ∨ offset = 113 ∨ offset = 141) ∧ descriptor[offset - 1]? = some 0x81 ∧
          byte = 0x03 then 0x02
      else byte
  else descriptor

/-- The items are the offsets in front of the three bytes. -/
theorem mem_items_iff {offset : ℕ} (hpos : 0 < offset) :
    offset - 1 ∈ change.items ↔ offset = 85 ∨ offset = 113 ∨ offset = 141 := by
  simp only [change, constantInputs, List.mem_cons, List.not_mem_nil, or_false]
  omega

theorem take_eq_repaired_of_converted {after : Bytes}
    (hconverted : Converted change.items bytes after)
    (hlayout : (bytes.take 213)[3]? = some 0x06) :
    after.take 213 = repaired (bytes.take 213) := by
  rw [repaired, if_pos hlayout]
  apply List.ext_getElem?
  intro offset
  rw [List.getElem?_mapIdx]
  by_cases hinside : offset < 213
  · rw [List.getElem?_take_of_lt hinside, List.getElem?_take_of_lt hinside,
      List.getElem?_take_of_lt (Nat.lt_of_le_of_lt (Nat.sub_le offset 1) hinside)]
    by_cases hitem : ∃ item ∈ change.items, item + 1 = offset ∧ IsConstant bytes item
    · obtain ⟨item, hmem, rfl, hconstant⟩ := hitem
      have hoffset := (mem_items_iff (Nat.succ_pos item)).mp hmem
      rw [hconverted.data item hmem hconstant, Nat.add_sub_cancel, hconstant.1, hconstant.2]
      simp only [Option.map_some, hoffset]
      decide
    · push Not at hitem
      rw [hconverted.kept offset fun item hmem heq => hitem item hmem heq]
      cases hbyte : bytes[offset]? with
      | none => rfl
      | some byte =>
          have hother : ¬((offset = 85 ∨ offset = 113 ∨ offset = 141) ∧
              bytes[offset - 1]? = some 0x81 ∧ byte = 0x03) := by
            rintro ⟨hoffset, hinput, rfl⟩
            have hpos : 0 < offset := by omega
            have hnext : offset - 1 + 1 = offset := Nat.sub_add_cancel hpos
            exact hitem (offset - 1) ((mem_items_iff hpos).mpr hoffset) hnext
              ⟨hinput, hnext.symm ▸ hbyte⟩
          rw [Option.map_some, if_neg hother]
  · have hbehind : 213 ≤ offset := Nat.le_of_not_lt hinside
    rw [List.getElem?_take_eq_none hbehind, List.getElem?_take_eq_none hbehind]
    rfl

/-- A descriptor of the mouse keeps its size and comes out repaired. -/
theorem take_mendDescriptor (hroom : 213 ≤ bytes.length) :
    ∃ effect after, recipe.mendDescriptor 213 bytes = (.ok ⟨213, effect⟩, after) ∧
      after.length = bytes.length ∧ after.take 213 = repaired (bytes.take 213) := by
  have hfits := change_fits hroom
  rw [mendDescriptor_eq]
  cases hlayout : change.discriminator.holds (bytes.take 213) with
  | false =>
      refine ⟨_, _, Patch.apply_constantToData_of_not_holds hroom hlayout, rfl, ?_⟩
      have hother : ¬(bytes.take 213)[3]? = some 0x06 := by
        simpa [GuardedByte.holds, change, usage] using hlayout
      rw [repaired, if_neg hother]
  | true =>
      obtain ⟨effect, after, happly, hconverted, -⟩ :=
        Patch.apply_constantToData_of_holds hfits hlayout
      refine ⟨effect, after, happly, hconverted.length_eq,
        take_eq_repaired_of_converted hconverted ?_⟩
      simpa [GuardedByte.holds, change, usage] using hlayout

end Momentum

end HidMend
