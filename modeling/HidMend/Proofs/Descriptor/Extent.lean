import HidMend.Proofs.Descriptor.Patch

/-!
# Which patches fail, and what the others write

A patch of a descriptor in a buffer fails where the descriptor does not fit into the buffer or one
of the writes of the patch does not fit.  Nothing else makes it fail, and it has written nothing
then.  The bound is another one for each strategy, and it is taken in the integers: an offset close
to the end of the address space does not slip through because its field would wrap around.  A patch
that succeeds writes at the offsets it names and nowhere else.
-/

namespace HidMend

/-- A byte guards the first `size` bytes of a buffer. -/
theorem GuardedByte.holds_take_iff {guard : GuardedByte} {size : ℕ} {bytes : Bytes} :
    guard.holds (bytes.take size) = true ↔
      guard.offset < size ∧ bytes[guard.offset]? = some guard.factory := by
  rw [holds, beq_iff_eq, List.getElem?_take]
  split_ifs with hinside <;> simp [hinside]

namespace Patch

/-- A write of the patch does not fit: into the buffer, if it is that of a template, and into the
descriptor, if it is any other.  Items count only on the layout that the change is meant for. -/
def Overruns (size : ℕ) (bytes : Bytes) : Patch → Prop
  | replace template => bytes.length < template.length
  | edit edits => ∃ change ∈ edits, size ≤ change.offset
  | constantToData change =>
      (change.discriminator.offset < size ∧
          bytes[change.discriminator.offset]? = some change.discriminator.factory) ∧
        ∃ item ∈ change.items, size < item + 2

/-- The offsets that a patch names for its writes. -/
def writes : Patch → Set ℕ
  | replace template => {offset | offset < template.length}
  | edit edits => {offset | ∃ change ∈ edits, change.offset = offset}
  | constantToData change => {offset | ∃ item ∈ change.items, item + 1 = offset}

/-- What a patch may touch it names as one of its writes. -/
theorem touched_subset_writes (patch : Patch) (size : ℕ) : patch.touched size ⊆ patch.writes := by
  intro offset hoffset
  cases patch with
  | replace template => exact hoffset
  | edit edits => exact hoffset.2
  | constantToData change => exact hoffset.2

variable {size : ℕ} {bytes : Bytes}

/-- A field that ends inside a buffer ends inside the address space. -/
theorem fits_iff_not_overruns (patch : Patch) (haddress : bytes.length < Buffer.addressLimit) :
    patch.Fits size bytes ↔ size ≤ bytes.length ∧ ¬patch.Overruns size bytes := by
  refine and_congr_right fun hsize => ?_
  have hfield : ∀ stop, stop < Buffer.addressLimit ∧ stop ≤ size ↔ ¬size < stop := by
    intro stop
    omega
  cases patch with
  | replace template => exact Nat.not_lt.symm
  | edit edits => simp only [Overruns, hfield, Nat.lt_succ_iff, not_exists, not_and]
  | constantToData change =>
      simp only [Overruns, GuardedByte.holds_take_iff, hfield, not_exists, not_and]

/-- A patch fails exactly where its writes do not fit.  It leaves the buffer alone if it fails, and
keeps to the offsets it names if it succeeds. -/
theorem apply_fails_iff_overruns (patch : Patch) (size : ℕ) (bytes : Bytes)
    (haddress : bytes.length < Buffer.addressLimit) :
    ((∃ fault after, patch.apply size bytes = (.error fault, after)) ↔
        bytes.length < size ∨ patch.Overruns size bytes) ∧
      (∀ fault after, patch.apply size bytes = (.error fault, after) →
        fault = .bufferTooSmall ∧ after = bytes) ∧
      (∀ patched after, patch.apply size bytes = (.ok patched, after) →
        Rewrite patch.writes patched.effect bytes after ∧
          patched.size = patch.sizeAfter size ∧ patched.size ≤ bytes.length) := by
  have hoverruns : bytes.length < size ∨ patch.Overruns size bytes ↔ ¬patch.Fits size bytes := by
    rw [fits_iff_not_overruns patch haddress, not_and_or, Nat.not_le, not_not]
  rw [hoverruns]
  by_cases hfits : patch.Fits size bytes
  · obtain ⟨effect, after, happly, hrewrite⟩ := apply_of_fits hfits
    rw [happly]
    refine ⟨?_, nofun, ?_⟩
    · simp [hfits]
    · rintro _ _ ⟨⟩
      exact ⟨hrewrite.mono (patch.touched_subset_writes size), rfl, sizeAfter_le hfits⟩
  · rw [apply_of_not_fits hfits]
    refine ⟨?_, ?_, nofun⟩
    · simp [hfits]
    · rintro _ _ ⟨⟩
      exact ⟨rfl, rfl⟩

/-- Names an item at the last address, whose data byte would have none. -/
def farItem : Patch :=
  .constantToData ⟨⟨0, 0x05⟩, [2, 18446744073709551615]⟩

/-- The item that could have been changed is not, and no write wraps around to the front. -/
theorem apply_fails_iff_overruns_farItem :
    [0x05, 0x01, 0x81, 0x03].length < Buffer.addressLimit ∧
      ∃ fault after, farItem.apply 4 [0x05, 0x01, 0x81, 0x03] = (.error fault, after) ∧
        fault = .bufferTooSmall ∧ after = [0x05, 0x01, 0x81, 0x03] := by
  have haddress : [0x05, 0x01, 0x81, 0x03].length < Buffer.addressLimit := by decide
  obtain ⟨hfails, hkeeps, -⟩ := apply_fails_iff_overruns farItem 4 [0x05, 0x01, 0x81, 0x03] haddress
  have hoverruns : farItem.Overruns 4 [0x05, 0x01, 0x81, 0x03] := by
    refine ⟨⟨by decide, rfl⟩, 18446744073709551615, ?_, by decide⟩
    exact List.mem_cons_of_mem _ List.mem_cons_self
  obtain ⟨fault, after, happly⟩ := hfails.mpr (.inr hoverruns)
  exact ⟨haddress, fault, after, happly, hkeeps fault after happly⟩

end Patch

end HidMend
