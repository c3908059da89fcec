import HidMend.Descriptor.Patch
import HidMend.Proofs.Buffer.Access
import HidMend.Proofs.Buffer.Rewrite

/-!
# Descriptor patches are all or nothing

A patch validates what it is going to write before it writes the first byte.  `Patch.Fits` is the
condition that this validation decides.  Where it holds, every step of the patch succeeds and the
patch rewrites the buffer inside its write set; where it fails, the patch reports that the content
does not fit and the buffer is the one it was handed.
-/

namespace HidMend

/-! ## Single steps -/

namespace ByteEdit

/-- What an edit leaves in place of the byte it finds. -/
def replacement (edit : ByteEdit) (current : UInt8) : UInt8 :=
  if current = edit.expected then edit.value else current

theorem apply_of_getElem? {edit : ByteEdit} {bytes : Bytes} {current : UInt8}
    (hcurrent : bytes[edit.offset]? = some current) :
    edit.apply bytes =
      (.ok (Effect.ofBool (edit.replacement current != current)),
        bytes.set edit.offset (edit.replacement current)) := by
  rw [apply, Buffer.readByte_eq_ok_iff.mpr hcurrent]
  by_cases hexpected : current = edit.expected
  · simp only [replacement, if_pos hexpected, Buffer.writeByte_of_getElem? edit.value hcurrent]
  · obtain ⟨hinside, rfl⟩ := List.getElem?_eq_some_iff.mp hcurrent
    simp [replacement, if_neg hexpected, Effect.ofBool]

end ByteEdit

namespace ConstantToData

/-- What the change leaves in place of the second byte of an item. -/
def replacement (item data : UInt8) : UInt8 :=
  if item = inputItem ∧ data = constantInput then dataInput else data

theorem applyItem_of_getElem? {offset : ℕ} {bytes : Bytes} {item data : UInt8}
    (hitem : bytes[offset]? = some item) (hdata : bytes[offset + 1]? = some data) :
    applyItem offset bytes =
      (.ok (Effect.ofBool (replacement item data != data)),
        bytes.set (offset + 1) (replacement item data)) := by
  rw [applyItem, Buffer.readByte_eq_ok_iff.mpr hitem, Buffer.readByte_eq_ok_iff.mpr hdata]
  by_cases hconstant : item = inputItem ∧ data = constantInput
  · have hdiffers : (dataInput != data) = true := by
      rw [hconstant.2]
      decide
    simp only [replacement, if_pos hconstant, Buffer.writeByte_of_getElem? dataInput hdata,
      hdiffers]
    rfl
  · obtain ⟨hinside, rfl⟩ := List.getElem?_eq_some_iff.mp hdata
    simp [replacement, if_neg hconstant, Effect.ofBool]

end ConstantToData

/-! ## Runs of steps -/

namespace Patch

section Runs

variable {Step : Type} {apply : Step → Bytes → Except Fault Effect × Bytes} {steps : List Step}
  {touched : Set ℕ} {length : ℕ}

/-- If every step succeeds on buffers of one length and rewrites inside one set of offsets, so does
a run of the steps. -/
theorem runSteps_rewrite
    (hstep : ∀ step ∈ steps, ∀ bytes : Bytes, bytes.length = length →
      ∃ effect after, apply step bytes = (.ok effect, after) ∧
        Rewrite touched effect bytes after)
    (effect : Effect) (bytes : Bytes) (hlength : bytes.length = length) :
    ∃ next after, runSteps apply steps effect bytes = (.ok (effect.merge next), after) ∧
      Rewrite touched next bytes after := by
  induction steps generalizing effect bytes with
  | nil =>
      refine ⟨.unchanged, bytes, ?_, Rewrite.refl touched .unchanged bytes⟩
      rw [runSteps, Effect.merge_unchanged]
  | cons step rest ih =>
      obtain ⟨first, middle, happly, hfirst⟩ :=
        hstep step List.mem_cons_self bytes hlength
      have hrest : ∀ other ∈ rest, ∀ buffer : Bytes, buffer.length = length →
          ∃ effect after, apply other buffer = (.ok effect, after) ∧
            Rewrite touched effect buffer after := by
        intro other hother
        exact hstep other (List.mem_cons_of_mem step hother)
      obtain ⟨next, after, hrun, hsecond⟩ :=
        ih hrest (effect.merge first) middle (hfirst.length_eq.trans hlength)
      refine ⟨first.merge next, after, ?_, hfirst.trans hsecond⟩
      rw [runSteps, happly]
      simp only [hrun, Effect.merge_assoc]

/-- A run in place keeps the size and touches what its steps touch. -/
theorem inPlace_rewrite
    (hstep : ∀ step ∈ steps, ∀ bytes : Bytes, bytes.length = length →
      ∃ effect after, apply step bytes = (.ok effect, after) ∧
        Rewrite touched effect bytes after)
    (size : ℕ) (bytes : Bytes) (hlength : bytes.length = length) :
    ∃ effect after, inPlace apply steps size bytes = (.ok ⟨size, effect⟩, after) ∧
      Rewrite touched effect bytes after := by
  obtain ⟨effect, after, hrun, hrewrite⟩ :=
    runSteps_rewrite hstep .unchanged bytes hlength
  refine ⟨effect, after, ?_, hrewrite⟩
  rw [inPlace, hrun]
  simp only [Effect.unchanged_merge]

end Runs

/-! ## The whole patch -/

/-- The length of the descriptor after a successful patch. -/
def sizeAfter : Patch → ℕ → ℕ
  | replace template, _ => template.length
  | edit _, size => size
  | constantToData _, size => size

/-- Where a patch of a descriptor of `size` bytes may write. -/
def touched (size : ℕ) : Patch → Set ℕ
  | replace template => {offset | offset < template.length}
  | edit edits => {offset | offset < size ∧ ∃ change ∈ edits, change.offset = offset}
  | constantToData change => {offset | offset < size ∧ ∃ item ∈ change.items, item + 1 = offset}

/-- Everything that the patch is going to write lies inside the descriptor or, for a template,
inside the buffer. -/
def Fits (patch : Patch) (size : ℕ) (bytes : Bytes) : Prop :=
  size ≤ bytes.length ∧
    match patch with
    | replace template => template.length ≤ bytes.length
    | edit edits =>
        ∀ change ∈ edits,
          change.offset + 1 < Buffer.addressLimit ∧ change.offset + 1 ≤ size
    | constantToData change =>
        change.discriminator.holds (bytes.take size) = true →
          ∀ item ∈ change.items, item + 2 < Buffer.addressLimit ∧ item + 2 ≤ size

/-- A template at the start of a buffer leaves what is behind it. -/
theorem rewrite_template {template bytes : Bytes} (hfits : template.length ≤ bytes.length) :
    Rewrite {offset | offset < template.length} .changed bytes
      (template ++ bytes.drop template.length) where
  length_eq := by
    rw [List.length_append, List.length_drop]
    omega
  getElem?_eq offset houtside := by
    have hbehind : template.length ≤ offset := Nat.le_of_not_lt houtside
    rw [List.getElem?_append_right hbehind, List.getElem?_drop, Nat.add_sub_cancel' hbehind]
  eq_of_unchanged hunchanged := by cases hunchanged

theorem edit_rewrite {edits : List ByteEdit} {size : ℕ} {bytes : Bytes}
    (hsize : size ≤ bytes.length)
    (hedits : ∀ change ∈ edits,
      change.offset + 1 < Buffer.addressLimit ∧ change.offset + 1 ≤ size) :
    ∃ effect after, inPlace ByteEdit.apply edits size bytes = (.ok ⟨size, effect⟩, after) ∧
      Rewrite ((edit edits).touched size) effect bytes after := by
  refine inPlace_rewrite ?_ size bytes rfl
  intro change hchange buffer hlength
  have hinside : change.offset < size := (hedits change hchange).2
  have hcurrent : buffer[change.offset]? = some buffer[change.offset] :=
    List.getElem?_eq_getElem (by omega)
  refine ⟨_, _, ByteEdit.apply_of_getElem? hcurrent, Rewrite.set _ hcurrent ?_⟩
  exact ⟨hinside, change, hchange, rfl⟩

theorem constantToData_rewrite {change : ConstantToData} {size : ℕ} {bytes : Bytes}
    (hsize : size ≤ bytes.length)
    (hitems : ∀ item ∈ change.items, item + 2 < Buffer.addressLimit ∧ item + 2 ≤ size) :
    ∃ effect after,
      inPlace ConstantToData.applyItem change.items size bytes = (.ok ⟨size, effect⟩, after) ∧
        Rewrite ((constantToData change).touched size) effect bytes after := by
  refine inPlace_rewrite ?_ size bytes rfl
  intro item hitem buffer hlength
  have hinside : item + 2 ≤ size := (hitems item hitem).2
  have hfirst : buffer[item]? = some buffer[item] := List.getElem?_eq_getElem (by omega)
  have hsecond : buffer[item + 1]? = some buffer[item + 1] :=
    List.getElem?_eq_getElem (by omega)
  refine ⟨_, _, ConstantToData.applyItem_of_getElem? hfirst hsecond, Rewrite.set _ hsecond ?_⟩
  exact ⟨by omega, item, hitem, rfl⟩

/-- A patch that fits succeeds, and writes inside its write set only. -/
theorem apply_of_fits {patch : Patch} {size : ℕ} {bytes : Bytes}
    (hfits : patch.Fits size bytes) :
    ∃ effect after, patch.apply size bytes = (.ok ⟨patch.sizeAfter size, effect⟩, after) ∧
      Rewrite (patch.touched size) effect bytes after := by
  obtain ⟨hsize, hcontent⟩ := hfits
  rw [apply.eq_def, if_neg (Nat.not_lt.mpr hsize)]
  cases patch with
  | replace template =>
      simp only at hcontent
      simp only [if_pos hcontent]
      exact ⟨.changed, _, rfl, rewrite_template hcontent⟩
  | edit edits =>
      have hall : (edits.all fun change => Buffer.fits size change.offset 1) = true := by
        simpa only [List.all_eq_true, Buffer.fits_iff] using hcontent
      simp only [if_pos hall]
      exact edit_rewrite hsize hcontent
  | constantToData change =>
      by_cases hlayout : change.discriminator.holds (bytes.take size) = true
      · have hitems := hcontent hlayout
        have hall : (change.items.all fun offset => Buffer.fits size offset 2) = true := by
          simpa only [List.all_eq_true, Buffer.fits_iff] using hitems
        simp only [if_pos hlayout, if_pos hall]
        exact constantToData_rewrite hsize hitems
      · simp only [if_neg hlayout]
        exact ⟨.unchanged, bytes, rfl, Rewrite.refl _ _ _⟩

/-- A patch that does not fit fails before it writes. -/
theorem apply_of_not_fits {patch : Patch} {size : ℕ} {bytes : Bytes}
    (hfits : ¬patch.Fits size bytes) :
    patch.apply size bytes = (.error .bufferTooSmall, bytes) := by
  rw [apply.eq_def]
  by_cases hsize : bytes.length < size
  · rw [if_pos hsize]
  rw [if_neg hsize]
  have hcontent := fun hrest => hfits ⟨Nat.le_of_not_lt hsize, hrest⟩
  cases patch with
  | replace template =>
      simp only [if_neg hcontent]
  | edit edits =>
      have hall : ¬(edits.all fun change => Buffer.fits size change.offset 1) = true := by
        simpa only [List.all_eq_true, Buffer.fits_iff] using hcontent
      simp only [if_neg hall]
  | constantToData change =>
      obtain ⟨hlayout, hitems⟩ := Classical.not_imp.mp hcontent
      have hall : ¬(change.items.all fun offset => Buffer.fits size offset 2) = true := by
        simpa only [List.all_eq_true, Buffer.fits_iff] using hitems
      simp only [if_pos hlayout, if_neg hall]

/-- A patch succeeds only where it fits. -/
theorem fits_of_apply_eq_ok {patch : Patch} {size : ℕ} {bytes after : Bytes}
    {patched : PatchResult} (happly : patch.apply size bytes = (.ok patched, after)) :
    patch.Fits size bytes := by
  by_contra hnot
  rw [apply_of_not_fits hnot] at happly
  cases happly

/-- A patch that fits leaves a descriptor that fits. -/
theorem sizeAfter_le {patch : Patch} {size : ℕ} {bytes : Bytes}
    (hfits : patch.Fits size bytes) : patch.sizeAfter size ≤ bytes.length := by
  cases patch with
  | replace template => exact hfits.2
  | edit edits => exact hfits.1
  | constantToData change => exact hfits.1

/-- A patch writes inside the descriptor that it leaves. -/
theorem touched_subset (patch : Patch) (size : ℕ) :
    patch.touched size ⊆ {offset | offset < patch.sizeAfter size} := by
  intro offset hoffset
  cases patch with
  | replace template => exact hoffset
  | edit edits => exact hoffset.1
  | constantToData change => exact hoffset.1

end Patch

end HidMend
