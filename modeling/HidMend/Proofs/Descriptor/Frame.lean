import HidMend.Proofs.Descriptor.Chain

/-!
# Room behind a descriptor

A stage that succeeds on a buffer has looked at no byte behind it.  So bytes may be appended to the
buffer: the stage has the same result, and they stay where they are.  This frame rule carries over
from the steps of a patch to the patch, from there to recipes, and from recipes to a chain of any
length.  A chain of recipes fails only for want of room, hence more room changes nothing or lets the
chain succeed.
-/

namespace HidMend

variable {bytes : Bytes} (extra : Bytes)

/-! ## Single steps -/

/-- An edit inside the buffer takes no notice of what is behind it. -/
theorem ByteEdit.apply_append {edit : ByteEdit} (hinside : edit.offset < bytes.length) :
    (edit.apply bytes).2.length = bytes.length ∧
      edit.apply (bytes ++ extra) = (edit.apply bytes).map id (· ++ extra) := by
  have hcurrent : bytes[edit.offset]? = some bytes[edit.offset] :=
    List.getElem?_eq_getElem hinside
  have hwide : (bytes ++ extra)[edit.offset]? = some bytes[edit.offset] := by
    rw [List.getElem?_append_left hinside, hcurrent]
  rw [apply_of_getElem? hwide, apply_of_getElem? hcurrent, List.set_append_left _ _ hinside]
  exact ⟨List.length_set, rfl⟩

theorem ConstantToData.applyItem_append {item : ℕ} (hinside : item + 1 < bytes.length) :
    (applyItem item bytes).2.length = bytes.length ∧
      applyItem item (bytes ++ extra) = (applyItem item bytes).map id (· ++ extra) := by
  have hfirst : bytes[item]? = some bytes[item] := List.getElem?_eq_getElem (by omega)
  have hsecond : bytes[item + 1]? = some bytes[item + 1] := List.getElem?_eq_getElem hinside
  have hwideFirst : (bytes ++ extra)[item]? = some bytes[item] := by
    rw [List.getElem?_append_left (by omega), hfirst]
  have hwideSecond : (bytes ++ extra)[item + 1]? = some bytes[item + 1] := by
    rw [List.getElem?_append_left hinside, hsecond]
  rw [applyItem_of_getElem? hwideFirst hwideSecond, applyItem_of_getElem? hfirst hsecond,
    List.set_append_left _ _ hinside]
  exact ⟨List.length_set, rfl⟩

/-! ## Patches -/

namespace Patch

section Runs

variable {Step : Type} {apply : Step → Bytes → Except Fault Effect × Bytes} {steps : List Step}
  {length : ℕ}

/-- If every step has a frame on buffers of one length, which it keeps, so does a run of the
steps. -/
theorem runSteps_append
    (hstep : ∀ step ∈ steps, ∀ buffer : Bytes, buffer.length = length →
      (apply step buffer).2.length = buffer.length ∧
        apply step (buffer ++ extra) = (apply step buffer).map id (· ++ extra))
    (effect : Effect) (hlength : bytes.length = length) :
    runSteps apply steps effect (bytes ++ extra) =
      (runSteps apply steps effect bytes).map id (· ++ extra) := by
  induction steps generalizing effect bytes with
  | nil => rfl
  | cons step rest ih =>
      obtain ⟨hkept, hframe⟩ := hstep step List.mem_cons_self bytes hlength
      rw [runSteps, runSteps, hframe]
      cases hanswer : apply step bytes with
      | mk result middle =>
          rw [hanswer] at hkept
          cases result with
          | error fault => rfl
          | ok next =>
              exact ih (fun other hother => hstep other (List.mem_cons_of_mem _ hother)) _
                (hkept.trans hlength)

/-- Steps that take no notice of what is behind the buffer make a run that takes none. -/
theorem inPlace_append
    (hstep : ∀ step ∈ steps, ∀ buffer : Bytes, buffer.length = length →
      (apply step buffer).2.length = buffer.length ∧
        apply step (buffer ++ extra) = (apply step buffer).map id (· ++ extra))
    (size : ℕ) (hlength : bytes.length = length) :
    inPlace apply steps size (bytes ++ extra) =
      (inPlace apply steps size bytes).map id (· ++ extra) := by
  rw [inPlace, inPlace, runSteps_append extra hstep .unchanged hlength]
  rcases runSteps apply steps .unchanged bytes with ⟨_ | _, after⟩ <;> rfl

end Runs

variable {patch : Patch} {size : ℕ}

theorem Fits.append (hfits : patch.Fits size bytes) : patch.Fits size (bytes ++ extra) := by
  obtain ⟨hsize, hcontent⟩ := hfits
  have hwide : bytes.length ≤ (bytes ++ extra).length := by simp
  refine ⟨hsize.trans hwide, ?_⟩
  cases patch with
  | replace template => exact hcontent.trans hwide
  | edit edits => exact hcontent
  | constantToData change => simpa only [List.take_append_of_le_length hsize] using hcontent

/-- A patch that fits has a frame. -/
theorem apply_append (hfits : patch.Fits size bytes) :
    patch.apply size (bytes ++ extra) = (patch.apply size bytes).map id (· ++ extra) := by
  obtain ⟨hwideSize, hwideContent⟩ := hfits.append extra
  obtain ⟨hsize, hcontent⟩ := hfits
  rw [apply.eq_def, if_neg (Nat.not_lt.mpr hwideSize), apply.eq_def,
    if_neg (Nat.not_lt.mpr hsize)]
  cases patch with
  | replace template =>
      simp only at hcontent hwideContent
      simp only [if_pos hcontent, if_pos hwideContent, List.drop_append_of_le_length hcontent]
      simp
  | edit edits =>
      simp only
      split
      · refine inPlace_append extra ?_ size rfl
        intro change hchange buffer hlength
        have hend := (hcontent change hchange).2
        exact ByteEdit.apply_append extra (by omega)
      · rfl
  | constantToData change =>
      simp only [List.take_append_of_le_length hsize]
      split
      · next hlayout =>
          split
          · refine inPlace_append extra ?_ size rfl
            intro item hitem buffer hlength
            have hend := (hcontent hlayout item hitem).2
            exact ConstantToData.applyItem_append extra (by omega)
          · rfl
      · rfl

end Patch

/-! ## Recipes and their chains -/

variable {size : ℕ} {patched : PatchResult} {after : Bytes}

/-- A recipe that succeeds does the same in a longer buffer. -/
theorem Recipe.mendDescriptor_append {recipe : Recipe}
    (hmend : recipe.mendDescriptor size bytes = (.ok patched, after)) :
    recipe.mendDescriptor size (bytes ++ extra) = (.ok patched, after ++ extra) := by
  rw [mendDescriptor] at hmend ⊢
  cases hpatch : recipe.patch with
  | none =>
      rw [hpatch] at hmend
      cases hmend
      rfl
  | some patch =>
      rw [hpatch] at hmend
      have hfits : patch.Fits size bytes := by
        by_contra hnot
        simp only [Patch.apply_of_not_fits hnot] at hmend
        cases hmend
      simp only [Patch.apply_append extra hfits, hmend]
      rfl

namespace Attachment

variable {menders : List Mender} {steps : List PatchResult}

/-- Menders that all succeed do the same in a longer buffer. -/
theorem Passes.append (hpasses : Passes menders size bytes steps after)
    (hrecipes : ∀ mender ∈ menders, ∃ recipe : Recipe, mender = recipe.toMender) :
    Passes menders size (bytes ++ extra) steps (after ++ extra) := by
  induction hpasses with
  | nil size bytes => exact .nil size (bytes ++ extra)
  | @cons mender rest size bytes middle after step steps hstep hrest ih =>
      obtain ⟨recipe, rfl⟩ := hrecipes mender List.mem_cons_self
      exact .cons (Recipe.mendDescriptor_append extra hstep)
        (ih fun other hother => hrecipes other (List.mem_cons_of_mem _ hother))

/-- A mended descriptor stays mended with more room behind it, and the room stays as it is.  Where
more room makes a difference, there was too little of it. -/
theorem mendDescriptor_has_frame {attachment : Attachment}
    (hrecipes : ∀ mender ∈ attachment.menders, ∃ recipe : Recipe, mender = recipe.toMender)
    (size : ℕ) (bytes extra : Bytes) :
    (∀ patched after, attachment.mendDescriptor size bytes = (.ok patched, after) →
        attachment.mendDescriptor size (bytes ++ extra) = (.ok patched, after ++ extra)) ∧
      ((attachment.mendDescriptor size (bytes ++ extra)).1 ≠
          (attachment.mendDescriptor size bytes).1 →
        (attachment.mendDescriptor size bytes).1 = .error .bufferTooSmall ∧
          ∃ patched, (attachment.mendDescriptor size (bytes ++ extra)).1 = .ok patched) := by
  obtain hfailed | ⟨steps, after, hpasses, hmend⟩ := mendDescriptor_cases hrecipes size bytes
  · constructor
    · intro patched after hmend
      rw [hfailed] at hmend
      cases hmend
    · rw [hfailed]
      intro hdiffers
      obtain hstill | ⟨steps, after, -, hmend⟩ :=
        mendDescriptor_cases hrecipes size (bytes ++ extra)
      · exact absurd (congrArg Prod.fst hstill) hdiffers
      · exact ⟨rfl, _, congrArg Prod.fst hmend⟩
  · have hwide := mendDescriptor_of_passes (hpasses.append extra hrecipes)
    constructor
    · intro patched left hleft
      rw [hmend] at hleft
      cases hleft
      exact hwide
    · intro hdiffers
      exact absurd (by rw [hwide, hmend]) hdiffers

/-- Cuts a descriptor down to one byte. -/
def cutter : Recipe :=
  ⟨"cutter", [], .sizeOnly 2, some (.replace [0xC0]), 0, []⟩

/-- Needs room for three bytes, however short the descriptor is. -/
def grower : Recipe :=
  ⟨"grower", [], .sizeOnly 1, some (.replace [0x05, 0x01, 0xC0]), 0, []⟩

/-- A third byte lets the chain succeed, and a fourth one stays behind the descriptor. -/
theorem mendDescriptor_has_frame_grower :
    (∀ mender ∈ [cutter.toMender, grower.toMender],
        ∃ recipe : Recipe, mender = recipe.toMender) ∧
      ((Attachment.mk (.usb 1 1) [cutter.toMender, grower.toMender]).mendDescriptor 2
          [0x0D, 0x02]).1 = .error .bufferTooSmall ∧
      (Attachment.mk (.usb 1 1) [cutter.toMender, grower.toMender]).mendDescriptor 2
          [0x0D, 0x02, 0xAA] = (.ok ⟨3, .changed⟩, [0x05, 0x01, 0xC0]) ∧
      (Attachment.mk (.usb 1 1) [cutter.toMender, grower.toMender]).mendDescriptor 2
          ([0x0D, 0x02, 0xAA] ++ [0xBB]) = (.ok ⟨3, .changed⟩, [0x05, 0x01, 0xC0] ++ [0xBB]) := by
  have hrecipes : ∀ mender ∈ [cutter.toMender, grower.toMender],
      ∃ recipe : Recipe, mender = recipe.toMender := by
    simp
  have hdiffers : ((Attachment.mk (.usb 1 1) [cutter.toMender, grower.toMender]).mendDescriptor 2
      ([0x0D, 0x02] ++ [0xAA])).1 ≠ ((Attachment.mk (.usb 1 1)
        [cutter.toMender, grower.toMender]).mendDescriptor 2 [0x0D, 0x02]).1 := nofun
  exact ⟨hrecipes, ((mendDescriptor_has_frame hrecipes 2 [0x0D, 0x02] [0xAA]).2 hdiffers).1, rfl,
    (mendDescriptor_has_frame hrecipes 2 [0x0D, 0x02, 0xAA] [0xBB]).1 _ _ rfl⟩

end Attachment

end HidMend
