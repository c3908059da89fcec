import HidMend.Proofs.Descriptor.Recipe

/-!
# The status of a mended descriptor

The host sees one number.  For a recipe it can be trusted: a negative status is the errno of the
fault and a status of zero means that nothing was written, so that only a positive status, the
length of the changed descriptor, makes the host read the buffer again.
-/

namespace HidMend.Recipe

variable {recipe : Recipe} {size : ℕ} {bytes after : Bytes}

/-- A patch that fails shows as the one negative status there is. -/
theorem descriptorStatus_of_error {fault : Fault}
    (hmend : recipe.mendDescriptor size bytes = (.error fault, after)) :
    recipe.toMender.descriptorStatus size (some bytes) =
      (-(Fault.errno .bufferTooSmall : ℤ), some bytes) := by
  obtain ⟨rfl, rfl⟩ := eq_of_mendDescriptor_error hmend
  simp only [Mender.descriptorStatus, toMender, hmend]
  rfl

theorem descriptorStatus_of_unchanged {patched : PatchResult}
    (hmend : recipe.mendDescriptor size bytes = (.ok patched, after))
    (heffect : patched.effect = .unchanged) :
    recipe.toMender.descriptorStatus size (some bytes) = (0, some bytes) := by
  have hafter : after = bytes :=
    (mended_of_mendDescriptor_ok hmend).rewrite.eq_of_unchanged heffect
  simp only [Mender.descriptorStatus, toMender, hmend, heffect, hafter]

/-- The length of a changed descriptor fits a status, because it fits the buffer. -/
theorem descriptorStatus_of_changed {patched : PatchResult}
    (hmend : recipe.mendDescriptor size bytes = (.ok patched, after))
    (heffect : patched.effect = .changed) (hlength : bytes.length ≤ 2147483647) :
    recipe.toMender.descriptorStatus size (some bytes) = ((patched.size : ℤ), some after) := by
  have hsize : patched.size ≤ Mender.maxStatus :=
    ((mended_of_mendDescriptor_ok hmend).size_le_of_changed heffect).trans hlength
  simp only [Mender.descriptorStatus, toMender, hmend, heffect, if_pos hsize]

/-- No byte lies inside an empty descriptor, so a recipe that leaves one has written nothing. -/
theorem Mended.eq_of_size_eq_zero {patched : PatchResult}
    (hmended : Mended size patched bytes after) (hempty : patched.size = 0) : after = bytes := by
  apply List.ext_getElem?
  intro offset
  apply hmended.rewrite.getElem?_eq
  rw [hempty]
  exact Nat.not_lt_zero offset

/-- The status of a descriptor of `size` bytes says what became of the buffer. -/
structure TruthfulStatus (recipe : Recipe) (size : ℕ) (before : Bytes) (status : ℤ)
    (after : Bytes) : Prop where
  length_eq : after.length = before.length
  fault_of_neg : status < 0 → after = before ∧
    ∃ fault, recipe.mendDescriptor size before = (.error fault, after) ∧
      status = -(fault.errno : ℤ)
  eq_of_eq_zero : status = 0 → after = before
  changed_of_pos : 0 < status →
    ∃ patched, recipe.mendDescriptor size before = (.ok patched, after) ∧
      patched.effect = .changed ∧ status = patched.size ∧ patched.size ≤ before.length ∧
      ∀ offset, patched.size ≤ offset → after[offset]? = before[offset]?

/-- Every status of a recipe is truthful.  The bytes that a changed descriptor leaves alone begin
at its new length, hence also at the longer of the two lengths. -/
theorem descriptorStatus_truthful (recipe : Recipe) (size : ℕ) (bytes : Bytes)
    (hlength : bytes.length ≤ 2147483647) :
    ∃ status after, recipe.toMender.descriptorStatus size (some bytes) = (status, some after) ∧
      TruthfulStatus recipe size bytes status after := by
  cases hanswer : recipe.mendDescriptor size bytes with
  | mk result after =>
      cases result with
      | error fault =>
          obtain ⟨rfl, rfl⟩ := eq_of_mendDescriptor_error hanswer
          refine ⟨_, _, descriptorStatus_of_error hanswer, rfl, ?_, fun _ => rfl, ?_⟩
          · intro _
            exact ⟨rfl, .bufferTooSmall, hanswer, rfl⟩
          · intro hpositive
            exact absurd hpositive (by decide)
      | ok patched =>
          have hmended := mended_of_mendDescriptor_ok hanswer
          cases heffect : patched.effect with
          | unchanged =>
              refine ⟨0, bytes, descriptorStatus_of_unchanged hanswer heffect, rfl, ?_,
                fun _ => rfl, ?_⟩
              · intro hnegative
                exact absurd hnegative (lt_irrefl 0)
              · intro hpositive
                exact absurd hpositive (lt_irrefl 0)
          | changed =>
              refine ⟨patched.size, after, descriptorStatus_of_changed hanswer heffect hlength,
                hmended.rewrite.length_eq, ?_, ?_, ?_⟩
              · intro hnegative
                exact absurd hnegative (Int.not_lt.mpr (Int.natCast_nonneg _))
              · intro hzero
                exact hmended.eq_of_size_eq_zero (Int.natCast_eq_zero.mp hzero)
              · intro _
                refine ⟨patched, hanswer, heffect, rfl, hmended.size_le_of_changed heffect, ?_⟩
                intro offset hbehind
                exact hmended.rewrite.getElem?_eq offset (Nat.not_lt.mpr hbehind)

/-- Two edits that cancel out. -/
def thereAndBack : Recipe :=
  ⟨"there-and-back", [], .sizeOnly 2, some (.edit [⟨0, 0x0D, 0x01⟩, ⟨0, 0x01, 0x0D⟩]), 0, []⟩

/-- A positive status for a descriptor that ends up as it was, in front of a byte that is none of
its own. -/
theorem descriptorStatus_truthful_thereAndBack :
    ([0x0D, 0x02, 0xC0] : Bytes).length ≤ 2147483647 ∧
      thereAndBack.toMender.descriptorStatus 2 (some [0x0D, 0x02, 0xC0]) =
        (2, some [0x0D, 0x02, 0xC0]) ∧
      ∃ status after,
        thereAndBack.toMender.descriptorStatus 2 (some [0x0D, 0x02, 0xC0]) =
          (status, some after) ∧
        TruthfulStatus thereAndBack 2 [0x0D, 0x02, 0xC0] status after :=
  ⟨by decide, rfl, descriptorStatus_truthful thereAndBack 2 [0x0D, 0x02, 0xC0] (by decide)⟩

end HidMend.Recipe
