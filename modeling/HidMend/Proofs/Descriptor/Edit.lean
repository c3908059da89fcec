import HidMend.Proofs.Descriptor.Patch

/-!
# Edits at distinct offsets

The edits of a patch run one after another, each on what the ones before it have left.  Where no two
of them have the same offset, an edit still finds the byte that stood there before the run.  So the
run is one update of the buffer, in which every edit replaces its own byte: the order of the edits
does not matter, an effect is reported exactly where the buffer differs, and a second run finds
nothing to do.
-/

namespace HidMend.ByteEdit

/-- Every edit has replaced the byte that stood at its offset before the run, and all other bytes
have stayed. -/
structure Edited (edits : List ByteEdit) (before after : Bytes) : Prop where
  length_eq : after.length = before.length
  replaced : ∀ edit ∈ edits, after[edit.offset]? = before[edit.offset]?.map edit.replacement
  kept : ∀ offset, (∀ edit ∈ edits, edit.offset ≠ offset) → after[offset]? = before[offset]?

variable {edits others rest : List ByteEdit} {edit : ByteEdit} {size : ℕ} {current : UInt8}
  {before after left right bytes : Bytes}

/-- A byte that an edit has visited is not changed by the same edit again. -/
theorem replacement_replacement (edit : ByteEdit) (current : UInt8) :
    edit.replacement (edit.replacement current) = edit.replacement current := by
  by_cases hexpected : current = edit.expected
  · simp only [replacement, if_pos hexpected, ite_self]
  · simp only [replacement, if_neg hexpected]

namespace Edited

theorem nil (bytes : Bytes) : Edited [] bytes bytes where
  length_eq := rfl
  replaced _ hedit := absurd hedit List.not_mem_nil
  kept _ _ := rfl

/-- A run over the other edits leaves the byte of the first one alone, and finds its own bytes as
they stood before the first one wrote. -/
theorem cons (hdistinct : ∀ other ∈ rest, other.offset ≠ edit.offset)
    (hcurrent : before[edit.offset]? = some current)
    (hrest : Edited rest (before.set edit.offset (edit.replacement current)) after) :
    Edited (edit :: rest) before after where
  length_eq := hrest.length_eq.trans List.length_set
  replaced other hother := by
    rcases List.mem_cons.mp hother with rfl | hlater
    · obtain ⟨hinside, -⟩ := List.getElem?_eq_some_iff.mp hcurrent
      rw [hrest.kept other.offset hdistinct, List.getElem?_set_self hinside, hcurrent]
      rfl
    · rw [hrest.replaced other hlater, List.getElem?_set_ne (hdistinct other hlater).symm]
  kept offset hkept := by
    have hfirst : edit.offset ≠ offset := hkept edit List.mem_cons_self
    rw [hrest.kept offset fun other hother => hkept other (List.mem_cons_of_mem _ hother),
      List.getElem?_set_ne hfirst]

/-- There is one way to make edits of distinct offsets. -/
theorem unique (hleft : Edited edits before left) (hright : Edited edits before right) :
    left = right := by
  apply List.ext_getElem?
  intro offset
  by_cases hedit : ∃ edit ∈ edits, edit.offset = offset
  · obtain ⟨edit, hmem, rfl⟩ := hedit
    rw [hleft.replaced edit hmem, hright.replaced edit hmem]
  · have hnone : ∀ edit ∈ edits, edit.offset ≠ offset :=
      fun edit hmem heq => hedit ⟨edit, hmem, heq⟩
    rw [hleft.kept offset hnone, hright.kept offset hnone]

/-- What the edits leave does not depend on their order. -/
theorem perm (hperm : edits.Perm others) (hedited : Edited edits before after) :
    Edited others before after where
  length_eq := hedited.length_eq
  replaced edit hedit := hedited.replaced edit (hperm.mem_iff.mpr hedit)
  kept offset hkept := hedited.kept offset fun edit hedit => hkept edit (hperm.mem_iff.mp hedit)

/-- What has been edited has nothing left to edit. -/
theorem again (hedited : Edited edits before after) : Edited edits after after where
  length_eq := rfl
  replaced edit hedit := by
    rw [hedited.replaced edit hedit, Option.map_map]
    congr 1
    funext current
    exact (edit.replacement_replacement current).symm
  kept _ _ := rfl

/-- The first edit and the others write at different offsets, so neither undoes what the other has
done. -/
theorem ne_iff (hdistinct : ∀ other ∈ rest, other.offset ≠ edit.offset)
    (hcurrent : before[edit.offset]? = some current)
    (hrest : Edited rest (before.set edit.offset (edit.replacement current)) after) :
    after ≠ before ↔
      edit.replacement current ≠ current ∨
        after ≠ before.set edit.offset (edit.replacement current) := by
  obtain ⟨hinside, -⟩ := List.getElem?_eq_some_iff.mp hcurrent
  by_cases hsame : edit.replacement current = current
  · rw [(Buffer.set_eq_self_iff _ hcurrent).mpr hsame]
    exact (or_iff_right (not_not_intro hsame)).symm
  · have hafter : after[edit.offset]? = some (edit.replacement current) := by
      rw [hrest.kept edit.offset hdistinct, List.getElem?_set_self hinside]
    have hdiffers : after ≠ before := by
      rintro rfl
      exact hsame (Option.some.inj (hafter.symm.trans hcurrent))
    exact iff_of_true hdiffers (.inl hsame)

end Edited

/-- A run over distinct offsets edits every byte where it was found, and its effect is exact. -/
theorem runSteps_apply (hdistinct : (edits.map offset).Nodup)
    (hinside : ∀ edit ∈ edits, edit.offset < bytes.length) (effect : Effect) :
    ∃ next after, Patch.runSteps apply edits effect bytes = (.ok (effect.merge next), after) ∧
      Edited edits bytes after ∧ (next = .changed ↔ after ≠ bytes) := by
  induction edits generalizing bytes effect with
  | nil =>
      refine ⟨.unchanged, bytes, ?_, Edited.nil bytes, by simp⟩
      rw [Patch.runSteps, Effect.merge_unchanged]
  | cons edit rest ih =>
      obtain ⟨hfirst, hrest⟩ := List.nodup_cons.mp hdistinct
      have hothers : ∀ other ∈ rest, other.offset ≠ edit.offset :=
        fun other hother heq => hfirst (List.mem_map.mpr ⟨other, hother, heq⟩)
      obtain ⟨current, hcurrent⟩ : ∃ current, bytes[edit.offset]? = some current :=
        ⟨_, List.getElem?_eq_getElem (hinside edit List.mem_cons_self)⟩
      have hlater : ∀ other ∈ rest,
          other.offset < (bytes.set edit.offset (edit.replacement current)).length := by
        intro other hother
        rw [List.length_set]
        exact hinside other (List.mem_cons_of_mem _ hother)
      obtain ⟨next, after, hrun, hedited, heffect⟩ :=
        ih hrest hlater (effect.merge (Effect.ofBool (edit.replacement current != current)))
      refine ⟨(Effect.ofBool (edit.replacement current != current)).merge next, after, ?_,
        hedited.cons hothers hcurrent, ?_⟩
      · rw [Patch.runSteps, apply_of_getElem? hcurrent]
        simp only [hrun, Effect.merge_assoc]
      · rw [Effect.merge_eq_changed_iff, Effect.ofBool_eq_changed_iff, bne_iff_ne, heffect,
          hedited.ne_iff hothers hcurrent]

end HidMend.ByteEdit

namespace HidMend.Patch

variable {edits others : List ByteEdit} {size : ℕ} {bytes after : Bytes} {patched : PatchResult}

/-! ## The whole patch -/

theorem Fits.perm (hperm : edits.Perm others) (hfits : (edit edits).Fits size bytes) :
    (edit others).Fits size bytes :=
  ⟨hfits.1, fun change hchange => hfits.2 change (hperm.mem_iff.mpr hchange)⟩

/-- Edits that fit are made, and truly reported. -/
theorem apply_edit_of_fits (hdistinct : (edits.map ByteEdit.offset).Nodup)
    (hfits : (edit edits).Fits size bytes) :
    ∃ effect after, (edit edits).apply size bytes = (.ok ⟨size, effect⟩, after) ∧
      ByteEdit.Edited edits bytes after ∧ (effect = .changed ↔ after ≠ bytes) := by
  obtain ⟨hsize, hedits⟩ := hfits
  have hinside : ∀ change ∈ edits, change.offset < bytes.length := by
    intro change hchange
    have hend := (hedits change hchange).2
    omega
  have hall : (edits.all fun change => Buffer.fits size change.offset 1) = true := by
    simpa only [List.all_eq_true, Buffer.fits_iff] using hedits
  obtain ⟨effect, after, hrun, hedited, heffect⟩ :=
    ByteEdit.runSteps_apply hdistinct hinside .unchanged
  refine ⟨effect, after, ?_, hedited, heffect⟩
  rw [apply.eq_def, if_neg (Nat.not_lt.mpr hsize)]
  simp only [if_pos hall, inPlace, hrun, Effect.unchanged_merge]

/-- Edits at distinct offsets act independently: each replaces its own byte if it finds the factory
value there, the effect is exact, the order does not matter, and a second run changes nothing. -/
theorem apply_edit_independent (hdistinct : (edits.map ByteEdit.offset).Nodup)
    (happly : (edit edits).apply size bytes = (.ok patched, after)) :
    ByteEdit.Edited edits bytes after ∧ patched.size = size ∧
      (patched.effect = .changed ↔ after ≠ bytes) ∧
      (∀ others, edits.Perm others →
        (edit others).apply size bytes = (.ok patched, after)) ∧
      (edit edits).apply size after = (.ok ⟨size, .unchanged⟩, after) := by
  have hfits := fits_of_apply_eq_ok happly
  obtain ⟨effect, left, hleft, hedited, heffect⟩ := apply_edit_of_fits hdistinct hfits
  rw [hleft] at happly
  cases happly
  refine ⟨hedited, rfl, heffect, ?_, ?_⟩
  · intro others hperm
    have hothers : (others.map ByteEdit.offset).Nodup := (hperm.map _).nodup_iff.mp hdistinct
    obtain ⟨next, right, hright, hreordered, hnext⟩ :=
      apply_edit_of_fits hothers (hfits.perm hperm)
    obtain rfl : right = after := hreordered.unique (hedited.perm hperm)
    rw [hright, Effect.eq_of_changed_iff (hnext.trans heffect.symm)]
  · have hagain : (edit edits).Fits size after := ⟨hedited.length_eq ▸ hfits.1, hfits.2⟩
    obtain ⟨next, right, hright, hsecond, hnext⟩ := apply_edit_of_fits hdistinct hagain
    obtain rfl : right = after := hsecond.unique hedited.again
    have hunchanged : next = .unchanged := by
      cases next with
      | unchanged => rfl
      | changed => exact absurd rfl (hnext.mp rfl)
    rw [hright, hunchanged]

/-- A drifted byte, an edit that keeps the byte it finds, and one that replaces it. -/
def sampleEdits : List ByteEdit :=
  [⟨1, 0x44, 0x45⟩, ⟨2, 0x81, 0x81⟩, ⟨3, 0x03, 0x02⟩]

/-- One edit that finds what it expects and one that does not, in both orders and again. -/
theorem apply_edit_independent_sampleEdits :
    (sampleEdits.map ByteEdit.offset).Nodup ∧
      (edit sampleEdits).apply 4 [0x09, 0x4A, 0x81, 0x03] =
        (.ok ⟨4, .changed⟩, [0x09, 0x4A, 0x81, 0x02]) ∧
      (edit sampleEdits.reverse).apply 4 [0x09, 0x4A, 0x81, 0x03] =
        (.ok ⟨4, .changed⟩, [0x09, 0x4A, 0x81, 0x02]) ∧
      (edit sampleEdits).apply 4 [0x09, 0x4A, 0x81, 0x02] =
        (.ok ⟨4, .unchanged⟩, [0x09, 0x4A, 0x81, 0x02]) := by
  have hdistinct : (sampleEdits.map ByteEdit.offset).Nodup := by decide
  have happly : (edit sampleEdits).apply 4 [0x09, 0x4A, 0x81, 0x03] =
      (.ok ⟨4, .changed⟩, [0x09, 0x4A, 0x81, 0x02]) := rfl
  obtain ⟨-, -, -, hperm, hagain⟩ := apply_edit_independent hdistinct happly
  exact ⟨hdistinct, happly, hperm _ (List.reverse_perm _).symm, hagain⟩

end HidMend.Patch
