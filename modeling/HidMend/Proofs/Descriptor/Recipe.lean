import HidMend.Recipe
import HidMend.Proofs.Descriptor.Patch

/-!
# Descriptors mended by a recipe

A recipe either reports that its content does not fit and leaves the buffer alone, or it succeeds
and writes inside the descriptor that it leaves.  A length that fits the buffer stays one that fits,
and a changed descriptor always fits.
-/

namespace HidMend.Recipe

/-- What a recipe promises of a descriptor of `size` bytes that it has mended. -/
structure Mended (size : ℕ) (patched : PatchResult) (before after : Bytes) : Prop where
  rewrite : Rewrite {offset | offset < patched.size} patched.effect before after
  size_le : size ≤ before.length → patched.size ≤ before.length
  size_le_of_changed : patched.effect = .changed → patched.size ≤ before.length

variable {recipe : Recipe} {size : ℕ} {before after : Bytes}

/-- A recipe fails with one fault and an untouched buffer, or it mends. -/
theorem mendDescriptor_cases (recipe : Recipe) (size : ℕ) (bytes : Bytes) :
    recipe.mendDescriptor size bytes = (.error .bufferTooSmall, bytes) ∨
      ∃ patched after, recipe.mendDescriptor size bytes = (.ok patched, after) ∧
        Mended size patched bytes after := by
  rw [mendDescriptor]
  cases recipe.patch with
  | none =>
      refine Or.inr ⟨⟨size, .unchanged⟩, bytes, rfl, ?_⟩
      exact ⟨Rewrite.refl _ _ _, id, fun hchanged => by cases hchanged⟩
  | some patch =>
      by_cases hfits : patch.Fits size bytes
      · obtain ⟨effect, after, happly, hrewrite⟩ := Patch.apply_of_fits hfits
        have hsize : patch.sizeAfter size ≤ bytes.length := Patch.sizeAfter_le hfits
        refine Or.inr ⟨⟨patch.sizeAfter size, effect⟩, after, happly, ?_⟩
        exact ⟨hrewrite.mono (patch.touched_subset size), fun _ => hsize, fun _ => hsize⟩
      · exact Or.inl (Patch.apply_of_not_fits hfits)

theorem eq_of_mendDescriptor_error {fault : Fault}
    (hmend : recipe.mendDescriptor size before = (.error fault, after)) :
    fault = .bufferTooSmall ∧ after = before := by
  obtain hfailed | ⟨patched, buffer, hmended, -⟩ := mendDescriptor_cases recipe size before
  · rw [hfailed] at hmend
    cases hmend
    exact ⟨rfl, rfl⟩
  · rw [hmended] at hmend
    cases hmend

theorem mended_of_mendDescriptor_ok {patched : PatchResult}
    (hmend : recipe.mendDescriptor size before = (.ok patched, after)) :
    Mended size patched before after := by
  obtain hfailed | ⟨result, buffer, hmended, hresult⟩ := mendDescriptor_cases recipe size before
  · rw [hfailed] at hmend
    cases hmend
  · rw [hmended] at hmend
    cases hmend
    exact hresult

end HidMend.Recipe
