import HidMend.Proofs.Catalog.Descriptor
import HidMend.Proofs.Roster.Builtin

/-!
# No device is mended twice

A device may be attached again after its descriptor was mended, with the length that mending
reported or with the one from before.  The pen replaces its whole descriptor, and the new one lacks
the byte that its gate guards, so the gate refuses.  The mouse guards the length alone and lets the
device in again; there the change finds no constant item left and has no effect.
-/

namespace HidMend

/-- A recipe mends every descriptor that it accepts, and afterwards refuses it or has no effect on
it. -/
def Recipe.Settles (recipe : Recipe) : Prop :=
  ∀ size bytes, size ≤ bytes.length → recipe.gate.check size bytes = .ok () →
    ∃ patched after, recipe.mendDescriptor size bytes = (.ok patched, after) ∧
      ∀ again, again = patched.size ∨ again = size →
        (∃ reason, recipe.gate.check again after = .error reason) ∨
          recipe.mendDescriptor again after = (.ok ⟨again, .unchanged⟩, after)

theorem ArtistPro.settles : ArtistPro.recipe.Settles := by
  intro size bytes hsize hcheck
  obtain ⟨rfl, -⟩ := gate_check_eq_ok_iff.mp hcheck
  refine ⟨_, _, mendDescriptor_eq hsize, fun again _ => Or.inl ?_⟩
  apply Gate.exists_check_eq_error
  rw [gate_check_eq_ok_iff]
  rintro ⟨-, hguard⟩
  rw [List.getElem?_append_left (by rw [length_fixedDescriptor]; omega)] at hguard
  exact absurd hguard (by decide)

theorem Momentum.settles : Momentum.recipe.Settles := by
  intro size bytes hsize hcheck
  obtain rfl := gate_check_eq_ok_iff.mp hcheck
  obtain ⟨effect, after, happly, -⟩ := Patch.apply_of_fits (change_fits hsize)
  obtain ⟨hsame, hagain⟩ := Patch.apply_constantToData_again happly
  refine ⟨_, after, happly, ?_⟩
  rintro again (rfl | rfl)
  · exact Or.inr (hsame.symm ▸ hagain)
  · exact Or.inr hagain

theorem Catalog.settles {recipe : Recipe} (hrecipe : recipe ∈ Catalog.recipes) :
    recipe.Settles := by
  simp only [recipes, List.mem_cons, List.not_mem_nil, or_false] at hrecipe
  rcases hrecipe with rfl | rfl
  · exact ArtistPro.settles
  · exact Momentum.settles

namespace Roster

/-- Whatever attaches mends the descriptor, and a second session on what it left is declined or
changes nothing. -/
theorem attach_again_harmless {settings : Settings} {roster : Roster} {device : DeviceId}
    {size : ℕ} {bytes : Bytes} {attachment : Attachment}
    (hroster : ofSettings settings = .ok roster) (hsize : size ≤ bytes.length)
    (hattach : roster.attach device size bytes = .ok attachment) :
    ∃ patched after, attachment.mendDescriptor size bytes = (.ok patched, after) ∧
      ∀ again, again = patched.size ∨ again = size →
        (∃ name reason,
          roster.attach device again after = .error (.declined device name reason)) ∨
        ∃ second, roster.attach device again after = .ok second ∧
          second.mendDescriptor again after = (.ok ⟨again, .unchanged⟩, after) := by
  obtain hnone | ⟨recipe, hrecipe, -, hclaimants⟩ := claimants_cases hroster device
  · rw [attach_of_claimants_eq_nil hnone] at hattach
    cases hattach
  cases hcheck : recipe.gate.check size bytes with
  | error reason =>
      rw [attach_singleton_of_error hclaimants hcheck] at hattach
      cases hattach
  | ok _ =>
      rw [attach_singleton_of_ok hclaimants hcheck] at hattach
      cases hattach
      obtain ⟨patched, after, hmend, hsettled⟩ :=
        Catalog.settles hrecipe size bytes hsize hcheck
      refine ⟨patched, after, (Attachment.mendDescriptor_singleton _ _ _ _).trans hmend, ?_⟩
      intro again hagain
      cases hsecond : recipe.gate.check again after with
      | error reason =>
          exact Or.inl ⟨recipe.name, reason, attach_singleton_of_error hclaimants hsecond⟩
      | ok _ =>
          obtain ⟨reason, hrefused⟩ | hunchanged := hsettled again hagain
          · rw [hrefused] at hsecond
            cases hsecond
          · exact Or.inr ⟨⟨device, [recipe.toMender]⟩, attach_singleton_of_ok hclaimants hsecond,
              (Attachment.mendDescriptor_singleton _ _ _ _).trans hunchanged⟩

/-- A descriptor of the mouse in the affected layout, with one constant item. -/
def affectedLayout : Bytes :=
  [0x05, 0x01, 0x09, 0x06] ++ List.replicate 80 0 ++ [0x81, 0x03] ++ List.replicate 127 0

/-- The mouse is let in a second time. -/
theorem attach_again_harmless_affectedLayout :
    ofSettings .default = .ok builtin ∧ 213 ≤ affectedLayout.length ∧
      builtin.attach (.usb 0x258A 0x0027) 213 affectedLayout =
        .ok ⟨.usb 0x258A 0x0027, [Momentum.recipe.toMender]⟩ ∧
      ∃ patched after,
        (Attachment.mk (.usb 0x258A 0x0027) [Momentum.recipe.toMender]).mendDescriptor 213
            affectedLayout = (.ok patched, after) ∧
          ∀ again, again = patched.size ∨ again = 213 →
            (∃ name reason, builtin.attach (.usb 0x258A 0x0027) again after =
              .error (.declined (.usb 0x258A 0x0027) name reason)) ∨
            ∃ second, builtin.attach (.usb 0x258A 0x0027) again after = .ok second ∧
              second.mendDescriptor again after = (.ok ⟨again, .unchanged⟩, after) := by
  have hroster : ofSettings .default = .ok builtin := rfl
  have hsize : 213 ≤ affectedLayout.length := Nat.le_of_eq rfl
  have hattach : builtin.attach (.usb 0x258A 0x0027) 213 affectedLayout =
      .ok ⟨.usb 0x258A 0x0027, [Momentum.recipe.toMender]⟩ := rfl
  exact ⟨hroster, hsize, hattach, attach_again_harmless hroster hsize hattach⟩

end Roster

end HidMend
