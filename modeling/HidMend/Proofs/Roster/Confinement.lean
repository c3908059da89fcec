import HidMend.Proofs.Descriptor.Frame
import HidMend.Proofs.Roster.Attach
import Mathlib.Data.List.Basic

/-!
# Sessions are confined to the descriptor

What stands in a buffer behind the descriptor has no influence on a session.  This is a statement
about two runs: on two buffers of one length that hold the same descriptor, the gates answer alike,
and a chain of recipes fails alike or leaves the same descriptor.  A template is the same whatever
it overwrites, and a patch that keeps the length succeeds on the descriptor alone, so that by the
frame rule the bytes behind it only come along.  The lengths of a chain may shrink and grow between
the recipes; each of them finds the same descriptor in both runs.
-/

namespace HidMend

/-- Two buffers of one length hold the same descriptor of `size` bytes. -/
structure SameDescriptor (size : ℕ) (left right : Bytes) : Prop where
  length_eq : left.length = right.length
  size_le : size ≤ left.length
  take_eq : left.take size = right.take size

/-- Two runs fail with the same fault, or they report the same result and leave the same
descriptor. -/
inductive SameOutcome : Except Fault PatchResult × Bytes → Except Fault PatchResult × Bytes → Prop
  | failed (fault : Fault) (left right : Bytes) :
      SameOutcome (.error fault, left) (.error fault, right)
  | mended {patched : PatchResult} {left right : Bytes}
      (hsame : SameDescriptor patched.size left right) :
      SameOutcome (.ok patched, left) (.ok patched, right)

variable {size : ℕ} {left right : Bytes}

namespace SameDescriptor

theorem append (front : Bytes) (hlength : left.length = right.length) :
    SameDescriptor front.length (front ++ left) (front ++ right) where
  length_eq := by simp [hlength]
  size_le := by simp
  take_eq := by simp

theorem exists_append (hsame : SameDescriptor size left right) :
    ∃ front leftBack rightBack : Bytes, front.length = size ∧
      left = front ++ leftBack ∧ right = front ++ rightBack ∧
      leftBack.length = rightBack.length := by
  refine ⟨left.take size, left.drop size, right.drop size, List.length_take_of_le hsame.size_le,
    (List.take_append_drop size left).symm, ?_, by simp [hsame.length_eq]⟩
  rw [hsame.take_eq, List.take_append_drop]

theorem getElem?_eq (hsame : SameDescriptor size left right) {offset : ℕ}
    (hinside : offset < size) : left[offset]? = right[offset]? := by
  rw [← List.getElem?_take_of_lt hinside, hsame.take_eq, List.getElem?_take_of_lt hinside]

end SameDescriptor

/-! ## Patches -/

namespace Patch

variable {patch : Patch}

/-- A patch that keeps the length asks for nothing but the descriptor. -/
theorem fits_append_iff {front : Bytes} (hkeeps : patch.sizeAfter size = size)
    (hfront : front.length = size) (back : Bytes) :
    patch.Fits size (front ++ back) ↔ patch.Fits size front := by
  refine ⟨?_, Fits.append back⟩
  rintro ⟨-, hcontent⟩
  refine ⟨hfront.ge, ?_⟩
  cases patch with
  | replace template => exact hkeeps.trans hfront.symm |>.le
  | edit edits => exact hcontent
  | constantToData change =>
      simpa only [List.take_append_of_le_length hfront.ge] using hcontent

theorem apply_same_of_keeps (hkeeps : patch.sizeAfter size = size)
    (hsame : SameDescriptor size left right) :
    SameOutcome (patch.apply size left) (patch.apply size right) := by
  obtain ⟨front, leftBack, rightBack, hfront, rfl, rfl, hbacks⟩ := hsame.exists_append
  by_cases hfits : patch.Fits size front
  · obtain ⟨effect, after, happly, hrewrite⟩ := apply_of_fits hfits
    have hafter : after.length = patch.sizeAfter size := by
      rw [hrewrite.length_eq, hfront, hkeeps]
    rw [apply_append leftBack hfits, apply_append rightBack hfits, happly]
    exact .mended (hafter ▸ SameDescriptor.append after hbacks)
  · have hfails : ∀ back : Bytes,
        patch.apply size (front ++ back) = (.error .bufferTooSmall, front ++ back) :=
      fun back => apply_of_not_fits (mt (fits_append_iff hkeeps hfront back).mp hfits)
    rw [hfails leftBack, hfails rightBack]
    exact .failed _ _ _

/-- A patch does the same to descriptors that are the same, whatever is behind them. -/
theorem apply_same (patch : Patch) (hsame : SameDescriptor size left right) :
    SameOutcome (patch.apply size left) (patch.apply size right) := by
  cases patch with
  | replace template =>
      have hleft : ¬left.length < size := Nat.not_lt.mpr hsame.size_le
      rw [apply.eq_def, apply.eq_def, ← hsame.length_eq, if_neg hleft, if_neg hleft]
      by_cases hfits : template.length ≤ left.length
      · simp only [if_pos hfits]
        exact .mended (SameDescriptor.append template (by simp [hsame.length_eq]))
      · simp only [if_neg hfits]
        exact .failed _ _ _
  | edit edits => exact apply_same_of_keeps rfl hsame
  | constantToData change => exact apply_same_of_keeps rfl hsame

end Patch

/-! ## Recipes and their chains -/

theorem Recipe.mendDescriptor_same (recipe : Recipe) (hsame : SameDescriptor size left right) :
    SameOutcome (recipe.mendDescriptor size left) (recipe.mendDescriptor size right) := by
  rw [mendDescriptor, mendDescriptor]
  cases recipe.patch with
  | none => exact .mended hsame
  | some patch => exact patch.apply_same hsame

namespace Attachment

theorem chain_same {menders : List Mender} {patched : PatchResult}
    (hrecipes : ∀ mender ∈ menders, ∃ recipe : Recipe, mender = recipe.toMender)
    (hsame : SameDescriptor patched.size left right) :
    SameOutcome (chain menders patched left) (chain menders patched right) := by
  induction menders generalizing patched left right with
  | nil => exact .mended hsame
  | cons mender rest ih =>
      obtain ⟨recipe, rfl⟩ := hrecipes mender List.mem_cons_self
      have hstep : SameOutcome (recipe.toMender.mendDescriptor patched.size left)
          (recipe.toMender.mendDescriptor patched.size right) := recipe.mendDescriptor_same hsame
      rw [chain, chain]
      generalize recipe.toMender.mendDescriptor patched.size left = leftStep at hstep
      generalize recipe.toMender.mendDescriptor patched.size right = rightStep at hstep
      cases hstep with
      | failed fault => exact .failed _ _ _
      | mended hmended =>
          exact ih (fun other hother => hrecipes other (List.mem_cons_of_mem _ hother)) hmended

theorem mendDescriptor_same {attachment : Attachment}
    (hrecipes : ∀ mender ∈ attachment.menders, ∃ recipe : Recipe, mender = recipe.toMender)
    (hsame : SameDescriptor size left right) :
    SameOutcome (attachment.mendDescriptor size left) (attachment.mendDescriptor size right) := by
  have hchain : SameOutcome (chain attachment.menders ⟨size, .unchanged⟩ left)
      (chain attachment.menders ⟨size, .unchanged⟩ right) := chain_same hrecipes hsame
  rw [mendDescriptor, mendDescriptor]
  generalize chain attachment.menders ⟨size, .unchanged⟩ left = leftRun at hchain
  generalize chain attachment.menders ⟨size, .unchanged⟩ right = rightRun at hchain
  cases hchain with
  | failed fault leftAfter rightAfter => split <;> exact .failed _ _ _
  | mended hmended => simpa using .mended hmended

end Attachment

/-! ## Gates and rosters -/

/-- Every guarded byte lies inside the descriptor that the gate expects. -/
def Gate.GuardsInside (gate : Gate) : Prop :=
  ∀ guard ∈ gate.guards, guard.offset < gate.expectedSize

instance (gate : Gate) : Decidable gate.GuardsInside :=
  inferInstanceAs (Decidable (∀ guard ∈ gate.guards, guard.offset < gate.expectedSize))

/-- A gate with its guards inside the descriptor sees nothing behind it. -/
theorem Gate.check_same {gate : Gate} (hinside : gate.GuardsInside)
    (hsame : SameDescriptor size left right) : gate.check size left = gate.check size right := by
  rw [check, check]
  split
  · next hsize =>
      have hguards : ∀ guard ∈ gate.guards, guard.holds left = guard.holds right := by
        intro guard hguard
        rw [GuardedByte.holds, hsame.getElem?_eq (hsize ▸ hinside guard hguard),
          GuardedByte.holds]
      have hall : gate.guards.all (fun guard => guard.holds left) =
          gate.guards.all fun guard => guard.holds right := by
        rw [Bool.eq_iff_iff, List.all_eq_true, List.all_eq_true]
        exact forall₂_congr fun guard hguard => by rw [hguards guard hguard]
      rw [hall]
  · rfl

theorem Catalog.guardsInside : ∀ recipe ∈ Catalog.recipes, recipe.gate.GuardsInside := by
  decide

namespace Roster

variable {recipes : List Recipe} {strict : Bool} {device : DeviceId}

/-- What attaches does not depend on what is behind the descriptor. -/
theorem attach_same (hinside : ∀ recipe ∈ recipes, recipe.gate.GuardsInside)
    (hsame : SameDescriptor size left right) :
    (ofRecipes recipes strict).attach device size left =
      (ofRecipes recipes strict).attach device size right := by
  have hstep : ∀ state, ∀ mender ∈ (ofRecipes recipes strict).claimants device,
      attachStep device size left state mender = attachStep device size right state mender := by
    intro state mender hmender
    obtain ⟨recipe, hrecipe, rfl⟩ := List.mem_map.mp (List.mem_filter.mp hmender).1
    have hcheck := Gate.check_same (hinside recipe hrecipe) hsame
    simp only [attachStep, Recipe.toMender, hcheck]
  rw [attach, attach, List.foldl_ext _ _ _ hstep]

/-- Two buffers that hold the same descriptor attach the same menders, and are mended alike by any
attachment. -/
theorem session_confined (strict : Bool) (device : DeviceId)
    (hinside : ∀ recipe ∈ recipes, recipe.gate.GuardsInside)
    (hsame : SameDescriptor size left right) :
    (ofRecipes recipes strict).attach device size left =
        (ofRecipes recipes strict).attach device size right ∧
      ∀ attachment : Attachment,
        (∀ mender ∈ attachment.menders, ∃ recipe : Recipe, mender = recipe.toMender) →
        SameOutcome (attachment.mendDescriptor size left)
          (attachment.mendDescriptor size right) :=
  ⟨attach_same hinside hsame, fun _ hrecipes => Attachment.mendDescriptor_same hrecipes hsame⟩

/-- What the gate of the pen looks at, and zeros. -/
def penDescriptor : Bytes :=
  List.replicate 17 0 ++ 0x45 :: List.replicate 95 0

/-- The pen attaches whatever byte follows its descriptor, and a chain that shrinks the descriptor
and lets it grow again does not let that byte in. -/
theorem session_confined_pen :
    (∀ recipe ∈ Catalog.recipes, recipe.gate.GuardsInside) ∧
      SameDescriptor 113 (penDescriptor ++ [0xAA]) (penDescriptor ++ [0xBB]) ∧
      (∀ mender ∈ [ArtistPro.recipe.toMender, Attachment.cutter.toMender,
          Attachment.grower.toMender], ∃ recipe : Recipe, mender = recipe.toMender) ∧
      (ofRecipes Catalog.recipes true).attach (.usb 0x28BD 0x095A) 113 (penDescriptor ++ [0xBB]) =
        .ok ⟨.usb 0x28BD 0x095A, [ArtistPro.recipe.toMender]⟩ ∧
      SameOutcome
        ((Attachment.mk (.usb 0x28BD 0x095A) [ArtistPro.recipe.toMender,
          Attachment.cutter.toMender, Attachment.grower.toMender]).mendDescriptor 113
            (penDescriptor ++ [0xAA]))
        ((Attachment.mk (.usb 0x28BD 0x095A) [ArtistPro.recipe.toMender,
          Attachment.cutter.toMender, Attachment.grower.toMender]).mendDescriptor 113
            (penDescriptor ++ [0xBB])) := by
  have hsame : SameDescriptor 113 (penDescriptor ++ [0xAA]) (penDescriptor ++ [0xBB]) :=
    SameDescriptor.append penDescriptor rfl
  have hrecipes : ∀ mender ∈ [ArtistPro.recipe.toMender, Attachment.cutter.toMender,
      Attachment.grower.toMender], ∃ recipe : Recipe, mender = recipe.toMender := by
    simp
  have hattach : (ofRecipes Catalog.recipes true).attach (.usb 0x28BD 0x095A) 113
      (penDescriptor ++ [0xAA]) = .ok ⟨.usb 0x28BD 0x095A, [ArtistPro.recipe.toMender]⟩ := rfl
  obtain ⟨hattached, hmended⟩ :=
    session_confined true (.usb 0x28BD 0x095A) Catalog.guardsInside hsame
  exact ⟨Catalog.guardsInside, hsame, hrecipes, hattached.symm.trans hattach,
    hmended _ hrecipes⟩

end Roster

end HidMend
