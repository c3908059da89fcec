import HidMend.Proofs.Descriptor.Chain
import HidMend.Proofs.Roster.Gates

/-!
# Rosters from settings

The built-in recipes serve devices of different vendors, so under any settings a device has at most
one claimant.  What attaches to it is that claimant alone, if its gate accepts, and an attachment of
one mender does what the mender does.
-/

namespace HidMend

/-- The settings leave a recipe active, and under their strictness it claims the device. -/
def Settings.Assigns (settings : Settings) (recipe : Recipe) (device : DeviceId) : Prop :=
  settings.disables recipe.name = false ∧
    recipe.toMender.claims device settings.strict = true

namespace Catalog

theorem vendor_eq_of_claims {recipe : Recipe} {vendor : UInt16} {device : DeviceId}
    {strict : Bool} (hvendor : ∀ claim ∈ recipe.devices, claim.vendor = vendor)
    (hclaims : recipe.toMender.claims device strict = true) : device.vendor = vendor := by
  obtain ⟨claim, hclaim, hcovers⟩ := List.any_eq_true.mp hclaims
  simp only [DeviceId.covers, Bool.and_eq_true, beq_iff_eq] at hcovers
  rw [← hvendor claim hclaim, hcovers.1.1.2]

/-- No device is claimed by two built-in recipes. -/
theorem recipes_exclusive {device : DeviceId} {strict : Bool} :
    recipes.Pairwise fun left right =>
      ¬(left.toMender.claims device strict = true ∧
        right.toMender.claims device strict = true) := by
  have hpen : ∀ claim ∈ ArtistPro.recipe.devices, claim.vendor = ArtistPro.vendor := by decide
  have hmouse : ∀ claim ∈ Momentum.recipe.devices, claim.vendor = Momentum.vendor := by decide
  have hpair : ¬(ArtistPro.recipe.toMender.claims device strict = true ∧
      Momentum.recipe.toMender.claims device strict = true) := by
    rintro ⟨hleft, hright⟩
    have hvendor : ArtistPro.vendor = Momentum.vendor :=
      (vendor_eq_of_claims hpen hleft).symm.trans (vendor_eq_of_claims hmouse hright)
    exact absurd hvendor (by decide)
  simpa [recipes] using hpair

end Catalog

/-- Of elements that exclude each other a filter keeps no more than one. -/
theorem filter_eq_singleton {α : Type} {keep : α → Bool} {elements : List α} {element : α}
    (hexclusive : elements.Pairwise fun left right => ¬(keep left = true ∧ keep right = true))
    (hmem : element ∈ elements) (hkeep : keep element = true) :
    elements.filter keep = [element] := by
  induction elements with
  | nil => cases hmem
  | cons first rest ih =>
      obtain ⟨hfirst, hrest⟩ := List.pairwise_cons.mp hexclusive
      rcases List.mem_cons.mp hmem with rfl | hlater
      · have hnone : rest.filter keep = [] := by
          rw [List.filter_eq_nil_iff]
          intro other hother hkept
          exact hfirst other hother ⟨hkeep, hkept⟩
        rw [List.filter_cons_of_pos hkeep, hnone]
      · have hskip : ¬keep first = true := fun hkept => hfirst element hlater ⟨hkept, hkeep⟩
        rw [List.filter_cons_of_neg hskip, ih hrest hlater]

namespace Roster

variable {settings : Settings} {roster : Roster} {recipe : Recipe} {device : DeviceId}

theorem eq_of_ofSettings (hroster : ofSettings settings = .ok roster) :
    roster =
      ⟨builtin.menders.filter fun mender => !settings.disables mender.name, settings.strict⟩ := by
  rw [ofSettings] at hroster
  split at hroster
  case h_1 unknown hunknown => cases hroster
  case h_2 hknown =>
    cases hroster
    rfl

/-- The claimants under settings are the recipes that are enabled and claim the device. -/
theorem claimants_ofSettings (hroster : ofSettings settings = .ok roster) (device : DeviceId) :
    roster.claimants device =
      (Catalog.recipes.filter fun recipe =>
        !settings.disables recipe.name &&
          recipe.toMender.claims device settings.strict).map Recipe.toMender := by
  rw [eq_of_ofSettings hroster, claimants, builtin, ofModules, Catalog.menders, List.filter_map,
    List.filter_map, List.filter_filter]
  congr 1
  apply List.filter_congr
  intro recipe _
  rw [Bool.and_comm]
  rfl

theorem claimants_eq_singleton (hroster : ofSettings settings = .ok roster)
    (hrecipe : recipe ∈ Catalog.recipes) (hassigns : settings.Assigns recipe device) :
    roster.claimants device = [recipe.toMender] := by
  rw [claimants_ofSettings hroster, filter_eq_singleton _ hrecipe]
  · rfl
  · rw [hassigns.1, hassigns.2]
    rfl
  · apply Catalog.recipes_exclusive.imp (R := fun left right =>
      ¬(left.toMender.claims device settings.strict = true ∧
        right.toMender.claims device settings.strict = true))
    intro left right hexclusive hboth
    simp only [Bool.and_eq_true] at hboth
    exact hexclusive ⟨hboth.1.2, hboth.2.2⟩

theorem claimants_eq_nil_iff (hroster : ofSettings settings = .ok roster) :
    roster.claimants device = [] ↔
      ∀ recipe ∈ Catalog.recipes, ¬settings.Assigns recipe device := by
  rw [claimants_ofSettings hroster, List.map_eq_nil_iff, List.filter_eq_nil_iff]
  simp only [Settings.Assigns, Bool.and_eq_true, Bool.not_eq_true']

/-- A device has one built-in claimant or none. -/
theorem claimants_cases (hroster : ofSettings settings = .ok roster) (device : DeviceId) :
    roster.claimants device = [] ∨
      ∃ recipe ∈ Catalog.recipes, settings.Assigns recipe device ∧
        roster.claimants device = [recipe.toMender] := by
  by_cases hnone : ∀ recipe ∈ Catalog.recipes, ¬settings.Assigns recipe device
  · exact Or.inl ((claimants_eq_nil_iff hroster).mpr hnone)
  · push Not at hnone
    obtain ⟨recipe, hrecipe, hassigns⟩ := hnone
    exact Or.inr ⟨recipe, hrecipe, hassigns, claimants_eq_singleton hroster hrecipe hassigns⟩

/-! ## One claimant -/

variable {mender : Mender} {size : ℕ} {descriptor : Bytes}

theorem attach_singleton_of_ok (hclaimants : roster.claimants device = [mender])
    (haccepts : mender.accepts size descriptor = .ok ()) :
    roster.attach device size descriptor = .ok ⟨device, [mender]⟩ := by
  rw [attach, hclaimants]
  simp [attachStep, haccepts]

theorem attach_singleton_of_error {reason : Fault}
    (hclaimants : roster.claimants device = [mender])
    (haccepts : mender.accepts size descriptor = .error reason) :
    roster.attach device size descriptor = .error (.declined device mender.name reason) := by
  rw [attach, hclaimants]
  simp [attachStep, haccepts]

end Roster

namespace Attachment

/-- An attachment of one mender patches as the mender does. -/
theorem mendDescriptor_singleton (device : DeviceId) (mender : Mender) (size : ℕ)
    (bytes : Bytes) :
    (Attachment.mk device [mender]).mendDescriptor size bytes =
      mender.mendDescriptor size bytes := by
  cases hmend : mender.mendDescriptor size bytes with
  | mk result after =>
      cases result with
      | ok patched => simp [mendDescriptor, chain, hmend]
      | error fault => simp [mendDescriptor, chain, hmend]

theorem mendReport_singleton (device : DeviceId) (mender : Mender) (report : Bytes) :
    (Attachment.mk device [mender]).mendReport report = mender.mendReport report := by
  cases hmend : mender.mendReport report with
  | mk result after =>
      cases result with
      | ok effect => simp [mendReport, mendReportWith, hmend]
      | error fault => simp [mendReport, mendReportWith, hmend]

end Attachment

end HidMend
