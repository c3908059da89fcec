import HidMend.Catalog.Builtin
import HidMend.Proofs.Catalog.ArtistPro
import HidMend.Proofs.Roster.Builtin

/-!
# The built-in recipes on reports

A chain may change a byte and change it back, and is still said to change the report.  The built-in
recipes never do: the transforms of the pen write different bytes, and the mouse has no transforms.
-/

namespace HidMend

/-- The attachment has an answer for every report, and says truly whether it changed it. -/
def Attachment.Exact (attachment : Attachment) : Prop :=
  ∀ report, ∃ effect after, attachment.mendReport report = (.ok effect, after) ∧
    (effect = .changed ↔ after ≠ report)

theorem ArtistPro.mendReport_exact (report : Bytes) :
    ∃ effect after, recipe.mendReport report = (.ok effect, after) ∧
      (effect = .changed ↔ after ≠ report) := by
  by_cases hlong : reportLength ≤ report.length
  · obtain ⟨fields, rfl⟩ := PenReport.exists_bytes_eq hlong
    obtain ⟨effect, hmend, heffect⟩ := fields.mendReport_bytes
    exact ⟨effect, _, hmend, heffect.trans PenReport.bytes_injective.ne_iff.symm⟩
  · exact ⟨.unchanged, report, mendReport_of_lt (Nat.not_le.mp hlong), by simp⟩

theorem Momentum.mendReport_exact (report : Bytes) :
    ∃ effect after, recipe.mendReport report = (.ok effect, after) ∧
      (effect = .changed ↔ after ≠ report) :=
  ⟨.unchanged, report, rfl, by simp⟩

namespace Roster

variable {settings : Settings} {roster : Roster} {device : DeviceId} {attachment : Attachment}

theorem attachUnchecked_singleton {mender : Mender}
    (hclaimants : roster.claimants device = [mender]) :
    roster.attachUnchecked device = .ok ⟨device, [mender]⟩ := by
  rw [attachUnchecked, hclaimants]

/-- The built-in menders say truly what they changed, under any settings. -/
theorem exact_of_attachUnchecked (hroster : ofSettings settings = .ok roster)
    (hattach : roster.attachUnchecked device = .ok attachment) : attachment.Exact := by
  obtain hnone | ⟨recipe, hrecipe, -, hclaimants⟩ := claimants_cases hroster device
  · rw [attachUnchecked, hnone] at hattach
    cases hattach
  · rw [attachUnchecked_singleton hclaimants] at hattach
    cases hattach
    intro report
    rw [Attachment.mendReport_singleton]
    obtain rfl | rfl : recipe = ArtistPro.recipe ∨ recipe = Momentum.recipe := by
      simpa [Catalog.recipes] using hrecipe
    · exact ArtistPro.mendReport_exact report
    · exact Momentum.mendReport_exact report

end Roster

end HidMend
