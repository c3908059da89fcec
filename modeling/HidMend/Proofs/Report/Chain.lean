import HidMend.Attachment
import HidMend.Recipe
import HidMend.Proofs.Report.Transform

/-!
# The report chain of an attachment

A recipe has an answer for every report: too short a report passes through, and no transform fails.
So a chain of recipes never stops in between, and it changes a report only where it says so.
-/

namespace HidMend

theorem Recipe.mendReport_rewrite (recipe : Recipe) (report : Bytes) :
    ∃ effect after, recipe.mendReport report = (.ok effect, after) ∧
      Rewrite {offset | ∃ transform ∈ recipe.transforms, offset ∈ transform.writes} effect report
        after := by
  rw [Recipe.mendReport]
  by_cases hshort : report.length < recipe.reportLength
  · rw [if_pos hshort]
    exact ⟨.unchanged, report, rfl, Rewrite.refl _ _ _⟩
  · rw [if_neg hshort]
    exact ⟨_, _, rfl, Transform.applyAll_rewrite recipe.transforms report⟩

namespace Attachment

theorem mendReportWith_rewrite {menders : List Mender}
    (hrecipes : ∀ mender ∈ menders, ∃ recipe : Recipe, mender = recipe.toMender)
    (effect : Effect) (report : Bytes) :
    ∃ next after, mendReportWith menders effect report = (.ok (effect.merge next), after) ∧
      Rewrite Set.univ next report after := by
  induction menders generalizing effect report with
  | nil =>
      refine ⟨.unchanged, report, ?_, Rewrite.refl _ _ _⟩
      rw [mendReportWith, Effect.merge_unchanged]
  | cons mender rest ih =>
      obtain ⟨recipe, rfl⟩ := hrecipes mender List.mem_cons_self
      obtain ⟨first, middle, hmend, hfirst⟩ := recipe.mendReport_rewrite report
      obtain ⟨next, after, hrest, hnext⟩ :=
        ih (fun other hother => hrecipes other (List.mem_cons_of_mem _ hother))
          (effect.merge first) middle
      refine ⟨first.merge next, after, ?_, (hfirst.mono (Set.subset_univ _)).trans hnext⟩
      simp only [mendReportWith, Recipe.toMender, hmend, hrest, Effect.merge_assoc]

/-- A report leaves an attachment of recipes with its length, and unchanged if it is said to be. -/
theorem mendReport_rewrite {attachment : Attachment}
    (hrecipes : ∀ mender ∈ attachment.menders, ∃ recipe : Recipe, mender = recipe.toMender)
    (report : Bytes) :
    ∃ effect after, attachment.mendReport report = (.ok effect, after) ∧
      Rewrite Set.univ effect report after := by
  obtain ⟨effect, after, hmend, hrewrite⟩ := mendReportWith_rewrite hrecipes .unchanged report
  rw [Effect.unchanged_merge] at hmend
  exact ⟨effect, after, hmend, hrewrite⟩

end Attachment

end HidMend
