import HidMend.Proofs.Report.Chain

/-!
# One pipeline for a whole attachment

An attachment of recipes runs over a report twice nested: over the recipes, and inside each of them
over its transforms.  It may as well run once over all transforms in a row.  Too short a report is
passed on by the recipe as a whole; which recipes do so is known from the start, since no transform
changes the length of a report.
-/

namespace HidMend

namespace Transform

@[simp]
theorem length_applyAll (transforms : List Transform) (report : Bytes) :
    (applyAll transforms report).2.length = report.length :=
  (applyAll_rewrite transforms report).length_eq

/-- A run in two parts merges the effects of its parts. -/
theorem applyAll_append (first second : List Transform) (report : Bytes) :
    applyAll (first ++ second) report =
      ((applyAll first report).1.merge (applyAll second (applyAll first report).2).1,
        (applyAll second (applyAll first report).2).2) := by
  induction first generalizing report with
  | nil => simp
  | cons transform rest ih =>
      simp only [List.cons_append, applyAll_cons, ih, Effect.merge_assoc]

end Transform

namespace Recipe

/-- The transforms, in order, of the recipes that look at reports of a length. -/
def pipeline (recipes : List Recipe) (length : ℕ) : List Transform :=
  (recipes.filter fun recipe => recipe.reportLength ≤ length).flatMap Recipe.transforms

variable {recipe : Recipe} {report : Bytes}

@[simp]
theorem pipeline_nil (length : ℕ) : pipeline [] length = [] := rfl

theorem pipeline_cons_of_le {rest : List Recipe} {length : ℕ}
    (hlong : recipe.reportLength ≤ length) :
    pipeline (recipe :: rest) length = recipe.transforms ++ pipeline rest length := by
  simp [pipeline, hlong]

theorem pipeline_cons_of_lt {rest : List Recipe} {length : ℕ}
    (hshort : length < recipe.reportLength) :
    pipeline (recipe :: rest) length = pipeline rest length := by
  simp [pipeline, Nat.not_le.mpr hshort]

end Recipe

namespace Attachment

open Recipe Transform

/-- The chain of recipes is one run.  The induction needs an effect to start from, and the length
of the report, which the first recipe keeps, for the pipeline of the others. -/
theorem mendReportWith_map_toMender (recipes : List Recipe) (effect : Effect) (report : Bytes) :
    mendReportWith (recipes.map Recipe.toMender) effect report =
      (.ok (effect.merge (applyAll (pipeline recipes report.length) report).1),
        (applyAll (pipeline recipes report.length) report).2) := by
  induction recipes generalizing effect report with
  | nil => simp [mendReportWith]
  | cons recipe rest ih =>
      rw [List.map_cons, mendReportWith]
      obtain hshort | hlong := Nat.lt_or_ge report.length recipe.reportLength
      · simp only [toMender, Recipe.mendReport, if_pos hshort]
        rw [ih, pipeline_cons_of_lt hshort, Effect.merge_unchanged]
      · simp only [toMender, Recipe.mendReport, if_neg (Nat.not_lt.mpr hlong)]
        rw [ih, pipeline_cons_of_le hlong, applyAll_append, length_applyAll, Effect.merge_assoc]

/-- An attachment of recipes is the run of its pipeline.  The length from the start also decides
for a recipe behind them whether it looks at what they leave. -/
theorem mendReport_eq_pipeline (device : DeviceId) (recipes : List Recipe) (report : Bytes) :
    ∃ effect after,
      (Attachment.mk device (recipes.map Recipe.toMender)).mendReport report =
          (.ok effect, after) ∧
        applyAll (pipeline recipes report.length) report = (effect, after) ∧
        after.length = report.length ∧
        ∀ next : Recipe, next.mendReport after =
          if report.length < next.reportLength then (.ok .unchanged, after)
          else (.ok (applyAll next.transforms after).1, (applyAll next.transforms after).2) := by
  have hlength := length_applyAll (pipeline recipes report.length) report
  refine ⟨(applyAll (pipeline recipes report.length) report).1,
    (applyAll (pipeline recipes report.length) report).2, ?_, rfl, hlength, fun next => ?_⟩
  · rw [mendReport, mendReportWith_map_toMender, Effect.unchanged_merge]
  · rw [Recipe.mendReport, hlength]

/-- The recipe in the middle wants longer reports, and what it would do is left out. -/
example :
    (Attachment.mk (.usb 1 1)
        ([⟨"first", [], .sizeOnly 0, none, 1, [.bits ⟨0, 0x01, 0x02⟩]⟩,
          ⟨"long", [], .sizeOnly 0, none, 3, [.bits ⟨0, 0x00, 0xFF⟩]⟩,
          ⟨"last", [], .sizeOnly 0, none, 2, [.bits ⟨1, 0x00, 0x80⟩]⟩].map
            Recipe.toMender)).mendReport [0x01, 0x00] = (.ok .changed, [0x03, 0x80]) :=
  rfl

end Attachment

end HidMend
