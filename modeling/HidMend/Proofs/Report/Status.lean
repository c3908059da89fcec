import HidMend.Proofs.Report.Agreement
import HidMend.Proofs.Report.Chain
import HidMend.Proofs.Report.Coordinate

/-!
# The report entry point

The host hands over a buffer and says how many of its bytes are the report.  A recipe gets to see
these bytes and no others: what lies behind them is neither read nor written, and does not count
towards the length that the recipe asks for.  A transform with a byte behind them does not run, even
if the buffer has that byte.  Whatever happens, the status is 0.
-/

namespace HidMend

namespace Transform

/-- A byte that the transform names lies behind a report of this length. -/
def Overruns (length : ℕ) (transform : Transform) : Prop :=
  ∃ offset ∈ transform.reads ∪ transform.writes, length ≤ offset

/-- The length of the shortest report that holds all fields of a transform. -/
def extent : Transform → ℕ
  | bits fix => fix.offset + 1
  | tilt axis => max (axis.tiltOffset + 1) (axis.coordinateOffset + 2)

variable {transform : Transform} {length : ℕ} {report : Bytes}

/-- A field overruns a report that ends before the field does. -/
theorem overruns_iff_lt_extent : transform.Overruns length ↔ length < transform.extent := by
  cases transform with
  | bits fix =>
      simp only [Overruns, reads, writes, extent, Set.union_self, Set.mem_singleton_iff,
        exists_eq_left]
      exact Nat.lt_succ_iff.symm
  | tilt axis =>
      simp only [Overruns, reads, writes, extent, Set.mem_union, Set.mem_insert_iff,
        Set.mem_singleton_iff, or_and_right, exists_or, exists_eq_left]
      omega

instance (length : ℕ) (transform : Transform) : Decidable (transform.Overruns length) :=
  decidable_of_iff _ overruns_iff_lt_extent.symm

theorem apply_of_overruns (hoverruns : transform.Overruns report.length) :
    transform.apply report = (.unchanged, report) := by
  rw [overruns_iff_lt_extent] at hoverruns
  cases transform with
  | bits fix =>
      exact BitFix.apply_of_getElem?_eq_none (List.getElem?_eq_none (Nat.le_of_lt_succ hoverruns))
  | tilt axis =>
      change axis.apply report = _
      cases htilt : report[axis.tiltOffset]? with
      | none => exact AxisCorrection.apply_of_getElem?_eq_none htilt
      | some tilt =>
          obtain ⟨hinside, -⟩ := List.getElem?_eq_some_iff.mp htilt
          have hshort : report.length < axis.coordinateOffset + 2 := by
            simp only [extent] at hoverruns
            omega
          rw [AxisCorrection.apply_of_getElem? htilt,
            Coordinate.compensateField_of_lt _ _ _ hshort]

/-- A run may leave out the transforms that overrun the report.  No transform changes its length, so
these are the same for all of the run. -/
theorem applyAll_filter_not_overruns (transforms : List Transform)
    (hlength : report.length = length) :
    applyAll (transforms.filter fun transform => ¬transform.Overruns length) report =
      applyAll transforms report := by
  induction transforms generalizing report with
  | nil => rfl
  | cons transform rest ih =>
      by_cases hoverruns : transform.Overruns length
      · have hidle : transform.apply report = (.unchanged, report) :=
          apply_of_overruns (hlength ▸ hoverruns)
        rw [List.filter_cons_of_neg (by simpa using hoverruns), ih hlength, applyAll_cons, hidle,
          Effect.unchanged_merge]
      · have hkept : (transform.apply report).2.length = length :=
          (transform.apply_rewrite report).length_eq.trans hlength
        rw [List.filter_cons_of_pos (by simpa using hoverruns), applyAll_cons, applyAll_cons,
          ih hkept]

end Transform

namespace Recipe

/-- The recipe without the transforms that overrun reports of this length. -/
def within (recipe : Recipe) (length : ℕ) : Recipe :=
  { recipe with
    transforms := recipe.transforms.filter fun transform => ¬transform.Overruns length }

variable {recipe : Recipe} {size : ℕ} {report behind bytes : Bytes}

theorem mendReport_within (recipe : Recipe) (report : Bytes) :
    (recipe.within report.length).mendReport report = recipe.mendReport report := by
  rw [mendReport, mendReport, within, Transform.applyAll_filter_not_overruns _ rfl]

/-! ## The entry point -/

/-- A buffer is too short for the report, or it holds the report and something behind it. -/
theorem length_lt_or_exists_append (size : ℕ) (bytes : Bytes) :
    bytes.length < size ∨ ∃ report behind, report.length = size ∧ bytes = report ++ behind := by
  obtain hshort | hfits := Nat.lt_or_ge bytes.length size
  · exact .inl hshort
  · exact .inr ⟨bytes.take size, bytes.drop size, List.length_take_of_le hfits,
      (List.take_append_drop size bytes).symm⟩

theorem reportStatus_of_length_lt (hshort : bytes.length < size) :
    recipe.toMender.reportStatus size (some bytes) = (0, some bytes) := by
  rw [Mender.reportStatus, if_neg (Nat.not_le.mpr hshort)]

/-- What is behind the report in its buffer is kept and not looked at. -/
theorem reportStatus_append {effect : Effect} {after : Bytes}
    (hmend : recipe.mendReport report = (.ok effect, after)) (behind : Bytes) :
    recipe.toMender.reportStatus report.length (some (report ++ behind)) =
      (0, some (after ++ behind)) := by
  have hfits : report.length ≤ (report ++ behind).length := by simp
  simp only [Mender.reportStatus, if_pos hfits, List.take_left, List.drop_left, toMender, hmend]

/-- What the report entry point of a recipe does where the report has `size` bytes. -/
structure StaysInReport (recipe : Recipe) (size : ℕ) : Prop where
  without_access : recipe.toMender.reportStatus size none = (0, none)
  without_report : ∀ bytes, bytes.length < size →
    recipe.toMender.reportStatus size (some bytes) = (0, some bytes)
  /-- The report is mended as if it were alone, and what lies behind it stays. -/
  mended : ∀ report, report.length = size →
    ∃ effect after, recipe.mendReport report = (.ok effect, after) ∧ after.length = size ∧
      ∀ behind, recipe.toMender.reportStatus size (some (report ++ behind)) =
        (0, some (after ++ behind))
  /-- Bytes behind a report that is too short do not make up for it. -/
  too_short : size < recipe.reportLength → ∀ bytes,
    recipe.toMender.reportStatus size (some bytes) = (0, some bytes)
  /-- A transform with a byte behind the report does not run, whatever the buffer holds there. -/
  overrun : ∀ buffer, (recipe.within size).toMender.reportStatus size buffer =
    recipe.toMender.reportStatus size buffer

/-- The report entry point works on the report that it was told of, and on nothing behind it. -/
theorem reportStatus_stays_in_report (recipe : Recipe) (size : ℕ) :
    StaysInReport recipe size where
  without_access := rfl
  without_report _ hshort := reportStatus_of_length_lt hshort
  mended := by
    rintro report rfl
    obtain ⟨effect, after, hmend, hrewrite⟩ := recipe.mendReport_rewrite report
    exact ⟨effect, after, hmend, hrewrite.length_eq, reportStatus_append hmend⟩
  too_short := by
    intro hlength bytes
    obtain hshort | ⟨report, behind, rfl, rfl⟩ := length_lt_or_exists_append size bytes
    · exact reportStatus_of_length_lt hshort
    · have hmend : recipe.mendReport report = (.ok .unchanged, report) := by
        rw [mendReport, if_pos hlength]
      exact reportStatus_append hmend behind
  overrun := by
    rintro (_ | bytes)
    · rfl
    obtain hshort | ⟨report, behind, rfl, rfl⟩ := length_lt_or_exists_append size bytes
    · rw [reportStatus_of_length_lt hshort, reportStatus_of_length_lt hshort]
    · obtain ⟨effect, after, hmend, -⟩ := recipe.mendReport_rewrite report
      have hwithin := (recipe.mendReport_within report).trans hmend
      rw [reportStatus_append hmend, reportStatus_append hwithin]

/-- A status bit in front, a coordinate behind its tilt, and another status bit at the end. -/
def straddling : Recipe :=
  ⟨"straddling", [], .sizeOnly 0, none, 3,
    [.bits ⟨0, 0x01, 0x02⟩, .tilt ⟨2, 1, ⟨Vector.replicate 128 5⟩, 32767⟩, .bits ⟨4, 0x00, 0xFF⟩]⟩

/-- The coordinate straddles the end of a report of three bytes, and is moved in one of four. -/
theorem reportStatus_stays_in_report_straddling :
    straddling.mendReport [0x01, 0x0A, 0x10] = (.ok .changed, [0x03, 0x0A, 0x10]) ∧
      straddling.toMender.reportStatus 3 (some ([0x01, 0x0A, 0x10] ++ [0x00, 0x55])) =
        (0, some ([0x03, 0x0A, 0x10] ++ [0x00, 0x55])) ∧
      (straddling.within 3).toMender.reportStatus 3 (some [0x01, 0x0A, 0x10, 0x00, 0x55]) =
        (0, some [0x03, 0x0A, 0x10, 0x00, 0x55]) ∧
      straddling.toMender.reportStatus 4 (some ([0x01, 0x0A, 0x10, 0x00] ++ [0x55])) =
        (0, some ([0x03, 0x0A, 0x0B, 0x00] ++ [0x55])) ∧
      straddling.toMender.reportStatus 2 (some [0x01, 0x0A, 0x10, 0x00, 0x55]) =
        (0, some [0x01, 0x0A, 0x10, 0x00, 0x55]) := by
  have hmend : straddling.mendReport [0x01, 0x0A, 0x10] = (.ok .changed, [0x03, 0x0A, 0x10]) := rfl
  have hlonger : straddling.mendReport [0x01, 0x0A, 0x10, 0x00] =
      (.ok .changed, [0x03, 0x0A, 0x0B, 0x00]) := rfl
  have hthree := reportStatus_stays_in_report straddling 3
  obtain ⟨_, after, hthreeMend, -, hbehind⟩ := hthree.mended [0x01, 0x0A, 0x10] rfl
  obtain ⟨-, rfl⟩ := Prod.mk.inj (hmend.symm.trans hthreeMend)
  obtain ⟨_, after, hfourMend, -, hfour⟩ :=
    (reportStatus_stays_in_report straddling 4).mended [0x01, 0x0A, 0x10, 0x00] rfl
  obtain ⟨-, rfl⟩ := Prod.mk.inj (hlonger.symm.trans hfourMend)
  refine ⟨hmend, hbehind _, ?_, hfour _, ?_⟩
  · exact (hthree.overrun _).trans (hbehind [0x00, 0x55])
  · exact (reportStatus_stays_in_report straddling 2).too_short (by decide) _

end Recipe

end HidMend
