import HidMend.Catalog.ArtistPro
import HidMend.Proofs.Report.Transform

/-!
# Reports of the Artist Pro

A report of at least ten bytes is a record of fields followed by bytes that no transform reads.  On
this record the three transforms are one update: the status is resolved by itself, and each
coordinate is shifted by its own tilt.  The law of the recipe is this update read back from the
bytes, for reports of any length and content.
-/

namespace HidMend.ArtistPro

def eraserFix : BitFix :=
  ⟨statusOffset, eraserTouch, eraserTouchFlip⟩

def xAxis : AxisCorrection :=
  ⟨xOffset, xTiltOffset, horizontal, Coordinate.logicalMaximum⟩

def yAxis : AxisCorrection :=
  ⟨yOffset, yTiltOffset, vertical, Coordinate.logicalMaximum⟩

theorem transforms_eq : transforms = [.bits eraserFix, .tilt xAxis, .tilt yAxis] := rfl

/-- The fields of a report in their order, and whatever follows them. -/
@[ext]
structure PenReport where
  number : UInt8
  status : UInt8
  x : UInt16
  y : UInt16
  pressure : UInt16
  xTilt : UInt8
  yTilt : UInt8
  rest : Bytes

namespace PenReport

def bytes (report : PenReport) : Bytes :=
  [report.number, report.status, Buffer.lowByte report.x, Buffer.highByte report.x,
    Buffer.lowByte report.y, Buffer.highByte report.y, Buffer.lowByte report.pressure,
    Buffer.highByte report.pressure, report.xTilt, report.yTilt] ++ report.rest

theorem bytes_injective : Function.Injective bytes := by
  intro left right hbytes
  simp only [bytes, List.cons_append, List.nil_append, List.cons.injEq] at hbytes
  obtain ⟨hnumber, hstatus, hxLow, hxHigh, hyLow, hyHigh, hpressureLow, hpressureHigh, hxTilt,
    hyTilt, hrest⟩ := hbytes
  have hx : left.x = right.x := by
    rw [← Buffer.wordOf_lowByte_highByte right.x]
    exact Buffer.eq_wordOf_iff.mpr ⟨hxLow, hxHigh⟩
  have hy : left.y = right.y := by
    rw [← Buffer.wordOf_lowByte_highByte right.y]
    exact Buffer.eq_wordOf_iff.mpr ⟨hyLow, hyHigh⟩
  have hpressure : left.pressure = right.pressure := by
    rw [← Buffer.wordOf_lowByte_highByte right.pressure]
    exact Buffer.eq_wordOf_iff.mpr ⟨hpressureLow, hpressureHigh⟩
  exact PenReport.ext hnumber hstatus hx hy hpressure hxTilt hyTilt hrest

/-- Ten bytes are enough for all fields. -/
theorem exists_bytes_eq {report : Bytes} (hlong : reportLength ≤ report.length) :
    ∃ fields : PenReport, fields.bytes = report := by
  match report, hlong with
  | number :: status :: xLow :: xHigh :: yLow :: yHigh :: pressureLow :: pressureHigh :: xTilt ::
      yTilt :: rest, _ =>
      refine ⟨⟨number, status, Buffer.wordOf xLow xHigh, Buffer.wordOf yLow yHigh,
        Buffer.wordOf pressureLow pressureHigh, xTilt, yTilt, rest⟩, ?_⟩
      simp only [bytes, Buffer.lowByte_wordOf, Buffer.highByte_wordOf, List.cons_append,
        List.nil_append]

theorem reportLength_le_bytes (report : PenReport) : reportLength ≤ report.bytes.length := by
  simp only [bytes, reportLength, List.length_append, List.length_cons, List.length_nil]
  omega

/-- The record that the three transforms leave. -/
def corrected (report : PenReport) : PenReport :=
  { report with
    status := eraserFix.resolve report.status
    x := xAxis.corrected report.x report.xTilt
    y := yAxis.corrected report.y report.yTilt }

/-! ## The transforms on the record -/

theorem eraserFix_apply (report : PenReport) :
    eraserFix.apply report.bytes =
      (Effect.ofBool (report.corrected.status != report.status),
        { report with status := report.corrected.status }.bytes) := by
  have hstatus : report.bytes[eraserFix.offset]? = some report.status := rfl
  rw [BitFix.apply_of_getElem? hstatus]
  rfl

theorem xAxis_apply (report : PenReport) :
    xAxis.apply report.bytes =
      (Effect.ofBool (report.corrected.x != report.x),
        { report with x := report.corrected.x }.bytes) := by
  have hlow : report.bytes[xAxis.coordinateOffset]? = some (Buffer.lowByte report.x) := rfl
  have hhigh : report.bytes[xAxis.coordinateOffset + 1]? = some (Buffer.highByte report.x) := rfl
  have htilt : report.bytes[xAxis.tiltOffset]? = some report.xTilt := rfl
  rw [AxisCorrection.apply_of_fields (by decide) hlow hhigh htilt]
  rfl

theorem yAxis_apply (report : PenReport) :
    yAxis.apply report.bytes =
      (Effect.ofBool (report.corrected.y != report.y),
        { report with y := report.corrected.y }.bytes) := by
  have hlow : report.bytes[yAxis.coordinateOffset]? = some (Buffer.lowByte report.y) := rfl
  have hhigh : report.bytes[yAxis.coordinateOffset + 1]? = some (Buffer.highByte report.y) := rfl
  have htilt : report.bytes[yAxis.tiltOffset]? = some report.yTilt := rfl
  rw [AxisCorrection.apply_of_fields (by decide) hlow hhigh htilt]
  rfl

/-- No transform reads what another one writes, so the run is the update of the record. -/
theorem applyAll_transforms (report : PenReport) :
    Transform.applyAll transforms report.bytes =
      ((Effect.ofBool (report.corrected.status != report.status)).merge
          ((Effect.ofBool (report.corrected.x != report.x)).merge
            (Effect.ofBool (report.corrected.y != report.y))),
        report.corrected.bytes) := by
  have hx : xAxis.apply { report with status := report.corrected.status }.bytes =
      (Effect.ofBool (report.corrected.x != report.x),
        { report with status := report.corrected.status, x := report.corrected.x }.bytes) :=
    xAxis_apply _
  have hy : yAxis.apply
        { report with status := report.corrected.status, x := report.corrected.x }.bytes =
      (Effect.ofBool (report.corrected.y != report.y), report.corrected.bytes) :=
    yAxis_apply _
  simp only [transforms_eq, Transform.applyAll_cons, Transform.applyAll_nil, Transform.apply,
    eraserFix_apply, hx, hy, Effect.merge_unchanged]

theorem corrected_ne_iff (report : PenReport) :
    report.corrected ≠ report ↔
      report.corrected.status ≠ report.status ∨ report.corrected.x ≠ report.x ∨
        report.corrected.y ≠ report.y := by
  rw [Ne, PenReport.ext_iff]
  simp only [corrected, and_true, true_and]
  tauto

/-- On its fields the recipe is the correction, and it says truly whether there was one. -/
theorem mendReport_bytes (report : PenReport) :
    ∃ effect, recipe.mendReport report.bytes = (.ok effect, report.corrected.bytes) ∧
      (effect = .changed ↔ report.corrected ≠ report) := by
  have hlong : ¬report.bytes.length < recipe.reportLength :=
    Nat.not_lt.mpr report.reportLength_le_bytes
  rw [Recipe.mendReport, if_neg hlong, show recipe.transforms = transforms from rfl,
    applyAll_transforms]
  refine ⟨_, rfl, ?_⟩
  simp only [Effect.merge_eq_changed_iff, Effect.ofBool_eq_changed_iff, bne_iff_ne,
    corrected_ne_iff]

end PenReport

/-! ## The law on bytes -/

/-- A report that is too short for its fields passes through. -/
theorem mendReport_of_lt {report : Bytes} (hshort : report.length < reportLength) :
    recipe.mendReport report = (.ok .unchanged, report) := by
  have hpasses : report.length < recipe.reportLength := hshort
  rw [Recipe.mendReport, if_pos hpasses]

/-- The little-endian word at an offset of a report, as an integer. -/
def wordAt (report : Bytes) (offset : ℕ) : ℤ :=
  (report.getD offset 0).toNat + 256 * (report.getD (offset + 1) 0).toNat

/-- The tilt at an offset of a report, in signed degrees. -/
def tiltAt (report : Bytes) (offset : ℕ) : ℤ :=
  (report.getD offset 0).toInt8.toInt

/-- What a report of at least ten bytes becomes, field by field and otherwise byte by byte. -/
structure Corrected (report after : Bytes) : Prop where
  length_eq : after.length = report.length
  status_eq : after.getD 1 0 =
    if report.getD 1 0 &&& 0x29 = 0x29 then report.getD 1 0 ^^^ 0x19 else report.getD 1 0
  x_eq : wordAt after 2 = clampedShift horizontal 32767 (tiltAt report 8) (wordAt report 2)
  y_eq : wordAt after 4 = clampedShift vertical 32767 (tiltAt report 9) (wordAt report 4)
  getElem?_eq : ∀ offset, offset < 1 ∨ 5 < offset → after[offset]? = report[offset]?

theorem toNat_lowByte_add_highByte (word : UInt16) :
    ((Buffer.lowByte word).toNat + 256 * (Buffer.highByte word).toNat : ℤ) = word.toNat := by
  rw [Buffer.toNat_lowByte, Buffer.toNat_highByte]
  omega

/-- The eraser fix in the numbers of the report format. -/
theorem eraserFix_resolve (status : UInt8) :
    eraserFix.resolve status = if status &&& 0x29 = 0x29 then status ^^^ 0x19 else status := by
  have htrigger : eraserFix.trigger = 0x29 := by decide
  have hflip : eraserFix.flip = 0x19 := by decide
  simp only [BitFix.resolve, Buffer.hasAll, htrigger, hflip, beq_iff_eq]

/-- The corrected fields are the corrected bytes. -/
theorem corrected_bytes (report : PenReport) : Corrected report.bytes report.corrected.bytes where
  length_eq := by simp only [PenReport.bytes, PenReport.corrected, List.length_append,
    List.length_cons]
  status_eq := eraserFix_resolve report.status
  x_eq := by
    have hcorrected : wordAt report.corrected.bytes 2 = report.corrected.x.toNat :=
      toNat_lowByte_add_highByte _
    have hx : wordAt report.bytes 2 = report.x.toNat := toNat_lowByte_add_highByte _
    rw [hcorrected, hx]
    exact Coordinate.toInt_corrected _ _ _ _
  y_eq := by
    have hcorrected : wordAt report.corrected.bytes 4 = report.corrected.y.toNat :=
      toNat_lowByte_add_highByte _
    have hy : wordAt report.bytes 4 = report.y.toNat := toNat_lowByte_add_highByte _
    rw [hcorrected, hy]
    exact Coordinate.toInt_corrected _ _ _ _
  getElem?_eq offset houtside := by
    rcases houtside with hbefore | hbehind
    · rw [Nat.lt_one_iff.mp hbefore]
      rfl
    · obtain ⟨behind, rfl⟩ := Nat.exists_eq_add_of_le' hbehind
      rfl

namespace Corrected

variable {report after : Bytes}

/-- The flip clears two bits of the trigger, so tip, invert and in range never remain together. -/
theorem status_and_ne (hcorrected : Corrected report after) : after.getD 1 0 &&& 0x29 ≠ 0x29 := by
  intro htouch
  have htrigger : eraserFix.trigger = 0x29 := by decide
  have hfires : Buffer.hasAll (eraserFix.resolve (report.getD 1 0)) eraserFix.trigger = true := by
    rw [eraserFix_resolve, ← hcorrected.status_eq, Buffer.hasAll, htrigger, htouch]
    rfl
  have hspared := (eraserFix.hasAll_resolve_iff _).mp hfires
  exact absurd hspared.2 (by decide)

/-- A coordinate on the axis stays there. -/
theorem x_le (hcorrected : Corrected report after) (hx : wordAt report 2 ≤ 32767) :
    wordAt after 2 ≤ 32767 := by
  rw [hcorrected.x_eq]
  exact clampedShift_le _ (by decide) hx

theorem y_le (hcorrected : Corrected report after) (hy : wordAt report 4 ≤ 32767) :
    wordAt after 4 ≤ 32767 := by
  rw [hcorrected.y_eq]
  exact clampedShift_le _ (by decide) hy

end Corrected

/-- Every report is corrected: a short one stays, a longer one follows the law, and the effect says
whether a byte differs.  Neither the ambiguous combination of bits nor a coordinate beyond the axis
comes out of a correction. -/
theorem mendReport_corrects (report : Bytes) :
    ∃ effect after, recipe.mendReport report = (.ok effect, after) ∧
      (effect = .changed ↔ after ≠ report) ∧
      (report.length < 10 → effect = .unchanged ∧ after = report) ∧
      (10 ≤ report.length → Corrected report after) ∧
      (10 ≤ after.length → after.getD 1 0 &&& 0x29 ≠ 0x29) ∧
      (10 ≤ report.length → wordAt report 2 ≤ 32767 → wordAt after 2 ≤ 32767) ∧
      (10 ≤ report.length → wordAt report 4 ≤ 32767 → wordAt after 4 ≤ 32767) := by
  by_cases hlong : 10 ≤ report.length
  · obtain ⟨fields, rfl⟩ := PenReport.exists_bytes_eq hlong
    obtain ⟨effect, hmend, heffect⟩ := fields.mendReport_bytes
    have hcorrected := corrected_bytes fields
    refine ⟨effect, fields.corrected.bytes, hmend, ?_, ?_, fun _ => hcorrected,
      fun _ => hcorrected.status_and_ne, fun _ => hcorrected.x_le, fun _ => hcorrected.y_le⟩
    · rw [heffect]
      exact PenReport.bytes_injective.ne_iff.symm
    · intro hshort
      exact absurd hlong (Nat.not_le.mpr hshort)
  · have hshort : report.length < recipe.reportLength := Nat.not_le.mp hlong
    refine ⟨.unchanged, report, ?_, ?_, fun _ => ⟨rfl, rfl⟩, ?_, ?_, ?_, ?_⟩
    · rw [Recipe.mendReport, if_pos hshort]
    · simp
    all_goals
      intro hlength
      exact absurd hlength hlong

/-- The eraser touches near the left edge; a tilt of ten degrees takes the pen to the edge, and a
tilt of -128 degrees leaves the other coordinate. -/
example :
    recipe.mendReport [0x07, 0x29, 0x10, 0x00, 0xFF, 0xFF, 0x00, 0x00, 0x0A, 0x80] =
      (.ok .changed, [0x07, 0x30, 0x00, 0x00, 0xFF, 0xFF, 0x00, 0x00, 0x0A, 0x80]) := by
  rfl

end HidMend.ArtistPro
