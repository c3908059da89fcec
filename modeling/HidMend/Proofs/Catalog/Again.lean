import HidMend.Proofs.Catalog.ArtistPro
import HidMend.Proofs.Report.Exactness
import HidMend.Proofs.Tilt.Stroke

/-!
# Reports corrected again

A report may come back to the corrections that made it.  A fix that has fired settles if its flip
takes back a bit of its own trigger, since then it does not fire on what it left; a flip that spares
the trigger is undone.  The fix of the eraser settles, and so does the pen as a whole where it is
not tilted: an upright axis only brings a coordinate back to the axis, and an axis out of domain
does nothing.
-/

namespace HidMend

namespace BitFix

/-- The report has the byte of the fix, and every bit of the trigger is set in it. -/
def Fires (fix : BitFix) (report : Bytes) : Prop :=
  ∃ byte, report[fix.offset]? = some byte ∧ byte &&& fix.trigger = fix.trigger

/-- There is nothing to flip, or a bit of the trigger is flipped. -/
def Settles (fix : BitFix) : Prop :=
  fix.flip = 0 ∨ fix.flip &&& fix.trigger ≠ 0

variable {fix : BitFix} {report : Bytes} {byte : UInt8}

/-! ## A byte resolved again -/

/-- A fix that fired fires again if and only if it spares its trigger. -/
theorem resolve_and_trigger_eq_iff (hfires : byte &&& fix.trigger = fix.trigger) :
    fix.resolve byte &&& fix.trigger = fix.trigger ↔ fix.flip &&& fix.trigger = 0 := by
  have hagain := fix.hasAll_resolve_iff byte
  rw [Buffer.hasAll, Buffer.hasAll, beq_iff_eq, beq_iff_eq] at hagain
  rw [hagain]
  exact and_iff_right hfires

/-- A flip that spares the trigger is undone by the second one. -/
theorem resolve_resolve_of_spared (hfires : byte &&& fix.trigger = fix.trigger)
    (hspared : fix.flip &&& fix.trigger = 0) : fix.resolve (fix.resolve byte) = byte :=
  calc
    fix.resolve (fix.resolve byte) = fix.resolve byte ^^^ fix.flip :=
      resolve_of_fires ((resolve_and_trigger_eq_iff hfires).mpr hspared)
    _ = byte ^^^ fix.flip ^^^ fix.flip := by rw [resolve_of_fires hfires]
    _ = byte := by rw [UInt8.xor_assoc, UInt8.xor_self, UInt8.xor_zero]

/-- A fix that meets its trigger does not fire on its own result. -/
theorem resolve_resolve_of_not_spared (hmeets : fix.flip &&& fix.trigger ≠ 0) (byte : UInt8) :
    fix.resolve (fix.resolve byte) = fix.resolve byte := by
  by_cases hfires : byte &&& fix.trigger = fix.trigger
  · exact resolve_of_not_fires fun hagain =>
      hmeets ((resolve_and_trigger_eq_iff hfires).mp hagain)
  · rw [resolve_of_not_fires hfires, resolve_of_not_fires hfires]

/-- A fix that fires leaves its own result alone if and only if it settles. -/
theorem resolve_resolve_eq_iff (hfires : byte &&& fix.trigger = fix.trigger) :
    fix.resolve (fix.resolve byte) = fix.resolve byte ↔ fix.Settles := by
  by_cases hspared : fix.flip &&& fix.trigger = 0
  · -- the second flip leads back to the byte, so the first one has led nowhere if both agree
    have hflip : byte = byte ^^^ fix.flip ↔ fix.flip = 0 := by
      rw [← UInt8.xor_right_inj byte (a := fix.flip), UInt8.xor_zero]
      exact eq_comm
    rw [resolve_resolve_of_spared hfires hspared, resolve_of_fires hfires, hflip, Settles]
    exact (or_iff_left (not_not.mpr hspared)).symm
  · exact iff_of_true (resolve_resolve_of_not_spared hspared byte) (.inr hspared)

/-! ## A report fixed again -/

theorem apply_of_not_fires (hquiet : ¬fix.Fires report) :
    fix.apply report = (.unchanged, report) := by
  cases hbyte : report[fix.offset]? with
  | none => exact apply_of_getElem?_eq_none hbyte
  | some byte =>
      have hkept : fix.resolve byte = byte :=
        resolve_of_not_fires fun hfires => hquiet ⟨byte, hbyte, hfires⟩
      rw [apply_of_getElem? hbyte, hkept, (Buffer.set_eq_self_iff byte hbyte).mpr rfl,
        bne_self_eq_false]
      rfl

theorem apply_apply_of_getElem? (hbyte : report[fix.offset]? = some byte) :
    fix.apply (fix.apply report).2 =
      (Effect.ofBool (fix.resolve (fix.resolve byte) != fix.resolve byte),
        report.set fix.offset (fix.resolve (fix.resolve byte))) := by
  obtain ⟨hinside, -⟩ := List.getElem?_eq_some_iff.mp hbyte
  have hafter : (report.set fix.offset (fix.resolve byte))[fix.offset]? =
      some (fix.resolve byte) := List.getElem?_set_self hinside
  rw [apply_of_getElem? hbyte, apply_of_getElem? hafter, List.set_set]

/-- A second application says that it changed nothing if and only if the fix settles. -/
theorem apply_again_eq_unchanged_iff (hfires : fix.Fires report) :
    (fix.apply (fix.apply report).2).1 = .unchanged ↔ fix.Settles := by
  obtain ⟨byte, hbyte, htrigger⟩ := hfires
  rw [apply_apply_of_getElem? hbyte, Effect.ofBool_eq_unchanged_iff, bne_eq_false_iff_eq]
  exact resolve_resolve_eq_iff htrigger

/-- A fix that does not settle is undone by the second application. -/
theorem apply_again_of_not_settles (hfires : fix.Fires report) (hrestless : ¬fix.Settles) :
    (fix.apply (fix.apply report).2).2 = report := by
  obtain ⟨byte, hbyte, htrigger⟩ := hfires
  obtain ⟨-, hspared⟩ := not_or.mp hrestless
  rw [apply_apply_of_getElem? hbyte,
    resolve_resolve_of_spared htrigger (not_not.mp hspared)]
  exact (Buffer.set_eq_self_iff byte hbyte).mpr rfl

end BitFix

/-- A transform that leaves a report alone does so any number of times. -/
theorem Transform.applyAll_replicate {transform : Transform} {report : Bytes}
    (hkept : transform.apply report = (.unchanged, report)) (count : ℕ) :
    applyAll (List.replicate count transform) report = (.unchanged, report) := by
  induction count with
  | zero => rfl
  | succ count ih =>
      rw [List.replicate_succ, applyAll_cons, hkept, ih]
      rfl

namespace ArtistPro

/-! ## The pen -/

/-- The tilt is none, or it is the one out of domain. -/
def Upright (tilt : UInt8) : Prop :=
  tilt.toInt8.toInt = 0 ∨ tilt.toInt8.toInt = -128

theorem entry_of_upright {table : TiltTable} {tilt : UInt8} (hzero : table.entry 0 = 0)
    (hupright : Upright tilt) : table.entry tilt.toInt8.toInt.natAbs = 0 := by
  obtain htilt | htilt := hupright
  · rw [htilt]
    exact hzero
  · rw [htilt]
    exact table.entry_of_maxAngle_lt (by decide)

namespace PenReport

/-- A report of an upright pen is corrected for good. -/
theorem corrected_corrected {report : PenReport} (hx : Upright report.xTilt)
    (hy : Upright report.yTilt) : report.corrected.corrected = report.corrected := by
  -- a correction writes no tilt, so that each axis meets the tilt of the first one again
  have hstatus : eraserFix.resolve (eraserFix.resolve report.status) =
      eraserFix.resolve report.status :=
    BitFix.resolve_resolve_of_not_spared (by decide) report.status
  have hxAxis : xAxis.corrected (xAxis.corrected report.x report.xTilt) report.xTilt =
      xAxis.corrected report.x report.xTilt :=
    Coordinate.corrected_corrected (entry_of_upright rfl hx) _ _
  have hyAxis : yAxis.corrected (yAxis.corrected report.y report.yTilt) report.yTilt =
      yAxis.corrected report.y report.yTilt :=
    Coordinate.corrected_corrected (entry_of_upright rfl hy) _ _
  exact PenReport.ext rfl hstatus hxAxis hyAxis rfl rfl rfl rfl

/-- A record that is its own correction is left alone. -/
theorem mendReport_of_corrected_eq {report : PenReport} (hcorrected : report.corrected = report) :
    recipe.mendReport report.bytes = (.ok .unchanged, report.bytes) := by
  obtain ⟨effect, hmend, heffect⟩ := report.mendReport_bytes
  rw [hcorrected] at hmend heffect
  cases effect with
  | unchanged => exact hmend
  | changed => exact absurd rfl (heffect.mp rfl)

end PenReport

/-- A fix that does not fire leaves a report alone however often it is applied.  One that fires
settles with its first application if it flips nothing or a bit of its trigger, and is undone by its
second one otherwise.  A report of a pen that is upright or out of domain along each of its axes is
settled by its first correction. -/
theorem corrections_applied_again :
    (∀ (fix : BitFix) (report : Bytes),
      (¬fix.Fires report → ∀ count, Transform.applyAll (List.replicate count (.bits fix)) report =
        (.unchanged, report)) ∧
      (fix.Fires report →
        ((fix.apply (fix.apply report).2).2 = (fix.apply report).2 ↔
          fix.flip = 0 ∨ fix.flip &&& fix.trigger ≠ 0) ∧
        ((fix.apply (fix.apply report).2).1 = .unchanged ↔
          fix.flip = 0 ∨ fix.flip &&& fix.trigger ≠ 0) ∧
        (¬(fix.flip = 0 ∨ fix.flip &&& fix.trigger ≠ 0) →
          (fix.apply (fix.apply report).2).2 = report))) ∧
    ∀ report : Bytes, (∀ tilt, report[xTiltOffset]? = some tilt → Upright tilt) →
      (∀ tilt, report[yTiltOffset]? = some tilt → Upright tilt) →
      ∃ effect after, recipe.mendReport report = (.ok effect, after) ∧
        recipe.mendReport after = (.ok .unchanged, after) := by
  refine ⟨fun fix report => ⟨fun hquiet => ?_, fun hfires => ?_⟩, fun report hx hy => ?_⟩
  · exact Transform.applyAll_replicate (BitFix.apply_of_not_fires hquiet)
  · have heffect := BitFix.apply_again_eq_unchanged_iff hfires
    have hkept := Transform.apply_eq_unchanged_iff (.bits fix) (fix.apply report).2
    exact ⟨hkept.symm.trans heffect, heffect, BitFix.apply_again_of_not_settles hfires⟩
  · by_cases hlong : reportLength ≤ report.length
    · obtain ⟨fields, rfl⟩ := PenReport.exists_bytes_eq hlong
      obtain ⟨effect, hmend, -⟩ := fields.mendReport_bytes
      have hsettled := PenReport.corrected_corrected (hx fields.xTilt rfl) (hy fields.yTilt rfl)
      exact ⟨effect, _, hmend, PenReport.mendReport_of_corrected_eq hsettled⟩
    · have hshort := mendReport_of_lt (Nat.not_le.mp hlong)
      exact ⟨.unchanged, report, hshort, hshort⟩

/-- Switches the barrel over whenever the tip touches. -/
def barrelFix : BitFix :=
  ⟨1, Status.tipSwitch, 0x02⟩

/-- The eraser touches beyond the width of the panel, with one axis upright and the other one out of
domain. -/
def uprightTouch : Bytes :=
  [0x07, 0x29, 0xFF, 0xFF, 0x10, 0x80, 0x00, 0x00, 0x00, 0x80]

/-- One fix that does not fire, one that is undone, one that settles, and the whole correction of an
upright pen. -/
theorem corrections_applied_again_uprightTouch :
    (¬barrelFix.Fires [0x07] ∧
        Transform.applyAll (List.replicate 3 (.bits barrelFix)) [0x07] = (.unchanged, [0x07])) ∧
      (barrelFix.Fires uprightTouch ∧
        (barrelFix.apply (barrelFix.apply uprightTouch).2).2 = uprightTouch) ∧
      (eraserFix.Fires uprightTouch ∧
        (eraserFix.apply (eraserFix.apply uprightTouch).2).1 = .unchanged) ∧
      ∃ effect after, recipe.mendReport uprightTouch = (.ok effect, after) ∧
        recipe.mendReport after = (.ok .unchanged, after) := by
  have hquiet : ¬barrelFix.Fires [0x07] := by
    rintro ⟨byte, hbyte, -⟩
    cases hbyte
  have hbarrel : barrelFix.Fires uprightTouch := ⟨0x29, rfl, rfl⟩
  have heraser : eraserFix.Fires uprightTouch := ⟨0x29, rfl, rfl⟩
  have hx : ∀ tilt, uprightTouch[xTiltOffset]? = some tilt → Upright tilt := by
    rintro tilt ⟨⟩
    exact .inl rfl
  have hy : ∀ tilt, uprightTouch[yTiltOffset]? = some tilt → Upright tilt := by
    rintro tilt ⟨⟩
    exact .inr rfl
  obtain ⟨hfix, hpen⟩ := corrections_applied_again
  obtain ⟨-, -, hundone⟩ := (hfix barrelFix uprightTouch).2 hbarrel
  obtain ⟨-, hsettled, -⟩ := (hfix eraserFix uprightTouch).2 heraser
  exact ⟨⟨hquiet, (hfix barrelFix [0x07]).1 hquiet 3⟩, ⟨hbarrel, hundone (by decide)⟩,
    ⟨heraser, hsettled.mpr (by decide)⟩, hpen uprightTouch hx hy⟩

end ArtistPro

end HidMend
