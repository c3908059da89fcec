import HidMend.Report.Transform
import HidMend.Proofs.Tilt.Compensation

/-!
# Report transforms in closed form

Where its fields lie inside the report, a transform writes back a function of the bytes it reads and
reports whether that function moved them; elsewhere it leaves the report alone.  Either way it
writes inside its write set only, and so does a run of transforms inside the union of theirs.
-/

namespace HidMend

namespace BitFix

/-- What a fix leaves in place of the byte it finds. -/
def resolve (fix : BitFix) (byte : UInt8) : UInt8 :=
  if Buffer.hasAll byte fix.trigger then byte ^^^ fix.flip else byte

theorem resolve_of_fires {fix : BitFix} {byte : UInt8}
    (hfires : byte &&& fix.trigger = fix.trigger) : fix.resolve byte = byte ^^^ fix.flip := by
  have hall : Buffer.hasAll byte fix.trigger = true := by rwa [Buffer.hasAll, beq_iff_eq]
  rw [resolve, if_pos hall]

theorem resolve_of_not_fires {fix : BitFix} {byte : UInt8}
    (hquiet : byte &&& fix.trigger ≠ fix.trigger) : fix.resolve byte = byte := by
  have hall : ¬Buffer.hasAll byte fix.trigger = true := by rwa [Buffer.hasAll, beq_iff_eq]
  rw [resolve, if_neg hall]

theorem apply_of_getElem? {fix : BitFix} {report : Bytes} {byte : UInt8}
    (hbyte : report[fix.offset]? = some byte) :
    fix.apply report =
      (Effect.ofBool (fix.resolve byte != byte), report.set fix.offset (fix.resolve byte)) := by
  have hread := Buffer.readByte_eq_ok_iff.mpr hbyte
  rw [apply, hread]
  by_cases hfires : Buffer.hasAll byte fix.trigger = true
  · simp only [resolve, if_pos hfires, Buffer.xorByte, hread,
      Buffer.writeByte_of_getElem? (byte ^^^ fix.flip) hbyte]
  · obtain ⟨hinside, rfl⟩ := List.getElem?_eq_some_iff.mp hbyte
    simp [resolve, if_neg hfires, Effect.ofBool]

theorem apply_of_getElem?_eq_none {fix : BitFix} {report : Bytes}
    (hbyte : report[fix.offset]? = none) : fix.apply report = (.unchanged, report) := by
  rw [apply, Buffer.readByte_eq_error (List.getElem?_eq_none_iff.mp hbyte)]

theorem apply_rewrite (fix : BitFix) (report : Bytes) :
    Rewrite {fix.offset} (fix.apply report).1 report (fix.apply report).2 := by
  cases hbyte : report[fix.offset]? with
  | none =>
      rw [apply_of_getElem?_eq_none hbyte]
      exact Rewrite.refl _ _ _
  | some byte =>
      rw [apply_of_getElem? hbyte]
      exact Rewrite.set _ hbyte rfl

theorem xor_and_eq (byte flip mask : UInt8) :
    (byte ^^^ flip) &&& mask = (byte &&& mask) ^^^ (flip &&& mask) := by
  apply UInt8.toNat.inj
  simp only [UInt8.toNat_and, UInt8.toNat_xor, Nat.and_xor_distrib_right]

/-- A resolved byte sets off the fix once more only where the flip spares the trigger. -/
theorem hasAll_resolve_iff (fix : BitFix) (byte : UInt8) :
    Buffer.hasAll (fix.resolve byte) fix.trigger = true ↔
      Buffer.hasAll byte fix.trigger = true ∧ fix.flip &&& fix.trigger = 0 := by
  by_cases hfires : Buffer.hasAll byte fix.trigger = true
  · have hbyte : byte &&& fix.trigger = fix.trigger := by
      simpa [Buffer.hasAll] using hfires
    rw [resolve, if_pos hfires, Buffer.hasAll, xor_and_eq, hbyte, beq_iff_eq]
    constructor
    · intro hspared
      refine ⟨hfires, ?_⟩
      rw [← UInt8.xor_right_inj fix.trigger, hspared, UInt8.xor_zero]
    · rintro ⟨_, hspared⟩
      rw [hspared, UInt8.xor_zero]
  · simp [resolve, hfires]

end BitFix

section Compensation

variable {report : Bytes} {offset : ℕ} {table : TiltTable} {maximum : UInt16}

theorem compensateField_of_getElem? {low high : UInt8} (tilt : Int8)
    (haddress : offset + 2 < Buffer.addressLimit) (hlow : report[offset]? = some low)
    (hhigh : report[offset + 1]? = some high) :
    compensateField report offset tilt table maximum =
      (Effect.ofBool
          (Coordinate.corrected (Buffer.wordOf low high) table maximum tilt !=
            Buffer.wordOf low high),
        (report.set offset
            (Buffer.lowByte
              (Coordinate.corrected (Buffer.wordOf low high) table maximum tilt))).set
          (offset + 1)
          (Buffer.highByte
            (Coordinate.corrected (Buffer.wordOf low high) table maximum tilt))) := by
  have hsame : (report.set offset (Buffer.lowByte (Buffer.wordOf low high))).set (offset + 1)
      (Buffer.highByte (Buffer.wordOf low high)) = report :=
    (Buffer.setWord_eq_self_iff _ (by rwa [Buffer.lowByte_wordOf])
      (by rwa [Buffer.highByte_wordOf])).mpr rfl
  rw [compensateField, Buffer.readWord_of_getElem? haddress hlow hhigh]
  cases hcompensate :
      Coordinate.compensate (Buffer.wordOf low high) tilt table maximum with
  | error fault =>
      simp only [Coordinate.corrected, hcompensate, hsame, bne_self_eq_false]
      rfl
  | ok value =>
      simp only [Coordinate.corrected, hcompensate]
      by_cases hvalue : value = Buffer.wordOf low high
      · simp only [hvalue, ↓reduceIte, hsame, bne_self_eq_false]
        rfl
      · have hdiffers : (value != Buffer.wordOf low high) = true := bne_iff_ne.mpr hvalue
        simp only [if_neg hvalue, Buffer.writeWord_of_getElem? value haddress hhigh, hdiffers]
        rfl

theorem compensateField_rewrite (report : Bytes) (offset : ℕ) (tilt : Int8)
    (table : TiltTable) (maximum : UInt16) :
    Rewrite {offset, offset + 1} (compensateField report offset tilt table maximum).1 report
      (compensateField report offset tilt table maximum).2 := by
  cases hread : Buffer.readWord report offset with
  | error fault =>
      rw [compensateField, hread]
      exact Rewrite.refl _ _ _
  | ok word =>
      obtain ⟨haddress, hlow, hhigh⟩ := Buffer.getElem?_of_readWord hread
      rw [compensateField_of_getElem? tilt haddress hlow hhigh,
        Buffer.wordOf_lowByte_highByte]
      exact Rewrite.setWord _ hlow hhigh (Or.inl rfl) (Or.inr rfl)

end Compensation

namespace AxisCorrection

/-- What an axis leaves in place of the coordinate it finds beside a tilt. -/
def corrected (axis : AxisCorrection) (coordinate : UInt16) (tilt : UInt8) : UInt16 :=
  Coordinate.corrected coordinate axis.table axis.maximum tilt.toInt8

theorem apply_of_getElem? {axis : AxisCorrection} {report : Bytes} {tilt : UInt8}
    (htilt : report[axis.tiltOffset]? = some tilt) :
    axis.apply report =
      compensateField report axis.coordinateOffset tilt.toInt8 axis.table axis.maximum := by
  rw [apply, Buffer.readSigned, Buffer.readByte_eq_ok_iff.mpr htilt]
  rfl

theorem apply_of_getElem?_eq_none {axis : AxisCorrection} {report : Bytes}
    (htilt : report[axis.tiltOffset]? = none) : axis.apply report = (.unchanged, report) := by
  rw [apply, Buffer.readSigned, Buffer.readByte_eq_error (List.getElem?_eq_none_iff.mp htilt)]
  rfl

/-- Where both of its fields lie inside the report, an axis moves the coordinate by the tilt. -/
theorem apply_of_fields {axis : AxisCorrection} {report : Bytes} {coordinate : UInt16}
    {tilt : UInt8} (haddress : axis.coordinateOffset + 2 < Buffer.addressLimit)
    (hlow : report[axis.coordinateOffset]? = some (Buffer.lowByte coordinate))
    (hhigh : report[axis.coordinateOffset + 1]? = some (Buffer.highByte coordinate))
    (htilt : report[axis.tiltOffset]? = some tilt) :
    axis.apply report =
      (Effect.ofBool (axis.corrected coordinate tilt != coordinate),
        (report.set axis.coordinateOffset (Buffer.lowByte (axis.corrected coordinate tilt))).set
          (axis.coordinateOffset + 1) (Buffer.highByte (axis.corrected coordinate tilt))) := by
  rw [apply_of_getElem? htilt, compensateField_of_getElem? _ haddress hlow hhigh,
    Buffer.wordOf_lowByte_highByte]
  rfl

theorem apply_rewrite (axis : AxisCorrection) (report : Bytes) :
    Rewrite {axis.coordinateOffset, axis.coordinateOffset + 1} (axis.apply report).1 report
      (axis.apply report).2 := by
  cases htilt : report[axis.tiltOffset]? with
  | none =>
      rw [apply_of_getElem?_eq_none htilt]
      exact Rewrite.refl _ _ _
  | some tilt =>
      rw [apply_of_getElem? htilt]
      exact compensateField_rewrite report axis.coordinateOffset tilt.toInt8 axis.table
        axis.maximum

end AxisCorrection

namespace Transform

/-- The offsets that a transform may write at. -/
def writes : Transform → Set ℕ
  | bits fix => {fix.offset}
  | tilt axis => {axis.coordinateOffset, axis.coordinateOffset + 1}

/-- A transform writes the bytes it names, keeps all others, and reports every change. -/
theorem apply_rewrite (transform : Transform) (report : Bytes) :
    Rewrite transform.writes (transform.apply report).1 report (transform.apply report).2 := by
  cases transform with
  | bits fix => exact fix.apply_rewrite report
  | tilt axis => exact axis.apply_rewrite report

/-! ## Runs -/

theorem foldl_eq_merge_applyAll (transforms : List Transform) (effect : Effect)
    (report : Bytes) :
    transforms.foldl
        (fun state transform =>
          let step := transform.apply state.2
          (state.1.merge step.1, step.2))
        (effect, report) =
      (effect.merge (applyAll transforms report).1, (applyAll transforms report).2) := by
  induction transforms generalizing effect report with
  | nil => simp [applyAll]
  | cons transform rest ih =>
      simp only [applyAll, List.foldl_cons, Effect.unchanged_merge]
      rw [ih, ih (transform.apply report).1, Effect.merge_assoc]

@[simp]
theorem applyAll_nil (report : Bytes) : applyAll [] report = (.unchanged, report) := rfl

/-- A run is its first transform and a run of the others over what that one left. -/
theorem applyAll_cons (transform : Transform) (rest : List Transform) (report : Bytes) :
    applyAll (transform :: rest) report =
      ((transform.apply report).1.merge (applyAll rest (transform.apply report).2).1,
        (applyAll rest (transform.apply report).2).2) := by
  rw [applyAll, List.foldl_cons]
  simp only [Effect.unchanged_merge]
  exact foldl_eq_merge_applyAll rest _ _

/-- A run writes the bytes that its transforms name, keeps all others, and reports every change. -/
theorem applyAll_rewrite (transforms : List Transform) (report : Bytes) :
    Rewrite {offset | ∃ transform ∈ transforms, offset ∈ transform.writes}
      (applyAll transforms report).1 report (applyAll transforms report).2 := by
  induction transforms generalizing report with
  | nil => exact Rewrite.refl _ _ _
  | cons transform rest ih =>
      rw [applyAll_cons]
      refine Rewrite.trans ((transform.apply_rewrite report).mono ?_)
        ((ih (transform.apply report).2).mono ?_)
      · intro offset hoffset
        exact ⟨transform, List.mem_cons_self, hoffset⟩
      · rintro offset ⟨other, hother, hoffset⟩
        exact ⟨other, List.mem_cons_of_mem _ hother, hoffset⟩

end Transform

end HidMend
