import HidMend.Proofs.Report.Exactness
import HidMend.Proofs.Tilt.Stroke

/-!
# A coordinate and its field

A tilt moves a coordinate by the offset of its angle.  A coordinate on the axis stays there, moves
to the side that the sign of the tilt tells, and by no more than the largest offset of the table.
In a report the coordinate is a little-endian word.  Compensation puts the moved coordinate in the
place of the word and touches no other byte; where the word does not fit and where the tilt has no
offset, it touches none at all.
-/

namespace HidMend

/-! ## The moved coordinate -/

namespace Coordinate

/-- What a tilt with a given offset makes of a coordinate, in the integers: down to zero at most,
and up to the maximum at most, which is also the result for a coordinate beyond it. -/
structure ShiftedBy (offset maximum : UInt16) (tilt : Int8) (coordinate result : UInt16) :
    Prop where
  of_pos : 0 < tilt.toInt → (result.toNat : ℤ) = max 0 ((coordinate.toNat : ℤ) - offset.toNat)
  of_nonpos : tilt.toInt ≤ 0 → coordinate ≤ maximum →
    (result.toNat : ℤ) = min (maximum.toNat : ℤ) (coordinate.toNat + offset.toNat)
  of_beyond : tilt.toInt ≤ 0 → maximum < coordinate → result = maximum

/-- A coordinate stays on the axis, on the side of where it was that the tilt tells, and near. -/
structure StaysNear (table : TiltTable) (maximum : UInt16) (tilt : Int8)
    (coordinate result : UInt16) : Prop where
  le_maximum : result ≤ maximum
  le_of_pos : 0 < tilt.toInt → result ≤ coordinate
  ge_of_nonpos : tilt.toInt ≤ 0 → coordinate ≤ result
  distance_le : ((result.toNat : ℤ) - coordinate.toNat).natAbs ≤ table.maxOffset.toNat

variable {table : TiltTable} {offset maximum coordinate result : UInt16} {tilt : Int8}

/-- A corrected coordinate is shifted by the entry of its angle. -/
theorem shiftedBy_corrected (coordinate : UInt16) (table : TiltTable) (maximum : UInt16)
    (hdomain : tilt.toInt ≠ -128) :
    ShiftedBy (table.entry tilt.toInt.natAbs) maximum tilt coordinate
      (corrected coordinate table maximum tilt) where
  of_pos htilt := by rw [toInt_corrected, clampedShift_of_pos htilt]
  of_nonpos htilt _ := by rw [toInt_corrected, clampedShift_of_nonpos hdomain htilt]
  of_beyond htilt hbeyond := by
    rw [UInt16.lt_iff_toNat_lt] at hbeyond
    rw [corrected_eq_iff, clampedShift_of_nonpos hdomain htilt]
    omega

/-- A shift by an offset of the table stays near. -/
theorem ShiftedBy.staysNear (hshifted : ShiftedBy offset maximum tilt coordinate result)
    (hoffset : offset ≤ table.maxOffset) (hcoordinate : coordinate ≤ maximum) :
    StaysNear table maximum tilt coordinate result := by
  have hinside : coordinate.toNat ≤ maximum.toNat := UInt16.le_iff_toNat_le.mp hcoordinate
  have hlargest : offset.toNat ≤ table.maxOffset.toNat := UInt16.le_iff_toNat_le.mp hoffset
  obtain htilt | htilt := Int.lt_or_le 0 tilt.toInt
  · have hdown := hshifted.of_pos htilt
    exact ⟨UInt16.le_iff_toNat_le.mpr (by omega), fun _ => UInt16.le_iff_toNat_le.mpr (by omega),
      fun hnonpos => absurd htilt (Int.not_lt.mpr hnonpos), by omega⟩
  · have hup := hshifted.of_nonpos htilt hcoordinate
    exact ⟨UInt16.le_iff_toNat_le.mpr (by omega), fun hpos => absurd hpos (Int.not_lt.mpr htilt),
      fun _ => UInt16.le_iff_toNat_le.mpr (by omega), by omega⟩

/-! ## In its field -/

theorem compensateField_of_lt {report : Bytes} {place : ℕ} (tilt : Int8) (table : TiltTable)
    (maximum : UInt16) (hshort : report.length < place + 2) :
    compensateField report place tilt table maximum = (.unchanged, report) := by
  rw [compensateField, Buffer.readWord_of_lt hshort]

theorem compensateField_of_eq (report : Bytes) (place : ℕ) (table : TiltTable)
    (maximum : UInt16) (htilt : tilt.toInt = -128) :
    compensateField report place tilt table maximum = (.unchanged, report) := by
  rw [compensateField]
  cases Buffer.readWord report place with
  | error fault => rfl
  | ok word =>
      simp only [compensate_of_eq word table maximum htilt]

/-- The corrected coordinate stands where the coordinate stood. -/
theorem compensateField_holdsWord {report : Bytes} {place : ℕ}
    (haddress : report.length < Buffer.addressLimit) (hfits : place + 2 ≤ report.length)
    (hword : Buffer.HoldsWord report place coordinate) (tilt : Int8) (table : TiltTable)
    (maximum : UInt16) :
    Buffer.HoldsWord (compensateField report place tilt table maximum).2 place
      (corrected coordinate table maximum tilt) := by
  obtain ⟨hlow, hhigh⟩ := Buffer.holdsWord_iff.mp hword
  rw [compensateField_of_getElem? tilt (Nat.lt_of_le_of_lt hfits haddress) hlow hhigh,
    Buffer.wordOf_lowByte_highByte]
  exact Buffer.holdsWord_setWord hfits _

/-- Compensation fails for a tilt of -128 degrees alone.  For any other it is the clamped shift by
the offset of the angle, with no wrap-around, and a coordinate on the axis stays on it and near.
In a report it replaces the word of the coordinate and no other byte, says truly whether it did, and
has no effect where the word does not fit or the tilt is out of domain. -/
theorem compensate_is_clamped_shift (table : TiltTable) (maximum : UInt16) (tilt : Int8) :
    (∀ coordinate, compensate coordinate tilt table maximum = .error .outOfDomain ↔
      tilt.toInt = -128) ∧
    (tilt.toInt ≠ -128 →
      ∃ offset, table.offsets[tilt.toInt.natAbs]? = some offset ∧
        ∀ coordinate, ∃ result, compensate coordinate tilt table maximum = .ok result ∧
          ShiftedBy offset maximum tilt coordinate result ∧
          (coordinate ≤ maximum → StaysNear table maximum tilt coordinate result)) ∧
    ∀ (report : Bytes) (place : ℕ),
      ∃ effect after, compensateField report place tilt table maximum = (effect, after) ∧
        Rewrite {place, place + 1} effect report after ∧ (effect = .changed ↔ after ≠ report) ∧
        (place + 2 ≤ report.length → report.length < Buffer.addressLimit → tilt.toInt ≠ -128 →
          ∃ coordinate result, Buffer.HoldsWord report place coordinate ∧
            compensate coordinate tilt table maximum = .ok result ∧
            Buffer.HoldsWord after place result) ∧
        (report.length < place + 2 ∨ tilt.toInt = -128 →
          effect = .unchanged ∧ after = report) := by
  refine ⟨fun coordinate => ⟨fun hfails => ?_, ?_⟩, fun hdomain => ?_, fun report place => ?_⟩
  · by_contra hdomain
    rw [compensate_eq_ok_corrected coordinate table maximum hdomain] at hfails
    cases hfails
  · exact compensate_of_eq coordinate table maximum
  · refine ⟨_, table.getElem?_offsets (natAbs_le_maxAngle hdomain), fun coordinate => ?_⟩
    have hshifted := shiftedBy_corrected coordinate table maximum hdomain
    exact ⟨_, compensate_eq_ok_corrected coordinate table maximum hdomain, hshifted,
      hshifted.staysNear (table.entry_le_maxOffset _)⟩
  · refine ⟨(compensateField report place tilt table maximum).1,
      (compensateField report place tilt table maximum).2, rfl,
      compensateField_rewrite report place tilt table maximum,
      compensateField_exact report place tilt table maximum, fun hfits haddress hdomain => ?_, ?_⟩
    · obtain ⟨coordinate, hword⟩ := Buffer.exists_holdsWord hfits
      exact ⟨coordinate, _, hword, compensate_eq_ok_corrected coordinate table maximum hdomain,
        compensateField_holdsWord haddress hfits hword tilt table maximum⟩
    · rintro (hshort | htilt)
      · rw [compensateField_of_lt tilt table maximum hshort]
        exact ⟨rfl, rfl⟩
      · rw [compensateField_of_eq report place table maximum htilt]
        exact ⟨rfl, rfl⟩

/-- An axis that ends before the offset does. -/
theorem compensate_is_clamped_shift_narrow :
    (-2 : Int8).toInt ≠ -128 ∧
      (∃ result, compensate 1 (-2) (.linear 3) 3 = .ok result ∧ ShiftedBy 6 3 (-2) 1 result ∧
        StaysNear (.linear 3) 3 (-2) 1 result) ∧
      compensateField [0x55, 0x01, 0x00, 0x55] 1 (-2) (.linear 3) 3 =
          (.changed, [0x55, 0x03, 0x00, 0x55]) ∧
        Rewrite {1, 2} .changed [0x55, 0x01, 0x00, 0x55] [0x55, 0x03, 0x00, 0x55] ∧
        ∃ coordinate result, Buffer.HoldsWord [0x55, 0x01, 0x00, 0x55] 1 coordinate ∧
          compensate coordinate (-2) (.linear 3) 3 = .ok result ∧
          Buffer.HoldsWord [0x55, 0x03, 0x00, 0x55] 1 result := by
  have hdomain : (-2 : Int8).toInt ≠ -128 := by decide
  obtain ⟨-, hshift, hfield⟩ := compensate_is_clamped_shift (.linear 3) 3 (-2)
  obtain ⟨offset, hoffset, hcoordinates⟩ := hshift hdomain
  obtain rfl : 6 = offset := Option.some.inj hoffset
  obtain ⟨result, hcompensate, hshifted, hnear⟩ := hcoordinates 1
  obtain ⟨effect, after, hrun, hrewrite, -, hreplaced, -⟩ := hfield [0x55, 0x01, 0x00, 0x55] 1
  have hnarrow : compensateField [0x55, 0x01, 0x00, 0x55] 1 (-2) (.linear 3) 3 =
      (.changed, [0x55, 0x03, 0x00, 0x55]) := by decide
  obtain ⟨rfl, rfl⟩ := Prod.mk.inj (hnarrow.symm.trans hrun)
  exact ⟨hdomain, ⟨result, hcompensate, hshifted, hnear (by decide)⟩, hrun, hrewrite,
    hreplaced (by decide) (by decide) hdomain⟩

end Coordinate

end HidMend
