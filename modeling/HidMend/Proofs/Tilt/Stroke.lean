import HidMend.Proofs.Tilt.Compensation

/-!
# Strokes under a tilt

For one tilt, the clamped shift is the identity, a shift downwards that stops at zero, or a shift
upwards that stops at the maximum.  Each of these keeps the order of coordinates and takes none of
them further apart, also across the point where it stops.  So the coordinates of a stroke stay in
their order and close together, wherever they lie.  Where a shift is not stopped, the shift of the
opposite tilt takes it back.
-/

namespace HidMend

/-! ## The shift in the integers -/

section Shift

variable {table : TiltTable} {maximum tilt coordinate : ℤ}

/-- The three shapes of a shift, each of which is one for all coordinates. -/
theorem clampedShift_cases (table : TiltTable) (maximum tilt : ℤ) :
    (∀ coordinate, clampedShift table maximum tilt coordinate = coordinate) ∨
      (∀ coordinate, clampedShift table maximum tilt coordinate =
        max 0 (coordinate - (table.entry tilt.natAbs).toNat)) ∨
      ∀ coordinate, clampedShift table maximum tilt coordinate =
        min maximum (coordinate + (table.entry tilt.natAbs).toNat) := by
  by_cases hdomain : tilt = -128
  · left
    intro coordinate
    rw [clampedShift, if_pos hdomain]
  by_cases htilt : 0 < tilt
  · exact .inr (.inl fun _ => clampedShift_of_pos htilt)
  · exact .inr (.inr fun _ => clampedShift_of_nonpos hdomain (Int.not_lt.mp htilt))

/-- A shift keeps the order of coordinates. -/
theorem clampedShift_le_clampedShift (table : TiltTable) (maximum tilt : ℤ) {left right : ℤ}
    (hle : left ≤ right) :
    clampedShift table maximum tilt left ≤ clampedShift table maximum tilt right := by
  obtain hshape | hshape | hshape := clampedShift_cases table maximum tilt
  · rwa [hshape, hshape]
  · rw [hshape, hshape]
    omega
  · rw [hshape, hshape]
    omega

/-- A shift takes no two coordinates further apart. -/
theorem clampedShift_sub_le (table : TiltTable) (maximum tilt : ℤ) {left right : ℤ}
    (hle : left ≤ right) :
    clampedShift table maximum tilt right - clampedShift table maximum tilt left ≤
      right - left := by
  obtain hshape | hshape | hshape := clampedShift_cases table maximum tilt
  · rw [hshape, hshape]
  · rw [hshape, hshape]
    omega
  · rw [hshape, hshape]
    omega

/-- A shift by nothing only brings a coordinate back to the axis, and does so at once. -/
theorem clampedShift_clampedShift (hstill : table.entry tilt.natAbs = 0) :
    clampedShift table maximum tilt (clampedShift table maximum tilt coordinate) =
      clampedShift table maximum tilt coordinate := by
  have hzero : (table.entry tilt.natAbs).toNat = 0 := by rw [hstill, UInt16.toNat_zero]
  obtain hshape | hshape | hshape := clampedShift_cases table maximum tilt
  · rw [hshape]
  · rw [hshape, hshape, hzero]
    omega
  · rw [hshape, hshape, hzero]
    omega

/-- A shift that stays above zero is taken back by the one upwards. -/
theorem clampedShift_neg_clampedShift (htilt : 0 < tilt) (hangle : tilt < 128)
    (hfloor : (table.entry tilt.natAbs).toNat ≤ coordinate) (hmaximum : coordinate ≤ maximum) :
    clampedShift table maximum (-tilt) (clampedShift table maximum tilt coordinate) =
      coordinate := by
  rw [clampedShift_of_pos htilt, clampedShift_of_nonpos (by omega) (by omega), Int.natAbs_neg]
  omega

/-- A shift that stays below the maximum is taken back by the one downwards. -/
theorem clampedShift_clampedShift_neg (htilt : 0 < tilt) (hangle : tilt < 128)
    (hcoordinate : 0 ≤ coordinate)
    (hroom : coordinate + (table.entry tilt.natAbs).toNat ≤ maximum) :
    clampedShift table maximum tilt (clampedShift table maximum (-tilt) coordinate) =
      coordinate := by
  rw [clampedShift_of_pos htilt, clampedShift_of_nonpos (by omega) (by omega), Int.natAbs_neg]
  omega

end Shift

/-! ## The shift of words -/

/-- An offset that grows with the angle, by the same for each degree. -/
def TiltTable.linear (slope : ℕ) : TiltTable :=
  ⟨Vector.ofFn fun angle => UInt16.ofNat (slope * angle.val)⟩

namespace Coordinate

theorem corrected_corrected {table : TiltTable} {tilt : Int8}
    (hstill : table.entry tilt.toInt.natAbs = 0) (coordinate maximum : UInt16) :
    corrected (corrected coordinate table maximum tilt) table maximum tilt =
      corrected coordinate table maximum tilt := by
  rw [corrected_eq_iff, toInt_corrected, clampedShift_clampedShift hstill]

theorem toInt_neg_of_pos {tilt : Int8} (htilt : 0 < tilt.toInt) : (-tilt).toInt = -tilt.toInt := by
  have hbound : tilt.toInt < 2 ^ 7 := tilt.toInt_lt
  rw [Int8.toInt_neg]
  exact Int.bmod_eq_of_le (by omega) (by omega)

/-- Under one tilt, coordinates keep their order and come no further apart. -/
theorem compensate_keeps_order (table : TiltTable) (maximum : UInt16) {tilt : Int8}
    {left right : UInt16} (hdomain : tilt.toInt ≠ -128) (hle : left ≤ right) :
    ∃ leftAfter rightAfter, compensate left tilt table maximum = .ok leftAfter ∧
      compensate right tilt table maximum = .ok rightAfter ∧ leftAfter ≤ rightAfter ∧
        (rightAfter.toNat : ℤ) - leftAfter.toNat ≤ right.toNat - left.toNat := by
  have hinteger : (left.toNat : ℤ) ≤ right.toNat :=
    Int.ofNat_le.mpr (UInt16.le_iff_toNat_le.mp hle)
  have hordered := clampedShift_le_clampedShift table maximum.toNat tilt.toInt hinteger
  have hshort := clampedShift_sub_le table maximum.toNat tilt.toInt hinteger
  rw [← toInt_corrected, ← toInt_corrected] at hordered hshort
  refine ⟨corrected left table maximum tilt, corrected right table maximum tilt,
    compensate_eq_ok_corrected left table maximum hdomain,
    compensate_eq_ok_corrected right table maximum hdomain, ?_, hshort⟩
  exact UInt16.le_iff_toNat_le.mpr (Int.ofNat_le.mp hordered)

/-- A maximum between two coordinates stops them both. -/
theorem compensate_keeps_order_maximum :
    (-2 : Int8).toInt ≠ -128 ∧ (96 : UInt16) ≤ 65535 ∧
      ∃ leftAfter rightAfter, compensate 96 (-2) (.linear 3) 100 = .ok leftAfter ∧
        compensate 65535 (-2) (.linear 3) 100 = .ok rightAfter ∧ leftAfter ≤ rightAfter ∧
          (rightAfter.toNat : ℤ) - leftAfter.toNat ≤ 65535 - 96 := by
  have hdomain : (-2 : Int8).toInt ≠ -128 := by decide
  have hle : (96 : UInt16) ≤ 65535 := by decide
  exact ⟨hdomain, hle, compensate_keeps_order (.linear 3) 100 hdomain hle⟩

/-- A tilt and its opposite cancel, in either order, where the first of the two shifts is not
stopped before its end. -/
theorem compensate_opposite_cancels (table : TiltTable) {maximum coordinate : UInt16}
    {tilt : Int8} (htilt : 0 < tilt.toInt) (hmaximum : coordinate ≤ maximum) :
    ∃ offset, table.offsets[tilt.toInt.natAbs]? = some offset ∧
      (offset ≤ coordinate →
        ∃ moved, compensate coordinate tilt table maximum = .ok moved ∧
          compensate moved (-tilt) table maximum = .ok coordinate) ∧
      (coordinate.toNat + offset.toNat ≤ maximum.toNat →
        ∃ moved, compensate coordinate (-tilt) table maximum = .ok moved ∧
          compensate moved tilt table maximum = .ok coordinate) := by
  have hangle : tilt.toInt < 2 ^ 7 := tilt.toInt_lt
  have hneg : (-tilt).toInt = -tilt.toInt := toInt_neg_of_pos htilt
  have hdomain : tilt.toInt ≠ -128 := by omega
  have hnegDomain : (-tilt).toInt ≠ -128 := by omega
  rw [UInt16.le_iff_toNat_le] at hmaximum
  refine ⟨_, table.getElem?_offsets (natAbs_le_maxAngle hdomain), fun hfloor => ?_,
    fun hroom => ?_⟩
  · rw [UInt16.le_iff_toNat_le] at hfloor
    refine ⟨_, compensate_eq_ok_corrected coordinate table maximum hdomain, ?_⟩
    rw [compensate_eq_ok_iff hnegDomain, toInt_corrected, hneg]
    exact (clampedShift_neg_clampedShift htilt hangle (by omega) (by omega)).symm
  · refine ⟨_, compensate_eq_ok_corrected coordinate table maximum hnegDomain, ?_⟩
    rw [compensate_eq_ok_iff hdomain, toInt_corrected, hneg]
    exact (clampedShift_clampedShift_neg htilt hangle (by omega) (by omega)).symm

/-- Midway on an axis of twice the offset, the first shift ends on zero or on the maximum, and is
not stopped there. -/
theorem compensate_opposite_cancels_midway :
    0 < (2 : Int8).toInt ∧ (6 : UInt16) ≤ 12 ∧
      (∃ moved, compensate 6 2 (.linear 3) 12 = .ok moved ∧
        compensate moved (-2) (.linear 3) 12 = .ok 6) ∧
      ∃ moved, compensate 6 (-2) (.linear 3) 12 = .ok moved ∧
        compensate moved 2 (.linear 3) 12 = .ok 6 := by
  have htilt : 0 < (2 : Int8).toInt := by decide
  have hmaximum : (6 : UInt16) ≤ 12 := by decide
  obtain ⟨offset, hoffset, hdown, hup⟩ := compensate_opposite_cancels (.linear 3) htilt hmaximum
  obtain rfl : 6 = offset := Option.some.inj hoffset
  exact ⟨htilt, hmaximum, hdown (by decide), hup (by decide)⟩

end Coordinate

end HidMend
