import HidMend.Tilt.Compensation
import HidMend.Proofs.Buffer.Access
import HidMend.Proofs.Buffer.Rewrite

/-!
# Compensation is a clamped shift

On words, compensation is a guarded subtraction and a guarded addition with a comparison of its own.
In the integers it is one shift by the table entry of the angle, downwards and stopped at zero for a
positive tilt, upwards and stopped at the maximum for any other.  The law needs no bound on the
coordinate, the maximum or the entry, so no intermediate result wraps around.
-/

namespace HidMend

namespace TiltTable

/-- The offset that a table holds for an angle. -/
def entry (table : TiltTable) (angle : ℕ) : UInt16 :=
  table.offsets[angle]?.getD 0

/-- The table has an offset for every angle up to the largest. -/
theorem getElem?_offsets (table : TiltTable) {angle : ℕ} (hangle : angle ≤ maxAngle) :
    table.offsets[angle]? = some (table.entry angle) := by
  have hinside : angle < 128 := Nat.lt_succ_of_le hangle
  rw [entry, Vector.getElem?_eq_getElem hinside]
  rfl

theorem offset_eq_ok_entry (table : TiltTable) {angle : ℕ} (hangle : angle ≤ maxAngle) :
    table.offset angle = .ok (table.entry angle) := by
  rw [offset, table.getElem?_offsets hangle]

theorem entry_of_maxAngle_lt (table : TiltTable) {angle : ℕ} (hangle : maxAngle < angle) :
    table.entry angle = 0 := by
  have houtside : 128 ≤ angle := hangle
  rw [entry, Vector.getElem?_eq_none houtside]
  rfl

theorem foldl_larger_le_iff (values : List UInt16) (largest bound : UInt16) :
    values.foldl (fun largest value => if largest < value then value else largest) largest ≤
        bound ↔
      largest ≤ bound ∧ ∀ value ∈ values, value ≤ bound := by
  induction values generalizing largest with
  | nil => simp
  | cons value rest ih =>
      have hlarger : (if largest < value then value else largest) ≤ bound ↔
          largest ≤ bound ∧ value ≤ bound := by
        simp only [UInt16.lt_iff_toNat_lt, UInt16.le_iff_toNat_le]
        split <;> omega
      rw [List.foldl_cons, ih, hlarger, List.forall_mem_cons, and_assoc]

/-- The largest offset is the least bound of all entries. -/
theorem maxOffset_le_iff {table : TiltTable} {bound : UInt16} :
    table.maxOffset ≤ bound ↔ ∀ value ∈ table.offsets, value ≤ bound := by
  have hzero : (0 : UInt16) ≤ bound := UInt16.le_iff_toNat_le.mpr (Nat.zero_le _)
  rw [maxOffset, foldl_larger_le_iff]
  simp only [hzero, true_and, Vector.mem_toList_iff]

theorem entry_le_maxOffset (table : TiltTable) (angle : ℕ) :
    table.entry angle ≤ table.maxOffset := by
  rw [entry]
  cases hvalue : table.offsets[angle]? with
  | none => exact UInt16.le_iff_toNat_le.mpr (Nat.zero_le _)
  | some value =>
      exact maxOffset_le_iff.mp (UInt16.le_refl _) value (Vector.mem_of_getElem? hvalue)

end TiltTable

namespace Coordinate

theorem toNat_lower (coordinate offset : UInt16) :
    (lower coordinate offset).toNat = coordinate.toNat - offset.toNat := by
  rw [lower]
  by_cases hle : offset ≤ coordinate
  · rw [if_pos hle, UInt16.toNat_sub_of_le _ _ hle]
  · rw [UInt16.le_iff_toNat_le] at hle
    rw [if_neg (by rwa [UInt16.le_iff_toNat_le])]
    have hzero : (0 : UInt16).toNat = 0 := rfl
    omega

theorem toNat_raise_of_lt {coordinate offset : UInt16}
    (hsum : coordinate.toNat + offset.toNat < 65536) :
    (raise coordinate offset).toNat = coordinate.toNat + offset.toNat := by
  rw [raise, if_pos hsum, UInt16.toNat_add]
  omega

/-! ## The three ranges of the tilt -/

variable {tilt : Int8} (coordinate : UInt16) (table : TiltTable) (maximum : UInt16)

/-- Only one tilt has no entry. -/
theorem natAbs_le_maxAngle (hdomain : tilt.toInt ≠ -128) :
    tilt.toInt.natAbs ≤ TiltTable.maxAngle := by
  have hlow : -2 ^ 7 ≤ tilt.toInt := tilt.le_toInt
  have hhigh : tilt.toInt < 2 ^ 7 := tilt.toInt_lt
  rw [TiltTable.maxAngle]
  omega

theorem compensate_of_eq (htilt : tilt.toInt = -128) :
    compensate coordinate tilt table maximum = .error .outOfDomain := by
  have hangle : TiltTable.maxAngle < tilt.toInt.natAbs := by
    rw [htilt]
    decide
  simp only [compensate, if_pos hangle]

theorem compensate_of_pos (htilt : 0 < tilt.toInt) :
    compensate coordinate tilt table maximum =
      .ok (lower coordinate (table.entry tilt.toInt.natAbs)) := by
  have hdomain : tilt.toInt ≠ -128 := by omega
  have hangle := natAbs_le_maxAngle hdomain
  simp only [compensate, if_neg (Nat.not_lt.mpr hangle), table.offset_eq_ok_entry hangle,
    Shift.ofTilt, if_pos htilt]

theorem compensate_of_nonpos (hdomain : tilt.toInt ≠ -128) (htilt : ¬0 < tilt.toInt) :
    compensate coordinate tilt table maximum =
      .ok (if coordinate < lower maximum (table.entry tilt.toInt.natAbs) then
        raise coordinate (table.entry tilt.toInt.natAbs) else maximum) := by
  have hangle := natAbs_le_maxAngle hdomain
  simp only [compensate, if_neg (Nat.not_lt.mpr hangle), table.offset_eq_ok_entry hangle,
    Shift.ofTilt, if_neg htilt]
  split <;> rfl

/-! ## The integer law -/

/-- What a coordinate is after compensation; out of domain it stays. -/
def corrected (tilt : Int8) : UInt16 :=
  match compensate coordinate tilt table maximum with
  | .ok value => value
  | .error _ => coordinate

end Coordinate

/-- The clamped shift of an integer coordinate for a tilt in degrees. -/
def clampedShift (table : TiltTable) (maximum tilt coordinate : ℤ) : ℤ :=
  if tilt = -128 then coordinate
  else if 0 < tilt then max 0 (coordinate - (table.entry tilt.natAbs).toNat)
  else min maximum (coordinate + (table.entry tilt.natAbs).toNat)

theorem clampedShift_of_pos {table : TiltTable} {maximum tilt coordinate : ℤ}
    (htilt : 0 < tilt) :
    clampedShift table maximum tilt coordinate =
      max 0 (coordinate - (table.entry tilt.natAbs).toNat) := by
  have hdomain : tilt ≠ -128 := by omega
  rw [clampedShift, if_neg hdomain, if_pos htilt]

theorem clampedShift_of_nonpos {table : TiltTable} {maximum tilt coordinate : ℤ}
    (hdomain : tilt ≠ -128) (htilt : tilt ≤ 0) :
    clampedShift table maximum tilt coordinate =
      min maximum (coordinate + (table.entry tilt.natAbs).toNat) := by
  rw [clampedShift, if_neg hdomain, if_neg (Int.not_lt.mpr htilt)]

theorem clampedShift_le {table : TiltTable} {maximum coordinate : ℤ} (tilt : ℤ)
    (hmaximum : 0 ≤ maximum) (hcoordinate : coordinate ≤ maximum) :
    clampedShift table maximum tilt coordinate ≤ maximum := by
  rw [clampedShift]
  split
  · exact hcoordinate
  · split
    · have hoffset : (0 : ℤ) ≤ (table.entry tilt.natAbs).toNat := Int.natCast_nonneg _
      exact max_le hmaximum (by omega)
    · exact min_le_left _ _

namespace Coordinate

/-- On words, compensation is the clamped shift. -/
theorem toInt_corrected (coordinate : UInt16) (table : TiltTable) (maximum : UInt16)
    (tilt : Int8) :
    ((corrected coordinate table maximum tilt).toNat : ℤ) =
      clampedShift table maximum.toNat tilt.toInt coordinate.toNat := by
  rw [corrected, clampedShift]
  by_cases hdomain : tilt.toInt = -128
  · rw [compensate_of_eq coordinate table maximum hdomain, if_pos hdomain]
  rw [if_neg hdomain]
  by_cases htilt : 0 < tilt.toInt
  · rw [compensate_of_pos coordinate table maximum htilt, if_pos htilt]
    simp only [toNat_lower]
    omega
  · rw [compensate_of_nonpos coordinate table maximum hdomain htilt, if_neg htilt]
    have hmaximum : maximum.toNat < 65536 := maximum.toNat_lt
    by_cases hroom : coordinate < lower maximum (table.entry tilt.toInt.natAbs)
    · -- room below the maximum is room below the largest word
      simp only [if_pos hroom]
      rw [UInt16.lt_iff_toNat_lt, toNat_lower] at hroom
      rw [toNat_raise_of_lt (by omega)]
      omega
    · simp only [if_neg hroom]
      rw [UInt16.lt_iff_toNat_lt, toNat_lower] at hroom
      omega

theorem corrected_eq_iff {tilt : Int8} {coordinate maximum result : UInt16} {table : TiltTable} :
    corrected coordinate table maximum tilt = result ↔
      clampedShift table maximum.toNat tilt.toInt coordinate.toNat = result.toNat := by
  rw [← toInt_corrected, Int.ofNat_inj, UInt16.toNat_inj]

theorem compensate_eq_ok_corrected {tilt : Int8} (coordinate : UInt16) (table : TiltTable)
    (maximum : UInt16) (hdomain : tilt.toInt ≠ -128) :
    compensate coordinate tilt table maximum = .ok (corrected coordinate table maximum tilt) := by
  rw [corrected]
  by_cases htilt : 0 < tilt.toInt
  · rw [compensate_of_pos coordinate table maximum htilt]
  · rw [compensate_of_nonpos coordinate table maximum hdomain htilt]

/-- Inside the domain, compensation is the clamped shift and nothing else. -/
theorem compensate_eq_ok_iff {tilt : Int8} {coordinate maximum result : UInt16}
    {table : TiltTable} (hdomain : tilt.toInt ≠ -128) :
    compensate coordinate tilt table maximum = .ok result ↔
      (result.toNat : ℤ) = clampedShift table maximum.toNat tilt.toInt coordinate.toNat := by
  rw [compensate_eq_ok_corrected coordinate table maximum hdomain, Except.ok.injEq,
    corrected_eq_iff]
  exact eq_comm

end Coordinate

end HidMend
