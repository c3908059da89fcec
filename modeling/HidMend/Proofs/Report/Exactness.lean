import HidMend.Proofs.Report.Transform
import Mathlib.Data.Set.Lattice
import Mathlib.Order.CompletePartialOrder

/-!
# What the effect of a run says

Every transform says truly whether it has changed the report.  A run merges what its transforms say,
so it is said to be unchanged exactly if each of them left the report as it found it.  One transform
may undo what another has done, and then a run counts as a change although the report is the same in
the end.  Where no two transforms write at the same offset, this does not happen.
-/

namespace HidMend

/-! ## One transform -/

theorem BitFix.apply_exact (fix : BitFix) (report : Bytes) :
    (fix.apply report).1 = .changed ↔ (fix.apply report).2 ≠ report := by
  cases hbyte : report[fix.offset]? with
  | none =>
      rw [apply_of_getElem?_eq_none hbyte]
      simp
  | some byte =>
      rw [apply_of_getElem? hbyte, Effect.ofBool_eq_changed_iff, bne_iff_ne]
      exact (Buffer.set_eq_self_iff _ hbyte).not.symm

theorem compensateField_exact (report : Bytes) (offset : ℕ) (tilt : Int8) (table : TiltTable)
    (maximum : UInt16) :
    (compensateField report offset tilt table maximum).1 = .changed ↔
      (compensateField report offset tilt table maximum).2 ≠ report := by
  cases hread : Buffer.readWord report offset with
  | error fault =>
      rw [compensateField, hread]
      simp
  | ok word =>
      obtain ⟨haddress, hlow, hhigh⟩ := Buffer.getElem?_of_readWord hread
      rw [compensateField_of_getElem? tilt haddress hlow hhigh, Buffer.wordOf_lowByte_highByte,
        Effect.ofBool_eq_changed_iff, bne_iff_ne]
      exact (Buffer.setWord_eq_self_iff _ hlow hhigh).not.symm

theorem AxisCorrection.apply_exact (axis : AxisCorrection) (report : Bytes) :
    (axis.apply report).1 = .changed ↔ (axis.apply report).2 ≠ report := by
  cases htilt : report[axis.tiltOffset]? with
  | none =>
      rw [apply_of_getElem?_eq_none htilt]
      simp
  | some tilt =>
      rw [apply_of_getElem? htilt]
      exact compensateField_exact report _ _ _ _

namespace Transform

/-- Each transform says truly whether it changed the report. -/
theorem apply_exact (transform : Transform) (report : Bytes) :
    (transform.apply report).1 = .changed ↔ (transform.apply report).2 ≠ report := by
  cases transform with
  | bits fix => exact fix.apply_exact report
  | tilt axis => exact axis.apply_exact report

theorem apply_eq_unchanged_iff (transform : Transform) (report : Bytes) :
    (transform.apply report).1 = .unchanged ↔ (transform.apply report).2 = report := by
  rw [← not_iff_not, ← ne_eq (transform.apply report).2, ← apply_exact]
  cases (transform.apply report).1 <;> simp

/-! ## Runs -/

/-- A run is said to be unchanged if no transform, after the ones before it, changes the report. -/
theorem applyAll_eq_unchanged_iff (transforms : List Transform) (report : Bytes) :
    (applyAll transforms report).1 = .unchanged ↔
      ∀ first transform rest, transforms = first ++ transform :: rest →
        (transform.apply (applyAll first report).2).2 = (applyAll first report).2 := by
  induction transforms generalizing report with
  | nil => simp
  | cons head tail ih =>
      rw [applyAll_cons, Effect.merge_eq_unchanged_iff, apply_eq_unchanged_iff, ih]
      constructor
      · rintro ⟨hhead, htail⟩ first transform rest hsplit
        cases first with
        | nil =>
            obtain ⟨rfl, rfl⟩ := List.cons.inj hsplit
            exact hhead
        | cons other first =>
            obtain ⟨rfl, hrest⟩ := List.cons.inj hsplit
            rw [applyAll_cons]
            exact htail first transform rest hrest
      · intro hsteps
        refine ⟨hsteps [] head tail rfl, fun first transform rest hsplit => ?_⟩
        have hstep := hsteps (head :: first) transform rest (congrArg (head :: ·) hsplit)
        rwa [applyAll_cons] at hstep

/-- What a transform has changed stays changed if the others write elsewhere. -/
theorem applyAll_eq_changed_iff {transforms : List Transform}
    (hdisjoint : transforms.Pairwise fun first second => Disjoint first.writes second.writes)
    (report : Bytes) :
    (applyAll transforms report).1 = .changed ↔ (applyAll transforms report).2 ≠ report := by
  induction transforms generalizing report with
  | nil => simp
  | cons transform rest ih =>
      obtain ⟨hothers, hrest⟩ := List.pairwise_cons.mp hdisjoint
      rw [applyAll_cons, Effect.merge_eq_changed_iff, apply_exact, ih hrest]
      by_cases hkept : (transform.apply report).2 = report
      · simp [hkept]
      · refine iff_of_true (.inl hkept) fun hrestored => hkept ?_
        -- a byte that the transform may write is left alone by the others
        apply List.ext_getElem?
        intro offset
        by_cases hwritten : offset ∈ transform.writes
        · have houtside : offset ∉ {offset | ∃ other ∈ rest, offset ∈ other.writes} := by
            rintro ⟨other, hother, hboth⟩
            exact Set.disjoint_left.mp (hothers other hother) hwritten hboth
          rw [← (applyAll_rewrite rest _).getElem?_eq offset houtside]
          exact congrArg (·[offset]?) hrestored
        · exact (transform.apply_rewrite report).getElem?_eq offset hwritten

/-- A run keeps the length of the report and all bytes that no transform writes.  What each
transform says of itself is true, and so is what the run says as long as it says that nothing has
changed; that something has changed is true of the report in the end if no two transforms write at
the same offset. -/
theorem applyAll_exact (transforms : List Transform) (report : Bytes) :
    (applyAll transforms report).2.length = report.length ∧
      (∀ offset, (∀ transform ∈ transforms, offset ∉ transform.writes) →
        (applyAll transforms report).2[offset]? = report[offset]?) ∧
      (∀ transform : Transform,
        (transform.apply report).1 = .changed ↔ (transform.apply report).2 ≠ report) ∧
      ((applyAll transforms report).1 = .unchanged ↔
        ∀ first transform rest, transforms = first ++ transform :: rest →
          (transform.apply (applyAll first report).2).2 = (applyAll first report).2) ∧
      ((applyAll transforms report).1 = .unchanged → (applyAll transforms report).2 = report) ∧
      (transforms.Pairwise (fun first second => Disjoint first.writes second.writes) →
        ((applyAll transforms report).1 = .changed ↔
          (applyAll transforms report).2 ≠ report)) := by
  have hrewrite := applyAll_rewrite transforms report
  refine ⟨hrewrite.length_eq, fun offset houtside => ?_, fun transform => ?_, ?_, ?_, ?_⟩
  · apply hrewrite.getElem?_eq
    rintro ⟨transform, htransform, hwritten⟩
    exact houtside transform htransform hwritten
  · exact transform.apply_exact report
  · exact applyAll_eq_unchanged_iff transforms report
  · exact hrewrite.eq_of_unchanged
  · exact fun hdisjoint => applyAll_eq_changed_iff hdisjoint report

/-- Two fields that fit into a report of five bytes, and one that does not. -/
def separateFields : List Transform :=
  [.bits ⟨0, 0x01, 0x02⟩, .tilt ⟨1, 3, ⟨Vector.replicate 128 5⟩, 32767⟩, .bits ⟨7, 0x00, 0xFF⟩]

/-- Three transforms in fields of their own, of which two change something. -/
theorem applyAll_exact_separateFields :
    separateFields.Pairwise (fun first second => Disjoint first.writes second.writes) ∧
      (applyAll separateFields [0x01, 0x0A, 0x00, 0x1E, 0x55]).2 =
        [0x03, 0x05, 0x00, 0x1E, 0x55] ∧
      (applyAll separateFields [0x01, 0x0A, 0x00, 0x1E, 0x55]).1 = .changed ∧
      (applyAll separateFields [0x02, 0x00, 0x00, 0x1E, 0x55]).1 = .unchanged ∧
      (applyAll separateFields [0x02, 0x00, 0x00, 0x1E, 0x55]).2 =
        [0x02, 0x00, 0x00, 0x1E, 0x55] := by
  have hdisjoint :
      separateFields.Pairwise fun first second => Disjoint first.writes second.writes := by
    simp [separateFields, writes]
  have hafter : (applyAll separateFields [0x01, 0x0A, 0x00, 0x1E, 0x55]).2 =
      [0x03, 0x05, 0x00, 0x1E, 0x55] := rfl
  have hunchanged : (applyAll separateFields [0x02, 0x00, 0x00, 0x1E, 0x55]).1 = .unchanged := rfl
  obtain ⟨-, -, -, -, -, hchanged⟩ :=
    applyAll_exact separateFields [0x01, 0x0A, 0x00, 0x1E, 0x55]
  obtain ⟨-, -, -, -, hsame, -⟩ := applyAll_exact separateFields [0x02, 0x00, 0x00, 0x1E, 0x55]
  refine ⟨hdisjoint, hafter, (hchanged hdisjoint).mpr ?_, hunchanged, hsame hunchanged⟩
  rw [hafter]
  decide

/-- Two flips of one byte undo each other, and the run counts as a change all the same. -/
example : applyAll [.bits ⟨0, 0x00, 0xFF⟩, .bits ⟨0, 0x00, 0xFF⟩] [0x0F] = (.changed, [0x0F]) :=
  rfl

end Transform

end HidMend
