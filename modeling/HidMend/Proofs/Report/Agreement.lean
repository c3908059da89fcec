import HidMend.Proofs.Report.Transform
import Mathlib.Data.Set.Insert

/-!
# What a run depends on

A transform decides by the bytes it reads, and by which of them the report is long enough to hold.
On two reports of one length that agree on these bytes it has the same effect and leaves reports
that agree again, so the same is true of a run.  Bytes that no transform names have no influence on
a run.
-/

namespace HidMend

/-- Two buffers of one length hold the same bytes at the given offsets. -/
structure AgreeOn (offsets : Set ℕ) (left right : Bytes) : Prop where
  length_eq : left.length = right.length
  getElem?_eq : ∀ offset ∈ offsets, left[offset]? = right[offset]?

/-- Two runs have the same effect and leave buffers that agree. -/
structure RunAlike (offsets : Set ℕ) (left right : Effect × Bytes) : Prop where
  effect_eq : left.1 = right.1
  agree : AgreeOn offsets left.2 right.2

variable {offsets : Set ℕ} {left right : Bytes}

theorem AgreeOn.mono {smaller : Set ℕ} (hsubset : smaller ⊆ offsets)
    (hagree : AgreeOn offsets left right) : AgreeOn smaller left right :=
  ⟨hagree.length_eq, fun offset hoffset => hagree.getElem?_eq offset (hsubset hoffset)⟩

theorem AgreeOn.set (hagree : AgreeOn offsets left right) (offset : ℕ) (value : UInt8) :
    AgreeOn offsets (left.set offset value) (right.set offset value) where
  length_eq := by rw [List.length_set, List.length_set, hagree.length_eq]
  getElem?_eq other hother := by
    rw [List.getElem?_set, List.getElem?_set, hagree.length_eq, hagree.getElem?_eq other hother]

/-- A rewrite elsewhere leaves a buffer that agrees with the one before. -/
theorem Rewrite.agreeOn_compl {touched : Set ℕ} {effect : Effect} {before after : Bytes}
    (hrewrite : Rewrite touched effect before after) : AgreeOn touchedᶜ after before where
  length_eq := hrewrite.length_eq
  getElem?_eq := hrewrite.getElem?_eq

/-! ## One transform -/

theorem BitFix.apply_alike {fix : BitFix} (hagree : AgreeOn offsets left right)
    (hoffset : fix.offset ∈ offsets) :
    RunAlike offsets (fix.apply left) (fix.apply right) := by
  have hbyte : left[fix.offset]? = right[fix.offset]? := hagree.getElem?_eq _ hoffset
  cases hleft : left[fix.offset]? with
  | none =>
      rw [apply_of_getElem?_eq_none hleft, apply_of_getElem?_eq_none (hbyte ▸ hleft)]
      exact ⟨rfl, hagree⟩
  | some byte =>
      rw [apply_of_getElem? hleft, apply_of_getElem? (hbyte ▸ hleft)]
      exact ⟨rfl, hagree.set _ _⟩

theorem compensateField_alike {offset : ℕ} (hagree : AgreeOn offsets left right)
    (hlow : offset ∈ offsets) (hhigh : offset + 1 ∈ offsets) (tilt : Int8) (table : TiltTable)
    (maximum : UInt16) :
    RunAlike offsets (compensateField left offset tilt table maximum)
      (compensateField right offset tilt table maximum) := by
  have hread : Buffer.readWord left offset = Buffer.readWord right offset :=
    Buffer.readWord_congr hagree.length_eq (hagree.getElem?_eq _ hlow)
      (hagree.getElem?_eq _ hhigh)
  cases hleft : Buffer.readWord left offset with
  | error fault =>
      rw [compensateField, hleft, compensateField, ← hread, hleft]
      exact ⟨rfl, hagree⟩
  | ok word =>
      obtain ⟨haddress, hleftLow, hleftHigh⟩ := Buffer.getElem?_of_readWord hleft
      obtain ⟨-, hrightLow, hrightHigh⟩ := Buffer.getElem?_of_readWord (hread ▸ hleft)
      rw [compensateField_of_getElem? tilt haddress hleftLow hleftHigh,
        compensateField_of_getElem? tilt haddress hrightLow hrightHigh]
      exact ⟨rfl, (hagree.set _ _).set _ _⟩

theorem AxisCorrection.apply_alike {axis : AxisCorrection} (hagree : AgreeOn offsets left right)
    (htilt : axis.tiltOffset ∈ offsets) (hlow : axis.coordinateOffset ∈ offsets)
    (hhigh : axis.coordinateOffset + 1 ∈ offsets) :
    RunAlike offsets (axis.apply left) (axis.apply right) := by
  have hbyte : left[axis.tiltOffset]? = right[axis.tiltOffset]? := hagree.getElem?_eq _ htilt
  cases hleft : left[axis.tiltOffset]? with
  | none =>
      rw [apply_of_getElem?_eq_none hleft, apply_of_getElem?_eq_none (hbyte ▸ hleft)]
      exact ⟨rfl, hagree⟩
  | some tilt =>
      rw [apply_of_getElem? hleft, apply_of_getElem? (hbyte ▸ hleft)]
      exact compensateField_alike hagree hlow hhigh _ _ _

namespace Transform

/-- The offsets of the bytes that a transform decides by. -/
def reads : Transform → Set ℕ
  | bits fix => {fix.offset}
  | tilt axis => {axis.tiltOffset, axis.coordinateOffset, axis.coordinateOffset + 1}

/-- The offsets that a list of transforms names, to read or to write. -/
def named (transforms : List Transform) : Set ℕ :=
  {offset | ∃ transform ∈ transforms, offset ∈ transform.reads ∪ transform.writes}

/-- A transform runs alike on reports that agree on what it reads. -/
theorem apply_alike {transform : Transform} (hreads : transform.reads ⊆ offsets)
    (hagree : AgreeOn offsets left right) :
    RunAlike offsets (transform.apply left) (transform.apply right) := by
  cases transform with
  | bits fix => exact BitFix.apply_alike hagree (hreads rfl)
  | tilt axis =>
      exact AxisCorrection.apply_alike hagree (hreads (by simp [reads]))
        (hreads (by simp [reads])) (hreads (by simp [reads]))

/-! ## Runs -/

/-- The bytes that all transforms read still agree after every step, so that the next one decides
alike. -/
theorem applyAll_alike {transforms : List Transform}
    (hreads : ∀ transform ∈ transforms, transform.reads ⊆ offsets)
    (hagree : AgreeOn offsets left right) :
    RunAlike offsets (applyAll transforms left) (applyAll transforms right) := by
  induction transforms generalizing left right with
  | nil => exact ⟨rfl, hagree⟩
  | cons transform rest ih =>
      have hstep := apply_alike (hreads transform List.mem_cons_self) hagree
      have hlater : ∀ other ∈ rest, other.reads ⊆ offsets := fun other hother =>
        hreads other (List.mem_cons_of_mem _ hother)
      have hrest := ih hlater hstep.agree
      rw [applyAll_cons, applyAll_cons]
      exact ⟨congrArg₂ Effect.merge hstep.effect_eq hrest.effect_eq, hrest.agree⟩

/-- A run depends on the named bytes alone. -/
theorem applyAll_alike_of_named {transforms : List Transform}
    (hagree : AgreeOn (named transforms) left right) :
    RunAlike (named transforms) (applyAll transforms left) (applyAll transforms right) := by
  refine applyAll_alike (fun transform htransform offset hread => ?_) hagree
  exact ⟨transform, htransform, .inl hread⟩

/-- A run keeps the bytes that are not named. -/
theorem getElem?_applyAll_of_not_named {transforms : List Transform} {offset : ℕ}
    (houtside : offset ∉ named transforms) (report : Bytes) :
    (applyAll transforms report).2[offset]? = report[offset]? := by
  apply (applyAll_rewrite transforms report).getElem?_eq
  rintro ⟨transform, htransform, hwritten⟩
  exact houtside ⟨transform, htransform, .inr hwritten⟩

end Transform

end HidMend
