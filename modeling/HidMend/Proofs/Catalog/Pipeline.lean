import HidMend.Proofs.Catalog.ArtistPro
import HidMend.Proofs.Report.Order

/-!
# The pipeline of the pen

The three transforms of the Artist Pro share a report, but none of them writes a byte that another
one names.  So their order is of no importance.  They name the status, the coordinates and the
tilts; the number of the report, the pressure and whatever follows have no influence on them.
-/

namespace HidMend.ArtistPro

open Transform

/-- No transform of the pen touches what another one reads or writes. -/
theorem pairwise_independent : recipe.transforms.Pairwise Independent := by
  simp [recipe, transforms_eq, Independent, reads, writes, eraserFix, xAxis, yAxis, statusOffset,
    xOffset, yOffset, xTiltOffset, yTiltOffset]

/-- The bytes that the transforms of the pen read or write. -/
theorem named_transforms : named recipe.transforms = {1, 2, 3, 4, 5, 8, 9} := by
  ext offset
  simp only [recipe, transforms_eq, named, Set.mem_ofPred_eq, List.mem_cons, List.not_mem_nil,
    or_false, exists_eq_or_imp, exists_eq_left, reads, writes, Set.mem_union, Set.mem_insert_iff,
    Set.mem_singleton_iff, eraserFix, xAxis, yAxis, statusOffset, xOffset, yOffset, xTiltOffset,
    yTiltOffset]
  omega

/-! ## Order -/

/-- The order of transforms does not matter to a run if none of them writes a byte that another one
names.  Those of the pen are of this kind, so its reports are corrected alike in every order. -/
theorem applyAll_order_irrelevant :
    (∀ (transforms others : List Transform) (report : Bytes),
      transforms.Pairwise Independent → transforms.Perm others →
        applyAll others report = applyAll transforms report) ∧
    ∀ (others : List Transform) (report : Bytes), recipe.transforms.Perm others →
      applyAll others report = applyAll recipe.transforms report ∧
        { recipe with transforms := others }.mendReport report = recipe.mendReport report := by
  constructor
  · intro transforms others report hindependent hperm
    exact applyAll_perm hindependent hperm report
  · intro others report hperm
    have hsame : applyAll others report = applyAll recipe.transforms report :=
      applyAll_perm pairwise_independent hperm report
    refine ⟨hsame, ?_⟩
    rw [Recipe.mendReport, Recipe.mendReport, hsame]

/-- Two axes that share their tilt, and a byte that a report of five bytes does not have. -/
def sharedTilt : List Transform :=
  [.tilt ⟨0, 4, ⟨Vector.replicate 128 5⟩, 32767⟩, .tilt ⟨2, 4, ⟨Vector.replicate 128 7⟩, 32767⟩,
    .bits ⟨7, 0x00, 0xFF⟩]

/-- Two axes that read one tilt may be corrected in either order. -/
theorem applyAll_order_irrelevant_sharedTilt :
    sharedTilt.Pairwise Independent ∧ sharedTilt.Perm sharedTilt.reverse ∧
      applyAll sharedTilt.reverse [0x0A, 0x00, 0x03, 0x00, 0x1E] =
        (.changed, [0x05, 0x00, 0x00, 0x00, 0x1E]) ∧
      { recipe with transforms := recipe.transforms.reverse }.mendReport
          [0x07, 0x29, 0x10, 0x00, 0xFF, 0xFF, 0x00, 0x00, 0x0A, 0x80] =
        (.ok .changed, [0x07, 0x30, 0x00, 0x00, 0xFF, 0xFF, 0x00, 0x00, 0x0A, 0x80]) := by
  have hindependent : sharedTilt.Pairwise Independent := by
    simp [sharedTilt, Independent, reads, writes]
  have hperm : sharedTilt.Perm sharedTilt.reverse := (List.reverse_perm _).symm
  obtain ⟨hgeneral, hpen⟩ := applyAll_order_irrelevant
  refine ⟨hindependent, hperm, ?_, ?_⟩
  · rw [hgeneral sharedTilt _ _ hindependent hperm]
    rfl
  · rw [(hpen _ _ (List.reverse_perm _).symm).2]
    rfl

/-! ## Influence -/

/-- On two reports that agree where transforms name a byte, a run has the same effect, leaves
reports that agree there again, and leaves every other byte of either report as it is.  For the pen
this is to say that only the status, the coordinates and the tilts matter to the status and the
coordinates that it corrects. -/
theorem applyAll_depends_on_named :
    (∀ (transforms : List Transform) (left right : Bytes),
      AgreeOn (named transforms) left right →
        RunAlike (named transforms) (applyAll transforms left) (applyAll transforms right) ∧
        ∀ offset ∉ named transforms,
          (applyAll transforms left).2[offset]? = left[offset]? ∧
            (applyAll transforms right).2[offset]? = right[offset]?) ∧
    ∀ left right : Bytes, AgreeOn {1, 2, 3, 4, 5, 8, 9} left right →
      ∃ effect leftAfter rightAfter,
        recipe.mendReport left = (.ok effect, leftAfter) ∧
          recipe.mendReport right = (.ok effect, rightAfter) ∧
          AgreeOn {1, 2, 3, 4, 5} leftAfter rightAfter := by
  constructor
  · intro transforms left right hagree
    refine ⟨applyAll_alike_of_named hagree, fun offset houtside => ?_⟩
    exact ⟨getElem?_applyAll_of_not_named houtside left,
      getElem?_applyAll_of_not_named houtside right⟩
  · intro left right hagree
    have hfields : ({1, 2, 3, 4, 5} : Set ℕ) ⊆ {1, 2, 3, 4, 5, 8, 9} := by
      rintro offset (rfl | rfl | rfl | rfl | rfl) <;> simp
    rw [Recipe.mendReport, Recipe.mendReport, ← hagree.length_eq]
    split_ifs with hshort
    · exact ⟨_, _, _, rfl, rfl, .mono hfields hagree⟩
    · rw [← named_transforms] at hagree hfields
      obtain ⟨heffect, hafter⟩ := applyAll_alike_of_named hagree
      exact ⟨_, _, _, rfl, by rw [heffect], .mono hfields hafter⟩

/-- The eraser touches near the left edge. -/
def touch : Bytes :=
  [0x07, 0x29, 0x10, 0x00, 0xFF, 0xFF, 0x00, 0x00, 0x0A, 0x80, 0x11]

/-- The same touch with another number, another pressure and another byte at the end. -/
def otherTouch : Bytes :=
  [0x09, 0x29, 0x10, 0x00, 0xFF, 0xFF, 0xAA, 0xBB, 0x0A, 0x80, 0x22]

/-- Two touches that differ only where no transform looks. -/
theorem applyAll_depends_on_named_touch :
    AgreeOn {1, 2, 3, 4, 5, 8, 9} touch otherTouch ∧
      RunAlike (named recipe.transforms) (applyAll recipe.transforms touch)
        (applyAll recipe.transforms otherTouch) ∧
      ∃ effect leftAfter rightAfter,
        recipe.mendReport touch = (.ok effect, leftAfter) ∧
          recipe.mendReport otherTouch = (.ok effect, rightAfter) ∧
          AgreeOn {1, 2, 3, 4, 5} leftAfter rightAfter := by
  have hagree : AgreeOn {1, 2, 3, 4, 5, 8, 9} touch otherTouch := by
    refine ⟨rfl, ?_⟩
    rintro offset (rfl | rfl | rfl | rfl | rfl | rfl | rfl) <;> rfl
  obtain ⟨hgeneral, hpen⟩ := applyAll_depends_on_named
  have hnamed : AgreeOn (named recipe.transforms) touch otherTouch := by
    rwa [named_transforms]
  exact ⟨hagree, (hgeneral _ _ _ hnamed).1, hpen _ _ hagree⟩

end HidMend.ArtistPro
