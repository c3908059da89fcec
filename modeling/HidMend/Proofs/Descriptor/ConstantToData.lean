import HidMend.Proofs.Descriptor.Patch

/-!
# Constant items turned into data

The change visits its items one after another, and a visit reads two bytes that earlier visits may
have written.  Pointwise it still says the same for all items at once: an item that was a constant
input before the first visit has the data byte behind it replaced, and every other byte stays.  The
reason is that the byte written is neither an item byte nor constant data, so that no visit makes
another item constant.  For the same reason nothing is left to change for a second run.
-/

namespace HidMend.ConstantToData

/-- A constant input item stands at the offset. -/
def IsConstant (bytes : Bytes) (item : ℕ) : Prop :=
  bytes[item]? = some inputItem ∧ bytes[item + 1]? = some constantInput

/-- The constant input items among `items`, and nothing else, have become data items. -/
structure Converted (items : List ℕ) (before after : Bytes) : Prop where
  length_eq : after.length = before.length
  data : ∀ item ∈ items, IsConstant before item → after[item + 1]? = some dataInput
  kept : ∀ offset, (∀ item ∈ items, item + 1 = offset → ¬IsConstant before item) →
    after[offset]? = before[offset]?

variable {items rest : List ℕ} {item other size : ℕ} {before middle after bytes : Bytes}

/-! ## One item -/

theorem applyItem_of_isConstant (hconstant : IsConstant bytes item) :
    applyItem item bytes = (.ok .changed, bytes.set (item + 1) dataInput) := by
  rw [applyItem_of_getElem? hconstant.1 hconstant.2]
  rfl

theorem applyItem_of_not_isConstant (hinside : item + 1 < bytes.length)
    (hconstant : ¬IsConstant bytes item) : applyItem item bytes = (.ok .unchanged, bytes) := by
  have hitem : bytes[item]? = some bytes[item] := List.getElem?_eq_getElem (by omega)
  have hdata : bytes[item + 1]? = some bytes[item + 1] := List.getElem?_eq_getElem hinside
  have hother : ¬(bytes[item] = inputItem ∧ bytes[item + 1] = constantInput) := by
    rintro ⟨hinput, hconst⟩
    exact hconstant ⟨by rw [hitem, hinput], by rw [hdata, hconst]⟩
  rw [applyItem_of_getElem? hitem hdata]
  simp [replacement, if_neg hother, Effect.ofBool]

/-- A visit makes no item constant, and of the constant ones it takes only its own. -/
theorem isConstant_set_iff (hconstant : IsConstant bytes item) :
    IsConstant (bytes.set (item + 1) dataInput) other ↔
      other ≠ item ∧ IsConstant bytes other := by
  obtain ⟨hinside, -⟩ := List.getElem?_eq_some_iff.mp hconstant.2
  have hwritten : (bytes.set (item + 1) dataInput)[item + 1]? = some dataInput :=
    List.getElem?_set_self hinside
  constructor
  · rintro ⟨hinput, hdata⟩
    have hbehind : item + 1 ≠ other := by
      rintro rfl
      rw [hwritten] at hinput
      exact absurd hinput (by decide)
    have hsame : other ≠ item := by
      rintro rfl
      rw [hwritten] at hdata
      exact absurd hdata (by decide)
    have hnext : item + 1 ≠ other + 1 := by omega
    rw [List.getElem?_set_ne hbehind] at hinput
    rw [List.getElem?_set_ne hnext] at hdata
    exact ⟨hsame, hinput, hdata⟩
  · rintro ⟨hsame, hinput, hdata⟩
    have hbehind : item + 1 ≠ other := by
      rintro rfl
      rw [hconstant.2] at hinput
      exact absurd hinput (by decide)
    have hnext : item + 1 ≠ other + 1 := by omega
    exact ⟨(List.getElem?_set_ne hbehind).trans hinput,
      (List.getElem?_set_ne hnext).trans hdata⟩

/-! ## Runs over the items -/

theorem Converted.refl_of_forall (hnone : ∀ item ∈ items, ¬IsConstant bytes item) :
    Converted items bytes bytes where
  length_eq := rfl
  data item hitem hconstant := absurd hconstant (hnone item hitem)
  kept _ _ := rfl

theorem Converted.cons_of_not_isConstant (hconstant : ¬IsConstant before item)
    (hrest : Converted rest before after) : Converted (item :: rest) before after where
  length_eq := hrest.length_eq
  data other hother hdata := by
    rcases List.mem_cons.mp hother with rfl | hlater
    · exact absurd hdata hconstant
    · exact hrest.data other hlater hdata
  kept offset hkept :=
    hrest.kept offset fun other hother => hkept other (List.mem_cons_of_mem _ hother)

theorem Converted.cons_of_isConstant (hconstant : IsConstant before item)
    (hrest : Converted rest (before.set (item + 1) dataInput) after) :
    Converted (item :: rest) before after where
  length_eq := hrest.length_eq.trans List.length_set
  data other hother hdata := by
    by_cases hsame : other = item
    · -- the byte is written now, and no later visit finds a constant item there
      subst hsame
      obtain ⟨hinside, -⟩ := List.getElem?_eq_some_iff.mp hconstant.2
      rw [hrest.kept (other + 1), List.getElem?_set_self hinside]
      intro later _ hlater hagain
      obtain rfl : later = other := by omega
      exact ((isConstant_set_iff hconstant).mp hagain).1 rfl
    · rcases List.mem_cons.mp hother with heq | hlater
      · exact absurd heq hsame
      · exact hrest.data other hlater ((isConstant_set_iff hconstant).mpr ⟨hsame, hdata⟩)
  kept offset hkept := by
    have hother : item + 1 ≠ offset := fun heq => hkept item List.mem_cons_self heq hconstant
    rw [hrest.kept offset, List.getElem?_set_ne hother]
    intro later hlater heq hagain
    exact hkept later (List.mem_cons_of_mem _ hlater) heq
      ((isConstant_set_iff hconstant).mp hagain).2

/-- A run over items inside the buffer converts them all. -/
theorem runSteps_applyItem (hinside : ∀ item ∈ items, item + 1 < bytes.length) (effect : Effect) :
    ∃ next after, Patch.runSteps applyItem items effect bytes = (.ok (effect.merge next), after) ∧
      Converted items bytes after ∧
      (next = .changed ↔ ∃ item ∈ items, IsConstant bytes item) := by
  induction items generalizing bytes effect with
  | nil =>
      refine ⟨.unchanged, bytes, ?_, Converted.refl_of_forall (by simp), by simp⟩
      rw [Patch.runSteps, Effect.merge_unchanged]
  | cons item rest ih =>
      have hrest : ∀ other ∈ rest, other + 1 < bytes.length := by
        intro other hother
        exact hinside other (List.mem_cons_of_mem _ hother)
      by_cases hconstant : IsConstant bytes item
      · have hwritten : ∀ other ∈ rest,
            other + 1 < (bytes.set (item + 1) dataInput).length := by
          simpa using hrest
        obtain ⟨next, after, hrun, hconverted, -⟩ := ih hwritten (effect.merge .changed)
        refine ⟨Effect.changed.merge next, after, ?_, hconverted.cons_of_isConstant hconstant, ?_⟩
        · rw [Patch.runSteps, applyItem_of_isConstant hconstant]
          simp only [hrun, Effect.merge_assoc]
        · rw [Effect.merge_eq_changed_iff]
          exact ⟨fun _ => ⟨item, List.mem_cons_self, hconstant⟩, fun _ => Or.inl rfl⟩
      · obtain ⟨next, after, hrun, hconverted, heffect⟩ := ih hrest effect
        refine ⟨next, after, ?_, hconverted.cons_of_not_isConstant hconstant, ?_⟩
        · rw [Patch.runSteps,
            applyItem_of_not_isConstant (hinside item List.mem_cons_self) hconstant]
          simp only [Effect.merge_unchanged, hrun]
        · rw [heffect]
          simp [hconstant]

/-- What has been converted has no constant item left to convert. -/
theorem Converted.not_isConstant (hconverted : Converted items before after)
    (hitem : item ∈ items) : ¬IsConstant after item := by
  rintro ⟨hinput, hdata⟩
  have hbefore : ¬IsConstant before item := by
    intro hconstant
    rw [hconverted.data item hitem hconstant] at hdata
    exact absurd hdata (by decide)
  have hkeptInput : after[item]? = before[item]? := by
    apply hconverted.kept
    rintro other hother rfl hconstant
    rw [hconverted.data other hother hconstant] at hinput
    exact absurd hinput (by decide)
  have hkeptData : after[item + 1]? = before[item + 1]? := by
    apply hconverted.kept
    intro other _ heq hconstant
    obtain rfl : other = item := by omega
    exact hbefore hconstant
  exact hbefore ⟨hkeptInput ▸ hinput, hkeptData ▸ hdata⟩

/-- Without a constant item there is nothing to convert. -/
theorem Converted.eq_of_forall (hconverted : Converted items before after)
    (hnone : ∀ item ∈ items, ¬IsConstant before item) : after = before := by
  apply List.ext_getElem?
  intro offset
  exact hconverted.kept offset fun item hitem _ => hnone item hitem

end HidMend.ConstantToData

namespace HidMend.Patch

open ConstantToData

variable {change : ConstantToData} {size : ℕ} {bytes after : Bytes} {patched : PatchResult}

/-! ## The whole change -/

/-- A descriptor of the other layout is left alone. -/
theorem apply_constantToData_of_not_holds (hsize : size ≤ bytes.length)
    (hlayout : change.discriminator.holds (bytes.take size) = false) :
    (constantToData change).apply size bytes = (.ok ⟨size, .unchanged⟩, bytes) := by
  rw [apply.eq_def, if_neg (Nat.not_lt.mpr hsize)]
  simp [hlayout]

/-- On its layout, a change that fits converts its items. -/
theorem apply_constantToData_of_holds (hfits : (constantToData change).Fits size bytes)
    (hlayout : change.discriminator.holds (bytes.take size) = true) :
    ∃ effect after, (constantToData change).apply size bytes = (.ok ⟨size, effect⟩, after) ∧
      Converted change.items bytes after ∧
      (effect = .changed ↔ ∃ item ∈ change.items, IsConstant bytes item) := by
  obtain ⟨hsize, hitems⟩ := hfits
  have hinside : ∀ item ∈ change.items, item + 1 < bytes.length := by
    intro item hitem
    have hend := (hitems hlayout item hitem).2
    omega
  have hall : (change.items.all fun offset => Buffer.fits size offset 2) = true := by
    simpa only [List.all_eq_true, Buffer.fits_iff] using hitems hlayout
  obtain ⟨effect, after, hrun, hconverted, heffect⟩ := runSteps_applyItem hinside .unchanged
  refine ⟨effect, after, ?_, hconverted, heffect⟩
  rw [apply.eq_def, if_neg (Nat.not_lt.mpr hsize)]
  simp only [if_pos hlayout, if_pos hall, inPlace, hrun, Effect.unchanged_merge]

/-- A change finds nothing to do in what it has left, even if it has rewritten the byte that tells
the layouts apart. -/
theorem apply_constantToData_again
    (happly : (constantToData change).apply size bytes = (.ok patched, after)) :
    patched.size = size ∧
      (constantToData change).apply size after = (.ok ⟨size, .unchanged⟩, after) := by
  have hfits := fits_of_apply_eq_ok happly
  cases hlayout : change.discriminator.holds (bytes.take size) with
  | false =>
      have hsame := apply_constantToData_of_not_holds hfits.1 hlayout
      rw [hsame] at happly
      cases happly
      exact ⟨rfl, hsame⟩
  | true =>
      obtain ⟨effect, left, hleft, hconverted, -⟩ := apply_constantToData_of_holds hfits hlayout
      rw [hleft] at happly
      cases happly
      have hsize : size ≤ after.length := hconverted.length_eq ▸ hfits.1
      refine ⟨rfl, ?_⟩
      cases hagain : change.discriminator.holds (after.take size) with
      | false => exact apply_constantToData_of_not_holds hsize hagain
      | true =>
          obtain ⟨second, final, hfinal, hsecond, heffect⟩ :=
            apply_constantToData_of_holds ⟨hsize, fun _ => hfits.2 hlayout⟩ hagain
          have hnone : ∀ item ∈ change.items, ¬IsConstant after item :=
            fun item hitem => hconverted.not_isConstant hitem
          have hunchanged : second = .unchanged := by
            cases second with
            | unchanged => rfl
            | changed =>
                obtain ⟨item, hitem, hconstant⟩ := heffect.mp rfl
                exact absurd hconstant (hnone item hitem)
          rw [hfinal, hunchanged, hsecond.eq_of_forall hnone]

end HidMend.Patch
