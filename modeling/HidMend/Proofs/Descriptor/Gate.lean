import HidMend.Proofs.Descriptor.Edit
import HidMend.Recipe

/-!
# Gates, and edits that close them

A gate refuses for one of two reasons: the size is another one, or a guarded byte is.  A recipe that
edits a byte its gate guards, and puts another value there, lets a descriptor in once.  The gate has
seen the factory value, so the edit finds it and replaces it; as no other edit has the same offset,
none puts it back.  What comes out has the old size and is refused for its guarded byte.
-/

namespace HidMend

namespace Gate

variable {gate : Gate} {size : ℕ} {descriptor : Bytes}

/-- A gate accepts the size it expects with all guards in place, and nothing else. -/
theorem check_eq_ok_iff :
    gate.check size descriptor = .ok () ↔
      size = gate.expectedSize ∧ ∀ guard ∈ gate.guards, guard.holds descriptor = true := by
  rw [check]
  by_cases hsize : size = gate.expectedSize
  · simp [hsize]
  · simp [hsize]

theorem exists_check_eq_error (hrefuse : ¬gate.check size descriptor = .ok ()) :
    ∃ reason, gate.check size descriptor = .error reason := by
  cases hcheck : gate.check size descriptor with
  | ok _ => exact absurd hcheck hrefuse
  | error reason => exact ⟨reason, rfl⟩

/-- A descriptor counts as patched if it has the right size and a guarded byte has changed. -/
theorem check_eq_alreadyPatched_iff :
    gate.check size descriptor = .error .alreadyPatched ↔
      size = gate.expectedSize ∧ ∃ guard ∈ gate.guards, guard.holds descriptor = false := by
  rw [check]
  by_cases hsize : size = gate.expectedSize
  · simp [hsize]
  · simp [hsize]

end Gate

namespace ByteEdit

/-- The byte that an edit waits for. -/
def awaited (edit : ByteEdit) : GuardedByte :=
  ⟨edit.offset, edit.expected⟩

variable {edits : List ByteEdit} {edit : ByteEdit} {before after : Bytes}

/-- An edit is awaited where its byte is as expected. -/
theorem awaited_holds_iff :
    edit.awaited.holds before = true ↔ before[edit.offset]? = some edit.expected :=
  beq_iff_eq

/-- An edit that finds the byte it waits for leaves its own value there. -/
theorem Edited.getElem?_of_awaited (hedited : Edited edits before after) (hedit : edit ∈ edits)
    (hholds : edit.awaited.holds before = true) : after[edit.offset]? = some edit.value := by
  rw [hedited.replaced edit hedit, awaited_holds_iff.mp hholds, Option.map_some, replacement,
    if_pos rfl]

/-- An edit that is made is no longer awaited. -/
theorem Edited.awaited_not_holds (hedited : Edited edits before after) (hedit : edit ∈ edits)
    (hdiffers : edit.value ≠ edit.expected) (hholds : edit.awaited.holds before = true) :
    edit.awaited.holds after = false := by
  rw [← Bool.not_eq_true, awaited_holds_iff, hedited.getElem?_of_awaited hedit hholds]
  exact fun hsame => hdiffers (Option.some.inj hsame)

end ByteEdit

namespace Patch

variable {edits : List ByteEdit} {size : ℕ} {bytes after : Bytes}

/-- A run of edits at distinct offsets leaves the one buffer in which all of them are done. -/
theorem apply_edit_of_edited (hdistinct : (edits.map ByteEdit.offset).Nodup)
    (hfits : (edit edits).Fits size bytes) (hedited : ByteEdit.Edited edits bytes after) :
    (edit edits).apply size bytes = (.ok ⟨size, Effect.ofBool (after != bytes)⟩, after) := by
  obtain ⟨effect, left, happly, hleft, heffect⟩ := apply_edit_of_fits hdistinct hfits
  obtain rfl : left = after := hleft.unique hedited
  have hexact : effect = Effect.ofBool (left != bytes) := by
    apply Effect.eq_of_changed_iff
    rw [heffect, Effect.ofBool_eq_changed_iff, bne_iff_ne]
  rw [happly, hexact]

end Patch

namespace Gate

/-- The gate guards a byte that one of the edits replaces by another value. -/
def GuardsEdit (gate : Gate) (edits : List ByteEdit) : Prop :=
  ∃ edit ∈ edits, edit.value ≠ edit.expected ∧ edit.awaited ∈ gate.guards

variable {gate : Gate} {edits : List ByteEdit} {size : ℕ} {before after : Bytes}

/-- On what a gate accepts, edits that it guards have an effect that it notices. -/
theorem GuardsEdit.check_edited (hguards : gate.GuardsEdit edits)
    (haccepts : gate.check size before = .ok ()) (hedited : ByteEdit.Edited edits before after) :
    gate.check size after = .error .alreadyPatched ∧ after ≠ before := by
  obtain ⟨edit, hedit, hdiffers, hguard⟩ := hguards
  obtain ⟨hsize, hholds⟩ := check_eq_ok_iff.mp haccepts
  have hbefore : edit.awaited.holds before = true := hholds _ hguard
  have hafter : edit.awaited.holds after = false :=
    hedited.awaited_not_holds hedit hdiffers hbefore
  constructor
  · exact check_eq_alreadyPatched_iff.mpr ⟨hsize, edit.awaited, hguard, hafter⟩
  · rintro rfl
    rw [hbefore] at hafter
    cases hafter

end Gate

namespace Recipe

variable {recipe : Recipe} {edits : List ByteEdit} {size : ℕ} {bytes after : Bytes}
  {patched : PatchResult}

/-- A guarded edit closes its own gate.  What a recipe with such an edit accepts and mends comes out
changed and with its size, is refused as patched from then on, and is not changed by the recipe a
second time. -/
theorem mendDescriptor_closes_gate (hpatch : recipe.patch = some (.edit edits))
    (hdistinct : (edits.map ByteEdit.offset).Nodup) (hguards : recipe.gate.GuardsEdit edits)
    (haccepts : recipe.gate.check size bytes = .ok ())
    (hmend : recipe.mendDescriptor size bytes = (.ok patched, after)) :
    patched = ⟨size, .changed⟩ ∧ after.length = bytes.length ∧
      recipe.gate.check size after = .error .alreadyPatched ∧
      recipe.mendDescriptor size after = (.ok ⟨size, .unchanged⟩, after) := by
  have hrun : ∀ buffer,
      recipe.mendDescriptor size buffer = (Patch.edit edits).apply size buffer := by
    intro buffer
    rw [mendDescriptor, hpatch]
  have hfits : (Patch.edit edits).Fits size bytes :=
    Patch.fits_of_apply_eq_ok ((hrun bytes).symm.trans hmend)
  obtain ⟨effect, left, happly, hedited, heffect⟩ := Patch.apply_edit_of_fits hdistinct hfits
  rw [hrun, happly] at hmend
  cases hmend
  obtain ⟨hclosed, hdiffers⟩ := hguards.check_edited haccepts hedited
  have hagain : (Patch.edit edits).Fits size after := ⟨hedited.length_eq ▸ hfits.1, hfits.2⟩
  refine ⟨?_, hedited.length_eq, hclosed, ?_⟩
  · rw [heffect.mpr hdiffers]
  · rw [hrun, Patch.apply_edit_of_edited hdistinct hagain hedited.again, bne_self_eq_false]
    rfl

/-- An edit of a guarded byte, and one of a byte that may have drifted. -/
def latchEdits : List ByteEdit :=
  [⟨1, 0x09, 0x01⟩, ⟨2, 0x45, 0x09⟩]

def latch : Recipe :=
  ⟨"latch", [], ⟨4, [⟨0, 0x05⟩, ⟨2, 0x45⟩]⟩, some (.edit latchEdits), 0, []⟩

/-- The byte behind the descriptor looks like the guarded one. -/
theorem mendDescriptor_closes_gate_latch :
    (latchEdits.map ByteEdit.offset).Nodup ∧ latch.gate.GuardsEdit latchEdits ∧
      latch.gate.check 4 [0x05, 0x0D, 0x45, 0xC0, 0x45] = .ok () ∧
      latch.mendDescriptor 4 [0x05, 0x0D, 0x45, 0xC0, 0x45] =
        (.ok ⟨4, .changed⟩, [0x05, 0x0D, 0x09, 0xC0, 0x45]) ∧
      latch.gate.check 4 [0x05, 0x0D, 0x09, 0xC0, 0x45] = .error .alreadyPatched ∧
      latch.mendDescriptor 4 [0x05, 0x0D, 0x09, 0xC0, 0x45] =
        (.ok ⟨4, .unchanged⟩, [0x05, 0x0D, 0x09, 0xC0, 0x45]) := by
  have hdistinct : (latchEdits.map ByteEdit.offset).Nodup := by decide
  have hguards : latch.gate.GuardsEdit latchEdits :=
    ⟨⟨2, 0x45, 0x09⟩, by decide, by decide, by decide⟩
  have haccepts : latch.gate.check 4 [0x05, 0x0D, 0x45, 0xC0, 0x45] = .ok () := rfl
  have hmend : latch.mendDescriptor 4 [0x05, 0x0D, 0x45, 0xC0, 0x45] =
      (.ok ⟨4, .changed⟩, [0x05, 0x0D, 0x09, 0xC0, 0x45]) := rfl
  obtain ⟨-, -, hclosed, hagain⟩ :=
    mendDescriptor_closes_gate rfl hdistinct hguards haccepts hmend
  exact ⟨hdistinct, hguards, haccepts, hmend, hclosed, hagain⟩

end Recipe

end HidMend
