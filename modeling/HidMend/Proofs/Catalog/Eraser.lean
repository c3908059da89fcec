import HidMend.Proofs.Catalog.ArtistPro

/-!
# The touch of the eraser

Tip, invert and in range together tell that the eraser touches the surface.  The recipe flips three
bits of such a status at once.  For tip and invert, which are set, this is to clear them, and bits
outside of the flip stay.  The bit of the eraser is not part of the trigger: it comes out set where
it came in clear, and where it came in set it is lost.
-/

namespace HidMend

namespace BitFix

variable {fix : BitFix} {byte mask : UInt8}

/-- A bit of the trigger is set wherever the fix fires. -/
theorem and_eq_of_trigger (hfires : byte &&& fix.trigger = fix.trigger)
    (htrigger : fix.trigger &&& mask = mask) : byte &&& mask = mask :=
  calc
    byte &&& mask = byte &&& (fix.trigger &&& mask) := by rw [htrigger]
    _ = (byte &&& fix.trigger) &&& mask := (UInt8.and_assoc _ _ _).symm
    _ = mask := by rw [hfires, htrigger]

theorem resolve_and_of_trigger (hfires : byte &&& fix.trigger = fix.trigger) (mask : UInt8) :
    fix.resolve byte &&& mask = (byte &&& mask) ^^^ (fix.flip &&& mask) := by
  rw [resolve_of_fires hfires, xor_and_eq]

/-- What is in the trigger and flipped ends clear. -/
theorem resolve_and_eq_zero (hfires : byte &&& fix.trigger = fix.trigger)
    (htrigger : fix.trigger &&& mask = mask) (hflip : fix.flip &&& mask = mask) :
    fix.resolve byte &&& mask = 0 := by
  rw [resolve_and_of_trigger hfires, and_eq_of_trigger hfires htrigger, hflip, UInt8.xor_self]

/-- What is not flipped is kept. -/
theorem resolve_and_eq_and (hfires : byte &&& fix.trigger = fix.trigger)
    (hspared : fix.flip &&& mask = 0) : fix.resolve byte &&& mask = byte &&& mask := by
  rw [resolve_and_of_trigger hfires, hspared, UInt8.xor_zero]

/-- A bit of the flip comes out set exactly where it came in clear. -/
theorem resolve_and_eq_mask_iff (hfires : byte &&& fix.trigger = fix.trigger)
    (hflip : fix.flip &&& mask = mask) :
    fix.resolve byte &&& mask = mask ↔ byte &&& mask = 0 := by
  rw [resolve_and_of_trigger hfires, hflip]
  constructor
  · intro hset
    rw [← UInt8.xor_left_inj mask, hset, UInt8.zero_xor]
  · intro hclear
    rw [hclear, UInt8.zero_xor]

end BitFix

namespace ArtistPro

/-- A status tells that the eraser touches, whatever else it tells. -/
def EraserTouches (status : UInt8) : Prop :=
  status &&& eraserTouch = eraserTouch

/-- What a status tells besides tip, invert and eraser: in range, both switches of the barrel, and
two bits of padding. -/
def otherBits (status : UInt8) : UInt8 :=
  status &&& ~~~(Status.tipSwitch ||| Status.invert ||| Status.eraser)

/-- The tip is taken back and the pen turned round, and nothing is said about the eraser. -/
structure LiftsTip (before after : UInt8) : Prop where
  tip_clear : after &&& Status.tipSwitch = 0
  invert_clear : after &&& Status.invert = 0
  others_kept : otherBits after = otherBits before

/-- The eraser stands in place of tip and invert. -/
structure ShowsEraser (before after : UInt8) : Prop extends LiftsTip before after where
  eraser_set : after &&& Status.eraser = Status.eraser

variable {status : UInt8}

/-- The tip and the inversion end clear whenever the eraser touches. -/
theorem liftsTip_resolve (htouches : EraserTouches status) :
    LiftsTip status (eraserFix.resolve status) where
  tip_clear := BitFix.resolve_and_eq_zero htouches (by decide) (by decide)
  invert_clear := BitFix.resolve_and_eq_zero htouches (by decide) (by decide)
  others_kept := BitFix.resolve_and_eq_and htouches (by decide)

/-- The eraser ends set if and only if it was clear. -/
theorem showsEraser_resolve_iff (htouches : EraserTouches status) :
    ShowsEraser status (eraserFix.resolve status) ↔ status &&& Status.eraser = 0 := by
  have heraser : eraserFix.resolve status &&& Status.eraser = Status.eraser ↔
      status &&& Status.eraser = 0 := BitFix.resolve_and_eq_mask_iff htouches (by decide)
  constructor
  · intro hshows
    exact heraser.mp hshows.eraser_set
  · intro hclear
    exact ⟨liftsTip_resolve htouches, heraser.mpr hclear⟩

/-- Whenever the eraser touches, tip and invert are cleared and the other bits stay.  The eraser
takes their place if its own bit was clear, and only then. -/
theorem mendReport_shows_eraser_iff (report : Bytes) (hlong : 10 ≤ report.length)
    (htouches : EraserTouches (report.getD statusOffset 0)) :
    ∃ effect after, recipe.mendReport report = (.ok effect, after) ∧
      LiftsTip (report.getD statusOffset 0) (after.getD statusOffset 0) ∧
      (ShowsEraser (report.getD statusOffset 0) (after.getD statusOffset 0) ↔
        report.getD statusOffset 0 &&& Status.eraser = 0) := by
  obtain ⟨fields, rfl⟩ := PenReport.exists_bytes_eq hlong
  obtain ⟨effect, hmend, -⟩ := fields.mendReport_bytes
  refine ⟨effect, fields.corrected.bytes, hmend, ?_⟩
  have htouch : EraserTouches fields.status := htouches
  exact ⟨liftsTip_resolve htouch, showsEraser_resolve_iff htouch⟩

/-- A pen with its second barrel switch pressed touches with the eraser. -/
theorem mendReport_shows_eraser_iff_barrel :
    10 ≤ [0x07, 0x2D, 0, 0, 0, 0, 0, 0, 0, 0].length ∧ EraserTouches 0x2D ∧
      ∃ effect after,
        recipe.mendReport [0x07, 0x2D, 0, 0, 0, 0, 0, 0, 0, 0] = (.ok effect, after) ∧
          ShowsEraser 0x2D (after.getD statusOffset 0) := by
  have hlong : 10 ≤ [0x07, 0x2D, 0, 0, 0, 0, 0, 0, 0, 0].length := by decide
  have htouches : EraserTouches 0x2D := by rfl
  obtain ⟨effect, after, hmend, -, hshows⟩ :=
    mendReport_shows_eraser_iff [0x07, 0x2D, 0, 0, 0, 0, 0, 0, 0, 0] hlong htouches
  exact ⟨hlong, htouches, effect, after, hmend, hshows.mpr rfl⟩

/-- The eraser does not show in every report in which it touches: a status that has it already loses
it with tip and invert. -/
theorem eraser_lost_where_set :
    ¬∀ report : Bytes, 10 ≤ report.length → EraserTouches (report.getD statusOffset 0) →
      ∃ effect after, recipe.mendReport report = (.ok effect, after) ∧
        ShowsEraser (report.getD statusOffset 0) (after.getD statusOffset 0) := by
  intro halways
  obtain ⟨effect, after, hmend, hshows⟩ :=
    halways [0x07, 0x39, 0, 0, 0, 0, 0, 0, 0, 0] (by decide) rfl
  have hlost : recipe.mendReport [0x07, 0x39, 0, 0, 0, 0, 0, 0, 0, 0] =
      (.ok .changed, [0x07, 0x20, 0, 0, 0, 0, 0, 0, 0, 0]) := rfl
  rw [hlost] at hmend
  cases hmend
  exact absurd hshows.eraser_set (by decide)

end ArtistPro

end HidMend
