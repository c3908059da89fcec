import HidMend.Effect
import HidMend.Proofs.Buffer.Access
import Mathlib.Data.Set.Basic

/-!
# Rewrites of a buffer

Descriptor patches and report transforms are stages over one buffer, and what they promise has one
form: the length stays, bytes outside a set of offsets stay, and a stage that claims to have changed
nothing has changed nothing.  Rewrites compose as the effects of stages merge, so a run keeps every
promise that each of its stages keeps.
-/

namespace HidMend

/-- A stage that may write at the offsets in `touched` turned `before` into `after` and reported
`effect`. -/
structure Rewrite (touched : Set ℕ) (effect : Effect) (before after : Bytes) : Prop where
  length_eq : after.length = before.length
  getElem?_eq : ∀ offset ∉ touched, after[offset]? = before[offset]?
  eq_of_unchanged : effect = .unchanged → after = before

namespace Rewrite

variable {touched larger : Set ℕ} {effect next : Effect} {before middle after : Bytes}

/-- A buffer that stays as it is keeps every promise, whatever is reported. -/
theorem refl (touched : Set ℕ) (effect : Effect) (bytes : Bytes) :
    Rewrite touched effect bytes bytes :=
  ⟨rfl, fun _ _ => rfl, fun _ => rfl⟩

theorem trans (hfirst : Rewrite touched effect before middle)
    (hsecond : Rewrite touched next middle after) :
    Rewrite touched (effect.merge next) before after where
  length_eq := hsecond.length_eq.trans hfirst.length_eq
  getElem?_eq offset houtside :=
    (hsecond.getElem?_eq offset houtside).trans (hfirst.getElem?_eq offset houtside)
  eq_of_unchanged hmerge := by
    obtain ⟨heffect, hnext⟩ := Effect.merge_eq_unchanged_iff.mp hmerge
    rw [hsecond.eq_of_unchanged hnext, hfirst.eq_of_unchanged heffect]

theorem mono (hsubset : touched ⊆ larger) (hrewrite : Rewrite touched effect before after) :
    Rewrite larger effect before after where
  length_eq := hrewrite.length_eq
  getElem?_eq offset houtside :=
    hrewrite.getElem?_eq offset fun htouched => houtside (hsubset htouched)
  eq_of_unchanged := hrewrite.eq_of_unchanged

/-- Whether a stage really changed its buffer may be left open. -/
theorem changed (hrewrite : Rewrite touched effect before after) :
    Rewrite touched .changed before after where
  length_eq := hrewrite.length_eq
  getElem?_eq := hrewrite.getElem?_eq
  eq_of_unchanged := nofun

/-- Replacing one byte, with the report that this very byte differs. -/
theorem set {offset : ℕ} {current : UInt8} (value : UInt8)
    (hcurrent : before[offset]? = some current) (htouched : offset ∈ touched) :
    Rewrite touched (Effect.ofBool (value != current)) before (before.set offset value) where
  length_eq := List.length_set
  getElem?_eq other houtside := by
    have hother : offset ≠ other := fun heq => houtside (heq ▸ htouched)
    exact List.getElem?_set_ne hother
  eq_of_unchanged hunchanged :=
    (Buffer.set_eq_self_iff value hcurrent).mpr (by simpa using hunchanged)

/-- Replacing the two bytes of a word, with the report that the word differs. -/
theorem setWord {offset : ℕ} {current : UInt16} (value : UInt16)
    (hlow : before[offset]? = some (Buffer.lowByte current))
    (hhigh : before[offset + 1]? = some (Buffer.highByte current))
    (htouchedLow : offset ∈ touched) (htouchedHigh : offset + 1 ∈ touched) :
    Rewrite touched (Effect.ofBool (value != current)) before
      ((before.set offset (Buffer.lowByte value)).set (offset + 1) (Buffer.highByte value)) where
  length_eq := by rw [List.length_set, List.length_set]
  getElem?_eq other houtside := by
    have hotherLow : offset ≠ other := fun heq => houtside (heq ▸ htouchedLow)
    have hotherHigh : offset + 1 ≠ other := fun heq => houtside (heq ▸ htouchedHigh)
    rw [List.getElem?_set_ne hotherHigh, List.getElem?_set_ne hotherLow]
  eq_of_unchanged hunchanged :=
    (Buffer.setWord_eq_self_iff value hlow hhigh).mpr (by simpa using hunchanged)

end Rewrite

end HidMend
