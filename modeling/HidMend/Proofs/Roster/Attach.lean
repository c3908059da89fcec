import HidMend.Roster
import Mathlib.Tactic.Common

/-!
# What a roster attaches

Asking the gates in turn keeps the claimants that accept, in roster order, and remembers the first
that refuses.  Whichever way an attachment comes about, its menders are some of the roster's, each
of which claims the device.
-/

namespace HidMend.Roster

/-- The roster of the menders that follow the given recipes. -/
def ofRecipes (recipes : List Recipe) (strict : Bool) : Roster :=
  ⟨recipes.map Recipe.toMender, strict⟩

/-- The claimants whose gates accept a descriptor. -/
def accepting (roster : Roster) (device : DeviceId) (size : ℕ) (descriptor : Bytes) :
    List Mender :=
  (roster.claimants device).filter fun mender => (mender.accepts size descriptor).isOk

/-- How a mender refuses a descriptor, if its gate does. -/
def refusal? (device : DeviceId) (size : ℕ) (descriptor : Bytes) (mender : Mender) :
    Option AttachFault :=
  match mender.accepts size descriptor with
  | .ok () => none
  | .error reason => some (.declined device mender.name reason)

/-- The fold over the claimants keeps those that accept and remembers the first refusal. -/
theorem foldl_attachStep (device : DeviceId) (size : ℕ) (descriptor : Bytes)
    (menders accepted : List Mender) (refusal : Option AttachFault) :
    menders.foldl (attachStep device size descriptor) (accepted, refusal) =
      (accepted ++ menders.filter fun mender => (mender.accepts size descriptor).isOk,
        refusal.or (menders.findSome? (refusal? device size descriptor))) := by
  induction menders generalizing accepted refusal with
  | nil => simp
  | cons mender rest ih =>
      rw [List.foldl_cons]
      cases haccepts : mender.accepts size descriptor with
      | ok _ =>
          have hstep : attachStep device size descriptor (accepted, refusal) mender =
              (accepted ++ [mender], refusal) := by
            simp only [attachStep, haccepts]
          rw [hstep, ih]
          simp [refusal?, haccepts, Except.isOk, Except.toBool]
      | error reason =>
          have hstep : attachStep device size descriptor (accepted, refusal) mender =
              (accepted, refusal.or (some (.declined device mender.name reason))) := by
            simp only [attachStep, haccepts]
          rw [hstep, ih]
          simp [refusal?, haccepts, Except.isOk, Except.toBool]

theorem attach_eq_of_accepting_eq_nil {roster : Roster} {device : DeviceId} {size : ℕ}
    {descriptor : Bytes} (hnone : roster.accepting device size descriptor = []) :
    roster.attach device size descriptor =
      .error (((roster.claimants device).findSome? (refusal? device size descriptor)).getD
        (.noMender device)) := by
  rw [accepting] at hnone
  rw [attach, foldl_attachStep, hnone]
  rfl

theorem attach_eq_of_accepting_ne_nil {roster : Roster} {device : DeviceId} {size : ℕ}
    {descriptor : Bytes} (hsome : roster.accepting device size descriptor ≠ []) :
    roster.attach device size descriptor =
      .ok ⟨device, roster.accepting device size descriptor⟩ := by
  obtain ⟨mender, rest, haccepting⟩ := List.exists_cons_of_ne_nil hsome
  rw [accepting] at haccepting
  rw [attach, foldl_attachStep, accepting, haccepting]
  rfl

end HidMend.Roster

namespace HidMend.Attachment

/-- The menders of an attachment are some of a roster's, in its order, and all claim the device. -/
structure DrawnFrom (attachment : Attachment) (roster : Roster) : Prop where
  ne_nil : attachment.menders ≠ []
  sublist : attachment.menders.Sublist roster.menders
  claims : ∀ mender ∈ attachment.menders,
    mender.claims attachment.device roster.strict = true

variable {attachment : Attachment} {roster : Roster} {device : DeviceId}

theorem DrawnFrom.of_sublist_claimants {menders : List Mender} (hsome : menders ≠ [])
    (hsublist : menders.Sublist (roster.claimants device)) :
    DrawnFrom ⟨device, menders⟩ roster where
  ne_nil := hsome
  sublist := hsublist.trans List.filter_sublist
  claims _ hmender := (List.mem_filter.mp (hsublist.subset hmender)).2

theorem drawnFrom_attachUnchecked (hattach : roster.attachUnchecked device = .ok attachment) :
    attachment.device = device ∧ attachment.DrawnFrom roster := by
  rw [Roster.attachUnchecked] at hattach
  split at hattach
  case h_1 hnone => cases hattach
  case h_2 hsome =>
    cases hattach
    exact ⟨rfl, .of_sublist_claimants hsome (List.Sublist.refl _)⟩

/-- What is attached is drawn from the claimants. -/
theorem drawnFrom_attach {size : ℕ} {descriptor : Bytes}
    (hattach : roster.attach device size descriptor = .ok attachment) :
    attachment.device = device ∧ attachment.DrawnFrom roster := by
  by_cases hnone : roster.accepting device size descriptor = []
  · rw [Roster.attach_eq_of_accepting_eq_nil hnone] at hattach
    cases hattach
  · rw [Roster.attach_eq_of_accepting_ne_nil hnone] at hattach
    cases hattach
    exact ⟨rfl, .of_sublist_claimants hnone List.filter_sublist⟩

theorem DrawnFrom.exists_recipe {recipes : List Recipe} {strict : Bool}
    (hdrawn : attachment.DrawnFrom (Roster.ofRecipes recipes strict)) :
    ∀ mender ∈ attachment.menders, ∃ recipe : Recipe, mender = recipe.toMender := by
  intro mender hmender
  obtain ⟨recipe, -, hrecipe⟩ := List.mem_map.mp (hdrawn.sublist.subset hmender)
  exact ⟨recipe, hrecipe.symm⟩

end HidMend.Attachment
