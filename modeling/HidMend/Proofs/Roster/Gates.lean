import HidMend.Proofs.Roster.Attach

/-!
# Attachment is the gate filter over the claimants

Accepting and refusing gates may alternate in any way among the claimants of a device.  Attachment
keeps exactly those that accept, in roster order.  A refusal is reported only if nobody accepts, and
it is that of the first claimant, since then the first claimant is among those that refuse.
-/

namespace HidMend.Roster

variable {roster : Roster} {device : DeviceId} {size : ℕ} {descriptor : Bytes}

theorem isOk_accepts_iff {mender : Mender} :
    (mender.accepts size descriptor).isOk = true ↔ mender.accepts size descriptor = .ok () := by
  cases mender.accepts size descriptor with
  | ok _ => simp [Except.isOk, Except.toBool]
  | error reason => simp [Except.isOk, Except.toBool]

/-- Nobody accepts if and only if every claimant refuses. -/
theorem accepting_eq_nil_iff :
    roster.accepting device size descriptor = [] ↔
      ∀ mender ∈ roster.claimants device,
        ∃ reason, mender.accepts size descriptor = .error reason := by
  rw [accepting, List.filter_eq_nil_iff]
  refine forall₂_congr fun mender _ => ?_
  cases mender.accepts size descriptor with
  | ok _ => simp [Except.isOk, Except.toBool]
  | error reason => simp [Except.isOk, Except.toBool]

theorem accepting_ne_nil_iff :
    roster.accepting device size descriptor ≠ [] ↔
      ∃ mender ∈ roster.claimants device, mender.accepts size descriptor = .ok () := by
  rw [accepting, Ne, List.filter_eq_nil_iff]
  simp only [isOk_accepts_iff, not_forall, not_not, exists_prop]

/-! ## The three ways in which attaching ends -/

theorem attachUnchecked_of_claimants_ne_nil (hsome : roster.claimants device ≠ []) :
    roster.attachUnchecked device = .ok ⟨device, roster.claimants device⟩ := by
  obtain ⟨first, rest, hclaimants⟩ := List.exists_cons_of_ne_nil hsome
  rw [attachUnchecked, hclaimants]

theorem attach_of_claimants_eq_nil (hnone : roster.claimants device = []) :
    roster.attach device size descriptor = .error (.noMender device) := by
  rw [attach, hnone]
  rfl

/-- If every claimant refuses, the first one to refuse is the first claimant. -/
theorem attach_of_refusals {first : Mender} {rest : List Mender}
    (hclaimants : roster.claimants device = first :: rest)
    (hrefuse : ∀ mender ∈ roster.claimants device,
      ∃ reason, mender.accepts size descriptor = .error reason) :
    ∃ reason, first.accepts size descriptor = .error reason ∧
      roster.attach device size descriptor = .error (.declined device first.name reason) := by
  have hnone : roster.accepting device size descriptor = [] := accepting_eq_nil_iff.mpr hrefuse
  obtain ⟨reason, hreason⟩ := hrefuse first (hclaimants ▸ List.mem_cons_self)
  refine ⟨reason, hreason, ?_⟩
  rw [attach_eq_of_accepting_eq_nil hnone, hclaimants]
  simp [refusal?, hreason]

/-! ## Attaching and its faults -/

/-- Attaching unasked fails for want of claimants only. -/
theorem attachUnchecked_eq_noMender_iff :
    roster.attachUnchecked device = .error (.noMender device) ↔ roster.claimants device = [] := by
  constructor
  · intro hfault
    by_contra hsome
    rw [attachUnchecked_of_claimants_ne_nil hsome] at hfault
    cases hfault
  · intro hnone
    rw [attachUnchecked, hnone]

/-- Gates may refuse, but it takes a device without claimants to have no mender. -/
theorem attach_eq_noMender_iff :
    roster.attach device size descriptor = .error (.noMender device) ↔
      roster.claimants device = [] := by
  refine ⟨?_, attach_of_claimants_eq_nil⟩
  intro hfault
  by_contra hsome
  obtain ⟨first, rest, hclaimants⟩ := List.exists_cons_of_ne_nil hsome
  by_cases haccepting : roster.accepting device size descriptor = []
  · obtain ⟨reason, -, hdeclined⟩ :=
      attach_of_refusals hclaimants (accepting_eq_nil_iff.mp haccepting)
    rw [hdeclined] at hfault
    cases hfault
  · rw [attach_eq_of_accepting_ne_nil haccepting] at hfault
    cases hfault

/-- What is attached is some of what is attached unasked. -/
theorem sublist_of_attach {attachment : Attachment}
    (hattach : roster.attach device size descriptor = .ok attachment) :
    attachment.menders ≠ [] ∧ ∃ all, roster.attachUnchecked device = .ok all ∧
      attachment.device = all.device ∧ attachment.menders.Sublist all.menders := by
  have haccepting : roster.accepting device size descriptor ≠ [] := by
    intro hnone
    rw [attach_eq_of_accepting_eq_nil hnone] at hattach
    cases hattach
  obtain ⟨mender, hmender, -⟩ := accepting_ne_nil_iff.mp haccepting
  rw [attach_eq_of_accepting_ne_nil haccepting] at hattach
  cases hattach
  exact ⟨haccepting, ⟨device, roster.claimants device⟩,
    attachUnchecked_of_claimants_ne_nil (List.ne_nil_of_mem hmender), rfl, List.filter_sublist⟩

/-- What asking the gates of some claimants must come to, beside attaching all of them unasked. -/
structure FilteredByGates (claimants : List Mender) (device : DeviceId) (size : ℕ)
    (descriptor : Bytes) (unchecked attached : Except AttachFault Attachment) : Prop where
  unchecked_eq_noMender_iff : unchecked = .error (.noMender device) ↔ claimants = []
  eq_noMender_iff : attached = .error (.noMender device) ↔ claimants = []
  eq_declined : ∀ first rest, claimants = first :: rest →
    (∀ mender ∈ claimants, ∃ reason, mender.accepts size descriptor = .error reason) →
    ∃ reason, first.accepts size descriptor = .error reason ∧
      attached = .error (.declined device first.name reason)
  eq_accepting : (∃ mender ∈ claimants, mender.accepts size descriptor = .ok ()) →
    attached =
      .ok ⟨device, claimants.filter fun mender => (mender.accepts size descriptor).isOk⟩
  sublist_unchecked : ∀ attachment, attached = .ok attachment →
    attachment.menders ≠ [] ∧ ∃ all, unchecked = .ok all ∧ attachment.device = all.device ∧
      attachment.menders.Sublist all.menders

/-- Attachment filters by their gates the menders that claim the device, whatever the menders
are. -/
theorem attach_filters_claimants (roster : Roster) (device : DeviceId) (size : ℕ)
    (descriptor : Bytes) :
    FilteredByGates (roster.menders.filter fun mender => mender.claims device roster.strict) device
      size descriptor (roster.attachUnchecked device) (roster.attach device size descriptor) where
  unchecked_eq_noMender_iff := attachUnchecked_eq_noMender_iff
  eq_noMender_iff := attach_eq_noMender_iff
  eq_declined _ _ hclaimants hrefuse := attach_of_refusals hclaimants hrefuse
  eq_accepting haccepts := attach_eq_of_accepting_ne_nil (accepting_ne_nil_iff.mpr haccepts)
  sublist_unchecked _ hattach := sublist_of_attach hattach

/-- Four recipes for one device, whose gates ask for different sizes, and one for another device
among them. -/
def alternating : Roster :=
  ofModules
    ([⟨"large", [.usb 1 1], .sizeOnly 3, none, 0, []⟩,
      ⟨"fitting", [.usb 1 1], .sizeOnly 2, none, 0, []⟩,
      ⟨"foreign", [.usb 1 2], .sizeOnly 2, none, 0, []⟩,
      ⟨"small", [.usb 1 1], .sizeOnly 1, none, 0, []⟩,
      ⟨"exact", [.usb 1 1], .sizeOnly 2, none, 0, []⟩].map Recipe.toMender)

/-- Refusals in front of what attaches and between it are not reported.  The first of them is as
soon as nothing attaches. -/
theorem attach_filters_claimants_alternating :
    (∃ all, alternating.attachUnchecked (.usb 1 1) = .ok all ∧
      all.menders.map Mender.name = ["large", "fitting", "small", "exact"] ∧
      ∃ attachment, alternating.attach (.usb 1 1) 2 [0x05, 0x0D] = .ok attachment ∧
        attachment.menders.map Mender.name = ["fitting", "exact"] ∧
        attachment.menders.Sublist all.menders) ∧
    alternating.attach (.usb 1 1) 0 [] = .error (.declined (.usb 1 1) "large" .sizeMismatch) ∧
    alternating.attach (.usb 1 3) 2 [0x05, 0x0D] = .error (.noMender (.usb 1 3)) := by
  have hfitting := attach_filters_claimants alternating (.usb 1 1) 2 [0x05, 0x0D]
  have hempty := attach_filters_claimants alternating (.usb 1 1) 0 []
  have hunknown := attach_filters_claimants alternating (.usb 1 3) 2 [0x05, 0x0D]
  have hattach := hfitting.eq_accepting ⟨_, List.mem_cons_of_mem _ List.mem_cons_self, rfl⟩
  obtain ⟨-, all, hall, -, hsublist⟩ := hfitting.sublist_unchecked _ hattach
  obtain ⟨reason, hreason, hdeclined⟩ := hempty.eq_declined _ _ rfl (accepting_eq_nil_iff.mp rfl)
  cases hall
  cases hreason
  exact ⟨⟨_, rfl, by decide, _, hattach, by decide, hsublist⟩, hdeclined,
    hunknown.eq_noMender_iff.mpr rfl⟩

end HidMend.Roster
