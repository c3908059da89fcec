import HidMend.Proofs.Roster.Builtin
import Mathlib.Data.List.Nodup

/-!
# Settings leave out what they name

Settings list names, in any order and as often as they like.  A name that no built-in mender has is
refused, the first of them if there are several.  If all names are known, the roster is the built-in
one without the menders of these names, so nothing but the set of the names matters.  A mender that
is left out comes to light nowhere, not even as the one that declined a device; all others are found
where they would be found if nothing had been left out.
-/

namespace HidMend

namespace Catalog

/-- The names of the built-in menders. -/
def names : List String :=
  menders.map Mender.name

theorem nodup_names : names.Nodup := by decide

end Catalog

theorem Settings.disables_iff {settings : Settings} {name : String} :
    settings.disables name = true ↔ name ∈ settings.disabled := by
  simp [disables]

namespace Roster

/-- A roster without the menders of the given names. -/
def without (roster : Roster) (names : List String) : Roster :=
  ⟨roster.menders.filter fun mender => mender.name ∉ names, roster.strict⟩

/-- All built-in menders, under any strictness. -/
def complete (strict : Bool) : Roster :=
  ⟨Catalog.menders, strict⟩

variable {roster : Roster} {names others : List String} {name : String} {mender : Mender}
  {device : DeviceId} {size : ℕ} {descriptor : Bytes}

/-! ## Finding menders by name -/

theorem find?_eq_none_iff : roster.find? name = none ↔ name ∉ roster.menders.map Mender.name := by
  simp [find?]

theorem find?_of_mem (hnodup : (roster.menders.map Mender.name).Nodup)
    (hmem : mender ∈ roster.menders) : roster.find? mender.name = some mender := by
  cases hfind : roster.find? mender.name with
  | none => exact absurd (List.mem_map_of_mem hmem) (find?_eq_none_iff.mp hfind)
  | some found =>
      have hfound : found ∈ roster.menders := List.mem_of_find?_eq_some hfind
      have hname : found.name = mender.name := by simpa using List.find?_some hfind
      rw [List.inj_on_of_nodup_map hnodup hfound hmem hname]

/-! ## Leaving menders out -/

theorem mem_without_iff :
    mender ∈ (roster.without names).menders ↔ mender ∈ roster.menders ∧ mender.name ∉ names := by
  simp [without]

/-- Order and repetition of the names do not matter. -/
theorem without_congr (hsame : ∀ name, name ∈ names ↔ name ∈ others) (roster : Roster) :
    roster.without names = roster.without others := by
  simp only [without, hsame]

/-- What is left out is not found by its name. -/
theorem find?_without_of_mem (hname : name ∈ names) : (roster.without names).find? name = none := by
  rw [find?_eq_none_iff, List.mem_map]
  rintro ⟨mender, hmender, rfl⟩
  exact (mem_without_iff.mp hmender).2 hname

theorem find?_without_of_not_mem (hnodup : (roster.menders.map Mender.name).Nodup)
    (hmem : mender ∈ roster.menders) (hname : mender.name ∉ names) :
    (roster.without names).find? mender.name = some mender :=
  find?_of_mem (hnodup.sublist (List.filter_sublist.map _)) (mem_without_iff.mpr ⟨hmem, hname⟩)

/-- Leaving out menders leaves out the same claimants, and keeps the others in order. -/
theorem claimants_without (roster : Roster) (names : List String) (device : DeviceId) :
    (roster.without names).claimants device =
      (roster.claimants device).filter fun mender => mender.name ∉ names := by
  simp only [claimants, without, List.filter_filter, Bool.and_comm]

theorem not_mem_of_claimant (hmender : mender ∈ (roster.without names).claimants device) :
    mender.name ∉ names := by
  rw [claimants_without, List.mem_filter, decide_eq_true_iff] at hmender
  exact hmender.2

theorem not_mem_of_drawnFrom {attachment : Attachment}
    (hdrawn : attachment.DrawnFrom (roster.without names)) (hmender : mender ∈ attachment.menders) :
    mender.name ∉ names :=
  (mem_without_iff.mp (hdrawn.sublist.subset hmender)).2

/-- The mender that is said to have declined is one of the claimants. -/
theorem exists_claimant_of_declined {refused : DeviceId} {reason : Fault}
    (hattach : roster.attach device size descriptor = .error (.declined refused name reason)) :
    ∃ mender ∈ roster.claimants device, mender.name = name := by
  by_cases haccepting : roster.accepting device size descriptor = []
  · cases hclaimants : roster.claimants device with
    | nil =>
        rw [attach_of_claimants_eq_nil hclaimants] at hattach
        cases hattach
    | cons first rest =>
        obtain ⟨_, -, hdeclined⟩ :=
          attach_of_refusals hclaimants (accepting_eq_nil_iff.mp haccepting)
        rw [hdeclined] at hattach
        cases hattach
        exact ⟨first, List.mem_cons_self, rfl⟩
  · rw [attach_eq_of_accepting_ne_nil haccepting] at hattach
    cases hattach

/-! ## Settings -/

variable {settings other : Settings}

theorem isNone_find?_builtin_iff : (builtin.find? name).isNone = true ↔ name ∉ Catalog.names := by
  rw [Option.isNone_iff_eq_none, find?_eq_none_iff]
  rfl

/-- Settings fail with the first of their names that no mender has. -/
theorem ofSettings_eq_error_iff :
    ofSettings settings = .error name ↔
      ∃ front rest, settings.disabled = front ++ name :: rest ∧ name ∉ Catalog.names ∧
        ∀ earlier ∈ front, earlier ∈ Catalog.names := by
  have hfirst : ofSettings settings = .error name ↔
      settings.disabled.find? (fun name => (builtin.find? name).isNone) = some name := by
    rw [ofSettings]
    cases settings.disabled.find? fun name => (builtin.find? name).isNone <;> simp
  rw [hfirst, List.find?_eq_some_iff_append]
  simp only [isNone_find?_builtin_iff, Bool.not_eq_true', ← Bool.not_eq_true, not_not]
  constructor
  · rintro ⟨hunknown, front, rest, hsplit, hknown⟩
    exact ⟨front, rest, hsplit, hunknown, hknown⟩
  · rintro ⟨front, rest, hsplit, hunknown, hknown⟩
    exact ⟨hunknown, front, rest, hsplit, hknown⟩

theorem without_complete (settings : Settings) :
    (complete settings.strict).without settings.disabled =
      ⟨builtin.menders.filter fun mender => !settings.disables mender.name, settings.strict⟩ := by
  simp only [without, ← Settings.disables_iff, Bool.not_eq_true, Bool.decide_eq_false]
  rfl

/-- Settings whose names are all known give the complete roster without these. -/
theorem ofSettings_eq_ok_iff :
    ofSettings settings = .ok roster ↔
      (∀ name ∈ settings.disabled, name ∈ Catalog.names) ∧
        roster = (complete settings.strict).without settings.disabled := by
  rw [ofSettings]
  cases hfind : settings.disabled.find? (fun name => (builtin.find? name).isNone) with
  | some unknown =>
      have hunknown := List.find?_some hfind
      rw [isNone_find?_builtin_iff] at hunknown
      refine iff_of_false (by simp) ?_
      rintro ⟨hknown, -⟩
      exact hunknown (hknown unknown (List.mem_of_find?_eq_some hfind))
  | none =>
      have hknown : ∀ name ∈ settings.disabled, name ∈ Catalog.names := by
        intro name hname
        have hfound := List.find?_eq_none.mp hfind name hname
        rwa [isNone_find?_builtin_iff, not_not] at hfound
      rw [and_iff_right hknown, without_complete, Except.ok.injEq, eq_comm]

/-- The roster offers the built-in menders that are not disabled, and no others. -/
structure OffersEnabled (settings : Settings) (roster : Roster) : Prop where
  find?_disabled : ∀ name ∈ settings.disabled, roster.find? name = none
  find?_enabled : ∀ mender ∈ Catalog.menders, mender.name ∉ settings.disabled →
    roster.find? mender.name = some mender
  claimants_eq : ∀ device, roster.claimants device =
    ((complete settings.strict).claimants device).filter fun mender =>
      mender.name ∉ settings.disabled
  attachUnchecked : ∀ {device attachment}, roster.attachUnchecked device = .ok attachment →
    ∀ mender ∈ attachment.menders, mender.name ∉ settings.disabled
  attach : ∀ {device size descriptor attachment},
    roster.attach device size descriptor = .ok attachment →
      ∀ mender ∈ attachment.menders, mender.name ∉ settings.disabled
  declined : ∀ {device size descriptor refused name reason},
    roster.attach device size descriptor = .error (.declined refused name reason) →
      name ∉ settings.disabled

theorem offersEnabled_without (settings : Settings) :
    OffersEnabled settings ((complete settings.strict).without settings.disabled) where
  find?_disabled _ hname := find?_without_of_mem hname
  find?_enabled _ hmender hname := find?_without_of_not_mem Catalog.nodup_names hmender hname
  claimants_eq device := claimants_without _ _ device
  attachUnchecked hattach _ hmender :=
    not_mem_of_drawnFrom (Attachment.drawnFrom_attachUnchecked hattach).2 hmender
  attach hattach _ hmender :=
    not_mem_of_drawnFrom (Attachment.drawnFrom_attach hattach).2 hmender
  declined hattach := by
    obtain ⟨mender, hmender, rfl⟩ := exists_claimant_of_declined hattach
    exact not_mem_of_claimant hmender

/-- What settings do to the built-in menders. -/
structure LeavesOutNamed (settings : Settings) : Prop where
  /-- A name is refused if it is the first that no mender has. -/
  error_iff : ∀ name, ofSettings settings = .error name ↔
    ∃ front rest, settings.disabled = front ++ name :: rest ∧ name ∉ Catalog.names ∧
      ∀ earlier ∈ front, earlier ∈ Catalog.names
  ok_iff : ∀ roster, ofSettings settings = .ok roster ↔
    (∀ name ∈ settings.disabled, name ∈ Catalog.names) ∧
      roster = ⟨Catalog.menders.filter fun mender => mender.name ∉ settings.disabled,
        settings.strict⟩
  congr : ∀ other : Settings, other.strict = settings.strict →
    (∀ name, name ∈ other.disabled ↔ name ∈ settings.disabled) →
    ∀ roster, ofSettings other = .ok roster ↔ ofSettings settings = .ok roster
  offers : ∀ roster, ofSettings settings = .ok roster → OffersEnabled settings roster

/-- Settings leave out exactly the menders that they name. -/
theorem ofSettings_leaves_out_named (settings : Settings) : LeavesOutNamed settings where
  error_iff _ := ofSettings_eq_error_iff
  ok_iff _ := ofSettings_eq_ok_iff
  congr other hstrict hsame roster := by
    rw [ofSettings_eq_ok_iff, ofSettings_eq_ok_iff, hstrict, without_congr hsame]
    simp only [hsame]
  offers roster hroster := by
    obtain ⟨-, rfl⟩ := ofSettings_eq_ok_iff.mp hroster
    exact offersEnabled_without settings

/-- A name may be repeated, and the first unknown one is refused. -/
theorem ofSettings_leaves_out_named_mouse :
    ofSettings ⟨["kaliber-mmomentum", "mouse", "pen"], true⟩ = .error "mouse" ∧
      ofSettings ⟨["kaliber-mmomentum", "kaliber-mmomentum"], false⟩ =
        .ok ((complete false).without ["kaliber-mmomentum"]) ∧
      ((complete false).without ["kaliber-mmomentum"]).find? "kaliber-mmomentum" = none := by
  have hrepeated := ofSettings_leaves_out_named ⟨["kaliber-mmomentum", "kaliber-mmomentum"], false⟩
  have hroster : ofSettings ⟨["kaliber-mmomentum", "kaliber-mmomentum"], false⟩ =
      .ok ((complete false).without ["kaliber-mmomentum"]) := by
    apply (hrepeated.congr ⟨["kaliber-mmomentum"], false⟩ rfl (by simp) _).mp
    exact ((ofSettings_leaves_out_named _).ok_iff _).mpr ⟨by decide, rfl⟩
  refine ⟨?_, hroster, (hrepeated.offers _ hroster).find?_disabled _ (by decide)⟩
  apply ((ofSettings_leaves_out_named _).error_iff "mouse").mpr
  exact ⟨["kaliber-mmomentum"], ["pen"], rfl, by decide, by decide⟩

end Roster

end HidMend
