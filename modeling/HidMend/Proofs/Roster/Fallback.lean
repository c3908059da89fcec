import HidMend.Proofs.Device.Argument
import HidMend.Proofs.Device.Sysname
import HidMend.Roster
import Mathlib.Data.List.Basic

/-!
# Finding menders by sysname

A sysname carries no group, so its identity leaves the group open.  The open group agrees with every
group, on either side, and two groups that agree with it need not agree with each other: agreement
is no equivalence.  So a sysname finds what the modalias of the same device finds once groups are
ignored, and a modalias with its group finds some of these menders, in the same order.

All this is about menders that claim what their listed identities cover, as the built-in ones do.  A
mender with a rule of its own may claim a device in one group and leave it alone without a group.
-/

namespace HidMend

namespace DeviceId

/-- The same device, if the groups are left out. -/
structure SameButGroup (left right : DeviceId) : Prop where
  bus : left.bus = right.bus
  vendor : left.vendor = right.vendor
  product : left.product = right.product

variable {claim left right device : DeviceId} {strict : Bool}

/-! ## Agreement of groups -/

theorem groupsAgree_comm (strict : Bool) (left right : Group) :
    groupsAgree strict left right = groupsAgree strict right left := by
  have hequal : (left == right) = (right == left) := BEq.comm
  rw [groupsAgree, groupsAgree, hequal, Bool.or_right_comm (!strict)]

/-- The open group agrees with every group, also where groups are compared. -/
theorem groupsAgree_any (strict : Bool) (group : Group) :
    groupsAgree strict group .any = true := by
  simp [groupsAgree]

theorem groupsAgree_relaxed (left right : Group) : groupsAgree false left right = true :=
  rfl

/-! ## Covering -/

/-- An identity covers the device that it names, if the groups agree. -/
theorem covers_iff : claim.covers device strict = true ↔
    claim.SameButGroup device ∧ groupsAgree strict claim.group device.group = true := by
  simp only [covers, Bool.and_eq_true, beq_iff_eq]
  constructor
  · rintro ⟨⟨⟨hbus, hvendor⟩, hproduct⟩, hgroup⟩
    exact ⟨⟨hbus, hvendor, hproduct⟩, hgroup⟩
  · rintro ⟨⟨hbus, hvendor, hproduct⟩, hgroup⟩
    exact ⟨⟨⟨hbus, hvendor⟩, hproduct⟩, hgroup⟩

theorem SameButGroup.symm (hsame : left.SameButGroup right) : right.SameButGroup left :=
  ⟨hsame.bus.symm, hsame.vendor.symm, hsame.product.symm⟩

theorem SameButGroup.trans (hleft : claim.SameButGroup left) (hright : left.SameButGroup right) :
    claim.SameButGroup right :=
  ⟨hleft.bus.trans hright.bus, hleft.vendor.trans hright.vendor,
    hleft.product.trans hright.product⟩

theorem covers_comm (left right : DeviceId) (strict : Bool) :
    left.covers right strict = right.covers left strict := by
  rw [Bool.eq_iff_iff, covers_iff, covers_iff, groupsAgree_comm]
  exact and_congr_left' ⟨.symm, .symm⟩

theorem covers_relaxed_iff : claim.covers device false = true ↔ claim.SameButGroup device := by
  rw [covers_iff, and_iff_left (groupsAgree_relaxed _ _)]

/-- Ignoring groups only adds devices. -/
theorem covers_relaxed_of_covers (hcovers : claim.covers device strict = true) :
    claim.covers device false = true :=
  covers_relaxed_iff.mpr (covers_iff.mp hcovers).1

/-- For a device without a group it makes no difference whether groups are compared. -/
theorem covers_eq_relaxed_of_any (hany : device.group = .any) (claim : DeviceId) (strict : Bool) :
    claim.covers device strict = claim.covers device false := by
  rw [Bool.eq_iff_iff, covers_iff, covers_relaxed_iff, hany, and_iff_left (groupsAgree_any _ _)]

theorem SameButGroup.covers_relaxed_eq (hsame : left.SameButGroup right) (claim : DeviceId) :
    claim.covers left false = claim.covers right false := by
  rw [Bool.eq_iff_iff, covers_relaxed_iff, covers_relaxed_iff]
  exact ⟨fun hleft => hleft.trans hsame, fun hright => hright.trans hsame.symm⟩

end DeviceId

/-! ## Menders that claim by their list -/

namespace Mender

variable {mender : Mender} {left right device : DeviceId} {strict : Bool}

/-- The mender has no rule of its own: it claims what one of its listed identities covers. -/
def ClaimsListed (mender : Mender) : Prop :=
  ∀ device strict,
    mender.claims device strict = mender.devices.any fun claim => claim.covers device strict

namespace ClaimsListed

theorem claims_relaxed_of_claims (hlisted : mender.ClaimsListed)
    (hclaims : mender.claims device strict = true) : mender.claims device false = true := by
  rw [hlisted] at hclaims ⊢
  obtain ⟨claim, hclaim, hcovers⟩ := List.any_eq_true.mp hclaims
  exact List.any_eq_true.mpr ⟨claim, hclaim, DeviceId.covers_relaxed_of_covers hcovers⟩

theorem claims_eq_relaxed_of_any (hlisted : mender.ClaimsListed) (hany : device.group = .any)
    (strict : Bool) : mender.claims device strict = mender.claims device false := by
  simp only [hlisted device, DeviceId.covers_eq_relaxed_of_any hany _ strict]

theorem claims_relaxed_eq (hlisted : mender.ClaimsListed) (hsame : left.SameButGroup right) :
    mender.claims left false = mender.claims right false := by
  simp only [hlisted _ false, hsame.covers_relaxed_eq]

end ClaimsListed

end Mender

theorem Recipe.claimsListed (recipe : Recipe) : recipe.toMender.ClaimsListed :=
  fun _ _ => rfl

/-- No built-in mender has a rule of its own. -/
theorem Catalog.claimsListed : ∀ mender ∈ menders, mender.ClaimsListed :=
  List.forall_mem_map.mpr fun recipe _ => recipe.claimsListed

namespace Roster

/-- A roster that ignores groups. -/
def relaxed (menders : List Mender) : Roster :=
  ⟨menders, false⟩

/-- What an identity without a group finds, beside what the identity with its group finds. -/
structure HidesNothing (menders : List Mender) (named known : DeviceId) : Prop where
  group_eq_any : named.group = .any
  eq_relaxed_known : (ofModules menders).claimants named = (relaxed menders).claimants known
  eq_relaxed_named : (ofModules menders).claimants named = (relaxed menders).claimants named
  known_sublist :
    ((ofModules menders).claimants known).Sublist ((ofModules menders).claimants named)

variable {menders : List Mender} {named known device : DeviceId}

/-- With groups ignored, devices that differ in their groups have the same claimants. -/
theorem claimants_relaxed_congr (hlisted : ∀ mender ∈ menders, mender.ClaimsListed)
    (hsame : named.SameButGroup known) :
    (relaxed menders).claimants named = (relaxed menders).claimants known :=
  List.filter_congr fun mender hmender => (hlisted mender hmender).claims_relaxed_eq hsame

/-- A device without a group has the same claimants either way. -/
theorem claimants_strict_eq_relaxed (hlisted : ∀ mender ∈ menders, mender.ClaimsListed)
    (hany : named.group = .any) :
    (ofModules menders).claimants named = (relaxed menders).claimants named :=
  List.filter_congr fun mender hmender =>
    (hlisted mender hmender).claims_eq_relaxed_of_any hany true

/-- With the groups compared, no further mender is found. -/
theorem claimants_strict_sublist_relaxed (hlisted : ∀ mender ∈ menders, mender.ClaimsListed) :
    ((ofModules menders).claimants device).Sublist ((relaxed menders).claimants device) := by
  -- What is found by comparing groups is found among what is found without comparing them.
  have htwice : (ofModules menders).claimants device =
      ((relaxed menders).claimants device).filter fun mender => mender.claims device true := by
    rw [claimants, claimants, List.filter_filter]
    apply List.filter_congr
    intro mender hmender
    rw [Bool.eq_iff_iff, Bool.and_eq_true]
    exact iff_self_and.mpr (hlisted mender hmender).claims_relaxed_of_claims
  rw [htwice]
  exact List.filter_sublist

theorem hidesNothing (hlisted : ∀ mender ∈ menders, mender.ClaimsListed)
    (hany : named.group = .any) (hsame : named.SameButGroup known) :
    HidesNothing menders named known := by
  have hstrict := claimants_strict_eq_relaxed hlisted hany
  have hknown := claimants_relaxed_congr hlisted hsame
  refine ⟨hany, hstrict.trans hknown, hstrict, ?_⟩
  rw [hstrict, hknown]
  exact claimants_strict_sublist_relaxed hlisted

/-! ## The result -/

/-- What it takes that a sysname may stand in for a modalias. -/
structure FallsBack (menders : List Mender) : Prop where
  /-- In whichever spelling the two texts are, both are read. -/
  spelled : ∀ {name text : String} {groups sysname device}, Sysname.Spells name.toList groups →
    groups.Denotes sysname → DeviceId.IsModalias text device →
    sysname.device.SameButGroup device →
    Sysname.parse name = .ok sysname ∧ DeviceId.ofModalias text = .ok device ∧
      HidesNothing menders sysname.device device
  written : ∀ bus group vendor product instanceNumber, ∃ sysname device,
    Sysname.parse (Sysname.mk bus vendor product instanceNumber).text = .ok sysname ∧
      DeviceId.ofModalias (Modalias.ofDevice ⟨bus, group, vendor, product⟩).text = .ok device ∧
      sysname.device = ⟨bus, .any, vendor, product⟩ ∧ device = ⟨bus, group, vendor, product⟩ ∧
      HidesNothing menders sysname.device device
  covers_comm : ∀ left right strict,
    DeviceId.covers left right strict = DeviceId.covers right left strict
  covers_relaxed : ∀ {left right}, DeviceId.covers left right true = true →
    DeviceId.covers left right false = true

/-- Falling back to the sysname hides no mender, whatever identities the menders list. -/
theorem sysname_hides_nothing (menders : List Mender)
    (hlisted : ∀ mender ∈ menders, mender.ClaimsListed) : FallsBack menders where
  spelled hspells hdenotes hmodalias hsame :=
    ⟨Sysname.parse_eq_ok_iff.mpr ⟨_, hspells, hdenotes⟩,
      DeviceId.ofModalias_eq_ok_iff.mpr hmodalias, hidesNothing hlisted rfl hsame⟩
  written _ _ _ _ _ :=
    ⟨_, _, Sysname.parse_text _, DeviceId.ofModalias_eq_ok_iff.mpr (DeviceId.isModalias_text _),
      rfl, rfl, hidesNothing hlisted rfl ⟨rfl, rfl, rfl⟩⟩
  covers_comm := DeviceId.covers_comm
  covers_relaxed := DeviceId.covers_relaxed_of_covers

/-- A pen in a group that its mender does not claim: its modalias finds nothing under strict
matching, and its sysname does. -/
theorem sysname_hides_nothing_pen :
    Sysname.parse "0003:28bd:095B.000b" = .ok ⟨.usb, 0x28BD, 0x095B, 11⟩ ∧
      DeviceId.ofModalias "b0003g0002v000028bdp0000095B" =
        .ok ⟨.usb, ⟨2⟩, 0x28BD, 0x095B⟩ ∧
      HidesNothing Catalog.menders ⟨.usb, .any, 0x28BD, 0x095B⟩ ⟨.usb, ⟨2⟩, 0x28BD, 0x095B⟩ ∧
      ((ofModules Catalog.menders).claimants ⟨.usb, ⟨2⟩, 0x28BD, 0x095B⟩).map Mender.name = [] ∧
      ((ofModules Catalog.menders).claimants ⟨.usb, .any, 0x28BD, 0x095B⟩).map Mender.name =
        [ArtistPro.recipe.name] := by
  have hname : Sysname.parse "0003:28bd:095B.000b" = .ok ⟨.usb, 0x28BD, 0x095B, 11⟩ := by decide
  have htext : DeviceId.ofModalias "b0003g0002v000028bdp0000095B" =
      .ok ⟨.usb, ⟨2⟩, 0x28BD, 0x095B⟩ := by decide
  obtain ⟨groups, hspells, hdenotes⟩ := Sysname.parse_eq_ok_iff.mp hname
  have hfallsBack := sysname_hides_nothing Catalog.menders Catalog.claimsListed
  obtain ⟨hparse, hread, hfinds⟩ := hfallsBack.spelled hspells hdenotes
    (DeviceId.ofModalias_eq_ok_iff.mp htext) ⟨rfl, rfl, rfl⟩
  exact ⟨hparse, hread, hfinds, by decide, by decide⟩

/-- A mender that asks for a group is hidden where the group is left open. -/
example :
    let touchOnly := { ArtistPro.recipe.toMender with
      claims := fun device _ => device.group == ⟨2⟩ }
    (relaxed [touchOnly]).claimants ⟨.usb, ⟨2⟩, 0x28BD, 0x095B⟩ = [touchOnly] ∧
      (ofModules [touchOnly]).claimants ⟨.usb, .any, 0x28BD, 0x095B⟩ = [] :=
  ⟨rfl, rfl⟩

end Roster

end HidMend
