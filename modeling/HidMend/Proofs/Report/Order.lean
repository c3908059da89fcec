import HidMend.Proofs.Report.Agreement
import Mathlib.Data.List.Pairwise
import Mathlib.Data.Set.Lattice
import Mathlib.Order.CompletePartialOrder

/-!
# Transforms in any order

Two transforms are independent if neither writes a byte that the other one names.  What one of them
does is then the same before and after the other one, and they may be exchanged.  A run over
transforms that are independent of one another has the same effect and leaves the same report in
every order.
-/

namespace HidMend.Transform

/-- Neither transform writes a byte that the other one reads or writes. -/
def Independent (first second : Transform) : Prop :=
  Disjoint first.writes (second.reads ∪ second.writes) ∧
    Disjoint second.writes (first.reads ∪ first.writes)

instance : Std.Symm Independent :=
  ⟨fun _ _ => And.symm⟩

variable {first second : Transform}

/-- Where the second transform does not write, the first one has done the same without it. -/
theorem apply_apply_alike (hindependent : Independent first second) (report : Bytes) :
    RunAlike second.writesᶜ (first.apply (second.apply report).2) (first.apply report) := by
  have hreads : first.reads ⊆ second.writesᶜ := fun offset hread hwritten =>
    Set.disjoint_left.mp hindependent.2 hwritten (.inl hread)
  exact apply_alike hreads (second.apply_rewrite report).agreeOn_compl

/-- Independent transforms leave the same report in either order. -/
theorem apply_comm (hindependent : Independent first second) (report : Bytes) :
    (second.apply (first.apply report).2).2 = (first.apply (second.apply report).2).2 := by
  -- no byte is written by both, so on either side one of the two has left it alone
  apply List.ext_getElem?
  intro offset
  by_cases hsecond : offset ∈ second.writes
  · have hfirst : offset ∉ first.writes := fun hwritten =>
      Set.disjoint_left.mp hindependent.1 hwritten (.inr hsecond)
    calc
      (second.apply (first.apply report).2).2[offset]? = (second.apply report).2[offset]? :=
        (apply_apply_alike (symm hindependent) report).agree.getElem?_eq offset hfirst
      _ = (first.apply (second.apply report).2).2[offset]? :=
        ((first.apply_rewrite _).getElem?_eq offset hfirst).symm
  · calc
      (second.apply (first.apply report).2).2[offset]? = (first.apply report).2[offset]? :=
        (second.apply_rewrite _).getElem?_eq offset hsecond
      _ = (first.apply (second.apply report).2).2[offset]? :=
        ((apply_apply_alike hindependent report).agree.getElem?_eq offset hsecond).symm

theorem merge_apply_comm (hindependent : Independent first second) (effect : Effect)
    (report : Bytes) :
    (effect.merge (first.apply report).1).merge (second.apply (first.apply report).2).1 =
      (effect.merge (second.apply report).1).merge (first.apply (second.apply report).2).1 := by
  rw [(apply_apply_alike (symm hindependent) report).effect_eq,
    (apply_apply_alike hindependent report).effect_eq, Effect.merge_assoc, Effect.merge_assoc,
    Effect.merge_comm (first.apply report).1]

/-- A run does not depend on the order of its transforms. -/
theorem applyAll_perm {transforms others : List Transform}
    (hindependent : transforms.Pairwise Independent) (hperm : transforms.Perm others)
    (report : Bytes) : applyAll others report = applyAll transforms report := by
  rw [applyAll, applyAll]
  refine (hperm.foldl_eq' ?_ _).symm
  intro first hfirst second hsecond state
  by_cases hsame : first = second
  · rw [hsame]
  · have hpair : Independent first second := hindependent.forall hfirst hsecond hsame
    exact Prod.ext (merge_apply_comm hpair state.1 state.2) (apply_comm hpair state.2)

/-- A fix that fires on what another one leaves may not be exchanged with it. -/
example :
    applyAll [.bits ⟨0, 0x29, 0x19⟩, .bits ⟨0, 0x30, 0x30⟩] [0x29] ≠
      applyAll [.bits ⟨0, 0x30, 0x30⟩, .bits ⟨0, 0x29, 0x19⟩] [0x29] := by
  decide

end HidMend.Transform
