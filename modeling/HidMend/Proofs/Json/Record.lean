import HidMend.Proofs.Json.RoundTrip
import Mathlib.Data.List.Forall2

/-!
# Records are read back

A record whose keys are different holds one value under each of them, whatever the values are, and
readers that ask for some of the keys get these values.
-/

namespace HidMend.Json

variable {members : List (String × Json)} {others : List (JsonText × Json)} {key : String}
  {value : Json}

theorem only?_cons_of_ne {other : JsonText × Json} (hother : other.1 ≠ some key.toList) :
    only? (other :: others) key = only? others key := by
  rw [only?, List.filter_cons_of_neg (by simpa using hother)]
  rfl

theorem only?_cons_of_absent (habsent : ∀ other ∈ others, other.1 ≠ some key.toList) :
    only? ((some key.toList, value) :: others) key = some value := by
  have hnone : others.filter (fun other => other.1 == some key.toList) = [] := by
    simpa [List.filter_eq_nil_iff] using habsent
  rw [only?, List.filter_cons_of_pos (by simp), hnone]

/-- In a record without repeated keys every key has its value. -/
theorem only?_of_mem (hkeys : (members.map Prod.fst).Nodup) (hmem : (key, value) ∈ members) :
    only? (members.map fun member => (some member.1.toList, member.2)) key = some value := by
  induction members with
  | nil => cases hmem
  | cons first members ih =>
      obtain ⟨hfirst, hkeys⟩ := List.nodup_cons.mp hkeys
      rw [List.map_cons]
      rcases List.mem_cons.mp hmem with rfl | hmem
      · apply only?_cons_of_absent
        simp only [List.forall_mem_map, ne_eq, Option.some.injEq, String.toList_inj]
        rintro member hmember rfl
        exact hfirst (List.mem_map.mpr ⟨member, hmember, rfl⟩)
      · have hne : first.1 ≠ key := by
          rintro rfl
          exact hfirst (List.mem_map.mpr ⟨_, hmem, rfl⟩)
        rw [only?_cons_of_ne (by simpa [String.toList_inj] using hne), ih hkeys hmem]

/-- Some members of a record, in any order, are read as their values. -/
theorem fields?_record {keys : List String} {values : List Json}
    (hkeys : (members.map Prod.fst).Nodup)
    (hfound : List.Forall₂ (fun key value => (key, value) ∈ members) keys values) :
    (record members).fields? keys = some values := by
  rw [record, fields?, if_pos (by simp)]
  induction hfound with
  | nil => rfl
  | cons hmem _ ih => simp [List.mapM_cons, only?_of_mem hkeys hmem, ih]

/-- A record of plain values is plain. -/
theorem plain_record (hvalues : ∀ member ∈ members, member.2.Plain) : (record members).Plain :=
  .object (List.forall_mem_map.mpr fun _ _ => rfl) (List.forall_mem_map.mpr hvalues)

end HidMend.Json
