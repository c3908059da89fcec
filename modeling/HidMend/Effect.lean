/-!
# Effect of a stage

A stage reports whether it changed at least one byte of the buffer it was handed.  Effects of
stages over one buffer are merged: a run has changed its buffer as soon as one of its stages has.
-/

namespace HidMend

inductive Effect
  | unchanged
  | changed
  deriving DecidableEq, Repr

namespace Effect

def ofBool (differs : Bool) : Effect :=
  if differs then changed else unchanged

def isChanged : Effect → Bool
  | changed => true
  | unchanged => false

def merge : Effect → Effect → Effect
  | unchanged, unchanged => unchanged
  | _, _ => changed

def label : Effect → String
  | unchanged => "untouched"
  | changed => "modified"

@[simp]
theorem unchanged_merge (effect : Effect) : unchanged.merge effect = effect := by
  cases effect <;> rfl

@[simp]
theorem merge_unchanged (effect : Effect) : effect.merge unchanged = effect := by
  cases effect <;> rfl

theorem merge_assoc (first second third : Effect) :
    (first.merge second).merge third = first.merge (second.merge third) := by
  cases first <;> cases second <;> cases third <;> rfl

theorem merge_comm (left right : Effect) : left.merge right = right.merge left := by
  cases left <;> cases right <;> rfl

theorem eq_of_changed_iff {left right : Effect} (hiff : left = changed ↔ right = changed) :
    left = right := by
  cases left <;> cases right <;> simp_all

theorem isChanged_eq_false_iff {effect : Effect} :
    effect.isChanged = false ↔ effect = unchanged := by
  cases effect <;> simp [isChanged]

theorem merge_eq_unchanged_iff {left right : Effect} :
    left.merge right = unchanged ↔ left = unchanged ∧ right = unchanged := by
  cases left <;> cases right <;> simp [merge]

/-- A run has changed something as soon as one of its parts has. -/
theorem merge_eq_changed_iff {left right : Effect} :
    left.merge right = changed ↔ left = changed ∨ right = changed := by
  cases left <;> cases right <;> simp [merge]

@[simp]
theorem ofBool_eq_changed_iff {differs : Bool} : ofBool differs = changed ↔ differs = true := by
  cases differs <;> simp [ofBool]

@[simp]
theorem ofBool_eq_unchanged_iff {differs : Bool} :
    ofBool differs = unchanged ↔ differs = false := by
  cases differs <;> simp [ofBool]

end Effect

end HidMend
