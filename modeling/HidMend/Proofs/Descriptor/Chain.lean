import HidMend.Attachment
import HidMend.Proofs.Descriptor.Recipe

/-!
# The descriptor chain of an attachment

Read plainly, a chain hands each mender the bytes and the length that the one before it left, and
ends at the first mender that fails.  `Passes` and `FailsWith` are this reading, as relations that
know nothing of copies.  Mending a descriptor agrees with it and is a transaction: a chain that
passes leaves its final bytes, and a chain that fails leaves the bytes from before the first mender.
With several menders the copy sees to that, whatever the menders do; a single mender works in place,
and there the argument is that a recipe fails before it writes.
-/

namespace HidMend.Attachment

/-- Every mender in turn succeeds; `steps` are their results, and the last one leaves the last
buffer. -/
inductive Passes : List Mender → ℕ → Bytes → List PatchResult → Bytes → Prop
  | nil (size : ℕ) (bytes : Bytes) : Passes [] size bytes [] bytes
  | cons {mender : Mender} {rest : List Mender} {size : ℕ} {bytes middle after : Bytes}
      {step : PatchResult} {steps : List PatchResult}
      (hstep : mender.mendDescriptor size bytes = (.ok step, middle))
      (hrest : Passes rest step.size middle steps after) :
      Passes (mender :: rest) size bytes (step :: steps) after

/-- The first mender in turn that does not succeed fails with `fault`. -/
inductive FailsWith : List Mender → ℕ → Bytes → Fault → Prop
  | here {mender : Mender} {rest : List Mender} {size : ℕ} {bytes left : Bytes} {fault : Fault}
      (hstep : mender.mendDescriptor size bytes = (.error fault, left)) :
      FailsWith (mender :: rest) size bytes fault
  | later {mender : Mender} {rest : List Mender} {size : ℕ} {bytes middle : Bytes}
      {step : PatchResult} {fault : Fault}
      (hstep : mender.mendDescriptor size bytes = (.ok step, middle))
      (hrest : FailsWith rest step.size middle fault) :
      FailsWith (mender :: rest) size bytes fault

/-- The length that the last step reports, or the given one where there is no step. -/
def finalSize (size : ℕ) (steps : List PatchResult) : ℕ :=
  (steps.getLast?.map PatchResult.size).getD size

def totalEffect : List PatchResult → Effect
  | [] => .unchanged
  | step :: rest => step.effect.merge (totalEffect rest)

variable {menders : List Mender} {size : ℕ} {bytes after : Bytes} {steps : List PatchResult}
  {fault : Fault}

theorem finalSize_cons (size : ℕ) (step : PatchResult) (steps : List PatchResult) :
    finalSize size (step :: steps) = finalSize step.size steps := by
  rw [finalSize, finalSize, List.getLast?_cons]
  cases steps.getLast? with
  | none => rfl
  | some last => rfl

theorem totalEffect_eq_changed_iff :
    totalEffect steps = .changed ↔ ∃ step ∈ steps, step.effect = .changed := by
  induction steps with
  | nil => simp [totalEffect]
  | cons step rest ih =>
      rw [totalEffect, Effect.merge_eq_changed_iff, ih]
      simp

/-! ## The chain runs as it reads -/

/-- A chain that does not fail passes. -/
theorem exists_passes (hnofault : ∀ fault, ¬FailsWith menders size bytes fault) :
    ∃ steps after, Passes menders size bytes steps after := by
  induction menders generalizing size bytes with
  | nil => exact ⟨[], bytes, .nil size bytes⟩
  | cons mender rest ih =>
      cases hanswer : mender.mendDescriptor size bytes with
      | mk result middle =>
          cases result with
          | error fault => exact absurd (.here hanswer) (hnofault fault)
          | ok step =>
              obtain ⟨steps, after, hrest⟩ :=
                ih fun fault hfails => hnofault fault (.later hanswer hfails)
              exact ⟨step :: steps, after, .cons hanswer hrest⟩

/-- Where every mender succeeds the chain does, with the last size and all effects. -/
theorem chain_of_passes (hpasses : Passes menders size bytes steps after) (effect : Effect) :
    chain menders ⟨size, effect⟩ bytes =
      (.ok ⟨finalSize size steps, effect.merge (totalEffect steps)⟩, after) := by
  induction hpasses generalizing effect with
  | nil size bytes => simp [chain, finalSize, totalEffect]
  | cons hstep hrest ih =>
      rw [chain, hstep]
      simp only [ih, finalSize_cons, totalEffect, Effect.merge_assoc]

/-- The first fault is the fault of the chain, whatever the buffer has become. -/
theorem chain_of_failsWith (hfails : FailsWith menders size bytes fault) (effect : Effect) :
    ∃ left, chain menders ⟨size, effect⟩ bytes = (.error fault, left) := by
  induction hfails generalizing effect with
  | @here mender rest size bytes left fault hstep =>
      refine ⟨left, ?_⟩
      rw [chain, hstep]
  | later hstep hrest ih =>
      obtain ⟨left, hleft⟩ := ih (effect.merge _)
      refine ⟨left, ?_⟩
      rw [chain, hstep]
      exact hleft

/-! ## Mending is a transaction -/

/-- A mender that leaves the buffer alone whenever it fails. -/
def KeepsOnFault (mender : Mender) : Prop :=
  ∀ size before fault after,
    mender.mendDescriptor size before = (.error fault, after) → after = before

/-- A recipe that fails has written nothing. -/
theorem keepsOnFault_of_recipe {mender : Mender}
    (hrecipe : ∃ recipe : Recipe, mender = recipe.toMender) : KeepsOnFault mender := by
  obtain ⟨recipe, rfl⟩ := hrecipe
  intro size before fault after hmend
  exact (Recipe.eq_of_mendDescriptor_error hmend).2

theorem mendDescriptor_of_passes {attachment : Attachment}
    (hpasses : Passes attachment.menders size bytes steps after) :
    attachment.mendDescriptor size bytes =
      (.ok ⟨finalSize size steps, totalEffect steps⟩, after) := by
  have hchain := chain_of_passes hpasses .unchanged
  rw [Effect.unchanged_merge] at hchain
  simp only [mendDescriptor, hchain, ite_self]

/-- In place, it is the failing mender itself that keeps the buffer. -/
theorem chain_singleton_of_failsWith {mender : Mender} (hkeeps : KeepsOnFault mender)
    (hfails : FailsWith [mender] size bytes fault) (effect : Effect) :
    chain [mender] ⟨size, effect⟩ bytes = (.error fault, bytes) := by
  cases hfails with
  | here hstep =>
      rw [chain, hstep, hkeeps _ _ _ _ hstep]
  | later hstep hrest => cases hrest

/-- An attachment that fails has its buffer back, from a copy or because its one mender keeps it. -/
theorem mendDescriptor_of_failsWith {attachment : Attachment}
    (hkeeps : attachment.menders.length ≤ 1 → ∀ mender ∈ attachment.menders, KeepsOnFault mender)
    (hfails : FailsWith attachment.menders size bytes fault) :
    attachment.mendDescriptor size bytes = (.error fault, bytes) := by
  obtain ⟨device, menders⟩ := attachment
  match menders with
  | [] => cases hfails
  | [mender] =>
      have hmender : KeepsOnFault mender := hkeeps le_rfl mender List.mem_cons_self
      have hchain := chain_singleton_of_failsWith hmender hfails .unchanged
      simp only [mendDescriptor, hchain, ite_self]
  | first :: second :: rest =>
      have hlong : ¬(first :: second :: rest).length ≤ 1 := by
        simp only [List.length_cons]
        omega
      obtain ⟨left, hchain⟩ := chain_of_failsWith hfails .unchanged
      simp only [mendDescriptor, hchain, if_neg hlong]

/-- A chain that fails gives the first fault and the buffer from before the call; a chain that
passes gives its final bytes, the last length, and the effect of all its steps. -/
theorem mendDescriptor_transactional (attachment : Attachment) (size : ℕ) (bytes : Bytes)
    (hrecipe : attachment.menders.length ≤ 1 →
      ∀ mender ∈ attachment.menders, ∃ recipe : Recipe, mender = recipe.toMender) :
    (∀ fault, FailsWith attachment.menders size bytes fault →
        attachment.mendDescriptor size bytes = (.error fault, bytes)) ∧
      ((∀ fault, ¬FailsWith attachment.menders size bytes fault) →
        ∃ steps after patched, Passes attachment.menders size bytes steps after ∧
          attachment.mendDescriptor size bytes = (.ok patched, after) ∧
          patched.size = finalSize size steps ∧
          (patched.effect = .changed ↔ ∃ step ∈ steps, step.effect = .changed)) := by
  have hkeeps : attachment.menders.length ≤ 1 →
      ∀ mender ∈ attachment.menders, KeepsOnFault mender := by
    intro hshort mender hmender
    exact keepsOnFault_of_recipe (hrecipe hshort mender hmender)
  constructor
  · intro fault hfails
    exact mendDescriptor_of_failsWith hkeeps hfails
  · intro hnofault
    obtain ⟨steps, after, hpasses⟩ := exists_passes hnofault
    exact ⟨steps, after, ⟨finalSize size steps, totalEffect steps⟩, hpasses,
      mendDescriptor_of_passes hpasses, rfl, totalEffect_eq_changed_iff⟩

/-- A recipe that rewrites the first byte. -/
def rewriter : Recipe :=
  ⟨"rewriter", [], .sizeOnly 2, some (.edit [⟨0, 0x0D, 0x01⟩]), 0, []⟩

/-- A mender that clears the buffer before it fails. -/
def spoiler : Mender where
  name := "spoiler"
  devices := []
  accepts := fun _ _ => .ok ()
  mendDescriptor := fun _ bytes => (.error .outOfDomain, bytes.map fun _ => 0)
  mendReport := fun report => (.ok .unchanged, report)

/-- The second of two menders fails after both have written. -/
theorem mendDescriptor_rolls_back :
    ([rewriter.toMender, spoiler].length ≤ 1 →
        ∀ mender ∈ [rewriter.toMender, spoiler], ∃ recipe : Recipe, mender = recipe.toMender) ∧
      chain [rewriter.toMender, spoiler] ⟨2, .unchanged⟩ [0x0D, 0x02] =
        (.error .outOfDomain, [0, 0]) ∧
      (Attachment.mk (.usb 1 1) [rewriter.toMender, spoiler]).mendDescriptor 2 [0x0D, 0x02] =
        (.error .outOfDomain, [0x0D, 0x02]) := by
  have hseveral : [rewriter.toMender, spoiler].length ≤ 1 →
      ∀ mender ∈ [rewriter.toMender, spoiler], ∃ recipe : Recipe, mender = recipe.toMender :=
    fun hshort => absurd hshort (by decide)
  have hfails : FailsWith [rewriter.toMender, spoiler] 2 [0x0D, 0x02] .outOfDomain :=
    .later rfl (.here rfl)
  exact ⟨hseveral, rfl,
    (mendDescriptor_transactional (Attachment.mk (.usb 1 1) [rewriter.toMender, spoiler]) 2
      [0x0D, 0x02] hseveral).1 .outOfDomain hfails⟩

/-! ## Attachments of recipes -/

/-- A chain of recipes that passes keeps what each recipe promises. -/
theorem Passes.mended (hpasses : Passes menders size bytes steps after)
    (hrecipes : ∀ mender ∈ menders, ∃ recipe : Recipe, mender = recipe.toMender) :
    Rewrite Set.univ (totalEffect steps) bytes after ∧
      (size ≤ bytes.length → finalSize size steps ≤ bytes.length) := by
  induction hpasses with
  | nil size bytes => exact ⟨Rewrite.refl _ _ _, id⟩
  | @cons mender rest size bytes middle after step steps hstep hrest ih =>
      obtain ⟨recipe, rfl⟩ := hrecipes mender List.mem_cons_self
      obtain ⟨hrewrite, hsize⟩ :=
        ih fun other hother => hrecipes other (List.mem_cons_of_mem _ hother)
      have hmended := Recipe.mended_of_mendDescriptor_ok hstep
      have hfirst := hmended.rewrite.mono (Set.subset_univ _)
      refine ⟨hfirst.trans hrewrite, fun hfits => ?_⟩
      have hlength : middle.length = bytes.length := hmended.rewrite.length_eq
      have hstepFits : step.size ≤ middle.length := hlength ▸ hmended.size_le hfits
      calc
        finalSize size (step :: steps) = finalSize step.size steps := finalSize_cons _ _ _
        _ ≤ middle.length := hsize hstepFits
        _ = bytes.length := hlength

/-- Recipes fail in one way only. -/
theorem FailsWith.eq_bufferTooSmall (hfails : FailsWith menders size bytes fault)
    (hrecipes : ∀ mender ∈ menders, ∃ recipe : Recipe, mender = recipe.toMender) :
    fault = .bufferTooSmall := by
  induction hfails with
  | @here mender rest size bytes left fault hstep =>
      obtain ⟨recipe, rfl⟩ := hrecipes mender List.mem_cons_self
      exact (Recipe.eq_of_mendDescriptor_error hstep).1
  | later hstep hrest ih =>
      exact ih fun other hother => hrecipes other (List.mem_cons_of_mem _ hother)

/-- An attachment of recipes runs out of room, or its chain passes. -/
theorem mendDescriptor_cases {attachment : Attachment}
    (hrecipes : ∀ mender ∈ attachment.menders, ∃ recipe : Recipe, mender = recipe.toMender)
    (size : ℕ) (bytes : Bytes) :
    attachment.mendDescriptor size bytes = (.error .bufferTooSmall, bytes) ∨
      ∃ steps after, Passes attachment.menders size bytes steps after ∧
        attachment.mendDescriptor size bytes =
          (.ok ⟨finalSize size steps, totalEffect steps⟩, after) := by
  by_cases hfails : ∃ fault, FailsWith attachment.menders size bytes fault
  · obtain ⟨fault, hfault⟩ := hfails
    obtain rfl := hfault.eq_bufferTooSmall hrecipes
    refine Or.inl (mendDescriptor_of_failsWith (fun _ mender hmender => ?_) hfault)
    exact keepsOnFault_of_recipe (hrecipes mender hmender)
  · obtain ⟨steps, after, hpasses⟩ := exists_passes fun fault hfault => hfails ⟨fault, hfault⟩
    exact Or.inr ⟨steps, after, hpasses, mendDescriptor_of_passes hpasses⟩

/-- An attachment of recipes fails and keeps the descriptor, or rewrites it as it reports. -/
theorem mendDescriptor_rewrite {attachment : Attachment}
    (hrecipes : ∀ mender ∈ attachment.menders, ∃ recipe : Recipe, mender = recipe.toMender)
    (size : ℕ) (bytes : Bytes) :
    (∃ fault, attachment.mendDescriptor size bytes = (.error fault, bytes)) ∨
      ∃ patched after, attachment.mendDescriptor size bytes = (.ok patched, after) ∧
        Rewrite Set.univ patched.effect bytes after ∧
        (size ≤ bytes.length → patched.size ≤ bytes.length) := by
  obtain hfailed | ⟨steps, after, hpasses, hmend⟩ := mendDescriptor_cases hrecipes size bytes
  · exact Or.inl ⟨.bufferTooSmall, hfailed⟩
  · obtain ⟨hrewrite, hsize⟩ := hpasses.mended hrecipes
    exact Or.inr ⟨_, after, hmend, hrewrite, hsize⟩

end HidMend.Attachment
