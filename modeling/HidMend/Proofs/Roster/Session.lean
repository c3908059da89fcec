import HidMend.Proofs.Descriptor.Chain
import HidMend.Proofs.Report.Chain
import HidMend.Proofs.Roster.Attach

/-!
# Sessions

A session works on one descriptor buffer and one report buffer.  Devices attach and attach again,
the descriptor and the report are mended by whatever is attached at the time, and all of this in any
order, with any devices and any lengths.  A roster of recipes keeps such a session sound: from a
valid bench each call gives a sound exchange, which leaves a valid bench.
-/

namespace HidMend

/-- The two buffers of a session, and the attachment that mends them. -/
structure Bench where
  descriptor : Bytes
  report : Bytes
  attachment : Option Attachment

namespace Bench

/-- A bench where nothing is attached yet. -/
def fresh (descriptor report : Bytes) : Bench :=
  ⟨descriptor, report, none⟩

inductive Call
  | attachUnchecked (device : DeviceId)
  /-- The gates see the descriptor buffer as it is by now. -/
  | attach (device : DeviceId) (size : ℕ)
  | mendDescriptor (size : ℕ)
  | mendReport

inductive Reply
  | attached (result : Except AttachFault Attachment)
  | mendedDescriptor (result : Except Fault PatchResult)
  | mendedReport (result : Except Fault Effect)
  /-- There is nothing to mend with before the first attachment. -/
  | detached

/-- Whether a call claims to have changed a buffer. -/
def Reply.isChanged : Reply → Bool
  | mendedDescriptor (.ok patched) => patched.effect.isChanged
  | mendedReport (.ok effect) => effect.isChanged
  | _ => false

/-- Put an attachment on the bench; a device that does not attach leaves the previous one. -/
def take (bench : Bench) : Except AttachFault Attachment → Reply × Bench
  | .ok attachment => (.attached (.ok attachment), { bench with attachment := some attachment })
  | .error fault => (.attached (.error fault), bench)

def step (roster : Roster) (bench : Bench) : Call → Reply × Bench
  | .attachUnchecked device => bench.take (roster.attachUnchecked device)
  | .attach device size => bench.take (roster.attach device size bench.descriptor)
  | .mendDescriptor size =>
      match bench.attachment with
      | none => (.detached, bench)
      | some attachment =>
          let run := attachment.mendDescriptor size bench.descriptor
          (.mendedDescriptor run.1, { bench with descriptor := run.2 })
  | .mendReport =>
      match bench.attachment with
      | none => (.detached, bench)
      | some attachment =>
          let run := attachment.mendReport bench.report
          (.mendedReport run.1, { bench with report := run.2 })

/-- One call of a session, with the bench on either side of it. -/
structure Exchange where
  call : Call
  before : Bench
  reply : Reply
  after : Bench

def exchange (roster : Roster) (bench : Bench) (call : Call) : Exchange :=
  ⟨call, bench, (bench.step roster call).1, (bench.step roster call).2⟩

/-- The exchanges of a session. -/
def transcript (roster : Roster) : Bench → List Call → List Exchange
  | _, [] => []
  | bench, call :: rest =>
      bench.exchange roster call :: transcript roster (bench.exchange roster call).after rest

/-! ## Soundness -/

/-- The buffers have the lengths from the start, and the attachment is one of the roster's. -/
structure Valid (bench : Bench) (roster : Roster) (start : Bench) : Prop where
  descriptor_length : bench.descriptor.length = start.descriptor.length
  report_length : bench.report.length = start.report.length
  drawnFrom : ∀ attachment, bench.attachment = some attachment → attachment.DrawnFrom roster

/-- What holds of every call of a session that began with the bench `start`. -/
structure Exchange.Sound (roster : Roster) (start : Bench) (exchange : Exchange) : Prop where
  valid : exchange.after.Valid roster start
  drawnFrom : ∀ attachment, exchange.reply = .attached (.ok attachment) →
    attachment.DrawnFrom roster
  report_changed : exchange.after.report ≠ exchange.before.report →
    exchange.call = .mendReport ∧ exchange.reply = .mendedReport (.ok .changed)
  report_mended : exchange.call = .mendReport → exchange.before.attachment.isSome = true →
    ∃ effect, exchange.reply = .mendedReport (.ok effect)
  descriptor_changed : exchange.after.descriptor ≠ exchange.before.descriptor →
    ∃ size patched, exchange.call = .mendDescriptor size ∧
      exchange.reply = .mendedDescriptor (.ok patched) ∧ patched.effect = .changed
  kept : exchange.reply.isChanged = false →
    exchange.after.descriptor = exchange.before.descriptor ∧
      exchange.after.report = exchange.before.report
  size_le : ∀ size patched, exchange.call = .mendDescriptor size →
    exchange.reply = .mendedDescriptor (.ok patched) →
    size ≤ start.descriptor.length → patched.size ≤ start.descriptor.length

theorem Valid.fresh (roster : Roster) (descriptor report : Bytes) :
    (fresh descriptor report).Valid roster (fresh descriptor report) where
  descriptor_length := rfl
  report_length := rfl
  drawnFrom _ hattachment := by cases hattachment

/-! ## One call -/

section Step

variable {roster : Roster} {start bench : Bench} {call : Call}

theorem Valid.take {result : Except AttachFault Attachment} (hvalid : bench.Valid roster start)
    (hdrawn : ∀ attachment, result = .ok attachment → attachment.DrawnFrom roster) :
    (bench.take result).2.Valid roster start := by
  cases result with
  | error fault => exact hvalid
  | ok attachment =>
      refine ⟨hvalid.descriptor_length, hvalid.report_length, ?_⟩
      intro current hcurrent
      cases hcurrent
      exact hdrawn attachment rfl

/-- Where the buffers stay, nothing is left to show about changes. -/
theorem Exchange.Sound.of_eq {exchange : Exchange} (hvalid : exchange.after.Valid roster start)
    (hdescriptor : exchange.after.descriptor = exchange.before.descriptor)
    (hreport : exchange.after.report = exchange.before.report)
    (hdrawn : ∀ attachment, exchange.reply = .attached (.ok attachment) →
      attachment.DrawnFrom roster)
    (hmended : exchange.call = .mendReport → exchange.before.attachment.isSome = true →
      ∃ effect, exchange.reply = .mendedReport (.ok effect))
    (hfailed : ∀ patched, exchange.reply ≠ .mendedDescriptor (.ok patched)) :
    exchange.Sound roster start where
  valid := hvalid
  drawnFrom := hdrawn
  report_changed hchanged := absurd hreport hchanged
  report_mended := hmended
  descriptor_changed hchanged := absurd hdescriptor hchanged
  kept _ := ⟨hdescriptor, hreport⟩
  size_le _ patched _ hreply := absurd hreply (hfailed patched)

theorem sound_take {result : Except AttachFault Attachment} (hvalid : bench.Valid roster start)
    (hdrawn : ∀ attachment, result = .ok attachment → attachment.DrawnFrom roster)
    (hcall : call ≠ .mendReport) :
    Exchange.Sound roster start
      ⟨call, bench, (bench.take result).1, (bench.take result).2⟩ := by
  have hreply : (bench.take result).1 = .attached result := by
    cases result <;> rfl
  have hdescriptor : (bench.take result).2.descriptor = bench.descriptor := by
    cases result <;> rfl
  have hreport : (bench.take result).2.report = bench.report := by
    cases result <;> rfl
  rw [hreply]
  apply Exchange.Sound.of_eq (hvalid.take hdrawn) hdescriptor hreport
  · intro attachment hattached
    cases hattached
    exact hdrawn attachment rfl
  · intro hmend
    exact absurd hmend hcall
  · intro patched hmended
    cases hmended

theorem sound_detached (hvalid : bench.Valid roster start) (hnone : bench.attachment = none) :
    Exchange.Sound roster start ⟨call, bench, .detached, bench⟩ := by
  apply Exchange.Sound.of_eq hvalid rfl rfl
  · intro attachment hattached
    cases hattached
  · intro _ hsome
    rw [hnone] at hsome
    cases hsome
  · intro patched hmended
    cases hmended

theorem sound_mendDescriptor {attachment : Attachment} (hvalid : bench.Valid roster start)
    (hrecipes : ∀ mender ∈ attachment.menders, ∃ recipe : Recipe, mender = recipe.toMender)
    (size : ℕ) :
    Exchange.Sound roster start
      ⟨.mendDescriptor size, bench,
        .mendedDescriptor (attachment.mendDescriptor size bench.descriptor).1,
        { bench with descriptor := (attachment.mendDescriptor size bench.descriptor).2 }⟩ := by
  obtain ⟨fault, hmend⟩ | ⟨patched, after, hmend, hrewrite, hsize⟩ :=
    Attachment.mendDescriptor_rewrite hrecipes size bench.descriptor
  · rw [hmend]
    apply Exchange.Sound.of_eq hvalid rfl rfl
    · intro other hattached
      cases hattached
    · intro hcall
      cases hcall
    · intro other hmended
      cases hmended
  · rw [hmend]
    have hlength := hrewrite.length_eq.trans hvalid.descriptor_length
    constructor
    case valid => exact ⟨hlength, hvalid.report_length, hvalid.drawnFrom⟩
    case drawnFrom =>
      intro other hattached
      cases hattached
    case report_changed =>
      intro hchanged
      exact absurd rfl hchanged
    case report_mended =>
      intro hcall
      cases hcall
    case descriptor_changed =>
      intro hchanged
      refine ⟨size, patched, rfl, rfl, ?_⟩
      cases heffect : patched.effect with
      | unchanged => exact absurd (hrewrite.eq_of_unchanged heffect) hchanged
      | changed => rfl
    case kept =>
      intro hunchanged
      exact ⟨hrewrite.eq_of_unchanged (Effect.isChanged_eq_false_iff.mp hunchanged), rfl⟩
    case size_le =>
      intro other result hcall hmended hfits
      cases hcall
      cases hmended
      rw [← hvalid.descriptor_length] at hfits ⊢
      exact hsize hfits

theorem sound_mendReport {attachment : Attachment} (hvalid : bench.Valid roster start)
    (hrecipes : ∀ mender ∈ attachment.menders, ∃ recipe : Recipe, mender = recipe.toMender) :
    Exchange.Sound roster start
      ⟨.mendReport, bench, .mendedReport (attachment.mendReport bench.report).1,
        { bench with report := (attachment.mendReport bench.report).2 }⟩ := by
  obtain ⟨effect, after, hmend, hrewrite⟩ :=
    Attachment.mendReport_rewrite hrecipes bench.report
  rw [hmend]
  have hlength := hrewrite.length_eq.trans hvalid.report_length
  constructor
  case valid => exact ⟨hvalid.descriptor_length, hlength, hvalid.drawnFrom⟩
  case drawnFrom =>
    intro other hattached
    cases hattached
  case report_changed =>
    intro hchanged
    refine ⟨rfl, ?_⟩
    cases effect with
    | unchanged => exact absurd (hrewrite.eq_of_unchanged rfl) hchanged
    | changed => rfl
  case report_mended =>
    intro _ _
    exact ⟨effect, rfl⟩
  case descriptor_changed =>
    intro hchanged
    exact absurd rfl hchanged
  case kept =>
    intro hunchanged
    exact ⟨rfl, hrewrite.eq_of_unchanged (Effect.isChanged_eq_false_iff.mp hunchanged)⟩
  case size_le =>
    intro size patched hcall
    cases hcall

/-- Each call is sound on a valid bench, and leaves a valid one. -/
theorem sound_exchange {recipes : List Recipe} {strict : Bool}
    (hvalid : bench.Valid (Roster.ofRecipes recipes strict) start) (call : Call) :
    (bench.exchange (Roster.ofRecipes recipes strict) call).Sound
      (Roster.ofRecipes recipes strict) start := by
  obtain ⟨descriptor, report, current⟩ := bench
  cases call with
  | attachUnchecked device =>
      refine sound_take hvalid ?_ (by simp)
      intro attachment hattach
      exact (Attachment.drawnFrom_attachUnchecked hattach).2
  | attach device size =>
      refine sound_take hvalid ?_ (by simp)
      intro attachment hattach
      exact (Attachment.drawnFrom_attach hattach).2
  | mendDescriptor size =>
      cases current with
      | none => exact sound_detached hvalid rfl
      | some attachment =>
          have hdrawn := hvalid.drawnFrom attachment rfl
          exact sound_mendDescriptor hvalid hdrawn.exists_recipe size
  | mendReport =>
      cases current with
      | none => exact sound_detached hvalid rfl
      | some attachment =>
          have hdrawn := hvalid.drawnFrom attachment rfl
          exact sound_mendReport hvalid hdrawn.exists_recipe

end Step

/-! ## Whole sessions -/

/-- Every exchange of a transcript is sound. -/
theorem sound_of_mem_transcript {recipes : List Recipe} {strict : Bool} {start bench : Bench}
    (hvalid : bench.Valid (Roster.ofRecipes recipes strict) start) (calls : List Call) :
    ∀ exchange ∈ transcript (Roster.ofRecipes recipes strict) bench calls,
      exchange.Sound (Roster.ofRecipes recipes strict) start := by
  induction calls generalizing bench with
  | nil =>
      intro exchange hexchange
      cases hexchange
  | cons call rest ih =>
      have hsound := sound_exchange hvalid call
      intro exchange hexchange
      rcases List.mem_cons.mp hexchange with rfl | hlater
      · exact hsound
      · exact ih hsound.valid exchange hlater

theorem map_call_transcript (roster : Roster) (bench : Bench) (calls : List Call) :
    (transcript roster bench calls).map Exchange.call = calls := by
  induction calls generalizing bench with
  | nil => rfl
  | cons call rest ih =>
      rw [transcript, List.map_cons, ih]
      rfl

/-- A session answers every call, and each of its exchanges is sound. -/
theorem transcript_sound (recipes : List Recipe) (strict : Bool) (descriptor report : Bytes)
    (calls : List Call) :
    (transcript (Roster.ofRecipes recipes strict) (fresh descriptor report) calls).map
        Exchange.call = calls ∧
      ∀ exchange ∈ transcript (Roster.ofRecipes recipes strict) (fresh descriptor report) calls,
        exchange.Sound (Roster.ofRecipes recipes strict) (fresh descriptor report) := by
  constructor
  · exact map_call_transcript _ _ calls
  · exact sound_of_mem_transcript (Valid.fresh _ descriptor report) calls

/-- Cuts a descriptor down to one byte and flips a bit of a report. -/
def trimmer : Recipe :=
  ⟨"trimmer", [.usb 1 1], .sizeOnly 2, some (.replace [0xC0]), 1, [.bits ⟨0, 0x01, 0x02⟩]⟩

def trimmerCalls : List Call :=
  [.mendReport, .attach (.usb 1 1) 2, .mendDescriptor 2, .attach (.usb 1 1) 1, .mendReport,
    .mendDescriptor 1]

/-- The gate refuses the trimmed descriptor, and the earlier attachment goes on. -/
theorem transcript_sound_trimmer :
    (transcript (Roster.ofRecipes [trimmer] true) (fresh [0x0D, 0x02] [0x01])
          trimmerCalls).map Exchange.reply =
        [.detached, .attached (.ok ⟨.usb 1 1, [trimmer.toMender]⟩),
          .mendedDescriptor (.ok ⟨1, .changed⟩),
          .attached (.error (.declined (.usb 1 1) "trimmer" .sizeMismatch)),
          .mendedReport (.ok .changed), .mendedDescriptor (.ok ⟨1, .changed⟩)] ∧
      ∀ exchange ∈ transcript (Roster.ofRecipes [trimmer] true) (fresh [0x0D, 0x02] [0x01])
          trimmerCalls,
        exchange.Sound (Roster.ofRecipes [trimmer] true) (fresh [0x0D, 0x02] [0x01]) :=
  ⟨rfl, (transcript_sound [trimmer] true [0x0D, 0x02] [0x01] trimmerCalls).2⟩

end Bench

end HidMend
