import HidMend.Command.Playback
import HidMend.Proofs.Catalog.Report
import Mathlib.Data.List.Forall2
import Mathlib.Data.List.Sort

/-!
# Reports behind a replay

Menders that say truly what they changed replay all reports or none.  The reports that come out are
those that went in, one for one, with new data where the menders changed a byte; and the changes are
listed in the order of the reports.  These conditions leave one result.
-/

namespace HidMend.Playback

variable {attachment : Attachment} {recorded : RecordedReport} {reports : List RecordedReport}
  {start : ℕ}

/-- The data of the report are bytes. -/
def Decodes (recorded : RecordedReport) : Prop :=
  ∃ bytes, Hex.decode recorded.data = .ok bytes

/-- The bytes of the report are others behind the menders. -/
def Changes (attachment : Attachment) (recorded : RecordedReport) : Prop :=
  ∃ bytes, Hex.decode recorded.data = .ok bytes ∧ (attachment.mendReport bytes).2 ≠ bytes

/-- A report behind the menders: its data are as recorded if no byte has changed, and else they are
the bytes that the menders leave. -/
structure Corrects (attachment : Attachment) (before after : RecordedReport) : Prop where
  timestamp_eq : after.timestamp = before.timestamp
  reportId_eq : after.reportId = before.reportId
  data_eq : ∀ bytes, Hex.decode before.data = .ok bytes →
    after.data = if (attachment.mendReport bytes).2 = bytes then before.data
      else Hex.encode (attachment.mendReport bytes).2

/-- What a replay makes of reports, the first having the given position. -/
structure Replays (attachment : Attachment) (start : ℕ) (reports : List RecordedReport)
    (playback : Playback) : Prop where
  corrects : List.Forall₂ (Corrects attachment) reports playback.reports
  ordered : playback.changes.Pairwise fun left right => left.index < right.index
  mem_changes_iff : ∀ change, change ∈ playback.changes ↔
    ∃ position before after, change = ⟨start + position, before.data, after.data⟩ ∧
      reports[position]? = some before ∧ playback.reports[position]? = some after ∧
      Changes attachment before

/-! ## The conditions leave one result -/

variable {playback : Playback}

/-- Data that are bytes are corrected in one way. -/
theorem Corrects.unique {first second : RecordedReport} (hdecodes : Decodes recorded)
    (hfirst : Corrects attachment recorded first) (hsecond : Corrects attachment recorded second) :
    first = second := by
  obtain ⟨bytes, hbytes⟩ := hdecodes
  cases first with
  | mk timestamp reportId data =>
      cases second with
      | mk otherTimestamp otherReportId otherData =>
          rw [RecordedReport.mk.injEq]
          exact ⟨hfirst.timestamp_eq.trans hsecond.timestamp_eq.symm,
            hfirst.reportId_eq.trans hsecond.reportId_eq.symm,
            (hfirst.data_eq bytes hbytes).trans (hsecond.data_eq bytes hbytes).symm⟩

theorem eq_of_forall₂_corrects {first second : List RecordedReport}
    (hdecodes : ∀ recorded ∈ reports, Decodes recorded)
    (hfirst : List.Forall₂ (Corrects attachment) reports first)
    (hsecond : List.Forall₂ (Corrects attachment) reports second) : first = second := by
  induction hfirst generalizing second with
  | nil =>
      cases hsecond
      rfl
  | cons hcorrects _ ih =>
      obtain ⟨hrecorded, hrest⟩ := List.forall_mem_cons.mp hdecodes
      cases hsecond with
      | cons hother hothers => rw [hcorrects.unique hrecorded hother, ih hrest hothers]

/-- The reports fix their data, and the data fix the changes, which are listed in one order. -/
theorem Replays.unique {first second : Playback} (hdecodes : ∀ recorded ∈ reports, Decodes recorded)
    (hfirst : Replays attachment start reports first)
    (hsecond : Replays attachment start reports second) : first = second := by
  have hreports : first.reports = second.reports :=
    eq_of_forall₂_corrects hdecodes hfirst.corrects hsecond.corrects
  have hirrefl : Std.Irrefl fun left right : ChangedReport => left.index < right.index :=
    ⟨fun _ => Nat.lt_irrefl _⟩
  have hchanges : first.changes = second.changes :=
    hfirst.ordered.eq_of_mem_iff hsecond.ordered fun change => by
      rw [hfirst.mem_changes_iff, hsecond.mem_changes_iff, hreports]
  cases first
  cases second
  rw [Playback.mk.injEq]
  exact ⟨hreports, hchanges⟩

/-! ## One report -/

/-- Data that are bytes are corrected, and the change is truly reported. -/
theorem report_of_decodes (hexact : attachment.Exact) (hdecodes : Decodes recorded) :
    ∃ corrected effect, report attachment recorded = .ok (corrected, effect) ∧
      Corrects attachment recorded corrected ∧
      (effect.isChanged = true ↔ Changes attachment recorded) := by
  obtain ⟨bytes, hbytes⟩ := hdecodes
  obtain ⟨effect, after, hmend, heffect⟩ := hexact bytes
  have honly : ∀ other, Hex.decode recorded.data = .ok other ↔ bytes = other := by
    simp [hbytes]
  cases effect with
  | unchanged =>
      have hsame : after = bytes := by simpa using heffect
      refine ⟨recorded, .unchanged, by simp only [report, hbytes, hmend], ⟨rfl, rfl, ?_⟩, ?_⟩
      · simp [honly, hmend, hsame]
      · simp [Changes, honly, hmend, hsame, Effect.isChanged]
  | changed =>
      have hdiffers : after ≠ bytes := heffect.mp rfl
      refine ⟨{ recorded with data := Hex.encode after }, .changed,
        by simp only [report, hbytes, hmend], ⟨rfl, rfl, ?_⟩, ?_⟩
      · simp [honly, hmend, hdiffers]
      · simp [Changes, honly, hmend, hdiffers, Effect.isChanged]

/-! ## All reports -/

variable {later : Playback} {rest : List RecordedReport} {corrected : RecordedReport}
  {effect : Effect}

theorem Replays.start_le (hreplays : Replays attachment start reports playback) :
    ∀ change ∈ playback.changes, start ≤ change.index := by
  intro change hchange
  obtain ⟨position, before, after, rfl, -⟩ := (hreplays.mem_changes_iff change).mp hchange
  exact Nat.le_add_right start position

/-- One report in front of the others, which are counted from the next position. -/
theorem Replays.cons (hcorrects : Corrects attachment recorded corrected)
    (heffect : effect.isChanged = true ↔ Changes attachment recorded)
    (hlater : Replays attachment (start + 1) rest later) :
    Replays attachment start (recorded :: rest)
      ⟨corrected :: later.reports,
        (if effect.isChanged then [⟨start, recorded.data, corrected.data⟩] else []) ++
          later.changes⟩ := by
  have hfirst : ∀ change : ChangedReport,
      change ∈ (if effect.isChanged then
          [(⟨start, recorded.data, corrected.data⟩ : ChangedReport)] else []) ↔
        change = ⟨start, recorded.data, corrected.data⟩ ∧ Changes attachment recorded := by
    intro change
    rw [← heffect]
    by_cases hchanged : effect.isChanged = true <;> simp [hchanged]
  refine ⟨.cons hcorrects hlater.corrects, ?_, ?_⟩
  · rw [List.pairwise_append]
    refine ⟨?_, hlater.ordered, ?_⟩
    · split
      · exact List.pairwise_singleton _ _
      · exact List.Pairwise.nil
    · intro change hchange other hother
      rw [((hfirst change).mp hchange).1]
      exact hlater.start_le other hother
  · intro change
    rw [List.mem_append, hfirst, hlater.mem_changes_iff]
    constructor
    · rintro (⟨rfl, hchanges⟩ | ⟨position, before, after, rfl, hbefore, hafter, hchanges⟩)
      · exact ⟨0, recorded, corrected, rfl, rfl, rfl, hchanges⟩
      · refine ⟨position + 1, before, after, ?_, hbefore, hafter, hchanges⟩
        rw [Nat.add_right_comm, Nat.add_assoc]
    · rintro ⟨_ | position, before, after, rfl, hbefore, hafter, hchanges⟩
      · cases hbefore
        cases hafter
        exact Or.inl ⟨rfl, hchanges⟩
      · refine Or.inr ⟨position, before, after, ?_, hbefore, hafter, hchanges⟩
        rw [Nat.add_right_comm, Nat.add_assoc]

/-- Reports whose data are bytes are all replayed. -/
theorem reportsFrom_of_decodes (hexact : attachment.Exact)
    (hdecodes : ∀ recorded ∈ reports, Decodes recorded) (start : ℕ) :
    ∃ playback, reportsFrom attachment start reports = .ok playback ∧
      Replays attachment start reports playback := by
  induction reports generalizing start with
  | nil => exact ⟨⟨[], []⟩, rfl, .nil, .nil, by simp⟩
  | cons recorded rest ih =>
      obtain ⟨corrected, effect, hreport, hcorrects, heffect⟩ :=
        report_of_decodes hexact (hdecodes recorded List.mem_cons_self)
      obtain ⟨later, hlater, hreplays⟩ :=
        ih (fun other hother => hdecodes other (List.mem_cons_of_mem _ hother)) (start + 1)
      exact ⟨_, by rw [reportsFrom, hreport]; simp only [hlater],
        .cons hcorrects heffect hreplays⟩

/-- If all data are bytes, the replay is the one that meets the conditions. -/
theorem reportsFrom_eq_ok_iff (hexact : attachment.Exact)
    (hdecodes : ∀ recorded ∈ reports, Decodes recorded) :
    reportsFrom attachment start reports = .ok playback ↔
      Replays attachment start reports playback := by
  obtain ⟨result, hresult, hreplays⟩ := reportsFrom_of_decodes hexact hdecodes start
  rw [hresult, Except.ok.injEq]
  constructor
  · rintro rfl
    exact hreplays
  · exact hreplays.unique hdecodes

/-- Data that are no bytes fail the replay, also behind reports that were replayed. -/
theorem reportsFrom_of_not_decodes (hexact : attachment.Exact)
    (hbroken : ∃ recorded ∈ reports, ¬Decodes recorded) (start : ℕ) :
    ∃ fault, reportsFrom attachment start reports = .error (.recordingData fault) := by
  induction reports generalizing start with
  | nil =>
      obtain ⟨_, hmem, -⟩ := hbroken
      cases hmem
  | cons recorded rest ih =>
      by_cases hdecodes : Decodes recorded
      · obtain ⟨corrected, effect, hreport, -, -⟩ := report_of_decodes hexact hdecodes
        obtain ⟨broken, hmem, hnot⟩ := hbroken
        have hlater : broken ∈ rest := by
          obtain rfl | hlater := List.mem_cons.mp hmem
          · exact absurd hdecodes hnot
          · exact hlater
        obtain ⟨fault, hfault⟩ := ih ⟨broken, hlater, hnot⟩ (start + 1)
        exact ⟨fault, by rw [reportsFrom, hreport]; simp only [hfault]⟩
      · cases hdecode : Hex.decode recorded.data with
        | ok bytes => exact absurd ⟨bytes, hdecode⟩ hdecodes
        | error fault => exact ⟨fault, by simp only [reportsFrom, report, hdecode]⟩

end HidMend.Playback
