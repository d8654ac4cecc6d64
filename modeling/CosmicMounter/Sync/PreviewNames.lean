import CosmicMounter.Sync.PreviewPhrases

/-!
# File names in the preview

The totals of the preview are those of the queue exactly when no file name
brings a phrase that moves its line to another count.
-/

namespace CosmicMounter

open Rust Text

/-! ## Harmless names -/

/-- A name that no phrase of the parser moves to another count. -/
structure Harmless (name : String) : Prop where
  repeats : repeatsAction (" " ++ Str.toAsciiLowercase name) = false
  queueDelete : Str.contains "queue delete" (Str.toAsciiLowercase name) = false
  skippedDelete : Str.contains "skipped delete as --dry-run is set" (Str.toAsciiLowercase name) = false
  path1 : Str.contains "path1" (Str.toAsciiLowercase name) = false
  path2 : (Str.contains "queue copy to" (Str.toAsciiLowercase name) &&
    Str.contains "path2" (Str.toAsciiLowercase name)) = true →
      repeatsAction (Str.toAsciiLowercase name ++ ":") = true

/-- What a queue line adds. -/
def PreviewScan.queue (scan : PreviewScan) : QueuedAction → PreviewScan
  | .copyToPath1 =>
      { scan with summary := scan.summary.addUpload, queuedCopies := scan.queuedCopies + 1 }
  | .copyToPath2 =>
      { scan with summary := scan.summary.addDownload, queuedCopies := scan.queuedCopies + 1 }
  | .delete =>
      { scan with summary := scan.summary.addDelete, queuedDeletes := scan.queuedDeletes + 1 }

section Steps

variable {scan : PreviewScan} {level : LogLevel} {coloured : Bool} {kind : Confirmation} {name : FileName}
  {size : Nat}

theorem clear_levelLead (level : LogLevel) : ∀ phrase ∈ ["queue delete", "queue copy to",
    "skipped delete as --dry-run is set", "skipped copy as --dry-run is set", "path1", "path2"],
      clear phrase.toList (levelLead level) = true := by
  cases level <;> decide

theorem clear_copyLead {action : QueuedAction} (haction : action ≠ .delete) (coloured : Bool) :
    ∀ phrase ∈ ["queue delete", "skipped delete as --dry-run is set"],
      clear phrase.toList (actionLead coloured action) = true := by
  cases action with
  | delete => exact absurd rfl haction
  | copyToPath1 | copyToPath2 => cases coloured <;> decide

/-- In a queue line of copies these phrases are those of the name. -/
theorem contains_copyLine {action : QueuedAction} (haction : action ≠ .delete) {phrase : String}
    (hphrase : phrase ∈ ["queue delete", "skipped delete as --dry-run is set"]) :
    Str.contains phrase (Str.toAsciiLowercase
      (shownLine (PreviewEntry.queued level coloured action name).line)) =
        Str.contains phrase (Str.toAsciiLowercase name.text) := by
  have hlevel : clear phrase.toList (levelLead level) = true := by
    refine clear_levelLead level phrase ?_
    simp only [List.mem_cons, List.not_mem_nil, or_false] at hphrase ⊢
    tauto
  have hplain : phrase.toList ≠ [] ∧ '\r' ∉ phrase.toList := by
    rcases List.mem_pair.mp hphrase with rfl | rfl <;> decide
  rw [contains_shownLine hplain.1 hplain.2,
    contains_queued _ _ _ _ hlevel (clear_copyLead haction coloured phrase hphrase)]

theorem isCopyLine_queued (hrepeats : repeatsAction (" " ++ Str.toAsciiLowercase name.text) = false)
    (hdelete : Str.contains "queue delete" (Str.toAsciiLowercase name.text) = false)
    (hskipped : Str.contains "skipped delete as --dry-run is set" (Str.toAsciiLowercase name.text) = false)
    {action : QueuedAction} (haction : action ≠ .delete) :
    IsCopyLine (shownLine (PreviewEntry.queued level coloured action name).line) where
  repeats := by rw [repeatsAction_shownLine, repeatsAction_queued, hrepeats]
  queueDelete := by rw [contains_copyLine haction (by simp), hdelete]
  skippedDelete := by rw [contains_copyLine haction (by simp), hskipped]

theorem contains_shown_actionLead {phrase : String} (hne : phrase.toList ≠ []) (hreturn : '\r' ∉ phrase.toList)
    {action : QueuedAction} (h : phrase.toList <:+: actionLead coloured action) :
    Str.contains phrase (Str.toAsciiLowercase
      (shownLine (PreviewEntry.queued level coloured action name).line)) = true := by
  rw [contains_shownLine hne hreturn, contains_actionLead _ _ _ _ h]

/-- A harmless name lets its queue line count as what it is. -/
theorem addLine_queued (h : Harmless name.text) (action : QueuedAction) :
    addLine scan (shownLine (PreviewEntry.queued level coloured action name).line) = scan.queue action := by
  cases action with
  | delete =>
      refine addLine_queueDelete ?_ ?_
      · rw [repeatsAction_shownLine, repeatsAction_queued, h.repeats]
      · exact contains_shown_actionLead (by decide) (by decide) (by cases coloured <;> decide)
  | copyToPath1 =>
      have hline : IsCopyLine (shownLine (PreviewEntry.queued level coloured .copyToPath1 name).line) :=
        isCopyLine_queued h.repeats h.queueDelete h.skippedDelete nofun
      refine hline.addLine_path1 ?_ ?_
      all_goals exact contains_shown_actionLead (by decide) (by decide) (by cases coloured <;> decide)
  | copyToPath2 =>
      have hline : IsCopyLine (shownLine (PreviewEntry.queued level coloured .copyToPath2 name).line) :=
        isCopyLine_queued h.repeats h.queueDelete h.skippedDelete nofun
      refine hline.addLine_path2 ?_ ?_ ?_
      · exact contains_shown_actionLead (by decide) (by decide) (by cases coloured <;> decide)
      · rw [contains_shownLine (by decide) (by decide), contains_queued _ _ _ _
          (clear_levelLead level _ (by simp)) (by cases coloured <;> decide), h.path1]
      · exact contains_shown_actionLead (by decide) (by decide) (by cases coloured <;> decide)

theorem contains_kindText (kind : Confirmation) :
    (["queue delete", "queue copy to", "path1", "path2"].any
      (Str.contains · (Str.toAsciiLowercase kind.text))) = false := by
  cases kind <;> decide

/-- These phrases stand in a confirmation only where the name has them. -/
theorem contains_confirmed_name (kind : Confirmation) {phrase : String} {c : Char}
    (hphrase : phrase ∈ ["queue delete", "queue copy to", "path1", "path2"]) (hcolon : ':' ∉ phrase.toList)
    (hparen : '(' ∉ phrase.toList) (hc : c ∈ phrase.toList)
    (hsize : c ∉ "size )".toList ∧ c.isDigit = false) :
    Str.contains phrase (Str.toAsciiLowercase (PreviewEntry.confirmed level kind name size).line) =
      Str.contains phrase (Str.toAsciiLowercase name.text) := by
  have hlevel : clear phrase.toList (levelLead level) = true := by
    refine clear_levelLead level phrase ?_
    simp only [List.mem_cons, List.not_mem_nil, or_false] at hphrase ⊢
    tauto
  have hkind : Str.contains phrase (Str.toAsciiLowercase kind.text) = false :=
    Bool.eq_false_iff.mpr (List.any_eq_false.mp (contains_kindText kind) phrase hphrase)
  rw [contains_confirmed _ _ _ _ hcolon hparen hc hsize hlevel, hkind, Bool.or_false]

theorem contains_confirmed_kind (kind : Confirmation) {phrase : String}
    (hphrase : phrase.toList <:+: (Str.toAsciiLowercase kind.text).toList) :
    Str.contains phrase (Str.toAsciiLowercase (PreviewEntry.confirmed level kind name size).line) = true := by
  rw [Str.contains_iff, toList_confirmed]
  refine hphrase.trans ⟨levelLead level ++ (Str.toAsciiLowercase name.text).toList ++ [':'],
    '(' :: sizeText size, ?_⟩
  simp

/-- A confirmed copy whose name brings no phrase of a delete. -/
theorem isCopyLine_confirmed (hdelete : Str.contains "queue delete" (Str.toAsciiLowercase name.text) = false)
    (hskipped : Str.contains "skipped delete as --dry-run is set" (Str.toAsciiLowercase name.text) = false)
    (hrepeats : repeatsAction (Str.toAsciiLowercase (PreviewEntry.confirmed level .copy name size).line) = false) :
    IsCopyLine (PreviewEntry.confirmed level .copy name size).line where
  repeats := hrepeats
  queueDelete := by
    rw [contains_confirmed_name (c := 'q') .copy (by simp) (by decide) (by decide) (by decide) (by decide), hdelete]
  skippedDelete := by
    have hkind : Str.contains "skipped delete as --dry-run is set"
        (Str.toAsciiLowercase Confirmation.copy.text) = false := by decide
    rw [contains_confirmed (c := 'k') _ _ _ _ (by decide) (by decide) (by decide) (by decide)
      (clear_levelLead level _ (by simp)), hskipped, hkind, Bool.or_false]

/-- A confirmed copy of a harmless name leaves the summary alone. -/
theorem addLine_confirmedCopy (level : LogLevel) (size : Nat) (h : Harmless name.text) (hqueued : 0 < scan.queuedCopies) :
    ∃ direction copies, scan.queuedCopies ≤ copies + 1 ∧
      addLine scan (PreviewEntry.confirmed level .copy name size).line =
        { scan with rcloneCopyDirection := direction, queuedCopies := copies } := by
  cases hrepeats : repeatsAction (Str.toAsciiLowercase (PreviewEntry.confirmed level .copy name size).line) with
  | true => exact ⟨scan.rcloneCopyDirection, scan.queuedCopies, Nat.le_succ _, addLine_repeats hrepeats⟩
  | false =>
      have hline := isCopyLine_confirmed h.queueDelete h.skippedDelete hrepeats
      refine hline.addLine_skippedCopy ?_ ?_ ?_ hqueued
      · rw [contains_confirmed_name (c := 'p') .copy (by simp) (by decide) (by decide) (by decide) (by decide),
          h.path1]
      · rw [contains_confirmed_name (c := 'q') .copy (by simp) (by decide) (by decide) (by decide) (by decide),
          contains_confirmed_name (c := 'p') .copy (by simp) (by decide) (by decide) (by decide) (by decide)]
        by_contra hpath2
        have hname := repeatsAction_confirmed_of_name level .copy name size
          (h.path2 (Bool.eq_true_of_not_eq_false hpath2))
        rw [hrepeats] at hname
        cases hname
      · exact contains_confirmed_kind .copy (by decide)

/-- A confirmed delete of a harmless name leaves the summary alone. -/
theorem addLine_confirmedDelete (level : LogLevel) (size : Nat) (h : Harmless name.text) (hqueued : 0 < scan.queuedDeletes) :
    ∃ deletes, scan.queuedDeletes ≤ deletes + 1 ∧
      addLine scan (PreviewEntry.confirmed level .delete name size).line =
        { scan with queuedDeletes := deletes } := by
  cases hrepeats : repeatsAction (Str.toAsciiLowercase (PreviewEntry.confirmed level .delete name size).line) with
  | true => exact ⟨scan.queuedDeletes, Nat.le_succ _, addLine_repeats hrepeats⟩
  | false =>
      rw [addLine_skippedDelete hrepeats, addConfirmedDelete, if_pos hqueued]
      · exact ⟨scan.queuedDeletes - 1, by omega, rfl⟩
      · rw [contains_confirmed_name (c := 'q') .delete (by simp) (by decide) (by decide) (by decide) (by decide),
          h.queueDelete]
      · exact contains_confirmed_kind .delete (by decide)

end Steps

/-! ## A whole log -/

/-- The scan after some entries: the totals of the queue, and counters that cover what is not
confirmed yet. -/
structure Tallied (past : List PreviewEntry) (scan : PreviewScan) : Prop where
  summary : scan.summary =
    { uploads := queuedOf .copyToPath1 past
      downloads := queuedOf .copyToPath2 past
      deletes := queuedOf .delete past
      destructive := decide (0 < queuedOf .delete past) }
  copies : queuedOf .copyToPath1 past + queuedOf .copyToPath2 past ≤
    scan.queuedCopies + confirmedOf .copy past
  deletes : queuedOf .delete past ≤ scan.queuedDeletes + confirmedOf .delete past

def previewScanOf (entries : List PreviewEntry) : PreviewScan :=
  (entries.map fun entry ↦ shownLine entry.line).foldl addLine {}

theorem previewScanOf_concat (past : List PreviewEntry) (entry : PreviewEntry) :
    previewScanOf (past ++ [entry]) = addLine (previewScanOf past) (shownLine entry.line) := by
  rw [previewScanOf, List.map_append, List.foldl_append, List.map_singleton, List.foldl_cons, List.foldl_nil, previewScanOf]

theorem newline_notMem_line (entry : PreviewEntry) : '\n' ∉ entry.line.toList := by
  have hlevel : ∀ level : LogLevel, '\n' ∉ level.text.toList := by
    intro level
    cases level <;> decide
  cases entry with
  | queued level coloured action name =>
      have haction : '\n' ∉ (action.text coloured).toList := by
        cases action <;> cases coloured <;> decide
      simp only [PreviewEntry.line, String.toList_append, List.mem_append, not_or]
      exact ⟨⟨hlevel level, haction⟩, name.oneLine⟩
  | confirmed level kind name size =>
      have hkind : '\n' ∉ kind.text.toList := by
        cases kind <;> decide
      have hsize : '\n' ∉ (toString size).toList := by
        obtain ⟨-, -, -, hdigits⟩ := Str.exists_digits size
        intro hmem
        cases hdigits _ hmem
      simp only [PreviewEntry.line, String.toList_append, List.mem_append, not_or]
      exact ⟨⟨⟨⟨⟨⟨hlevel level, name.oneLine⟩, by decide⟩, hkind⟩, by decide⟩, hsize⟩, by decide⟩

theorem parsePreview_text (log : PreviewLog) : parsePreview log.text = (previewScanOf log.entries).summary := by
  have hlines : Str.lines log.text = log.entries.map fun entry ↦ shownLine entry.line := by
    rw [PreviewLog.text, Str.lines_unlines_of_oneLine, List.map_map]
    · rfl
    · simp only [List.forall_mem_map]
      exact fun entry _ ↦ newline_notMem_line entry
  rw [parsePreview, hlines, previewScanOf]

theorem queuedOf_concat (action : QueuedAction) (past : List PreviewEntry) (entry : PreviewEntry) :
    queuedOf action (past ++ [entry]) = queuedOf action past + if entry.queues action then 1 else 0 := by
  rw [queuedOf, List.countP_append, List.countP_singleton]
  rfl

theorem confirmedOf_concat (kind : Confirmation) (past : List PreviewEntry) (entry : PreviewEntry) :
    confirmedOf kind (past ++ [entry]) = confirmedOf kind past + if entry.confirms kind then 1 else 0 := by
  rw [confirmedOf, List.countP_append, List.countP_singleton]
  rfl

theorem Tallied.queued {past : List PreviewEntry} {scan : PreviewScan} (h : Tallied past scan)
    (level : LogLevel) (coloured : Bool) (action : QueuedAction) (name : FileName) :
    Tallied (past ++ [.queued level coloured action name]) (scan.queue action) := by
  have hcopies := h.copies
  have hdeletes := h.deletes
  constructor
  · cases action <;>
      simp [PreviewScan.queue, PreviewSummary.addUpload, PreviewSummary.addDownload, PreviewSummary.addDelete,
        h.summary, queuedOf_concat, PreviewEntry.queues]
  · cases action <;>
      simp only [PreviewScan.queue, queuedOf_concat, confirmedOf_concat, PreviewEntry.queues,
        PreviewEntry.confirms] <;> simp <;> omega
  · cases action <;>
      simp only [PreviewScan.queue, queuedOf_concat, confirmedOf_concat, PreviewEntry.queues,
        PreviewEntry.confirms] <;> simp <;> omega

theorem Tallied.confirmedCopy {past : List PreviewEntry} {scan : PreviewScan} (h : Tallied past scan)
    {level : LogLevel} {name : FileName} {size : Nat} {direction : Option Bool} {copies : Nat}
    (hcopies : scan.queuedCopies ≤ copies + 1) :
    Tallied (past ++ [.confirmed level .copy name size])
      { scan with rcloneCopyDirection := direction, queuedCopies := copies } := by
  have hcovered := h.copies
  have hdeletes := h.deletes
  constructor
  · simp [h.summary, queuedOf_concat, PreviewEntry.queues]
  · simp [queuedOf_concat, confirmedOf_concat, PreviewEntry.queues, PreviewEntry.confirms]
    omega
  · simpa [queuedOf_concat, confirmedOf_concat, PreviewEntry.queues, PreviewEntry.confirms] using hdeletes

theorem Tallied.confirmedDelete {past : List PreviewEntry} {scan : PreviewScan} (h : Tallied past scan)
    {level : LogLevel} {name : FileName} {size deletes : Nat} (hqueued : scan.queuedDeletes ≤ deletes + 1) :
    Tallied (past ++ [.confirmed level .delete name size]) { scan with queuedDeletes := deletes } := by
  have hcopies := h.copies
  have hdeletes := h.deletes
  constructor
  · simp [h.summary, queuedOf_concat, PreviewEntry.queues]
  · simpa [queuedOf_concat, confirmedOf_concat, PreviewEntry.queues, PreviewEntry.confirms] using hcopies
  · simp [queuedOf_concat, confirmedOf_concat, PreviewEntry.queues, PreviewEntry.confirms]
    omega

/-- Every entry with a harmless name keeps the tally. -/
theorem Tallied.concat {past : List PreviewEntry} {entry : PreviewEntry} (h : Tallied past (previewScanOf past))
    (hname : Harmless entry.name.text) (hbalanced : Balanced (past ++ [entry])) :
    Tallied (past ++ [entry]) (previewScanOf (past ++ [entry])) := by
  rw [previewScanOf_concat]
  cases entry with
  | queued level coloured action name =>
      have hharmless : Harmless name.text := hname
      rw [addLine_queued hharmless]
      exact h.queued level coloured action name
  | confirmed level kind name size =>
      have hharmless : Harmless name.text := hname
      rw [shownLine_confirmed]
      cases kind with
      | copy =>
          have hpending := hbalanced.copies
          have hcovered := h.copies
          simp only [queuedOf_concat, confirmedOf_concat, PreviewEntry.queues, PreviewEntry.confirms,
            beq_self_eq_true, if_true, Bool.false_eq_true, if_false, Nat.add_zero] at hpending
          have hqueued : 0 < (previewScanOf past).queuedCopies := by omega
          obtain ⟨direction, copies, hcopies, hstep⟩ := addLine_confirmedCopy level size hharmless hqueued
          rw [hstep]
          exact h.confirmedCopy hcopies
      | delete =>
          have hpending := hbalanced.deletes
          have hcovered := h.deletes
          simp only [queuedOf_concat, confirmedOf_concat, PreviewEntry.queues, PreviewEntry.confirms,
            beq_self_eq_true, if_true, Bool.false_eq_true, if_false, Nat.add_zero] at hpending
          have hqueued : 0 < (previewScanOf past).queuedDeletes := by omega
          obtain ⟨deletes, hdeletes, hstep⟩ := addLine_confirmedDelete level size hharmless hqueued
          rw [hstep]
          exact h.confirmedDelete hdeletes

theorem tallied_previewScanOf {entries : List PreviewEntry} (hbalanced : ∀ past, past <+: entries → Balanced past)
    (hnames : ∀ entry ∈ entries, Harmless entry.name.text) : Tallied entries (previewScanOf entries) := by
  induction entries using List.reverseRecOn with
  | nil => exact ⟨rfl, Nat.zero_le _, Nat.zero_le _⟩
  | append_singleton past entry ih =>
      have hpast := ih (fun p hp ↦ hbalanced p (hp.trans (List.prefix_append _ _)))
        fun e he ↦ hnames e (List.mem_append_left _ he)
      exact hpast.concat (hnames entry (List.mem_append_right _ List.mem_cons_self))
        (hbalanced _ (List.prefix_refl _))

theorem PreviewLog.counted_of_harmless (log : PreviewLog)
    (hnames : ∀ entry ∈ log.entries, Harmless entry.name.text) : log.Counted := by
  have htally := (tallied_previewScanOf log.balanced hnames).summary
  rw [← parsePreview_text] at htally
  constructor <;> rw [htally]

/-! ## Names that are not harmless -/

/-- The log of one queue line. -/
def queueLog (action : QueuedAction) (name : FileName) : PreviewLog where
  entries := [.queued .bare false action name]
  balanced := by
    intro past hpast
    rcases List.prefix_cons_iff.mp hpast with rfl | ⟨rest, rfl, hrest⟩
    · exact ⟨Nat.zero_le _, Nat.zero_le _⟩
    · obtain rfl := List.prefix_nil.mp hrest
      cases action <;> exact ⟨Nat.zero_le _, Nat.zero_le _⟩

/-- The log of one copy to the second path, and its confirmation. -/
def copyLog (name : FileName) : PreviewLog where
  entries := [.queued .bare false .copyToPath2 name, .confirmed .bare .copy name 0]
  balanced := by
    intro past hpast
    rcases List.prefix_cons_iff.mp hpast with rfl | ⟨rest, rfl, hrest⟩
    · exact ⟨Nat.zero_le _, Nat.zero_le _⟩
    · rcases List.prefix_cons_iff.mp hrest with rfl | ⟨last, rfl, hlast⟩
      · exact ⟨Nat.zero_le _, Nat.zero_le _⟩
      · obtain rfl := List.prefix_nil.mp hlast
        exact ⟨Nat.le_refl _, Nat.zero_le _⟩

theorem parsePreview_queueLog (action : QueuedAction) (name : FileName) :
    parsePreview (queueLog action name).text =
      (addLine {} (shownLine (PreviewEntry.queued .bare false action name).line)).summary := by
  rw [parsePreview_text]
  exact congrArg PreviewScan.summary (previewScanOf_concat [] _)

theorem repeats_of_counted {name : FileName} (h : (queueLog .delete name).Counted) :
    repeatsAction (" " ++ Str.toAsciiLowercase name.text) = false := by
  by_contra hrepeats
  have hline : repeatsAction (Str.toAsciiLowercase
      (shownLine (PreviewEntry.queued .bare false .delete name).line)) = true := by
    rw [repeatsAction_shownLine, repeatsAction_queued]
    exact Bool.eq_true_of_not_eq_false hrepeats
  have hdeletes := h.deletes
  rw [parsePreview_queueLog, addLine_repeats hline] at hdeletes
  cases hdeletes

theorem queueDelete_of_counted {name : FileName}
    (hrepeats : repeatsAction (" " ++ Str.toAsciiLowercase name.text) = false)
    (h : (queueLog .copyToPath1 name).Counted) :
    Str.contains "queue delete" (Str.toAsciiLowercase name.text) = false := by
  by_contra hdelete
  have huploads := h.uploads
  rw [parsePreview_queueLog, addLine_queueDelete] at huploads
  · cases huploads
  · rw [repeatsAction_shownLine, repeatsAction_queued, hrepeats]
  · rw [contains_copyLine (by decide) (by simp)]
    exact Bool.eq_true_of_not_eq_false hdelete

theorem skippedDelete_of_counted {name : FileName}
    (hrepeats : repeatsAction (" " ++ Str.toAsciiLowercase name.text) = false)
    (hdelete : Str.contains "queue delete" (Str.toAsciiLowercase name.text) = false)
    (h : (queueLog .copyToPath1 name).Counted) :
    Str.contains "skipped delete as --dry-run is set" (Str.toAsciiLowercase name.text) = false := by
  by_contra hskipped
  have huploads := h.uploads
  rw [parsePreview_queueLog, addLine_skippedDelete] at huploads
  · cases huploads
  · rw [repeatsAction_shownLine, repeatsAction_queued, hrepeats]
  · rw [contains_copyLine (by decide) (by simp), hdelete]
  · rw [contains_copyLine (by decide) (by simp)]
    exact Bool.eq_true_of_not_eq_false hskipped

theorem path1_of_counted {name : FileName}
    (hline : IsCopyLine (shownLine (PreviewEntry.queued .bare false .copyToPath2 name).line))
    (h : (queueLog .copyToPath2 name).Counted) :
    Str.contains "path1" (Str.toAsciiLowercase name.text) = false := by
  by_contra hpath1
  have hdownloads := h.downloads
  rw [parsePreview_queueLog, hline.addLine_path1] at hdownloads
  · cases hdownloads
  · exact contains_shown_actionLead (by decide) (by decide) (by decide)
  · rw [contains_shownLine (by decide) (by decide), contains_queued _ _ _ _
      (clear_levelLead .bare _ (by simp)) (by decide)]
    exact Bool.eq_true_of_not_eq_false hpath1

/-- The confirmation of such a name would be read as another copy to the second path. -/
theorem path2_of_counted {name : FileName}
    (hline : IsCopyLine (shownLine (PreviewEntry.queued .bare false .copyToPath2 name).line))
    (hdelete : Str.contains "queue delete" (Str.toAsciiLowercase name.text) = false)
    (hskipped : Str.contains "skipped delete as --dry-run is set" (Str.toAsciiLowercase name.text) = false)
    (hpath1 : Str.contains "path1" (Str.toAsciiLowercase name.text) = false)
    (hpath2 : (Str.contains "queue copy to" (Str.toAsciiLowercase name.text) &&
      Str.contains "path2" (Str.toAsciiLowercase name.text)) = true)
    (h : (copyLog name).Counted) : repeatsAction (Str.toAsciiLowercase name.text ++ ":") = true := by
  by_contra hrepeats
  have hconfirmed : IsCopyLine (PreviewEntry.confirmed .bare .copy name 0).line :=
    isCopyLine_confirmed hdelete hskipped (repeatsAction_bare .copy name 0 (Bool.eq_false_iff.mpr hrepeats))
  have hscan : previewScanOf (copyLog name).entries =
      addLine (addLine {} (shownLine (PreviewEntry.queued .bare false .copyToPath2 name).line))
        (PreviewEntry.confirmed .bare .copy name 0).line := by
    have hentries : (copyLog name).entries =
        [] ++ [.queued .bare false .copyToPath2 name] ++ [.confirmed .bare .copy name 0] := rfl
    rw [hentries, previewScanOf_concat, previewScanOf_concat, shownLine_confirmed]
    rfl
  obtain ⟨hqueue, hpath2⟩ := Bool.and_eq_true_iff.mp hpath2
  have hdownloads := h.downloads
  rw [parsePreview_text, hscan, hline.addLine_path2, hconfirmed.addLine_path2] at hdownloads
  · cases hdownloads
  · rw [contains_confirmed_name (c := 'q') .copy (by simp) (by decide) (by decide) (by decide) (by decide), hqueue]
  · rw [contains_confirmed_name (c := 'p') .copy (by simp) (by decide) (by decide) (by decide) (by decide), hpath1]
  · rw [contains_confirmed_name (c := 'p') .copy (by simp) (by decide) (by decide) (by decide) (by decide), hpath2]
  · exact contains_shown_actionLead (by decide) (by decide) (by decide)
  · rw [contains_shownLine (by decide) (by decide), contains_queued _ _ _ _
      (clear_levelLead .bare _ (by simp)) (by decide), hpath1]
  · exact contains_shown_actionLead (by decide) (by decide) (by decide)

theorem harmless_of_counted {name : FileName} (hqueue : ∀ action, (queueLog action name).Counted)
    (hcopy : (copyLog name).Counted) : Harmless name.text := by
  have hrepeats := repeats_of_counted (hqueue .delete)
  have hdelete := queueDelete_of_counted hrepeats (hqueue .copyToPath1)
  have hskipped := skippedDelete_of_counted hrepeats hdelete (hqueue .copyToPath1)
  have hline : IsCopyLine (shownLine (PreviewEntry.queued .bare false .copyToPath2 name).line) :=
    isCopyLine_queued hrepeats hdelete hskipped nofun
  have hpath1 := path1_of_counted hline (hqueue .copyToPath2)
  exact ⟨hrepeats, hdelete, hskipped, hpath1,
    fun hpath2 ↦ path2_of_counted hline hdelete hskipped hpath1 hpath2 hcopy⟩

end CosmicMounter
