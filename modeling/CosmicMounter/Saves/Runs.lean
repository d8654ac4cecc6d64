import CosmicMounter.Config.Directories
import CosmicMounter.Interaction.Steps
import CosmicMounter.Saves.Paths

/-!
# Saves of several windows

Every window holds a copy of the configuration, and their saves interleave
where one of them waits.  A save keeps to its own part of the document when
the copy that it edits is the stored one.
-/

namespace CosmicMounter.Saves

open Rust Interaction

variable {ext : Externals}

abbrev Window := Nat

/-- One call, with what was stored before and after it. -/
structure Record where
  outcome : Outcome
  edit : ConfigDocument → ConfigDocument
  before : Stored
  after : Stored

structure State where
  stored : Stored
  held : Window → Config
  waiting : List PopupSave
  log : List Record

inductive Event
  | save (window : Window) (save : Save) (writes : Writes)
  | beginPopup (id : ConnectionId) (desiredOn : Bool) (writes : Writes)
  | finishPopup (popup : PopupSave) (managerOk : Bool) (writes : Writes)
  | reload (window : Window) (writes : Writes)

/-- Each call runs to its end, or to where it waits. -/
inductive Step (ext : Externals) (s : State) : Event → State → Prop
  | save (window : Window) (save : Save) (writes : Writes) {effect : Effect}
      (h : save.run ext writes (s.held window) s.stored = effect) :
      Step ext s (.save window save writes)
        { s with
          stored := effect.stored
          held := Function.update s.held window effect.held
          log := s.log ++ [⟨effect.outcome, save.edit, s.stored, effect.stored⟩] }
  | beginPopup (id : ConnectionId) (desiredOn : Bool) (writes : Writes) {popup : Option PopupSave}
      {stored : Stored} (h : CosmicMounter.beginPopup ext writes s.stored id desiredOn = (popup, stored)) :
      Step ext s (.beginPopup id desiredOn writes)
        { s with
          stored := stored
          waiting := s.waiting ++ popup.toList
          log := s.log ++ [⟨.refused, (·.setStartAtLogin id desiredOn), s.stored, stored⟩] }
  | finishPopup {popup : PopupSave} (managerOk : Bool) (writes : Writes) {outcome : Outcome}
      {stored : Stored} (hwaiting : popup ∈ s.waiting)
      (h : popup.finish ext writes s.stored managerOk = (outcome, stored)) :
      Step ext s (.finishPopup popup managerOk writes)
        { s with
          stored := stored
          waiting := s.waiting.erase popup
          log := s.log ++ [⟨outcome, popup.edit, s.stored, stored⟩] }
  | reload (window : Window) (writes : Writes) {report : LoadReport} {stored : Stored}
      (h : s.stored.load ext writes.migration = (report, stored)) :
      Step ext s (.reload window writes)
        { s with stored := stored, held := Function.update s.held window report.config }

/-! ## One call -/

/-- The call replaced the document by its edit of it, and wrote nothing over one that cannot be loaded. -/
structure Record.Framed (ext : Externals) (record : Record) : Prop where
  saved : record.outcome = .saved → ∃ document, record.before.content ext = some document ∧
    record.after.content ext = some (record.edit document)
  unloadable : record.before.content ext = none → record.after = record.before

theorem onedriverPreloadSeconds_edit (save : Save) (document : ConfigDocument) :
    (save.edit document).onedriverPreloadSeconds = document.onedriverPreloadSeconds := by
  cases save with
  | draft connection markersRemoved => rfl
  | reorder id newPosition =>
      simp only [Save.edit, ConfigDocument.reorder]
      split
      · rfl
      · unfold ConfigDocument.moveConnection
        split <;> rfl
  | remove connection => rfl
  | confirmImport connection =>
      simp only [Save.edit, ConfigDocument.importConnection]
      split <;> rfl
  | detectVpns profiles => rfl
  | preference command => cases command <;> rfl

variable {writes : Writes} {stored : Stored} {held : Config}

theorem framed_of_refused {edit : ConfigDocument → ConfigDocument} :
    (⟨.refused, edit, stored, stored⟩ : Record).Framed ext := ⟨nofun, fun _ ↦ rfl⟩

/-- An edit of the stored content is framed. -/
theorem framed_update {config : Config} {edit update : ConfigDocument → ConfigDocument} (saves : Bool)
    (hcurrent : stored.content ext = some config.document)
    (hedit : update config.document = edit config.document)
    (hkeeps : (edit config.document).onedriverPreloadSeconds = none) :
    (⟨(effectOf (config.updateValidatedWith ext saves stored update)).outcome, edit, stored,
      (config.updateValidatedWith ext saves stored update).stored⟩ : Record).Framed ext := by
  constructor
  · intro hsaved
    dsimp only [effectOf] at hsaved
    cases hresult : (config.updateValidatedWith ext saves stored update).result with
    | error e =>
        rw [hresult] at hsaved
        cases hsaved
    | ok saved =>
        refine ⟨config.document, hcurrent, ?_⟩
        dsimp only
        rw [← hedit] at hkeeps ⊢
        exact Config.content_updateValidatedWith hcurrent hkeeps hresult
  · intro hnone
    rw [hcurrent] at hnone
    cases hnone

/-- A call that loads before it saves is framed. -/
theorem framed_reloading {refuses : ConfigDocument → Bool} {edit : ConfigDocument → ConfigDocument}
    (hkeeps : ∀ document : ConfigDocument, document.onedriverPreloadSeconds = none →
      (edit document).onedriverPreloadSeconds = none) :
    (⟨(reloading ext writes held stored refuses edit).outcome, edit, stored,
      (reloading ext writes held stored refuses edit).stored⟩ : Record).Framed ext := by
  unfold reloading
  split
  · exact ⟨nofun, fun hnone ↦ Stored.load_of_content_none _ hnone⟩
  · next config hload =>
      obtain ⟨hcontent, hloaded⟩ := Stored.complete_load hload
      split_ifs
      · exact ⟨nofun, fun hnone ↦ Stored.load_of_content_none _ hnone⟩
      · have hnone := hkeeps _ (Stored.onedriverPreloadSeconds_content hcontent)
        have hframed := framed_update writes.save hloaded rfl hnone
        refine ⟨fun hsaved ↦ ?_, fun h ↦ ?_⟩
        · obtain ⟨document, hdocument, hafter⟩ := hframed.saved hsaved
          rw [hloaded] at hdocument
          obtain rfl := Option.some.inj hdocument
          exact ⟨_, hcontent, hafter⟩
        · rw [hcontent] at h
          cases h

theorem framed_reorderConnection {id : ConnectionId} {newPosition : Nat}
    (hcurrent : stored.content ext = some held.document) :
    (⟨(reorderConnection ext writes held stored id newPosition).outcome, (·.reorder id newPosition), stored,
      (reorderConnection ext writes held stored id newPosition).stored⟩ : Record).Framed ext := by
  unfold reorderConnection
  split
  · exact framed_of_refused
  · next current hposition =>
      split_ifs
      · exact framed_of_refused
      · refine framed_update writes.save hcurrent ?_ ?_
        · rw [ConfigDocument.reorder, hposition]
        · have hkeeps := onedriverPreloadSeconds_edit (.reorder id newPosition) held.document
          exact hkeeps.trans (Stored.onedriverPreloadSeconds_content hcurrent)

theorem framed_run {save : Save} (hcurrent : ∀ id newPosition, save = .reorder id newPosition →
      stored.content ext = some held.document) :
    (⟨(save.run ext writes held stored).outcome, save.edit, stored,
      (save.run ext writes held stored).stored⟩ : Record).Framed ext := by
  have hkeeps : ∀ document : ConfigDocument, document.onedriverPreloadSeconds = none →
      (save.edit document).onedriverPreloadSeconds = none := fun document hnone ↦
    (onedriverPreloadSeconds_edit save document).trans hnone
  cases save with
  | reorder id newPosition => exact framed_reorderConnection (hcurrent id newPosition rfl)
  | draft connection markersRemoved => exact framed_reloading hkeeps
  | remove connection => exact framed_reloading hkeeps
  | confirmImport connection => exact framed_reloading hkeeps
  | detectVpns profiles => exact framed_reloading hkeeps
  | preference command => exact framed_reloading hkeeps

theorem framed_beginPopup {id : ConnectionId} {desiredOn : Bool} {edit : ConfigDocument → ConfigDocument} :
    (⟨.refused, edit, stored, (beginPopup ext writes stored id desiredOn).2⟩ : Record).Framed ext := by
  refine ⟨nofun, fun hnone ↦ ?_⟩
  unfold beginPopup
  split <;> exact Stored.load_of_content_none _ hnone

theorem framed_finish {popup : PopupSave} {managerOk : Bool}
    (hcurrent : stored.content ext = some popup.config.document) :
    (⟨(popup.finish ext writes stored managerOk).1, popup.edit, stored,
      (popup.finish ext writes stored managerOk).2⟩ : Record).Framed ext := by
  unfold PopupSave.finish
  split_ifs
  · have hnone := Stored.onedriverPreloadSeconds_content hcurrent
    exact framed_update writes.save hcurrent rfl hnone
  · exact ⟨nofun, fun _ ↦ rfl⟩

/-! ## Runs -/

/-- A call that does not load the document itself, or that waited since, still has the stored one. -/
def Current (ext : Externals) (s : State) : Event → Prop
  | .save window (.reorder _ _) _ => s.stored.content ext = some (s.held window).document
  | .finishPopup popup _ _ => s.stored.content ext = some popup.config.document
  | _ => True

def CurrentStep (ext : Externals) (s : State) (event : Event) (s' : State) : Prop :=
  Step ext s event s' ∧ Current ext s event

/-- What one step adds to the log. -/
theorem framed_of_step {s s' : State} {event : Event} (h : Step ext s event s')
    (hcurrent : Current ext s event) : ∀ record ∈ s'.log, record ∈ s.log ∨ record.Framed ext := by
  intro record hrecord
  cases h with
  | save window save writes h =>
      subst h
      rcases List.mem_append.mp hrecord with hold | hnew
      · exact .inl hold
      · obtain rfl := List.mem_singleton.mp hnew
        refine .inr (framed_run ?_)
        rintro id newPosition rfl
        exact hcurrent
  | beginPopup id desiredOn writes h =>
      rcases List.mem_append.mp hrecord with hold | hnew
      · exact .inl hold
      · obtain rfl := List.mem_singleton.mp hnew
        obtain rfl := (congrArg Prod.snd h).symm
        exact .inr framed_beginPopup
  | finishPopup managerOk writes hwaiting h =>
      rcases List.mem_append.mp hrecord with hold | hnew
      · exact .inl hold
      · obtain rfl := List.mem_singleton.mp hnew
        obtain rfl := (congrArg Prod.fst h).symm
        obtain rfl := (congrArg Prod.snd h).symm
        exact .inr (framed_finish hcurrent)
  | reload window writes h => exact .inl hrecord

def sampleDocument : ConfigDocument := { connections := Config.sampleConnections "/home/u/Other" }

def sampleState : State where
  stored := .document sampleDocument
  held _ := ⟨sampleDocument⟩
  waiting := []
  log := []

def savesBoth : Writes := ⟨true, true⟩

def restored : ConfigDocument := { sampleDocument with restoreAfterWake := true }

/-- The second of the reorders is of a window that still holds the document as it was before. -/
theorem sample_runs :
    (Save.preference (.setRestore true)).run sampleExternals savesBoth ⟨sampleDocument⟩
        (.document sampleDocument) = ⟨.saved, ⟨restored⟩, .document restored⟩ ∧
      (Save.reorder Config.otherId 1).run sampleExternals savesBoth ⟨restored⟩ (.document restored) =
        ⟨.saved, ⟨restored.reorder Config.otherId 1⟩, .document (restored.reorder Config.otherId 1)⟩ ∧
      (Save.reorder Config.otherId 1).run sampleExternals savesBoth ⟨sampleDocument⟩ (.document restored) =
        ⟨.saved, ⟨sampleDocument.reorder Config.otherId 1⟩, .document (sampleDocument.reorder Config.otherId 1)⟩ ∧
      (Stored.document restored).content sampleExternals = some restored := by
  decide +kernel

end CosmicMounter.Saves
