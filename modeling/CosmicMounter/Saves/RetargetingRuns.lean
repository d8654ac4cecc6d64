import CosmicMounter.Interaction.Steps
import CosmicMounter.Saves.Retargeting

/-!
# Runs with retargeted mirrors

A save that moves a mirror away from its target is careful when it is stored
and its markers are removed, or when there were none.  Over careful steps an
abandoned baseline is not used again.
-/

namespace CosmicMounter.Retargeting

open Rust Interaction

variable {ext : Externals} {workRoot : String} {errors : RemovalErrors} {markers markers' : Markers}
  {found next : Connection} {current : Config} {stored : Stored} {writes : Writes} {workDirectory : String}

/-! ## Markers -/

theorem Markers.set_false_of_absent {marker : Marker} (h : markers workDirectory marker = false) :
    markers.set workDirectory marker false = markers := by
  rw [set, ← h, Function.update_eq_self, Function.update_eq_self]

theorem Markers.of_set_false {marker other : Marker} {directory : String}
    (h : markers.set workDirectory marker false directory other = true) : markers directory other = true := by
  unfold set at h
  by_cases hdirectory : directory = workDirectory
  · subst hdirectory
    rw [Function.update_self] at h
    by_cases hother : other = marker
    · subst hother
      rw [Function.update_self] at h
      cases h
    · rwa [Function.update_of_ne hother] at h
  · rwa [Function.update_of_ne hdirectory] at h

theorem Markers.set_self (marker : Marker) (present : Bool) :
    markers.set workDirectory marker present workDirectory marker = present := by
  rw [set, Function.update_self, Function.update_self]

theorem Markers.set_of_ne {marker other : Marker} {directory : String} (present : Bool)
    (h : directory ≠ workDirectory ∨ other ≠ marker) :
    markers.set workDirectory marker present directory other = markers directory other := by
  unfold set
  by_cases hdirectory : directory = workDirectory
  · subst hdirectory
    rw [Function.update_self, Function.update_of_ne (h.resolve_left (not_not_intro rfl))]
  · rw [Function.update_of_ne hdirectory]

/-- Removing markers brings none back. -/
theorem of_removeMarkers {directory : String} {other : Marker} {list : List Marker}
    (h : (removeMarkers errors workDirectory list markers).2 directory other = true) :
    markers directory other = true := by
  induction list generalizing markers with
  | nil => exact h
  | cons marker rest ih =>
      unfold removeMarkers at h
      cases herror : errors marker with
      | some error =>
          rw [herror] at h
          exact h
      | none =>
          rw [herror] at h
          exact Markers.of_set_false (ih h)

/-! ## One save -/

/-- The edited configuration is the stored one, or is valid and can be written. -/
def Accepts (ext : Externals) (writes : Writes) (current : Config) (next : Connection) : Prop :=
  (⟨current.document.saveConnection next⟩ : Config) = current ∨
    Config.validate ext ⟨current.document.saveConnection next⟩ = .ok () ∧ writes.save = true

theorem outcome_updateValidated : (effectOf (current.updateValidatedWith ext writes.save stored
    (·.saveConnection next))).outcome = .saved ↔ Accepts ext writes current next := by
  unfold Config.updateValidatedWith Accepts
  by_cases hsame : (⟨current.document.saveConnection next⟩ : Config) = current
  · rw [if_pos hsame]
    exact iff_of_true rfl (.inl hsame)
  · rw [if_neg hsame]
    cases hvalid : Config.validate ext ⟨current.document.saveConnection next⟩ with
    | error e => simp [hsame, effectOf]
    | ok valid => cases writes.save <;> simp [hsame, effectOf]

/-- The save removes the markers of this plan, unless a removal fails. -/
structure Invalidates (ext : Externals) (workRoot : String) (found next : Connection) (plan : RcloneBisyncPlan) :
    Prop where
  mirrors : areSharePointMirrors found next = true
  planned : rcloneBisyncPlan ext found workRoot = .ok plan
  moved : ∃ newPlan, rcloneBisyncPlan ext next workRoot = .ok newPlan ∧ plan.workDirectory ≠ newPlan.workDirectory

/-- Either the plan's markers are removed, or nothing is. -/
theorem invalidate_cases (markers : Markers) :
    (∃ plan, Invalidates ext workRoot found next plan ∧
      invalidateSharepointMirrorConfirmationOnRetarget ext workRoot errors found next markers =
        removeMarkers errors plan.workDirectory [.initialPreviewConfirmable, .initialSyncComplete] markers) ∨
    (invalidateSharepointMirrorConfirmationOnRetarget ext workRoot errors found next markers).2 = markers := by
  unfold invalidateSharepointMirrorConfirmationOnRetarget
  by_cases hmirrors : areSharePointMirrors found next = true
  · rw [hmirrors]
    cases hplan : rcloneBisyncPlan ext found workRoot with
    | error e => exact .inr rfl
    | ok plan =>
        cases hnew : rcloneBisyncPlan ext next workRoot with
        | error e => exact .inr rfl
        | ok newPlan =>
            by_cases hsame : plan.workDirectory = newPlan.workDirectory
            · rw [Bool.not_true, if_neg Bool.false_ne_true]
              dsimp only
              rw [if_pos hsame]
              exact .inr rfl
            · rw [Bool.not_true, if_neg Bool.false_ne_true]
              dsimp only
              rw [if_neg hsame]
              exact .inl ⟨plan, ⟨hmirrors, hplan, newPlan, hnew, hsame⟩, rfl⟩
  · rw [Bool.not_eq_true] at hmirrors
    rw [hmirrors]
    exact .inr rfl

theorem Invalidates.eq {plan : RcloneBisyncPlan} (h : Invalidates ext workRoot found next plan) (markers : Markers) :
    invalidateSharepointMirrorConfirmationOnRetarget ext workRoot errors found next markers =
      removeMarkers errors plan.workDirectory [.initialPreviewConfirmable, .initialSyncComplete] markers := by
  obtain ⟨hmirrors, hplan, newPlan, hnew, hmoved⟩ := h
  unfold invalidateSharepointMirrorConfirmationOnRetarget
  rw [hmirrors, hplan, hnew, Bool.not_true, if_neg Bool.false_ne_true]
  dsimp only
  rw [if_neg hmoved]

/-- Saves bring no markers back. -/
theorem of_saveValidatedDraftWith {directory : String} {other : Marker}
    (h : (saveValidatedDraftWith ext workRoot errors writes current stored next markers).2 directory other = true) :
    markers directory other = true := by
  have hmarkers : (saveValidatedDraftWith ext workRoot errors writes current stored next markers).2 =
      (invalidateExisting ext workRoot errors current next markers).2 := by
    unfold saveValidatedDraftWith
    split <;> simp_all
  rw [hmarkers, invalidateExisting] at h
  cases hfound : existing current next.id with
  | none =>
      rw [hfound] at h
      exact h
  | some found =>
      rw [hfound] at h
      dsimp only at h
      rcases @invalidate_cases ext workRoot errors found next markers with ⟨plan, -, heq⟩ | hsame
      · rw [heq] at h
        exact of_removeMarkers h
      · rwa [hsame] at h

/-! ## Careful steps -/

/-- Either the save is stored, or it finds no marker to remove. -/
def KeepsOrStores (ext : Externals) (writes : Writes) (errors : RemovalErrors) (current : Config) (next : Connection)
    (present : Marker → Bool) : Prop :=
  errors .initialPreviewConfirmable = none ∧ errors .initialSyncComplete = none ∧ Accepts ext writes current next ∨
    (errors .initialPreviewConfirmable = none → present .initialPreviewConfirmable = false ∧
      (errors .initialSyncComplete = none → present .initialSyncComplete = false))

/-- A bound mirror gets another target. -/
structure MovesAway (ext : Externals) (workRoot : String) (found next : Connection) (plan : RcloneBisyncPlan) : Prop where
  planned : rcloneBisyncPlan ext found workRoot = .ok plan
  bound : found.hasBoundTarget = true
  target : next.target ≠ found.target

structure CarefulSave (ext : Externals) (workRoot : String) (s : State) (writes : Writes) (errors : RemovalErrors)
    (current : Config) (found next : Connection) : Prop where
  stored : ∀ plan, Invalidates ext workRoot found next plan →
    KeepsOrStores ext writes errors current next (s.markers plan.workDirectory)
  invalidated : ∀ plan, MovesAway ext workRoot found next plan → Accepts ext writes current next →
    (areSharePointMirrors found next = true ∧ ∀ newPlan, rcloneBisyncPlan ext next workRoot = .ok newPlan →
      plan.workDirectory ≠ newPlan.workDirectory) ∨ ∀ marker, s.markers plan.workDirectory marker = false
  unsynchronized : ∀ plan, MovesAway ext workRoot found next plan → Accepts ext writes current next →
    ∀ run ∈ s.running, run.mode = .initialSync → run.plan.workDirectory ≠ plan.workDirectory

/-- Nothing fails after the marker of the run was written. -/
def Run.EndsCleanly (run : Run) (ending : Ending) : Prop :=
  ending.transaction = true → ending.written = true → run.mode = .initialPreview ∨ run.mode = .initialSync →
    ending.stateWritten = true ∧ (run.mode = .initialSync → ending.removed = true)

def Careful (ext : Externals) (workRoot : String) (s : State) : Event → Prop
  | .save next writes errors => ∀ current found, (s.stored.load ext writes.migration).1.complete = .ok current →
      existing current next.id = some found → CarefulSave ext workRoot s writes errors current found next
  | .finish index ending => ∀ run, s.running[index]? = some run → run.EndsCleanly ending
  | .change _ | .start _ _ => True

def CarefulStep (ext : Externals) (workRoot : String) (s : State) (event : Event) (s' : State) : Prop :=
  Step ext workRoot s event s' ∧ Careful ext workRoot s event

/-- A save that is not stored leaves all markers as they were. -/
theorem kept_of_careful {s : State} {effect : Effect}
    (hcareful : ∀ found, existing current next.id = some found →
      CarefulSave ext workRoot s writes errors current found next)
    (hsave : saveValidatedDraftWith ext workRoot errors writes current stored next s.markers = (effect, markers'))
    (hrefused : effect.outcome ≠ .saved) : markers' = s.markers := by
  unfold saveValidatedDraftWith at hsave
  have hdecided : (∀ m, invalidateExisting ext workRoot errors current next s.markers = (.ok (), m) →
        ¬Accepts ext writes current next) ∧
      markers' = (invalidateExisting ext workRoot errors current next s.markers).2 := by
    match hresult : invalidateExisting ext workRoot errors current next s.markers with
    | (.error e, m) =>
        rw [hresult] at hsave
        obtain ⟨-, rfl⟩ := Prod.mk.inj hsave
        exact ⟨nofun, rfl⟩
    | (.ok (), m) =>
        rw [hresult] at hsave
        obtain ⟨rfl, rfl⟩ := Prod.mk.inj hsave
        exact ⟨fun _ _ haccepts ↦ hrefused (outcome_updateValidated.mpr haccepts), rfl⟩
  obtain ⟨hnot, rfl⟩ := hdecided
  unfold invalidateExisting at hnot ⊢
  cases hfound : existing current next.id with
  | none => rfl
  | some found =>
      rw [hfound] at hnot
      dsimp only at hnot ⊢
      rcases @invalidate_cases ext workRoot errors found next s.markers with ⟨plan, hinvalidates, heq⟩ | hsame
      · rw [heq] at hnot ⊢
        have hkeeps := (hcareful found hfound).stored plan hinvalidates
        unfold removeMarkers at hnot ⊢
        cases hpreview : errors .initialPreviewConfirmable with
        | some e => rfl
        | none =>
            rw [hpreview] at hnot
            unfold removeMarkers at hnot ⊢
            cases hsync : errors .initialSyncComplete with
            | some e =>
                rcases hkeeps with ⟨-, hnone, -⟩ | habsent
                · rw [hsync] at hnone
                  cases hnone
                · exact Markers.set_false_of_absent (habsent hpreview).1
            | none =>
                rw [hsync] at hnot
                rcases hkeeps with ⟨-, -, haccepts⟩ | habsent
                · exact absurd haccepts (hnot _ rfl)
                · obtain ⟨hfirst, hsecond⟩ := habsent hpreview
                  dsimp only [removeMarkers]
                  rw [Markers.set_false_of_absent hfirst, Markers.set_false_of_absent (hsecond hsync)]
      · exact hsame

/-! ## The past -/

/-- The target was left, and no Preview of it has succeeded since. -/
def Unpreviewed (workDirectory : String) : List Entry → Prop :=
  Pending (· = .left workDirectory) (· = .previewed workDirectory)

/-- The target was left, and it has not been renewed since. -/
def Unrenewed (workDirectory : String) (log : List Entry) : Prop :=
  ∃ before after, log = before ++ .left workDirectory :: after ∧ ¬Renewed workDirectory after

theorem Renewed.append {log entries : List Entry} (h : Renewed workDirectory log) :
    Renewed workDirectory (log ++ entries) := by
  obtain ⟨before, between, after, rfl⟩ := h
  exact ⟨before, between, after ++ entries, by simp⟩

theorem unpreviewed_append {log : List Entry} {entries : List Entry} (hleft : .left workDirectory ∉ entries)
    (h : Unpreviewed workDirectory (log ++ entries)) : Unpreviewed workDirectory log := by
  induction entries generalizing log with
  | nil => rwa [List.append_nil] at h
  | cons entry rest ih =>
      obtain ⟨hfirst, hrest⟩ := not_or.mp (mt List.mem_cons.mpr hleft)
      rw [List.append_cons] at h
      exact pending_of_append (ih hrest h) fun heq ↦ hfirst heq.symm

theorem unrenewed_append {log entries : List Entry} (hleft : .left workDirectory ∉ entries)
    (h : Unrenewed workDirectory (log ++ entries)) : Unrenewed workDirectory log := by
  obtain ⟨before, after, heq, hnot⟩ := h
  rcases List.append_eq_append_iff.mp heq with ⟨extra, hbefore, hentries⟩ | ⟨extra, hlog, hafter⟩
  · exact absurd (hentries ▸ List.mem_append_right _ List.mem_cons_self) hleft
  · cases extra with
    | nil =>
        rw [List.nil_append] at hafter
        exact absurd (hafter ▸ List.mem_cons_self) hleft
    | cons entry rest =>
        obtain ⟨rfl, rfl⟩ := List.cons.inj hafter
        exact ⟨before, rest, hlog, fun hrenewed ↦ hnot hrenewed.append⟩

/-- A synchronization after a new Preview renews the target. -/
theorem not_unrenewed_synced {log : List Entry} (h : ¬Unpreviewed workDirectory log) :
    ¬Unrenewed workDirectory (log ++ [.synced workDirectory]) := by
  rintro ⟨before, after, heq, hnot⟩
  rcases List.eq_nil_or_concat' after with rfl | ⟨init, last, rfl⟩
  · obtain ⟨-, hentry⟩ := List.append_inj' heq rfl
    cases hentry
  · rw [← List.cons_append, ← List.append_assoc] at heq
    obtain ⟨rfl, hlast⟩ := List.append_inj' heq rfl
    obtain rfl := List.singleton_inj.mp hlast
    refine h ⟨before, _, init, rfl, rfl, ?_⟩
    rintro entry hentry rfl
    obtain ⟨first, second, rfl⟩ := List.append_of_mem hentry
    exact hnot ⟨first, second, [], by simp⟩

/-! ## Runs -/

/-- What the markers and the running synchronizations say about the past. -/
structure Sound (s : State) : Prop where
  kept : ∀ outcome before after, .save outcome before after ∈ s.log → outcome ≠ .saved → after = before
  previewed : ∀ workDirectory, s.markers workDirectory .initialPreviewConfirmable = true →
    ¬Unpreviewed workDirectory s.log
  renewed : ∀ workDirectory, s.markers workDirectory .initialSyncComplete = true → ¬Unrenewed workDirectory s.log
  running : ∀ run ∈ s.running, run.mode = .initialSync → ¬Unpreviewed run.plan.workDirectory s.log

theorem sound_of_log_nil {s : State} (h : s.log = []) : Sound s where
  kept outcome before after hmem := by
    rw [h] at hmem
    exact absurd hmem List.not_mem_nil
  previewed workDirectory _ := by
    rw [h]
    exact not_pending_nil
  renewed workDirectory _ := by
    rw [h]
    rintro ⟨before, after, heq, -⟩
    simp at heq
  running run _ _ := by
    rw [h]
    exact not_pending_nil

/-- More entries that leave no target, while no marker and no synchronization is new. -/
theorem Sound.extend {s s' : State} (h : Sound s) {entries : List Entry} (hlog : s'.log = s.log ++ entries)
    (hkept : ∀ outcome before after, .save outcome before after ∈ entries → outcome ≠ .saved → after = before)
    (hmarkers : ∀ workDirectory marker, s'.markers workDirectory marker = true → s.markers workDirectory marker = true)
    (hrunning : ∀ run ∈ s'.running, run ∈ s.running)
    (hleft : ∀ workDirectory, .left workDirectory ∈ entries → (∀ marker, s'.markers workDirectory marker = false) ∧
      ∀ run ∈ s.running, run.mode = .initialSync → run.plan.workDirectory ≠ workDirectory) : Sound s' where
  kept outcome before after hmem := by
    rw [hlog] at hmem
    rcases List.mem_append.mp hmem with hold | hnew
    · exact h.kept outcome before after hold
    · exact hkept outcome before after hnew
  previewed workDirectory hmarker := by
    by_cases hmem : .left workDirectory ∈ entries
    · rw [(hleft workDirectory hmem).1] at hmarker
      cases hmarker
    · rw [hlog]
      exact fun hpending ↦ h.previewed workDirectory (hmarkers _ _ hmarker) (unpreviewed_append hmem hpending)
  renewed workDirectory hmarker := by
    by_cases hmem : .left workDirectory ∈ entries
    · rw [(hleft workDirectory hmem).1] at hmarker
      cases hmarker
    · rw [hlog]
      exact fun hunrenewed ↦ h.renewed workDirectory (hmarkers _ _ hmarker) (unrenewed_append hmem hunrenewed)
  running run hrun hmode := by
    by_cases hmem : .left run.plan.workDirectory ∈ entries
    · exact absurd rfl ((hleft _ hmem).2 run (hrunning run hrun) hmode)
    · rw [hlog]
      exact fun hpending ↦ h.running run (hrunning run hrun) hmode (unpreviewed_append hmem hpending)

theorem mem_moves {outcome : Outcome} {entry : Entry} (h : entry ∈ moves ext workRoot outcome current next) :
    outcome = .saved ∧ ∃ found, existing current next.id = some found ∧
      ((∃ directory, leaves ext workRoot found next = some directory ∧ entry = .left directory) ∨
        ∃ directory, leaves ext workRoot next found = some directory ∧ entry = .returned directory) := by
  unfold moves at h
  split at h
  · next found hfound =>
      refine ⟨rfl, found, hfound, ?_⟩
      simpa [eq_comm] using h
  · exact absurd h List.not_mem_nil

theorem movesAway_of_leaves (h : leaves ext workRoot found next = some workDirectory) :
    ∃ plan, MovesAway ext workRoot found next plan ∧ plan.workDirectory = workDirectory := by
  unfold leaves at h
  split at h
  · next plan hplan =>
      split_ifs at h with hmoved
      exact ⟨plan, ⟨hplan, hmoved.1, hmoved.2⟩, Option.some.inj h⟩
  · cases h

/-- Removing both markers leaves none. -/
theorem removed_of_ok (h : removeMarkers errors workDirectory [.initialPreviewConfirmable, .initialSyncComplete] markers =
    (.ok (), markers')) (marker : Marker) : markers' workDirectory marker = false := by
  unfold removeMarkers at h
  cases hpreview : errors .initialPreviewConfirmable with
  | some e =>
      rw [hpreview] at h
      cases h
  | none =>
      rw [hpreview] at h
      unfold removeMarkers at h
      cases hsync : errors .initialSyncComplete with
      | some e =>
          rw [hsync] at h
          cases h
      | none =>
          rw [hsync] at h
          obtain ⟨-, rfl⟩ := Prod.mk.inj h
          cases marker with
          | initialSyncComplete => exact Markers.set_self _ _
          | initialPreviewConfirmable =>
              have hne : Marker.initialPreviewConfirmable ≠ .initialSyncComplete := by decide
              rw [Markers.set_of_ne false (.inr hne)]
              exact Markers.set_self _ _

theorem of_saved {effect : Effect}
    (hsave : saveValidatedDraftWith ext workRoot errors writes current stored next markers = (effect, markers'))
    (hsaved : effect.outcome = .saved) :
    invalidateExisting ext workRoot errors current next markers = (.ok (), markers') ∧
      Accepts ext writes current next := by
  unfold saveValidatedDraftWith at hsave
  match hresult : invalidateExisting ext workRoot errors current next markers with
  | (.error e, m) =>
      rw [hresult] at hsave
      obtain ⟨rfl, -⟩ := Prod.mk.inj hsave
      cases hsaved
  | (.ok (), m) =>
      rw [hresult] at hsave
      obtain ⟨rfl, rfl⟩ := Prod.mk.inj hsave
      exact ⟨rfl, outcome_updateValidated.mp hsaved⟩

/-- A target that a careful save leaves has no markers any more. -/
theorem absent_of_left {s : State} {effect : Effect} {plan : RcloneBisyncPlan}
    (hcareful : CarefulSave ext workRoot s writes errors current found next)
    (hfound : existing current next.id = some found) (hmoves : MovesAway ext workRoot found next plan)
    (hsave : saveValidatedDraftWith ext workRoot errors writes current stored next s.markers = (effect, markers'))
    (hsaved : effect.outcome = .saved) (marker : Marker) : markers' plan.workDirectory marker = false := by
  have hback : ∀ other, markers' plan.workDirectory other = true → s.markers plan.workDirectory other = true := by
    intro other hother
    have hsecond := congrArg Prod.snd hsave
    refine @of_saveValidatedDraftWith ext workRoot errors s.markers next current stored writes _ _ ?_
    rw [hsecond]
    exact hother
  obtain ⟨hresult, haccepts⟩ := of_saved hsave hsaved
  rcases hcareful.invalidated plan hmoves haccepts with ⟨hmirrors, hmoved⟩ | habsent
  · rw [invalidateExisting, hfound] at hresult
    dsimp only at hresult
    cases hnew : rcloneBisyncPlan ext next workRoot with
    | error e =>
        unfold invalidateSharepointMirrorConfirmationOnRetarget at hresult
        rw [hmirrors, hmoves.planned, hnew] at hresult
        cases hresult
    | ok newPlan =>
        have hinvalidates : Invalidates ext workRoot found next plan :=
          ⟨hmirrors, hmoves.planned, newPlan, hnew, hmoved newPlan hnew⟩
        rw [hinvalidates.eq] at hresult
        exact removed_of_ok hresult marker
  · cases hpresent : markers' plan.workDirectory marker with
    | false => rfl
    | true => exact absurd (hback marker hpresent) (by rw [habsent marker]; exact Bool.false_ne_true)

theorem sound_of_save {s s' : State} {next : Connection} {writes : Writes} {errors : RemovalErrors} (h : Sound s)
    (hstep : Step ext workRoot s (.save next writes errors) s')
    (hcareful : Careful ext workRoot s (.save next writes errors)) : Sound s' := by
  cases hstep with
  | refused hload =>
      refine h.extend rfl ?_ (fun _ _ hpresent ↦ hpresent) (fun _ hrun ↦ hrun) ?_
      · intro outcome before after hmem _
        cases List.mem_singleton.mp hmem
        rfl
      · intro workDirectory hmem
        cases List.mem_singleton.mp hmem
  | @save _ _ _ current effect markers hload hsave =>
      refine h.extend rfl ?_ ?_ (fun _ hrun ↦ hrun) ?_
      · intro outcome before after hmem houtcome
        rcases List.mem_cons.mp hmem with hentry | hmoved
        · cases hentry
          exact kept_of_careful (fun found hfound ↦ hcareful current found hload hfound) hsave houtcome
        · obtain ⟨-, -, -, ⟨_, -, hentry⟩ | ⟨_, -, hentry⟩⟩ := mem_moves hmoved <;> cases hentry
      · intro workDirectory marker hpresent
        refine of_saveValidatedDraftWith (?_ : (saveValidatedDraftWith ext workRoot errors writes current
          (s.stored.load ext writes.migration).2 next s.markers).2 workDirectory marker = true)
        rw [hsave]
        exact hpresent
      · intro workDirectory hmem
        rcases List.mem_cons.mp hmem with hentry | hmoved
        · cases hentry
        · obtain ⟨hsaved, found, hfound, ⟨directory, hleaves, hentry⟩ | ⟨_, -, hentry⟩⟩ := mem_moves hmoved
          · obtain rfl := Entry.left.inj hentry
            obtain ⟨plan, hmoves, rfl⟩ := movesAway_of_leaves hleaves
            have hsafe := hcareful current found hload hfound
            refine ⟨absent_of_left hsafe hfound hmoves hsave hsaved, ?_⟩
            exact hsafe.unsynchronized plan hmoves (of_saved hsave hsaved).2
          · cases hentry

/-- How a run that fails before its marker or not at all changes the markers. -/
inductive Finished (run : Run) (markers : Markers) : Markers → List Entry → Prop
  | unchanged : Finished run markers markers []
  | previewed (h : run.mode = .initialPreview) :
      Finished run markers (markers.set run.plan.workDirectory .initialPreviewConfirmable true)
        [.previewed run.plan.workDirectory]
  | synced (h : run.mode = .initialSync) :
      Finished run markers ((markers.set run.plan.workDirectory .initialSyncComplete true).set run.plan.workDirectory
        .initialPreviewConfirmable false) [.synced run.plan.workDirectory]

theorem finished_of_endsCleanly {run : Run} {ending : Ending} (h : run.EndsCleanly ending) (markers : Markers) :
    Finished run markers (run.finish ending markers).2 (run.entries (run.finish ending markers).1) := by
  obtain ⟨mode, plan⟩ := run
  obtain ⟨transaction, written, removed, stateWritten⟩ := ending
  unfold Run.EndsCleanly at h
  cases transaction with
  | false => cases mode <;> exact .unchanged
  | true =>
      cases mode with
      | preview => cases stateWritten <;> exact .unchanged
      | sync => cases stateWritten <;> exact .unchanged
      | scheduled => cases stateWritten <;> exact .unchanged
      | initialPreview =>
          cases written with
          | false => exact .unchanged
          | true =>
              obtain ⟨rfl, -⟩ := h rfl rfl (.inl rfl)
              exact .previewed rfl
      | initialSync =>
          cases written with
          | false => exact .unchanged
          | true =>
              obtain ⟨rfl, hremoved⟩ := h rfl rfl (.inr rfl)
              obtain rfl := hremoved rfl
              exact .synced rfl

theorem sound_of_finish {s : State} {index : Nat} {run : Run} {ending : Ending} (h : Sound s)
    (hrun : s.running[index]? = some run) (hclean : run.EndsCleanly ending) :
    Sound { s with
      markers := (run.finish ending s.markers).2
      running := s.running.eraseIdx index
      log := s.log ++ run.entries (run.finish ending s.markers).1 } := by
  have hmem : run ∈ s.running := List.mem_of_getElem? hrun
  have hsub : ∀ other ∈ s.running.eraseIdx index, other ∈ s.running :=
    fun _ hother ↦ List.mem_of_mem_eraseIdx hother
  have hfinished := finished_of_endsCleanly hclean s.markers
  generalize (run.finish ending s.markers).2 = markers at hfinished ⊢
  generalize run.entries (run.finish ending s.markers).1 = entries at hfinished ⊢
  cases hfinished with
  | unchanged => exact h.extend rfl nofun (fun _ _ hpresent ↦ hpresent) hsub nofun
  | previewed hmode =>
      constructor
      · intro outcome before after hentry
        rcases List.mem_append.mp hentry with hold | hnew
        · exact h.kept outcome before after hold
        · cases List.mem_singleton.mp hnew
      · intro workDirectory hmarker
        by_cases hdirectory : workDirectory = run.plan.workDirectory
        · subst hdirectory
          exact not_pending_append rfl nofun
        · dsimp only at hmarker
          rw [Markers.set_of_ne true (.inl hdirectory)] at hmarker
          exact fun hpending ↦ h.previewed _ hmarker (unpreviewed_append (by simp) hpending)
      · intro workDirectory hmarker
        have hne : Marker.initialSyncComplete ≠ .initialPreviewConfirmable := by decide
        dsimp only at hmarker
        rw [Markers.set_of_ne true (.inr hne)] at hmarker
        exact fun hunrenewed ↦ h.renewed _ hmarker (unrenewed_append (by simp) hunrenewed)
      · intro other hother hsync hpending
        exact h.running other (hsub other hother) hsync (unpreviewed_append (by simp) hpending)
  | synced hmode =>
      constructor
      · intro outcome before after hentry
        rcases List.mem_append.mp hentry with hold | hnew
        · exact h.kept outcome before after hold
        · cases List.mem_singleton.mp hnew
      · intro workDirectory hmarker
        have hne : Marker.initialPreviewConfirmable ≠ .initialSyncComplete := by decide
        have hold := Markers.of_set_false hmarker
        rw [Markers.set_of_ne true (.inr hne)] at hold
        exact fun hpending ↦ h.previewed _ hold (unpreviewed_append (by simp) hpending)
      · intro workDirectory hmarker
        by_cases hdirectory : workDirectory = run.plan.workDirectory
        · subst hdirectory
          exact not_unrenewed_synced (h.running run hmem hmode)
        · have hold := Markers.of_set_false hmarker
          rw [Markers.set_of_ne true (.inl hdirectory)] at hold
          exact fun hunrenewed ↦ h.renewed _ hold (unrenewed_append (by simp) hunrenewed)
      · intro other hother hsync hpending
        exact h.running other (hsub other hother) hsync (unpreviewed_append (by simp) hpending)

/-- An initial synchronization starts only where a Preview is confirmable. -/
theorem sound_of_start {s : State} {mode : BisyncMode} {plan : RcloneBisyncPlan} (h : Sound s)
    (hmarkers : validateModeMarkers mode plan s.markers = .ok ()) :
    Sound { s with running := s.running ++ [⟨mode, plan⟩] } where
  kept := h.kept
  previewed := h.previewed
  renewed := h.renewed
  running run hrun hmode := by
    rcases List.mem_append.mp hrun with hold | hnew
    · exact h.running run hold hmode
    · obtain rfl := List.mem_singleton.mp hnew
      obtain rfl : mode = .initialSync := hmode
      refine h.previewed _ ?_
      unfold validateModeMarkers at hmarkers
      dsimp only at hmarkers
      split_ifs at hmarkers with hsynced hprevious
      simpa using hprevious

theorem sound_of_step {s s' : State} {event : Event} (h : Sound s) (hstep : CarefulStep ext workRoot s event s') :
    Sound s' := by
  obtain ⟨hstep, hcareful⟩ := hstep
  cases event with
  | save next writes errors => exact sound_of_save h hstep hcareful
  | change stored =>
      cases hstep
      exact ⟨h.kept, h.previewed, h.renewed, h.running⟩
  | start mode connection =>
      cases hstep with
      | start hplan hlock hmarkers => exact sound_of_start h hmarkers
  | finish index ending =>
      cases hstep with
      | finish _ hrun => exact sound_of_finish h hrun (hcareful _ hrun)

theorem Sound.atomic {s : State} (h : Sound s) : s.Atomic where
  kept := h.kept
  forgotten workDirectory before between after hlog mode plan hmode hplan haccepted := by
    by_contra hnot
    refine h.renewed workDirectory ?_ ⟨before, _, hlog, hnot⟩
    unfold validateModeMarkers at haccepted
    rw [hplan] at haccepted
    rcases hmode with rfl | rfl <;> simpa using haccepted

section Sample

variable {folder other : String} {plan plan' : RcloneBisyncPlan}

def sampleDocument (folder : String) : ConfigDocument := { connections := [sampleDriveMirror folder] }

def noErrors : RemovalErrors := fun _ ↦ none

abbrev SampleValid (folder : String) : Prop :=
  Config.validate sampleDriveExternals ⟨sampleDocument folder⟩ = .ok ()

theorem sample_valid : SampleValid "Projects" ∧ SampleValid "Archive" := by decide +kernel

theorem load_sampleDocument (h : SampleValid folder) :
    (Stored.document (sampleDocument folder)).load sampleDriveExternals true =
      (⟨⟨sampleDocument folder⟩, .current, []⟩, .document (sampleDocument folder)) := by
  have hmigrated : (sampleDocument folder).migratePreloadSettings = sampleDocument folder :=
    ConfigDocument.migratePreloadSettings_of_none rfl
  change (LoadReport.ofDocument sampleDriveExternals (sampleDocument folder), _) = _
  rw [LoadReport.ofDocument, hmigrated, h]

theorem existing_sampleDocument : existing ⟨sampleDocument folder⟩ (sampleDriveMirror other).id =
    some (sampleDriveMirror folder) := by
  have hid : (sampleDriveMirror folder).id = (sampleDriveMirror other).id := rfl
  simp [existing, sampleDocument, hid]

theorem save_sampleDocument (hne : folder ≠ other) (h : SampleValid other) (markers : Markers) :
    saveValidatedDraftWith sampleDriveExternals "/state" noErrors ⟨true, true⟩ ⟨sampleDocument folder⟩
      (.document (sampleDocument folder)) (sampleDriveMirror other) markers =
      (⟨.saved, ⟨sampleDocument other⟩, .document (sampleDocument other)⟩, markers) := by
  have hid : (sampleDriveMirror folder).id = (sampleDriveMirror other).id := rfl
  have hedit : (sampleDocument folder).saveConnection (sampleDriveMirror other) = sampleDocument other := by
    simp [ConfigDocument.saveConnection, sampleDocument, updateFirst, hid]
  have hinvalidate : invalidateExisting sampleDriveExternals "/state" noErrors ⟨sampleDocument folder⟩
      (sampleDriveMirror other) markers = (.ok (), markers) := by
    rw [invalidateExisting, existing_sampleDocument]
    rfl
  have hchanged : (⟨sampleDocument other⟩ : Config) ≠ ⟨sampleDocument folder⟩ := by
    intro heq
    have hfolders := congrArg (fun config : Config ↦ config.document.connections.map (·.remoteSubpath)) heq
    simp only [sampleDocument, sampleDriveMirror, sampleMirror, List.map_cons, List.map_nil, List.cons.injEq,
      Option.some.injEq, and_true] at hfolders
    exact hne hfolders.symm
  rw [saveValidatedDraftWith, hinvalidate]
  dsimp only
  rw [Config.updateValidatedWith, hedit, if_neg hchanged, h]
  rfl

theorem leaves_sampleMirror (hne : folder ≠ other)
    (hplan : rcloneBisyncPlan sampleDriveExternals (sampleDriveMirror folder) "/state" = .ok plan) :
    leaves sampleDriveExternals "/state" (sampleDriveMirror folder) (sampleDriveMirror other) =
      some plan.workDirectory := by
  have htarget : (sampleDriveMirror other).target ≠ (sampleDriveMirror folder).target := by
    intro heq
    exact hne (Option.some.inj (congrArg Target.remoteSubpath heq)).symm
  rw [leaves, hplan]
  exact if_pos ⟨rfl, htarget⟩

/-- Saving one folder in the place of the other. -/
theorem step_sampleDocument {s : State} (hne : folder ≠ other) (hfolder : SampleValid folder) (hother : SampleValid other)
    (hplan : rcloneBisyncPlan sampleDriveExternals (sampleDriveMirror folder) "/state" = .ok plan)
    (hplan' : rcloneBisyncPlan sampleDriveExternals (sampleDriveMirror other) "/state" = .ok plan')
    (hstored : s.stored = .document (sampleDocument folder)) :
    Step sampleDriveExternals "/state" s (.save (sampleDriveMirror other) ⟨true, true⟩ noErrors)
      { s with
        stored := .document (sampleDocument other)
        log := s.log ++ [.save .saved s.markers s.markers, .left plan.workDirectory, .returned plan'.workDirectory] } := by
  have hload : s.stored.load sampleDriveExternals true =
      (⟨⟨sampleDocument folder⟩, .current, []⟩, .document (sampleDocument folder)) := by
    rw [hstored, load_sampleDocument hfolder]
  have hmoves : moves sampleDriveExternals "/state" .saved ⟨sampleDocument folder⟩ (sampleDriveMirror other) =
      [.left plan.workDirectory, .returned plan'.workDirectory] := by
    unfold moves
    rw [existing_sampleDocument]
    dsimp only
    rw [leaves_sampleMirror hne hplan, leaves_sampleMirror hne.symm hplan']
    rfl
  rw [← hmoves]
  refine @Step.save _ _ s _ _ _ ⟨sampleDocument folder⟩ ⟨.saved, ⟨sampleDocument other⟩, .document (sampleDocument other)⟩
    _ ?_ ?_
  · rw [hload]
    rfl
  · rw [hload]
    exact save_sampleDocument hne hother s.markers

end Sample

def sampleState (markers : Markers) : State := ⟨.document (sampleDocument "Projects"), markers, [], []⟩

end CosmicMounter.Retargeting
