import CosmicMounter.Runtime.Completed

/-!
# Controls of running mirrors

One entry for each connection holds the control of its mirror operation.  It is
the control of the running preview or synchronization as long as no other
operation of the mirror starts or ends meanwhile.
-/

namespace CosmicMounter.Runtime

open Rust AppModel

/-- A preview or a synchronization, with its control. -/
def Work.isFinite (work : Work) (id : ConnectionId) (control : Control) : Prop :=
  ∃ engine connection operation, work = .mirror engine connection operation control ∧
    connection.id = id ∧ (operation = .previewInitialSync ∨ operation = .syncNow)

def Work.isMirrorOf (work : Work) (id : ConnectionId) : Prop :=
  ∃ engine connection operation control, work = .mirror engine connection operation control ∧
    connection.id = id

theorem Work.isMirrorOf_of_isFinite {work : Work} {id : ConnectionId} {control : Control}
    (h : work.isFinite id control) : work.isMirrorOf id := by
  obtain ⟨engine, connection, operation, hwork, hid, -⟩ := h
  exact ⟨engine, connection, operation, control, hwork, hid⟩

/-- Pause and Resume neither start nor end beside a preview or a synchronization of the mirror. -/
def Entry.Exclusive : Entry → Prop
  | .started before ⟨.mirror _ connection operation _, _⟩ =>
      operation = .pauseSync ∨ operation = .resumeSync →
        ∀ running ∈ before.unfinished, ∀ control, ¬running.work.isFinite connection.id control
  | .finished before ⟨.mirror engine connection operation control, _⟩ =>
      ∀ running ∈ before.unfinished, ∀ control', running.work.isFinite connection.id control' →
        running.work = .mirror engine connection operation control
  | _ => True

/-- What the log says about an operation that starts while a mirror runs. -/
def Entry.Controlled : Entry → Prop
  | .started before ⟨.mirror _ connection operation _, _⟩ =>
      operation = .previewInitialSync ∨ operation = .syncNow →
        ∀ running ∈ before.unfinished, ∀ control, ¬running.work.isFinite connection.id control
  | .started before ⟨.offlineRepair connection manualOperation, _⟩ =>
      ∀ running ∈ before.unfinished, ∀ control, running.work.isFinite connection.id control →
        manualOperation = some control
  | _ => True

namespace System

/-- The runtime holds the control of every running mirror, and of no other. -/
structure HoldsControls (s : System) : Prop where
  held : ∀ running ∈ s.unfinished, ∀ id control, running.work.isFinite id control →
    id ∈ s.app.mirrorOperationsPending ∧ s.app.mirrorOperationControls[id]? = some control
  idle : ∀ id : ConnectionId, (∀ running ∈ s.unfinished, ¬running.work.isMirrorOf id) →
    id ∉ s.app.mirrorOperationsPending ∧ s.app.mirrorOperationControls[id]? = none
  controlled : ∀ entry ∈ s.log, entry.Controlled

def Exclusive (s : System) : Prop := ∀ entry ∈ s.log, entry.Exclusive

def controlOf : Work → Option Control
  | .mirror _ _ _ control => some control
  | _ => none

/-- With the numbering of the controls, which tells the operations apart. -/
structure Tracked (s : System) : Prop extends HoldsControls s where
  numbered : ∀ running ∈ s.unfinished, ∀ control, controlOf running.work = some control →
    control < s.app.nextControl
  distinct : s.unfinished.Pairwise fun first second ↦
    ∀ control, controlOf first.work = some control → controlOf second.work ≠ some control

variable {s s' : System} {now : Instant} {id : ConnectionId} {operation : Operation} {origin : Origin}

theorem not_isMirrorOf {work : Work} (hcontrol : controlOf work = none) (id : ConnectionId) :
    ¬work.isMirrorOf id := by
  rintro ⟨engine, connection, operation, control, rfl, -⟩
  cases hcontrol

theorem not_isFinite {work : Work} (hcontrol : controlOf work = none) (id : ConnectionId)
    (control : Control) : ¬work.isFinite id control :=
  fun h ↦ not_isMirrorOf hcontrol id (Work.isMirrorOf_of_isFinite h)

/-- Operations that are not of a mirror change nothing. -/
theorem Tracked.frame {started : List Running} {entries : List Entry} (h : s.Tracked)
    (hmirrors : SameMirrors s.app s'.app) (hunfinished : s'.unfinished = s.unfinished ++ started)
    (hstarted : ∀ running ∈ started, controlOf running.work = none)
    (hlog : s'.log = s.log ++ entries) (hentries : ∀ entry ∈ entries, entry.Controlled) :
    s'.Tracked where
  held running hrunning id control hfinite := by
    rw [hmirrors.pending, hmirrors.controls]
    rw [hunfinished, List.mem_append] at hrunning
    rcases hrunning with hold | hnew
    · exact h.held running hold id control hfinite
    · exact absurd hfinite (not_isFinite (hstarted running hnew) id control)
  idle id hnone := by
    rw [hmirrors.pending, hmirrors.controls]
    refine h.idle id fun running hrunning ↦ hnone running ?_
    rw [hunfinished]
    exact List.mem_append_left _ hrunning
  controlled entry hentry := by
    rw [hlog, List.mem_append] at hentry
    exact hentry.elim (h.controlled entry) (hentries entry)
  numbered running hrunning control hcontrol := by
    rw [hmirrors.nextControl]
    rw [hunfinished, List.mem_append] at hrunning
    rcases hrunning with hold | hnew
    · exact h.numbered running hold control hcontrol
    · rw [hstarted running hnew] at hcontrol
      cases hcontrol
  distinct := by
    rw [hunfinished, List.pairwise_append]
    refine ⟨h.distinct, ?_, fun first _ second hsecond control _ ↦ ?_⟩
    · rw [List.pairwise_iff_forall_sublist]
      intro first second hsublist control hcontrol
      rw [hstarted first (hsublist.subset (List.mem_cons_self ..))] at hcontrol
      cases hcontrol
    · rw [hstarted second hsecond]
      nofun

theorem sameMirrors_completeRoutedOperation (app : AppModel) (id : ConnectionId)
    (operation : Operation) : SameMirrors app (app.completeRoutedOperation id operation) := by
  unfold completeRoutedOperation
  split <;> exact .of_fields rfl

theorem sameMirrors_turnAway (app : AppModel) (id : ConnectionId) (operation : Operation)
    (notice : Message) : SameMirrors app (app.turnAway id operation notice).1 := by
  have hnotified : SameMirrors app (app.notify notice) := .of_fields rfl
  exact hnotified.trans (sameMirrors_completeRoutedOperation ..)

theorem sameMirrors_wait (app : AppModel) (id : ConnectionId) (connection : Connection)
    (operation : Operation) : SameMirrors app (app.wait id connection operation).1 := by
  have hwaiting : SameMirrors app { app with
      unitOperationsWaiting := app.unitOperationsWaiting.insert id (connection, operation)
      lastNotice := some ⟨"unit-status-wait", []⟩ } := .of_fields rfl
  exact hwaiting.trans (untouched_refreshUnitObservation _ false).mirrors

/-- No preview or synchronization is admitted while one of the mirror is running. -/
theorem not_finite_of_allowed {connection : Connection} {options : OfflineMirrorConfig} (h : s.Tracked)
    (hmode : connection.mode = .offlineMirror options)
    (hallowed : (decideOperation (restoreConnection s.app.controllerSnapshot connection)
      operation).allowed = true)
    (hoperation : operation = .previewInitialSync ∨ operation = .syncNow) :
    ∀ running ∈ s.unfinished, ∀ control, ¬running.work.isFinite connection.id control := by
  intro running hrunning control hfinite
  have hpending := (h.held running hrunning connection.id control hfinite).1
  rcases allowed_of_running hmode (syncState_of_pending hpending) hallowed with hpause | hrepair
  · subst hpause
    simp at hoperation
  · subst hrepair
    simp at hoperation

/-- The mirror operation that starts is the only one of its mirror that can be repaired. -/
theorem Tracked.startMirror {connection : Connection} {engine : OfflineEngine} {before : Moment}
    (h : s.Tracked) (hid : connection.id = id)
    (hnone : ∀ running ∈ s.unfinished, ∀ control, ¬running.work.isFinite id control)
    (hpending : s'.app.mirrorOperationsPending = s.app.mirrorOperationsPending.insert id)
    (hcontrols : s'.app.mirrorOperationControls =
      s.app.mirrorOperationControls.insert id s.app.nextControl)
    (hnext : s'.app.nextControl = s.app.nextControl + 1)
    (hunfinished : s'.unfinished =
      s.unfinished ++ [⟨.mirror engine connection operation s.app.nextControl, origin⟩])
    (hbefore : before.unfinished = s.unfinished)
    (hlog : s'.log = s.log ++ [.started before
      ⟨.mirror engine connection operation s.app.nextControl, origin⟩]) : s'.Tracked where
  held running hrunning id' control hfinite := by
    rw [hpending, hcontrols, Std.TreeSet.mem_insert, Std.TreeMap.getElem?_insert]
    rw [hunfinished, List.mem_append, List.mem_singleton] at hrunning
    rcases hrunning with hold | rfl
    · have hne : id ≠ id' := by
        rintro rfl
        exact hnone running hold control hfinite
      obtain ⟨hmem, hcontrol⟩ := h.held running hold id' control hfinite
      exact ⟨.inr hmem, by simpa [hne] using hcontrol⟩
    · obtain ⟨engine', connection', operation', hwork, hid', -⟩ := hfinite
      simp only [Work.mirror.injEq] at hwork
      obtain ⟨-, rfl, -, rfl⟩ := hwork
      obtain rfl := hid.symm.trans hid'
      exact ⟨.inl (Std.ReflCmp.compare_self), by simp⟩
  idle id' hidle := by
    rw [hunfinished] at hidle
    have hne : id ≠ id' := by
      rintro rfl
      exact hidle ⟨.mirror engine connection operation s.app.nextControl, origin⟩ (by simp)
        ⟨engine, connection, operation, s.app.nextControl, rfl, hid⟩
    obtain ⟨hmem, hcontrol⟩ := h.idle id' fun running hrunning ↦
      hidle running (List.mem_append_left _ hrunning)
    rw [hpending, hcontrols, Std.TreeSet.mem_insert, Std.TreeMap.getElem?_insert]
    simp [hne, hmem, hcontrol]
  controlled entry hentry := by
    rw [hlog, List.mem_append, List.mem_singleton] at hentry
    rcases hentry with hold | rfl
    · exact h.controlled entry hold
    · intro _
      rw [hbefore, hid]
      exact hnone
  numbered running hrunning control hcontrol := by
    rw [hnext]
    rw [hunfinished, List.mem_append, List.mem_singleton] at hrunning
    rcases hrunning with hold | rfl
    · exact Nat.lt_succ_of_lt (h.numbered running hold control hcontrol)
    · obtain rfl := Option.some.inj hcontrol
      exact Nat.lt_succ_self _
  distinct := by
    rw [hunfinished, List.pairwise_append]
    refine ⟨h.distinct, List.pairwise_singleton _ _, fun first hfirst second hsecond control hcontrol ↦ ?_⟩
    obtain rfl := List.mem_singleton.mp hsecond
    rintro ⟨⟩
    exact absurd (h.numbered first hfirst _ hcontrol) (lt_irrefl _)

theorem tracked_record (h : s.Tracked)
    (hexclusive : (s.record now id operation origin).Exclusive) :
    (s.record now id operation origin).Tracked := by
  have houtcome := outcome_recordOperationRequest s.app now id operation
  revert hexclusive
  unfold record
  generalize s.app.recordOperationRequest now id operation = result at houtcome
  -- Operations that are not of a mirror.
  have hstart : ∀ {work : Work} {after : AppModel}, SameMirrors s.app after → controlOf work = none →
      (Entry.started s.toMoment ⟨work, origin⟩).Controlled →
      Tracked { s.enter (.started s.toMoment ⟨work, origin⟩) with
        app := after, unfinished := s.unfinished ++ [⟨work, origin⟩] } := by
    intro work after hmirrors hcontrol hcontrolled
    refine h.frame hmirrors rfl ?_ rfl ?_
    · simpa using hcontrol
    · simpa using hcontrolled
  cases houtcome with
  | waits hwait =>
      rw [hwait]
      refine fun _ ↦ h.frame (sameMirrors_wait ..) (List.append_nil _).symm (by simp) rfl
        (fun entry hentry ↦ ?_)
      obtain rfl := List.mem_singleton.mp hentry
      trivial
  | turnedAway hwait pending notice =>
      rw [hwait]
      have hrepair : SameMirrors s.app { s.app with pendingRepair := pending } := .of_fields rfl
      refine fun _ ↦ h.frame (hrepair.trans (sameMirrors_turnAway ..)) (List.append_nil _).symm (by simp) rfl (fun entry hentry ↦ ?_)
      obtain rfl := List.mem_singleton.mp hentry
      trivial
  | mounts hwait hfind unmounting notice =>
      rw [hwait]
      exact fun _ ↦ hstart (.of_fields rfl) rfl trivial
  | repairs hwait hfind hoperation hwork notice =>
      rw [hwait]
      rcases hwork with rfl | rfl
      · exact fun _ ↦ hstart (.of_fields rfl) rfl trivial
      · refine fun _ ↦ hstart (.of_fields rfl) rfl fun running hrunning control hfinite ↦ ?_
        rw [id_of_findConnection hfind] at hfinite
        exact (h.held running hrunning id control hfinite).2
  | @mirrors connection options engine hwait hfind hmode hallowed hoperation notice =>
      rw [hwait]
      intro hexclusive
      have hid := id_of_findConnection hfind
      refine h.startMirror hid ?_ rfl rfl rfl rfl rfl rfl
      have hentry := hexclusive (.started s.toMoment
        ⟨.mirror engine connection operation s.app.nextControl, origin⟩)
        (List.mem_append_right s.log (List.mem_singleton_self _))
      rw [← hid]
      cases operation with
      | previewInitialSync => exact not_finite_of_allowed h hmode hallowed (.inl rfl)
      | syncNow => exact not_finite_of_allowed h hmode hallowed (.inr rfl)
      | pauseSync => exact hentry (.inl rfl)
      | resumeSync => exact hentry (.inr rfl)
      | mount | unmount | repair => cases hoperation

theorem tracked_resume (connection : Connection) (h : s.Tracked)
    (hexclusive : (s.resume now id connection operation).Exclusive) :
    (s.resume now id connection operation).Tracked := by
  unfold resume at hexclusive ⊢
  split at hexclusive
  · next hfresh =>
      rw [if_pos hfresh]
      exact tracked_record h hexclusive
  · next hstale =>
      rw [if_neg hstale]
      have hmirrors : SameMirrors s.app (s.app.resumeOperation now id connection operation).1 := by
        rw [resumeOperation, if_neg hstale]
        exact sameMirrors_turnAway ..
      refine h.frame hmirrors (List.append_nil _).symm (by simp) rfl fun entry hentry ↦ ?_
      obtain rfl := List.mem_singleton.mp hentry
      trivial

theorem tracked_resumeAll (entries : Waiting) (h : s.Tracked)
    (hexclusive : (resumeAll now entries s).Exclusive) : (resumeAll now entries s).Tracked := by
  induction entries generalizing s with
  | nil => exact h
  | cons entry rest ih =>
      obtain ⟨id, connection, operation⟩ := entry
      refine ih (tracked_resume connection h fun logged hlogged ↦ ?_) hexclusive
      exact hexclusive logged ((log_resumeAll rest).subset hlogged)

theorem Tracked.with_app (h : s.Tracked) (app : AppModel) (hmirrors : SameMirrors s.app app) :
    (s.withApp app).Tracked :=
  h.frame hmirrors (List.append_nil _).symm (by simp) (List.append_nil _).symm (by simp)

theorem tracked_deliver {message : AppMessage} (h : s.Tracked)
    (hmessage : message.isCompletion = false) (hexclusive : (s.deliver now message).Exclusive) :
    (s.deliver now message).Tracked := by
  by_cases hquiet : message.isQuiet = true
  · rw [deliver_of_isQuiet hquiet]
    exact h.with_app _ (untouched_update hquiet).mirrors
  · cases message with
    | unitObservationCompleted revision connections observation =>
        unfold deliver at hexclusive ⊢
        dsimp only at hexclusive ⊢
        split at hexclusive
        · next hcurrent =>
            rw [if_pos hcurrent]
            exact tracked_resumeAll _ (h.with_app _ (.of_fields rfl)) hexclusive
        · next hstale =>
            rw [if_neg hstale]
            exact h.with_app _ (untouched_unitObservationCompleted hstale).mirrors
    | operationRequested id operation =>
        unfold deliver at hexclusive ⊢
        dsimp only at hexclusive ⊢
        split at hexclusive
        · next howner =>
            rw [if_pos howner]
            exact tracked_record h hexclusive
        · next hclient =>
            rw [if_neg hclient]
            refine h.with_app _ ?_
            rw [operationRequested, if_neg hclient]
            exact .of_fields rfl
    | wake ids loaded =>
        refine h.frame (.of_fields rfl) rfl (fun running hrunning ↦ ?_) (List.append_nil _).symm
          (by simp)
        obtain ⟨connection, -, rfl⟩ := List.mem_map.mp hrunning
        rfl
    | runtimeRequest command loaded saved =>
        cases command with
        | runOperation id operation =>
            cases loaded with
            | error error => exact absurd rfl hquiet
            | ok document =>
                unfold deliver at hexclusive ⊢
                dsimp only at hexclusive ⊢
                split at hexclusive
                · next hrefused =>
                    rw [if_pos hrefused]
                    exact h
                · next haccepted =>
                    rw [if_neg haccepted]
                    have haccept : (s.accept id operation document).Tracked :=
                      h.frame (.of_fields rfl) (List.append_nil _).symm (by simp)
                        (List.append_nil _).symm (by simp)
                    exact tracked_record haccept hexclusive
        | _ => exact absurd rfl hquiet
    | onlineRepairCompleted | offlineRepairCompleted | mirrorOperationCompleted
    | managedOnlineOperationCompleted => cases hmessage
    | _ => exact absurd rfl hquiet

/-! ## Ends of operations -/

theorem sameMirrors_refresh (app : AppModel) (force : Bool) :
    SameMirrors app (app.refreshUnitObservation force).1 :=
  (untouched_refreshUnitObservation app force).mirrors

/-- A completion that is not of a mirror leaves the mirrors alone. -/
theorem sameMirrors_update_completed {work : Work} (hcontrol : controlOf work = none)
    (app : AppModel) (ending : Ending) :
    SameMirrors app (app.update now (work.completed ending)).app := by
  have hcompleted : ∀ (base : AppModel) (id : ConnectionId) (operation : Operation),
      SameMirrors app base → SameMirrors app
        ((base.completeRoutedOperation id operation).refreshUnitObservation true).1 :=
    fun base id operation hbase ↦
      (hbase.trans (sameMirrors_completeRoutedOperation ..)).trans (sameMirrors_refresh ..)
  cases work with
  | mirror => cases hcontrol
  | onlineMount connection operation => exact hcompleted _ _ _ (.of_fields rfl)
  | restoreOnline connection => exact hcompleted _ _ _ (.of_fields rfl)
  | onlineRepair connection => exact hcompleted _ _ _ (.of_fields rfl)
  | offlineRepair connection manualOperation => exact hcompleted _ _ _ (.of_fields rfl)

/-- The completion of a mirror operation forgets the mirror. -/
theorem mirrors_update_completed (app : AppModel) (engine : OfflineEngine) (connection : Connection)
    (operation : Operation) (control : Control) (ending : Ending) :
    SameMirrors
      { app with
        mirrorOperationsPending := app.mirrorOperationsPending.erase connection.id
        mirrorOperationControls := app.mirrorOperationControls.erase connection.id }
      (app.update now ((Work.mirror engine connection operation control).completed ending)).app := by
  have hupdate : (app.update now ((Work.mirror engine connection operation control).completed ending)).app =
      ((app.mirrorOperationCompleted connection.id ending.notice ending.loaded).refreshUnitObservation
        true).1 := rfl
  rw [hupdate]
  refine SameMirrors.trans ?_ (sameMirrors_refresh ..)
  unfold mirrorOperationCompleted
  dsimp only
  split
  · refine SameMirrors.trans ?_ (sameMirrors_completeRoutedOperation ..)
    exact .of_fields rfl
  · exact .of_fields rfl

theorem log_finish_eq (s : System) (running : Running) (others : List Running) (ending : Ending) :
    (s.finish now running others ending).log = s.log ++ [.finished s.toMoment running] ∧
      (s.finish now running others ending).unfinished = others := by
  unfold finish
  dsimp only
  split
  · split <;> exact ⟨rfl, rfl⟩
  · exact ⟨rfl, rfl⟩

theorem mem_of_mem_others {running other : Running} {first last : List Running}
    (hrunning : s.unfinished = first ++ running :: last) (hother : other ∈ first ++ last) :
    other ∈ s.unfinished := by
  rw [hrunning]
  simp only [List.mem_append, List.mem_cons] at hother ⊢
  tauto

/-- The operations that remain have controls of their own. -/
theorem Tracked.distinct_others {running : Running} {first last : List Running} (h : s.Tracked)
    (hrunning : s.unfinished = first ++ running :: last) :
    (running :: (first ++ last)).Pairwise fun first second ↦
      ∀ control, controlOf first.work = some control → controlOf second.work ≠ some control := by
  refine (List.pairwise_middle fun hpair control hsecond hfirst ↦ ?_).mp (hrunning ▸ h.distinct)
  exact hpair control hfirst hsecond

theorem Tracked.remove {running : Running} {first last : List Running} (h : s.Tracked)
    (hrunning : s.unfinished = first ++ running :: last)
    (hunfinished : s'.unfinished = first ++ last)
    (hlog : s'.log = s.log ++ [.finished s.toMoment running])
    (hnext : s'.app.nextControl = s.app.nextControl)
    (hheld : ∀ other ∈ first ++ last, ∀ id control, other.work.isFinite id control →
      id ∈ s'.app.mirrorOperationsPending ∧ s'.app.mirrorOperationControls[id]? = some control)
    (hidle : ∀ id : ConnectionId, (∀ other ∈ first ++ last, ¬other.work.isMirrorOf id) →
      id ∉ s'.app.mirrorOperationsPending ∧ s'.app.mirrorOperationControls[id]? = none) :
    s'.Tracked where
  held := by
    rw [hunfinished]
    exact hheld
  idle := by
    rw [hunfinished]
    exact hidle
  controlled entry hentry := by
    rw [hlog, List.mem_append, List.mem_singleton] at hentry
    rcases hentry with hold | rfl
    · exact h.controlled entry hold
    · trivial
  numbered other hother control hcontrol := by
    rw [hnext]
    rw [hunfinished] at hother
    exact h.numbered other (mem_of_mem_others hrunning hother) control hcontrol
  distinct := by
    rw [hunfinished]
    exact (List.pairwise_cons.mp (h.distinct_others hrunning)).2

theorem tracked_finish {running : Running} {first last : List Running} {ending : Ending}
    (h : s.Tracked) (hrunning : s.unfinished = first ++ running :: last)
    (hexclusive : (s.finish now running (first ++ last) ending).Exclusive) :
    (s.finish now running (first ++ last) ending).Tracked := by
  obtain ⟨hlog, hunfinished⟩ := @log_finish_eq now s running (first ++ last) ending
  obtain ⟨work, origin⟩ := running
  have hcase : controlOf work = none ∨ ∃ engine connection operation control,
      work = .mirror engine connection operation control := by
    cases work with
    | mirror engine connection operation control =>
        exact .inr ⟨engine, connection, operation, control, rfl⟩
    | _ => exact .inl rfl
  rcases hcase with hcontrol | ⟨engine, connection, operation, control, rfl⟩
  · have hmirrors := @sameMirrors_update_completed now work hcontrol s.app ending
    rw [← @app_finish s now ⟨work, origin⟩ (first ++ last) ending] at hmirrors
    refine h.remove hrunning hunfinished hlog hmirrors.nextControl ?_ fun id hidle ↦ ?_
    · intro other hother id control hfinite
      rw [hmirrors.pending, hmirrors.controls]
      exact h.held other (mem_of_mem_others hrunning hother) id control hfinite
    · rw [hmirrors.pending, hmirrors.controls]
      refine h.idle id fun other hother ↦ ?_
      rw [hrunning, List.mem_append, List.mem_cons] at hother
      rcases hother with hfirst | rfl | hlast
      · exact hidle other (List.mem_append_left _ hfirst)
      · exact not_isMirrorOf hcontrol id
      · exact hidle other (List.mem_append_right _ hlast)
  · have hmirrors := @mirrors_update_completed now s.app engine connection operation control ending
    rw [← @app_finish s now ⟨_, origin⟩ (first ++ last) ending] at hmirrors
    have hentry := hexclusive (.finished s.toMoment ⟨.mirror engine connection operation control, origin⟩)
      (by rw [hlog]; exact List.mem_append_right s.log (List.mem_singleton_self _))
    have hdistinct := (List.pairwise_cons.mp (h.distinct_others hrunning)).1
    refine h.remove hrunning hunfinished hlog hmirrors.nextControl ?_ fun id hidle ↦ ?_
    · intro other hother id control' hfinite
      have hmem := mem_of_mem_others hrunning hother
      have hne : connection.id ≠ id := by
        rintro rfl
        have hwork := hentry other hmem control' hfinite
        exact hdistinct other hother control rfl (by rw [hwork]; rfl)
      obtain ⟨hpending, hcontrols⟩ := h.held other hmem id control' hfinite
      rw [hmirrors.pending, hmirrors.controls, Std.TreeSet.mem_erase, Std.TreeMap.getElem?_erase]
      simpa [hne] using ⟨hpending, hcontrols⟩
    · rw [hmirrors.pending, hmirrors.controls, Std.TreeSet.mem_erase, Std.TreeMap.getElem?_erase]
      by_cases heq : connection.id = id
      · simp [heq]
      · have hold := h.idle id fun other hother ↦ by
          rw [hrunning, List.mem_append, List.mem_cons] at hother
          rcases hother with hfirst | rfl | hlast
          · exact hidle other (List.mem_append_left _ hfirst)
          · rintro ⟨_, _, _, _, hwork, hid⟩
            cases hwork
            exact heq hid
          · exact hidle other (List.mem_append_right _ hlast)
        simpa [heq] using hold

theorem tracked_of_step {s' : System} (h : s.Tracked) (hstep : Step s s') (hexclusive : s'.Exclusive) :
    s'.Tracked := by
  cases hstep with
  | deliver now hmessage => exact tracked_deliver h hmessage hexclusive
  | finish now hrunning ending => exact tracked_finish h hrunning hexclusive

theorem exclusive_of_step {s' : System} (hstep : Step s s') (hexclusive : s'.Exclusive) :
    s.Exclusive := by
  intro entry hentry
  cases hstep with
  | deliver now hmessage => exact hexclusive entry (log_deliver.subset hentry)
  | finish now hrunning ending => exact hexclusive entry (log_finish.subset hentry)

theorem tracked_initial (document : ConfigDocument) : Tracked { app := { document } } := by
  constructor
  · constructor <;> simp
  all_goals simp

theorem tracked_of_reachable (hreachable : Reachable s) (hexclusive : s.Exclusive) : s.Tracked := by
  induction hreachable with
  | initial document => exact tracked_initial document
  | step hreachable hstep ih =>
      exact tracked_of_step (ih (exclusive_of_step hstep hexclusive)) hstep hexclusive

end System

/-- The entries that `Exclusive` says anything about. -/
def Entry.mayOverlap : Entry → Bool
  | .started _ ⟨.mirror _ _ operation _, _⟩ => operation == .pauseSync || operation == .resumeSync
  | .finished _ ⟨.mirror .., _⟩ => true
  | _ => false

theorem System.exclusive_of_calm {s : System} (hcalm : ∀ entry ∈ s.log, entry.mayOverlap = false) :
    s.Exclusive := by
  intro entry hentry
  have hentry := hcalm entry hentry
  cases entry with
  | waits | turnedAway => trivial
  | started before running =>
      obtain ⟨work, origin⟩ := running
      cases work with
      | mirror engine connection operation control =>
          intro hoperation
          simp only [Entry.mayOverlap, Bool.or_eq_false_iff, beq_eq_false_iff_ne] at hentry
          exact absurd hoperation (not_or.mpr hentry)
      | _ => trivial
  | finished before running =>
      obtain ⟨work, origin⟩ := running
      cases work with
      | mirror => cases hentry
      | _ => trivial

/-- The runtime holds the control of the running mirror operation, unless Pause or Resume overlaps it. -/
theorem runtime_holds_the_running_control {s : System} (hreachable : Reachable s)
    (hexclusive : s.Exclusive) : s.HoldsControls :=
  (System.tracked_of_reachable hreachable hexclusive).toHoldsControls

/-! ## Pause beside a synchronization -/

def sampleMirror : Connection where
  id := sampleId
  name := "Mirror"
  provider := .sftp
  mode := .offlineMirror { engine := some .rclone }
  remoteReference := "files:"
  localPath := "/home/u/Mirror"

/-- The service is at rest and its timer is active. -/
def sampleIdleReading : UnitObservation where
  services := (∅ : ById UnitStatus).insert sampleId { active := .inactive, enabled := true }
  timers := (∅ : ById UnitStatus).insert sampleId { active := .active, enabled := true }

def sampleIdle : System :=
  ((({ app := { document := { connections := [sampleMirror] } } } : System).deliver 0
    .runtimeReady).deliver 0 .unitObservationTick).deliver 0
      (.unitObservationCompleted 1 [sampleMirror] sampleIdleReading)

def sampleSyncing : System := sampleIdle.deliver 100 (.operationRequested sampleId .syncNow)

/-- Pause is offered while the mirror synchronizes, and replaces its control. -/
def samplePaused : System := sampleSyncing.deliver 200 (.operationRequested sampleId .pauseSync)

theorem reachable_sampleSyncing : Reachable sampleSyncing := by
  unfold sampleSyncing sampleIdle
  exact ((((Reachable.initial _).deliver 0 _ rfl).deliver 0 _ rfl).deliver 0 _ rfl).deliver 100 _ rfl

theorem pause_replaces_the_running_control : ¬∀ s : System, Reachable s → s.HoldsControls := by
  intro h
  have hreachable : Reachable samplePaused := reachable_sampleSyncing.deliver 200 _ rfl
  have hrunning : (⟨.mirror .rclone sampleMirror .syncNow 0, .applet⟩ : Running) ∈
      samplePaused.unfinished := by decide +kernel
  have hheld := ((h samplePaused hreachable).held _ hrunning sampleId 0
    ⟨.rclone, sampleMirror, .syncNow, rfl, rfl, .inr rfl⟩).2
  exact absurd hheld (by decide +kernel)

theorem runtime_holds_the_running_control_sample :
    sampleSyncing.Exclusive ∧ sampleSyncing.HoldsControls := by
  have hcalm : sampleSyncing.log.all (!·.mayOverlap) = true := by decide +kernel
  have hexclusive : sampleSyncing.Exclusive :=
    System.exclusive_of_calm fun entry hentry ↦ by simpa using List.all_eq_true.mp hcalm entry hentry
  exact ⟨hexclusive, runtime_holds_the_running_control reachable_sampleSyncing hexclusive⟩

end CosmicMounter.Runtime
