import CosmicMounter.Sync.CoordinatorTransaction
import CosmicMounter.Sync.Target

/-!
# What a whole run asks

The transaction in its two forms, the record around it, and the lock around
everything.  A run that succeeds has recorded its success.
-/

namespace CosmicMounter.Coordinator

open Rust Interaction Host Retention Retargeting

/-! ## The cleanup -/

section Cleanup

variable (fl : Message → String) (connection : Connection) (plan : RcloneBisyncPlan)

/-- The cleanup removes days only, here and on the remote. -/
def IsCleanup : HostRequest → Prop
  | .isCancelled | .now | .readDir _ | .symlinkMetadata _ | .readToString _ => True
  | .removeDirAll path => ∃ name, strictDay name = true ∧ path = Path.join plan.recoveryDirectory name
  | .run request => request.args = globalFlags ++ listingArguments plan ∨ ∃ name, strictDay name = true ∧
      (request.args = globalFlags ++ ["cat", remoteMarker (remoteTarget plan name)] ∨
        request.args = globalFlags ++ ["purge", remoteTarget plan name])
  | _ => False

theorem args_of_rcloneRequest {arguments : List String} {timeout : Nat} {request : CommandRequest}
    (h : rcloneRequest arguments timeout = .ok request) : request.args = globalFlags ++ arguments := by
  unfold rcloneRequest at h
  split_ifs at h
  obtain rfl := Except.ok.inj h
  rfl

theorem asks_checkCancelled (issues : RetentionCleanupIssues) :
    Asks (IsCleanup plan) (checkCancelled issues) := by
  refine Asks.bind (asks_lift ⟨trivial, fun _ ↦ trivial⟩) fun cancelled ↦ ?_
  split_ifs
  · exact asks_throw _
  · exact asks_pure ()

theorem only_cleanupLocalDay {name : String} (hday : strictDay name = true) (issues : RetentionCleanupIssues) :
    (cleanupLocalDay connection (Path.join plan.recoveryDirectory name) issues).Only (IsCleanup plan) := by
  refine ⟨trivial, fun type ↦ ?_⟩
  rcases type with e | (_ | _ | _ | _)
  on_goal 3 =>
    refine ⟨trivial, fun marker ↦ ?_⟩
    rcases marker with e | (_ | _ | _ | _)
    on_goal 2 =>
      refine ⟨trivial, fun owner ↦ ?_⟩
      cases owner with
      | error e => trivial
      | ok owner =>
          change (if Str.trimEnd owner = connection.id.text then
            deleteLocalDay (Path.join plan.recoveryDirectory name) issues else pure issues).Only _
          split_ifs
          · refine ⟨⟨name, hday, rfl⟩, fun r ↦ ?_⟩
            cases r <;> trivial
          · trivial
  all_goals trivial

theorem asks_cleanupLocalEntries (cutoff : String) (entries : List (Except IoError String))
    (issues : RetentionCleanupIssues) :
    Asks (IsCleanup plan) (cleanupLocalEntries connection plan.recoveryDirectory cutoff entries issues) := by
  induction entries generalizing issues with
  | nil => exact asks_pure issues
  | cons entry rest ih =>
      cases entry with
      | error e => exact ih _
      | ok name =>
          rw [cleanupLocalEntries]
          refine Asks.bind (asks_checkCancelled plan issues) fun _ ↦ ?_
          split_ifs with hskip
          · exact ih issues
          · have hday : strictDay name = true := by
              rw [Bool.or_eq_true, not_or] at hskip
              simpa using hskip.1
            exact Asks.bind (asks_lift (only_cleanupLocalDay connection plan hday issues)) fun issues ↦ ih issues

theorem only_cleanupRemoteDay {name : String} (hday : strictDay name = true) (issues : RetentionCleanupIssues) :
    (cleanupRemoteDay fl connection (remoteTarget plan name) issues).Only (IsCleanup plan) := by
  rw [cleanupRemoteDay]
  cases hcat : rcloneRequest ["cat", remoteMarker (remoteTarget plan name)] oneMinute with
  | error e => trivial
  | ok cat =>
      refine ⟨.inr ⟨name, hday, .inl (args_of_rcloneRequest hcat)⟩, fun r ↦ ?_⟩
      cases r with
      | error e => trivial
      | ok output =>
          dsimp only [Program.bind]
          cases completeStdout output (fl ⟨"ui-bisync-coordinator-retention-owner", []⟩) with
          | error e => trivial
          | ok owner =>
              dsimp only
              split_ifs
              · rw [purgeRemoteDay]
                cases hpurge : rcloneRequest ["purge", remoteTarget plan name] oneMinute with
                | error e => trivial
                | ok purge =>
                    refine ⟨.inr ⟨name, hday, .inr (args_of_rcloneRequest hpurge)⟩, fun r ↦ ?_⟩
                    cases r <;> trivial
              · trivial

theorem asks_cleanupRemoteEntries (cutoff : String) (lines : List String) (issues : RetentionCleanupIssues) :
    Asks (IsCleanup plan) (cleanupRemoteEntries fl connection plan cutoff lines issues) := by
  induction lines generalizing issues with
  | nil => exact asks_pure issues
  | cons line rest ih =>
      rw [cleanupRemoteEntries]
      refine Asks.bind (asks_checkCancelled plan issues) fun _ ↦ ?_
      dsimp only
      split_ifs with hskip
      · exact ih issues
      · have hday : strictDay (Str.trimEndMatches '/' line) = true := by
          rw [Bool.or_eq_true, not_or] at hskip
          simpa using hskip.1
        exact Asks.bind (asks_lift (only_cleanupRemoteDay fl connection plan hday issues)) fun issues ↦ ih issues

theorem asks_cleanupRemote (cutoff : String) (issues : RetentionCleanupIssues) :
    Asks (IsCleanup plan) (cleanupRemote fl connection plan cutoff issues) := by
  rw [cleanupRemote]
  cases hlist : rcloneRequest (listingArguments plan) oneMinute with
  | error e => exact asks_throw _
  | ok list =>
      refine Asks.bind (asks_lift ⟨.inl (args_of_rcloneRequest hlist), fun _ ↦ trivial⟩) fun r ↦ ?_
      cases r with
      | error e => exact asks_throw _
      | ok listing =>
          dsimp only
          cases completeStdout listing (fl ⟨"ui-bisync-coordinator-retention-listing", []⟩) with
          | error e => exact asks_throw _
          | ok text => exact asks_cleanupRemoteEntries fl connection plan cutoff _ issues

theorem asks_cleanupDays : Asks (IsCleanup plan) (cleanupDays fl connection plan) := by
  refine Asks.bind (asks_checkCancelled plan _) fun _ ↦ Asks.bind ?_ fun cutoff ↦ Asks.bind ?_ fun issues ↦ ?_
  · refine Asks.bind (asks_lift ⟨trivial, fun _ ↦ trivial⟩) fun now ↦ ?_
    cases utcDay (now - retentionDays * 86400 * nanosPerSecond) with
    | ok cutoff => exact asks_pure cutoff
    | error e => exact asks_throw _
  · refine Asks.bind (asks_lift ⟨trivial, fun _ ↦ trivial⟩) fun entries ↦ ?_
    cases entries with
    | ok entries => exact asks_cleanupLocalEntries connection plan cutoff entries _
    | error e => exact asks_pure _
  · refine Asks.bind (asks_checkCancelled plan issues) fun _ ↦ ?_
    exact asks_cleanupRemote fl connection plan cutoff issues

theorem only_cleanupRetention : (cleanupRetention fl connection plan).Only (IsCleanup plan) := by
  refine (asks_cleanupDays fl connection plan).only.bind fun r ↦ ?_
  cases r <;> trivial

end Cleanup

/-! ## Days and markers -/

theorem isName_of_strictDay {name : String} (h : strictDay name = true) : Path.IsName name := by
  have hlong : ∀ short : String, short.toList.length ≠ 10 → name ≠ short := by
    rintro short hshort rfl
    unfold strictDay at h
    split at h
    next hname => exact hshort (by rw [hname]; rfl)
    next => cases h
  refine ⟨fun hslash ↦ ?_, hlong "" (by decide), hlong "." (by decide), hlong ".." (by decide)⟩
  unfold strictDay at h
  split at h
  next y₁ y₂ y₃ y₄ first m₁ m₂ second d₁ d₂ hname =>
    simp only [Bool.and_eq_true, beq_iff_eq] at h
    obtain ⟨⟨⟨rfl, rfl⟩, hdigits⟩, -⟩ := h
    have hslashed : '/' ∈ [y₁, y₂, y₃, y₄, m₁, m₂, d₁, d₂] := by
      rw [hname] at hslash
      simpa using hslash
    exact absurd (List.all_eq_true.mp hdigits '/' hslashed) (by decide)
  next => cases h

theorem components_prefix_join {name : String} (h : Path.IsName name) (base : String) :
    Path.components base <+: Path.components (Path.join base name) := by
  rw [Path.components_join h]
  exact List.prefix_append _ _

/-- What is beside the work root holds no marker. -/
theorem not_startsWith_marker {workRoot recovery name marker : String}
    (hapart : pathsOverlap workRoot recovery = false) (hname : Path.IsName name)
    (hmarker : IsSomeMarker workRoot marker) : Path.startsWith (Path.join recovery name) marker = false := by
  have hbelow : Path.startsWith workRoot marker = true := hmarker.elim (·.below) (·.below)
  rw [← Bool.not_eq_true]
  intro hdirectory
  rw [Path.startsWith, List.isPrefixOf_iff_prefix] at hbelow hdirectory
  have hrecovery := (components_prefix_join hname recovery).trans hdirectory
  have hoverlap : Config.pathsOverlap workRoot recovery = true :=
    Config.pathsOverlap_iff.mpr (List.prefix_or_prefix_of_prefix hbelow hrecovery)
  exact Bool.noConfusion (hoverlap.symm.trans hapart)

theorem isDirect_join {base name : String} (h : IsDirect base) (hname : Path.IsName name) :
    IsDirect (Path.join base name) := by
  rw [IsDirect, Path.components_join hname, List.mem_append, not_or]
  exact ⟨h, by simp⟩

/-! ## The two kinds of transaction -/

section Transactions

variable {T : Type} [DecidableEq T] {workRoot : String} {t : T} {plan : RcloneBisyncPlan} {op : Operation}
  {base known : Past} {s : Shared T × Past} (ext : Externals) (json : SerdeJson)
  (timestamp : Preview.ParseTimestamp) (hsuits : Suits workRoot plan op)

include hsuits

/-- Whatever the cleanup finds, and wherever it stops, the run is still running. -/
theorem wp_cleanupRetention {recovery : String}
    (hrecovery : pathsOverlap workRoot recovery = false ∧ IsDirect recovery)
    (hpreview : op.mode.isPreview = false) (hdone : HasSynchronized plan op known)
    (h : Running workRoot t plan op base known s) :
    (cleanupRetention ext.fl op.connection { plan with recoveryDirectory := recovery }).wp
      (guarded workRoot plan op t) (fun _ ↦ Running workRoot t plan op base known) s := by
  have hplain {q : HostRequest} (hq : IsCleanup { plan with recoveryDirectory := recovery } q) :
      IsPlain q = true := by
    cases q <;> first | rfl | exact hq.elim
  refine Program.wp_of_only (P := IsCleanup { plan with recoveryDirectory := recovery }) ?_ ?_
    (only_cleanupRetention ext.fl op.connection _) h
  · intro s q hs hq
    refine ⟨fun _ ↦ hs.holder, ?_⟩
    cases q with
    | isCancelled | now | readDir | symlinkMetadata | readToString => trivial
    | removeDirAll path =>
        obtain ⟨name, hday, rfl⟩ := hq
        have hname := isName_of_strictDay hday
        exact ⟨hdone.mono hs.known, hpreview, fun marker hmarker ↦
          ⟨isDirect_join hrecovery.2 hname, not_startsWith_marker hrecovery.1 hname hmarker⟩⟩
    | run request =>
        refine ⟨hs.record.mono hs.held.based, hs.marker, ?_⟩
        obtain hargs | ⟨name, hday, hargs | hargs⟩ := hq
        · rw [hargs]
          exact .days hpreview (hdone.mono hs.known)
        · rw [hargs]
          exact .owner hpreview
        · rw [hargs]
          exact .purge hpreview (hdone.mono hs.known) hday
    | _ => exact hq.elim
  · rintro s q r ⟨s', past⟩ hs hq ⟨hworld, rfl⟩
    refine (hs.next hsuits.complete (hplain hq) ?_ hworld).forget hs.based (List.subset_cons_self _ _)
    cases q with
    | removeDirAll path =>
        obtain ⟨name, hday, rfl⟩ := hq
        have hname := isName_of_strictDay hday
        intro htouches
        have hbelow := htouches (isDirect_join hrecovery.2 hname) hsuits.complete.direct
        exact Bool.noConfusion (hbelow.symm.trans (not_startsWith_marker hrecovery.1 hname (.inl hsuits.complete)))
    | isCancelled | now | readDir | symlinkMetadata | readToString | run => exact fun htouches ↦ htouches
    | _ => exact hq.elim

/-- The run has done what it was asked for, and holds the lock still. -/
def Finished (workRoot : String) (t : T) (plan : RcloneBisyncPlan) (op : Operation) (base : Past) (s : Shared T × Past) : Prop :=
  ∃ known initialized, Completed plan op known ∧ Going t plan (IsRunning plan op workRoot base) initialized base known s

omit [DecidableEq T] hsuits in
theorem Finished.of_running (hcompleted : Completed plan op known) (h : Running workRoot t plan op base known s) :
    Finished workRoot t plan op base s := ⟨known, _, hcompleted, h⟩

omit hsuits in
theorem marker_ne (hsync : Path.fileName (initialSyncMarker plan) = some syncMarkerName)
    (hpreview : Path.fileName (initialPreviewMarker plan) = some previewMarkerName) :
    initialSyncMarker plan ≠ initialPreviewMarker plan := by
  intro heq
  rw [heq] at hsync
  exact absurd (hsync.symm.trans hpreview) (by decide)

/-- The confirmation is used up when the first synchronization is complete. -/
theorem wp_removePreviewMarker {P : Option OfflineCoordinatorState → Prop} {initialized : Bool}
    (hmode : op.mode = .initialSync) (hpublished : Published known (initialSyncMarker plan))
    (h : Going t plan P initialized base known s) :
    (removeIfExists ext.fl (initialPreviewMarker plan)).run.wp (guarded workRoot plan op t)
      (Program.onExit (Held t base) fun _ ↦ Going t plan P initialized base known) s := by
  have hne := marker_ne hsuits.complete.named hsuits.confirmable.named
  rw [removeIfExists, Program.wp_liftM_bind]
  refine wp_plain hsuits.complete rfl ?_ ⟨fun _ ↦ h.holder, ?_, ?_⟩ h fun r s' _ hs' ↦ ?_
  · intro r htouches
    cases r with
    | ok => exact hne htouches
    | error e => exact htouches
  · intro hsync
    exact absurd (hsync.named.symm.trans hsuits.confirmable.named) (by decide)
  · exact fun _ ↦ ⟨rfl, hmode, hpublished.mono h.known⟩
  · have hkept := hs'.forget h.based (List.subset_cons_self _ _)
    cases r with
    | ok => exact hkept
    | error e =>
        dsimp only
        split_ifs
        · exact hkept
        · exact hkept.held

theorem wp_confirmSync (hsync : op.mode.isPreview = false) (hdone : HasSynchronized plan op known)
    (hestablished : op.mode = .initialSync → Established plan op known) (h : Running workRoot t plan op base known s) :
    (confirmSync ext plan op.mode).run.wp (guarded workRoot plan op t)
      (Program.onExit (Held t base) fun _ ↦ Finished workRoot t plan op base) s := by
  have hnot : op.mode ≠ .initialPreview := by
    intro hmode
    rw [hmode] at hsync
    cases hsync
  rw [confirmSync]
  split_ifs with hmode
  · have hpublish : Publishes plan op workRoot known (initialSyncMarker plan) := by
      refine ⟨fun _ ↦ ⟨rfl, hmode, hestablished hmode⟩, fun hpreview ↦ ?_, fun howner ↦ ?_⟩
      · exact absurd (hpreview.named.symm.trans hsuits.complete.named) (by decide)
      · exact absurd (howner.symm.trans hsuits.complete.named) (by decide)
    refine Program.wp_seq_onExit (wp_writeAtomic ext hsuits hpublish h) ?_
    rintro - s ⟨known', initialized, hknown, hpublished, -, hs⟩
    have hcompleted : Completed plan op known' :=
      ⟨hdone.mono hknown, fun hpreview ↦ absurd hpreview hnot, fun _ ↦ hpublished⟩
    refine Program.wp_mono_onExit (wp_removePreviewMarker ext hsuits hmode hpublished hs) fun _ s hs ↦ ?_
    exact ⟨known', initialized, hcompleted, hs⟩
  · exact .of_running ⟨hdone, fun hmode ↦ absurd hmode hnot, fun hinitial ↦ absurd hinitial hmode⟩ h

/-- A synchronization sends its command once the recovery directories are its own,
and confirms it once everything is verified. -/
theorem wp_synchronize {paths : LocalMirrorPaths} {request : CommandRequest} {day stamp : String}
    (hrecovery : pathsOverlap workRoot paths.recovery = false ∧ IsDirect paths.recovery)
    (hsync : op.mode.isPreview = false)
    (hargs : request.args = globalFlags ++ requestArguments plan op.mode day stamp)
    (h : Running workRoot t plan op base known s) :
    (synchronize ext json op.connection paths plan op.mode day stamp request).run.wp
      (guarded workRoot plan op t) (Program.onExit (Held t base) fun _ ↦ Finished workRoot t plan op base) s := by
  rw [synchronize]
  refine Program.wp_seq_onExit (wp_prepareRecovery ext json hsuits day hsync h) ?_
  rintro - s ⟨known₁, hknown₁, hclaimed, h⟩
  have hsends : Sends plan op known₁ request.args := by
    rw [hargs]
    exact .bisync fun _ ↦ hclaimed
  refine Program.wp_seq_onExit (wp_runCommand ext json hsuits hsends h) fun output s h ↦ ?_
  have hknown₂ : known₁ ⊆ ⟨.run request, .ok output⟩ :: known₁ := List.subset_cons_self _ _
  have hdone : Succeeded (⟨.run request, .ok output⟩ :: known₁) (requestArguments plan op.mode day stamp) :=
    ⟨request, output, hargs, List.mem_cons_self⟩
  refine Program.wp_seq_onExit (wp_verifyConvergence ext json hsuits (hclaimed.mono hknown₂) hdone h) ?_
  rintro - s ⟨known₃, hknown₃, hconverged, h⟩
  have hhas : HasSynchronized plan op known₃ := ⟨day, stamp, hdone.mono hknown₃⟩
  refine Program.wp_seq_onExit (wp_verifyAnchors ext hsuits hhas h) ?_
  rintro - s ⟨known₄, hknown₄, hanchors, h⟩
  have hestablished : op.mode = .initialSync → Established plan op known₄ := by
    intro hmode
    have hinitial := hdone.mono (List.Subset.trans hknown₃ hknown₄)
    rw [hmode] at hinitial
    refine ⟨h.based (h.record.confirmed hmode), ⟨day, stamp, ?_, hinitial, fun hverify ↦ ?_⟩, fun honedrive ↦ hanchors ?_⟩
    · exact hclaimed.mono (List.Subset.trans hknown₂ (List.Subset.trans hknown₃ hknown₄))
    · obtain ⟨hagain, hcheck⟩ := hconverged hverify hmode
      exact ⟨hagain.mono hknown₄, hcheck.mono hknown₄⟩
    · rw [checksAnchors, honedrive, hmode]
      rfl
  rw [Program.wp_liftM_bind]
  refine Program.wp_mono ?_ (wp_cleanupRetention ext hsuits hrecovery hsync (hhas.mono hknown₄) h)
  intro warnings s h
  refine Program.wp_seq_onExit (wp_confirmSync ext hsuits hsync (hhas.mono hknown₄) hestablished h) ?_
  exact fun _ s hs ↦ hs

theorem wp_previewListing {target : String} (hpreview : op.mode.isPreview = true)
    (hdone : HasSynchronized plan op known) (h : Running workRoot t plan op base known s) :
    (previewListing target plan.filtersFile).run.wp (guarded workRoot plan op t)
      (Program.onExit (Running workRoot t plan op base known) fun _ ↦ Running workRoot t plan op base known) s := by
  rw [previewListing]
  cases hrequest : Preview.lsjsonRequest target plan.filtersFile with
  | none => exact h
  | some request =>
      have hargs : request.args = ["lsjson", target, "--recursive", "--files-only", "--no-mimetype",
          "--filter-from", plan.filtersFile] := by
        rw [Preview.lsjsonRequest] at hrequest
        split_ifs at hrequest
        obtain rfl := Option.some.inj hrequest
        rfl
      have hsends : Sends plan op known request.args := by
        rw [hargs]
        exact .listing hdone hpreview
      dsimp only
      rw [Program.wp_liftM_bind]
      refine wp_run hsuits hsends h fun r s' hs' ↦ ?_
      have hkept := hs'.forget h.based (List.subset_cons_self _ _)
      cases r with
      | error e => exact hkept
      | ok output =>
          dsimp only
          split_ifs
          · exact hkept
          · exact hkept

theorem wp_previewSnapshot {remote local' : String} (hpreview : op.mode.isPreview = true)
    (hdone : HasSynchronized plan op known) (h : Running workRoot t plan op base known s) :
    (previewSnapshot json timestamp remote local' plan.filtersFile).run.wp (guarded workRoot plan op t)
      (Program.onExit (Running workRoot t plan op base known) fun _ ↦ Running workRoot t plan op base known) s := by
  rw [previewSnapshot, Program.wp_liftM_bind]
  refine wp_quiet hsuits.complete trivial h fun cancelled s' _ hs' ↦ ?_
  have h := hs'.forget h.based (List.subset_cons_self _ _)
  refine Program.wp_seq_onExit (J := fun _ ↦ Running workRoot t plan op base known)
    (Program.wp_ensure_onExit (fun _ ↦ h) h) fun _ s h ↦ ?_
  refine Program.wp_seq_onExit (wp_previewListing hsuits hpreview hdone h) fun remote s h ↦ ?_
  refine Program.wp_seq_onExit (wp_previewListing hsuits hpreview hdone h) fun local' s h ↦ ?_
  rw [Program.wp_liftM_bind]
  refine wp_quiet hsuits.complete trivial h fun cancelled s' _ hs' ↦ ?_
  have h := hs'.forget h.based (List.subset_cons_self _ _)
  refine Program.wp_seq_onExit (J := fun _ ↦ Running workRoot t plan op base known)
    (Program.wp_ensure_onExit (fun _ ↦ h) h) fun _ s h ↦ ?_
  exact Program.wp_check_onExit (fun _ _ ↦ h) h

theorem wp_pendingEstimate (hpreview : op.mode.isPreview = true) (hdone : HasSynchronized plan op known)
    (h : Running workRoot t plan op base known s) :
    (pendingEstimate ext json timestamp op.connection plan).run.wp (guarded workRoot plan op t)
      (Program.onExit (Held t base) fun _ ↦ Running workRoot t plan op base known) s := by
  rw [pendingEstimate]
  split_ifs
  · refine Program.wp_seq_onExit (J := fun _ ↦ Running workRoot t plan op base known) ?_ fun _ s hs ↦ hs
    rw [publishEstimate, Program.wp_liftM_bind]
    refine Program.wp_mono ?_ (wp_previewSnapshot json timestamp hsuits hpreview hdone h)
    intro estimate s hestimate
    have h : Running workRoot t plan op base known s := by
      cases estimate with
      | ok => exact hestimate
      | error e => exact hestimate
    rw [Program.wp_liftM_bind]
    refine wp_quiet hsuits.complete trivial h fun cancelled s' _ hs' ↦ ?_
    have h := hs'.forget h.based (List.subset_cons_self _ _)
    refine Program.wp_seq_onExit (J := fun _ ↦ Running workRoot t plan op base known)
      (Program.wp_ensure_onExit (fun _ ↦ h) h.held) fun _ s h ↦ ?_
    rw [Program.wp_liftM_bind]
    refine wp_quiet hsuits.complete trivial h fun now s' _ hs' ↦ ?_
    have h := hs'.forget h.based (List.subset_cons_self _ _)
    refine Program.wp_seq_onExit (J := fun _ ↦ Running workRoot t plan op base known)
      (Program.wp_ensure_onExit (fun _ ↦ h) h.held) fun _ s h ↦ ?_
    have hcount : Asks (IsQuiet workRoot) (writeAtomic ext.fl (previewCountPath plan) (json.toString
        (previewCount op.connection.id (now / nanosPerSecond).toNat estimate.toOption))) :=
      asks_writeAtomic_join ext.fl (by decide) (by decide) (by decide) (by decide) _
    exact Program.wp_seq_onExit (wp_quiet_steps hsuits.complete hcount h) fun _ s hs ↦ hs
  · exact h

/-- A preview changes nothing that it shows, and may be confirmed when it is the first. -/
theorem wp_preview {request : CommandRequest} {day stamp : String} (hpreview : op.mode.isPreview = true)
    (hargs : request.args = globalFlags ++ requestArguments plan op.mode day stamp)
    (h : Running workRoot t plan op base known s) :
    (preview ext json timestamp op.connection plan op.mode request).run.wp (guarded workRoot plan op t)
      (Program.onExit (Held t base) fun _ ↦ Finished workRoot t plan op base) s := by
  have hnot : op.mode ≠ .initialSync := by
    intro hmode
    rw [hmode] at hpreview
    cases hpreview
  have hsends : Sends plan op known request.args := by
    rw [hargs]
    exact .bisync fun hsync ↦ absurd (hsync.symm.trans hpreview) nofun
  rw [preview]
  refine Program.wp_seq_onExit (wp_runCommand ext json hsuits hsends h) fun output s h ↦ ?_
  have hdone : HasSynchronized plan op (⟨.run request, .ok output⟩ :: known) :=
    ⟨day, stamp, request, output, hargs, List.mem_cons_self⟩
  refine Program.wp_seq_onExit (wp_pendingEstimate ext json timestamp hsuits hpreview hdone h) fun pending s h ↦ ?_
  refine Program.wp_seq_onExit (J := fun _ ↦ Finished workRoot t plan op base) ?_ fun _ s hs ↦ hs
  rw [confirmPreview]
  split_ifs with hmode
  · have hpublish : Publishes plan op workRoot (⟨.run request, .ok output⟩ :: known)
        (initialPreviewMarker plan) := by
      refine ⟨fun hsync ↦ ?_, fun _ ↦ ⟨rfl, hmode, hdone⟩, fun howner ↦ ?_⟩
      · exact absurd (hsync.named.symm.trans hsuits.confirmable.named) (by decide)
      · exact absurd (howner.symm.trans hsuits.confirmable.named) (by decide)
    have hne := marker_ne hsuits.complete.named hsuits.confirmable.named
    refine Program.wp_mono_onExit (wp_writeAtomic ext hsuits hpublish h) fun _ s hs ↦ ?_
    obtain ⟨known', hknown, hpublished, hs⟩ := hs.learned hne.symm
    exact .of_running ⟨hdone.mono hknown, fun _ ↦ hpublished, fun hinitial ↦ absurd hinitial hnot⟩ hs
  · exact .of_running ⟨hdone, fun hinitial ↦ absurd hinitial hmode, fun hinitial ↦ absurd hinitial hnot⟩ h

omit hsuits in
theorem asks_prepareScheduledProgress : Asks (IsQuiet workRoot) (prepareScheduledProgress ext.fl plan) := by
  refine Asks.bind (asks_lift ⟨trivial, fun _ ↦ trivial⟩) fun invocation ↦ ?_
  cases invocation with
  | none => exact asks_throw _
  | some invocation =>
      refine Asks.bind (asks_ensure _ _) fun _ ↦ Asks.bind ?_ fun _ ↦ ?_
      · exact asks_writeAtomic_join ext.fl (by decide) (by decide) (by decide) (by decide) _
      · exact asks_writeAtomic_join ext.fl (by decide) (by decide) (by decide) (by decide) _

theorem wp_runTransaction {paths : LocalMirrorPaths}
    (hrecovery : pathsOverlap workRoot paths.recovery = false ∧ IsDirect paths.recovery)
    (h : Running workRoot t plan op base known s) :
    (runTransaction ext json timestamp op.connection paths plan op.mode).run.wp (guarded workRoot plan op t)
      (Program.onExit (Held t base) fun _ ↦ Finished workRoot t plan op base) s := by
  rw [runTransaction, Program.wp_liftM_bind]
  refine wp_quiet hsuits.complete trivial h fun now s' _ hs' ↦ ?_
  have h := hs'.forget h.based (List.subset_cons_self _ _)
  refine Program.wp_seq_onExit (J := fun _ ↦ Running workRoot t plan op base known)
    (Program.wp_check_onExit (fun _ _ ↦ h) h.held) ?_
  rintro ⟨day, stamp⟩ s h
  have hprogress : Asks (IsQuiet workRoot)
      (if op.mode = .scheduled then prepareScheduledProgress ext.fl plan else pure ()) := by
    split_ifs
    · exact asks_prepareScheduledProgress ext
    · exact asks_pure ()
  refine Program.wp_seq_onExit (wp_quiet_steps hsuits.complete hprogress h) fun _ s h ↦ ?_
  refine Program.wp_seq_onExit (Program.wp_reporting_onExit
    (wp_validateRemoteAccessMarker ext hsuits op.mode h)) ?_
  rintro - s ⟨known', -, -, h⟩
  refine Program.wp_seq_onExit (wp_bisyncRequest ext op.mode day stamp h) ?_
  rintro request s ⟨hargs, h⟩
  split_ifs with hpreview
  · exact wp_preview ext json timestamp hsuits hpreview hargs h
  · exact wp_synchronize ext json hsuits hrecovery (by simpa using hpreview) hargs h

end Transactions

/-! ## The record -/

section Record

variable {T : Type} [DecidableEq T] {workRoot : String} {t : T} {plan : RcloneBisyncPlan} {op : Operation}
  {P : Option OfflineCoordinatorState → Prop} {initialized : Bool} {base known : Past} {s : Shared T × Past}

omit [DecidableEq T] in
/-- With the lock alone, the run knows what the record says, but nothing of it. -/
theorem Held.going (h : Held t base s) : ∃ initialized, Going t plan (fun _ ↦ True) initialized base base s :=
  ⟨_, h.holder, trivial, rfl, List.Subset.refl _, h.based⟩

variable (hsuits : Suits workRoot plan op)

include hsuits

theorem wp_newState {state : OfflineOperationState} {post : OfflineCoordinatorState → Shared T × Past → Prop}
    (h : Going t plan P initialized base known s)
    (hpost : ∀ record s', record.connectionId = op.connection.id → record.operation = op.mode.operation →
      record.state = state → Going t plan P initialized base known s' → post record s') :
    (newState op.connection.id op.mode.operation state).wp (guarded workRoot plan op t) post s := by
  rw [newState, Program.wp_bind]
  refine wp_quiet hsuits.complete trivial h fun now s' _ hs' ↦ ?_
  exact hpost _ s' rfl rfl rfl (hs'.forget h.based (List.subset_cons_self _ _))

theorem wp_writeState {state : OfflineCoordinatorState} {post : Except String Unit → Shared T × Past → Prop}
    (hrecords : Records plan op workRoot s.1.record s.2 (statePath workRoot op.connection.id) state)
    (h : Going t plan P initialized base known s)
    (hok : ∀ s', Going t plan (· = some state) initialized base
      (⟨.writeState (statePath workRoot op.connection.id) state, .ok ()⟩ :: known) s' → post (.ok ()) s')
    (herror : ∀ e s', Going t plan P initialized base known s' → post (.error e) s') :
    (writeState (statePath workRoot op.connection.id) state).run.wp (guarded workRoot plan op t) post s := by
  refine Program.wp_ask_recorded.mpr ⟨⟨fun _ ↦ h.holder, hrecords⟩, ?_⟩
  rintro r s' ⟨s₁, hanswers, hrelied⟩
  have hholder : s₁.holder = some t := hanswers.holder.trans h.holder
  have hfiles : s'.files (initialSyncMarker plan) = initialized := by
    rw [hrelied.markers hholder _ (.inl hsuits.complete),
      hanswers.markers _ (.inl hsuits.complete) fun htouches ↦ htouches]
    exact h.marker
  have hrecord := hrelied.record hholder
  rw [hanswers.record] at hrecord
  have hlast : ⟨.writeState (statePath workRoot op.connection.id) state, r⟩ ∈
      s.2 ++ [(⟨.writeState (statePath workRoot op.connection.id) state, r⟩ : (q : HostRequest) × q.Answer)] :=
    List.mem_append_right _ List.mem_cons_self
  cases r with
  | ok =>
      refine hok _ ⟨hrelied.holder hholder, ?_, hfiles, List.subset_cons_of_subset _ h.based, ?_⟩
      · rw [hrecord, recordAfter, if_pos rfl]
      · exact List.cons_subset.mpr ⟨hlast, List.subset_append_of_subset_left _ h.known⟩
  | error e =>
      refine herror e _ ⟨hrelied.holder hholder, ?_, hfiles, h.based,
        List.subset_append_of_subset_left _ h.known⟩
      rw [hrecord]
      exact h.record

/-- What the run has recorded as its beginning. -/
def Claimed (workRoot : String) (op : Operation) (past : Past) : Prop :=
  ∃ running, ⟨.writeState (statePath workRoot op.connection.id) running, .ok ()⟩ ∈ past ∧ running.state = .running

variable (ext : Externals)

/-- The record is claimed only when it says that nothing is running. -/
theorem wp_claimRecord (hconfirmed : op.mode = .initialSync → Confirmed plan known)
    (h : Going t plan P (!op.mode.isInitial) [] known s) :
    (claimRecord ext op.connection op.mode (statePath workRoot op.connection.id)).run.wp
      (guarded workRoot plan op t)
      (Program.onExit (Held t []) fun _ s ↦ ∃ base, Claimed workRoot op base ∧
        Running workRoot t plan op base base s) s := by
  rw [claimRecord]
  refine Program.wp_seq_onExit (J := fun existing ↦ Going t plan (· = existing) (!op.mode.isInitial) [] known)
    ?_ fun existing s h ↦ ?_
  · have hsame : Going t plan (· = s.1.record) (!op.mode.isInitial) [] known s := { h with record := rfl }
    refine wp_quiet hsuits.complete trivial hsame fun r s' hhonest hs' ↦ ?_
    cases r with
    | error e => exact hs'.held
    | ok existing =>
        obtain rfl := hhonest rfl
        exact hs'.forget h.based (List.subset_cons_self _ _)
  refine Program.wp_seq_onExit (J := fun _ s ↦ existing.all (·.state != .running) = true ∧
    Going t plan (· = existing) (!op.mode.isInitial) [] known s)
    (Program.wp_ensure_onExit (fun hfree ↦ ⟨hfree, h⟩) h.held) ?_
  rintro - s ⟨hfree, h⟩
  rw [Program.wp_liftM_bind]
  refine wp_newState hsuits h fun running s' hid hoperation hrunning hs' ↦ ?_
  have hrecords : Records plan op workRoot s'.1.record s'.2 (statePath workRoot op.connection.id) running := by
    refine ⟨rfl, hid, hoperation, fun _ ↦ ?_, fun hends ↦ absurd hrunning hends, fun hsucceeds ↦ ?_⟩
    · rw [hs'.record]
      exact hfree
    · exact absurd (hrunning.symm.trans hsucceeds) nofun
  refine wp_writeState hsuits hrecords hs' (fun s hs ↦ ?_) fun e s hs ↦ hs.held
  refine ⟨⟨.writeState (statePath workRoot op.connection.id) running, .ok ()⟩ :: known,
    ⟨running, List.mem_cons_self, hrunning⟩, hs.holder, ?_, hs.marker, List.Subset.refl _, hs.known⟩
  exact ⟨⟨running, hs.record, hid, hoperation, hrunning, List.mem_cons_self⟩, fun hmode ↦
    List.mem_cons_of_mem _ (hconfirmed hmode)⟩

omit hsuits in
theorem Claimed.mono {past past' : Past} (h : Claimed workRoot op past) (hpast : past ⊆ past') :
    Claimed workRoot op past' := h.imp fun _ hclaimed ↦ ⟨hpast hclaimed.1, hclaimed.2⟩

omit hsuits in
/-- The end states of a run: only a result is a success. -/
theorem finalState_ok (outcome : BisyncOutcome) : finalState (.ok outcome) = .done .succeeded := rfl

theorem wp_finalState {result : Except String BisyncOutcome} {post : OfflineOperationState → Shared T × Past → Prop}
    (h : Going t plan P initialized base known s)
    (hpost : ∀ state s', state ≠ .running → (state = .succeeded → ∃ outcome, result = .ok outcome) →
      Going t plan P initialized base known s' → post state s') :
    (finalState result).wp (guarded workRoot plan op t) post s := by
  cases result with
  | ok outcome => exact hpost _ s nofun (fun _ ↦ ⟨outcome, rfl⟩) h
  | error e =>
      rw [finalState, Program.wp_bind]
      refine wp_quiet hsuits.complete trivial h fun cancelled s' _ hs' ↦ ?_
      have hkept := hs'.forget h.based (List.subset_cons_self _ _)
      cases cancelled with
      | true => exact hpost _ s' nofun nofun hkept
      | false => exact hpost _ s' nofun nofun hkept

/-- A run that is recorded as running records its end, whatever came of it. -/
theorem wp_recorded {transaction : Call BisyncOutcome} (hconfirmed : op.mode = .initialSync → Confirmed plan known)
    (h : Going t plan P (!op.mode.isInitial) [] known s)
    (htransaction : ∀ base s, Running workRoot t plan op base base s →
      transaction.run.wp (guarded workRoot plan op t)
        (Program.onExit (Held t base) fun _ ↦ Finished workRoot t plan op base) s) :
    (recorded ext op.connection op.mode (statePath workRoot op.connection.id) transaction).run.wp
      (guarded workRoot plan op t) (Program.onExit (Held t []) fun _ ↦ Held t []) s := by
  have hforget {base : Past} {s : Shared T × Past} (hs : Held t base s) : Held t [] s :=
    ⟨hs.holder, List.nil_subset _⟩
  rw [recorded]
  refine Program.wp_seq_onExit (wp_claimRecord hsuits ext hconfirmed h) ?_
  rintro - s ⟨base, hclaimed, h⟩
  refine Program.wp_seq_onExit (Program.wp_attempt_onExit (htransaction base s h)) fun result s hresult ↦ ?_
  have hcompleted : ∃ known initialized, Going t plan (fun _ ↦ True) initialized base known s ∧
      ((∃ outcome, result = .ok outcome) → Completed plan op known) := by
    cases result with
    | ok outcome =>
        obtain ⟨known, initialized, hcompleted, hs⟩ := hresult
        exact ⟨known, initialized, { hs with record := trivial }, fun _ ↦ hcompleted⟩
    | error e =>
        have hheld : Held t base s := hresult
        obtain ⟨initialized, hs⟩ : ∃ initialized, Going t plan (fun _ ↦ True) initialized base base s := hheld.going
        exact ⟨base, initialized, hs, nofun⟩
  obtain ⟨known', initialized', hs, hcompleted⟩ := hcompleted
  rw [Program.wp_liftM_bind]
  refine wp_finalState hsuits hs fun ended s hended hsucceeded hs ↦ ?_
  rw [Program.wp_liftM_bind]
  refine wp_newState hsuits hs fun record s hid hoperation hstate hs ↦ ?_
  have hrecords : Records plan op workRoot s.1.record s.2 (statePath workRoot op.connection.id)
      { record with warnings := warningsOf result } := by
    refine ⟨rfl, hid, hoperation, fun hrunning ↦ absurd (hstate.symm.trans hrunning) hended, fun _ ↦ ?_,
      fun hsucceeds ↦ ?_⟩
    · exact hclaimed.mono hs.held.based
    · exact (hcompleted (hsucceeded (hstate.symm.trans hsucceeds))).mono hs.known
  refine Program.wp_seq_onExit (J := fun written ↦ Program.onExit (Held t []) (fun _ ↦ Held t []) written)
    (Program.wp_attempt_onExit ?_) ?_
  · refine wp_writeState hsuits hrecords hs (fun s hs ↦ hforget hs.held) fun e s hs ↦ hforget hs.held
  · intro written s hwritten
    have hheld : Held t [] s := by
      cases written with
      | ok => exact hwritten
      | error e => exact hwritten
    refine Program.wp_seq_onExit (J := fun _ ↦ Held t []) (Program.wp_check_onExit (fun _ _ ↦ hheld) hheld) ?_
    intro outcome s hs
    exact Program.wp_seq_onExit (J := fun _ ↦ Held t []) (Program.wp_check_onExit (fun _ _ ↦ hs) hs) fun _ s hs ↦ hs

variable (json : SerdeJson) (timestamp : Preview.ParseTimestamp)

omit hsuits in
/-- The lock is given back, whatever came of what was done under it. -/
theorem wp_holding {α : Type} {body : Call α} (hbody : body.run.wp (guarded workRoot plan op t)
      (Program.onExit (Held t []) fun _ ↦ Held t []) s) :
    (holding (coordinatorDirectory workRoot op.connection.id) body).run.wp (guarded workRoot plan op t)
      (fun _ _ ↦ True) s := by
  rw [holding, Program.wp_run_bind, Program.run_attempt, Program.wp_bind]
  refine Program.wp_mono ?_ hbody
  intro result s hs
  rw [Program.wp_done, Program.andThen_ok]
  refine Program.wp_liftM_bind _ _ _ s |>.mpr (Program.wp_ask_recorded.mpr ⟨⟨nofun, rfl⟩, fun _ _ _ ↦ ?_⟩)
  cases result with
  | ok => trivial
  | error e => trivial

/-- The lock is asked for first, and given back last. -/
theorem wp_runPlan {shared : Shared T} :
    (runPlan ext json timestamp op.connection op.mode workRoot plan).run.wp (guarded workRoot plan op t)
      (fun _ _ ↦ True) (shared, []) := by
  rw [runPlan, Program.wp_run_bind]
  refine Program.wp_ask_recorded.mpr ⟨⟨nofun, rfl, rfl⟩, ?_⟩
  rintro r s ⟨s₁, hanswers, hrelied⟩
  cases r with
  | error e => trivial
  | ok =>
      have hholder : s₁.holder = some t := by rw [hanswers.holder, holderAfter, if_pos rfl]
      have h : Going t plan (fun _ ↦ True) (s.files (initialSyncMarker plan)) [] []
          (s, [⟨.acquireGuard (coordinatorDirectory workRoot op.connection.id), .ok ()⟩]) :=
        ⟨hrelied.holder hholder, trivial, rfl, List.Subset.refl _, List.nil_subset _⟩
      refine wp_holding (Program.wp_seq_onExit (wp_prepare ext hsuits h) ?_)
      rintro paths s ⟨hrecovery, known, -, hconfirmed, hs⟩
      exact wp_recorded hsuits ext hconfirmed hs fun base s hs ↦
        wp_runTransaction ext json timestamp hsuits hrecovery hs

end Record

/-! ## The plan of a work root -/

section Planned

variable {ext : Externals} {texts : Set String} {workRoot : String} {plan : RcloneBisyncPlan} {op : Operation}

theorem startsWith_join {base path name : String} (hname : Path.IsName name)
    (h : Path.startsWith base path = true) : Path.startsWith base (Path.join path name) = true := by
  rw [Path.startsWith, List.isPrefixOf_iff_prefix] at h ⊢
  exact h.trans (components_prefix_join hname path)

theorem startsWith_refl (path : String) : Path.startsWith path path = true := by
  rw [Path.startsWith, List.isPrefixOf_iff_prefix]

/-- A file in the work directory of a plan is below the work root. -/
theorem isMarker_join {name : String} (hdigests : ext.Digests texts)
    (hdirect : IsDirect workRoot) (hname : Path.IsName name) (id : ConnectionId) (encoded : Option String) :
    IsMarker workRoot name (Path.join (workDirectoryFor ext workRoot id encoded) name) := by
  have hid : Path.IsName id.text := Uuid.isName_text id
  have hroot : Path.IsName "rclone-bisync" := by decide
  have hbelow : Path.startsWith workRoot (workDirectoryFor ext workRoot id encoded) = true ∧
      IsDirect (workDirectoryFor ext workRoot id encoded) := by
    have hbase : Path.startsWith workRoot (bisyncDirectory workRoot id) = true ∧
        IsDirect (bisyncDirectory workRoot id) :=
      ⟨startsWith_join hid (startsWith_join hroot (startsWith_refl workRoot)),
        isDirect_join (isDirect_join hdirect hroot) hid⟩
    cases encoded with
    | none => exact hbase
    | some encoded =>
        have htarget := isName_targetName hdigests encoded
        exact ⟨startsWith_join htarget hbase.1, isDirect_join hbase.2 htarget⟩
  exact ⟨startsWith_join hname hbelow.1, fileName_join hname _, isDirect_join hbelow.2 hname⟩

/-- What has been planned for a work root suits it. -/
theorem suits_of_planned (hdigests : ext.Digests texts) (hdirect : IsDirect workRoot)
    (hrecovery : ∀ options, op.connection.mode = .offlineMirror options → IsDirect options.recoveryDirectory)
    (hplan : rcloneBisyncPlan ext op.connection workRoot = .ok plan) : Suits workRoot plan op := by
  have hplanned := planned hplan
  obtain ⟨encoded, -, hwork⟩ := hplanned.workDirectory
  refine ⟨?_, ?_, hplanned.filtersFile, hplanned.accessMarker, fun options hmode ↦ ⟨?_, hrecovery options hmode⟩⟩
  · rw [initialSyncMarker, hwork]
    exact isMarker_join hdigests hdirect (by decide) _ encoded
  · rw [initialPreviewMarker, hwork]
    exact isMarker_join hdigests hdirect (by decide) _ encoded
  · obtain ⟨options', hmode', hroots, -⟩ := hplanned.options
    obtain rfl := ConnectionMode.offlineMirror.inj (hmode'.symm.trans hmode)
    rw [validateDirectoryRoots] at hroots
    split_ifs at hroots with hworkRoot hoverlap
    simp only [Bool.or_eq_true, not_or, Bool.not_eq_true] at hoverlap
    exact hoverlap.2

end Planned

end CosmicMounter.Coordinator
