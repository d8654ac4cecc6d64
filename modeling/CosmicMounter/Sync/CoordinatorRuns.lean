import CosmicMounter.Interaction.Obligations
import CosmicMounter.Sync.CoordinatorRun

/-!
# All runs of a mirror

The runs of one mirror, begun at any time by any process, each with the
connection as it was saved then.  They are interleaved at every request, and
each may die between two of them, which gives its lock back.
-/

namespace CosmicMounter.Coordinator

open Rust Interaction Host Retention Retargeting

/-! ## What a run has to tell -/

section Told

variable (workRoot : String) (op : Operation)

/-- The run is recorded as running. -/
def Claims (reply : (q : HostRequest) × q.Answer) : Prop :=
  ∃ running, reply = ⟨.writeState (statePath workRoot op.connection.id) running, .ok ()⟩ ∧
    running.state = .running

/-- The record is told how the run ended: a success with its warnings, and
otherwise no success, unless the telling failed. -/
def Tells : Except String BisyncOutcome → (q : HostRequest) × q.Answer → Prop
  | .ok outcome, reply => ∃ ended,
      reply = ⟨.writeState (statePath workRoot op.connection.id) ended, .ok ()⟩ ∧
        ended.state = .succeeded ∧ ended.warnings = outcome.warnings
  | .error _, reply => ∃ ended r,
      reply = ⟨.writeState (statePath workRoot op.connection.id) ended, r⟩ ∧
        (r = .ok () → ended.state = .failed ∨ ended.state = .cancelled)

/-- A run that claimed the record has told it of its end, and one that succeeded has claimed it. -/
structure Told (result : Except String BisyncOutcome) (past : Past) : Prop where
  closed : ¬Pending (Claims workRoot op) (Tells workRoot op result) past
  succeeded : ∀ outcome, result = .ok outcome → ∃ reply ∈ past, Tells workRoot op (.ok outcome) reply

end Told

/-! ## What a run tells -/

section Telling

variable {S : Type} {W : World HostRequest.Answer S} {workRoot : String} {op : Operation}
  {plan : RcloneBisyncPlan} {s : S × Past}

/-- Nothing is recorded as running that was not told of its end. -/
def Settled (workRoot : String) (op : Operation) (s : S × Past) : Prop :=
  ¬Pending (Claims workRoot op) (Tells workRoot op (.error "")) s.2

theorem not_claims_of_isQuiet {q : HostRequest} (h : IsQuiet workRoot q) (r : q.Answer) :
    ¬Claims workRoot op ⟨q, r⟩ := by
  rintro ⟨running, hreply, -⟩
  obtain ⟨rfl, -⟩ := Sigma.mk.inj hreply
  exact h

/-- Quiet steps leave nothing to be told. -/
theorem wp_settled {α : Type} {x : Call α} (hx : Asks (IsQuiet workRoot) x) (hs : Settled workRoot op s) :
    x.run.wp (Program.free W) (Program.onExit (Settled workRoot op) fun _ ↦ Settled workRoot op) s :=
  Program.wp_not_pending_onExit (hx.mono fun _ hq ↦ not_claims_of_isQuiet hq).only hs

theorem asks_validateModeMarkers (fl : Message → String) (mode : BisyncMode) :
    Asks (IsQuiet workRoot) (validateModeMarkers fl mode plan) := by
  have hasked (path : String) : Asks (IsQuiet workRoot) (liftM (ask (.isFile path)) : Call Bool) :=
    asks_lift ⟨trivial, fun _ ↦ trivial⟩
  refine Asks.bind (hasked _) fun initialized ↦ ?_
  cases mode with
  | initialPreview | preview | sync | scheduled => exact asks_ensure _ _
  | initialSync =>
      exact Asks.bind (asks_ensure _ _) fun _ ↦ Asks.bind (hasked _) fun confirmable ↦ asks_ensure _ _

theorem asks_resolve (ext : Externals) (connection : Connection) :
    Asks (IsQuiet workRoot) (LocalMirrorPaths.resolve ext connection) := by
  refine Asks.bind (asks_lift ⟨trivial, fun _ ↦ trivial⟩) fun cancelled ↦ Asks.bind (asks_ensure _ _) fun _ ↦
    Asks.bind (asks_check _) fun paths ↦ ?_
  cases ext.mode with
  | native exe => exact asks_pure paths
  | flatpakSpawnHost =>
      exact Asks.bind (asks_mk ⟨trivial, fun _ ↦ trivial⟩) fun mirror ↦
        Asks.bind (asks_mk ⟨trivial, fun _ ↦ trivial⟩) fun recovery ↦ asks_pure _

theorem asks_prepare (ext : Externals) (hsuits : Suits workRoot plan op) :
    Asks (IsQuiet workRoot) (prepare ext op.connection op.mode plan) := by
  refine Asks.bind (asks_validateModeMarkers ext.fl op.mode) fun _ ↦
    Asks.bind (asks_verifyBinding ext op.connection) fun _ ↦ Asks.bind (asks_resolve ext op.connection) fun paths ↦ ?_
  refine Asks.bind (asks_prepareInputs ext.fl op.mode hsuits.filters hsuits.anchor) fun _ ↦ ?_
  refine Asks.bind ?_ fun _ ↦ asks_pure paths
  split_ifs
  · exact asks_removeIfExists ext.fl (not_isSomeMarker_join (by decide) (by decide) (by decide) _)
  · exact asks_pure ()

theorem wp_settled_claimRecord (ext : Externals) (hs : Settled workRoot op s) :
    (claimRecord ext op.connection op.mode (statePath workRoot op.connection.id)).run.wp (Program.free W)
      (Program.onExit (Settled workRoot op) fun _ _ ↦ True) s := by
  have hread : Asks (IsQuiet workRoot) (readState (statePath workRoot op.connection.id)) :=
    asks_mk ⟨trivial, fun _ ↦ trivial⟩
  have hnew : Asks (IsQuiet workRoot) (liftM (newState op.connection.id op.mode.operation .running) : Call _) :=
    asks_lift ⟨trivial, fun _ ↦ trivial⟩
  refine Program.wp_seq_onExit (wp_settled hread hs) fun existing s hs ↦ ?_
  refine Program.wp_seq_onExit (wp_settled (asks_ensure _ _) hs) fun _ s hs ↦ ?_
  refine Program.wp_seq_onExit (wp_settled hnew hs) fun running s hs ↦ ?_
  refine ⟨trivial, ?_⟩
  rintro r ⟨s', past⟩ ⟨-, rfl⟩
  cases r with
  | ok => trivial
  | error e =>
      intro hpending
      refine hs (pending_of_append hpending ?_)
      rintro ⟨running, hreply, -⟩
      obtain ⟨-, hanswer⟩ := Sigma.mk.inj hreply
      exact absurd (eq_of_heq hanswer) nofun

theorem told_append {result : Except String BisyncOutcome} {past : Past} {reply : (q : HostRequest) × q.Answer}
    (h : Told workRoot op result past) (hreply : ¬Claims workRoot op reply) :
    Told workRoot op result (past ++ [reply]) where
  closed hpending := h.closed (pending_of_append hpending hreply)
  succeeded _ hresult := (h.succeeded _ hresult).imp fun _ htells ↦
    ⟨List.mem_append_left _ htells.1, htells.2⟩

/-- What is told last is told. -/
theorem told_last {result : Except String BisyncOutcome} {past : Past} {reply : (q : HostRequest) × q.Answer}
    (htells : Tells workRoot op result reply) (hreply : ¬Claims workRoot op reply) :
    Told workRoot op result (past ++ [reply]) where
  closed := not_pending_append htells hreply
  succeeded _ hresult := ⟨reply, List.mem_append_right _ List.mem_cons_self, hresult ▸ htells⟩

theorem told_error {e : String} {past : Past} :
    Told workRoot op (.error e) past ↔ ¬Pending (Claims workRoot op) (Tells workRoot op (.error "")) past :=
  ⟨fun h ↦ h.closed, fun h ↦ ⟨h, nofun⟩⟩

/-- The record of the end, with what came of the run and of the telling. -/
theorem wp_told_written {result : Except String BisyncOutcome} {ended : OfflineCoordinatorState}
    (hended : ended.state = .succeeded ∨ ended.state = .failed ∨ ended.state = .cancelled)
    (hok : ∀ outcome, result = .ok outcome → ended.state = .succeeded ∧ ended.warnings = outcome.warnings)
    (herror : ∀ e, result = .error e → ended.state = .failed ∨ ended.state = .cancelled) :
    (do
      let written ← Program.attempt (writeState (statePath workRoot op.connection.id) ended)
      let outcome ← Program.check result
      Program.check written
      return outcome : Call BisyncOutcome).run.wp (Program.free W)
      (fun result s ↦ Told workRoot op result s.2) s := by
  have hnot : ended.state ≠ .running := by
    rcases hended with hended | hended | hended <;> rw [hended] <;> exact nofun
  have hclaims (r : Except String Unit) :
      ¬Claims workRoot op ⟨.writeState (statePath workRoot op.connection.id) ended, r⟩ := by
    rintro ⟨running, hreply, hrunning⟩
    obtain ⟨hquestion, -⟩ := Sigma.mk.inj hreply
    obtain ⟨-, rfl⟩ := HostRequest.writeState.inj hquestion
    exact hnot hrunning
  refine ⟨trivial, ?_⟩
  rintro r ⟨s', past⟩ ⟨-, rfl⟩
  cases result with
  | error e => exact told_last ⟨ended, r, rfl, fun _ ↦ herror e rfl⟩ (hclaims r)
  | ok outcome =>
      cases r with
      | ok => exact told_last ⟨ended, rfl, hok outcome rfl⟩ (hclaims _)
      | error e =>
          have htells : Tells workRoot op (.error e)
              ⟨.writeState (statePath workRoot op.connection.id) ended, .error e⟩ := ⟨ended, .error e, rfl, nofun⟩
          exact told_last htells (hclaims _)

theorem wp_told_ended {result : Except String BisyncOutcome} {ended : OfflineOperationState}
    (hended : ended = .succeeded ∨ ended = .failed ∨ ended = .cancelled)
    (hok : ∀ outcome, result = .ok outcome → ended = .succeeded)
    (herror : ∀ e, result = .error e → ended = .failed ∨ ended = .cancelled) :
    (do
      let record ← newState op.connection.id op.mode.operation ended
      let written ← Program.attempt (writeState (statePath workRoot op.connection.id)
        { record with warnings := warningsOf result })
      let outcome ← Program.check result
      Program.check written
      return outcome : Call BisyncOutcome).run.wp (Program.free W)
      (fun result s ↦ Told workRoot op result s.2) s := by
  refine Program.wp_liftM_bind _ _ _ s |>.mpr ((Program.wp_bind _ _ _ s).mpr ⟨trivial, fun now s' _ ↦ ?_⟩)
  refine wp_told_written hended (fun outcome hresult ↦ ⟨hok outcome hresult, ?_⟩) herror
  rw [hresult]
  rfl

theorem wp_told_recorded (ext : Externals) (transaction : Call BisyncOutcome) (hs : Settled workRoot op s) :
    (recorded ext op.connection op.mode (statePath workRoot op.connection.id) transaction).run.wp
      (Program.free W) (fun result s ↦ Told workRoot op result s.2) s := by
  rw [recorded, Program.wp_run_bind]
  refine Program.wp_mono ?_ (wp_settled_claimRecord ext hs)
  rintro (e | _) s hclaimed
  · exact told_error.mpr hclaimed
  rw [Program.andThen_ok, Program.wp_run_bind, Program.run_attempt, Program.wp_bind]
  refine Program.wp_mono ?_ Program.wp_free
  rintro result s -
  rw [Program.wp_done, Program.andThen_ok]
  cases result with
  | ok outcome =>
      exact Program.wp_liftM_bind _ _ _ s |>.mpr
        (wp_told_ended (.inl rfl) (fun _ _ ↦ rfl) fun _ hresult ↦ by cases hresult)
  | error e =>
      refine Program.wp_liftM_bind _ _ _ s |>.mpr ((Program.wp_bind _ _ _ s).mpr ⟨trivial, fun cancelled s' _ ↦ ?_⟩)
      cases cancelled with
      | true => exact wp_told_ended (.inr (.inr rfl)) (fun _ hresult ↦ by cases hresult) fun _ _ ↦ .inr rfl
      | false => exact wp_told_ended (.inr (.inl rfl)) (fun _ hresult ↦ by cases hresult) fun _ _ ↦ .inl rfl

theorem not_claims_guard {directory : String} :
    (∀ r, ¬Claims workRoot op ⟨.acquireGuard directory, r⟩) ∧ ∀ r, ¬Claims workRoot op ⟨.releaseGuard directory, r⟩ := by
  constructor
  · rintro r ⟨running, hreply, -⟩
    exact absurd (Sigma.mk.inj hreply).1 nofun
  · rintro r ⟨running, hreply, -⟩
    exact absurd (Sigma.mk.inj hreply).1 nofun

/-- A finished run has told the record of its end, if it has claimed it at all. -/
theorem wp_told_runPlan (ext : Externals) (json : SerdeJson) (timestamp : Preview.ParseTimestamp)
    (hsuits : Suits workRoot plan op) {shared : S} :
    (runPlan ext json timestamp op.connection op.mode workRoot plan).run.wp (Program.free W)
      (fun result s ↦ Told workRoot op result s.2) (shared, []) := by
  rw [runPlan, Program.wp_run_bind]
  refine ⟨trivial, ?_⟩
  rintro r ⟨s', past⟩ ⟨-, rfl⟩
  have hsettled : Settled workRoot op (s', [⟨.acquireGuard (coordinatorDirectory workRoot op.connection.id), r⟩]) :=
    fun hpending ↦ not_pending_nil (pending_of_append hpending (not_claims_guard.1 r))
  cases r with
  | error e => exact told_error.mpr hsettled
  | ok =>
      refine (Program.wp_run_bind _ _ _ _).mpr ?_
      rw [Program.run_attempt, Program.wp_bind]
      have hbody : (do
          let paths ← prepare ext op.connection op.mode plan
          recorded ext op.connection op.mode (statePath workRoot op.connection.id)
            (runTransaction ext json timestamp op.connection paths plan op.mode)).run.wp (Program.free W)
          (fun result s ↦ Told workRoot op result s.2)
          (s', [⟨.acquireGuard (coordinatorDirectory workRoot op.connection.id), .ok ()⟩]) := by
        rw [Program.wp_run_bind]
        refine Program.wp_mono ?_ (wp_settled (asks_prepare ext hsuits) hsettled)
        rintro (e | paths) s hs
        · exact told_error.mpr hs
        · exact wp_told_recorded ext _ hs
      refine Program.wp_mono ?_ hbody
      rintro result s htold
      rw [Program.wp_done, Program.andThen_ok]
      refine Program.wp_liftM_bind _ _ _ s |>.mpr ⟨trivial, ?_⟩
      rintro r ⟨s', past⟩ ⟨-, rfl⟩
      exact told_append htold (not_claims_guard.2 r)

end Telling

/-! ## The system -/

/-- The runs of one mirror, each with the connection as it was saved when it began. -/
structure Calls (ext : Externals) (workRoot : String) (id : ConnectionId) (T : Type) where
  op : T → Operation
  plan : T → RcloneBisyncPlan
  sameId : ∀ t, (op t).connection.id = id
  planned : ∀ t, rcloneBisyncPlan ext (op t).connection workRoot = .ok (plan t)
  direct : ∀ t options, (op t).connection.mode = .offlineMirror options → IsDirect options.recoveryDirectory

section System

variable {T : Type} [DecidableEq T] {ext : Externals} {texts : Set String} {workRoot : String} {id : ConnectionId}

/-- A run may begin at any time, and leave at any time: its lock is given back by the system. -/
def coordinated (json : SerdeJson) (timestamp : Preview.ParseTimestamp) (calls : Calls ext workRoot id T) :
    Threads T HostRequest.Answer (Shared T) (Except String BisyncOutcome) where
  starts t s p s' := s' = s ∧
    p = (run ext json timestamp (calls.op t).connection (calls.op t).mode workRoot).run
  world t := Answers workRoot id t
  leaves t _ s s' := s' = { s with holder := if s.holder = some t then none else s.holder }

variable (calls : Calls ext workRoot id T)

abbrev Calls.permitted (t : T) : Shared T × Past → HostRequest → Prop :=
  Permitted (calls.plan t) (calls.op t) workRoot t

abbrev Calls.told (t : T) (result : Except String BisyncOutcome) (s : Shared T × Past) : Prop :=
  Told workRoot (calls.op t) result s.2

variable {calls} (json : SerdeJson) (timestamp : Preview.ParseTimestamp)

omit [DecidableEq T] in
theorem Calls.suits (hdigests : ext.Digests texts) (hroot : IsDirect workRoot) (t : T) :
    Suits workRoot (calls.plan t) (calls.op t) :=
  suits_of_planned hdigests hroot (calls.direct t) (calls.planned t)

/-- A run keeps to its contract, and tells what came of it. -/
theorem wp_call (hdigests : ext.Digests texts) (hroot : IsDirect workRoot) (t : T) (shared : Shared T) :
    (run ext json timestamp (calls.op t).connection (calls.op t).mode workRoot).run.wp
      (guarded workRoot (calls.plan t) (calls.op t) t) (calls.told t) (shared, []) := by
  have hsuits := calls.suits hdigests hroot t
  rw [run, Program.wp_run_bind]
  cases validateConnection (calls.op t).connection with
  | error e => exact told_error.mpr not_pending_nil
  | ok =>
      refine (Program.wp_run_bind _ _ _ _).mpr ?_
      rw [calls.planned t]
      change (runPlan ext json timestamp (calls.op t).connection (calls.op t).mode workRoot (calls.plan t)).run.wp
        (guarded workRoot (calls.plan t) (calls.op t) t) (calls.told t) (shared, [])
      exact Program.wp_mono (fun _ _ h ↦ h.2) (Program.wp_and_free
        (wp_runPlan hsuits ext json timestamp) (wp_told_runPlan ext json timestamp hsuits))

/-! ## What the runs may rely on -/

omit [DecidableEq T] in
theorem Relied.refl (t : T) (s : Shared T) : Relied workRoot t s s :=
  ⟨fun h ↦ h, fun _ ↦ rfl, fun _ _ _ ↦ rfl, fun _ _ h ↦ h⟩

omit [DecidableEq T] in
theorem Relied.trans {t : T} {s s' s'' : Shared T} (h : Relied workRoot t s s') (h' : Relied workRoot t s' s'') :
    Relied workRoot t s s'' where
  holder hholder := h'.holder (h.holder hholder)
  record hholder := (h'.record (h.holder hholder)).trans (h.record hholder)
  markers hholder path hmarker := (h'.markers (h.holder hholder) path hmarker).trans (h.markers hholder path hmarker)
  complete path hmarker hfile := h'.complete path hmarker (h.complete path hmarker hfile)

variable {plan : RcloneBisyncPlan} {op : Operation} {t : T} {s s' : Shared T} {past : Past} {q : HostRequest}
  {r : q.Answer}

omit [DecidableEq T] in
/-- What asks without touching the lock does so with the lock. -/
theorem Permitted.holder_of_touches (hpermitted : Permitted plan op workRoot t (s, past) q) {path : String}
    (htouches : Touches q r path) : s.holder = some t := by
  refine hpermitted.locked ?_
  cases q <;> first | rfl | exact htouches.elim

/-- A complete mirror stays complete. -/
theorem Permitted.complete (hpermitted : Permitted plan op workRoot t (s, past) q)
    (hanswers : Answers workRoot id t s q r s') {path : String} (hmarker : IsMarker workRoot syncMarkerName path)
    (hfile : s.files path = true) : s'.files path = true := by
  by_cases htouches : Touches q r path
  · have hmay := hpermitted.mayAsk
    cases q with
    | createNew target content | writePrivate target content =>
        obtain rfl : path = target := htouches
        exact absurd (.inl hmarker) hmay
    | rename source target =>
        cases r with
        | error e => exact htouches.elim
        | ok =>
            rcases htouches with rfl | rfl
            · exact absurd (.inl hmarker) hmay.1
            · exact hanswers.leaves path true (.inl hmarker) ⟨rfl, rfl⟩
    | removeFile target =>
        cases r with
        | error e => exact htouches.elim
        | ok =>
            obtain rfl : path = target := htouches
            exact absurd hmarker hmay.1
    | removeDirAll directory =>
        obtain ⟨hdirect, hapart⟩ := hmay.2.2 path (.inl hmarker)
        exact absurd ((htouches hdirect hmarker.direct).symm.trans hapart) nofun
    | _ => exact htouches.elim
  · rw [hanswers.markers path (.inl hmarker) htouches]
    exact hfile

/-- What one run may ask is what the others rely on. -/
theorem Permitted.relied (hpermitted : Permitted plan op workRoot t (s, past) q)
    (hanswers : Answers workRoot id t s q r s') {other : T} (hother : other ≠ t) : Relied workRoot other s s' where
  holder hholder := by
    rw [hanswers.holder]
    have hhonest := hanswers.honest
    cases q with
    | acquireGuard directory =>
        cases r with
        | error e => exact hholder
        | ok =>
            rw [holderAfter]
            split_ifs with hdirectory
            · rw [hhonest hdirectory] at hholder
              cases hholder
            · exact hholder
    | releaseGuard directory =>
        rw [holderAfter, if_neg]
        · exact hholder
        · rintro ⟨-, hown⟩
          exact hother (Option.some.inj (hholder.symm.trans hown))
    | _ => exact hholder
  record hholder := by
    rw [hanswers.record]
    cases q with
    | writeState path state =>
        have hown := hpermitted.locked rfl
        exact absurd (Option.some.inj (hholder.symm.trans hown)) hother
    | _ => rfl
  markers hholder path hmarker := by
    refine hanswers.markers path hmarker fun htouches ↦ ?_
    exact hother (Option.some.inj (hholder.symm.trans (hpermitted.holder_of_touches htouches)))
  complete path hmarker hfile := hpermitted.complete hanswers hmarker hfile

/-- The runs of a mirror keep to their contracts, side by side. -/
theorem governed (hdigests : ext.Digests texts) (hroot : IsDirect workRoot) :
    (coordinated json timestamp calls).Governed calls.permitted (Relied workRoot) calls.told where
  refl t s := .refl t s
  trans t s s' s'' h h' := h.trans h'
  start t s p s' hstart := by
    obtain ⟨rfl, rfl⟩ := hstart
    intro s'' hrelied
    have hcontract : guarded workRoot (calls.plan t) (calls.op t) t =
        (coordinated json timestamp calls).contract calls.permitted (Relied workRoot) t := by
      rw [guarded, calls.sameId t]
      rfl
    rw [← hcontract]
    exact wp_call json timestamp hdigests hroot t s''
  startRelied t s p s' hstart other hother := by
    obtain ⟨rfl, -⟩ := hstart
    exact .refl other s'
  askRelied t s past q r s' hpermitted hanswers other hother := hpermitted.relied hanswers hother
  leaveRelied t p s s' hleave other hother := by
    obtain rfl := hleave
    refine ⟨fun hholder ↦ ?_, fun _ ↦ rfl, fun _ _ _ ↦ rfl, fun _ _ h ↦ h⟩
    rw [if_neg]
    · exact hholder
    · intro hown
      exact hother (Option.some.inj (hholder.symm.trans hown))

end System

/-! ## A mirror from its preview to its synchronization -/

def sampleWork : String := "/home/u/state"

def sampleCloud : Connection := mirrorAt "/home/u/Cloud"

def sampleState : String := "/home/u/state/rclone-bisync/6f1c2d3e-0a1b-4c2d-8e3f-0123456789ab"

def sampleRecovery : String := "engr:.cosmic-mounter-recovery/6f1c2d3e-0a1b-4c2d-8e3f-0123456789ab"

def sampleFilters : String := "/home/u/state/rclone-bisync/6f1c2d3e-0a1b-4c2d-8e3f-0123456789ab/filters.txt"

def sampleService : ServiceSpec where
  connectionId := sampleId
  description := "ui-sync-cloud-mounter-sync-value1"
  executable := "/usr/bin/rclone"
  arguments := ["bisync", "engr:", "/home/u/Cloud", "--workdir", sampleState, "--backup-dir1", sampleRecovery,
    "--backup-dir2", "/home/u/recovery", "--resilient", "--recover", "--max-lock", "2m", "--conflict-resolve", "none",
    "--conflict-loser", "pathname", "--conflict-suffix", "conflict", "--create-empty-src-dirs", "--compare",
    "size,modtime", "--max-delete", "50", "--filters-file", sampleFilters, "--log-level", "INFO"]
  preStartCondition := some ⟨"/usr/bin/flatpak", ["run", "--command=cosmic-ext-applet-mounter",
    "io.github.uutzinger.cosmic-ext-applet-mounter", "--require-offline-readiness", sampleId.text]⟩
  restartOnFailure := false
  skipOnMetered := true

def sampleBisync : RcloneBisyncPlan where
  connectionId := sampleId
  path1Remote := "engr:"
  path2Local := "/home/u/Cloud"
  workDirectory := sampleState
  recoveryDirectory := "/home/u/recovery"
  remoteRecoveryPath := sampleRecovery
  filtersFile := sampleFilters
  preflightCommand := none
  verifyAfterSync := false
  accessMarkerName := none
  service := sampleService
  timer := ⟨sampleId, "ui-sync-cloud-mounter-sync-schedule-value1", 900000000000, true⟩

theorem sampleBisync_planned : rcloneBisyncPlan sampleExternals sampleCloud sampleWork = .ok sampleBisync := by
  decide +kernel

theorem sampleCloud_direct (options : OfflineMirrorConfig) (h : sampleCloud.mode = .offlineMirror options) :
    IsDirect options.recoveryDirectory := by
  obtain rfl := ConnectionMode.offlineMirror.inj h
  decide

/-- One run in each mode. -/
def sampleCalls : Calls sampleExternals sampleWork sampleId BisyncMode where
  op mode := ⟨sampleCloud, mode⟩
  plan _ := sampleBisync
  sameId _ := rfl
  planned _ := sampleBisync_planned
  direct _ := sampleCloud_direct

/-- The remote holds nothing, and every command succeeds. -/
def sampleAnswer (s : Shared BisyncMode) : (q : HostRequest) → q.Answer
  | .isFile path | .pathExists path => s.files path
  | .symlinkMetadata _ | .readToString _ => .error ⟨.notFound, "not found"⟩
  | .createDirAll _ | .createNew _ _ | .rename _ _ | .removeFile _ | .removeDirAll _ => .ok ()
  | .writePrivate _ _ | .writeState _ _ | .verifyMirrorBinding _ => .ok ()
  | .readDir _ => .ok []
  | .acquireGuard _ => if s.holder = none then .ok () else .error "busy"
  | .releaseGuard _ | .finish => ()
  | .readState _ => .ok s.record
  | .run _ => .ok (plainOutput "")
  | .resolveDirectory _ => .ok "/run/user/1000/doc"
  | .systemd _ _ => .ok none
  | .cancelAndWait | .isCancelled => false
  | .now => 0
  | .newUuid => sampleId
  | .invocationId => none

def sampleFiles (files : String → Bool) : HostRequest → String → Bool
  | .rename _ target => Function.update files target true
  | .removeFile target => Function.update files target false
  | _ => files

def sampleRemote (mode : BisyncMode) : Handler HostRequest.Answer (Shared BisyncMode) := fun q s ↦
  (sampleAnswer s q, ⟨sampleFiles s.files q, holderAfter sampleWork sampleId mode s q (sampleAnswer s q),
    recordAfter sampleWork sampleId s q (sampleAnswer s q)⟩)

def sampleStart : Shared BisyncMode := ⟨fun _ ↦ false, none, none⟩

def sampleRun (mode : BisyncMode) : Program HostRequest.Answer (Except String BisyncOutcome) :=
  (runPlan sampleExternals Diagnostic.sampleJson (fun _ ↦ none) sampleCloud mode sampleWork sampleBisync).run

theorem sampleRun_eq (mode : BisyncMode) :
    (run sampleExternals Diagnostic.sampleJson (fun _ ↦ none) sampleCloud mode sampleWork).run = sampleRun mode := by
  rw [run, sampleBisync_planned]
  rfl

theorem sampleRemote_answers (mode : BisyncMode) (q : HostRequest) (s : Shared BisyncMode) :
    Answers sampleWork sampleId mode s q (sampleRemote mode q s).1 (sampleRemote mode q s).2 := by
  refine ⟨?_, rfl, rfl, fun path _ htouches ↦ ?_, fun path here _ hleaves ↦ ?_⟩
  · cases q with
    | acquireGuard directory =>
        change Honest sampleWork sampleId s (.acquireGuard directory)
          (if s.holder = none then (.ok () : Except String Unit) else .error "busy")
        split_ifs with hfree
        · exact fun _ ↦ hfree
        · trivial
    | readState path => exact fun _ ↦ rfl
    | resolveDirectory path => exact ⟨by decide, by decide⟩
    | isFile => rfl
    | _ => trivial
  · cases q with
    | rename source target =>
        exact Function.update_of_ne (fun heq ↦ htouches (.inr heq)) _ _
    | removeFile target => exact Function.update_of_ne (fun heq ↦ htouches heq) _ _
    | _ => rfl
  · cases q with
    | rename source target =>
        obtain ⟨rfl, rfl⟩ := hleaves
        exact Function.update_self ..
    | removeFile target =>
        obtain ⟨rfl, rfl⟩ := hleaves
        exact Function.update_self ..
    | _ => exact hleaves.elim

abbrev sampleSystem : Threads BisyncMode HostRequest.Answer (Shared BisyncMode) (Except String BisyncOutcome) :=
  coordinated Diagnostic.sampleJson (fun _ ↦ none) sampleCalls

/-- The shared state when the runs of these modes have left, one after another. -/
def sampleAfter : List BisyncMode → Shared BisyncMode
  | [] => sampleStart
  | mode :: earlier =>
      let s := ((sampleRun mode).eval (sampleRemote mode) (sampleAfter earlier)).2
      { s with holder := if s.holder = some mode then none else s.holder }

theorem sample_runs (modes : List BisyncMode) :
    ∃ s tr, sampleSystem.tracked.Run ⟨sampleStart, fun _ ↦ []⟩ s (fun _ ↦ none) tr ∧ s.shared = sampleAfter modes ∧
      ∀ mode earlier, modes = mode :: earlier → ∀ m ∈ (sampleRun mode).trace (sampleRemote mode) (sampleAfter earlier),
        ∃ e ∈ tr, e.thread = mode ∧ e.request = m.request := by
  induction modes with
  | nil => exact ⟨_, _, .init, rfl, nofun⟩
  | cons mode earlier ih =>
      obtain ⟨s, tr, hrun, hshared, -⟩ := ih
      have hstart : sampleSystem.tracked.starts mode s (sampleRun mode) ⟨s.shared, Function.update s.past mode []⟩ :=
        ⟨⟨rfl, (sampleRun_eq mode).symm⟩, rfl⟩
      obtain ⟨s', tr', hrun, hafter, hevents⟩ := Threads.Run.eval (.start hrun rfl hstart)
        (Function.update_self ..) (sampleRemote_answers mode)
      have hleave : sampleSystem.tracked.leaves mode (.done ((sampleRun mode).eval (sampleRemote mode) s.shared).1) s'
          ⟨{ s'.shared with holder := if s'.shared.holder = some mode then none else s'.shared.holder }, s'.past⟩ :=
        ⟨rfl, rfl⟩
      have hleft := Threads.Run.leave hrun (Function.update_self ..) hleave
      rw [Function.update_idem, Function.update_idem, Function.update_eq_self] at hleft
      rw [hshared] at hafter hevents
      refine ⟨_, _, hleft, ?_, ?_⟩
      · rw [hafter]
        rfl
      · rintro _ _ ⟨⟩ m hm
        exact (hevents m hm).imp fun _ he ↦ ⟨List.mem_append_right _ he.1, he.2⟩

/-- The first preview sends a command. -/
theorem sample_previews : ∃ s tr, sampleSystem.tracked.Run ⟨sampleStart, fun _ ↦ []⟩ s (fun _ ↦ none) tr ∧
    ∃ e ∈ tr, e.thread = .initialPreview ∧ ∃ request, e.request = .run request := by
  obtain ⟨s, tr, hrun, -, hevents⟩ := sample_runs [.initialPreview]
  have hany : (((sampleRun .initialPreview).trace (sampleRemote .initialPreview) sampleStart).any fun m ↦
      match m.request with
      | .run _ => true
      | _ => false) = true := by decide +kernel
  obtain ⟨m, hm, hrequest⟩ := List.any_eq_true.mp hany
  obtain ⟨e, he, hthread, hsame⟩ := hevents _ _ rfl m hm
  refine ⟨s, tr, hrun, e, he, hthread, ?_⟩
  rw [hsame]
  cases hm : m.request with
  | run request => exact ⟨request, rfl⟩
  | _ => rw [hm] at hrequest; cases hrequest

end CosmicMounter.Coordinator
