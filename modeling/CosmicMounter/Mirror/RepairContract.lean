import CosmicMounter.Interaction.Handler
import CosmicMounter.Interaction.History
import CosmicMounter.Mirror.Repair

/-!
# What Repair guarantees

Repair only stops, disables, inspects and resets units, and in an order that
depends on what it has observed so far.  When all its actions take effect it
recovers every mirror but those whose timer had failed: the failed state of a
timer is never reset.
-/

namespace CosmicMounter.Repair

open Rust Interaction Host

abbrev serviceOf (id : ConnectionId) : UnitName := ⟨id, .service⟩

abbrev timerOf (id : ConnectionId) : UnitName := ⟨id, .timer⟩

def mirrorPlan (id : ConnectionId) : OfflineRepairPlan := ⟨serviceOf id, some (timerOf id)⟩

/-- The coordinated repair of the mirror with this identifier. -/
abbrev repair (fl : Message → String) (id : ConnectionId) (manualOperation : Bool)
    (path : String) : Call Unit :=
  executeCoordinatedOfflineRepair fl (mirrorPlan id) id manualOperation path

/-! ## What the answers have shown -/

abbrev Past := History HostRequest.Answer

/-- The unit's status after one more answer; an unavailable status is not known. -/
def observe (unit : UnitName) (seen : Option UnitStatus) :
    (q : HostRequest) × q.Answer → Option UnitStatus
  | ⟨.systemd .status u, answer⟩ => if u = unit then answer.toOption.join else seen
  | _ => seen

def lastStatus (unit : UnitName) (past : Past) : Option UnitStatus :=
  past.foldl (observe unit) none

/-- The last status of the unit showed it inactive and disabled. -/
def AtRest (unit : UnitName) (past : Past) : Prop :=
  ∃ status, lastStatus unit past = some status ∧ status.active = .inactive ∧
    status.enabled = false

def ManualOperationEnded (past : Past) : Prop := ⟨.cancelAndWait, true⟩ ∈ past

/-- The guard was obtained after everything that was asked of the manager. -/
def guardObtained (past : Past) : Bool :=
  past.foldl (fun seen reply ↦
    match reply with
    | ⟨.acquireGuard _, answer⟩ => answer.isOk
    | ⟨.systemd _ _, _⟩ => false
    | _ => seen) false

/-- What Repair may ask, given the answers so far. -/
def Permitted (id : ConnectionId) (manualOperation : Bool) (past : Past) : HostRequest → Prop
  | .systemd action unit =>
      action ∈ [.stop, .disable, .status, .resetFailed] ∧
      (unit = serviceOf id → AtRest (timerOf id) past ∧
        (manualOperation = true → ManualOperationEnded past)) ∧
      (action = .resetFailed → ∃ status, lastStatus unit past = some status ∧
        status.active = .failed)
  | _ => True

/-- The safety half: every answer of the manager, the control and the lock is possible. -/
structure IsSafe (fl : Message → String) (id : ConnectionId) (manualOperation : Bool)
    (path : String) : Prop where
  requests : ∀ tr rest, Exec anyWorld (repair fl id manualOperation path).run () tr rest () →
    ∀ before m after, tr = before ++ m :: after →
      Permitted id manualOperation (replies before) m.request
  success : ∀ tr, Exec anyWorld (repair fl id manualOperation path).run () tr (.done (.ok ())) () →
    AtRest (timerOf id) (replies tr) ∧ AtRest (serviceOf id) (replies tr) ∧
      guardObtained (replies tr) = true

/-! ## The steps -/

theorem lastStatus_append (unit : UnitName) (past : Past) (reply : (q : HostRequest) × q.Answer) :
    lastStatus unit (past ++ [reply]) = observe unit (lastStatus unit past) reply := by
  simp [lastStatus]

theorem lastStatus_status {unit : UnitName} {past : Past} {status : UnitStatus} :
    lastStatus unit (past ++ [⟨.systemd .status unit, .ok (some status)⟩]) = some status := by
  simp [lastStatus_append, observe, Except.toOption]

theorem serviceOf_ne_timerOf (id : ConnectionId) : serviceOf id ≠ timerOf id := by
  intro h
  cases congrArg UnitName.kind h

/-- What must hold before the service is touched. -/
def Ready (id : ConnectionId) (manualOperation : Bool) (past : Past) : Prop :=
  AtRest (timerOf id) past ∧ (manualOperation = true → ManualOperationEnded past)

theorem AtRest.append {unit : UnitName} {past : Past} {reply : (q : HostRequest) × q.Answer}
    (h : AtRest unit past) (hreply : ∀ seen, observe unit seen reply = seen) :
    AtRest unit (past ++ [reply]) := by
  obtain ⟨status, hstatus, hrest⟩ := h
  exact ⟨status, by rw [lastStatus_append, hreply, hstatus], hrest⟩

theorem Ready.append {id : ConnectionId} {manualOperation : Bool} {past : Past}
    {reply : (q : HostRequest) × q.Answer} (h : Ready id manualOperation past)
    (hreply : ∀ seen, observe (timerOf id) seen reply = seen) :
    Ready id manualOperation (past ++ [reply]) :=
  ⟨h.1.append hreply, fun hmanual ↦ List.mem_append_left _ (h.2 hmanual)⟩

variable {fl : Message → String} {id : ConnectionId} {manualOperation : Bool} {path : String}

def contract (id : ConnectionId) (manualOperation : Bool) :
    Contract HostRequest.Answer (Unit × Past) :=
  .recorded anyWorld fun s ↦ Permitted id manualOperation s.2

theorem wp_offlineRepairAction {action : SystemdAction} {unit : UnitName} {stage : String}
    {post : Option UnitStatus → Unit × Past → Prop} {past : Past}
    (hpermitted : Permitted id manualOperation past (.systemd action unit))
    (hpost : ∀ answer, post answer ((), past ++ [⟨.systemd action unit, .ok answer⟩])) :
    (offlineRepairAction action unit stage).run.wp (contract id manualOperation)
      (Program.onOk post) ((), past) := by
  refine Program.wp_ask_recorded.mpr ⟨hpermitted, ?_⟩
  intro answer _ _
  cases answer with
  | ok status => exact hpost status
  | error e => trivial

theorem wp_offlineRepairStatus {unit : UnitName} {stage : String}
    {post : UnitStatus → Unit × Past → Prop} {past : Past}
    (hpermitted : Permitted id manualOperation past (.systemd .status unit))
    (hpost : ∀ status, post status ((), past ++ [⟨.systemd .status unit, .ok (some status)⟩])) :
    (offlineRepairStatus fl unit stage).run.wp (contract id manualOperation)
      (Program.onOk post) ((), past) := by
  refine Program.wp_bind_onOk (wp_offlineRepairAction hpermitted ?_)
  intro answer
  cases answer with
  | some status => exact hpost status
  | none => trivial

theorem wp_requireRepairedUnit {status : UnitStatus} {role : String} {past : Past}
    {post : Unit → Unit × Past → Prop}
    (hpost : status.active = .inactive → status.enabled = false → post () ((), past)) :
    (requireRepairedUnit fl status role true).run.wp (contract id manualOperation)
      (Program.onOk post) ((), past) := by
  unfold requireRepairedUnit
  split_ifs with hactive henabled
  · trivial
  · trivial
  · push Not at hactive
    exact hpost hactive (by simpa using henabled)

theorem pauseOfflineRepairTrigger_spec (past : Past) :
    (pauseOfflineRepairTrigger fl (mirrorPlan id)).run.wp (contract id manualOperation)
      (Program.onOk fun _ s ↦ AtRest (timerOf id) s.2) ((), past) := by
  have htimer : timerOf id ≠ serviceOf id := (serviceOf_ne_timerOf id).symm
  have hpermitted : ∀ action ∈ [SystemdAction.stop, .disable, .status], ∀ past,
      Permitted id manualOperation past (.systemd action (timerOf id)) := by
    intro action haction past
    refine ⟨by fin_cases haction <;> simp, fun h ↦ absurd h htimer, ?_⟩
    rintro rfl
    simp at haction
  refine Program.wp_bind_onOk (wp_offlineRepairAction (hpermitted _ (by simp) _) fun _ ↦ ?_)
  refine Program.wp_bind_onOk (wp_offlineRepairAction (hpermitted _ (by simp) _) fun _ ↦ ?_)
  refine Program.wp_bind_onOk (wp_offlineRepairStatus (hpermitted _ (by simp) _) fun status ↦ ?_)
  refine wp_requireRepairedUnit fun hactive henabled ↦ ?_
  exact ⟨status, lastStatus_status, hactive, henabled⟩

theorem cancelManualOfflineOperation_spec {past : Past} (h : AtRest (timerOf id) past) :
    (cancelManualOfflineOperation fl manualOperation).run.wp (contract id manualOperation)
      (Program.onOk fun _ s ↦ Ready id manualOperation s.2) ((), past) := by
  cases hmanual : manualOperation with
  | false => exact ⟨h, nofun⟩
  | true =>
      refine Program.wp_ask_recorded.mpr ⟨trivial, ?_⟩
      intro completed _ _
      cases completed with
      | false => trivial
      | true => exact ⟨h.append fun _ ↦ rfl, fun _ ↦ by simp [ManualOperationEnded]⟩

/-- Requests about the service leave what is known of the timer alone. -/
theorem observe_timer_of_service {id : ConnectionId} {action : SystemdAction}
    {answer : Except String (Option UnitStatus)} (seen : Option UnitStatus) :
    observe (timerOf id) seen ⟨.systemd action (serviceOf id), answer⟩ = seen := by
  cases action <;> simp [observe]

theorem Ready.service {past : Past} {action : SystemdAction}
    {answer : Except String (Option UnitStatus)} (h : Ready id manualOperation past) :
    Ready id manualOperation (past ++ [⟨.systemd action (serviceOf id), answer⟩]) :=
  h.append observe_timer_of_service

theorem permitted_service {past : Past} (h : Ready id manualOperation past)
    {action : SystemdAction} (haction : action ∈ [.stop, .disable, .status]) :
    Permitted id manualOperation past (.systemd action (serviceOf id)) := by
  refine ⟨by fin_cases haction <;> simp, fun _ ↦ h, ?_⟩
  rintro rfl
  simp at haction

theorem reconcileFailedService_spec {past : Past} {status : UnitStatus}
    (hready : Ready id manualOperation past)
    (hstatus : lastStatus (serviceOf id) past = some status) :
    (reconcileFailedService fl (serviceOf id) status).run.wp (contract id manualOperation)
      (Program.onOk fun status s ↦ Ready id manualOperation s.2 ∧
        lastStatus (serviceOf id) s.2 = some status) ((), past) := by
  unfold reconcileFailedService
  split_ifs with hfailed
  · have hreset : Permitted id manualOperation past (.systemd .resetFailed (serviceOf id)) :=
      ⟨by simp, fun _ ↦ hready, fun _ ↦ ⟨status, hstatus, hfailed⟩⟩
    refine Program.wp_bind_onOk (wp_offlineRepairAction hreset fun _ ↦ ?_)
    refine wp_offlineRepairStatus (permitted_service hready.service (by simp)) fun status ↦ ?_
    exact ⟨hready.service.service, lastStatus_status⟩
  · exact ⟨hready, hstatus⟩

theorem stopDisableAndReconcileOfflineService_spec {past : Past}
    (hready : Ready id manualOperation past) :
    (stopDisableAndReconcileOfflineService fl (serviceOf id)).run.wp (contract id manualOperation)
      (Program.onOk fun _ s ↦ AtRest (timerOf id) s.2 ∧ AtRest (serviceOf id) s.2)
      ((), past) := by
  refine Program.wp_bind_onOk
    (wp_offlineRepairAction (permitted_service hready (by simp)) fun _ ↦ ?_)
  refine Program.wp_bind_onOk
    (wp_offlineRepairAction (permitted_service hready.service (by simp)) fun _ ↦ ?_)
  refine Program.wp_bind_onOk (wp_offlineRepairStatus
    (permitted_service hready.service.service (by simp)) fun stopped ↦ ?_)
  refine Program.wp_bind_onOk (Program.wp_mono ?_
    (reconcileFailedService_spec hready.service.service.service lastStatus_status))
  rintro (e | status) ⟨_, past'⟩ h
  · trivial
  · obtain ⟨hready', hstatus⟩ := h
    exact wp_requireRepairedUnit fun hactive henabled ↦
      ⟨hready'.1, status, hstatus, hactive, henabled⟩

/-- What is known once the guard is held; the rest of Repair keeps it. -/
def Finished (id : ConnectionId) (past : Past) : Prop :=
  AtRest (timerOf id) past ∧ AtRest (serviceOf id) past ∧ guardObtained past = true

theorem Finished.append {past : Past} {reply : (q : HostRequest) × q.Answer}
    (h : Finished id past) (hreply : ∀ unit seen, observe unit seen reply = seen)
    (hguard : guardObtained (past ++ [reply]) = guardObtained past) :
    Finished id (past ++ [reply]) :=
  ⟨h.1.append (hreply _), h.2.1.append (hreply _), hguard.trans h.2.2⟩

theorem recordRunningRepair_spec {past : Past} (htimer : AtRest (timerOf id) past)
    (hservice : AtRest (serviceOf id) past) :
    (recordRunningRepair fl id path).run.wp (contract id manualOperation)
      (Program.onOk fun _ s ↦ Finished id s.2) ((), past) := by
  have hacquire : (acquireGuardForState fl path).run.wp (contract id manualOperation)
      (Program.onOk fun _ s ↦ Finished id s.2) ((), past) := by
    unfold acquireGuardForState
    cases Path.parent path with
    | none => trivial
    | some directory =>
        refine Program.wp_ask_recorded.mpr ⟨trivial, ?_⟩
        intro answer _ _
        cases answer with
        | error e => trivial
        | ok _ =>
            exact ⟨htimer.append fun _ ↦ rfl, hservice.append fun _ ↦ rfl, by
              simp [guardObtained, Except.isOk, Except.toBool]⟩
  refine Program.wp_bind_onOk ?_
  rw [Program.run_reporting, Program.wp_bind]
  refine Program.wp_mono ?_ hacquire
  rintro (e | directory) ⟨_, past'⟩ hfinished
  · trivial
  -- now, writeState and releaseGuard are asked whatever happens
  refine Program.wp_ask_recorded.mpr ⟨trivial, fun now _ _ ↦ ?_⟩
  refine Program.wp_ask_recorded.mpr ⟨trivial, fun written _ _ ↦ ?_⟩
  have hwritten : Finished id (past' ++ [⟨.now, now⟩] ++ [⟨.writeState path _, written⟩]) :=
    (hfinished.append (fun _ _ ↦ rfl) (by simp [guardObtained])).append (fun _ _ ↦ rfl)
      (by simp [guardObtained])
  refine Program.wp_ask_recorded.mpr ⟨trivial, fun released _ _ ↦ ?_⟩
  cases written with
  | error e => trivial
  | ok _ => exact hwritten.append (fun _ _ ↦ rfl) (by simp [guardObtained])

theorem repair_spec : (repair fl id manualOperation path).run.wp (contract id manualOperation)
    (Program.onOk fun _ s ↦ Finished id s.2) ((), []) := by
  refine Program.wp_bind_onOk (Program.wp_mono ?_ (pauseOfflineRepairTrigger_spec []))
  rintro (e | _) ⟨_, past₁⟩ htimer
  · trivial
  refine Program.wp_bind_onOk (Program.wp_mono ?_ (cancelManualOfflineOperation_spec htimer))
  rintro (e | _) ⟨_, past₂⟩ hready
  · trivial
  refine Program.wp_bind_onOk
    (Program.wp_mono ?_ (stopDisableAndReconcileOfflineService_spec hready))
  rintro (e | _) ⟨_, past₃⟩ hrest
  · trivial
  exact recordRunningRepair_spec hrest.1 hrest.2

theorem isSafe : IsSafe fl id manualOperation path where
  requests tr rest hexec before m after htr := by
    obtain ⟨-, hrequests⟩ := Program.wp_recorded repair_spec hexec
    simpa using hrequests before m after htr
  success tr hexec := by
    obtain ⟨hfinished, -⟩ := Program.wp_recorded repair_spec hexec
    have hpast : Finished id (replies tr) := by simpa using hfinished
    exact hpast

/-! ## Recovery -/

/-- What an action that takes effect does to a unit. -/
def afterAction (action : SystemdAction) (status : UnitStatus) : UnitStatus :=
  match action, status.active with
  | .stop, .active | .stop, .activating => { status with active := .inactive }
  | .disable, _ => { status with enabled := false }
  | .resetFailed, .failed => { status with active := .inactive }
  | _, _ => status

/-- A host on which every action takes effect, the manual operation ends in
time, the lock is free and the record can be written. -/
def obliging (now : Int) : Handler HostRequest.Answer (UnitName → UnitStatus)
  | .systemd action unit, units =>
      (.ok (if action = .status then some (units unit) else none),
        Function.update units unit (afterAction action (units unit)))
  | .cancelAndWait, units => (true, units)
  | .acquireGuard _, units | .writeState _ _, units => (.ok (), units)
  | .releaseGuard _, units | .finish, units => ((), units)
  | .now, units => (now, units)
  | .isFile _, units | .pathExists _, units | .isCancelled, units => (false, units)
  | .symlinkMetadata _, units | .readToString _, units | .readDir _, units =>
      (.error ⟨.notFound, ""⟩, units)
  | .createDirAll _, units | .createNew _ _, units | .rename _ _, units | .removeFile _, units
  | .removeDirAll _, units => (.ok (), units)
  | .writePrivate _ _, units | .verifyMirrorBinding _, units => (.ok (), units)
  | .readState _, units => (.ok none, units)
  | .run _, units => (.error .missingExecutable, units)
  | .resolveDirectory path, units => (.ok path, units)
  | .newUuid, units => (sampleId, units)
  | .invocationId, units => (none, units)

/-- The recovery half, from these states of the units. -/
def Recovers (fl : Message → String) (id : ConnectionId) (manualOperation : Bool) (path : String)
    (units : UnitName → UnitStatus) : Prop :=
  ∀ now, ((repair fl id manualOperation path).run.eval (obliging now) units).1 = .ok ()

section Recovery

variable {now : Int} {units : UnitName → UnitStatus}

theorem eval_offlineRepairAction (action : SystemdAction) (unit : UnitName) (stage : String) :
    (offlineRepairAction action unit stage).run.eval (obliging now) units =
      (.ok (if action = .status then some (units unit) else none),
        Function.update units unit (afterAction action (units unit))) := rfl

theorem eval_offlineRepairStatus (unit : UnitName) (stage : String) :
    (offlineRepairStatus fl unit stage).run.eval (obliging now) units =
      (.ok (units unit), Function.update units unit (units unit)) := rfl

theorem eval_requireRepairedUnit {status : UnitStatus} {role : String}
    (h : status.active = .inactive ∧ status.enabled = false) :
    (requireRepairedUnit fl status role true).run.eval (obliging now) units = (.ok (), units) := by
  simp [requireRepairedUnit, h.1, h.2]

theorem eval_requireRepairedUnit_error {status : UnitStatus} {role : String}
    (h : ¬(status.active = .inactive ∧ status.enabled = false)) :
    ∃ e, (requireRepairedUnit fl status role true).run.eval (obliging now) units =
      (.error e, units) := by
  unfold requireRepairedUnit
  split_ifs with hactive henabled
  · exact ⟨_, rfl⟩
  · exact ⟨_, rfl⟩
  · push Not at hactive
    exact absurd ⟨hactive, by simpa using henabled⟩ h

/-- The timer once it was stopped and disabled. -/
def pausedTimer (id : ConnectionId) (units : UnitName → UnitStatus) : UnitStatus :=
  afterAction .disable (afterAction .stop (units (timerOf id)))

theorem pausedTimer_active (hknown : (units (timerOf id)).active ≠ .unknown) :
    ((pausedTimer id units).active = .inactive ∧ (pausedTimer id units).enabled = false) ↔
      (units (timerOf id)).active ≠ .failed := by
  unfold pausedTimer
  cases hactive : (units (timerOf id)).active <;> simp_all [afterAction]

theorem eval_pauseOfflineRepairTrigger :
    (pauseOfflineRepairTrigger fl (mirrorPlan id)).run.eval (obliging now) units =
      (requireRepairedUnit fl (pausedTimer id units) (fl ⟨"offline-timer-role", []⟩) true).run.eval
        (obliging now) (Function.update units (timerOf id) (pausedTimer id units)) := by
  unfold pauseOfflineRepairTrigger mirrorPlan pausedTimer
  simp only [Program.eval_run_bind, eval_offlineRepairAction, eval_offlineRepairStatus,
    Program.andThen_ok, Function.update_self, Function.update_idem]

/-- The service once it was stopped, disabled and, if need be, reset. -/
def settledService (id : ConnectionId) (units : UnitName → UnitStatus) : UnitStatus :=
  let stopped := afterAction .disable (afterAction .stop (units (serviceOf id)))
  if stopped.active = .failed then afterAction .resetFailed stopped else stopped

theorem settledService_active (hknown : (units (serviceOf id)).active ≠ .unknown) :
    (settledService id units).active = .inactive ∧ (settledService id units).enabled = false := by
  unfold settledService
  cases hactive : (units (serviceOf id)).active <;> simp_all [afterAction]

theorem eval_reconcileFailedService {status : UnitStatus} :
    (reconcileFailedService fl (serviceOf id) status).run.eval (obliging now)
      (Function.update units (serviceOf id) status) =
    (.ok (if status.active = .failed then afterAction .resetFailed status else status),
      Function.update units (serviceOf id)
        (if status.active = .failed then afterAction .resetFailed status else status)) := by
  unfold reconcileFailedService
  by_cases hfailed : status.active = .failed
  · simp only [hfailed, if_true, Program.eval_run_bind, eval_offlineRepairAction,
      eval_offlineRepairStatus, Program.andThen_ok, Function.update_self, Function.update_idem]
  · simp only [hfailed, if_false]
    rfl

theorem eval_stopDisableAndReconcileOfflineService :
    (stopDisableAndReconcileOfflineService fl (serviceOf id)).run.eval (obliging now) units =
      (requireRepairedUnit fl (settledService id units) (fl ⟨"offline-service-role", []⟩) true).run.eval
        (obliging now) (Function.update units (serviceOf id) (settledService id units)) := by
  unfold stopDisableAndReconcileOfflineService settledService
  simp only [Program.eval_run_bind, eval_offlineRepairAction, eval_offlineRepairStatus,
    Program.andThen_ok, Function.update_self, Function.update_idem, eval_reconcileFailedService]

theorem eval_cancelManualOfflineOperation :
    (cancelManualOfflineOperation fl manualOperation).run.eval (obliging now) units =
      (.ok (), units) := by
  cases manualOperation <;> rfl

theorem eval_recordRunningRepair {workRoot : String} :
    (recordRunningRepair fl id (statePath workRoot id)).run.eval (obliging now) units =
      (.ok (), units) := by
  obtain ⟨directory, hparent⟩ :=
    Path.exists_parent_join (by decide : Path.IsName "state.json") (coordinatorDirectory workRoot id)
  have hguard : (acquireGuardForState fl (statePath workRoot id)).run.eval (obliging now) units =
      (.ok directory, units) := by
    unfold acquireGuardForState statePath
    rw [hparent]
    rfl
  unfold recordRunningRepair
  rw [Program.eval_run_bind, Program.run_reporting, Program.eval_bind, hguard]
  rfl

theorem eval_repair {workRoot : String} (htimer : (units (timerOf id)).active ≠ .unknown)
    (hservice : (units (serviceOf id)).active ≠ .unknown) :
    ((repair fl id manualOperation (statePath workRoot id)).run.eval (obliging now) units).1 =
      .ok () ↔ (units (timerOf id)).active ≠ .failed := by
  unfold repair executeCoordinatedOfflineRepair
  rw [Program.eval_run_bind, eval_pauseOfflineRepairTrigger]
  by_cases hfailed : (units (timerOf id)).active = .failed
  · have hstuck := mt (pausedTimer_active htimer).mp (not_not.mpr hfailed)
    obtain ⟨e, herror⟩ := @eval_requireRepairedUnit_error fl now
      (Function.update units (timerOf id) (pausedTimer id units)) _ (fl ⟨"offline-timer-role", []⟩) hstuck
    rw [herror]
    exact iff_of_false nofun (not_not.mpr hfailed)
  · have hservice' : Function.update units (timerOf id) (pausedTimer id units) (serviceOf id) =
        units (serviceOf id) := Function.update_of_ne (serviceOf_ne_timerOf id) _ _
    have hsettled := @settledService_active id
      (Function.update units (timerOf id) (pausedTimer id units)) (hservice'.symm ▸ hservice)
    rw [eval_requireRepairedUnit ((pausedTimer_active htimer).mpr hfailed), Program.andThen_ok,
      Program.eval_run_bind, eval_cancelManualOfflineOperation, Program.andThen_ok,
      Program.eval_run_bind, mirrorPlan, eval_stopDisableAndReconcileOfflineService,
      eval_requireRepairedUnit hsettled, Program.andThen_ok, eval_recordRunningRepair]
    exact iff_of_true rfl hfailed

end Recovery

/-- Repair is safe, and from these states of the units it recovers the mirror. -/
structure MeetsContract (fl : Message → String) (id : ConnectionId) (manualOperation : Bool)
    (path : String) (units : UnitName → UnitStatus) : Prop where
  safe : IsSafe fl id manualOperation path
  recovers : Recovers fl id manualOperation path units

/-- Repair keeps its contract exactly for the mirrors whose timer had not failed. -/
theorem meetsContract_iff (fl : Message → String) (id : ConnectionId) (manualOperation : Bool)
    (workRoot : String) (units : UnitName → UnitStatus)
    (htimer : (units (timerOf id)).active ≠ .unknown)
    (hservice : (units (serviceOf id)).active ≠ .unknown) :
    MeetsContract fl id manualOperation (statePath workRoot id) units ↔
      (units (timerOf id)).active ≠ .failed := by
  constructor
  · intro hmeets
    exact (eval_repair htimer hservice).mp (hmeets.recovers 0)
  · intro hfailed
    exact ⟨isSafe, fun now ↦ (eval_repair htimer hservice).mpr hfailed⟩

/-- An active timer and a failed service. -/
theorem meetsContract_iff_sample :
    MeetsContract Message.key sampleId true (statePath "/state" sampleId)
      (fun unit ↦ if unit.kind = .timer then ⟨.active, true, "", ""⟩ else ⟨.failed, false, "", ""⟩) :=
  (meetsContract_iff Message.key sampleId true "/state" _ (by decide)
    (by decide)).mpr (by decide)

/-- A timer in the failed state is never reset, so its mirror is not recovered. -/
theorem failed_timer_is_not_recovered :
    ¬MeetsContract Message.key sampleId false (statePath "/state" sampleId)
      (fun unit ↦ if unit.kind = .timer then ⟨.failed, true, "", ""⟩
        else ⟨.inactive, false, "", ""⟩) := by
  intro hmeets
  exact (eval_repair (by decide) (by decide)).mp (hmeets.recovers 0) rfl

end CosmicMounter.Repair
