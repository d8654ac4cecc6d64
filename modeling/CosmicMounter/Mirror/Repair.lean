import CosmicMounter.Host.Request

/-!
# Repair of a mirror

The coordinated repair of `app.rs`: pause the timer, end the manual operation,
stop and reconcile the service, and make sure that no other process still owns
the mirror.
-/

namespace CosmicMounter

open Rust Interaction Host

def ActiveState.debugName : ActiveState → String
  | .active => "Active"
  | .activating => "Activating"
  | .inactive => "Inactive"
  | .failed => "Failed"
  | .unknown => "Unknown"

structure OfflineRepairPlan where
  service : UnitName
  timer : Option UnitName
  deriving DecidableEq, Repr

def isRcloneOfflineMirror (connection : Connection) : Bool :=
  connection.offlineEngine == some .rclone

def offlineRepairPlan (fl : Message → String) (connection : Connection) :
    Except String OfflineRepairPlan :=
  if isRcloneOfflineMirror connection then
    .ok ⟨⟨connection.id, .service⟩, some ⟨connection.id, .timer⟩⟩
  else .error (fl ⟨"ui-app-repair-is-only-available-for-supported-offline", []⟩)

namespace Repair

variable (fl : Message → String)

def stage (key : String) : String := fl ⟨key, []⟩

def offlineRepairAction (action : SystemdAction) (unit : UnitName) (stage : String) :
    Call (Option UnitStatus) :=
  Program.reporting (fun error ↦ stage ++ ": " ++ error) (systemd action unit)

def offlineRepairStatus (unit : UnitName) (stage : String) : Call UnitStatus := do
  match ← offlineRepairAction .status unit stage with
  | some status => pure status
  | none => throw (fl ⟨"ui-app-stage-unit-state-is-unavailable", [("stage", stage)]⟩)

def requireRepairedUnit (status : UnitStatus) (role : String) (mustBeDisabled : Bool) :
    Call Unit :=
  if status.active ≠ .inactive then
    throw (fl ⟨"ui-app-role-did-not-become-inactive-observed-value2",
      [("role", role), ("value2", status.active.debugName)]⟩)
  else if mustBeDisabled && status.enabled then
    throw (fl ⟨"ui-app-role-remains-enabled", [("role", role)]⟩)
  else pure ()

def pauseOfflineRepairTrigger (plan : OfflineRepairPlan) : Call Unit := do
  match plan.timer with
  | none => pure ()
  | some timer => do
      let _ ← offlineRepairAction .stop timer
        (stage fl "ui-app-could-not-stop-offline-mirror-timer")
      let _ ← offlineRepairAction .disable timer
        (stage fl "ui-app-could-not-disable-offline-mirror-timer")
      let status ← offlineRepairStatus fl timer
        (stage fl "ui-app-could-not-inspect-paused-offline-mirror-timer")
      requireRepairedUnit fl status (fl ⟨"offline-timer-role", []⟩) true

/-- The service's status, read again after a failed state was reset. -/
def reconcileFailedService (service : UnitName) (status : UnitStatus) : Call UnitStatus := do
  if status.active = .failed then
    let _ ← offlineRepairAction .resetFailed service
      (stage fl "ui-app-could-not-reset-failed-offline-mirror-service")
    offlineRepairStatus fl service
      (stage fl "ui-app-could-not-verify-reset-offline-mirror-service")
  else pure status

def stopDisableAndReconcileOfflineService (service : UnitName) : Call Unit := do
  let _ ← offlineRepairAction .stop service
    (stage fl "ui-app-could-not-stop-offline-mirror-service")
  let _ ← offlineRepairAction .disable service
    (stage fl "ui-app-could-not-disable-offline-mirror-service")
  let stopped ← offlineRepairStatus fl service
    (stage fl "ui-app-could-not-inspect-stopped-offline-mirror-service")
  let status ← reconcileFailedService fl service stopped
  requireRepairedUnit fl status (fl ⟨"offline-service-role", []⟩) true

/-- Cancel the manual operation, if there is one, and wait for its completion. -/
def cancelManualOfflineOperation (manualOperation : Bool) : Call Unit := do
  if manualOperation then
    let completed ← ask .cancelAndWait
    Program.ensure completed (fl ⟨"ui-app-the-manual-offline-mirror-operation-did-not", []⟩)
  else pure ()

/-- `acquire_operation_guard_for_state`: the guard of the record's directory. -/
def acquireGuardForState (path : String) : Call String := do
  match Path.parent path with
  | none => throw (fl ⟨"ui-bisync-coordinator-coordinator-state-has-no-parent-directory", []⟩)
  | some directory => do
      acquireGuard directory
      pure directory

/-- A scheduled worker is stopped with its service, but another process may
still own the operation; its record must not be overwritten. -/
def recordRunningRepair (id : ConnectionId) (statePath : String) : Call Unit := do
  let directory ← Program.reporting
    (fun _ ↦ fl ⟨"ui-app-another-process-still-owns-a-running-offline", []⟩)
    (acquireGuardForState fl statePath)
  holding directory do
    let running ← newState id .repair .running
    writeState statePath running

def executeCoordinatedOfflineRepair (plan : OfflineRepairPlan) (id : ConnectionId)
    (manualOperation : Bool) (statePath : String) : Call Unit := do
  pauseOfflineRepairTrigger fl plan
  cancelManualOfflineOperation fl manualOperation
  stopDisableAndReconcileOfflineService fl plan.service
  recordRunningRepair fl id statePath

end Repair

end CosmicMounter
